import SwaggerClient.CommandLine.Run
import SwaggerClient.Proofs.Api.Report
import SwaggerClient.Proofs.Files.Tree
import SwaggerClient.Proofs.Model.Termination
import SwaggerClient.Proofs.Traversal

namespace SwaggerClient

variable {σ : Type} [FileAccess (StateM σ)]

namespace Outcome

theorem exitCode_error {e : RunError} (h : e ≠ .synthesis .endless) : exitCode (.error e) = some 1 := by
  unfold exitCode
  split
  · next heq => cases heq
  · next heq => cases heq
  · next heq => exact absurd (Except.error.inj heq) h
  · rfl

theorem exitCode_eq_zero {x : Except RunError Outcome} (h : exitCode x = some 0) :
    ∃ paths, x = .ok (.written paths) := by
  unfold exitCode at h
  split at h
  · exact ⟨_, rfl⟩
  · cases h
  · cases h
  · cases h

end Outcome

namespace Configuration

/-- The document of an API can be loaded, and this is what a client is made of. -/
def Loads (files : σ) (api : ConfiguredApi) (source : ApiSource) : Prop :=
  ∃ text document, textAt files api.spec = .ok text ∧
    Document.ofFileText api.spec text = .ok document ∧
      source = ⟨document, api.basePath, api.className⟩

/-- The run makes a client for an API. -/
def Makes (c : Configuration) (files : σ) (entry : String × ConfiguredApi) (api : Api) : Prop :=
  ∃ source, Loads files entry.2 source ∧ Api.synthesize entry.1 source c.target c.options = .ok api

/-- An API is not fit to be written. -/
inductive Fails (c : Configuration) (files : σ) (entry : String × ConfiguredApi) : Prop where
  | unloadable (h : ∀ source, ¬Loads files entry.2 source)
  | unsynthesizable {source : ApiSource} {e : SynthesisError} (h : Loads files entry.2 source)
      (he : Api.synthesize entry.1 source c.target c.options = .error e)
  | faulty {api : Api} (h : Makes c files entry api) (hp : api.verify.problems ≠ [])

/-- The schemas of an API contain each other so deeply that the run is broken off. -/
def Endless (c : Configuration) (files : σ) (entry : String × ConfiguredApi) : Prop :=
  ∃ source, Loads files entry.2 source ∧
    Api.synthesize entry.1 source c.target c.options = .error .endless

/-- The run comes to an end by itself: it finds no document for some API, or no API breaks it off. -/
def Ends (c : Configuration) (files : σ) : Prop :=
  (∃ entry ∈ c.apis, ∀ source, ¬Loads files entry.2 source) ∨ ∀ entry ∈ c.apis, ¬c.Endless files entry

/-- The document of an API, as it is loaded from the files. -/
def source (files : σ) (entry : String × ConfiguredApi) : Except RunError (String × ApiSource) := do
  let text ← (textAt files entry.2.spec).mapError (RunError.unreadable entry.2.spec)
  let document ← (Document.ofFileText entry.2.spec text).mapError (RunError.badDocument entry.2.spec)
  return (entry.1, ⟨document, entry.2.basePath, entry.2.className⟩)

/-- The clients of all APIs, as they are made from the files. -/
def clients (c : Configuration) (files : σ) : Except RunError (List Api) := do
  let sources ← c.apis.mapM (source files)
  (sources.mapM fun s => Api.synthesize s.1 s.2 c.target c.options).mapError RunError.synthesis

variable {c : Configuration} {files left : σ}

theorem source_eq_ok {entry : String × ConfiguredApi} {s : String × ApiSource} :
    source files entry = .ok s ↔ s.1 = entry.1 ∧ Loads files entry.2 s.2 := by
  simp only [source, bind_eq_ok, mapError_eq_ok]
  constructor
  · rintro ⟨text, htext, document, hdocument, h⟩
    obtain rfl := Except.ok.inj h
    exact ⟨rfl, text, document, htext, hdocument, rfl⟩
  · rintro ⟨hname, text, document, htext, hdocument, hs⟩
    refine ⟨text, htext, document, hdocument, congrArg Except.ok ?_⟩
    exact Prod.ext hname.symm hs.symm

theorem clients_eq_ok {apis : List Api} :
    c.clients files = .ok apis ↔ List.Forall₂ (Makes c files) c.apis apis := by
  simp only [clients, bind_eq_ok, mapError_eq_ok, mapM_eq_ok]
  have hmakes (entry : String × ConfiguredApi) (api : Api) :
      (∃ s, source files entry = .ok s ∧ Api.synthesize s.1 s.2 c.target c.options = .ok api) ↔
        Makes c files entry api := by
    simp only [source_eq_ok]
    constructor
    · rintro ⟨⟨name, s⟩, ⟨rfl, hs⟩, hmade⟩
      exact ⟨s, hs, hmade⟩
    · rintro ⟨s, hs, hmade⟩
      exact ⟨(entry.1, s), ⟨rfl, hs⟩, hmade⟩
  simp only [exists_forall₂_iff, hmakes]

theorem Loads.unique {api : ConfiguredApi} {s s' : ApiSource} (h : Loads files api s)
    (h' : Loads files api s') : s = s' := by
  obtain ⟨text, document, htext, hdocument, rfl⟩ := h
  obtain ⟨text', document', htext', hdocument', rfl⟩ := h'
  obtain rfl := Except.ok.inj (htext.symm.trans htext')
  obtain rfl := Except.ok.inj (hdocument.symm.trans hdocument')
  rfl

theorem Makes.unique {entry : String × ConfiguredApi} {api api' : Api} (h : Makes c files entry api)
    (h' : Makes c files entry api') : api = api' := by
  obtain ⟨source, hsource, hmade⟩ := h
  obtain ⟨source', hsource', hmade'⟩ := h'
  obtain rfl := hsource.unique hsource'
  exact Except.ok.inj (hmade.symm.trans hmade')

theorem source_ne_endless {entry : String × ConfiguredApi} :
    source files entry ≠ .error (.synthesis .endless) := by
  intro h
  rcases bind_eq_error.mp h with htext | ⟨_, _, h⟩
  · obtain ⟨_, _, e⟩ := mapError_eq_error.mp htext
    cases e
  · rcases bind_eq_error.mp h with hdocument | ⟨_, _, h⟩
    · obtain ⟨_, _, e⟩ := mapError_eq_error.mp hdocument
      cases e
    · cases h

/-- A run is broken off only when every document is loaded, and by an API. -/
theorem not_ends_of_clients (h : c.clients files = .error (.synthesis .endless)) : ¬c.Ends files := by
  rcases bind_eq_error.mp h with hsources | ⟨sources, hsources, hmade⟩
  · obtain ⟨entry, _, hentry⟩ := mapM_eq_error hsources
    exact absurd hentry source_ne_endless
  · obtain ⟨cause, hcause, e⟩ := mapError_eq_error.mp hmade
    obtain rfl := RunError.synthesis.inj e
    obtain ⟨s, hs, hendless⟩ := mapM_eq_error hcause
    obtain ⟨entry, hentry, hsource⟩ := mapM_comes hsources hs
    obtain ⟨hname, hloads⟩ := source_eq_ok.mp hsource
    rw [hname] at hendless
    rintro (⟨other, hother, hnone⟩ | hnone)
    · obtain ⟨_, _, hfound⟩ := mapM_mem hsources hother
      exact hnone _ (source_eq_ok.mp hfound).2
    · exact hnone entry hentry ⟨s.2, hloads, hendless⟩

/-- The second of two APIs breaks the run off although the first one has its client. -/
theorem clients_of_pair {first second : String × ConfiguredApi} {api : Api} (hc : c.apis = [first, second])
    (hmakes : c.Makes files first api) (hendless : c.Endless files second) :
    c.clients files = .error (.synthesis .endless) := by
  obtain ⟨s, hs, hmade⟩ := hmakes
  obtain ⟨s', hs', hbroken⟩ := hendless
  have hsources : c.apis.mapM (source files) = .ok [(first.1, s), (second.1, s')] := by
    rw [hc]
    exact mapM_eq_ok.mpr (.cons (source_eq_ok.mpr ⟨rfl, hs⟩) (.cons (source_eq_ok.mpr ⟨rfl, hs'⟩) .nil))
  refine bind_eq_error.mpr (.inr ⟨_, hsources, mapError_eq_error.mpr ⟨.endless, ?_, rfl⟩⟩)
  rw [List.mapM_cons, List.mapM_cons]
  exact bind_eq_error.mpr (.inr ⟨api, hmade, bind_eq_error.mpr (.inl
    (bind_eq_error.mpr (.inl hbroken)))⟩)

/-- If the clients are made although an API fails, one of them has problems. -/
theorem exists_faulty_of_fails {entry : String × ConfiguredApi} {apis : List Api}
    (hentry : entry ∈ c.apis) (h : Fails c files entry) (hapis : c.clients files = .ok apis) :
    ∃ api ∈ apis, api.verify.problems ≠ [] := by
  obtain ⟨api, hapi, hmakes⟩ := forall₂_mem (clients_eq_ok.mp hapis) hentry
  cases h with
  | unloadable hnone =>
    obtain ⟨source, hsource, _⟩ := hmakes
    exact absurd hsource (hnone source)
  | unsynthesizable hsource he =>
    obtain ⟨source, hsource', hmade⟩ := hmakes
    obtain rfl := hsource.unique hsource'
    cases hmade.symm.trans he
  | faulty hmade hp => exact ⟨api, hapi, hmakes.unique hmade ▸ hp⟩

section Looking

variable [LawfulFiles σ]

theorem readFile_eq (path : String) :
    runOn (readFile path) files = ((textAt files path).mapError (RunError.unreadable path), files) := by
  rw [readFile, runOn_adapt, LawfulFiles.read_keeps]

theorem load_eq (apis : List (String × ConfiguredApi)) :
    runOn (load apis) files = (apis.mapM (source files), files) := by
  induction apis with
  | nil => rfl
  | cons entry rest ih =>
    rw [List.mapM_cons, load]
    simp only [source, bind_assoc, pure_bind]
    refine runOn_bind_of_eq (readFile_eq _) fun text => ?_
    refine runOn_bind_of_eq (runOn_lift _ _) fun document => ?_
    exact runOn_bind_of_eq ih fun more => rfl

theorem synthesizeAll_eq (target : Target) (options : Options) (sources : List (String × ApiSource)) :
    Api.synthesizeAll target options sources =
      sources.mapM fun s => Api.synthesize s.1 s.2 target options := by
  induction sources with
  | nil => rfl
  | cons s rest ih =>
    rw [List.mapM_cons, Api.synthesizeAll, ih]

theorem synthesize_eq : runOn c.synthesize files = (c.clients files, files) := by
  refine runOn_bind_of_eq (load_eq _) fun sources => ?_
  rw [synthesizeAll_eq]
  rfl

theorem ofArguments_eq (files : σ) (a : Arguments) : ∃ x, runOn (ofArguments a) files = (x, files) := by
  unfold ofArguments
  split
  · next path _ =>
    exact ⟨_, runOn_bind_of_eq (readFile_eq path) fun text =>
      runOn_bind_of_eq (runOn_lift _ _) fun c => rfl⟩
  · exact ⟨_, runOn_bind_of_eq (runOn_lift _ _) fun c => rfl⟩

end Looking

theorem generate_of_clients [LawfulFiles σ] {e : RunError} (h : c.clients files = .error e) :
    runOn c.generate files = (.error e, files) := by
  rw [generate, runOn_bind, synthesize_eq, h]

theorem generate_of_fails [LawfulFiles σ] {entry : String × ConfiguredApi} (hentry : entry ∈ c.apis)
    (h : Fails c files entry) :
    ∃ x, runOn c.generate files = (x, files) ∧ (c.Ends files → Outcome.exitCode x = some 1) := by
  cases hapis : c.clients files with
  | error e =>
    refine ⟨.error e, generate_of_clients hapis, fun hends => Outcome.exitCode_error ?_⟩
    rintro rfl
    exact not_ends_of_clients hapis hends
  | ok apis =>
    obtain ⟨api, hapi, hproblems⟩ := exists_faulty_of_fails hentry h hapis
    have hreport : ¬(Api.verifyAll apis).isEmpty := fun hempty =>
      hproblems ((Api.verifyAll_isEmpty_iff apis).mp hempty api hapi)
    refine ⟨.ok (.invalid (Api.verifyAll apis)), ?_, fun _ => rfl⟩
    rw [generate, runOn_bind, synthesize_eq, hapis]
    simp only [hreport]
    rfl

theorem writeFiles_eq_ok [LawfulFiles σ] {output : String} {apis : List Api} {paths : List String}
    (h : runOn (writeFiles output apis) files = (.ok paths, left)) :
    paths = apis.map (filePath output) ∧
      (∀ path text, textAt files path = .ok text → textAt left path = .ok text ∨
        ∃ api ∈ apis, textAt left path = .ok api.toJson.pretty) ∧
      ∀ api after, api :: after <:+ apis →
        ∃ last ∈ api :: after, textAt left (filePath output api) = .ok last.toJson.pretty := by
  induction apis generalizing files paths with
  | nil =>
    obtain ⟨hpaths, hleft⟩ := Prod.mk.inj h
    obtain rfl := Except.ok.inj hpaths
    obtain rfl : files = left := hleft
    exact ⟨rfl, fun _ _ htext => .inl htext, fun _ _ hsuffix => absurd (List.suffix_nil.mp hsuffix) nofun⟩
  | cons first rest ih =>
    obtain ⟨_, between, hwrite, h⟩ := runOn_bind_eq_ok h
    obtain ⟨more, left', hmore, h⟩ := runOn_bind_eq_ok h
    obtain ⟨hpaths, hleft⟩ := Prod.mk.inj h
    obtain rfl := Except.ok.inj hpaths
    obtain rfl : left' = left := hleft
    have hwrite := runOn_adapt_eq_ok.mp hwrite
    obtain ⟨rfl, hkept, hwritten⟩ := ih hmore
    refine ⟨rfl, fun path text htext => ?_, fun api after hsuffix => ?_⟩
    · -- the first file stands at the path, or the rest finds what was there before
      rcases LawfulFiles.textAt_kept hwrite htext with hbetween | hbetween
      · exact (hkept path text hbetween).imp_right fun ⟨api, hapi, hlast⟩ =>
          ⟨api, List.mem_cons_of_mem _ hapi, hlast⟩
      · rcases hkept path _ hbetween with hlast | ⟨api, hapi, hlast⟩
        · exact .inr ⟨first, by simp, hlast⟩
        · exact .inr ⟨api, List.mem_cons_of_mem _ hapi, hlast⟩
    · rcases List.suffix_cons_iff.mp hsuffix with e | hsuffix
      · obtain ⟨rfl, rfl⟩ := List.cons.inj e
        rcases hkept _ _ (LawfulFiles.textAt_written hwrite) with hlast | ⟨last, hmem, hlast⟩
        · exact ⟨api, by simp, hlast⟩
        · exact ⟨last, List.mem_cons_of_mem _ hmem, hlast⟩
      · exact hwritten api after hsuffix

theorem generate_written [LawfulFiles σ] {paths : List String}
    (h : runOn c.generate files = (.ok (.written paths), left)) :
    ∃ apis, c.clients files = .ok apis ∧ (∀ api ∈ apis, api.verify.problems = []) ∧
      ∃ between, runOn (writeFiles c.output apis) between = (.ok paths, left) := by
  obtain ⟨apis, _, hapis, h⟩ := runOn_bind_eq_ok h
  rw [synthesize_eq] at hapis
  obtain ⟨hclients, rfl⟩ := Prod.mk.inj hapis
  by_cases hreport : (Api.verifyAll apis).isEmpty
  · simp only [hreport, if_true] at h
    obtain ⟨paths', left', hwrite, h⟩ := runOn_bind_eq_ok h
    obtain ⟨hwritten, hleft⟩ := Prod.mk.inj h
    obtain rfl := Outcome.written.inj (Except.ok.inj hwritten)
    obtain rfl : left' = left := hleft
    obtain ⟨_, between, _, hfiles⟩ := runOn_bind_eq_ok hwrite
    exact ⟨apis, hclients, (Api.verifyAll_isEmpty_iff apis).mp hreport, between, hfiles⟩
  · simp only [hreport] at h
    cases h

end Configuration

theorem Arguments.run_eq {files : σ} [LawfulFiles σ] {a : Arguments} {c : Configuration}
    (h : (runOn (Configuration.ofArguments a) files).1 = .ok c) :
    runOn a.run files = runOn c.generate files := by
  obtain ⟨x, hx⟩ := Configuration.ofArguments_eq files a
  rw [hx] at h
  obtain rfl : x = .ok c := h
  rw [run, runOn_bind, hx]

theorem Api.name_of_synthesize {name : String} {source : ApiSource} {target : Target}
    {options : Options} {api : Api} (h : Api.synthesize name source target options = .ok api) :
    api.name = name := by
  obtain ⟨raw, _, h⟩ := bind_eq_ok.mp h
  obtain rfl := Except.ok.inj h
  rfl

theorem Configuration.names_of_makes {files : σ} {c : Configuration}
    {entries : List (String × ConfiguredApi)} {apis : List Api}
    (h : List.Forall₂ (c.Makes files) entries apis) : apis.map Api.name = Entries.keys entries := by
  induction h with
  | nil => rfl
  | cons hmakes _ ih =>
    obtain ⟨source, _, hmade⟩ := hmakes
    exact List.cons_eq_cons.mpr ⟨Api.name_of_synthesize hmade, ih⟩

/-- Nothing is written unless every API can be loaded, made and passes its checks, and the run says so if it
ends by itself; a run that succeeds has made them all, found nothing, and leaves a file for each of them. -/
theorem Configuration.generate_all_or_nothing [LawfulFiles σ] (files : σ) :
    (∀ c : Configuration, (∃ entry ∈ c.apis, c.Fails files entry) →
      ((runOn c.generate files).2 = files ∧
        (c.Ends files → Outcome.exitCode (runOn c.generate files).1 = some 1)) ∧
      ∀ a : Arguments, (runOn (ofArguments a) files).1 = .ok c →
        (runOn a.run files).2 = files ∧
          (c.Ends files → Outcome.exitCode (runOn a.run files).1 = some 1)) ∧
    ∀ a : Arguments, Outcome.exitCode (runOn a.run files).1 = some 0 →
      ∃ c apis, (runOn (ofArguments a) files).1 = .ok c ∧
        List.Forall₂ (c.Makes files) c.apis apis ∧ apis.map Api.name = Entries.keys c.apis ∧
        (∀ api ∈ apis, api.verify.problems = []) ∧
        (runOn a.run files).1 = .ok (.written (apis.map (filePath c.output))) ∧
        ∀ api after, api :: after <:+ apis → ∃ last ∈ api :: after,
          textAt (runOn a.run files).2 (filePath c.output api) = .ok last.toJson.pretty := by
  constructor
  · rintro c ⟨entry, hentry, hfails⟩
    obtain ⟨x, hx, hcode⟩ := generate_of_fails hentry hfails
    refine ⟨by rw [hx]; exact ⟨rfl, hcode⟩, fun a ha => ?_⟩
    rw [Arguments.run_eq ha, hx]
    exact ⟨rfl, hcode⟩
  · intro a hcode
    obtain ⟨paths, hpaths⟩ := Outcome.exitCode_eq_zero hcode
    obtain ⟨x, hx⟩ := ofArguments_eq files a
    cases x with
    | error e =>
      have hrun : runOn a.run files = (.error e, files) := by rw [Arguments.run, runOn_bind, hx]
      rw [hrun] at hpaths
      cases hpaths
    | ok c =>
      have hc : (runOn (ofArguments a) files).1 = .ok c := by rw [hx]
      rw [Arguments.run_eq hc] at hpaths ⊢
      obtain ⟨apis, hclients, hpassed, between, hwrite⟩ := generate_written (Prod.ext hpaths rfl)
      obtain ⟨rfl, _, hfiles⟩ := writeFiles_eq_ok hwrite
      have hmakes := clients_eq_ok.mp hclients
      exact ⟨c, apis, hc, hmakes, names_of_makes hmakes, hpassed, hpaths, hfiles⟩

/-- A directory with one document. -/
def shopFiles : FileTree :=
  (FileTree.ofDirectory ["work"]).withFile "shop.json"
    ("\x7b\"definitions\": \x7b\x7d, \"paths\": \x7b\"/items\": \x7b\"get\": " ++
      "\x7b\"responses\": \x7b\"200\": \x7b\"schema\": \x7b\"type\": \"string\"\x7d\x7d\x7d\x7d\x7d\x7d\x7d")

def shopArguments : Arguments :=
  { values := [(.language, "swift"), (.spec, "shop.json"), (.name, "shop")] }

/-- A run for the shop and for an API whose document is not there. -/
def marketConfiguration : Configuration where
  target := Language.target .swift ⟨[]⟩
  apis := [("shop", ⟨"shop.json", none, none⟩), ("market", ⟨"market.json", none, none⟩)]
  output := "client"
  options := {}

theorem Configuration.generate_all_or_nothing_shop :
    marketConfiguration.Fails shopFiles ("market", ⟨"market.json", none, none⟩) ∧
    (runOn marketConfiguration.generate shopFiles).2 = shopFiles ∧
    Outcome.exitCode (runOn marketConfiguration.generate shopFiles).1 = some 1 ∧
    Outcome.exitCode (runOn shopArguments.run shopFiles).1 = some 0 ∧
    ∃ c apis, (runOn (ofArguments shopArguments) shopFiles).1 = .ok c ∧
      List.Forall₂ (c.Makes shopFiles) c.apis apis := by
  obtain ⟨hnothing, hall⟩ := Configuration.generate_all_or_nothing shopFiles
  have hmissing : textAt shopFiles "market.json" = .error .noSuchFile := by decide +kernel
  have hunloadable : ∀ source, ¬Loads shopFiles ⟨"market.json", none, none⟩ source := by
    rintro _ ⟨text, _, htext, _⟩
    cases hmissing.symm.trans htext
  have hmarket : ("market", ⟨"market.json", none, none⟩) ∈ marketConfiguration.apis := by
    simp [marketConfiguration]
  have hfails : marketConfiguration.Fails shopFiles ("market", ⟨"market.json", none, none⟩) :=
    .unloadable hunloadable
  have hcode : Outcome.exitCode (runOn shopArguments.run shopFiles).1 = some 0 := by decide +kernel
  obtain ⟨⟨hkept, hexit⟩, _⟩ := hnothing marketConfiguration ⟨_, hmarket, hfails⟩
  obtain ⟨c, apis, hc, hmakes, _⟩ := hall shopArguments hcode
  exact ⟨hfails, hkept, hexit (.inl ⟨_, hmarket, hunloadable⟩), hcode, c, apis, hc, hmakes⟩

theorem Document.eq_of_raw {d d' : Document} (h : d.raw = d'.raw) : d = d' := by
  obtain ⟨raw, contents, reads, distinct⟩ := d
  obtain ⟨raw', contents', reads', distinct'⟩ := d'
  obtain rfl : raw = raw' := h
  obtain rfl := Except.ok.inj (reads.symm.trans reads')
  rfl

theorem Document.ofFileText_eq {path text : String} {raw : Json} {d : Document}
    (hpath : isYamlPath path = false) (htext : Json.ofText? text = some raw) (hraw : raw.settle = d.raw) :
    ofFileText path text = .ok d := by
  have hjson : ofJson raw = .ok d := by
    unfold ofJson
    split
    · exact congrArg Except.ok (eq_of_raw hraw)
    · next hreads =>
      rw [hraw, d.reads] at hreads
      cases hreads
  rw [ofFileText, hpath, if_neg Bool.false_ne_true, ofJsonText, htext, ofValue?, hjson]
  rfl

def namelessJson : Json :=
  .object [
    ("paths", .object []),
    ("definitions", .object [("--", .object [("properties", .object [])])])]

/-- A document with an object whose model gets no name. -/
def nameless : Document where
  raw := namelessJson.settle
  contents := { definitions := [("--", { properties := some [] })] }
  reads := rfl
  distinct := namelessJson.settle_distinct

def chainConfigJson : Json :=
  .object [
    ("language", .string "swift"),
    ("specs", .object [
      ("nameless", .object [("spec", .string "nameless.json")]),
      ("links", .object [("spec", .string "links.json")])])]

/-- A directory with a config file for two APIs: one with a model without a name, and one with nodes that are in
what comes next after them. -/
def chainFiles : FileTree :=
  (((FileTree.ofDirectory ["work"]).withFile "nameless.json" namelessJson.compact).withFile "links.json"
    ModelSynthesis.linksJson.compact).withFile "config.json" chainConfigJson.compact

def chainArguments : Arguments :=
  { values := [(.config, "config.json")] }

def chainConfiguration : Configuration where
  target := Language.target .swift ⟨[]⟩
  apis := [("nameless", ⟨"nameless.json", none, none⟩), ("links", ⟨"links.json", none, none⟩)]
  output := "client"
  options := {}

theorem MethodSynthesis.definitionModels_cons_eq_error {x : MethodSynthesis} {name : String} {s : Schema}
    {rest : List (String × Schema)} {e : SynthesisError} :
    x.definitionModels ((name, s) :: rest) = .error e ↔
      x.models.fromSchema s name = .error e ∨
        (∃ made, x.models.fromSchema s name = .ok made) ∧ x.definitionModels rest = .error e := by
  rw [definitionModels, bind_eq_error]
  refine or_congr_right ⟨?_, ?_⟩
  · rintro ⟨made, hmade, h⟩
    rcases bind_eq_error.mp h with hrest | ⟨_, _, h⟩
    · exact ⟨⟨made, hmade⟩, hrest⟩
    · cases h
  · rintro ⟨⟨made, hmade⟩, hrest⟩
    exact ⟨made, hmade, bind_eq_error.mpr (.inl hrest)⟩

namespace Configuration

theorem ofArguments_chain :
    (runOn (ofArguments chainArguments) chainFiles).1 = .ok chainConfiguration := by
  have hvalue : (runOn (ofArguments chainArguments) chainFiles).1.toOption = some chainConfiguration := by
    decide +kernel
  cases hread : (runOn (ofArguments chainArguments) chainFiles).1 with
  | error e =>
    rw [hread] at hvalue
    cases hvalue
  | ok c =>
    rw [hread] at hvalue
    rw [Option.some.inj hvalue]

theorem loads_nameless : Loads chainFiles ⟨"nameless.json", none, none⟩ ⟨nameless, none, none⟩ := by
  have htext : textAt chainFiles "nameless.json" = .ok namelessJson.compact := by decide +kernel
  have hparse : Json.ofText? namelessJson.compact = some namelessJson := by decide +kernel
  exact ⟨_, _, htext, Document.ofFileText_eq (by decide +kernel) hparse rfl, rfl⟩

theorem loads_links :
    Loads chainFiles ⟨"links.json", none, none⟩ ⟨ModelSynthesis.links, none, none⟩ := by
  have htext : textAt chainFiles "links.json" = .ok ModelSynthesis.linksJson.compact := by
    decide +kernel
  have hparse : Json.ofText? ModelSynthesis.linksJson.compact = some ModelSynthesis.linksJson := by
    decide +kernel
  exact ⟨_, _, htext, Document.ofFileText_eq (by decide +kernel) hparse rfl, rfl⟩

theorem synthesize_nameless :
    ∃ api, Api.synthesize "nameless" ⟨nameless, none, none⟩ chainConfiguration.target
        chainConfiguration.options = .ok api ∧ api.verify.problems ≠ [] :=
  ⟨_, rfl, by decide +kernel⟩

theorem synthesize_links :
    Api.synthesize "links" ⟨ModelSynthesis.links, none, none⟩ chainConfiguration.target
      chainConfiguration.options = .error .endless := by
  let x : MethodSynthesis := ⟨ModelSynthesis.links, chainConfiguration.target, {}, none⟩
  have hbase : ∃ made, x.models.fromSchema ModelSynthesis.linkBase "Base" = .ok made := ⟨_, rfl⟩
  have hnode : x.models.fromSchema ModelSynthesis.linkNode "Node" = .error .endless :=
    ModelSynthesis.fromSchema_of_endless ModelSynthesis.linkNode_endless
  have hmodels : x.definitionModels ModelSynthesis.links.contents.definitions = .error .endless :=
    MethodSynthesis.definitionModels_cons_eq_error.mpr
      (.inr ⟨hbase, MethodSynthesis.definitionModels_cons_eq_error.mpr (.inl hnode)⟩)
  refine bind_eq_error.mpr (.inl ?_)
  exact bind_eq_error.mpr (.inr ⟨([], []), rfl, bind_eq_error.mpr (.inl hmodels)⟩)

/-- A check fails for one API, and the run is broken off by another before it can say so. -/
theorem generate_broken_off :
    (runOn (ofArguments chainArguments) chainFiles).1 = .ok chainConfiguration ∧
      chainConfiguration.Fails chainFiles ("nameless", ⟨"nameless.json", none, none⟩) ∧
        chainConfiguration.Endless chainFiles ("links", ⟨"links.json", none, none⟩) ∧
          Outcome.exitCode (runOn chainConfiguration.generate chainFiles).1 = none ∧
            Outcome.exitCode (runOn chainArguments.run chainFiles).1 = none := by
  obtain ⟨api, hapi, hproblems⟩ := synthesize_nameless
  have hmakes : chainConfiguration.Makes chainFiles ("nameless", ⟨"nameless.json", none, none⟩) api :=
    ⟨_, loads_nameless, hapi⟩
  have hendless : chainConfiguration.Endless chainFiles ("links", ⟨"links.json", none, none⟩) :=
    ⟨_, loads_links, synthesize_links⟩
  have hclients := clients_of_pair rfl hmakes hendless
  have hcode : Outcome.exitCode (runOn chainConfiguration.generate chainFiles).1 = none := by
    rw [generate_of_clients hclients]
    rfl
  refine ⟨ofArguments_chain, .faulty hmakes hproblems, hendless, hcode, ?_⟩
  rw [Arguments.run_eq ofArguments_chain]
  exact hcode

end Configuration

end SwaggerClient
