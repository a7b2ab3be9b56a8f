import SwaggerClient.Api.Synthesis
import SwaggerClient.Language.Builtin
import SwaggerClient.Proofs.Api.Extension
import SwaggerClient.Proofs.Document.Change
import SwaggerClient.Proofs.Model.Selection

namespace SwaggerClient

open MethodSynthesis

/-- A parameter of an operation of the document has the schema, or the response to its successful call. -/
inductive Document.Uses (d : Document) : Schema → Prop
  | parameter {path : String} {item : PathItem} {httpMethod : HttpMethod} {op : Operation}
      {declared p : Parameter} (operation : (path, item, httpMethod, op) ∈ operations d)
      (declares : declared ∈ item.parameters.getD [] ++ op.parameters.getD [])
      (follows : d.follow .parameter declared = .ok p) : Uses d p.effectiveSchema
  | response {path : String} {item : PathItem} {httpMethod : HttpMethod} {op : Operation}
      {declared r : Response} (operation : (path, item, httpMethod, op) ∈ operations d)
      (selects : selectedResponse? op = some declared)
      (follows : d.follow .response declared = .ok r) : Uses d r.effectiveSchema

/-- The schema has a reference, and an operation of the document uses it. -/
def Document.Repeats (d : Document) (s : Schema) : Prop :=
  s.reference.isSome ∧ d.Uses s

namespace MethodSynthesis

variable {x : MethodSynthesis} {methodName : String} {models : List Model}

/-- The models that a schema needs, whatever name it has by default, are among the models. -/
def Covered (x : MethodSynthesis) (models : List Model) (s : Schema) : Prop :=
  ∀ name, ∃ made, x.models.fromSchema s name = .ok made ∧ made.models ⊆ models

/-- The models of a schema that an operation uses are among those of the methods. -/
theorem exists_made_of_uses {made : List Method × List Model}
    (h : x.methods (operations x.document) = .ok made) {s : Schema} (hs : x.document.Uses s) :
    ∃ name inner, x.models.fromSchema s name = .ok inner ∧ inner.models ⊆ made.2 := by
  rw [methods_eq] at h
  obtain ⟨each, heach, rfl⟩ := map_eq_ok.mp h
  cases hs with
  | parameter operation declares follows =>
    obtain ⟨made, hmade, h⟩ := mapM_mem heach operation
    obtain ⟨params, _, _, hparams, _, _, rfl⟩ := method_eq_ok.mp h
    rw [params_eq] at hparams
    obtain ⟨eachParam, heachParam, rfl⟩ := map_eq_ok.mp hparams
    obtain ⟨param, hparam, h⟩ := mapM_mem heachParam declares
    obtain ⟨p, inner, hp, hinner, hmodels⟩ := declaredParam_eq_ok h
    obtain rfl := Except.ok.inj (follows.symm.trans hp)
    refine ⟨_, inner, hinner, fun m hm => List.mem_flatMap.mpr ⟨_, hmade, ?_⟩⟩
    exact List.mem_append_left _ (List.mem_flatMap.mpr ⟨param, hparam, hmodels ▸ hm⟩)
  | response operation selects follows =>
    obtain ⟨made, hmade, h⟩ := mapM_mem heach operation
    obtain ⟨_, declared, response, _, hselected, hresponse, rfl⟩ := method_eq_ok.mp h
    obtain rfl := Option.some.inj (selects.symm.trans hselected)
    obtain ⟨r, inner, hr, hinner, hmodels⟩ := declaredResponse_eq_ok hresponse
    obtain rfl := Except.ok.inj (follows.symm.trans hr)
    refine ⟨_, inner, hinner, fun m hm => List.mem_flatMap.mpr ⟨_, hmade, ?_⟩⟩
    exact List.mem_append_right _ (hmodels ▸ hm)

theorem covered_of_repeats {made : List Method × List Model}
    (h : x.methods (operations x.document) = .ok made) {s : Schema} (hs : x.document.Repeats s) :
    x.Covered made.2 s := by
  obtain ⟨name, inner, hinner, hsub⟩ := exists_made_of_uses h hs.2
  exact fun name' => ⟨inner, (ModelSynthesis.run_of_reference hs.1 _ [] name' name).trans hinner, hsub⟩

theorem declaredParam_of_covered (methodName : String) {declared p : Parameter}
    (hp : x.document.follow .parameter declared = .ok p) (h : x.Covered models p.effectiveSchema) :
    ∃ made, x.declaredParam methodName declared = .ok made ∧ made.2 ⊆ models := by
  obtain ⟨inner, hinner, hsub⟩ :=
    h (x.target.rules.className [methodName, p.name.getD responseName] 0)
  rw [declaredParam, hp, ok_bind, param, hinner]
  exact ⟨_, rfl, hsub⟩

theorem declaredResponse_of_covered (methodName : String) {declared r : Response}
    (hr : x.document.follow .response declared = .ok r) (h : x.Covered models r.effectiveSchema) :
    ∃ made, x.declaredResponse methodName declared = .ok made ∧ made.2 ⊆ models := by
  obtain ⟨inner, hinner, hsub⟩ := h (x.target.rules.className [methodName, responseName] 0)
  rw [declaredResponse, hr, ok_bind, response, hinner]
  exact ⟨_, rfl, hsub⟩

theorem params_of_covered (methodName : String) {declared : List Parameter}
    (h : ∀ p ∈ declared, ∃ q, x.document.follow .parameter p = .ok q ∧
      x.Covered models q.effectiveSchema) :
    ∃ made, x.params methodName declared = .ok made ∧ made.2 ⊆ models := by
  induction declared with
  | nil => exact ⟨_, rfl, by simp⟩
  | cons first rest ih =>
    obtain ⟨q, hq, hcovered⟩ := h first (by simp)
    obtain ⟨param, hparam, hsub⟩ := declaredParam_of_covered methodName hq hcovered
    obtain ⟨more, hmore, hmoreSub⟩ := ih fun p hp => h p (List.mem_cons_of_mem _ hp)
    rw [declaredParam, hq, ok_bind] at hparam
    rw [params, hq, ok_bind, hparam, ok_bind, hmore]
    exact ⟨_, rfl, List.append_subset.mpr ⟨hsub, hmoreSub⟩⟩

/-- A method whose parameters and response need no other models. -/
theorem method_of_covered (path : String) {item : PathItem} (httpMethod : HttpMethod)
    {op : Operation} {declared r : Response}
    (hparams : ∀ p ∈ item.parameters.getD [] ++ op.parameters.getD [],
      ∃ q, x.document.follow .parameter p = .ok q ∧ x.Covered models q.effectiveSchema)
    (hselected : selectedResponse? op = some declared)
    (hr : x.document.follow .response declared = .ok r) (hcovered : x.Covered models r.effectiveSchema) :
    ∃ made, x.method path item httpMethod op = .ok made ∧ made.2 ⊆ models := by
  obtain ⟨params, hparams, hsub⟩ := params_of_covered _ hparams
  obtain ⟨response, hresponse, hresponseSub⟩ := declaredResponse_of_covered _ hr hcovered
  refine ⟨_, method_eq_ok.mpr ⟨params, declared, response, hparams, hselected, hresponse, rfl⟩, ?_⟩
  exact List.append_subset.mpr ⟨hsub, hresponseSub⟩

/-- What a schema needs on a document, it needs on one that extends it. -/
theorem Covered.extends {d' : Document} (h : x.document.Extends d') {s : Schema}
    (hs : x.Covered models s) : ({ x with document := d' } : MethodSynthesis).Covered models s := by
  intro name
  obtain ⟨made, hmade, hsub⟩ := hs name
  exact ⟨made, ModelSynthesis.fromSchema_extends (x := x.models) h s name made hmade, hsub⟩

/-- The path that is added needs none but the models that are made before. -/
theorem methods_of_addsPath {made : List Method × List Model}
    (h : x.methods (operations x.document) = .ok made) {d' : Document} {path : String} {value : Json}
    (hadds : x.document.AddsPath d' path value) {item : PathItem}
    (hitem : PathItem.read value = .ok item) {httpMethod : HttpMethod} {op : Operation}
    (hop : item.operations = [(httpMethod, op)])
    (hparams : ∀ declared ∈ item.parameters.getD [] ++ op.parameters.getD [],
      ∃ p, d'.follow .parameter declared = .ok p ∧ x.document.Repeats p.effectiveSchema)
    (hresponse : ∃ declared r, selectedResponse? op = some declared ∧
      d'.follow .response declared = .ok r ∧ x.document.Repeats r.effectiveSchema) :
    ∃ methods again, ({ x with document := d' } : MethodSynthesis).methods (operations d') =
      .ok (methods, made.2 ++ again) ∧ again ⊆ made.2 := by
  have hextends := hadds.extends hitem
  have hbefore := methods_extends hextends _ made h
  rcases (hadds.related hitem).paths with hpaths | hpaths
  -- without a field for paths there is nothing to add to
  · refine ⟨made.1, [], ?_, List.nil_subset _⟩
    rw [List.append_nil, operations, hpaths]
    exact hbefore
  have hcovered : ∀ s, x.document.Repeats s →
      ({ x with document := d' } : MethodSynthesis).Covered made.2 s :=
    fun s hs => (covered_of_repeats h hs).extends hextends
  obtain ⟨declared, r, hselected, hr, hrepeats⟩ := hresponse
  have hparams : ∀ declared ∈ item.parameters.getD [] ++ op.parameters.getD [],
      ∃ p, d'.follow .parameter declared = .ok p ∧
        ({ x with document := d' } : MethodSynthesis).Covered made.2 p.effectiveSchema := by
    intro declared hdeclared
    obtain ⟨p, hp, hrepeats⟩ := hparams declared hdeclared
    exact ⟨p, hp, hcovered _ hrepeats⟩
  obtain ⟨another, hanother, hsub⟩ := method_of_covered (x := { x with document := d' }) path httpMethod
    hparams hselected hr (hcovered _ hrepeats)
  have hlast : ({ x with document := d' } : MethodSynthesis).methods [(path, item, httpMethod, op)] =
      .ok ([another.1], another.2) := by
    rw [methods_eq, List.mapM_cons, methodOf, hanother]
    simp [Except.map, gather]
  refine ⟨made.1 ++ [another.1], another.2, ?_, hsub⟩
  have hoperations : operations d' = operations x.document ++ [(path, item, httpMethod, op)] := by
    simp [operations, hpaths, hop]
  rw [hoperations]
  exact methods_append hbefore hlast

end MethodSynthesis

namespace Api

open MethodSynthesis

/-- Another path, with an operation that uses schemas by references that are used for them already, changes
no model. -/
theorem models_of_repeated_use {name : String} {source : ApiSource} {target : Target}
    {options : Options} {api : Api} (h : synthesize name source target options = .ok api)
    {d' : Document} {path : String} {value : Json} (hadds : source.document.AddsPath d' path value)
    {item : PathItem} (hitem : PathItem.read value = .ok item)
    {httpMethod : HttpMethod} {op : Operation} (hop : item.operations = [(httpMethod, op)])
    (hparams : ∀ declared ∈ item.parameters.getD [] ++ op.parameters.getD [],
      ∃ p, d'.follow .parameter declared = .ok p ∧ source.document.Repeats p.effectiveSchema)
    (hresponse : ∃ declared r, selectedResponse? op = some declared ∧
      d'.follow .response declared = .ok r ∧ source.document.Repeats r.effectiveSchema) :
    ∃ api', synthesize name { source with document := d' } target options = .ok api' ∧
      api'.objectModels = api.objectModels ∧ api'.enumModels = api.enumModels := by
  obtain ⟨raw, hraw, h⟩ := bind_eq_ok.mp h
  obtain rfl := Except.ok.inj h
  obtain ⟨made, hmade, hraw⟩ := bind_eq_ok.mp hraw
  obtain ⟨defined, hdefined, hraw⟩ := bind_eq_ok.mp hraw
  obtain rfl := Except.ok.inj hraw
  obtain ⟨methods, again, hmethods, hsub⟩ :=
    methods_of_addsPath hmade hadds hitem hop hparams hresponse
  have hdefinitions := definitionModels_extends (hadds.extends hitem) _ _ hdefined
  rw [← (hadds.related hitem).definitions] at hdefinitions
  -- the models of the other path stand between those of the methods and those of the definitions
  have hdedupe : Model.dedupe (made.2 ++ again ++ defined) = Model.dedupe (made.2 ++ defined) := by
    rw [List.append_assoc]
    exact Model.dedupeAfter_again fun m hm => .inr (hsub hm)
  rw [synthesize, MethodSynthesis.synthesize, hmethods, ok_bind, hdefinitions]
  refine ⟨_, rfl, ?_, ?_⟩
  · simp only [hdedupe]
  · simp only [hdedupe]

def clinicPaths : List (String × Json) :=
  [("/pets", .object [("get", .object [("responses", .object [("200", .object [
    ("schema", .object [("$ref", .string "#/definitions/Pet")])])])])])]

def clinicJson (paths : List (String × Json)) : Json :=
  .object [
    ("paths", .object paths),
    ("definitions", .object [
      ("Pet", .object [("properties", .object [("name", .object [("type", .string "string")])])])])]

def petSchema : Schema :=
  { reference := some "#/definitions/Pet" }

def petResponse : Response :=
  { schema := some petSchema }

def petsItem : PathItem :=
  PathItem.withOperation {} .get (some { responses := [("200", petResponse)] })

def clinicContents : Contents where
  paths := [("/pets", petsItem)]
  definitions := [("Pet", { properties := some [("name", { type := some "string" })] })]

/-- A document in which pets are read. -/
def clinic : Document where
  raw := (clinicJson clinicPaths).settle
  contents := clinicContents
  reads := rfl
  distinct := Json.settle_distinct _

/-- A path at which a pet is sent and a pet comes back. -/
def visits : Json :=
  .object [("post", .object [
    ("parameters", .array [.object [("name", .string "pet"), ("in", .string "body"),
      ("schema", .object [("$ref", .string "#/definitions/Pet")])]]),
    ("responses", .object [("200", .object [
      ("schema", .object [("$ref", .string "#/definitions/Pet")])])])])]

def visit : Operation where
  parameters := some [{ name := some "pet", location := some .body, schema := some petSchema }]
  responses := [("200", petResponse)]

def visitItem : PathItem :=
  PathItem.withOperation {} .post (some visit)

def busyClinic : Document where
  raw := (clinicJson (clinicPaths ++ [("/visits", visits)])).settle
  contents := { clinicContents with paths := clinicContents.paths ++ [("/visits", visitItem)] }
  reads := rfl
  distinct := Json.settle_distinct _

theorem clinic_addsPath : clinic.AddsPath busyClinic "/visits" visits where
  slash := by decide
  raw := .object (.cons ⟨rfl, clinicPaths, rfl, rfl⟩ (.cons ⟨rfl, rfl⟩ .nil))

theorem clinic_repeats : clinic.Repeats petSchema := by
  have hpets : ("/pets", petsItem, HttpMethod.get, { responses := [("200", petResponse)] }) ∈
      operations clinic := List.mem_singleton.mpr rfl
  exact ⟨rfl, .response (r := petResponse) hpets rfl rfl⟩

/-- Visits use the schema of the response with the pets. -/
theorem models_of_repeated_use_visits :
    ∃ api api', synthesize "Clinic" ⟨clinic, none, none⟩ (Language.swift.target ⟨[]⟩) {} = .ok api ∧
      synthesize "Clinic" ⟨busyClinic, none, none⟩ (Language.swift.target ⟨[]⟩) {} = .ok api' ∧
      api.objectModels.map (·.name) = ["Pet"] ∧
      api'.objectModels = api.objectModels ∧ api'.enumModels = api.enumModels := by
  obtain ⟨api, h, hnames⟩ : ∃ api, synthesize "Clinic" ⟨clinic, none, none⟩
    (Language.swift.target ⟨[]⟩) {} = .ok api ∧ api.objectModels.map (·.name) = ["Pet"] :=
    ⟨_, rfl, rfl⟩
  have hparams : ∀ declared ∈ visitItem.parameters.getD [] ++ visit.parameters.getD [],
      ∃ p, busyClinic.follow .parameter declared = .ok p ∧ clinic.Repeats p.effectiveSchema := by
    intro declared hdeclared
    obtain rfl := List.mem_singleton.mp hdeclared
    exact ⟨_, rfl, clinic_repeats⟩
  have hop : visitItem.operations = [(.post, visit)] := rfl
  have hresponse : ∃ declared r, selectedResponse? visit = some declared ∧
      busyClinic.follow .response declared = .ok r ∧ clinic.Repeats r.effectiveSchema :=
    ⟨petResponse, petResponse, rfl, rfl, clinic_repeats⟩
  obtain ⟨api', h', hmodels⟩ :=
    models_of_repeated_use h clinic_addsPath rfl hop hparams hresponse
  exact ⟨api, api', h, h', hnames, hmodels⟩

end Api

end SwaggerClient
