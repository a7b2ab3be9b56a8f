import SwaggerClient.Proofs.Api.Calls
import SwaggerClient.Proofs.Api.Inheritance
import SwaggerClient.Proofs.Api.Report
import SwaggerClient.Proofs.Model.Class
import SwaggerClient.Proofs.Model.ReferenceType

namespace SwaggerClient

namespace ObjectModel

section Core

variable {m n : ObjectModel} (h : m.core = n.core)

include h

theorem name_of_core : m.name = n.name := by
  have hname : m.core.name = n.core.name := by rw [h]
  cases m; cases n; exact hname

theorem superclassName_of_core : m.superclassName = n.superclassName := by
  have hname : m.core.superclassName = n.core.superclassName := by rw [h]
  cases m; cases n; exact hname

theorem properties_of_core :
    m.properties.map Property.bare = n.properties.map Property.bare := by
  have hproperties : m.core.properties = n.core.properties := by rw [h]
  cases m; cases n; exact hproperties

theorem inherited_of_core :
    m.inheritedProperties.map Property.bare = n.inheritedProperties.map Property.bare := by
  have hinherited : m.core.inheritedProperties = n.core.inheritedProperties := by rw [h]
  cases m; cases n; exact hinherited

end Core

/-- Every object model is emitted, descriptions and subclasses apart. -/
theorem exists_core_linkSubclasses {models : List Model} {a : ObjectModel}
    (ha : .object a ∈ models) :
    ∃ m ∈ linkSubclasses (Model.objects (Model.dedupe models)), m.core = a.core := by
  rcases Model.exists_mem_dedupeAfter [] ha with h | ⟨kept, hkept, e⟩
  · simp at h
  · cases kept with
    | enumeration m => cases e
    | object m =>
      have hbare : m.bare = a.bare := Model.object.inj e
      refine ⟨_, List.mem_map_of_mem (Model.mem_objects.mpr hkept), ?_⟩
      rw [core_link]
      exact core_of_bare hbare

end ObjectModel

namespace Api

variable {api : Api}

/-- In a client without problems a model is the only one with its name. -/
theorem filter_name_of_verify (hreport : api.verify.isEmpty) {m : Model} (hm : m ∈ api.models) :
    api.models.filter (fun other => other.name == m.name) = [m] :=
  filter_eq_singleton (verify_isEmpty_iff.mp hreport).distinct hm

theorem object_mem_models {m : ObjectModel} (h : m ∈ api.objectModels) : .object m ∈ api.models :=
  List.mem_append_left _ (List.mem_map_of_mem h)

theorem eq_of_only {m n : ObjectModel}
    (honly : api.models.filter (fun other => other.name == n.name) = [.object n])
    (hm : m ∈ api.objectModels) (hname : m.name = n.name) : m = n := by
  have hmem : Model.object m ∈ api.models.filter fun other => other.name == n.name := by
    apply List.mem_filter.mpr
    exact ⟨object_mem_models hm, by simp [Model.name, hname]⟩
  rw [honly] at hmem
  exact Model.object.inj (List.mem_singleton.mp hmem)

end Api

namespace MethodSynthesis

variable {x : MethodSynthesis} {c : Call} {cls : Class}

theorem Runs.needs {c' : Call} (h : x.Runs c) (hc : x.models.Needs c c') : x.Runs c' := by
  obtain ⟨root, hroot, hreach⟩ := h
  exact ⟨root, hroot, hreach.tail hc⟩

/-- The model of a superclass is among those of the run. -/
theorem superclass_mem {raw : RawApi} (hraw : x.synthesize = .ok raw) (hruns : x.Runs c)
    (hmakes : x.models.Makes c cls) {r : String} {above : Class} (hr : cls.superclass = some r)
    (habove : x.models.Makes (x.models.superclassCall c r) above) :
    .object above.model ∈ raw.models := by
  obtain ⟨root, hroot, hreach⟩ := hruns
  obtain ⟨made, hmade, hsub⟩ := (synthesize_gathers hraw).yields root hroot
  obtain ⟨inner, hinner, htail⟩ := hmade.reaches hreach
  have hmem := hmakes.superclass_mem hr habove hinner
  exact hsub (List.mem_of_mem_tail (htail hmem))

theorem exists_runs {raw : RawApi} (hraw : x.synthesize = .ok raw) {a : ObjectModel}
    (ha : .object a ∈ raw.models) : ∃ c cls, x.Runs c ∧ x.models.Makes c cls ∧ cls.model = a := by
  obtain ⟨root, hroot, made, hmade, hmem⟩ := (synthesize_gathers hraw).comes _ ha
  obtain ⟨c, cls, hreach, hmakes, hcls⟩ := hmade.origin hmem
  exact ⟨c, cls, ⟨root, hroot, hreach⟩, hmakes, hcls⟩

/-- The model is that of a class in the run, subclasses apart. -/
def Constructs (x : MethodSynthesis) (m : ObjectModel) : Prop :=
  ∃ c cls, x.Runs c ∧ x.models.Makes c cls ∧ m = { cls.model with subclasses := m.subclasses }

/-- A call of the run makes the class, and the class has the model, descriptions and subclasses apart. -/
structure MakesModel (x : MethodSynthesis) (c : Call) (cls : Class) (m : ObjectModel) : Prop where
  runs : x.Runs c
  makes : x.models.Makes c cls
  core : cls.model.core = m.core

/-- In the run, the superclass of the model becomes a class, too. -/
def ExtendsClass (x : MethodSynthesis) (m : ObjectModel) : Prop :=
  ∃ c cls r above, x.MakesModel c cls m ∧ cls.superclass = some r ∧
    x.models.Makes (x.models.superclassCall c r) above

theorem ExtendsClass.of_yields {base full base' full' : Schema} {r : String} {m m' : ObjectModel}
    {rest : List Model} {properties properties' : List (String × Schema)} (hc : c ∈ x.calls)
    (hyields : x.models.Yields c ⟨⟨x.models.nameOf c, none⟩, .object m :: rest⟩)
    (hopens : x.models.Opens c base full) (hs : full.shape = .object properties)
    (hr : ModelSynthesis.superclassReference base = some r)
    (hopens' : x.models.Opens (x.models.superclassCall c r) base' full')
    (hs' : full'.shape = .object properties') (hcore : m.core = m'.core) : x.ExtendsClass m' := by
  have hmakes : x.models.Makes c ⟨some r, full, m⟩ :=
    ⟨⟨base, hopens, hr⟩, ⟨properties, hs⟩, rest, hyields⟩
  obtain ⟨inner, hinner, _⟩ := hmakes.of_superclass rfl
  obtain ⟨above, _, _, habove⟩ := hinner.makes hopens' hs'
  exact ⟨c, _, r, _, ⟨⟨c, hc, .refl⟩, hmakes, hcore⟩, rfl, habove⟩

/-- Above the model is no other object model: it has no superclass, or somewhere in the run the reference to its
superclass is answered by its own name, or leads to something that is not an object. -/
inductive Stops (x : MethodSynthesis) (m : ObjectModel) : Prop
  | root (none : m.superclassName = none)
  | itself {c : Call} {cls : Class} {r : String} (makes : x.MakesModel c cls m)
      (superclass : cls.superclass = some r) (own : x.target.rules.classNameOfReference r = m.name)
      (names : m.superclassName = some m.name)
  | other {c : Call} {cls : Class} {r : String} {base full : Schema} {made : Synthesized}
      (makes : x.MakesModel c cls m) (superclass : cls.superclass = some r)
      (opens : x.models.Opens (x.models.superclassCall c r) base full)
      (no_object : ∀ properties, full.shape ≠ .object properties)
      (yields : x.models.Yields (x.models.superclassCall c r) made)
      (names : m.superclassName = some made.type.name)

/-- A superclass that does not become a class stops its subclass. -/
theorem MakesModel.stops {m : ObjectModel} {r : String} (h : x.MakesModel c cls m)
    (hr : cls.superclass = some r)
    (hnone : ∀ above, ¬x.models.Makes (x.models.superclassCall c r) above) : x.Stops m := by
  obtain ⟨made, hmade, hname, _⟩ := h.makes.of_superclass hr
  rw [ObjectModel.superclassName_of_core h.core] at hname
  rcases hmade.answered_or_opens with ⟨r', hr', hlast, htype⟩ | ⟨base, full, hopens⟩
  · obtain rfl : r = r' := Option.some.inj hr'
    -- the innermost model under construction is that of the class
    have hown : x.target.rules.classNameOfReference r = m.name := by
      rw [← ObjectModel.name_of_core h.core, h.makes.name]
      exact (Option.some.inj hlast).symm
    refine .itself h hr hown ?_
    rw [hname, htype]
    exact congrArg some hown
  · refine .other h hr hopens (fun properties hs => ?_) hmade hname
    obtain ⟨_, _, _, habove⟩ := hmade.makes hopens hs
    exact hnone _ habove

end MethodSynthesis

/-- What the methods of a client are made for. -/
def ApiSource.methods (source : ApiSource) (target : Target) (options : Options) : MethodSynthesis :=
  ⟨source.document, target, options, source.basePath⟩

namespace Api

section Synthesized

variable {name : String} {source : ApiSource} {target : Target} {options : Options} {api : Api}
  (h : synthesize name source target options = .ok api)

include h

theorem constructs {m : ObjectModel} (hm : m ∈ api.objectModels) :
    (source.methods target options).Constructs m := by
  obtain ⟨raw, hraw, h⟩ := bind_eq_ok.mp h
  obtain rfl := Except.ok.inj h
  obtain ⟨a, ha, rfl⟩ := List.mem_map.mp hm
  have hmem : .object a ∈ raw.models :=
    Model.dedupeAfter_subset [] raw.models (Model.mem_objects.mp ha)
  obtain ⟨c, cls, hruns, hmakes, rfl⟩ := MethodSynthesis.exists_runs hraw hmem
  exact ⟨c, cls, hruns, hmakes, rfl⟩

theorem exists_makesModel {m : ObjectModel} (hm : m ∈ api.objectModels) :
    ∃ c cls, (source.methods target options).MakesModel c cls m := by
  obtain ⟨c, cls, hruns, hmakes, hmodel⟩ := constructs h hm
  have hcore : m.core = cls.model.core := by
    rw [hmodel]
    exact ObjectModel.core_link _ _
  exact ⟨c, cls, hruns, hmakes, hcore.symm⟩

/-- Where a superclass becomes a class in the run, its model is emitted, and a model that is made there
inherits what the emitted one has. -/
theorem exists_superclass {m : ObjectModel} {c : Call} {cls above : Class} {r : String}
    (hm : (source.methods target options).MakesModel c cls m) (hr : cls.superclass = some r)
    (habove : (source.methods target options).models.Makes
      ((source.methods target options).models.superclassCall c r) above) :
    ∃ s ∈ api.objectModels, s.core = above.model.core ∧ m.superclassName = some s.name ∧
      m.inheritedProperties.map Property.bare =
        (s.properties ++ s.inheritedProperties).map Property.bare := by
  obtain ⟨raw, hraw, h⟩ := bind_eq_ok.mp h
  obtain rfl := Except.ok.inj h
  have hmem := MethodSynthesis.superclass_mem hraw hm.runs hm.makes hr habove
  obtain ⟨s, hs, hcore⟩ := ObjectModel.exists_core_linkSubclasses hmem
  obtain ⟨hname, hinherited⟩ := hm.makes.inherits hr habove
  refine ⟨s, hs, hcore, ?_, ?_⟩
  · rw [← ObjectModel.superclassName_of_core hm.core, hname, ObjectModel.name_of_core hcore]
  · rw [← ObjectModel.inherited_of_core hm.core, hinherited, List.map_append, List.map_append,
      ObjectModel.properties_of_core hcore, ObjectModel.inherited_of_core hcore]

theorem inherited_of_no_superclass {m : ObjectModel} (hm : m ∈ api.objectModels)
    (hnone : m.superclassName = none) : m.inheritedProperties.map Property.bare = [] := by
  obtain ⟨c, cls, hmakes⟩ := exists_makesModel h hm
  rw [← ObjectModel.inherited_of_core hmakes.core]
  rw [← ObjectModel.superclassName_of_core hmakes.core] at hnone
  cases hr : cls.superclass with
  | none =>
    have hinherited := (hmakes.makes.of_superclass_none hr).2
    rw [hinherited]
    rfl
  | some r =>
    obtain ⟨inner, _, hname, _⟩ := hmakes.makes.of_superclass hr
    rw [hname] at hnone
    cases hnone

variable (hreport : api.verify.isEmpty)

include hreport

/-- In a client without problems, the model of a superclass that becomes a class in the run is the only
one with the name that the subclass has for it. -/
theorem superclass_of_extendsClass {m : ObjectModel}
    (hm : (source.methods target options).ExtendsClass m) :
    ∃ s, api.models.filter (fun other => other.name == s.name) = [.object s] ∧
      m.superclassName = some s.name ∧
        m.inheritedProperties.map Property.bare =
          (s.properties ++ s.inheritedProperties).map Property.bare := by
  obtain ⟨c, cls, r, above, hmakes, hr, habove⟩ := hm
  obtain ⟨s, hs, _, hname, hinherited⟩ := exists_superclass h hmakes hr habove
  have honly := filter_name_of_verify hreport (object_mem_models hs)
  exact ⟨s, honly, hname, hinherited⟩

end Synthesized

/-- The ancestors of an emitted model, nearest first, up to one without a superclass. Every model on the
way has a superclass that becomes a class in the run. -/
inductive Ancestry (x : MethodSynthesis) (api : Api) : ObjectModel → List ObjectModel → Prop
  | root {m : ObjectModel} (emitted : m ∈ api.objectModels) (none : m.superclassName = none) :
      Ancestry x api m []
  | link {m s : ObjectModel} {ancestors : List ObjectModel} (extends_class : x.ExtendsClass m)
      (emitted : s ∈ api.objectModels) (names : m.superclassName = some s.name)
      (above : Ancestry x api s ancestors) : Ancestry x api m (s :: ancestors)

/-- In a client without problems, a model whose superclass becomes a class in the run inherits what the
only emitted model with the name of the superclass has; so a model with such links up to one without a
superclass inherits what its ancestors have of their own, nearest first. -/
theorem inheritedProperties_eq {name : String} {source : ApiSource} {target : Target}
    {options : Options} {api : Api} (h : synthesize name source target options = .ok api)
    (hreport : api.verify.isEmpty) :
    (∀ m ∈ api.objectModels, (source.methods target options).ExtendsClass m →
      ∃ s, api.models.filter (fun other => other.name == s.name) = [.object s] ∧
        m.superclassName = some s.name ∧
          m.inheritedProperties.map Property.bare =
            (s.properties ++ s.inheritedProperties).map Property.bare) ∧
    ∀ m ancestors, Ancestry (source.methods target options) api m ancestors →
      m.inheritedProperties.map Property.bare =
        (ancestors.flatMap (·.properties)).map Property.bare := by
  refine ⟨fun m _ => superclass_of_extendsClass h hreport, fun m ancestors hm => ?_⟩
  induction hm with
  | root emitted none => exact inherited_of_no_superclass h emitted none
  | @link m s ancestors extends_class emitted names _ ih =>
    obtain ⟨s', honly, hname, hinherited⟩ := superclass_of_extendsClass h hreport extends_class
    have hs : s = s' := eq_of_only honly emitted (Option.some.inj (names.symm.trans hname))
    rw [hinherited, ← hs, List.map_append, ih, ← List.map_append, List.flatMap_cons]

def herdId (type : String) : Property :=
  ⟨"id", "id", type, none, false, none⟩

def herdTag : Property :=
  ⟨"tag", "tag", "String", none, false, none⟩

/-- The models of the herd. -/
def herdAnimal : ObjectModel where
  name := "Animal"
  specName := "Animal"
  superclassName := none
  properties := [herdId "String"]
  inheritedProperties := []
  initializerProperties := [herdId "String"]
  nestedModels := []
  subclasses := [⟨"Dog", "Dog"⟩]
  discriminator := none
  description := none

def herdDog : ObjectModel where
  name := "Dog"
  specName := "Dog"
  superclassName := some "Animal"
  properties := [herdId "Int32"]
  inheritedProperties := [herdId "String"]
  initializerProperties := [herdId "Int32"]
  nestedModels := []
  subclasses := [⟨"Puppy", "Puppy"⟩]
  discriminator := none
  description := none

def herdPuppy : ObjectModel where
  name := "Puppy"
  specName := "Puppy"
  superclassName := some "Dog"
  properties := [herdTag]
  inheritedProperties := [herdId "Int32", herdId "String"]
  initializerProperties := [herdTag, herdId "Int32", herdId "String"]
  nestedModels := []
  subclasses := []
  discriminator := none
  description := none

/-- What the methods of the herd's client are made for. -/
def herdMethods : MethodSynthesis :=
  ApiSource.methods ⟨herd, none, none⟩ (Language.swift.target ⟨[]⟩) {}

def herdCall (index : Nat) : Call :=
  let definition := herd.contents.definitions.getD index ("", {})
  ⟨[], definition.2, definition.1⟩

/-- A puppy inherits the identifier of a dog and that of an animal. -/
theorem inheritedProperties_eq_herd :
    ∃ api, synthesize "Zoo" ⟨herd, none, none⟩ (Language.swift.target ⟨[]⟩) {} = .ok api ∧
      api.verify.isEmpty ∧ Ancestry herdMethods api herdPuppy [herdDog, herdAnimal] ∧
        herdPuppy.inheritedProperties.map Property.bare =
          (herdDog.properties ++ herdAnimal.properties).map Property.bare := by
  obtain ⟨api, h, hreport, hmodels⟩ : ∃ api,
      synthesize "Zoo" ⟨herd, none, none⟩ (Language.swift.target ⟨[]⟩) {} = .ok api ∧
        api.verify.isEmpty ∧ api.objectModels = [herdAnimal, herdDog, herdPuppy] :=
    ⟨_, rfl, by decide +kernel, rfl⟩
  have hdog : herdMethods.ExtendsClass herdDog :=
    .of_yields (c := herdCall 1) (r := "#/definitions/Animal")
      (List.mem_cons_of_mem _ List.mem_cons_self) ⟨4, rfl⟩ ⟨nofun, rfl, rfl⟩ rfl rfl
      ⟨by decide, rfl, rfl⟩ rfl rfl
  have hpuppy : herdMethods.ExtendsClass herdPuppy :=
    .of_yields (c := herdCall 2) (r := "#/definitions/Dog")
      (List.mem_cons_of_mem _ (List.mem_cons_of_mem _ List.mem_cons_self)) ⟨5, rfl⟩
      ⟨nofun, rfl, rfl⟩ rfl rfl ⟨by decide, rfl, rfl⟩ rfl rfl
  have hanimal : herdAnimal ∈ api.objectModels := by simp [hmodels]
  have hline : Ancestry herdMethods api herdPuppy [herdDog, herdAnimal] :=
    .link hpuppy (by simp [hmodels]) rfl (.link hdog hanimal rfl (.root hanimal rfl))
  exact ⟨api, h, hreport, hline, (inheritedProperties_eq h hreport).2 _ _ hline⟩

/-- The way up from a model ends: at a model that stops, or beyond the only emitted model that has the
name of the superclass. -/
inductive LeadsUp (x : MethodSynthesis) (api : Api) : ObjectModel → Prop
  | stop {m : ObjectModel} (stops : x.Stops m) : LeadsUp x api m
  | up {m s : ObjectModel} (names : m.superclassName = some s.name)
      (only : api.models.filter (fun other => other.name == s.name) = [.object s])
      (above : LeadsUp x api s) : LeadsUp x api m

/-- In a client without problems, every way up along superclasses ends. The call that makes a model has a
deeper run than the one that makes its superclass, so the induction is on the run. -/
theorem superclasses_leadUp {name : String} {source : ApiSource} {target : Target}
    {options : Options} {api : Api} (h : synthesize name source target options = .ok api)
    (hreport : api.verify.isEmpty) :
    ∀ m ∈ api.objectModels, LeadsUp (source.methods target options) api m := by
  intro m hm
  obtain ⟨c, cls, hmakes⟩ := exists_makesModel h hm
  obtain ⟨rest, hyields⟩ := hmakes.makes.yields
  have hdeep := hyields.acc
  clear hyields
  induction hdeep generalizing m cls with
  | intro c _ ih =>
    cases hr : cls.superclass with
    | none =>
      have hnone := (hmakes.makes.of_superclass_none hr).1
      rw [ObjectModel.superclassName_of_core hmakes.core] at hnone
      exact .stop (.root hnone)
    | some r =>
      by_cases habove :
          ∃ above, (source.methods target options).models.Makes
            ((source.methods target options).models.superclassCall c r) above
      · obtain ⟨above, habove⟩ := habove
        obtain ⟨s, hs, hcore, hname, _⟩ := exists_superclass h hmakes hr habove
        have honly := filter_name_of_verify hreport (object_mem_models hs)
        have hneeds := hmakes.makes.needs_superclass hr
        have hmakes' : (source.methods target options).MakesModel _ above s :=
          ⟨hmakes.runs.needs hneeds, habove, hcore.symm⟩
        exact .up hname honly (ih _ hneeds s hs above hmakes')
      · exact .stop (hmakes.stops hr fun above h => habove ⟨above, h⟩)

/-- Puppies, dogs and animals lead up. -/
theorem superclasses_leadUp_herd :
    ∃ api, synthesize "Zoo" ⟨herd, none, none⟩ (Language.swift.target ⟨[]⟩) {} = .ok api ∧
      api.verify.isEmpty ∧ api.objectModels.map (·.name) = ["Animal", "Dog", "Puppy"] ∧
        ∀ m ∈ api.objectModels,
          LeadsUp (ApiSource.methods ⟨herd, none, none⟩ (Language.swift.target ⟨[]⟩) {}) api m := by
  refine ⟨_, rfl, by decide +kernel, rfl, ?_⟩
  exact superclasses_leadUp rfl (by decide +kernel)

def kennelJson : Json :=
  .object [
    ("paths", .object []),
    ("definitions", .object [
      ("Names", .object [
        ("type", .string "array"), ("items", .object [("type", .string "string")])]),
      ("Dog", .object [("allOf", .array [
        .object [("$ref", .string "#/definitions/Names")],
        .object [("properties", .object [("bark", .object [("type", .string "string")])])]])]),
      ("Node", .object [("allOf", .array [
        .object [("$ref", .string "#/definitions/Node")],
        .object [("properties", .object [("next", .object [("type", .string "string")])])]])])])]

/-- A document in which dogs are lists of names, and nodes are nodes. -/
def kennel : Document where
  raw := kennelJson.settle
  contents := {
    definitions := [
      ("Names", { type := some "array", items := some { type := some "string" } }),
      ("Dog", {
        allOf := some [
          { reference := some "#/definitions/Names" },
          { properties := some [("bark", { type := some "string" })] }] }),
      ("Node", {
        allOf := some [
          { reference := some "#/definitions/Node" },
          { properties := some [("next", { type := some "string" })] }] })] }
  reads := rfl
  distinct := kennelJson.settle_distinct

/-- The superclass of dogs is no model, and nodes are their own superclass. -/
theorem superclasses_go_wrong :
    ∃ api, synthesize "Kennel" ⟨kennel, none, none⟩ (Language.swift.target ⟨[]⟩) {} = .ok api ∧
      api.verify.isEmpty ∧
      (∃ dog ∈ api.objectModels, dog.superclassName = some "Array<String>") ∧
      (∀ m ∈ api.objectModels, m.name ≠ "Array<String>") ∧
      ∃ node ∈ api.objectModels, node.superclassName = some node.name :=
  ⟨_, rfl, by decide +kernel, by decide, by decide, by decide⟩

end Api

end SwaggerClient
