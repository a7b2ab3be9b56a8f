import SwaggerClient.Api.Synthesis
import SwaggerClient.Language.Builtin
import SwaggerClient.Proofs.Api.Gathering
import SwaggerClient.Proofs.Model.Inheritance

namespace SwaggerClient

namespace MethodSynthesis

open Model

variable {x : MethodSynthesis}

theorem params_grounded {methodName : String} {declared : List Parameter}
    {made : List Param × List Model} (h : x.params methodName declared = .ok made) :
    Grounded made.2 := by
  rw [params_eq] at h
  obtain ⟨each, heach, rfl⟩ := map_eq_ok.mp h
  refine grounded_flatMap fun param hparam => ?_
  obtain ⟨_, _, hparam⟩ := mapM_comes heach hparam
  obtain ⟨_, inner, _, hinner, hmodels⟩ := declaredParam_eq_ok hparam
  exact hmodels ▸ ModelSynthesis.fromSchema_grounded hinner

theorem method_grounded {path : String} {item : PathItem} {httpMethod : HttpMethod} {op : Operation}
    {made : Method × List Model} (h : x.method path item httpMethod op = .ok made) :
    Grounded made.2 := by
  obtain ⟨params, _, response, hparams, _, hresponse, rfl⟩ := method_eq_ok.mp h
  obtain ⟨_, inner, _, hinner, hmodels⟩ := declaredResponse_eq_ok hresponse
  exact (params_grounded hparams).append (hmodels ▸ ModelSynthesis.fromSchema_grounded hinner)

theorem methods_grounded {operations : List (String × PathItem × HttpMethod × Operation)}
    {made : List Method × List Model} (h : x.methods operations = .ok made) : Grounded made.2 := by
  rw [methods_eq] at h
  obtain ⟨each, heach, rfl⟩ := map_eq_ok.mp h
  refine grounded_flatMap fun method hmethod => ?_
  obtain ⟨_, _, hmethod⟩ := mapM_comes heach hmethod
  exact method_grounded hmethod

theorem definitionModels_grounded {definitions : List (String × Schema)} {models : List Model}
    (h : x.definitionModels definitions = .ok models) : Grounded models := by
  rw [definitionModels_eq] at h
  obtain ⟨each, heach, rfl⟩ := map_eq_ok.mp h
  refine grounded_flatMap fun made hmade => ?_
  obtain ⟨_, _, hmade⟩ := mapM_comes heach hmade
  exact ModelSynthesis.fromSchema_grounded hmade

theorem synthesize_grounded {made : RawApi} (h : x.synthesize = .ok made) :
    Grounded made.models := by
  obtain ⟨⟨methods, models⟩, hmethods, h⟩ := bind_eq_ok.mp h
  obtain ⟨more, hmore, h⟩ := bind_eq_ok.mp h
  obtain rfl := Except.ok.inj h
  have hmodels := methods_grounded hmethods
  exact hmodels.append (definitionModels_grounded hmore)

end MethodSynthesis

namespace ObjectModel

theorem bare_properties (m : ObjectModel) :
    m.bare.properties = m.properties.map Property.bare := by
  cases m; rfl

theorem exists_mem_linkSubclasses {models : List Model} {a : ObjectModel}
    (ha : a ∈ Model.objects models) :
    ∃ kept ∈ linkSubclasses (Model.objects (Model.dedupe models)),
      kept.properties.map Property.bare = a.properties.map Property.bare := by
  have hmem := Model.mem_objects.mp ha
  rcases Model.exists_mem_dedupeAfter [] hmem with h | ⟨kept, hkept, e⟩
  · simp at h
  · cases kept with
    | enumeration m => cases e
    | object m =>
      have hbare : m.bare = a.bare := Model.object.inj e
      refine ⟨_, List.mem_map_of_mem (Model.mem_objects.mpr hkept), ?_⟩
      rw [← bare_properties a, ← hbare, bare_properties]

theorem exists_ancestors {models : List Model} {ancestors : List ObjectModel}
    (h : ancestors ⊆ Model.objects models) :
    ∃ kept, kept ⊆ linkSubclasses (Model.objects (Model.dedupe models)) ∧
      (ancestors.flatMap (·.properties)).map Property.bare =
        (kept.flatMap (·.properties)).map Property.bare := by
  induction ancestors with
  | nil => exact ⟨[], by simp, rfl⟩
  | cons a rest ih =>
    obtain ⟨ha, hrest⟩ := List.cons_subset.mp h
    obtain ⟨first, hfirst, e⟩ := exists_mem_linkSubclasses ha
    obtain ⟨kept, hkept, e'⟩ := ih hrest
    refine ⟨first :: kept, List.cons_subset.mpr ⟨hfirst, hkept⟩, ?_⟩
    rw [List.flatMap_cons, List.flatMap_cons, List.map_append, List.map_append, e, e']

end ObjectModel

namespace Api

theorem synthesize_derived {name : String} {source : ApiSource} {target : Target}
    {options : Options} {api : Api} (h : synthesize name source target options = .ok api) :
    ∀ top ∈ api.objectModels, top.Everywhere (ObjectModel.Derived api.objectModels) := by
  obtain ⟨raw, hraw, h⟩ := bind_eq_ok.mp h
  obtain rfl := Except.ok.inj h
  have hgrounded := MethodSynthesis.synthesize_grounded hraw
  have hkept : ∀ m : ObjectModel, m.Derived (Model.objects raw.models) →
      m.Derived (ObjectModel.linkSubclasses (Model.objects (Model.dedupe raw.models))) := by
    intro m hm
    obtain ⟨ancestors, hsub, hinherited⟩ := hm.inherited
    obtain ⟨kept, hkept, hbare⟩ := ObjectModel.exists_ancestors hsub
    exact ⟨⟨kept, hkept, hinherited.trans hbare⟩, hm.initializer⟩
  intro top htop
  obtain ⟨m, hm, rfl⟩ := List.mem_map.mp htop
  have hm' : m ∈ Model.objects raw.models :=
    Model.objects_subset (Model.dedupeAfter_subset [] raw.models) hm
  cases hgrounded.everywhere m hm' with
  | intro _ here below =>
    refine .intro _ (hkept _ ⟨here.inherited, here.initializer⟩) fun n hn => ?_
    exact (below n hn).mono hkept

/-- When the properties that are needed to make an object have distinct names, for every object model of
a client, at every depth. -/
theorem initializer_names_nodup_iff {name : String} {source : ApiSource} {target : Target}
    {options : Options} {api : Api} (h : synthesize name source target options = .ok api) :
    ∀ top ∈ api.objectModels, top.Everywhere fun m =>
      ∃ ancestors, ancestors ⊆ api.objectModels ∧
        m.inheritedProperties.map Property.bare =
          (ancestors.flatMap (·.properties)).map Property.bare ∧
        ((m.initializerProperties.map (·.name)).Nodup ↔
          (m.properties.map (·.name)).Nodup ∧
            ∀ name, name ∉ m.properties.map (·.name) →
              ((ancestors.flatMap (·.properties)).map (·.name)).count name ≤ 1) :=
  fun top htop => (synthesize_derived h top htop).mono fun _ hm =>
    ModelSynthesis.initializer_nodup_iff_of_derived hm

def herdJson : Json :=
  .object [
    ("paths", .object []),
    ("definitions", .object [
      ("Animal", .object [("properties", .object [("id", .object [("type", .string "string")])])]),
      ("Dog", .object [("allOf", .array [
        .object [("$ref", .string "#/definitions/Animal")],
        .object [("properties", .object [("id", .object [("type", .string "integer")])])]])]),
      ("Puppy", .object [("allOf", .array [
        .object [("$ref", .string "#/definitions/Dog")],
        .object [("properties", .object [("tag", .object [("type", .string "string")])])]])])])]

/-- A document in which dogs give their identifier another type, and puppies are dogs. -/
def herd : Document where
  raw := herdJson.settle
  contents := {
    definitions := [
      ("Animal", { properties := some [("id", { type := some "string" })] }),
      ("Dog", {
        allOf := some [
          { reference := some "#/definitions/Animal" },
          { properties := some [("id", { type := some "integer" })] }] }),
      ("Puppy", {
        allOf := some [
          { reference := some "#/definitions/Dog" },
          { properties := some [("tag", { type := some "string" })] }] })] }
  reads := rfl
  distinct := herdJson.settle_distinct

/-- The ancestors of a puppy have the identifier twice, and a puppy has none of its own. -/
theorem initializer_names_nodup_iff_herd :
    ∃ api puppy ancestors,
      synthesize "Zoo" ⟨herd, none, none⟩ (Language.swift.target ⟨[]⟩) {} = .ok api ∧
        puppy ∈ api.objectModels ∧ ancestors ⊆ api.objectModels ∧
          puppy.properties.map (·.name) = ["tag"] ∧
            ((ancestors.flatMap (·.properties)).map (·.name)).count "id" = 2 ∧
              ¬(puppy.initializerProperties.map (·.name)).Nodup := by
  obtain ⟨api, puppy, h, hpuppy, hown, hinherited⟩ : ∃ api puppy,
      synthesize "Zoo" ⟨herd, none, none⟩ (Language.swift.target ⟨[]⟩) {} = .ok api ∧
        puppy ∈ api.objectModels ∧ puppy.properties.map (·.name) = ["tag"] ∧
          puppy.inheritedProperties.map (·.name) = ["id", "id"] :=
    ⟨_, _, rfl, List.mem_cons_of_mem _ (List.mem_cons_of_mem _ List.mem_cons_self), rfl, rfl⟩
  obtain ⟨ancestors, hancestors, hbare, hiff⟩ := (initializer_names_nodup_iff h puppy hpuppy).here
  have hnames : (ancestors.flatMap (·.properties)).map (·.name) = ["id", "id"] := by
    have hmapped := congrArg (List.map (·.name)) hbare
    rw [List.map_map, List.map_map] at hmapped
    exact hmapped.symm.trans hinherited
  refine ⟨api, puppy, ancestors, h, hpuppy, hancestors, hown, by simp [hnames], fun hnodup => ?_⟩
  have hcount := (hiff.mp hnodup).2 "id" (by simp [hown])
  simp [hnames] at hcount

/-- A puppy has the identifier of a dog and that of an animal. -/
theorem initializer_names_repeat :
    ∃ api puppy, synthesize "Zoo" ⟨herd, none, none⟩ (Language.swift.target ⟨[]⟩) {} = .ok api ∧
      puppy ∈ api.objectModels ∧
      puppy.initializerProperties.map (fun p => (p.name, p.type)) =
        [("tag", "String"), ("id", "Int32"), ("id", "String")] ∧
      ¬(puppy.initializerProperties.map (·.name)).Nodup := by
  refine ⟨_, _, rfl, List.mem_cons_of_mem _ (List.mem_cons_of_mem _ List.mem_cons_self), ?_⟩
  exact ⟨rfl, by decide⟩

end Api

end SwaggerClient
