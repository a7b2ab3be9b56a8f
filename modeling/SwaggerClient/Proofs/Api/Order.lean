import SwaggerClient.Api.Synthesis
import SwaggerClient.Language.Builtin
import SwaggerClient.Proofs.Api.Extension
import SwaggerClient.Proofs.Api.Operations
import SwaggerClient.Proofs.Document.Change
import SwaggerClient.Proofs.Model.Selection

namespace SwaggerClient

namespace MethodSynthesis

variable {x : MethodSynthesis}

theorem methods_perm {operations more : List (String × PathItem × HttpMethod × Operation)}
    (hperm : operations.Perm more) {made : List Method × List Model}
    (h : x.methods operations = .ok made) :
    ∃ others, x.methods more = .ok others ∧ made.1.Perm others.1 ∧ made.2.Perm others.2 := by
  rw [methods_eq] at h
  obtain ⟨each, heach, rfl⟩ := map_eq_ok.mp h
  obtain ⟨others, hothers, hperm⟩ := mapM_perm hperm heach
  refine ⟨gather others, ?_, hperm.map _, hperm.flatMap_right _⟩
  rw [methods_eq, hothers]
  rfl

theorem definitionModels_perm {definitions more : List (String × Schema)}
    (hperm : definitions.Perm more) {made : List Model}
    (h : x.definitionModels definitions = .ok made) :
    ∃ others, x.definitionModels more = .ok others ∧ made.Perm others := by
  rw [definitionModels_eq] at h
  obtain ⟨each, heach, rfl⟩ := map_eq_ok.mp h
  obtain ⟨others, hothers, hperm⟩ := mapM_perm hperm heach
  refine ⟨others.flatMap (·.models), ?_, hperm.flatMap_right _⟩
  rw [definitionModels_eq, hothers]
  rfl

theorem synthesize_perm {raw : RawApi} (hraw : x.synthesize = .ok raw) {d' : Document}
    (h : x.document.Reorders d') :
    ∃ other, ({ x with document := d' } : MethodSynthesis).synthesize = .ok other ∧
      raw.methods.Perm other.methods ∧ raw.models.Perm other.models := by
  obtain ⟨made, hmade, hraw⟩ := bind_eq_ok.mp hraw
  obtain ⟨defined, hdefined, hraw⟩ := bind_eq_ok.mp hraw
  obtain rfl := Except.ok.inj hraw
  have hrelated := h.related
  have hoperations : (operations x.document).Perm (operations d') := hrelated.paths.flatMap_right _
  obtain ⟨methods, hmethods, hperm, hmodels⟩ :=
    methods_perm hoperations (methods_extends h.extends _ made hmade)
  obtain ⟨models, hdefinitions, hmore⟩ := definitionModels_perm hrelated.definitions.2
    (definitionModels_extends h.extends _ defined hdefined)
  rw [MethodSynthesis.synthesize, hmethods, ok_bind, hdefinitions]
  refine ⟨_, rfl, ?_, hmodels.append hmore⟩
  exact (List.mergeSort_perm _ _).trans (hperm.trans (List.mergeSort_perm _ _).symm)

end MethodSynthesis

namespace Api

open MethodSynthesis

variable {name : String} {source : ApiSource} {target : Target} {options : Options} {d' : Document}

theorem exists_reordered (h : source.document.Reorders d') {api : Api}
    (hapi : synthesize name source target options = .ok api) :
    ∃ api', synthesize name { source with document := d' } target options = .ok api' ∧
      (api.objectModels.map ObjectModel.unordered).Perm (api'.objectModels.map ObjectModel.unordered) ∧
      api.enumModels.Perm api'.enumModels ∧ api.methods.Perm api'.methods := by
  obtain ⟨raw, hraw, hapi⟩ := bind_eq_ok.mp hapi
  obtain rfl := Except.ok.inj hapi
  obtain ⟨other, hother, hmethods, hmodels⟩ := synthesize_perm hraw h
  have hkept := Model.dedupe_perm hmodels
  rw [synthesize, hother]
  refine ⟨_, rfl, ObjectModel.linkSubclasses_perm ?_, ?_, hmethods⟩
  · rw [← Model.objects_bare, ← Model.objects_bare]
    exact hkept.filterMap _
  · rw [← Model.enumerations_bare, ← Model.enumerations_bare (Model.dedupe other.models)]
    exact hkept.filterMap _

theorem methods_sorted {api : Api} (h : synthesize name source target options = .ok api) :
    api.methods.Pairwise fun a b => a.path ≤ b.path := by
  obtain ⟨raw, hraw, h⟩ := bind_eq_ok.mp h
  obtain rfl := Except.ok.inj h
  exact synthesize_sorted hraw

/-- A document in another order has a client if the document has one, and their clients are the same but for
the order and the descriptions of models. -/
theorem synthesize_reorders (h : source.document.Reorders d') :
    ((∃ api, synthesize name source target options = .ok api) ↔
      ∃ api, synthesize name { source with document := d' } target options = .ok api) ∧
    ∀ api api', synthesize name source target options = .ok api →
      synthesize name { source with document := d' } target options = .ok api' →
        (api.objectModels.map ObjectModel.unordered).Perm
          (api'.objectModels.map ObjectModel.unordered) ∧
        api.enumModels.Perm api'.enumModels ∧ api.methods.Perm api'.methods ∧
        api.methods.Pairwise (fun a b => a.path ≤ b.path) ∧
        api'.methods.Pairwise fun a b => a.path ≤ b.path := by
  refine ⟨⟨?_, ?_⟩, ?_⟩
  · rintro ⟨api, hapi⟩
    obtain ⟨api', hapi', _⟩ := exists_reordered h hapi
    exact ⟨api', hapi'⟩
  · rintro ⟨api', hapi'⟩
    have hback : ({ source with document := d' } : ApiSource).document.Reorders source.document := h.symm
    obtain ⟨api, hapi, _⟩ := exists_reordered hback hapi'
    exact ⟨api, hapi⟩
  · intro api api' hapi hapi'
    obtain ⟨other, hother, hobjects, henums, hmethods⟩ := exists_reordered h hapi
    obtain rfl := Except.ok.inj (hother.symm.trans hapi')
    exact ⟨hobjects, henums, hmethods, methods_sorted hapi, methods_sorted hapi'⟩

def animalDefinition : String × Json :=
  ("Animal", .object [("properties", .object [("id", .object [("type", .string "string")])])])

/-- The definition of an animal with one property more. -/
def kindDefinition (name key : String) : String × Json :=
  (name, .object [("allOf", .array [
    .object [("$ref", .string "#/definitions/Animal")],
    .object [("properties", .object [(key, .object [("type", .string "string")])])]])])

def kindPath (path name : String) : String × Json :=
  (path, .object [("get", .object [("responses", .object [("200", .object [
    ("schema", .object [("$ref", .string ("#/definitions/" ++ name))])])])])])

def farmJson (paths definitions : List (String × Json)) : Json :=
  .object [("paths", .object paths), ("definitions", .object definitions)]

def animalSchema : String × Schema :=
  ("Animal", { properties := some [("id", { type := some "string" })] })

def kindSchema (name key : String) : String × Schema :=
  (name, {
    allOf := some [
      { reference := some "#/definitions/Animal" },
      { properties := some [(key, { type := some "string" })] }] })

def kindItem (path name : String) : String × PathItem :=
  (path, PathItem.withOperation {} .get (some {
    responses := [("200", { schema := some { reference := some ("#/definitions/" ++ name) } })] }))

/-- A document with cows and hens. -/
def farm : Document where
  raw := (farmJson [kindPath "/cows" "Cow", kindPath "/hens" "Hen"]
    [animalDefinition, kindDefinition "Cow" "milk", kindDefinition "Hen" "egg"]).settle
  contents := {
    paths := [kindItem "/cows" "Cow", kindItem "/hens" "Hen"]
    definitions := [animalSchema, kindSchema "Cow" "milk", kindSchema "Hen" "egg"] }
  reads := rfl
  distinct := Json.settle_distinct _

/-- The same document, hens first. -/
def henFarm : Document where
  raw := (farmJson [kindPath "/hens" "Hen", kindPath "/cows" "Cow"]
    [kindDefinition "Hen" "egg", kindDefinition "Cow" "milk", animalDefinition]).settle
  contents := {
    paths := [kindItem "/hens" "Hen", kindItem "/cows" "Cow"]
    definitions := [kindSchema "Hen" "egg", kindSchema "Cow" "milk", animalSchema] }
  reads := rfl
  distinct := Json.settle_distinct _

theorem farm_reorders : farm.Reorders henFarm := by
  have hpaths : [kindPath "/cows" "Cow", kindPath "/hens" "Hen"].Perm
      [kindPath "/hens" "Hen", kindPath "/cows" "Cow"] := .swap _ _ _
  have hdefinitions : [animalDefinition, kindDefinition "Cow" "milk", kindDefinition "Hen" "egg"].Perm
      [kindDefinition "Hen" "egg", kindDefinition "Cow" "milk", animalDefinition] :=
    (List.reverse_perm _).symm
  exact .object (.cons ⟨rfl, _, _, rfl, rfl, hpaths⟩ (.cons ⟨rfl, _, _, rfl, rfl, hdefinitions⟩ .nil))

/-- Cows come before hens in one client, and hens before cows in the other. -/
theorem synthesize_reorders_farm :
    ∃ api api', synthesize "Farm" ⟨farm, none, none⟩ (Language.swift.target ⟨[]⟩) {} = .ok api ∧
      synthesize "Farm" ⟨henFarm, none, none⟩ (Language.swift.target ⟨[]⟩) {} = .ok api' ∧
      api.objectModels.map (·.name) = ["Cow", "Animal", "Hen"] ∧
      api'.objectModels.map (·.name) = ["Hen", "Animal", "Cow"] ∧
      (api.objectModels.map ObjectModel.unordered).Perm
        (api'.objectModels.map ObjectModel.unordered) ∧
      api.methods.Perm api'.methods := by
  obtain ⟨api, hapi, hnames⟩ : ∃ api, synthesize "Farm" ⟨farm, none, none⟩
    (Language.swift.target ⟨[]⟩) {} = .ok api ∧
      api.objectModels.map (·.name) = ["Cow", "Animal", "Hen"] := ⟨_, rfl, rfl⟩
  obtain ⟨api', hapi', hnames'⟩ : ∃ api, synthesize "Farm" ⟨henFarm, none, none⟩
    (Language.swift.target ⟨[]⟩) {} = .ok api ∧
      api.objectModels.map (·.name) = ["Hen", "Animal", "Cow"] := ⟨_, rfl, rfl⟩
  obtain ⟨hobjects, _, hmethods, _⟩ := (synthesize_reorders farm_reorders).2 api api' hapi hapi'
  exact ⟨api, api', hapi, hapi', hnames, hnames', hobjects, hmethods⟩

end Api

end SwaggerClient
