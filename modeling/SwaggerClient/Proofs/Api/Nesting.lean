import SwaggerClient.Proofs.Api.Superclass
import SwaggerClient.Proofs.Model.Nesting

namespace SwaggerClient

open ModelSynthesis

namespace MethodSynthesis

/-- The nested models of the model are those of the members for a schema's properties, and the model is well named
exactly if their names are apart. If these are made of the properties alone, the keys decide: the names made of them
are to be apart, for which no two keys may have the same words. -/
def Scopes (x : MethodSynthesis) (m : ObjectModel) : Prop :=
  ∃ c cls members, x.Runs c ∧ x.models.Scope c cls members m ∧
    (WellNamed members m ↔ Apart (m.nestedModels.map (·.name))) ∧
      (x.models.Direct c cls.full →
        (WellNamed members m ↔ Apart ((nestedKeys members).map (x.models.nestedName m.name))) ∧
          (WellNamed members m → ((nestedKeys members).map Naming.lowerWords).Nodup))

variable {x : MethodSynthesis} {m : ObjectModel}

theorem Constructs.scope (h : x.Constructs m) :
    ∃ c cls members, x.Runs c ∧ x.models.Scope c cls members m := by
  obtain ⟨c, cls, hruns, hmakes, hm⟩ := h
  obtain ⟨members, hscope⟩ := hmakes.scope m.subclasses
  rw [← hm] at hscope
  exact ⟨c, cls, members, hruns, hscope⟩

theorem Constructs.scopes (h : x.Constructs m) : x.Scopes m := by
  obtain ⟨c, cls, members, hruns, hscope⟩ := h.scope
  have hiff := hscope.wellNamed_iff
  refine ⟨c, cls, members, hruns, hscope, hiff, fun hdirect => ⟨?_, hscope.nodup_words hdirect⟩⟩
  rw [← hscope.nested_names hdirect]
  exact hiff

theorem Constructs.nested (h : x.Constructs m) {n : ObjectModel} (hn : n ∈ m.nestedModels) :
    x.Constructs n := by
  obtain ⟨c, cls, members, ⟨root, hroot, hreach⟩, hscope⟩ := h.scope
  obtain ⟨c', cls', hreach', hmakes', rfl⟩ := hscope.origin hn
  refine ⟨c', cls', ⟨root, hroot, hreach.trans hreach'⟩, hmakes', ?_⟩
  cases cls'.model
  rfl

end MethodSynthesis

namespace Api

/-- Each model of a client, at every depth, has its nested models from the properties that its schema declares in
place, one for each of which an object model is made, in order. They have names of their own, so that the type of
such a property names the model made of its schema and no other, exactly if the names made of the keys are apart,
unless compositions make something else of the properties. -/
theorem nested_scopes {name : String} {source : ApiSource} {target : Target} {options : Options} {api : Api}
    (h : synthesize name source target options = .ok api) :
    ∀ top ∈ api.objectModels, top.Everywhere (source.methods target options).Scopes :=
  fun top htop => ObjectModel.everywhere_of_nested (fun _ => MethodSynthesis.Constructs.scopes)
    (fun _ hm _ => hm.nested) top (constructs h htop)

def catteryJson : Json :=
  .object [
    ("paths", .object []),
    ("definitions", .object [
      ("Cat", .object [("properties", .object [
        ("owner", .object [("properties", .object [
          ("home_address", .object [("properties", .object [
            ("street", .object [("type", .string "string")])])])])]),
        ("collar", .object [("properties", .object [
          ("colour", .object [("type", .string "string")])])])])])])]

/-- A document in which cats have owners with addresses, and collars. -/
def cattery : Document where
  raw := catteryJson.settle
  contents := {
    definitions := [
      ("Cat", { properties := some [
        ("owner", { properties := some [
          ("home_address", { properties := some [("street", { type := some "string" })] })] }),
        ("collar", { properties := some [("colour", { type := some "string" })] })] })] }
  reads := rfl
  distinct := catteryJson.settle_distinct

/-- What the methods of the cattery's client are made for. -/
def catteryMethods : MethodSynthesis :=
  ApiSource.methods ⟨cattery, none, none⟩ (Language.swift.target ⟨[]⟩) {}

/-- The models in the model of a cat, and those in the model of its owner, have names of their own. -/
theorem nested_scopes_cattery :
    ∃ api cat owner, synthesize "Cattery" ⟨cattery, none, none⟩ (Language.swift.target ⟨[]⟩) {} = .ok api ∧
      api.verify.isEmpty ∧ cat ∈ api.objectModels ∧ owner ∈ cat.nestedModels ∧
        cat.nestedModels.map (·.name) = ["Owner", "Collar"] ∧
          owner.nestedModels.map (·.name) = ["HomeAddress"] ∧
            (∃ c cls members, catteryMethods.models.Scope c cls members cat ∧ WellNamed members cat) ∧
              ∃ c cls members, catteryMethods.models.Scope c cls members owner ∧
                WellNamed members owner := by
  obtain ⟨api, cat, owner, collar, h, hreport, hmodels, hnested, hnames, hinner⟩ :
      ∃ api cat owner collar,
        synthesize "Cattery" ⟨cattery, none, none⟩ (Language.swift.target ⟨[]⟩) {} = .ok api ∧
          api.verify.isEmpty ∧ api.objectModels = [cat] ∧ cat.nestedModels = [owner, collar] ∧
            cat.nestedModels.map (·.name) = ["Owner", "Collar"] ∧
              owner.nestedModels.map (·.name) = ["HomeAddress"] :=
    ⟨_, _, _, _, rfl, by decide +kernel, rfl, rfl, by decide +kernel, by decide +kernel⟩
  have hcat : cat ∈ api.objectModels := by simp [hmodels]
  have howner : owner ∈ cat.nestedModels := by simp [hnested]
  obtain ⟨_, hhere, hbelow⟩ := nested_scopes h cat hcat
  obtain ⟨_, howners, _⟩ := hbelow owner howner
  obtain ⟨_, _, _, _, hscope, hiff, _⟩ := hhere
  obtain ⟨_, _, _, _, hscope', hiff', _⟩ := howners
  refine ⟨api, cat, owner, h, hreport, hcat, howner, hnames, hinner, ⟨_, _, _, hscope, hiff.mpr ?_⟩,
    _, _, _, hscope', hiff'.mpr ?_⟩
  · rw [hnames]
    decide
  · rw [hinner]
    decide

def kittensJson : Json :=
  .object [
    ("paths", .object []),
    ("definitions", .object [
      ("Cat", .object [("properties", .object [
        ("home_address", .object [("properties", .object [
          ("street", .object [("type", .string "string")])])]),
        ("homeAddress", .object [("properties", .object [
          ("city", .object [("type", .string "string")])])]),
        ("--", .object [("properties", .object [
          ("colour", .object [("type", .string "string")])])])])])])]

/-- A document in which two keys have the same words, and one has none. -/
def kittens : Document where
  raw := kittensJson.settle
  contents := {
    definitions := [
      ("Cat", { properties := some [
        ("home_address", { properties := some [("street", { type := some "string" })] }),
        ("homeAddress", { properties := some [("city", { type := some "string" })] }),
        ("--", { properties := some [("colour", { type := some "string" })] })] })] }
  reads := rfl
  distinct := kittensJson.settle_distinct

/-- The report does not tell that nested models have the same name or none. -/
theorem nested_names_repeat :
    ∃ api cat, synthesize "Kittens" ⟨kittens, none, none⟩ (Language.swift.target ⟨[]⟩) {} = .ok api ∧
      api.verify.isEmpty ∧ cat ∈ api.objectModels ∧
        cat.nestedModels.map (·.name) = ["HomeAddress", "HomeAddress", ""] ∧
          cat.properties.map (·.type) = ["Cat.HomeAddress", "Cat.HomeAddress", "Cat."] ∧
            ∀ members, ¬WellNamed members cat := by
  obtain ⟨api, cat, h, hreport, hmodels, hnames, htypes⟩ :
      ∃ api cat, synthesize "Kittens" ⟨kittens, none, none⟩ (Language.swift.target ⟨[]⟩) {} = .ok api ∧
        api.verify.isEmpty ∧ api.objectModels = [cat] ∧
          cat.nestedModels.map (·.name) = ["HomeAddress", "HomeAddress", ""] ∧
            cat.properties.map (·.type) = ["Cat.HomeAddress", "Cat.HomeAddress", "Cat."] :=
    ⟨_, _, rfl, by decide +kernel, rfl, by decide +kernel, by decide +kernel⟩
  refine ⟨api, cat, h, hreport, by simp [hmodels], hnames, htypes, fun members hnamed => ?_⟩
  have hdistinct := hnamed.distinct
  rw [hnames] at hdistinct
  exact absurd hdistinct (by decide)

end Api

end SwaggerClient
