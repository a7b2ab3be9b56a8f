import SwaggerClient.Language.Builtin
import SwaggerClient.Model.Synthesis
import SwaggerClient.Proofs.Reference.Parts
import SwaggerClient.Proofs.Reference.Termination

namespace SwaggerClient

namespace Schema

theorem shape_eq_object_iff {s : Schema} {properties : List (String × Schema)} :
    s.shape = .object properties ↔
      s.values = none ∧ s.properties = some properties ∧ s.mayBeObject := by
  unfold shape mayBeObject
  constructor
  · intro h
    split at h
    · cases h
    · next hv =>
      split at h
      · cases h
      · split at h
        · next ps hp =>
          split at h
          · next ho =>
            obtain rfl := Shape.object.inj h
            exact ⟨hv, hp, ho⟩
          · cases h
        · cases h
  · rintro ⟨hv, hp, ho⟩
    have harray : ¬s.type == some "array" := by
      intro h
      simp [eq_of_beq h] at ho
    simp [hv, hp, ho, harray]

theorem shape_eq_enumeration_iff {s : Schema} {type : Option String} {values : List EnumValue} :
    s.shape = .enumeration type values ↔ s.values = some values ∧ s.type = type := by
  unfold shape
  constructor
  · intro h
    split at h
    · next hv =>
      obtain ⟨rfl, rfl⟩ := Shape.enumeration.inj h
      exact ⟨hv, rfl⟩
    · split at h
      · cases h
      · split at h
        · split at h <;> cases h
        · cases h
  · rintro ⟨hv, rfl⟩
    simp [hv]

theorem items_of_shape {s : Schema} {items : Option Schema} (h : s.shape = .array items) :
    s.items = items := by
  unfold shape at h
  split at h
  · cases h
  · split at h
    · exact Shape.array.inj h
    · split at h
      · split at h <;> cases h
      · cases h

end Schema

namespace ModelSynthesis

variable {x : ModelSynthesis}

theorem step_nil (x : ModelSynthesis) (again : Step) (s : Schema) (name : String) :
    x.step again [] s name =
      x.document.resolve .onlyReferences s >>= fun base =>
        x.document.resolve (.full (superclassReference base)) base >>= fun full =>
          x.fromFull again [] (x.modelName s name) (specName s name) (superclassReference base)
            full := by
  unfold step
  cases s.reference.isSome <;> rfl

theorem fromSchema_eq_ok {s : Schema} {name : String} {made : Synthesized}
    (h : x.fromSchema s name = .ok made) :
    ∃ again base full, x.document.resolve .onlyReferences s = .ok base ∧
      x.document.resolve (.full (superclassReference base)) base = .ok full ∧
      x.fromFull again [] (x.modelName s name) (specName s name) (superclassReference base) full =
        .ok made := by
  unfold fromSchema at h
  cases hdepth : x.depthBound s with
  | zero =>
    rw [hdepth] at h
    cases h
  | succ depth =>
    rw [hdepth, within, step_nil] at h
    obtain ⟨base, hbase, h⟩ := bind_eq_ok.mp h
    obtain ⟨full, hfull, h⟩ := bind_eq_ok.mp h
    exact ⟨x.within depth, base, full, hbase, hfull, h⟩

theorem fromFull_object {again : Step} {building : List String} {name specName : String}
    {superclass : Option String} {full : Schema} {properties : List (String × Schema)}
    {made : Synthesized} (hs : full.shape = .object properties)
    (h : x.fromFull again building name specName superclass full = .ok made) :
    made.type = ⟨name, none⟩ ∧ ∃ m rest, made.models = .object m :: rest ∧ m.name = name := by
  simp only [fromFull, hs] at h
  obtain ⟨models, hmodels, h⟩ := bind_eq_ok.mp h
  obtain ⟨members, _, hmodels⟩ := bind_eq_ok.mp hmodels
  obtain ⟨parent, _, hmodels⟩ := bind_eq_ok.mp hmodels
  obtain rfl := Except.ok.inj hmodels
  obtain rfl := Except.ok.inj h
  exact ⟨rfl, _, _, rfl, rfl⟩

theorem fromFull_enumeration {again : Step} {building : List String} {name specName : String}
    {superclass : Option String} {full : Schema} {type : Option String} {values : List EnumValue}
    {made : Synthesized} (hs : full.shape = .enumeration type values)
    (h : x.fromFull again building name specName superclass full = .ok made) :
    made.type = ⟨name, none⟩ ∧ ∃ m, made.models = [.enumeration m] ∧ m.name = name := by
  simp only [fromFull, hs] at h
  obtain ⟨model, hmodel, h⟩ := bind_eq_ok.mp h
  obtain ⟨type, _, hmodel⟩ := bind_eq_ok.mp hmodel
  obtain rfl := Except.ok.inj hmodel
  obtain rfl := Except.ok.inj h
  exact ⟨rfl, _, rfl, rfl⟩

section Shape

variable {s base complete full : Schema} {d : Document}
  (hcomplete : d.resolve (.full none) s = .ok complete)
  (hbase : d.resolve .onlyReferences s = .ok base)
  (hfull : d.resolve (.full (superclassReference base)) base = .ok full)

include hcomplete hbase hfull

theorem part_complete {P : Schema → Prop} (hP : ∀ e, Document.Part e P) (h : P full) :
    P complete := by
  have hbefore := ((Document.expands_of_resolve hfull).part_iff (hP _)).mp h
  have hways := Document.reaches_of_base (hP _) (Document.expands_of_resolve hbase) hbefore
  exact ((Document.expands_of_resolve hcomplete).part_iff (hP _)).mpr hways

/-- What is an object altogether is one without its superclass exactly if it has properties then, and no
other type. -/
theorem shape_object_iff_of_complete {properties : List (String × Schema)}
    (hobject : complete.shape = .object properties) :
    (∃ own, full.shape = .object own) ↔
      d.Reaches (.full (superclassReference base)) base (fun u => u.properties.isSome) ∧
        full.mayBeObject := by
  have hproperties := (Document.expands_of_resolve hfull).part_iff (Document.part_properties _)
  rw [← hproperties]
  constructor
  · rintro ⟨own, hown⟩
    obtain ⟨_, hp, ho⟩ := Schema.shape_eq_object_iff.mp hown
    exact ⟨by simp [hp], ho⟩
  · rintro ⟨hp, ho⟩
    obtain ⟨own, hown⟩ := Option.isSome_iff_exists.mp hp
    obtain ⟨hnone, _, _⟩ := Schema.shape_eq_object_iff.mp hobject
    have hvalues : full.values = none := by
      by_contra hv
      have hsome := part_complete hcomplete hbase hfull Document.part_values
        (Option.isSome_iff_ne_none.mpr hv)
      simp [hnone] at hsome
    exact ⟨own, Schema.shape_eq_object_iff.mpr ⟨hvalues, hown, ho⟩⟩

omit hcomplete hbase in
theorem shape_enumeration_iff :
    (∃ type values, full.shape = .enumeration type values) ↔
      d.Reaches (.full (superclassReference base)) base fun u => u.values.isSome := by
  rw [← (Document.expands_of_resolve hfull).part_iff (Document.part_values _)]
  constructor
  · rintro ⟨type, values, hs⟩
    simp [(Schema.shape_eq_enumeration_iff.mp hs).1]
  · intro hv
    obtain ⟨values, hvalues⟩ := Option.isSome_iff_exists.mp hv
    exact ⟨full.type, values, Schema.shape_eq_enumeration_iff.mpr ⟨hvalues, rfl⟩⟩

end Shape

/-- A schema that is an object altogether becomes an object model of its own name if, without its
superclass, it still has properties and no other type than that of objects; one that is an enumeration
becomes one if its superclass is not alone in listing values. -/
theorem fromSchema_of_complete {s base complete full : Schema} {name : String} {made : Synthesized}
    (hcomplete : x.document.resolve (.full none) s = .ok complete)
    (hbase : x.document.resolve .onlyReferences s = .ok base)
    (hfull : x.document.resolve (.full (superclassReference base)) base = .ok full)
    (hmade : x.fromSchema s name = .ok made) :
    (∀ properties, complete.shape = .object properties →
      x.document.Reaches (.full (superclassReference base)) base (fun u => u.properties.isSome) →
      full.mayBeObject →
      made.type = ⟨x.modelName s name, none⟩ ∧
        ∃ m rest, made.models = .object m :: rest ∧ m.name = x.modelName s name) ∧
    (∀ type values, complete.shape = .enumeration type values →
      x.document.Reaches (.full (superclassReference base)) base (fun u => u.values.isSome) →
      made.type = ⟨x.modelName s name, none⟩ ∧
        ∃ m, made.models = [.enumeration m] ∧ m.name = x.modelName s name) := by
  obtain ⟨again, base', full', hbase', hfull', h⟩ := fromSchema_eq_ok hmade
  obtain rfl := Except.ok.inj (hbase.symm.trans hbase')
  obtain rfl := Except.ok.inj (hfull.symm.trans hfull')
  refine ⟨fun properties hobject hproperties htype => ?_, fun type values _ hvalues => ?_⟩
  · obtain ⟨own, hown⟩ :=
      (shape_object_iff_of_complete hcomplete hbase hfull hobject).mpr ⟨hproperties, htype⟩
    exact fromFull_object hown h
  · obtain ⟨type, values, hs⟩ := (shape_enumeration_iff hfull).mpr hvalues
    exact fromFull_enumeration hs h

def creaturesJson : Json :=
  .object [
    ("paths", .object []),
    ("definitions", .object [
      ("Animal", .object [
        ("type", .string "object"),
        ("properties", .object [("name", .object [("type", .string "string")])])]),
      ("Kind", .object [("type", .string "string"), ("enum", .array [.string "cat", .string "dog"])])])]

def creatures : Document where
  raw := creaturesJson.settle
  contents := {
    definitions := [
      ("Animal", { type := some "object", properties := some [("name", { type := some "string" })] }),
      ("Kind", { type := some "string", values := some [.string "cat", .string "dog"] })] }
  reads := rfl
  distinct := creaturesJson.settle_distinct

def creatureModels : ModelSynthesis := ⟨creatures, Language.swift.target ⟨[]⟩, false⟩

def animal : Schema := { reference := some "#/definitions/Animal" }

def kind : Schema := { reference := some "#/definitions/Kind" }

/-- A cat has a name as an animal and a tag of its own; a breed is a kind with one more value. -/
theorem fromSchema_of_complete_cat :
    let cat : Schema := { properties := some [("tag", {})], allOf := some [animal] }
    let breed : Schema := { values := some [.string "lynx"], allOf := some [kind] }
    (∃ made, creatureModels.fromSchema cat "Cat" = .ok made ∧ made.type = ⟨"Cat", none⟩ ∧
      ∃ m rest, made.models = .object m :: rest ∧ m.name = "Cat") ∧
    (∃ made, creatureModels.fromSchema breed "Breed" = .ok made ∧ made.type = ⟨"Breed", none⟩ ∧
      ∃ m, made.models = [.enumeration m] ∧ m.name = "Breed") := by
  intro cat breed
  refine ⟨?_, ?_⟩
  · obtain ⟨made, hmade⟩ : ∃ made, creatureModels.fromSchema cat "Cat" = .ok made := ⟨_, rfl⟩
    exact ⟨made, hmade, (fromSchema_of_complete rfl rfl rfl hmade).1 _ rfl ⟨[], _, .here, rfl⟩ rfl⟩
  · obtain ⟨made, hmade⟩ : ∃ made, creatureModels.fromSchema breed "Breed" = .ok made := ⟨_, rfl⟩
    exact ⟨made, hmade, (fromSchema_of_complete rfl rfl rfl hmade).2 _ _ rfl ⟨[], _, .here, rfl⟩⟩

/-- Schemas that are objects or an enumeration altogether and become neither: the properties or the
values, or the type that makes an object of them, come from the superclass alone. -/
theorem fromSchema_superclass_alone :
    let cat : Schema := { allOf := some [animal] }
    let breed : Schema := { allOf := some [kind] }
    let label : Schema :=
      { properties := some [("tag", {})], allOf := some [{ type := some "string" }, animal] }
    ((creatures.resolve (.full none) cat).map Schema.shape =
        .ok (.object [("name", { type := some "string" })]) ∧
      creatureModels.fromSchema cat "Cat" = .ok ⟨⟨"Void", none⟩, []⟩) ∧
    ((creatures.resolve (.full none) breed).map Schema.shape =
        .ok (.enumeration (some "string") [.string "cat", .string "dog"]) ∧
      creatureModels.fromSchema breed "Breed" = .ok ⟨⟨"Void", none⟩, []⟩) ∧
    ((creatures.resolve (.full none) label).map Schema.shape =
        .ok (.object [("name", { type := some "string" }), ("tag", {})]) ∧
      creatureModels.fromSchema label "Label" = .ok ⟨⟨"String", none⟩, []⟩) :=
  ⟨⟨rfl, rfl⟩, ⟨rfl, rfl⟩, ⟨rfl, rfl⟩⟩

end ModelSynthesis

end SwaggerClient
