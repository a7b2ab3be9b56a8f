import SwaggerClient.Proofs.Model.ReferenceType

namespace SwaggerClient

namespace Schema

/-- The schema becomes a model, and its type is the name of that model. -/
def Shape.isNamed : Shape → Bool
  | .enumeration _ _ => true
  | .object _ => true
  | .array _ => false
  | .primitive _ _ => false

theorem shape_eq_primitive_iff {s : Schema} {type format : Option String} :
    s.shape = .primitive type format ↔
      s.values = none ∧ s.type ≠ some "array" ∧ (s.properties.isSome → s.mayBeObject = false) ∧
        s.type = type ∧ s.format = format := by
  unfold shape
  cases s.values with
  | some values => simp
  | none =>
    by_cases harray : s.type = some "array"
    · simp [harray]
    · cases hp : s.properties <;> cases ho : s.mayBeObject <;> simp [harray]

end Schema

namespace Target

variable {t : Target} {v : Schema} {type format : Option String}

theorem valueName_of_reference {r : String} (h : v.reference = some r) :
    t.valueName v = .ok (t.rules.classNameOfReference r) := by
  obtain ⟨reference, _, _, _, _, _, _, _, _, _, _⟩ := v
  obtain rfl : reference = some r := h
  rfl

theorem typeName?_eq_ok {additional : Option (Additional Schema)} {found : Option String} :
    t.typeName? type format additional = .ok found ↔
      ∃ inner, t.additionalName additional = .ok inner ∧ t.tableName? inner type format = found := by
  rw [typeName?, bind_eq_ok]
  exact exists_congr fun inner => and_congr_right fun _ => ⟨Except.ok.inj, congrArg Except.ok⟩

/-- The name of the values of a map, if their schema has no reference, is that of their type, which is not an
object. -/
theorem typeName?_of_valueName {name : String} (hr : v.reference = none) (h : t.valueName v = .ok name) :
    t.typeName? v.type v.format v.additional = .ok (some name) := by
  obtain ⟨reference, type, _, _, _, _, _, additional, _, _, _⟩ := v
  obtain rfl : reference = none := hr
  simp only [valueName] at h
  split at h
  · cases h
  · obtain ⟨inner, hinner, h⟩ := bind_eq_ok.mp h
    refine typeName?_eq_ok.mpr ⟨inner, hinner, ?_⟩
    split at h
    · next found hfound => exact hfound.trans (congrArg some (Except.ok.inj h))
    · cases h

end Target

namespace ModelSynthesis

variable {x : ModelSynthesis} {c : Call} {base full v : Schema} {made value : Synthesized}

theorem primitiveName_eq_ok {s : Schema} {type format : Option String}
    {additional : Option (Additional Schema)} {name : String} :
    x.primitiveName s type format additional = .ok name ↔
      x.target.typeName? type format additional = .ok (some name) := by
  rw [primitiveName, bind_eq_ok]
  constructor
  · rintro ⟨found, hfound, h⟩
    cases found with
    | none => cases h
    | some found =>
      obtain rfl := Except.ok.inj h
      exact hfound
  · exact fun h => ⟨some name, h, rfl⟩

/-- The type of a map or of a single value is named by the table. -/
theorem Yields.typeName {type format : Option String} (h : x.Yields c made) (hopens : x.Opens c base full)
    (hs : full.shape = .primitive type format) :
    x.target.typeName? type format full.additional = .ok (some made.type.name) := by
  obtain ⟨depth, hrun⟩ := h.run_succ
  rw [run_succ_of_opens hopens] at hrun
  obtain ⟨models, hrun⟩ := fromFull_primitive hs hrun
  obtain ⟨name, hname, hrun⟩ := bind_eq_ok.mp hrun
  obtain rfl := Except.ok.inj hrun
  exact primitiveName_eq_ok.mp hname

/-- The type of a map is made of the name that is looked up for its values. -/
theorem Yields.mapName {format : Option String} (h : x.Yields c made) (hopens : x.Opens c base full)
    (hs : full.shape = .primitive (some "object") format) (hv : full.additional = some (.schema v)) :
    ∃ entry inner, x.target.types.get? "object" = some entry ∧ x.target.valueName v = .ok inner ∧
      made.type.name = entry.resolve inner format := by
  obtain ⟨inner, hinner, hname⟩ := Target.typeName?_eq_ok.mp (h.typeName hopens hs)
  obtain ⟨entry, hentry, hname⟩ := Option.map_eq_some_iff.mp hname
  rw [hv] at hinner
  exact ⟨entry, inner, hentry, hinner, hname.symm⟩

/-- A schema with a reference has the class name of the reference, if it becomes a model or stands for the
one under construction. -/
theorem Yields.name_of_named {r : String} (h : x.Yields c value) (hr : c.schema.reference = some r)
    (hnamed : ∀ base full, x.Opens c base full → full.shape.isNamed) :
    value.type.name = x.target.rules.classNameOfReference r := by
  rcases h.answered_or_opens with ⟨r', hr', _, htype⟩ | ⟨base, full, hopens⟩
  · obtain rfl := Option.some.inj (hr.symm.trans hr')
    rw [htype]
  · obtain ⟨depth, hrun⟩ := h.run_succ
    rw [run_succ_of_opens hopens, nameOf_of_reference hr] at hrun
    have hnamed := hnamed base full hopens
    cases hs : full.shape with
    | enumeration type values => rw [(fromFull_enumeration hs hrun).1]
    | object properties => rw [(fromFull_object hs hrun).1]
    | array items =>
      rw [hs] at hnamed
      cases hnamed
    | primitive type format =>
      rw [hs] at hnamed
      cases hnamed

/-- The schema is neither a reference nor a composition. -/
structure InPlace (v : Schema) : Prop where
  reference : v.reference = none
  members : v.allOf.getD [] = []

theorem InPlace.resolve (hv : InPlace v) (d : Document) (e : Expansion) :
    d.resolve e v = .ok (if e.replaces v then Schema.merge {} (e.ownParts v) else v) := by
  have hfollows : e.follows? v.reference = none := by simp [Expansion.follows?, hv.reference]
  have hmembers : e.members v = [] := by simp [Expansion.members, hv.members]
  rw [Document.resolve, Document.resolveWithin_eq, Document.expand_eq]
  simp only [hfollows, hmembers, Document.expandMembers, ok_bind]
  split <;> rfl

/-- The second schema has all parts of the first that decide on its type. -/
structure SameType (v full : Schema) : Prop where
  type : full.type = v.type
  format : full.format = v.format
  values : full.values = v.values
  additional : full.additional = v.additional
  properties : full.properties.isSome = v.properties.isSome

/-- Nothing that decides on the type of a schema changes where nothing is to be replaced. -/
theorem Opens.sameType (hopens : x.Opens c base full) (hc : InPlace c.schema) :
    SameType c.schema full := by
  have hbase : base = c.schema := by
    have h := hopens.resolvesBase
    rw [hc.resolve, if_neg (by simp [Expansion.replaces, Expansion.onlyReferences, hc.reference])] at h
    exact (Except.ok.inj h).symm
  have h := hopens.resolvesFull
  rw [hbase, hc.resolve] at h
  obtain rfl := Except.ok.inj h
  split
  · refine ⟨by simp [Expansion.ownParts], by simp [Expansion.ownParts], by simp [Expansion.ownParts],
      by simp [Expansion.ownParts], ?_⟩
    rw [Schema.merge_properties]
    cases hp : c.schema.properties <;> simp [Expansion.ownParts, Schema.mergeProperties, hp]
  · exact ⟨rfl, rfl, rfl, rfl, rfl⟩

theorem Yields.opens_of_inPlace (h : x.Yields c value) (hc : InPlace c.schema) :
    ∃ base full, x.Opens c base full := by
  rcases h.answered_or_opens with ⟨r, hr, _⟩ | hopens
  · rw [hc.reference] at hr
    cases hr
  · exact hopens

/-- The type of a single value has the name that is looked up for the schema. -/
theorem Yields.name_of_primitive {type format : Option String} {name : String} (h : x.Yields c value)
    (hc : InPlace c.schema) (hs : c.schema.shape = .primitive type format)
    (hname : x.target.valueName c.schema = .ok name) : value.type.name = name := by
  obtain ⟨base, full, hopens⟩ := h.opens_of_inPlace hc
  have hsame := hopens.sameType hc
  obtain ⟨hvalues, harray, hproperties, rfl, rfl⟩ := Schema.shape_eq_primitive_iff.mp hs
  have hs' : full.shape = .primitive c.schema.type c.schema.format := by
    refine Schema.shape_eq_primitive_iff.mpr ⟨?_, ?_, ?_, hsame.type, hsame.format⟩
    · rw [hsame.values, hvalues]
    · rw [hsame.type]
      exact harray
    · rw [hsame.properties, Schema.mayBeObject, hsame.type]
      exact hproperties
  have hmade := h.typeName hopens hs'
  rw [hsame.additional, Target.typeName?_of_valueName hc.reference hname] at hmade
  exact (Option.some.inj (Except.ok.inj hmade)).symm

/-- The type of listed values has the name that is looked up for the schema. -/
theorem Yields.type_of_enumeration {type : Option String} {values : List EnumValue} {name : String}
    (h : x.Yields c value) (hc : InPlace c.schema) (hs : c.schema.shape = .enumeration type values)
    (ha : c.schema.additional.bind Additional.value? = none)
    (hname : x.target.valueName c.schema = .ok name) :
    ∃ m, value.models = [.enumeration m] ∧ m.type = name := by
  obtain ⟨base, full, hopens⟩ := h.opens_of_inPlace hc
  have hsame := hopens.sameType hc
  obtain ⟨hvalues, rfl⟩ := Schema.shape_eq_enumeration_iff.mp hs
  have hs' : full.shape = .enumeration c.schema.type values :=
    Schema.shape_eq_enumeration_iff.mpr ⟨hsame.values.trans hvalues, hsame.type⟩
  have hfree : x.target.additionalName c.schema.additional = x.target.additionalName none := by
    cases hadditional : c.schema.additional with
    | none => rfl
    | some a =>
      cases a with
      | allowed any => rfl
      | schema s => simp [hadditional, Additional.value?] at ha
  obtain ⟨depth, hrun⟩ := h.run_succ
  rw [run_succ_of_opens hopens] at hrun
  simp only [fromFull, hs'] at hrun
  obtain ⟨m, hm, hrun⟩ := bind_eq_ok.mp hrun
  obtain ⟨found, hfound, hm⟩ := bind_eq_ok.mp hm
  obtain rfl := Except.ok.inj hm
  obtain rfl := Except.ok.inj hrun
  refine ⟨_, rfl, ?_⟩
  have hlooked := Target.typeName?_of_valueName hc.reference hname
  have hfound := primitiveName_eq_ok.mp hfound
  rw [hsame.format, Target.typeName?, ← hfree] at hfound
  exact Option.some.inj (Except.ok.inj (hfound.symm.trans hlooked))

/-- The type of a map is made of the name that is looked up for its values, and so names their type: by the class
of a reference, which is the name of their type if they have a model of their own; by the type of a single value;
and by the type of listed values. -/
theorem map_type {format : Option String} (hopens : x.Opens c base full)
    (hs : full.shape = .primitive (some "object") format) (hv : full.additional = some (.schema v))
    (hmade : x.Yields c made) {building : List String} {name : String}
    (hvalue : x.Yields ⟨building, v, name⟩ value) :
    ∃ entry inner, x.target.types.get? "object" = some entry ∧ x.target.valueName v = .ok inner ∧
      made.type.name = entry.resolve inner format ∧
      (∀ r, v.reference = some r →
        made.type.name = entry.resolve (x.target.rules.classNameOfReference r) format ∧
          ((∀ base full, x.Opens ⟨building, v, name⟩ base full → full.shape.isNamed) →
            made.type.name = entry.resolve value.type.name format)) ∧
      (InPlace v →
        (∀ type inner, v.shape = .primitive type inner →
          made.type.name = entry.resolve value.type.name format) ∧
        ∀ type values, v.shape = .enumeration type values →
          ∃ declared, x.target.typeName? type v.format v.additional = .ok (some declared) ∧
            made.type.name = entry.resolve declared format ∧
              (v.additional.bind Additional.value? = none →
                ∃ m, value.models = [.enumeration m] ∧ m.type = declared)) := by
  obtain ⟨entry, inner, hentry, hinner, htype⟩ := hmade.mapName hopens hs hv
  refine ⟨entry, inner, hentry, hinner, htype, fun r hr => ?_, fun hplace => ⟨fun type inner' hshape => ?_,
    fun type values hshape => ?_⟩⟩
  · obtain rfl := Except.ok.inj (hinner.symm.trans (Target.valueName_of_reference hr))
    refine ⟨htype, fun hnamed => ?_⟩
    rw [hvalue.name_of_named hr hnamed, htype]
  · rw [hvalue.name_of_primitive hplace hshape hinner, htype]
  · obtain ⟨_, rfl⟩ := Schema.shape_eq_enumeration_iff.mp hshape
    exact ⟨inner, Target.typeName?_of_valueName hplace.reference hinner, htype,
      fun ha => hvalue.type_of_enumeration hplace hshape ha hinner⟩

def mapOf (v : Schema) : Schema :=
  { type := some "object", additional := some (.schema v) }

def named (name : String) : Schema :=
  { reference := some ("#/definitions/" ++ name) }

/-- A schema with one listed value. -/
def onlyRed : Schema :=
  { type := some "string", values := some [.string "red"] }

def texts : Schema :=
  { type := some "array", items := some { type := some "string" } }

/-- A document with an object and a list. -/
def shelter : Document where
  raw := (Json.object [
    ("paths", .object []),
    ("definitions", .object [
      ("Pet", .object [("properties", .object [("id", .object [("type", .string "string")])])]),
      ("Names", .object [
        ("type", .string "array"), ("items", .object [("type", .string "string")])])])]).settle
  contents := {
    definitions := [
      ("Pet", { properties := some [("id", { type := some "string" })] }),
      ("Names", texts)] }
  reads := rfl
  distinct := Json.settle_distinct _

def shelterModels : ModelSynthesis :=
  ⟨shelter, Language.swift.target ⟨[]⟩, false⟩

theorem opens_mapOf (v : Schema) : shelterModels.Opens ⟨[], mapOf v, ""⟩ (mapOf v) (mapOf v) := by
  have hplace : InPlace (mapOf v) := ⟨rfl, rfl⟩
  exact ⟨nofun, hplace.resolve _ _, hplace.resolve _ _⟩

theorem map_type_shelter :
    (∃ made value entry, shelterModels.Yields ⟨[], mapOf (named "Pet"), ""⟩ made ∧
      shelterModels.Yields ⟨[], named "Pet", ""⟩ value ∧
        shelterModels.target.types.get? "object" = some entry ∧ value.type.name = "Pet" ∧
          made.type.name = entry.resolve value.type.name none) ∧
    ∃ made value entry, shelterModels.Yields ⟨[], mapOf onlyRed, ""⟩ made ∧
      shelterModels.Yields ⟨[], onlyRed, ""⟩ value ∧
        shelterModels.target.types.get? "object" = some entry ∧
          ∃ m, value.models = [.enumeration m] ∧ made.type.name = entry.resolve m.type none := by
  constructor
  · obtain ⟨made, hmade⟩ : ∃ made, shelterModels.Yields ⟨[], mapOf (named "Pet"), ""⟩ made :=
      ⟨_, 3, rfl⟩
    obtain ⟨value, hvalue, hname⟩ : ∃ value, shelterModels.Yields ⟨[], named "Pet", ""⟩ value ∧
      value.type.name = "Pet" := ⟨_, ⟨2, rfl⟩, rfl⟩
    obtain ⟨entry, _, hentry, _, _, hreference, _⟩ := map_type (opens_mapOf _) rfl rfl hmade hvalue
    refine ⟨made, value, entry, hmade, hvalue, hentry, hname, (hreference _ rfl).2 fun base full h => ?_⟩
    obtain ⟨_, hfull⟩ := h.unique (⟨nofun, rfl, rfl⟩ : shelterModels.Opens ⟨[], named "Pet", ""⟩ _ _)
    rw [hfull]
    rfl
  · obtain ⟨made, hmade⟩ : ∃ made, shelterModels.Yields ⟨[], mapOf onlyRed, ""⟩ made := ⟨_, 2, rfl⟩
    obtain ⟨value, hvalue⟩ : ∃ value, shelterModels.Yields ⟨[], onlyRed, ""⟩ value := ⟨_, 1, rfl⟩
    obtain ⟨entry, _, hentry, _, _, _, hplace⟩ := map_type (opens_mapOf _) rfl rfl hmade hvalue
    obtain ⟨declared, _, htype, hm⟩ := (hplace ⟨rfl, rfl⟩).2 _ _ rfl
    obtain ⟨m, hmodels, rfl⟩ := hm rfl
    exact ⟨made, value, entry, hmade, hvalue, hentry, m, hmodels, htype⟩

/-- Values that are a list, by reference or in place, and listed values, have other names in the type of a map than
by themselves. -/
theorem map_type_differs :
    ∃ entry, shelterModels.target.types.get? "object" = some entry ∧
      (∃ made value, shelterModels.fromSchema (mapOf (named "Names")) "" = .ok made ∧
        shelterModels.fromSchema (named "Names") "" = .ok value ∧
          made.type.name = "Dictionary<String, Names>" ∧
            entry.resolve value.type.name none = "Dictionary<String, Array<String>>") ∧
      (∃ made value, shelterModels.fromSchema (mapOf texts) "" = .ok made ∧
        shelterModels.fromSchema texts "" = .ok value ∧
          made.type.name = "Dictionary<String, Array<Any>>" ∧
            entry.resolve value.type.name none = "Dictionary<String, Array<String>>") ∧
      ∃ made value, shelterModels.fromSchema (mapOf onlyRed) "" = .ok made ∧
        shelterModels.fromSchema onlyRed "" = .ok value ∧
          made.type.name = "Dictionary<String, String>" ∧
            entry.resolve value.type.name none = "Dictionary<String, >" :=
  ⟨_, rfl, ⟨_, _, rfl, rfl, rfl, rfl⟩, ⟨_, _, rfl, rfl, rfl, rfl⟩, _, _, rfl, rfl, rfl, rfl⟩

end ModelSynthesis

end SwaggerClient
