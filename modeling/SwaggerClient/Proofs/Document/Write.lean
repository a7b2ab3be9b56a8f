import SwaggerClient.Document.Write
import SwaggerClient.Proofs.Reference.Lookup
import SwaggerClient.Proofs.Schema.Write

namespace SwaggerClient

/-- What is read from the value is read again from what is written for it, which is well formed if the value
is. -/
def Json.ReadsBack {α : Type} (read : Reader α) (write : α → Json) (j : Json) : Prop :=
  ∀ a, read j = .ok a → read (write a) = .ok a ∧ (j.WellFormed → (write a).WellFormed)

namespace Schema

theorem readsBack (beside : Bool) (j : Json) : j.ReadsBack (readIn beside) toJson := fun _ h =>
  ⟨readIn_toJson (readBack_of_read h), fun hj =>
    wellFormed_toJson (distinct_of_read hj h) (wellFormed_values_of_read hj h)⟩

/-- The keys that no field of a parameter has. -/
def keysBeside : List String :=
  ["type", "format", "properties", "items", "additionalProperties", "enum", "allOf", "discriminator"]

theorem keys_toEntries_beside {s : Schema} (h : ∀ key ∈ Parameter.ownKeys, takePart key {} s = s) :
    (Entries.keys s.toEntries).Sublist keysBeside := by
  have hreference : s.reference = none := congrArg reference (h "$ref" (by decide)).symm
  have hdescription : s.description = none := congrArg description (h "description" (by decide)).symm
  have hrequired : s.required = none := congrArg required (h "required" (by decide)).symm
  rw [toEntries_eq, hreference, hdescription, hrequired]
  simp only [Option.map_none, Json.entry?, List.nil_append]
  iterate 8 refine Json.keys_entry?_append ?_
  exact List.Sublist.slnil

end Schema

namespace Parameter

variable {p : Parameter} {j : Json}

/-- The entries for the parameter's own fields. -/
def ownEntries (p : Parameter) : List (String × Json) :=
  Json.entry? "$ref" (p.reference.map .string) ++ (
  Json.entry? "name" (p.name.map .string) ++ (
  Json.entry? "in" (p.location.map fun location => .string location.name) ++ (
  ("required", .bool p.required) :: (
  Json.entry? "description" (p.description.map .string) ++ (
  Json.entry? "schema" (p.schema.map Schema.toJson) ++ [])))))

theorem toJson_eq (p : Parameter) : p.toJson = .object (p.ownEntries ++ p.beside.toEntries) := by
  simp only [toJson, ownEntries, List.append_assoc, List.cons_append, List.nil_append, List.append_nil]

theorem keys_ownEntries (p : Parameter) : (Entries.keys p.ownEntries).Sublist ownKeys := by
  iterate 3 refine Json.keys_entry?_append ?_
  refine List.Sublist.cons_cons _ ?_
  iterate 2 refine Json.keys_entry?_append ?_
  exact List.Sublist.slnil

theorem readFields_ownEntries (hs : ∀ s, p.schema = some s → Schema.read s.toJson = .ok s)
    {rest : List (String × Json)} (hrest : ∀ e ∈ rest, e.1 ∉ ownKeys) :
    readFields {} (p.ownEntries ++ rest) = .ok { p with beside := {} } := by
  have hunknown (q : Parameter) : rest.foldlM (fun q e => q.setField e.1 e.2) q = .ok q := by
    induction rest with
    | nil => rfl
    | cons e rest ih =>
      rw [List.foldlM_cons, setField_unknown (hrest e (by simp)), ok_bind,
        ih fun e he => hrest e (List.mem_cons_of_mem _ he)]
  obtain ⟨reference, name, location, required, description, schema, beside⟩ := p
  let set : SetEntry Parameter := fun key value q => setField key value q
  rw [readFields_eq]
  simp only [ownEntries, List.append_assoc, List.cons_append, List.nil_append]
  refine (foldlM_part set (fun r => { reference := r }) (fun _ _ => rfl) _).trans ?_
  refine (foldlM_part set (fun n => { reference, name := n }) (fun _ _ => rfl) _).trans ?_
  refine (foldlM_part set (fun l => { reference, name, location := l }) (fun l _ => ?_) _).trans ?_
  · cases l <;> rfl
  rw [List.foldlM_cons]
  refine (foldlM_part set (fun d => { reference, name, location, required, description := d })
    (fun _ _ => rfl) _).trans ?_
  refine (foldlM_part set (fun s => { reference, name, location, required, description, schema := s })
    (fun s h => ?_) _).trans (hunknown _)
  · show (Schema.read s.toJson).map some >>= _ = _
    rw [hs s h]
    rfl

theorem read_eq_ok {entries : List (String × Json)} (h : read (.object entries) = .ok p) :
    ∃ q, readFields {} entries = .ok q ∧ p = { q with beside := p.beside } ∧
      Schema.readIn true (.object (entries.filter fun e => !ownKeys.contains e.1)) = .ok p.beside := by
  obtain ⟨q, hq, h⟩ := bind_eq_ok.mp h
  obtain ⟨beside, hbeside, h⟩ := bind_eq_ok.mp h
  obtain rfl := Except.ok.inj h
  exact ⟨q, hq, rfl, hbeside⟩

/-- The schema of a parameter is one that was read before. -/
theorem schema_of_setField {key : String} {value : Json} {q : Parameter} {s : Schema}
    (h : p.setField key value = .ok q) (hs : q.schema = some s) :
    p.schema = some s ∨ Schema.read value = .ok s := by
  unfold setField at h
  split at h
  case h_6 =>
    obtain ⟨field, hfield, h⟩ := bind_eq_ok.mp h
    obtain rfl := Except.ok.inj h
    obtain rfl : field = some s := hs
    exact .inr (Reader.optional_eq_some hfield)
  case h_7 => exact .inl (Except.ok.inj h ▸ hs)
  all_goals
    obtain ⟨_, _, h⟩ := bind_eq_ok.mp h
    obtain rfl := Except.ok.inj h
    exact .inl hs

theorem schema_of_readFields {entries : List (String × Json)} {q : Parameter} {s : Schema}
    (h : p.readFields entries = .ok q) (hs : q.schema = some s) :
    p.schema = some s ∨ ∃ e ∈ entries, Schema.read e.2 = .ok s := by
  induction entries generalizing p with
  | nil => exact .inl (Except.ok.inj h ▸ hs)
  | cons e rest ih =>
    obtain ⟨next, hnext, h⟩ := bind_eq_ok.mp h
    rcases ih h with hs | ⟨e', he', hread⟩
    · exact (schema_of_setField hnext hs).imp_right fun hread => ⟨e, by simp, hread⟩
    · exact .inr ⟨e', List.mem_cons_of_mem _ he', hread⟩

/-- The entries for the own fields of a parameter and for what stands beside them are told apart by their
keys. -/
theorem read_toJson {p : Parameter} (hs : ∀ s, p.schema = some s → Schema.read s.toJson = .ok s)
    (hbeside : Schema.readIn true p.beside.toJson = .ok p.beside)
    (hother : ∀ e ∈ p.beside.toEntries, e.1 ∉ ownKeys) : read p.toJson = .ok p := by
  have hown (e : String × Json) (he : e ∈ p.ownEntries) : e.1 ∈ ownKeys :=
    p.keys_ownEntries.subset (Entries.mem_keys he)
  have hkept : (p.ownEntries ++ p.beside.toEntries).filter (fun e => !ownKeys.contains e.1) =
      p.beside.toEntries := by
    rw [List.filter_append, List.filter_eq_nil_iff.mpr, List.filter_eq_self.mpr, List.nil_append]
    · simpa using hother
    · simpa using hown
  rw [toJson_eq, read, readFields_ownEntries hs hother, ok_bind, hkept]
  show (Schema.readIn true p.beside.toJson >>= _) = _
  rw [hbeside]
  rfl

theorem wellFormed_toJson {p : Parameter} (hs : ∀ s, p.schema = some s → s.toJson.WellFormed)
    (hbeside : p.beside.toJson.WellFormed) (hother : ∀ e ∈ p.beside.toEntries, e.1 ∉ ownKeys) :
    p.toJson.WellFormed := by
  rw [toJson_eq]
  refine Json.wellFormed_object ?_ (List.forall_mem_append.mpr ⟨?_, fun e he => hbeside.entry he⟩)
  · have hown : Entries.Distinct p.ownEntries := (by decide : ownKeys.Nodup).sublist p.keys_ownEntries
    have hbesides : Entries.Distinct p.beside.toEntries := hbeside.here.distinct _ rfl
    unfold Entries.Distinct Entries.keys
    rw [List.map_append]
    refine List.nodup_append.mpr ⟨hown, hbesides, fun key hkey other hother' same => ?_⟩
    obtain ⟨e, he, rfl⟩ := List.mem_map.mp hother'
    exact hother e he (same ▸ p.keys_ownEntries.subset hkey)
  · refine Json.forall_entry?_append (fun r _ => Json.wellFormed_string r) ?_
    refine Json.forall_entry?_append (fun n _ => Json.wellFormed_string n) ?_
    refine Json.forall_entry?_append (fun l _ => Json.wellFormed_string l.name) ?_
    refine List.forall_mem_cons.mpr ⟨Json.wellFormed_bool p.required, ?_⟩
    refine Json.forall_entry?_append (fun d _ => Json.wellFormed_string d) ?_
    exact Json.forall_entry?_append hs nofun

theorem readsBack (j : Json) : j.ReadsBack read toJson := by
  intro p h
  cases j with
  | null | bool | number | string | array => cases h
  | object entries =>
    obtain ⟨q, hq, hp, hbeside⟩ := read_eq_ok h
    have hschema (s : Schema) (hs : p.schema = some s) : ∃ e ∈ entries, Schema.read e.2 = .ok s := by
      rw [hp] at hs
      exact (schema_of_readFields hq hs).resolve_left nofun
    -- no entry for a field of the parameter is left for the schema beside them
    have habsent (key : String) (hkey : key ∈ ownKeys) :
        Schema.takePart key {} p.beside = p.beside := by
      refine Schema.readEntries_absent hbeside fun hmem => ?_
      obtain ⟨e, he, rfl⟩ := List.mem_map.mp hmem
      simp [hkey] at he
    have hother (e : String × Json) (he : e ∈ p.beside.toEntries) : e.1 ∉ ownKeys :=
      (by decide : ∀ key ∈ Schema.keysBeside, key ∉ ownKeys) _
        ((Schema.keys_toEntries_beside habsent).subset (Entries.mem_keys he))
    refine ⟨read_toJson (fun s hs => ?_) (Schema.readsBack true _ _ hbeside).1 hother, fun hj =>
      wellFormed_toJson (fun s hs => ?_) ((Schema.readsBack true _ _ hbeside).2 ?_) hother⟩
    · obtain ⟨e, _, hread⟩ := hschema s hs
      exact (Schema.readsBack false e.2 s hread).1
    · obtain ⟨e, he, hread⟩ := hschema s hs
      exact (Schema.readsBack false e.2 s hread).2 (hj.entry he)
    · exact Json.wellFormed_object ((hj.here.distinct _ rfl).sublist (List.filter_sublist.map _))
        fun e he => hj.entry (List.mem_of_mem_filter he)

end Parameter

namespace Response

variable {r : Response}

theorem toJson_eq (r : Response) :
    r.toJson = .object (
      Json.entry? "$ref" (r.reference.map .string) ++ (
      Json.entry? "description" (r.description.map .string) ++ (
      Json.entry? "schema" (r.schema.map Schema.toJson) ++ []))) := by
  simp only [toJson, List.append_assoc, List.append_nil]

theorem read_toJson (hs : ∀ s, r.schema = some s → Schema.read s.toJson = .ok s) :
    read r.toJson = .ok r := by
  obtain ⟨reference, description, schema⟩ := r
  let set : SetEntry Response := record.set
  rw [toJson_eq, read, Record.read, Record.readEntries_eq]
  refine (foldlM_part set (fun r => { reference := r }) (fun _ _ => rfl) _).trans ?_
  refine (foldlM_part set (fun d => { reference, description := d }) (fun _ _ => rfl) _).trans ?_
  refine foldlM_part set (fun s => { reference, description, schema := s }) (fun s h => ?_) []
  show (Schema.read s.toJson).map some >>= _ = _
  rw [hs s h]
  rfl

theorem wellFormed_toJson (hs : ∀ s, r.schema = some s → s.toJson.WellFormed) :
    r.toJson.WellFormed := by
  rw [toJson_eq]
  refine Json.wellFormed_object ((by decide : keys.Nodup).sublist ?_) ?_
  · iterate 3 refine Json.keys_entry?_append ?_
    exact List.Sublist.slnil
  · refine Json.forall_entry?_append (fun r _ => Json.wellFormed_string r) ?_
    refine Json.forall_entry?_append (fun d _ => Json.wellFormed_string d) ?_
    exact Json.forall_entry?_append hs nofun

/-- The schema of a response is one that was read before. -/
theorem schema_of_set {key : String} {value : Json} {r' : Response} {s : Schema}
    (h : record.set key value r = .ok r') (hs : r'.schema = some s) :
    r.schema = some s ∨ Schema.read value = .ok s := by
  simp only [record] at h
  split at h
  case h_3 =>
    obtain ⟨field, hfield, h⟩ := bind_eq_ok.mp h
    obtain rfl := Except.ok.inj h
    obtain rfl : field = some s := hs
    exact .inr (Reader.optional_eq_some hfield)
  case h_4 => exact .inl (Except.ok.inj h ▸ hs)
  all_goals
    obtain ⟨_, _, h⟩ := bind_eq_ok.mp h
    obtain rfl := Except.ok.inj h
    exact .inl hs

theorem readsBack (j : Json) : j.ReadsBack read toJson := by
  intro r h
  have hschema : ∀ s, r.schema = some s → ∃ v ∈ j.children, Schema.read v = .ok s := by
    refine Record.read_invariant (P := (· ∈ j.children))
      (I := fun r => ∀ s, r.schema = some s → ∃ v ∈ j.children, Schema.read v = .ok s)
      ?set ?empty (fun _ hc => hc) h
    case set =>
      intro key value r r' hv hr hset s hs
      exact (schema_of_set hset hs).elim (hr s) fun hread => ⟨value, hv, hread⟩
    case empty => rintro s ⟨⟩
  refine ⟨read_toJson fun s hs => ?_, fun hj => wellFormed_toJson fun s hs => ?_⟩
  · obtain ⟨v, _, hread⟩ := hschema s hs
    exact (Schema.readsBack false v s hread).1
  · obtain ⟨v, hv, hread⟩ := hschema s hs
    exact (Schema.readsBack false v s hread).2 (hj.child hv)

end Response

/-- What is written for a schema, a parameter or a response that was read from a JSON value is read as the same
again. -/
theorem Json.read_undoes_write (j : Json) :
    j.ReadsBack Schema.read Schema.toJson ∧ j.ReadsBack Parameter.read Parameter.toJson ∧
      j.ReadsBack Response.read Response.toJson :=
  ⟨Schema.readsBack false j, Parameter.readsBack j, Response.readsBack j⟩

/-- A value with keys out of order and keys that a schema, a parameter and a response all know. -/
def levelJson : Json :=
  .object [
    ("enum", .array [.number (.integer 1), .number (.integer (Nat.pow 2 63)),
      .number (.real ⟨false, 1023 * Nat.pow 2 52 + Nat.pow 2 51⟩), .bool true, .string "off", .null]),
    ("schema", .object [("additionalProperties", .bool false)]),
    ("description", .string "How much is told."),
    ("unknown", .array []),
    ("$ref", .null),
    ("in", .string "query"),
    ("name", .string "level"),
    ("allOf", .array [.object [("items", .object [("type", .string "string")])]]),
    ("properties", .object [("more", .array (List.replicate 11 .null))]),
    ("additionalProperties", .object [("type", .string "string")])]

/-- What it says as a schema. -/
def levelSchema : Schema where
  description := some "How much is told."
  properties := some [("more", {})]
  additional := some (.schema { type := some "string" })
  values := some [.integer 1, .real ⟨false, 1086 * Nat.pow 2 52⟩,
    .real ⟨false, 1023 * Nat.pow 2 52 + Nat.pow 2 51⟩, .bool true, .string "off", .null]
  allOf := some [{ items := some { type := some "string" } }]

def levelParameter : Parameter where
  name := some "level"
  location := some .query
  description := some "How much is told."
  schema := some { additional := some (.allowed false) }
  beside := { levelSchema with description := none }

def levelResponse : Response where
  description := some "How much is told."
  schema := some { additional := some (.allowed false) }

theorem Json.read_undoes_write_level :
    levelJson.WellFormed ∧
      (Schema.read levelJson = .ok levelSchema ∧ Schema.read levelSchema.toJson = .ok levelSchema ∧
        levelSchema.toJson.WellFormed) ∧
      (Parameter.read levelJson = .ok levelParameter ∧
        Parameter.read levelParameter.toJson = .ok levelParameter ∧ levelParameter.toJson.WellFormed) ∧
      Response.read levelJson = .ok levelResponse ∧
        Response.read levelResponse.toJson = .ok levelResponse ∧ levelResponse.toJson.WellFormed := by
  have hj : levelJson.WellFormed := by decide
  obtain ⟨hs, hp, hr⟩ := Json.read_undoes_write levelJson
  refine ⟨hj, ⟨rfl, ?_⟩, ⟨rfl, ?_⟩, rfl, ?_⟩
  · exact (hs _ rfl).imp_right fun h => h hj
  · exact (hp _ rfl).imp_right fun h => h hj
  · exact (hr _ rfl).imp_right fun h => h hj

end SwaggerClient
