import SwaggerClient.Proofs.Document.Alike
import SwaggerClient.Proofs.Entries
import SwaggerClient.Proofs.Schema.Read
import SwaggerClient.Proofs.Traversal

namespace SwaggerClient

variable {α ρ : Type}

/-- Reads the value of a key into a record. -/
abbrev SetEntry (ρ : Type) := String → Json → ρ → Except StructureError ρ

/-- An entry sets the part of its key, whatever it was, as it does in the empty record. The part of a key can
be taken from one record into another, and the parts of different keys are different. -/
def Partwise (set : SetEntry ρ) (empty : ρ) : Prop :=
  ∃ take : String → ρ → ρ → ρ,
    (∀ key value r, set key value r = (set key value empty).map fun s => take key s r) ∧
      ∀ key key' s s' r, key ≠ key' → take key s (take key' s' r) = take key' s' (take key s r)

theorem Partwise.comm {set : SetEntry ρ} {empty : ρ} (h : Partwise set empty) {key key' : String}
    (hne : key ≠ key') (value value' : Json) (r : ρ) :
    Gives (set key value r >>= set key' value') (set key' value' r >>= set key value) := by
  obtain ⟨take, htake, hcomm⟩ := h
  intro t ht
  obtain ⟨s, hs, ht⟩ := bind_eq_ok.mp ht
  rw [htake key value] at hs
  rw [htake key' value'] at ht
  obtain ⟨first, hfirst, rfl⟩ := map_eq_ok.mp hs
  obtain ⟨second, hsecond, rfl⟩ := map_eq_ok.mp ht
  rw [htake key' value', hsecond]
  show set key value (take key' second r) = _
  rw [htake key value, hfirst, hcomm key' key second first r hne.symm]
  rfl

theorem Partwise.perm {set : SetEntry ρ} {empty : ρ} (h : Partwise set empty)
    {entries entries' : List (String × Json)} (hdistinct : Entries.Distinct entries)
    (hperm : entries.Perm entries') (r : ρ) :
    Gives (entries.foldlM (fun r e => set e.1 e.2 r) r)
      (entries'.foldlM (fun r e => set e.1 e.2 r) r) :=
  foldlM_perm (fun hne => Ne.symm hne) (fun a b hne r => h.comm hne a.2 b.2 r) hperm
    (List.pairwise_map.mp hdistinct) r

theorem foldlM_append_unknown {set : SetEntry ρ} {key : String} {value : Json}
    (hunknown : ∀ r, set key value r = .ok r) (entries : List (String × Json)) (r : ρ) :
    (entries ++ [(key, value)]).foldlM (fun r e => set e.1 e.2 r) r =
      entries.foldlM (fun r e => set e.1 e.2 r) r := by
  rw [List.foldlM_append]
  cases entries.foldlM (fun r e => set e.1 e.2 r) r with
  | error e => rfl
  | ok s => simp [ok_bind, hunknown]

/-- The entry for a part that is present sets the part; without an entry it stays absent. -/
theorem foldlM_part (set : SetEntry ρ) {key : String} {part : Option α} {f : α → Json}
    (build : Option α → ρ)
    (h : ∀ a, part = some a → set key (f a) (build none) = .ok (build (some a)))
    (rest : List (String × Json)) :
    ( Json.entry? key (part.map f) ++ rest).foldlM (fun r e => set e.1 e.2 r) (build none) =
      rest.foldlM (fun r e => set e.1 e.2 r) (build part) := by
  cases part with
  | none => rfl
  | some a =>
    show set key (f a) (build none) >>= _ = _
    rw [h a rfl, ok_bind]
    rfl

/-- A part read in one record and the same part read in another. -/
theorem bind_eq_map {ε β : Type} {x : Except ε α} {f g : α → β} {h : β → β}
    (hfg : ∀ a, f a = h (g a)) :
    (x >>= fun a => pure (f a)) = (x >>= fun a => pure (g a)).map h := by
  cases x with
  | error e => rfl
  | ok a => exact congrArg Except.ok (hfg a)

namespace Schema

def setEntry (beside : Bool) : SetEntry Schema :=
  fun key value => setPart key value (forms beside value)

theorem readEntries_eq (beside : Bool) (entries : List (String × Json)) (s : Schema) :
    readEntries beside s entries = entries.foldlM (fun s e => setEntry beside e.1 e.2 s) s := by
  induction entries generalizing s with
  | nil => rfl
  | cons e rest ih =>
    rw [List.foldlM_cons, readEntries]
    exact bind_congr fun s => ih s

theorem setPart_unknown {key : String} (h : key ∉ keys) (value : Json) (forms : Forms) (s : Schema) :
    setPart key value forms s = .ok s := by
  unfold setPart
  split <;> first | rfl | simp [keys] at h

/-- The second schema with the part of a key that the first has. -/
def takePart (key : String) (s t : Schema) : Schema :=
  match key with
  | "$ref" => { t with reference := s.reference }
  | "type" => { t with type := s.type }
  | "format" => { t with format := s.format }
  | "description" => { t with description := s.description }
  | "properties" => { t with properties := s.properties }
  | "required" => { t with required := s.required }
  | "items" => { t with items := s.items }
  | "additionalProperties" => { t with additional := s.additional }
  | "enum" => { t with values := s.values }
  | "allOf" => { t with allOf := s.allOf }
  | "discriminator" => { t with discriminator := s.discriminator }
  | _ => t

theorem takePart_comm {key key' : String} (hne : key ≠ key') (s s' t : Schema) :
    takePart key s (takePart key' s' t) = takePart key' s' (takePart key s t) := by
  unfold takePart
  split <;> split <;> first | rfl | exact absurd rfl hne

theorem takePart_unknown {key : String} (h : key ∉ keys) (s t : Schema) : takePart key s t = t := by
  unfold takePart
  split <;> first | rfl | simp [keys] at h

/-- An entry sets the part of its key, and nothing else. -/
theorem setEntry_eq (beside : Bool) (key : String) (value : Json) (s : Schema) :
    setEntry beside key value s = (setEntry beside key value {}).map fun t => takePart key t s := by
  by_cases hkey : key ∈ keys
  · simp only [keys, List.mem_cons, List.not_mem_nil, or_false] at hkey
    rcases hkey with rfl | rfl | rfl | rfl | rfl | rfl | rfl | rfl | rfl | rfl | rfl <;>
      exact bind_eq_map fun _ => rfl
  · simp only [setEntry, setPart_unknown hkey, takePart_unknown hkey, Except.map]

theorem setEntry_partwise (beside : Bool) : Partwise (setEntry beside) {} :=
  ⟨takePart, setEntry_eq beside, fun _ _ s s' t hne => takePart_comm hne s s' t⟩

/-- Without an entry for a key its part is absent. -/
theorem readEntries_absent {beside : Bool} {entries : List (String × Json)} {s : Schema}
    (h : readEntries beside {} entries = .ok s) {key : String} (hkey : key ∉ Entries.keys entries) :
    takePart key {} s = s := by
  refine readEntries_invariant (I := fun s => takePart key {} s = s) (fun e he s t hs hset => ?_) ?_ h
  · have hne : key ≠ e.1 := fun hk => hkey (hk ▸ Entries.mem_keys he)
    have hset : setEntry beside e.1 e.2 s = .ok t := hset
    rw [setEntry_eq] at hset
    obtain ⟨part, _, rfl⟩ := map_eq_ok.mp hset
    rw [takePart_comm hne, hs]
  · unfold takePart
    split <;> rfl

end Schema

namespace Parameter

theorem readFields_eq (entries : List (String × Json)) (p : Parameter) :
    p.readFields entries = entries.foldlM (fun p e => p.setField e.1 e.2) p := by
  induction entries generalizing p with
  | nil => rfl
  | cons e rest ih =>
    rw [List.foldlM_cons, readFields]
    exact bind_congr fun p => ih p

theorem setField_unknown {key : String} (h : key ∉ ownKeys) (value : Json) (p : Parameter) :
    p.setField key value = .ok p := by
  unfold setField
  split <;> first | rfl | simp [ownKeys] at h

/-- The second parameter with the field of a key that the first has. -/
def takeField (key : String) (p q : Parameter) : Parameter :=
  match key with
  | "$ref" => { q with reference := p.reference }
  | "name" => { q with name := p.name }
  | "in" => { q with location := p.location }
  | "required" => { q with required := p.required }
  | "description" => { q with description := p.description }
  | "schema" => { q with schema := p.schema }
  | _ => q

theorem takeField_comm {key key' : String} (hne : key ≠ key') (p p' q : Parameter) :
    takeField key p (takeField key' p' q) = takeField key' p' (takeField key p q) := by
  unfold takeField
  split <;> split <;> first | rfl | exact absurd rfl hne

theorem takeField_unknown {key : String} (h : key ∉ ownKeys) (p q : Parameter) :
    takeField key p q = q := by
  unfold takeField
  split <;> first | rfl | simp [ownKeys] at h

theorem setField_partwise : Partwise (fun key value p => setField key value p) {} := by
  refine ⟨takeField, fun key value p => ?_, fun _ _ p p' q hne => takeField_comm hne p p' q⟩
  by_cases hkey : key ∈ ownKeys
  · simp only [ownKeys, List.mem_cons, List.not_mem_nil, or_false] at hkey
    rcases hkey with rfl | rfl | rfl | rfl | rfl | rfl <;> exact bind_eq_map fun _ => rfl
  · simp only [setField_unknown hkey, takeField_unknown hkey, Except.map]

end Parameter

namespace Response

def keys : List String :=
  ["$ref", "description", "schema"]

theorem set_unknown {key : String} (h : key ∉ keys) (value : Json) (r : Response) :
    record.set key value r = .ok r := by
  unfold record
  dsimp only
  split <;> first | rfl | simp [keys] at h

/-- The second response with the field of a key that the first has. -/
def takeField (key : String) (r t : Response) : Response :=
  match key with
  | "$ref" => { t with reference := r.reference }
  | "description" => { t with description := r.description }
  | "schema" => { t with schema := r.schema }
  | _ => t

theorem takeField_comm {key key' : String} (hne : key ≠ key') (r r' t : Response) :
    takeField key r (takeField key' r' t) = takeField key' r' (takeField key r t) := by
  unfold takeField
  split <;> split <;> first | rfl | exact absurd rfl hne

theorem takeField_unknown {key : String} (h : key ∉ keys) (r t : Response) :
    takeField key r t = t := by
  unfold takeField
  split <;> first | rfl | simp [keys] at h

theorem set_partwise : Partwise record.set {} := by
  refine ⟨takeField, fun key value r => ?_, fun _ _ r r' t hne => takeField_comm hne r r' t⟩
  by_cases hkey : key ∈ keys
  · simp only [keys, List.mem_cons, List.not_mem_nil, or_false] at hkey
    rcases hkey with rfl | rfl | rfl <;> exact bind_eq_map fun _ => rfl
  · simp only [set_unknown hkey, takeField_unknown hkey, Except.map]

end Response

theorem Record.readEntries_eq (record : Record ρ) (entries : List (String × Json)) (r : ρ) :
    record.readEntries r entries = entries.foldlM (fun r e => record.set e.1 e.2 r) r := by
  induction entries generalizing r with
  | nil => rfl
  | cons e rest ih =>
    rw [List.foldlM_cons, Record.readEntries]
    exact bind_congr fun r => ih r

namespace Json

variable {entries entries' : List (String × Json)}

theorem sizeEntries_append (more : List (String × Json)) :
    sizeEntries (entries ++ more) = sizeEntries entries + sizeEntries more ∧
      stringCountEntries (entries ++ more) = stringCountEntries entries + stringCountEntries more := by
  induction entries with
  | nil => simp [sizeEntries, stringCountEntries]
  | cons e rest ih =>
    obtain ⟨hsize, hstrings⟩ := ih
    simp only [List.cons_append, sizeEntries, stringCountEntries]
    omega

theorem sizeEntries_perm (hperm : entries.Perm entries') :
    sizeEntries entries = sizeEntries entries' ∧
      stringCountEntries entries = stringCountEntries entries' := by
  induction hperm with
  | nil => exact ⟨rfl, rfl⟩
  | cons e _ ih => simp [sizeEntries, stringCountEntries, ih]
  | swap e e' rest =>
    simp only [sizeEntries, stringCountEntries]
    omega
  | trans _ _ ih ih' => exact ⟨ih.1.trans ih'.1, ih.2.trans ih'.2⟩

/-- An object covers the one without its last entry, if no schema, parameter or response knows the key. -/
theorem covers_append {key : String} (hschema : key ∉ Schema.keys)
    (hparameter : key ∉ Parameter.ownKeys) (hresponse : key ∉ Response.keys) (value : Json) :
    (object entries).Covers (object (entries ++ [(key, value)])) where
  step segment c hc := Entries.get?_append_of_some hc _
  schema := by
    simp only [Schema.read, Schema.readIn, Schema.readEntries_eq]
    rw [foldlM_append_unknown fun s => Schema.setPart_unknown hschema _ _ s]
    exact Gives.stepwise.refl _
  parameter := by
    have hkept : [(key, value)].filter (fun e => !Parameter.ownKeys.contains e.1) = [(key, value)] := by
      simpa using hparameter
    simp only [Parameter.read, Parameter.readFields_eq, Schema.readEntries_eq, List.filter_append, hkept]
    rw [foldlM_append_unknown fun p => Parameter.setField_unknown hparameter _ p,
      foldlM_append_unknown fun s => Schema.setPart_unknown hschema _ _ s]
    exact Gives.stepwise.refl _
  response := by
    simp only [Response.read, Record.read, Record.readEntries_eq]
    rw [foldlM_append_unknown fun r => Response.set_unknown hresponse _ r]
    exact Gives.stepwise.refl _
  size := by simp [size, sizeEntries_append]
  strings := by simp [stringCount, sizeEntries_append]

/-- An object covers those with the same entries in another order. -/
theorem covers_perm (hdistinct : Entries.Distinct entries) (hperm : entries.Perm entries') :
    (object entries).Covers (object entries') where
  step segment c hc := (Entries.get?_perm hdistinct hperm segment).trans hc
  schema := by
    simp only [Schema.read, Schema.readIn, Schema.readEntries_eq]
    exact (Schema.setEntry_partwise false).perm hdistinct hperm _
  parameter := by
    simp only [Parameter.read, Parameter.readFields_eq, Schema.readEntries_eq]
    have hbeside : Entries.Distinct (entries.filter fun e => !Parameter.ownKeys.contains e.1) :=
      hdistinct.sublist (List.filter_sublist.map _)
    refine (Parameter.setField_partwise.perm hdistinct hperm _).bind fun p => ?_
    refine ((Schema.setEntry_partwise true).perm hbeside (hperm.filter _) _).bind fun s => ?_
    exact Gives.stepwise.refl _
  response := by
    simp only [Response.read, Record.read, Record.readEntries_eq]
    exact Response.set_partwise.perm hdistinct hperm _
  size := by simp [size, sizeEntries_perm hperm]
  strings := by simp [stringCount, sizeEntries_perm hperm]

end Json

end SwaggerClient
