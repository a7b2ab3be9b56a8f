namespace SwaggerClient.Entries

variable {κ α : Type}

def keys (entries : List (κ × α)) : List κ :=
  entries.map (·.1)

/-- No key has two entries. -/
def Distinct (entries : List (κ × α)) : Prop :=
  (keys entries).Nodup

theorem mem_keys {entry : κ × α} {entries : List (κ × α)} (h : entry ∈ entries) :
    entry.1 ∈ keys entries :=
  List.mem_map_of_mem h

variable [DecidableEq κ]

def get? (key : κ) : List (κ × α) → Option α
  | [] => none
  | (k, value) :: rest => if k = key then some value else get? key rest

/-- Applies `combine` to the value of a key in its place, or appends the key with `value`. -/
def upsert (key : κ) (value : α) (combine : α → α) : List (κ × α) → List (κ × α)
  | [] => [(key, value)]
  | (k, old) :: rest =>
    if k = key then (k, combine old) :: rest else (k, old) :: upsert key value combine rest

/-- The first value of a key changes in its place; a new key comes last. -/
theorem keys_upsert (key : κ) (value : α) (combine : α → α) (entries : List (κ × α)) :
    keys (upsert key value combine entries) =
      if key ∈ keys entries then keys entries else keys entries ++ [key] := by
  induction entries with
  | nil => rfl
  | cons entry rest ih =>
    obtain ⟨k, old⟩ := entry
    by_cases h : k = key
    · simp [upsert, keys, h]
    · have hne : key ≠ k := fun e => h e.symm
      simp only [keys] at ih
      by_cases hm : key ∈ rest.map (·.1) <;> simp [upsert, keys, h, hne, ih, hm]

theorem distinct_upsert (key : κ) (value : α) (combine : α → α) {entries : List (κ × α)}
    (h : Distinct entries) : Distinct (upsert key value combine entries) := by
  unfold Distinct at h ⊢
  rw [keys_upsert]
  split
  · exact h
  · next hk => simpa [List.nodup_append] using ⟨h, fun k hm e => hk (e ▸ hm)⟩

theorem mem_upsert {key : κ} {value : α} {combine : α → α} {entries : List (κ × α)} {entry : κ × α}
    (h : entry ∈ upsert key value combine entries) :
    entry = (key, value) ∨ entry ∈ entries ∨ ∃ old, (key, old) ∈ entries ∧ entry = (key, combine old) := by
  induction entries with
  | nil => exact .inl (by simpa [upsert] using h)
  | cons first rest ih =>
    obtain ⟨k, old⟩ := first
    by_cases hk : k = key
    · subst hk
      rcases List.mem_cons.mp (by simpa [upsert] using h) with rfl | hr
      · exact .inr (.inr ⟨old, by simp, rfl⟩)
      · exact .inr (.inl (by simp [hr]))
    · rcases List.mem_cons.mp (by simpa only [upsert, hk, if_false] using h) with rfl | hr
      · exact .inr (.inl (by simp))
      · rcases ih hr with he | hm | ⟨o, ho, he⟩
        · exact .inl he
        · exact .inr (.inl (by simp [hm]))
        · exact .inr (.inr ⟨o, by simp [ho], he⟩)

/-- Gives a key a value: in its place if it is there, else at the end. -/
def set (key : κ) (value : α) (entries : List (κ × α)) : List (κ × α) :=
  upsert key value (fun _ => value) entries

/-- Sets the entries of a list one after the other: the first place and the last value of each key. -/
def setAll (entries : List (κ × α)) (more : List (κ × α)) : List (κ × α) :=
  more.foldl (fun es entry => set entry.1 entry.2 es) entries

def erase (key : κ) (entries : List (κ × α)) : List (κ × α) :=
  entries.filter (fun entry => entry.1 ≠ key)

end SwaggerClient.Entries
