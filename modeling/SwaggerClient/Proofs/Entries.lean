import Mathlib.Data.List.Perm.Basic
import SwaggerClient.Entries

namespace SwaggerClient.Entries

variable {κ α : Type} [DecidableEq κ]

theorem mem_of_get? {key : κ} {value : α} {entries : List (κ × α)}
    (h : get? key entries = some value) : (key, value) ∈ entries := by
  induction entries with
  | nil => simp [get?] at h
  | cons entry rest ih =>
    obtain ⟨k, v⟩ := entry
    simp only [get?] at h
    split at h
    · next hk =>
      obtain rfl := Option.some.inj h
      simp [hk]
    · exact List.mem_cons_of_mem _ (ih h)

theorem get?_eq_some_iff {key : κ} {value : α} {entries : List (κ × α)} (h : Distinct entries) :
    get? key entries = some value ↔ (key, value) ∈ entries := by
  refine ⟨mem_of_get?, fun hmem => ?_⟩
  induction entries with
  | nil => simp at hmem
  | cons entry rest ih =>
    obtain ⟨k, v⟩ := entry
    obtain ⟨hk, hrest⟩ := List.nodup_cons.mp h
    rcases List.mem_cons.mp hmem with e | hmem
    · obtain ⟨rfl, rfl⟩ := Prod.mk.inj e
      simp [get?]
    · have hkey : key ∈ keys rest := mem_keys hmem
      have hne : k ≠ key := fun e => hk (e ▸ hkey)
      simp only [get?, hne, if_false]
      exact ih hrest hmem

omit [DecidableEq κ] in
theorem Distinct.perm {entries entries' : List (κ × α)} (h : Distinct entries)
    (hperm : entries.Perm entries') : Distinct entries' :=
  (hperm.map _).nodup_iff.mp h

theorem get?_perm {entries entries' : List (κ × α)} (h : Distinct entries)
    (hperm : entries.Perm entries') (key : κ) : get? key entries' = get? key entries := by
  ext value
  rw [get?_eq_some_iff h, get?_eq_some_iff (h.perm hperm), hperm.mem_iff]

theorem get?_append_of_some {key : κ} {value : α} {entries : List (κ × α)}
    (h : get? key entries = some value) (more : List (κ × α)) :
    get? key (entries ++ more) = some value := by
  induction entries with
  | nil => simp [get?] at h
  | cons entry rest ih =>
    simp only [List.cons_append, get?] at h ⊢
    split
    · next hk => simpa [hk] using h
    · next hk => exact ih (by simpa [hk] using h)

theorem get?_eq_none_iff {key : κ} {entries : List (κ × α)} :
    get? key entries = none ↔ key ∉ keys entries := by
  induction entries with
  | nil => simp [get?, keys]
  | cons entry rest ih =>
    obtain ⟨k, value⟩ := entry
    by_cases hk : k = key
    · simp [get?, keys, hk]
    · have hne : key ≠ k := Ne.symm hk
      simpa [get?, keys, hk, hne] using ih

theorem get?_upsert (key other : κ) (value : α) (change : α → α) (entries : List (κ × α)) :
    get? other (upsert key value change entries) =
      if key = other then some ((get? key entries).elim value change) else get? other entries := by
  induction entries with
  | nil => rfl
  | cons entry rest ih =>
    obtain ⟨k, old⟩ := entry
    by_cases hk : k = key
    · subst hk
      by_cases ho : k = other <;> simp [upsert, get?, ho]
    · by_cases ho : k = other
      · subst ho
        have hne : key ≠ k := Ne.symm hk
        simp [upsert, get?, hk, hne]
      · simp [upsert, get?, hk, ho, ih]

/-- Maps with the same keys in the same order and the same values are the same. -/
theorem ext_get? {entries entries' : List (κ × α)} (hd : Distinct entries)
    (hkeys : keys entries = keys entries') (h : ∀ key, get? key entries = get? key entries') :
    entries = entries' := by
  induction entries generalizing entries' with
  | nil => simpa [keys] using hkeys.symm
  | cons entry rest ih =>
    obtain ⟨k, value⟩ := entry
    cases entries' with
    | nil => simp [keys] at hkeys
    | cons entry' rest' =>
      obtain ⟨k', value'⟩ := entry'
      obtain ⟨rfl, hrest⟩ : k = k' ∧ keys rest = keys rest' := by simpa [keys] using hkeys
      obtain ⟨hk, hd⟩ := List.nodup_cons.mp hd
      obtain rfl : value = value' := by simpa [get?] using h k
      have htail : rest = rest' := by
        refine ih hd hrest fun key => ?_
        by_cases hkey : k = key
        · subst hkey
          rw [get?_eq_none_iff.mpr hk, get?_eq_none_iff.mpr (hrest ▸ hk)]
        · simpa [get?, hkey] using h key
      rw [htail]

theorem get?_set (key other : κ) (value : α) (entries : List (κ × α)) :
    get? other (set key value entries) = if key = other then some value else get? other entries := by
  rw [set, get?_upsert]
  cases get? key entries <;> rfl

/-- Merges the entries of `source` into `target` one after the other. -/
def mergeWith (combine : α → α → α) (target source : List (κ × α)) : List (κ × α) :=
  source.foldl (fun es e => upsert e.1 e.2 (fun old => combine old e.2) es) target

theorem upsert_of_not_mem {key : κ} {entries : List (κ × α)} (h : key ∉ keys entries) (value : α)
    (change : α → α) : upsert key value change entries = entries ++ [(key, value)] := by
  induction entries with
  | nil => rfl
  | cons entry rest ih =>
    obtain ⟨k, old⟩ := entry
    simp only [keys, List.map_cons, List.mem_cons, not_or] at h
    have hk : k ≠ key := fun e => h.1 e.symm
    simp [upsert, hk, ih h.2]

theorem upsert_upsert_same (key : κ) (v w : α) (f g : α → α) (entries : List (κ × α)) :
    upsert key w g (upsert key v f entries) = upsert key (g v) (fun old => g (f old)) entries := by
  induction entries with
  | nil => simp [upsert]
  | cons entry rest ih =>
    obtain ⟨k, old⟩ := entry
    by_cases h : k = key
    · simp [upsert, h]
    · simp [upsert, h, ih]

theorem upsert_upsert_comm {key other : κ} (hne : key ≠ other) (v w : α) (f g : α → α)
    {entries : List (κ × α)} (h : key ∈ keys entries) :
    upsert key v f (upsert other w g entries) = upsert other w g (upsert key v f entries) := by
  induction entries with
  | nil => simp [keys] at h
  | cons entry rest ih =>
    obtain ⟨k, old⟩ := entry
    by_cases hk : k = key
    · subst hk
      simp [upsert, hne]
    · have hr : key ∈ keys rest := by
        rcases List.mem_cons.mp h with e | hr
        · exact absurd e.symm hk
        · exact hr
      by_cases ho : k = other
      · subst ho
        simp [upsert, hk]
      · simp [upsert, hk, ho, ih hr]

theorem mem_keys_upsert_self (key : κ) (v : α) (f : α → α) (entries : List (κ × α)) :
    key ∈ keys (upsert key v f entries) := by
  rw [keys_upsert]
  split
  · assumption
  · simp

theorem mem_keys_upsert_of_mem {key other : κ} (v : α) (f : α → α) {entries : List (κ × α)}
    (h : key ∈ keys entries) : key ∈ keys (upsert other v f entries) := by
  rw [keys_upsert]
  split
  · exact h
  · simp [h]

theorem mem_keys_upsert_iff {key other : κ} {v : α} {f : α → α} {entries : List (κ × α)} :
    key ∈ keys (upsert other v f entries) ↔ key = other ∨ key ∈ keys entries := by
  rw [keys_upsert]
  split
  · next h => exact ⟨.inr, fun hk => hk.elim (· ▸ h) id⟩
  · simp [or_comm]

variable (combine : α → α → α)

theorem mergeWith_cons (target : List (κ × α)) (key : κ) (value : α) (rest : List (κ × α)) :
    mergeWith combine target ((key, value) :: rest) =
      mergeWith combine (upsert key value (fun old => combine old value) target) rest := rfl

theorem upsert_mergeWith_comm {key : κ} (v : α) (f : α → α) {target source : List (κ × α)}
    (ht : key ∈ keys target) (hs : key ∉ keys source) :
    upsert key v f (mergeWith combine target source) =
      mergeWith combine (upsert key v f target) source := by
  induction source generalizing target with
  | nil => rfl
  | cons entry rest ih =>
    obtain ⟨k, w⟩ := entry
    simp only [keys, List.map_cons, List.mem_cons, not_or] at hs
    rw [mergeWith_cons, mergeWith_cons, ih (mem_keys_upsert_of_mem _ _ ht) hs.2,
      upsert_upsert_comm hs.1 _ _ _ _ ht]

theorem mergeWith_upsert {key : κ} {value : α} (target : List (κ × α)) {source : List (κ × α)}
    (hd : Distinct source)
    (h : ∀ y, (key, y) ∈ source → ∀ x, combine (combine x y) value = combine x (combine y value)) :
    mergeWith combine target (upsert key value (fun old => combine old value) source) =
      upsert key value (fun old => combine old value) (mergeWith combine target source) := by
  induction source generalizing target with
  | nil => rfl
  | cons entry rest ih =>
    obtain ⟨k, y⟩ := entry
    obtain ⟨hk, hr⟩ := List.nodup_cons.mp hd
    by_cases hkey : k = key
    · subst hkey
      have hassoc : (fun old => combine (combine old y) value) =
          fun old => combine old (combine y value) :=
        funext (h y (by simp))
      have hsame : upsert k value (fun old => combine old value)
            (upsert k y (fun old => combine old y) target) =
          upsert k (combine y value) (fun old => combine old (combine y value)) target := by
        rw [upsert_upsert_same, hassoc]
      rw [mergeWith_cons, upsert_mergeWith_comm combine _ _ (mem_keys_upsert_self _ _ _ _) hk, hsame]
      simp [upsert, mergeWith_cons]
    · have hu : upsert key value (fun old => combine old value) ((k, y) :: rest) =
          (k, y) :: upsert key value (fun old => combine old value) rest := by
        simp [upsert, hkey]
      rw [hu, mergeWith_cons, mergeWith_cons]
      exact ih _ hr fun y hy => h y (List.mem_cons_of_mem _ hy)

theorem mergeWith_assoc (a : List (κ × α)) {b c : List (κ × α)} (hb : Distinct b) (hc : Distinct c)
    (h : ∀ key z, (key, z) ∈ c → ∀ y, (key, y) ∈ b →
      ∀ x, combine (combine x y) z = combine x (combine y z)) :
    mergeWith combine (mergeWith combine a b) c = mergeWith combine a (mergeWith combine b c) := by
  induction c generalizing b with
  | nil => rfl
  | cons entry rest ih =>
    obtain ⟨k, z⟩ := entry
    obtain ⟨hk, hr⟩ := List.nodup_cons.mp hc
    have hstep := mergeWith_upsert combine a hb (h k z (by simp))
    rw [mergeWith_cons, mergeWith_cons, ← hstep]
    refine ih (distinct_upsert _ _ _ hb) hr ?_
    intro key z' hz' y hy
    -- the key of the entry that went first does not come again
    have hmem : key ∈ keys rest := mem_keys hz'
    have hne : key ≠ k := fun e => hk (e ▸ hmem)
    rcases mem_upsert hy with e | hm | ⟨_, _, e⟩
    · exact absurd (congrArg Prod.fst e) hne
    · exact h key z' (List.mem_cons_of_mem _ hz') y hm
    · exact absurd (congrArg Prod.fst e) hne

theorem mergeWith_of_disjoint {target source : List (κ × α)} (hd : Distinct source)
    (h : ∀ key ∈ keys source, key ∉ keys target) :
    mergeWith combine target source = target ++ source := by
  induction source generalizing target with
  | nil => simp [mergeWith]
  | cons entry rest ih =>
    obtain ⟨k, v⟩ := entry
    obtain ⟨hk, hr⟩ := List.nodup_cons.mp hd
    have hnew : k ∉ keys target := h k (by simp [keys])
    rw [mergeWith_cons, upsert_of_not_mem hnew, ih hr]
    · simp
    · intro key hkey
      have hne : key ≠ k := fun e => hk (e ▸ hkey)
      have hold : key ∉ keys target := h key (List.mem_cons_of_mem _ hkey)
      simpa [keys, hne] using hold

theorem nil_mergeWith {source : List (κ × α)} (hd : Distinct source) :
    mergeWith combine [] source = source :=
  mergeWith_of_disjoint combine hd fun _ _ => List.not_mem_nil

theorem distinct_mergeWith {target : List (κ × α)} (source : List (κ × α)) (h : Distinct target) :
    Distinct (mergeWith combine target source) := by
  induction source generalizing target with
  | nil => exact h
  | cons entry rest ih => exact ih (distinct_upsert _ _ _ h)

theorem mem_keys_mergeWith_iff {key : κ} {target source : List (κ × α)} :
    key ∈ keys (mergeWith combine target source) ↔ key ∈ keys target ∨ key ∈ keys source := by
  induction source generalizing target with
  | nil => simp [mergeWith, keys]
  | cons entry rest ih =>
    rw [mergeWith_cons, ih, mem_keys_upsert_iff]
    simp only [keys, List.map_cons, List.mem_cons]
    exact or_assoc.trans or_left_comm

theorem forall_mergeWith {P : α → Prop} {target source : List (κ × α)}
    (ht : ∀ e ∈ target, P e.2) (hs : ∀ e ∈ source, P e.2)
    (h : ∀ e ∈ source, ∀ x, P x → P (combine x e.2)) :
    ∀ e ∈ mergeWith combine target source, P e.2 := by
  induction source generalizing target with
  | nil => exact ht
  | cons entry rest ih =>
    refine ih ?_ (fun e he => hs e (List.mem_cons_of_mem _ he))
      fun e he => h e (List.mem_cons_of_mem _ he)
    intro e he
    rcases mem_upsert he with rfl | hm | ⟨old, hold, rfl⟩
    · exact hs _ (by simp)
    · exact ht e hm
    · exact h _ (by simp) old (ht _ hold)

theorem keys_mergeWith (target : List (κ × α)) {source : List (κ × α)} (hd : Distinct source) :
    keys (mergeWith combine target source) =
      keys target ++ (keys source).filter fun key => key ∉ keys target := by
  induction source generalizing target with
  | nil => simp [mergeWith, keys]
  | cons entry rest ih =>
    obtain ⟨k, value⟩ := entry
    obtain ⟨hk, hr⟩ := List.nodup_cons.mp hd
    -- the keys that follow are not the first one, so it makes no difference whether that is there
    have hrest : (keys rest).filter (fun key => key ∉ keys (upsert k value (combine · value) target)) =
        (keys rest).filter fun key => key ∉ keys target := by
      refine List.filter_congr fun key hkey => ?_
      have hne : key ≠ k := fun e => hk (e ▸ hkey)
      simp [mem_keys_upsert_iff, hne]
    have hkeys : keys ((k, value) :: rest) = k :: keys rest := rfl
    rw [mergeWith_cons, ih _ hr, hrest, keys_upsert, hkeys]
    by_cases hmem : k ∈ keys target <;> simp [hmem]

theorem get?_mergeWith (key : κ) (target : List (κ × α)) {source : List (κ × α)}
    (hd : Distinct source) :
    get? key (mergeWith combine target source) =
      Option.merge combine (get? key target) (get? key source) := by
  induction source generalizing target with
  | nil => simp [mergeWith, get?]
  | cons entry rest ih =>
    obtain ⟨k, value⟩ := entry
    obtain ⟨hk, hr⟩ := List.nodup_cons.mp hd
    rw [mergeWith_cons, ih _ hr, get?_upsert]
    by_cases hkey : k = key
    · subst hkey
      rw [get?_eq_none_iff.mpr hk]
      cases get? k target <;> simp [get?]
    · simp [get?, hkey]

/-- Two groupings of three maps are the same exactly when they are key by key; the first map may have other
values in one than in the other. -/
theorem mergeWith_mergeWith_eq_iff {a a' b c : List (κ × α)} (ha : Distinct a)
    (hkeys : keys a = keys a') (hb : Distinct b) (hc : Distinct c) :
    mergeWith combine (mergeWith combine a b) c = mergeWith combine a' (mergeWith combine b c) ↔
      ∀ key, Option.merge combine (Option.merge combine (get? key a) (get? key b)) (get? key c) =
        Option.merge combine (get? key a') (Option.merge combine (get? key b) (get? key c)) := by
  have hbc : Distinct (mergeWith combine b c) := distinct_mergeWith combine c hb
  have hleft (key : κ) : get? key (mergeWith combine (mergeWith combine a b) c) =
      Option.merge combine (Option.merge combine (get? key a) (get? key b)) (get? key c) := by
    rw [get?_mergeWith _ _ _ hc, get?_mergeWith _ _ _ hb]
  have hright (key : κ) : get? key (mergeWith combine a' (mergeWith combine b c)) =
      Option.merge combine (get? key a') (Option.merge combine (get? key b) (get? key c)) := by
    rw [get?_mergeWith _ _ _ hbc, get?_mergeWith _ _ _ hc]
  constructor
  · intro h key
    rw [← hleft, ← hright, h]
  · intro h
    refine ext_get? (distinct_mergeWith _ _ (distinct_mergeWith _ _ ha)) ?_ fun key => ?_
    · rw [keys_mergeWith _ _ hc, keys_mergeWith _ _ hb, keys_mergeWith _ _ hbc, keys_mergeWith _ _ hc,
        hkeys]
      simp only [List.filter_append, List.filter_filter, List.append_assoc]
      congr 2
      refine List.filter_congr fun key _ => ?_
      simp only [List.mem_append, List.mem_filter]
      grind
    · rw [hleft, hright, h]

end SwaggerClient.Entries
