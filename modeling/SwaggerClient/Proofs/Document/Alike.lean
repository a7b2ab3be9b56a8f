import Mathlib.Data.List.Forall2
import SwaggerClient.Document.Read
import SwaggerClient.Json.Pointer
import SwaggerClient.Proofs.Outcome

namespace SwaggerClient

/-- The second value has the parts of the first, and can be read as what the first can be read as. -/
structure Json.Covers (j j' : Json) : Prop where
  step : ∀ segment c, step? segment j = some c → step? segment j' = some c
  schema : Gives (Schema.read j) (Schema.read j')
  parameter : Gives (Parameter.read j) (Parameter.read j')
  response : Gives (Response.read j) (Response.read j')
  size : j.size ≤ j'.size
  strings : j.stringCount ≤ j'.stringCount

theorem Json.Covers.refl (j : Json) : j.Covers j :=
  ⟨fun _ _ h => h, fun _ h => h, fun _ h => h, fun _ h => h, Nat.le_refl _, Nat.le_refl _⟩

theorem Json.Covers.follow {segments : List String} {j j' c : Json} (h : j.Covers j')
    (hc : Json.follow? segments j = some c) : ∃ c', Json.follow? segments j' = some c' ∧ c.Covers c' := by
  cases segments with
  | nil =>
    obtain rfl := Option.some.inj hc
    exact ⟨j', rfl, h⟩
  | cons segment rest =>
    obtain ⟨next, hnext, hc⟩ := Option.bind_eq_some_iff.mp hc
    refine ⟨c, ?_, .refl c⟩
    rw [Json.follow?, h.step segment next hnext]
    exact hc

namespace Record

variable {ρ : Type} {record : Record ρ} {R : String → Json → Json → Prop}

/-- Values of the fields in order, related field by field. -/
inductive AlikeItems (R : String → Json → Json → Prop) : List Field → List Json → List Json → Prop
  | nil {fields : List Field} : AlikeItems R fields [] []
  | cons {field : Field} {fields : List Field} {value value' : Json} {items items' : List Json}
      (here : R field.key value value') (rest : AlikeItems R fields items items') :
      AlikeItems R (field :: fields) (value :: items) (value' :: items')

/-- Two values for a record, with the same fields, that are related field by field. -/
inductive Alike (record : Record ρ) (R : String → Json → Json → Prop) : Json → Json → Prop
  | object {entries entries' : List (String × Json)}
      (each : List.Forall₂ (fun e e' => e.1 = e'.1 ∧ R e.1 e.2 e'.2) entries entries') :
      Alike record R (.object entries) (.object entries')
  | array {items items' : List Json} (each : AlikeItems R record.fields items items') :
      Alike record R (.array items) (.array items')

/-- The relation of the values may use what holds of the first one. -/
theorem Alike.imp {R' : String → Json → Json → Prop} {P : Json → Prop} {j j' : Json}
    (h : record.Alike R j j') (hj : ∀ c ∈ j.children, P c)
    (hR : ∀ {key c c'}, P c → R key c c' → R' key c c') : record.Alike R' j j' := by
  cases h with
  | @object entries entries' each =>
    have heach : ∀ e ∈ entries, P e.2 := fun e he => hj e.2 (List.mem_map_of_mem he)
    clear hj
    refine .object ?_
    induction each with
    | nil => exact .nil
    | @cons e e' _ _ he _ ih =>
      refine .cons ⟨he.1, hR (heach e (by simp)) he.2⟩ (ih fun e hm => heach e ?_)
      exact List.mem_cons_of_mem _ hm
  | @array items items' each =>
    change ∀ c ∈ items, P c at hj
    refine .array ?_
    generalize record.fields = fields at each ⊢
    induction each with
    | nil => exact .nil
    | @cons _ _ value _ _ _ he _ ih =>
      refine .cons (hR (hj value (by simp)) he) (ih fun c hm => hj c ?_)
      exact List.mem_cons_of_mem _ hm

theorem Alike.flip {R' : String → Json → Json → Prop} {j j' : Json} (h : record.Alike R j j')
    (hR : ∀ {key c c'}, R key c c' → R' key c' c) : record.Alike R' j' j := by
  cases h with
  | object each =>
    refine .object ?_
    induction each with
    | nil => exact .nil
    | cons he _ ih => exact .cons ⟨he.1.symm, he.1 ▸ hR he.2⟩ ih
  | array each =>
    refine .array ?_
    generalize record.fields = fields at each ⊢
    induction each with
    | nil => exact .nil
    | cons he _ ih => exact .cons (hR he) ih

section Read

variable {S : ρ → ρ → Prop}
  (hset : ∀ {key value value' r r' s s'}, R key value value' → S r r' →
    record.set key value r = .ok s → record.set key value' r' = .ok s' → S s s')

include hset

theorem readEntries_alike {entries entries' : List (String × Json)} {done done' r r' : ρ}
    (h : List.Forall₂ (fun e e' => e.1 = e'.1 ∧ R e.1 e.2 e'.2) entries entries')
    (hd : S done done') (hr : record.readEntries done entries = .ok r)
    (hr' : record.readEntries done' entries' = .ok r') : S r r' := by
  induction h generalizing done done' with
  | nil =>
    obtain rfl := Except.ok.inj hr
    obtain rfl := Except.ok.inj hr'
    exact hd
  | @cons e e' _ _ he _ ih =>
    obtain ⟨hkey, he⟩ := he
    obtain ⟨next, hnext, hr⟩ := bind_eq_ok.mp hr
    obtain ⟨next', hnext', hr'⟩ := bind_eq_ok.mp hr'
    rw [← hkey] at hnext'
    exact ih (hset he hd hnext hnext') hr hr'

theorem readItems_alike {fields : List Field} {items items' : List Json} {count count' position : Nat}
    {done done' r r' : ρ} (h : AlikeItems R fields items items') (hd : S done done')
    (hr : record.readItems count position done fields items = .ok r)
    (hr' : record.readItems count' position done' fields items' = .ok r') : S r r' := by
  induction h generalizing done done' position with
  | @nil fields =>
    cases fields with
    | nil =>
      obtain rfl := Except.ok.inj hr
      obtain rfl := Except.ok.inj hr'
      exact hd
    | cons field fields =>
      simp only [readItems] at hr hr'
      cases hend : (field :: fields).findIdx? fun field => !field.mayEnd with
      | some i => simp [hend] at hr
      | none =>
        simp only [hend] at hr hr'
        obtain rfl := Except.ok.inj hr
        obtain rfl := Except.ok.inj hr'
        exact hd
  | cons he _ ih =>
    obtain ⟨next, hnext, hr⟩ := bind_eq_ok.mp hr
    obtain ⟨next', hnext', hr'⟩ := bind_eq_ok.mp hr'
    exact ih (hset he hd hnext hnext') hr hr'

/-- What holds of an empty record and itself, and is kept by values that are related, holds of the records
that are read. -/
theorem Alike.read {j j' : Json} {r r' : ρ} (h : record.Alike R j j')
    (hempty : S record.empty record.empty) (hr : record.read j = .ok r)
    (hr' : record.read j' = .ok r') : S r r' := by
  cases h with
  | object each => exact readEntries_alike hset each hempty hr hr'
  | array each => exact readItems_alike hset each hempty hr hr'

end Read

theorem get?_alike {entries entries' : List (String × Json)} {segment : String} {c : Json}
    (h : List.Forall₂ (fun e e' => e.1 = e'.1 ∧ R e.1 e.2 e'.2) entries entries')
    (hc : Entries.get? segment entries = some c) :
    ∃ key c', Entries.get? segment entries' = some c' ∧ R key c c' := by
  induction h with
  | nil => cases hc
  | @cons e e' _ _ he _ ih =>
    obtain ⟨key, value⟩ := e
    obtain ⟨key', value'⟩ := e'
    obtain ⟨rfl, he⟩ := he
    simp only [Entries.get?] at hc ⊢
    split at hc
    · next hkey =>
      obtain rfl := Option.some.inj hc
      exact ⟨key, value', by simp [hkey], he⟩
    · next hkey =>
      simp only [hkey, if_false]
      exact ih hc

theorem getElem?_alike {fields : List Field} {items items' : List Json} {i : Nat} {c : Json}
    (h : AlikeItems R fields items items') (hc : items[i]? = some c) :
    ∃ key c', items'[i]? = some c' ∧ R key c c' := by
  induction h generalizing i with
  | nil => simp at hc
  | @cons field _ value value' _ _ he _ ih =>
    cases i with
    | zero =>
      obtain rfl : value = c := by simpa using hc
      exact ⟨field.key, value', rfl, he⟩
    | succ i => exact ih hc

theorem Alike.step? {j j' c : Json} (h : record.Alike R j j') {segment : String}
    (hc : Json.step? segment j = some c) : ∃ key c', Json.step? segment j' = some c' ∧ R key c c' := by
  cases h with
  | object each => exact get?_alike each hc
  | array each =>
    obtain ⟨i, hi, hc⟩ := Option.bind_eq_some_iff.mp hc
    obtain ⟨key, c', hc', hR⟩ := getElem?_alike each hc
    exact ⟨key, c', Option.bind_eq_some_iff.mpr ⟨i, hi, hc'⟩, hR⟩

section Covers

variable (hR : ∀ key j j', R key j j' → j.Covers j')

include hR

theorem Alike.follow? {j j' c : Json} (h : record.Alike R j j') {segment : String}
    {segments : List String} (hc : Json.follow? (segment :: segments) j = some c) :
    ∃ c', Json.follow? (segment :: segments) j' = some c' ∧ c.Covers c' := by
  obtain ⟨next, hnext, hc⟩ := Option.bind_eq_some_iff.mp hc
  obtain ⟨key, next', hnext', hcovers⟩ := h.step? hnext
  obtain ⟨c', hc', hcovers'⟩ := (hR key next next' hcovers).follow hc
  exact ⟨c', Option.bind_eq_some_iff.mpr ⟨next', hnext', hc'⟩, hcovers'⟩

theorem sizeEntries_alike {entries entries' : List (String × Json)}
    (h : List.Forall₂ (fun e e' => e.1 = e'.1 ∧ R e.1 e.2 e'.2) entries entries') :
    Json.sizeEntries entries ≤ Json.sizeEntries entries' ∧
      Json.stringCountEntries entries ≤ Json.stringCountEntries entries' := by
  induction h with
  | nil => simp
  | cons he _ ih =>
    have hsize := (hR _ _ _ he.2).size
    have hstrings := (hR _ _ _ he.2).strings
    simp only [Json.sizeEntries, Json.stringCountEntries]
    omega

theorem sizeItems_alike {fields : List Field} {items items' : List Json}
    (h : AlikeItems R fields items items') :
    Json.sizeItems items ≤ Json.sizeItems items' ∧
      Json.stringCountItems items ≤ Json.stringCountItems items' := by
  induction h with
  | nil => simp
  | cons he _ ih =>
    have hsize := (hR _ _ _ he).size
    have hstrings := (hR _ _ _ he).strings
    simp only [Json.sizeItems, Json.stringCountItems]
    omega

theorem Alike.size {j j' : Json} (h : record.Alike R j j') :
    j.size ≤ j'.size ∧ j.stringCount ≤ j'.stringCount := by
  cases h with
  | object each =>
    have hsizes := sizeEntries_alike hR each
    simp only [Json.size, Json.stringCount]
    omega
  | array each =>
    have hsizes := sizeItems_alike hR each
    simp only [Json.size, Json.stringCount]
    omega

end Covers

end Record

end SwaggerClient
