import Mathlib.Data.List.Basic
import SwaggerClient.Unicode.Alphanumeric
import SwaggerClient.Unicode.CaseMapping

namespace SwaggerClient.Unicode

variable {c d : Char} {text : List Char}

theorem forall_ascii {P : Char → Prop} (h : ∀ n : Fin 128, P (Char.ofNat n)) (c : Char)
    (hc : c.toNat < 128) : P c := by
  have hcode := h ⟨c.toNat, hc⟩
  rwa [Char.ofNat_toNat] at hcode

theorem upperChar_ascii : ∀ c : Char, c.toNat < 128 → upperChar c = [c.toUpper] :=
  forall_ascii (by decide +kernel)

theorem lowerChar_ascii : ∀ c : Char, c.toNat < 128 → lowerChar c = [c.toLower] :=
  forall_ascii (by decide +kernel)

theorem upper_ascii (h : ∀ c ∈ text, c.toNat < 128) : upper text = text.map Char.toUpper := by
  induction text with
  | nil => rfl
  | cons c rest ih =>
    obtain ⟨hc, hrest⟩ := List.forall_mem_cons.mp h
    rw [List.map_cons, ← ih hrest, upper, List.flatMap_cons, upperChar_ascii c hc]
    rfl

theorem lowerAfter_ascii (h : ∀ c ∈ text, c.toNat < 128) (before : List Char) :
    lowerAfter before text = text.map Char.toLower := by
  induction text generalizing before with
  | nil => rfl
  | cons c rest ih =>
    obtain ⟨hc, hrest⟩ := List.forall_mem_cons.mp h
    have hsigma : c ≠ 'Σ' := by
      rintro rfl
      exact absurd hc (by decide)
    rw [lowerAfter, if_neg hsigma, lowerChar_ascii c hc, ih hrest]
    rfl

theorem lower_ascii (h : ∀ c ∈ text, c.toNat < 128) : lower text = text.map Char.toLower :=
  lowerAfter_ascii h []

/-- A change of ASCII characters to one case. -/
structure Recases (f : Char → Char) : Prop where
  ascii : ∀ c : Char, c.toNat < 128 → (f c).toNat < 128
  alphanumeric : ∀ c : Char, c.toNat < 128 → isAlphanumeric (f c) = isAlphanumeric c
  numeric : ∀ c : Char, c.toNat < 128 → isNumeric (f c) = isNumeric c
  toLower : ∀ c : Char, c.toNat < 128 → (f c).toLower = c.toLower
  oneCase : (∀ c : Char, c.toNat < 128 → isUppercase (f c) = false) ∨
    ∀ c : Char, c.toNat < 128 → isLowercase (f c) = false

theorem recases_toLower : Recases Char.toLower where
  ascii := forall_ascii (by decide +kernel)
  alphanumeric := forall_ascii (by decide +kernel)
  numeric := forall_ascii (by decide +kernel)
  toLower := forall_ascii (by decide +kernel)
  oneCase := .inl (forall_ascii (by decide +kernel))

theorem recases_toUpper : Recases Char.toUpper where
  ascii := forall_ascii (by decide +kernel)
  alphanumeric := forall_ascii (by decide +kernel)
  numeric := forall_ascii (by decide +kernel)
  toLower := forall_ascii (by decide +kernel)
  oneCase := .inr (forall_ascii (by decide +kernel))

/-- Every character of the run moves to one between `low` and `high`, or beyond `z`. -/
def CaseRun.Leads (low high : Char) (run : CaseRun) : Prop :=
  (low.toNat ≤ run.first + run.shift ∧ run.last + run.shift ≤ high.toNat ∨
      'z'.toNat < run.first + run.shift) ∧
    (run.last + run.shift < 0xD800 ∨
      0xDFFF < run.first + run.shift ∧ run.last + run.shift < 0x110000)

instance (low high : Char) : DecidablePred (CaseRun.Leads low high) :=
  fun _ => inferInstanceAs (Decidable (_ ∧ _))

theorem CaseRun.move_eq_or (runs : List CaseRun) (n : Nat) :
    move runs n = n ∨
      ∃ run ∈ runs, run.first ≤ n ∧ n ≤ run.last ∧ move runs n = (n + run.shift).toNat := by
  induction runs with
  | nil => exact .inl rfl
  | cons run rest ih =>
    unfold move
    split
    · exact .inl rfl
    · next hfirst =>
      split
      · next hlast =>
        have hlast := (Bool.and_eq_true_iff.mp hlast).1
        exact .inr ⟨run, by simp, by omega, of_decide_eq_true hlast, rfl⟩
      · rcases ih with h | ⟨r, hr, h⟩
        · exact .inl h
        · exact .inr ⟨r, List.mem_cons_of_mem _ hr, h⟩

theorem toNat_ofNat_of_isValidChar {n : Nat} (h : n.isValidChar) : (Char.ofNat n).toNat = n := by
  rw [Char.ofNat, dif_pos h]
  rfl

/-- A form is the character itself, or between `low` and `high`, or beyond `z`. -/
theorem mem_mapCase {low high : Char} {runs : List CaseRun} {expansions : List (Nat × List Nat)}
    (hruns : ∀ run ∈ runs, run.Leads low high)
    (hexpansions : ∀ e ∈ expansions, ∀ code ∈ e.2, (Char.ofNat code).toNat = code ∧
      (low.toNat ≤ code ∧ code ≤ high.toNat ∨ 'z'.toNat < code))
    (h : d ∈ mapCase runs expansions c) :
    d = c ∨ low.toNat ≤ d.toNat ∧ d.toNat ≤ high.toNat ∨ 'z'.toNat < d.toNat := by
  unfold mapCase at h
  split at h
  · next codes hcodes =>
    obtain ⟨code, hcode, rfl⟩ := List.mem_map.mp h
    obtain ⟨front, back, hmem, _⟩ := List.lookup_eq_some_iff.mp hcodes
    have hin : (c.toNat, codes) ∈ expansions := by simp [hmem]
    obtain ⟨hvalid, hlands⟩ := hexpansions _ hin code hcode
    rw [hvalid]
    exact .inr hlands
  · obtain rfl := List.mem_singleton.mp h
    rcases CaseRun.move_eq_or runs c.toNat with hsame | ⟨run, hrun, hfirst, hlast, hmove⟩
    · rw [hsame, Char.ofNat_toNat]
      exact .inl rfl
    · obtain ⟨hlands, hvalid⟩ := hruns run hrun
      have hcode : (CaseRun.move runs c.toNat).isValidChar := by
        unfold Nat.isValidChar
        omega
      rw [toNat_ofNat_of_isValidChar hcode]
      right
      omega

theorem mapCase_ne_nil {runs : List CaseRun} {expansions : List (Nat × List Nat)}
    (h : ∀ e ∈ expansions, e.2 ≠ []) (c : Char) : mapCase runs expansions c ≠ [] := by
  unfold mapCase
  split
  · next codes hcodes =>
    obtain ⟨front, back, hmem, _⟩ := List.lookup_eq_some_iff.mp hcodes
    have hin : (c.toNat, codes) ∈ expansions := by simp [hmem]
    simpa using h _ hin
  · simp

/-- A form in upper case is the character itself, an ASCII capital, or beyond `z`. -/
theorem mem_upperChar (h : d ∈ upperChar c) :
    d = c ∨ 'A'.toNat ≤ d.toNat ∧ d.toNat ≤ 'Z'.toNat ∨ 'z'.toNat < d.toNat :=
  mem_mapCase (by decide +kernel) (by decide +kernel) h

theorem mem_lowerChar (h : d ∈ lowerChar c) :
    d = c ∨ 'a'.toNat ≤ d.toNat ∧ d.toNat ≤ 'z'.toNat ∨ 'z'.toNat < d.toNat :=
  mem_mapCase (by decide +kernel) (by decide +kernel) h

theorem upperChar_ne_nil (c : Char) : upperChar c ≠ [] :=
  mapCase_ne_nil (by decide +kernel) c

theorem lowerChar_ne_nil (c : Char) : lowerChar c ≠ [] :=
  mapCase_ne_nil (by decide +kernel) c

theorem isLower_iff : c.isLower ↔ 'a'.toNat ≤ c.toNat ∧ c.toNat ≤ 'z'.toNat := by
  have h : c.isLower = (decide (c.val ≥ 'a'.val) && decide (c.val ≤ 'z'.val)) := rfl
  rw [h, Bool.and_eq_true, decide_eq_true_eq, decide_eq_true_eq]
  exact Iff.rfl

/-- No upper-case form is a small letter of ASCII. -/
theorem isLower_of_mem_upperChar (h : d ∈ upperChar c) : d.isLower = false := by
  have hascii : ∀ c : Char, c.toNat < 128 → c.toUpper.isLower = false := forall_ascii (by decide +kernel)
  by_contra hlower
  obtain ⟨hlow, hhigh⟩ := isLower_iff.mp (by simpa using hlower)
  have hsmall : d.toNat < 128 := Nat.lt_of_le_of_lt hhigh (by decide)
  rcases mem_upperChar h with rfl | hcapital | hbeyond
  · rw [upperChar_ascii d hsmall, List.mem_singleton] at h
    rw [h, hascii d hsmall] at hlower
    exact hlower rfl
  · have hcase : 'Z'.toNat < 'a'.toNat := by decide
    omega
  · omega

/-- An upper-case form is a digit of ASCII only if the character is. -/
theorem isDigit_of_mem_upperChar (h : d ∈ upperChar c) (hd : d.isDigit) : c.isDigit := by
  have hbound : d.toNat ≤ '9'.toNat := by
    simp only [Char.isDigit, UInt32.le_iff_toNat_le, Bool.and_eq_true, decide_eq_true_eq] at hd
    exact hd.2
  have hcapital : '9'.toNat < 'A'.toNat := by decide
  have hbeyond : '9'.toNat < 'z'.toNat := by decide
  rcases mem_upperChar h with rfl | hletter | hletter
  · exact hd
  · omega
  · omega

/-- What is neither a capital of ASCII nor beyond `z` is a form of itself alone. -/
theorem mem_of_mem_upper (h : d ∈ upper text)
    (hd : ¬('A'.toNat ≤ d.toNat ∧ d.toNat ≤ 'Z'.toNat) ∧ d.toNat ≤ 'z'.toNat) : d ∈ text := by
  obtain ⟨c, hc, hmem⟩ := List.mem_flatMap.mp h
  rcases mem_upperChar hmem with rfl | hcapital | hbeyond
  · exact hc
  · exact absurd hcapital hd.1
  · omega

theorem mem_lowerAfter {before : List Char} (h : d ∈ lowerAfter before text) :
    (∃ c ∈ text, d ∈ lowerChar c) ∨ 'z'.toNat < d.toNat := by
  induction text generalizing before with
  | nil => cases h
  | cons c rest ih =>
    rcases List.mem_append.mp h with hform | hrest
    · split at hform
      · right
        split at hform <;> obtain rfl := List.mem_singleton.mp hform <;> decide
      · exact .inl ⟨c, by simp, hform⟩
    · rcases ih hrest with ⟨e, he, hform⟩ | hbeyond
      · exact .inl ⟨e, List.mem_cons_of_mem _ he, hform⟩
      · exact .inr hbeyond

theorem mem_of_mem_lower (h : d ∈ lower text) (hd : d.toNat < 'a'.toNat) : d ∈ text := by
  rcases mem_lowerAfter h with ⟨c, hc, hmem⟩ | hbeyond
  · rcases mem_lowerChar hmem with rfl | hsmall | hbeyond
    · exact hc
    · omega
    · have hcase : 'a'.toNat < 'z'.toNat := by decide
      omega
  · have hcase : 'a'.toNat < 'z'.toNat := by decide
    omega

theorem lower_ne_nil (h : text ≠ []) : lower text ≠ [] := by
  obtain ⟨c, rest, rfl⟩ := List.exists_cons_of_ne_nil h
  rw [lower, lowerAfter]
  intro hnil
  have hform := (List.append_eq_nil_iff.mp hnil).1
  split at hform
  · split at hform <;> cases hform
  · exact lowerChar_ne_nil c hform

theorem upper_ne_nil (h : text ≠ []) : upper text ≠ [] := by
  obtain ⟨c, rest, rfl⟩ := List.exists_cons_of_ne_nil h
  intro hnil
  exact upperChar_ne_nil c (List.append_eq_nil_iff.mp hnil).1

end SwaggerClient.Unicode
