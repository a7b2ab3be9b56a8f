import SwaggerClient.Api.Methods
import SwaggerClient.Proofs.Entries

namespace SwaggerClient

namespace Response

/-- The key is written in digits alone, and they make a number of at most 16 bits. (A plus sign in front, which
a number may have, cannot come up in a key that begins with a digit.) -/
structure ReadsAs (key : String) (n : Nat) : Prop where
  nonempty : key ≠ ""
  digits : ∀ c ∈ key.toList, c.isDigit
  value : Nat.ofDigitChars 10 key.toList 0 = n
  small : n < 65536

theorem ReadsAs.eq {key : String} {n m : Nat} (h : ReadsAs key n) (h' : ReadsAs key m) : n = m :=
  h.value.symm.trans h'.value

theorem statusCode?_eq_some_iff {key : String} {n : Nat} :
    statusCode? key = some n ↔ ReadsAs key n := by
  constructor
  · intro h
    dsimp only [statusCode?] at h
    split at h
    · cases h
    · next hdigits =>
      obtain ⟨hempty, hall⟩ : key ≠ "" ∧ ∀ c ∈ key.toList, c.isDigit := by simpa using hdigits
      split at h
      · next hsmall =>
        obtain rfl := Option.some.inj h
        exact ⟨hempty, hall, rfl, hsmall⟩
      · cases h
  · rintro ⟨hempty, hall, rfl, hsmall⟩
    dsimp only [statusCode?]
    rw [if_neg (by simpa using ⟨hempty, hall⟩)]
    exact if_pos hsmall

/-- The value of a digit. -/
def digitValue (c : Char) : Nat :=
  c.toNat - '0'.toNat

theorem isDigit_bounds {c : Char} (h : c.isDigit) : 48 ≤ c.toNat ∧ c.toNat ≤ 57 := by
  simpa [Char.isDigit, UInt32.le_iff_toNat_le] using h

theorem digitValue_lt {c : Char} (h : c.isDigit) : digitValue c < 10 := by
  obtain ⟨_, hhigh⟩ := isDigit_bounds h
  change c.toNat - 48 < 10
  omega

theorem toDigits_digitValue {c : Char} (h : c.isDigit) : Nat.toDigits 10 (digitValue c) = [c] := by
  obtain ⟨hlow, _⟩ := isDigit_bounds h
  have hlt := digitValue_lt h
  have hchar : Nat.digitChar (digitValue c) = c := by
    apply Char.toNat_inj.mp
    rw [Nat.toNat_digitChar_of_lt_ten hlt]
    change 48 + (c.toNat - 48) = c.toNat
    omega
  rw [Nat.toDigits_of_lt_base hlt, hchar]

/-- Digits that are read on from a number stand behind its own. -/
theorem toDigits_ofDigitChars {chars : List Char} (h : ∀ c ∈ chars, c.isDigit) {n : Nat} (hn : 0 < n) :
    Nat.toDigits 10 (Nat.ofDigitChars 10 chars n) = Nat.toDigits 10 n ++ chars := by
  induction chars generalizing n with
  | nil => simp
  | cons c rest ih =>
    obtain ⟨hc, hrest⟩ := List.forall_mem_cons.mp h
    calc Nat.toDigits 10 (Nat.ofDigitChars 10 (c :: rest) n)
      _ = Nat.toDigits 10 (10 * n + digitValue c) ++ rest := by
        rw [Nat.ofDigitChars_cons]
        exact ih hrest (by omega)
      _ = Nat.toDigits 10 n ++ c :: rest := by
        rw [← Nat.toDigits_append_toDigits (by decide) hn (digitValue_lt hc), toDigits_digitValue hc]
        simp

/-- A key that begins with another digit than zero is the numeral of its code. -/
theorem ReadsAs.toList_eq {key : String} {n : Nat} (h : ReadsAs key n) {digit : Char} (hzero : digit ≠ '0')
    (hdigit : Text.beginsWith digit key) : key.toList = Nat.toDigits 10 n := by
  obtain ⟨rest, hkey⟩ : ∃ rest, key.toList = digit :: rest := by
    simpa [Text.beginsWith, List.head?_eq_some_iff] using hdigit
  have hdigits := h.digits
  rw [hkey] at hdigits
  obtain ⟨hfirst, hrest⟩ := List.forall_mem_cons.mp hdigits
  have hpos : 0 < digitValue digit := by
    obtain ⟨hlow, _⟩ := isDigit_bounds hfirst
    have hne : digit.toNat ≠ 48 := fun e => hzero (Char.toNat_inj.mp e)
    change 0 < digit.toNat - 48
    omega
  have hvalue : Nat.ofDigitChars 10 rest (digitValue digit) = n := by
    rw [← h.value, hkey, Nat.ofDigitChars_cons]
    simp [digitValue]
  rw [← hvalue, toDigits_ofDigitChars hrest hpos, toDigits_digitValue hfirst, hkey]
  rfl

/-- Two keys that begin with the same digit, not zero, have different codes. -/
theorem ReadsAs.unique {key other : String} {n : Nat} {digit : Char} (hzero : digit ≠ '0')
    (h : ReadsAs key n) (hdigit : Text.beginsWith digit key)
    (h' : ReadsAs other n) (hdigit' : Text.beginsWith digit other) : key = other :=
  String.toList_inj.mp ((h.toList_eq hzero hdigit).trans (h'.toList_eq hzero hdigit').symm)

/-- What the search for the least code comes to. -/
inductive Least (keys : List String) : Option (Nat × String) → Prop
  | none (unread : ∀ key ∈ keys, ∀ n, ¬ReadsAs key n) : Least keys none
  | some {n : Nat} {key : String} (mem : key ∈ keys) (reads : ReadsAs key n)
    (le : ∀ other ∈ keys, ∀ m, ReadsAs other m → n ≤ m) : Least keys (some (n, key))

theorem Least.cons_unread {keys : List String} {best : Option (Nat × String)} (h : Least keys best)
    {key : String} (hkey : statusCode? key = .none) : Least (key :: keys) best := by
  have hunread : ∀ n, ¬ReadsAs key n := by
    intro n hn
    rw [statusCode?_eq_some_iff.mpr hn] at hkey
    cases hkey
  cases h with
  | none unread => exact .none (List.forall_mem_cons.mpr ⟨hunread, unread⟩)
  | some mem reads le =>
    refine .some (List.mem_cons_of_mem _ mem) reads (List.forall_mem_cons.mpr ⟨?_, le⟩)
    exact fun m hm => absurd hm (hunread m)

theorem least_leastCode? (keys : List String) : Least keys (leastCode? keys) := by
  induction keys with
  | nil => exact .none (by simp)
  | cons key rest ih =>
    unfold leastCode?
    split
    · next hkey => exact ih.cons_unread hkey
    · next n hkey hrest =>
      have hreads := statusCode?_eq_some_iff.mp hkey
      rw [hrest] at ih
      cases ih with
      | none unread =>
        refine .some (by simp) hreads (List.forall_mem_cons.mpr ⟨?_, ?_⟩)
        · exact fun m hm => Nat.le_of_eq (hreads.eq hm)
        · exact fun other hother m hm => absurd hm (unread other hother m)
    · next n m other hkey hrest =>
      have hreads := statusCode?_eq_some_iff.mp hkey
      rw [hrest] at ih
      cases ih with
      | some mem reads le =>
        split
        · next hle =>
          refine .some (by simp) hreads (List.forall_mem_cons.mpr ⟨?_, ?_⟩)
          · exact fun k hk => Nat.le_of_eq (hreads.eq hk)
          · exact fun other hother k hk => Nat.le_trans hle (le other hother k hk)
        · next hlt =>
          refine .some (List.mem_cons_of_mem _ mem) reads (List.forall_mem_cons.mpr ⟨?_, le⟩)
          exact fun k hk => hreads.eq hk ▸ Nat.le_of_not_le hlt

/-- The keys that begin with a digit. -/
def keysOf (digit : Char) (keys : List String) : List String :=
  keys.filter (Text.beginsWith digit)

/-- The key to take of those that begin with a digit: the one with the least status code, or the first one if
none of them is a status code. -/
inductive IsBest (keys : List String) (digit : Char) (key : String) : Prop
  | least {n : Nat} (mem : key ∈ keysOf digit keys) (reads : ReadsAs key n)
    (le : ∀ other ∈ keysOf digit keys, ∀ m, ReadsAs other m → n ≤ m)
  | first (unread : ∀ other ∈ keysOf digit keys, ∀ n, ¬ReadsAs other n)
    (head : (keysOf digit keys).head? = some key)

variable {keys : List String} {digit : Char} {key : String}

theorem mem_keysOf : key ∈ keysOf digit keys ↔ key ∈ keys ∧ Text.beginsWith digit key :=
  List.mem_filter

theorem IsBest.mem (h : IsBest keys digit key) : key ∈ keysOf digit keys := by
  cases h with
  | least mem _ _ => exact mem
  | first _ head => exact List.mem_of_mem_head? head

/-- A digit that some key begins with has one best key. -/
theorem IsBest.unique (hzero : digit ≠ '0') {other : String} (h : IsBest keys digit key)
    (h' : IsBest keys digit other) : key = other := by
  cases h with
  | least mem reads le =>
    cases h' with
    | least mem' reads' le' =>
      obtain rfl := Nat.le_antisymm (le _ mem' _ reads') (le' _ mem _ reads)
      exact reads.unique hzero (mem_keysOf.mp mem).2 reads' (mem_keysOf.mp mem').2
    | first unread _ => exact absurd reads (unread _ mem _)
  | first unread head =>
    cases h' with
    | least mem' reads' _ => exact absurd reads' (unread _ mem' _)
    | first _ head' => exact Option.some.inj (head.symm.trans head')

theorem bestOfClass?_eq (digit : Char) (keys : List String) :
    bestOfClass? digit keys =
      ((leastCode? (keysOf digit keys)).map (·.2)).or (keysOf digit keys).head? := rfl

theorem bestOfClass?_eq_none_iff : bestOfClass? digit keys = none ↔ keysOf digit keys = [] := by
  rw [bestOfClass?_eq, Option.or_eq_none_iff, List.head?_eq_none_iff]
  refine ⟨And.right, fun h => ⟨?_, h⟩⟩
  rw [h]
  rfl

theorem isBest_of_bestOfClass? (h : bestOfClass? digit keys = some key) : IsBest keys digit key := by
  have hleast := least_leastCode? (keysOf digit keys)
  rw [bestOfClass?_eq] at h
  cases hcode : leastCode? (keysOf digit keys) with
  | none =>
    rw [hcode] at hleast h
    cases hleast with
    | none unread => exact .first unread h
  | some best =>
    rw [hcode] at hleast h
    cases hleast with
    | some mem reads le =>
      obtain rfl := Option.some.inj h
      exact .least mem reads le

theorem bestOfClass?_eq_some_iff (hzero : digit ≠ '0') :
    bestOfClass? digit keys = some key ↔ IsBest keys digit key := by
  refine ⟨isBest_of_bestOfClass?, fun h => ?_⟩
  cases hbest : bestOfClass? digit keys with
  | none =>
    have hmem := h.mem
    rw [bestOfClass?_eq_none_iff.mp hbest] at hmem
    cases hmem
  | some other => rw [h.unique hzero (isBest_of_bestOfClass? hbest)]

/-- The key that is to be selected: of a success, else of a redirection, else the default one. -/
inductive Selected (keys : List String) : Option String → Prop
  | success {key : String} (best : IsBest keys '2' key) : Selected keys (some key)
  | redirection {key : String} (no_success : keysOf '2' keys = []) (best : IsBest keys '3' key) :
    Selected keys (some key)
  | default (no_success : keysOf '2' keys = []) (no_redirection : keysOf '3' keys = [])
    (mem : "default" ∈ keys) : Selected keys (some "default")
  | none (no_success : keysOf '2' keys = []) (no_redirection : keysOf '3' keys = [])
    (not_mem : "default" ∉ keys) : Selected keys none

theorem Selected.select?_eq {answer : Option String} (h : Selected keys answer) :
    select? keys = answer := by
  unfold select?
  cases h with
  | success best => rw [(bestOfClass?_eq_some_iff (by decide)).mpr best]; rfl
  | redirection no_success best =>
    rw [bestOfClass?_eq_none_iff.mpr no_success, (bestOfClass?_eq_some_iff (by decide)).mpr best]
    rfl
  | default no_success no_redirection mem =>
    rw [bestOfClass?_eq_none_iff.mpr no_success, bestOfClass?_eq_none_iff.mpr no_redirection, if_pos mem]
    rfl
  | none no_success no_redirection not_mem =>
    rw [bestOfClass?_eq_none_iff.mpr no_success, bestOfClass?_eq_none_iff.mpr no_redirection,
      if_neg not_mem]
    rfl

/-- Something is to be selected of any keys. -/
theorem exists_selected (keys : List String) : ∃ answer, Selected keys answer := by
  cases hsuccess : bestOfClass? '2' keys with
  | some key => exact ⟨_, .success (isBest_of_bestOfClass? hsuccess)⟩
  | none =>
    have hno := bestOfClass?_eq_none_iff.mp hsuccess
    cases hredirection : bestOfClass? '3' keys with
    | some key => exact ⟨_, .redirection hno (isBest_of_bestOfClass? hredirection)⟩
    | none =>
      have hno' := bestOfClass?_eq_none_iff.mp hredirection
      by_cases hdefault : "default" ∈ keys
      · exact ⟨_, .default hno hno' hdefault⟩
      · exact ⟨_, .none hno hno' hdefault⟩

theorem select?_eq_iff {answer : Option String} : select? keys = answer ↔ Selected keys answer := by
  refine ⟨fun h => ?_, Selected.select?_eq⟩
  obtain ⟨other, hother⟩ := exists_selected keys
  rwa [← h, hother.select?_eq]

theorem Selected.mem {key : String} (h : Selected keys (some key)) : key ∈ keys := by
  cases h with
  | success best => exact (mem_keysOf.mp best.mem).1
  | redirection _ best => exact (mem_keysOf.mp best.mem).1
  | default _ _ mem => exact mem

/-- The digit that the selected key begins with. -/
inductive Wins (keys : List String) : Char → Prop
  | success (some_success : keysOf '2' keys ≠ []) : Wins keys '2'
  | redirection (no_success : keysOf '2' keys = []) (some_redirection : keysOf '3' keys ≠ []) :
    Wins keys '3'

/-- Some of the keys that begin with the digit is a status code, or there is only one of them. -/
def Settles (keys : List String) (digit : Char) : Prop :=
  (∃ key ∈ keysOf digit keys, ∃ n, ReadsAs key n) ∨ (keysOf digit keys).length = 1

theorem keysOf_perm {others : List String} (hperm : keys.Perm others) (digit : Char) :
    (keysOf digit keys).Perm (keysOf digit others) :=
  hperm.filter _

theorem IsBest.perm {others : List String} (hperm : keys.Perm others) (hsettles : Settles keys digit)
    (h : IsBest keys digit key) : IsBest others digit key := by
  have hclass := keysOf_perm hperm digit
  cases h with
  | least mem reads le =>
    exact .least (hclass.mem_iff.mp mem) reads fun other hother => le other (hclass.mem_iff.mpr hother)
  | first unread head =>
    obtain ⟨other, hother, n, hn⟩ | hlength := hsettles
    · exact absurd hn (unread other hother n)
    · obtain ⟨only, honly⟩ := List.length_eq_one_iff.mp hlength
      rw [honly] at unread head hclass
      have hsame := List.singleton_perm.mp hclass
      exact .first (hsame ▸ unread) (hsame ▸ head)

theorem Selected.perm {others : List String} (hperm : keys.Perm others)
    (hsettles : ∀ digit, Wins keys digit → Settles keys digit) {answer : Option String}
    (h : Selected keys answer) : Selected others answer := by
  have hnil : ∀ {digit : Char}, keysOf digit keys = [] → keysOf digit others = [] :=
    fun {digit} hempty => (hempty ▸ keysOf_perm hperm digit).nil_eq.symm
  cases h with
  | success best =>
    exact .success (best.perm hperm (hsettles _ (.success (List.ne_nil_of_mem best.mem))))
  | redirection no_success best =>
    exact .redirection (hnil no_success)
      (best.perm hperm (hsettles _ (.redirection no_success (List.ne_nil_of_mem best.mem))))
  | default no_success no_redirection mem =>
    exact .default (hnil no_success) (hnil no_redirection) (hperm.mem_iff.mp mem)
  | none no_success no_redirection not_mem =>
    exact .none (hnil no_success) (hnil no_redirection) (mt hperm.mem_iff.mpr not_mem)

end Response

namespace MethodSynthesis

open Entries Response

theorem selectedResponse?_eq_some {op : Operation} {key : String}
    (h : select? (keys op.responses) = some key) :
    ∃ r, get? key op.responses = some r ∧ selectedResponse? op = some r := by
  have hmem := (select?_eq_iff.mp h).mem
  cases hr : get? key op.responses with
  | none => exact absurd hmem (get?_eq_none_iff.mp hr)
  | some r =>
    refine ⟨r, rfl, ?_⟩
    rw [selectedResponse?, h]
    exact hr

/-- The selected key is the best one, and there is a response under it. It does not depend on the order of the
responses if the digit that wins settles it. -/
theorem select?_best (op : Operation) :
    (∀ answer, select? (keys op.responses) = answer ↔ Selected (keys op.responses) answer) ∧
    (∀ key, select? (keys op.responses) = some key →
      key ∈ keys op.responses ∧
        ∃ r, get? key op.responses = some r ∧ selectedResponse? op = some r) ∧
    ∀ other : Operation, op.responses.Perm other.responses →
      (∀ digit, Wins (keys op.responses) digit → Settles (keys op.responses) digit) →
        select? (keys other.responses) = select? (keys op.responses) ∧
          (Distinct op.responses → selectedResponse? other = selectedResponse? op) := by
  refine ⟨fun answer => select?_eq_iff, fun key h => ?_, fun other hperm hsettles => ?_⟩
  · exact ⟨(select?_eq_iff.mp h).mem, selectedResponse?_eq_some h⟩
  · have hkey : select? (keys other.responses) = select? (keys op.responses) :=
      ((select?_eq_iff.mp rfl).perm (hperm.map _) hsettles).select?_eq
    refine ⟨hkey, fun hdistinct => ?_⟩
    simp only [selectedResponse?, hkey, get?_perm hdistinct hperm]

/-- A status code wins over a wildcard, and the least one over the others. -/
example : select? ["default", "2XX", "204", "200"] = some "200" := by decide

end MethodSynthesis

end SwaggerClient
