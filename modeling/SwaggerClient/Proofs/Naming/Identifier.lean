import SwaggerClient.Naming.Rules
import SwaggerClient.Proofs.Naming.Words

namespace SwaggerClient.Naming

open Unicode

variable {c d : Char} {text word : List Char}

/-- The character is in no word and in no form of a letter. -/
structure Mark (d : Char) : Prop where
  notAlphanumeric : isAlphanumeric d = false
  notCapital : ¬('A'.toNat ≤ d.toNat ∧ d.toNat ≤ 'Z'.toNat)
  small : d.toNat < 'a'.toNat

theorem mark_underscore : Mark '_' := ⟨by decide +kernel, by decide, by decide⟩

theorem mark_backquote : Mark '`' := ⟨by decide +kernel, by decide, by decide⟩

namespace Mark

variable (hd : Mark d)

include hd

theorem not_mem_word (h : word ∈ words text) : d ∉ word := by
  intro hmem
  have hletter := (mem_of_mem_words h hmem).2
  rw [hd.notAlphanumeric] at hletter
  cases hletter

theorem not_mem_lower (h : d ∉ text) : d ∉ lower text :=
  fun hmem => h (mem_of_mem_lower hmem hd.small)

theorem not_mem_upper (h : d ∉ text) : d ∉ upper text := by
  have hcase : 'a'.toNat ≤ 'z'.toNat := by decide
  have hsmall := hd.small
  exact fun hmem => h (mem_of_mem_upper hmem ⟨hd.notCapital, by omega⟩)

theorem not_mem_capitalizeChars (h : d ∉ text) : d ∉ capitalizeChars text := by
  cases text with
  | nil => exact h
  | cons c rest =>
    intro hmem
    rcases List.mem_append.mp hmem with hfirst | hrest
    · have hupper : d ∈ upper [c] := List.mem_flatMap.mpr ⟨c, by simp, hfirst⟩
      exact hd.not_mem_upper (by simp_all) hupper
    · exact h (List.mem_cons_of_mem _ hrest)

theorem not_mem_camelChars (text : List Char) : d ∉ camelChars text := by
  unfold camelChars
  split
  · simp
  · next first others hwords =>
    have hnone : ∀ w ∈ first :: others, d ∉ lower w :=
      fun w hw => hd.not_mem_lower (hd.not_mem_word (hwords ▸ hw))
    intro hmem
    rcases List.mem_append.mp hmem with hfirst | hrest
    · exact hnone first (by simp) hfirst
    · obtain ⟨w, hw, hform⟩ := List.mem_flatMap.mp hrest
      exact hd.not_mem_capitalizeChars (hnone w (List.mem_cons_of_mem _ hw)) hform

end Mark

/-- What is left of words in one case: something, without marks. -/
structure Bare (word : List Char) : Prop where
  ne_nil : word ≠ []
  noUnderscore : '_' ∉ word
  noQuote : '`' ∉ word

theorem bare_lowerWords (text : String) : ∀ word ∈ lowerWords text, Bare word :=
  List.forall_mem_map.mpr fun _ hw =>
    ⟨lower_ne_nil (of_mem_words hw).1, mark_underscore.not_mem_lower (mark_underscore.not_mem_word hw),
      mark_backquote.not_mem_lower (mark_backquote.not_mem_word hw)⟩

theorem bare_upperWords (text : String) : ∀ word ∈ upperWords text, Bare word :=
  List.forall_mem_map.mpr fun _ hw =>
    ⟨upper_ne_nil (of_mem_words hw).1, mark_underscore.not_mem_upper (mark_underscore.not_mem_word hw),
      mark_backquote.not_mem_upper (mark_backquote.not_mem_word hw)⟩

theorem split_intercalate {list : List (List Char)} (h : ∀ word ∈ list, Bare word) :
    ((['_'].intercalate list).splitOn '_').filter (· ≠ []) = list := by
  by_cases hlist : list = []
  · rw [hlist]
    rfl
  · rw [List.splitOn_intercalate '_' (fun word hw => (h word hw).noUnderscore) hlist]
    exact List.filter_eq_self.mpr fun word hw => decide_eq_true (h word hw).ne_nil

theorem intercalate_inj {list other : List (List Char)} (h : ∀ word ∈ list, Bare word)
    (hother : ∀ word ∈ other, Bare word) :
    ['_'].intercalate list = ['_'].intercalate other ↔ list = other := by
  refine ⟨fun e => ?_, congrArg _⟩
  rw [← split_intercalate h, e, split_intercalate hother]

/-- Texts are the same in snake case exactly if they have the same words in lower case. -/
theorem snakeCase_eq_iff {a b : String} : snakeCase a = snakeCase b ↔ lowerWords a = lowerWords b := by
  rw [← String.toList_inj, toList_snakeCase, toList_snakeCase]
  exact intercalate_inj (bare_lowerWords a) (bare_lowerWords b)

theorem upperSnakeCase_eq_iff {a b : String} :
    upperSnakeCase a = upperSnakeCase b ↔ upperWords a = upperWords b := by
  rw [← String.toList_inj, toList_upperSnakeCase, toList_upperSnakeCase]
  exact intercalate_inj (bare_upperWords a) (bare_upperWords b)

/-- The text is made of words of ASCII letters. -/
def Lettered (text : String) : Prop :=
  ∀ word ∈ lowerWords text, ∀ c ∈ word, c.isLower

/-- Words in lower case, put together in camel case. -/
def camelOf : List (List Char) → List Char
  | [] => []
  | word :: rest => word ++ rest.flatMap capitalizeChars

theorem toList_camelCase (text : String) : (camelCase text).toList = camelOf (lowerWords text) := by
  rw [camelCase, String.toList_ofList, camelChars, lowerWords]
  cases words text.toList with
  | nil => rfl
  | cons word rest => rw [List.map_cons, camelOf, List.flatMap_map]

/-- Something, in small letters of ASCII. -/
def Small (word : List Char) : Prop :=
  word ≠ [] ∧ ∀ c ∈ word, c.isLower

theorem upperChar_of_isLower (hc : c.isLower) : upperChar c = [c.toUpper] :=
  upperChar_ascii c (Nat.lt_of_le_of_lt (isLower_iff.mp hc).2 (by decide))

theorem toUpper_inj (hc : c.isLower) (hd : d.isLower) (h : c.toUpper = d.toUpper) : c = d := by
  have hback : ∀ c : Char, c.toNat < 128 → c.isLower → c.toUpper.toLower = c :=
    forall_ascii (by decide +kernel)
  have hascii : ∀ c : Char, c.isLower → c.toNat < 128 :=
    fun c hc => Nat.lt_of_le_of_lt (isLower_iff.mp hc).2 (by decide)
  rw [← hback c (hascii c hc) hc, h, hback d (hascii d hd) hd]

theorem takeWhile_camel {list : List (List Char)} (hword : ∀ c ∈ word, c.isLower)
    (h : ∀ w ∈ list, Small w) :
    (word ++ list.flatMap capitalizeChars).takeWhile Char.isLower = word := by
  rw [List.takeWhile_append_of_pos hword]
  cases list with
  | nil => simp
  | cons next rest =>
    obtain ⟨⟨hne, hletters⟩, _⟩ := List.forall_mem_cons.mp h
    obtain ⟨c, others, rfl⟩ := List.exists_cons_of_ne_nil hne
    have hform := upperChar_of_isLower (hletters c (by simp))
    have hcapital : c.toUpper.isLower = false := isLower_of_mem_upperChar (c := c) (by simp [hform])
    simp [capitalizeChars, hform, hcapital]

theorem append_camel_inj {other : List Char} {list list' : List (List Char)}
    (hword : ∀ c ∈ word, c.isLower) (hother : ∀ c ∈ other, c.isLower) (h : ∀ w ∈ list, Small w)
    (h' : ∀ w ∈ list', Small w)
    (e : word ++ list.flatMap capitalizeChars = other ++ list'.flatMap capitalizeChars) :
    word = other ∧ list.flatMap capitalizeChars = list'.flatMap capitalizeChars := by
  have hsame : word = other := by
    rw [← takeWhile_camel hword h, e, takeWhile_camel hother h']
  exact ⟨hsame, List.append_cancel_left (hsame ▸ e)⟩

/-- A capital is where a word begins. -/
theorem flatMap_capitalizeChars_inj {list list' : List (List Char)} (h : ∀ w ∈ list, Small w)
    (h' : ∀ w ∈ list', Small w)
    (e : list.flatMap capitalizeChars = list'.flatMap capitalizeChars) : list = list' := by
  induction list generalizing list' with
  | nil =>
    cases list' with
    | nil => rfl
    | cons word rest =>
      obtain ⟨c, others, rfl⟩ := List.exists_cons_of_ne_nil (h' word (by simp)).1
      simp [capitalizeChars, upperChar_ne_nil] at e
  | cons word rest ih =>
    obtain ⟨⟨hne, hletters⟩, hrest⟩ := List.forall_mem_cons.mp h
    obtain ⟨c, others, rfl⟩ := List.exists_cons_of_ne_nil hne
    obtain ⟨hc, hothers⟩ := List.forall_mem_cons.mp hletters
    cases list' with
    | nil => simp [capitalizeChars, upperChar_ne_nil] at e
    | cons word' rest' =>
      obtain ⟨⟨hne', hletters'⟩, hrest'⟩ := List.forall_mem_cons.mp h'
      obtain ⟨d, others', rfl⟩ := List.exists_cons_of_ne_nil hne'
      obtain ⟨hd, hothers'⟩ := List.forall_mem_cons.mp hletters'
      simp only [List.flatMap_cons, capitalizeChars, upperChar_of_isLower hc, upperChar_of_isLower hd,
        List.cons_append, List.cons.injEq] at e
      obtain ⟨hupper, htail⟩ := e
      obtain ⟨rfl, hmore⟩ := append_camel_inj hothers hothers' hrest hrest' htail
      rw [toUpper_inj hc hd hupper, ih hrest hrest' hmore]

theorem camelOf_inj {list list' : List (List Char)} (h : ∀ w ∈ list, Small w)
    (h' : ∀ w ∈ list', Small w) (e : camelOf list = camelOf list') : list = list' := by
  cases list with
  | nil =>
    cases list' with
    | nil => rfl
    | cons word rest => exact absurd (List.append_eq_nil_iff.mp e.symm).1 (h' word (by simp)).1
  | cons word rest =>
    obtain ⟨⟨hne, hword⟩, hrest⟩ := List.forall_mem_cons.mp h
    cases list' with
    | nil => exact absurd (List.append_eq_nil_iff.mp e).1 hne
    | cons word' rest' =>
      obtain ⟨⟨_, hword'⟩, hrest'⟩ := List.forall_mem_cons.mp h'
      obtain ⟨rfl, hmore⟩ := append_camel_inj hword hword' hrest hrest' e
      rw [flatMap_capitalizeChars_inj hrest hrest' hmore]

/-- Texts of words of ASCII letters are the same in camel case exactly if they have the same words in lower case. -/
theorem camelCase_eq_iff {a b : String} (ha : Lettered a) (hb : Lettered b) :
    camelCase a = camelCase b ↔ lowerWords a = lowerWords b := by
  have hsmall : ∀ text, Lettered text → ∀ word ∈ lowerWords text, Small word :=
    fun text h word hw => ⟨(bare_lowerWords text word hw).ne_nil, h word hw⟩
  rw [← String.toList_inj, toList_camelCase, toList_camelCase]
  exact ⟨camelOf_inj (hsmall a ha) (hsmall b hb), congrArg _⟩

/-- No back-quote stands in the text, and no underscore in front. -/
structure Unmarked (text : String) : Prop where
  noQuote : '`' ∉ text.toList
  noUnderscore : text.toList.head? ≠ some '_'

theorem unmarked_camelCase (text : String) : Unmarked (camelCase text) := by
  have hlist : (camelCase text).toList = camelChars text.toList := String.toList_ofList
  refine ⟨hlist ▸ mark_backquote.not_mem_camelChars _, fun h => ?_⟩
  rw [hlist] at h
  exact mark_underscore.not_mem_camelChars _ (List.mem_of_head? h)

theorem not_mem_intercalate (hd : d ≠ c) {list : List (List Char)} (h : ∀ word ∈ list, d ∉ word) :
    d ∉ [c].intercalate list := by
  match list with
  | [] => simp
  | [word] => simpa using h
  | word :: next :: rest =>
    obtain ⟨hword, hrest⟩ := List.forall_mem_cons.mp h
    rw [List.intercalate_cons_cons]
    simp [hword, hd, not_mem_intercalate hd hrest]

theorem unmarked_intercalate {name : String} {list : List (List Char)} (h : ∀ word ∈ list, Bare word)
    (hname : name.toList = ['_'].intercalate list) : Unmarked name := by
  have hquote : '`' ∉ ['_'].intercalate list :=
    not_mem_intercalate (by decide) fun word hw => (h word hw).noQuote
  refine ⟨hname ▸ hquote, hname ▸ ?_⟩
  match list with
  | [] => simp
  | word :: rest =>
    obtain ⟨hword, _⟩ := List.forall_mem_cons.mp h
    obtain ⟨first, others, rfl⟩ := List.exists_cons_of_ne_nil hword.ne_nil
    have hfirst : first ≠ '_' := fun e => hword.noUnderscore (by simp [e])
    cases rest <;> simpa using hfirst

theorem unmarked_snakeCase (text : String) : Unmarked (snakeCase text) :=
  unmarked_intercalate (bare_lowerWords text) (toList_snakeCase text)

theorem unmarked_upperSnakeCase (text : String) : Unmarked (upperSnakeCase text) :=
  unmarked_intercalate (bare_upperWords text) (toList_upperSnakeCase text)

end SwaggerClient.Naming

namespace SwaggerClient.NamingRules

open Naming

variable {a b : String}

/-- The text with an underscore in front of a leading digit. -/
def undigited (text : String) : String :=
  if text.toList.head?.any Char.isDigit then "_" ++ text else text

theorem escape_eq (rules : NamingRules) (text : String) :
    rules.escape text =
      if undigited text ∈ rules.identifiers then "`" ++ undigited text ++ "`" else undigited text := by
  unfold escape undigited
  cases text.toList.head? <;> rfl

theorem quote_not_mem_undigited (h : Unmarked a) : '`' ∉ (undigited a).toList := by
  unfold undigited
  split
  · simpa using h.noQuote
  · exact h.noQuote

theorem undigited_inj (ha : Unmarked a) (hb : Unmarked b) : undigited a = undigited b ↔ a = b := by
  refine ⟨fun h => ?_, congrArg _⟩
  unfold undigited at h
  split at h <;> split at h
  · exact (String.append_right_inj "_").mp h
  · exact absurd (by simp [← h]) hb.noUnderscore
  · exact absurd (by simp [h]) ha.noUnderscore
  · exact h

/-- Escaping makes no two texts the same. -/
theorem escape_inj (rules : NamingRules) (ha : Unmarked a) (hb : Unmarked b) :
    rules.escape a = rules.escape b ↔ a = b := by
  refine ⟨fun h => (undigited_inj ha hb).mp ?_, congrArg _⟩
  have hquoted : ∀ text : String, '`' ∈ ("`" ++ text ++ "`").toList := by simp
  rw [escape_eq, escape_eq] at h
  split at h <;> split at h
  · exact (String.append_right_inj "`").mp ((String.append_left_inj "`").mp h)
  · exact absurd (h ▸ hquoted _) (quote_not_mem_undigited hb)
  · exact absurd (h ▸ hquoted _) (quote_not_mem_undigited ha)
  · exact h

/-- Texts have the same identifier in snake case exactly if they have the same words in lower case. -/
theorem identifier_snake_eq_iff (rules : NamingRules) (a b : String) :
    rules.identifier [a] true = rules.identifier [b] true ↔ lowerWords a = lowerWords b :=
  (rules.escape_inj (unmarked_snakeCase a) (unmarked_snakeCase b)).trans snakeCase_eq_iff

theorem identifier_camel_eq_iff (rules : NamingRules) (a b : String) :
    rules.identifier [a] false = rules.identifier [b] false ↔ camelCase a = camelCase b :=
  rules.escape_inj (unmarked_camelCase a) (unmarked_camelCase b)

/-- Texts have the same name in capitals exactly if they have the same words in upper case. -/
theorem caseName_eq_iff (rules : NamingRules) (a b : String) :
    rules.caseName [a] = rules.caseName [b] ↔ upperWords a = upperWords b :=
  (rules.escape_inj (unmarked_upperSnakeCase a) (unmarked_upperSnakeCase b)).trans upperSnakeCase_eq_iff

end SwaggerClient.NamingRules
