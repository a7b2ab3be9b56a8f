import SwaggerClient.Proofs.Naming.Identifier

namespace SwaggerClient.Naming

open Unicode

variable {text : List Char} {a b : List Char}

theorem camelChars_congr (h : words a = words b) : camelChars a = camelChars b := by
  rw [camelChars, h]
  rfl

theorem camelChars_eq_nil (h : words text = []) : camelChars text = [] := by
  rw [camelChars, h]

/-- In camel case every word but the first begins with something other than a small letter of ASCII, so that a text
of small letters alone is one word. -/
theorem words_length_le_one (h : ∀ c ∈ camelChars text, c.isLower) : (words text).length ≤ 1 := by
  unfold camelChars at h
  split at h
  · next hwords => simp [hwords]
  · next first others hwords =>
    cases others with
    | nil => simp [hwords]
    | cons second others =>
      have hsecond : second ∈ words text := by simp [hwords]
      obtain ⟨c, rest, hlower⟩ := List.exists_cons_of_ne_nil (lower_ne_nil (of_mem_words hsecond).1)
      obtain ⟨d, more, hupper⟩ := List.exists_cons_of_ne_nil (upperChar_ne_nil c)
      have hsmall := h d (by simp [hlower, capitalizeChars, hupper])
      have hform : d ∈ upperChar c := by simp [hupper]
      rw [isLower_of_mem_upperChar hform] at hsmall
      cases hsmall

theorem words_join_slash (components : List String) :
    words (Text.join "/" components).toList = components.flatMap fun c => words c.toList := by
  rw [Text.join_eq_intercalate, String.toList_intercalate]
  exact (words_intercalate separates_slash _).trans (List.flatMap_map ..)

theorem lowerWords_join_slash (components : List String) :
    lowerWords (Text.join "/" components) = components.flatMap lowerWords := by
  rw [lowerWords, words_join_slash, List.map_flatMap]
  rfl

end SwaggerClient.Naming

namespace SwaggerClient.NamingRules

open Naming Unicode

/-- The name has no back-quotes and begins with neither a digit nor a small letter of ASCII. -/
structure Presentable (name : String) : Prop where
  noQuote : '`' ∉ name.toList
  start : ∀ c, name.toList.head? = some c → c.isDigit = false ∧ c.isLower = false

/-- The name can stand as that of a class. -/
structure Usable (rules : NamingRules) (name : String) : Prop extends Presentable name where
  unreserved : name ∉ rules.classNames

variable {name text : String} {components : List String}

/-- The text that the name of a class is made of. -/
def camelName (components : List String) : String :=
  camelCase (Text.join "/" components)

theorem capitalized_eq (rules : NamingRules) (components : List String) :
    rules.capitalized components = capitalize (rules.escape (camelName components)) := rfl

/-- Names of classes do not depend on what stands between the words and on their case. -/
theorem capitalized_congr (rules : NamingRules) {others : List String}
    (h : components.flatMap lowerWords = others.flatMap lowerWords) :
    rules.capitalized components = rules.capitalized others := by
  have hname : camelName components = camelName others := by
    apply String.toList_inj.mp
    rw [camelName, camelName, toList_camelCase, toList_camelCase, lowerWords_join_slash, lowerWords_join_slash, h]
  rw [capitalized_eq, capitalized_eq, hname]

theorem className_congr (rules : NamingRules) {others : List String} {skip : Nat}
    (h : components.flatMap lowerWords = others.flatMap lowerWords)
    (hskip : (components.drop skip).flatMap lowerWords = (others.drop skip).flatMap lowerWords) :
    rules.className components skip = rules.className others skip := by
  rw [className, className, fullClassName, fullClassName, rules.capitalized_congr h,
    rules.capitalized_congr hskip]

/-- A reserved identifier keeps its back-quotes. -/
theorem capitalized_reserved (h : camelName components ∈ standard.identifiers) :
    standard.capitalized components = "`" ++ camelName components ++ "`" := by
  have hall : ∀ word ∈ standard.identifiers, capitalize (standard.escape word) = "`" ++ word ++ "`" := by
    decide +kernel
  exact hall _ h

theorem presentable_underscore (h : '`' ∉ text.toList) : Presentable (capitalize ("_" ++ text)) := by
  have hlist : (capitalize ("_" ++ text)).toList = '_' :: text.toList := by
    have hform : upperChar '_' = ['_'] := by decide +kernel
    simp [capitalize, capitalizeChars, hform]
  refine ⟨by simp [hlist, h], fun c hc => ?_⟩
  obtain rfl : '_' = c := by simpa [hlist] using hc
  decide

theorem presentable_capitalize (h : '`' ∉ text.toList) (hdigit : ¬text.toList.head?.any Char.isDigit) :
    Presentable (capitalize text) := by
  refine ⟨by simpa [capitalize] using mark_backquote.not_mem_capitalizeChars h, fun d hd => ?_⟩
  cases htext : text.toList with
  | nil => simp [capitalize, capitalizeChars, htext] at hd
  | cons c rest =>
    obtain ⟨first, more, hforms⟩ := List.exists_cons_of_ne_nil (upperChar_ne_nil c)
    obtain rfl : first = d := by simpa [capitalize, capitalizeChars, htext, hforms] using hd
    have hmem : first ∈ upperChar c := by simp [hforms]
    refine ⟨?_, isLower_of_mem_upperChar hmem⟩
    by_contra hd
    exact hdigit (by simpa [htext] using isDigit_of_mem_upperChar hmem (by simpa using hd))

/-- The name of a class is presentable if the text that it is made of is no reserved identifier. -/
theorem presentable_capitalized (h : camelName components ∉ standard.identifiers) :
    Presentable (standard.capitalized components) := by
  have hquote := (unmarked_camelCase (Text.join "/" components)).noQuote
  have hunderscore : ∀ word ∈ standard.identifiers, word.toList.head? ≠ some '_' := by decide
  by_cases hdigit : (camelName components).toList.head?.any Char.isDigit
  · have hfree : "_" ++ camelName components ∉ standard.identifiers :=
      fun hmem => hunderscore _ hmem (by simp)
    rw [capitalized_eq, escape_eq, undigited, if_pos hdigit, if_neg hfree]
    exact presentable_underscore hquote
  · rw [capitalized_eq, escape_eq, undigited, if_neg hdigit, if_neg h]
    exact presentable_capitalize hquote hdigit

theorem camelName_not_reserved_identifier (h : standard.capitalized components ∈ standard.classNames) :
    camelName components ∉ standard.identifiers := by
  have hall : ∀ word ∈ standard.identifiers, "`" ++ word ++ "`" ∉ standard.classNames := by decide
  intro hreserved
  rw [capitalized_reserved hreserved] at h
  exact hall _ hreserved h

theorem words_ne_nil_of_reserved (h : standard.capitalized components ∈ standard.classNames) :
    words (Text.join "/" components).toList ≠ [] := by
  intro hwords
  have hempty : camelName components = "" := by
    rw [camelName, camelCase, camelChars_eq_nil hwords]
  rw [capitalized_eq, hempty] at h
  exact absurd h (by decide)

/-- Where the components after the first ones make a reserved class name, all of them make no reserved identifier:
this is a single word, which would be all that the others consist of. -/
theorem camelName_full_not_reserved {skip : Nat}
    (h : standard.capitalized (components.drop skip) ∈ standard.classNames) :
    camelName components ∉ standard.identifiers := by
  intro hreserved
  have hsmall : ∀ word ∈ standard.identifiers, ∀ c ∈ word.toList, c.isLower := by
    simp [standard]
  have hlist : (camelName components).toList = camelChars (Text.join "/" components).toList :=
    String.toList_ofList
  have hlength := words_length_le_one (hlist ▸ hsmall _ hreserved)
  have hwords : words (Text.join "/" components).toList =
      (components.take skip).flatMap (fun c => words c.toList) ++
        words (Text.join "/" (components.drop skip)).toList := by
    rw [words_join_slash, words_join_slash, ← List.flatMap_append, List.take_append_drop]
  have hrest := List.length_pos_iff.mpr (words_ne_nil_of_reserved h)
  rw [hwords, List.length_append] at hlength
  have hnone : (components.take skip).flatMap (fun c => words c.toList) = [] :=
    List.length_eq_zero_iff.mp (by omega)
  have hsame : camelName components = camelName (components.drop skip) := by
    rw [hnone, List.nil_append] at hwords
    exact congrArg String.ofList (camelChars_congr hwords)
  exact camelName_not_reserved_identifier h (hsame ▸ hreserved)

theorem usable_suffixed (h : Presentable name) (hreserved : name ∈ standard.classNames) :
    Usable standard (name ++ "_") := by
  have hall : ∀ name ∈ standard.classNames, name ≠ "" ∧ name ++ "_" ∉ standard.classNames := by decide
  obtain ⟨hne, hfree⟩ := hall _ hreserved
  obtain ⟨c, rest, hname⟩ := List.exists_cons_of_ne_nil (mt String.toList_eq_nil_iff.mp hne)
  refine ⟨⟨by simp [h.noQuote], fun d hd => h.start d ?_⟩, hfree⟩
  simpa [hname] using hd

theorem usable_fullClassName (h : camelName components ∉ standard.identifiers) :
    Usable standard (standard.fullClassName components) := by
  have hpresentable := presentable_capitalized h
  rw [fullClassName]
  split
  · next hreserved => exact usable_suffixed hpresentable hreserved
  · next hfree => exact ⟨hpresentable, hfree⟩

theorem usable_className (components : List String) (skip : Nat) :
    Usable standard (standard.className components skip) ↔
      camelName (components.drop skip) ∉ standard.identifiers := by
  rw [className]
  split
  · next hreserved =>
    exact iff_of_true (usable_fullClassName (camelName_full_not_reserved hreserved))
      (camelName_not_reserved_identifier hreserved)
  · next hfree =>
    refine ⟨fun h hreserved => ?_, fun h => ⟨presentable_capitalized h, hfree⟩⟩
    have hquote := h.noQuote
    rw [capitalized_reserved hreserved] at hquote
    simp at hquote

/-- Under the standard rules a class name can stand as one exactly if its components, those skipped left out, do not
make a reserved identifier. -/
theorem className_usable_iff (components : List String) (skip : Nat) (reference : String) :
    (Usable standard (standard.className components skip) ↔
      camelCase (Text.join "/" (components.drop skip)) ∉ standard.identifiers) ∧
    (Usable standard (standard.classNameOfReference reference) ↔
      camelCase (lastSegment reference) ∉ standard.identifiers) :=
  ⟨usable_className components skip, usable_className [lastSegment reference] 0⟩

/-- A definition with the name `Default` has a class name in back-quotes, with a small letter. -/
theorem className_not_usable :
    standard.className ["Default"] 0 = "`default`" ∧
      standard.classNameOfReference "#/definitions/Default" = "`default`" ∧
        ¬Usable standard (standard.className ["Default"] 0) := by
  have hname : standard.className ["Default"] 0 = "`default`" := by decide +kernel
  refine ⟨hname, by decide +kernel, fun h => ?_⟩
  rw [hname] at h
  exact h.noQuote (by decide)

end SwaggerClient.NamingRules
