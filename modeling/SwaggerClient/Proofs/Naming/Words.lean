import Mathlib.Data.List.Chain
import SwaggerClient.Naming.Words
import SwaggerClient.Proofs.Text.Split
import SwaggerClient.Proofs.Unicode.CaseMapping

namespace SwaggerClient.Naming

open Unicode

variable {c : Char} {gathered rest text word : List Char}

theorem wordsFrom_separator (hc : isAlphanumeric c = false) :
    wordsFrom gathered (c :: rest) = finished gathered ++ words rest := by
  simp [wordsFrom, words, hc]

theorem wordsFrom_first (hc : isAlphanumeric c) : wordsFrom [] (c :: rest) = wordsFrom [c] rest := by
  simp [wordsFrom, hc]

theorem wordsFrom_next (hc : isAlphanumeric c) (previous : Char) (others : List Char) :
    wordsFrom (previous :: others) (c :: rest) =
      if isBoundary previous c rest.head? then (previous :: others).reverse :: wordsFrom [c] rest
      else wordsFrom (c :: previous :: others) rest := by
  simp [wordsFrom, hc]

theorem flatten_finished (gathered : List Char) : (finished gathered).flatten = gathered.reverse := by
  cases gathered <;> simp [finished]

theorem mem_finished (h : word ∈ finished gathered) : word = gathered.reverse ∧ word ≠ [] := by
  cases gathered with
  | nil => cases h
  | cons c others =>
    obtain rfl := List.mem_singleton.mp h
    exact ⟨rfl, by simp⟩

theorem flatten_wordsFrom (gathered rest : List Char) :
    (wordsFrom gathered rest).flatten = gathered.reverse ++ rest.filter isAlphanumeric := by
  fun_induction wordsFrom gathered rest with
  | case1 gathered => simp [flatten_finished]
  | case2 gathered c rest hother ih => simp_all [flatten_finished]
  | case3 c rest hletter ih => simp_all
  | case4 c rest hletter previous others hboundary ih => simp_all
  | case5 c rest hletter previous others hboundary ih => simp_all

/-- Together the words are the letters and numbers of the text, in order. -/
theorem flatten_words (text : List Char) : (words text).flatten = text.filter isAlphanumeric :=
  flatten_wordsFrom [] text

/-- The two characters do not have to be in different words: both are numbers or neither is, and there is no
step from a small letter to a capital. -/
def Together (a b : Char) : Prop :=
  isNumeric a = isNumeric b ∧ ¬(isLowercase a ∧ isUppercase b)

theorem Together.of_boundary {a b : Char} {next : Option Char} (h : ¬isBoundary a b next) :
    Together a b := by
  simp only [isBoundary, Bool.or_eq_true, bne_iff_ne, Bool.and_eq_true, not_or] at h
  exact ⟨not_not.mp h.1.1, h.1.2⟩

theorem of_mem_wordsFrom (hgathered : gathered.reverse.IsChain Together)
    (h : word ∈ wordsFrom gathered rest) : word ≠ [] ∧ word.IsChain Together := by
  fun_induction wordsFrom gathered rest with
  | case1 gathered =>
    obtain ⟨rfl, hne⟩ := mem_finished h
    exact ⟨hne, hgathered⟩
  | case2 gathered c rest hother ih =>
    rcases List.mem_append.mp h with h | h
    · obtain ⟨rfl, hne⟩ := mem_finished h
      exact ⟨hne, hgathered⟩
    · exact ih .nil h
  | case3 c rest hletter ih => exact ih (.singleton c) h
  | case4 c rest hletter previous others hboundary ih =>
    rcases List.mem_cons.mp h with rfl | h
    · exact ⟨by simp, hgathered⟩
    · exact ih (.singleton c) h
  | case5 c rest hletter previous others hboundary ih =>
    refine ih ?_ h
    rw [List.isChain_reverse] at hgathered ⊢
    exact List.isChain_cons_cons.mpr ⟨.of_boundary hboundary, hgathered⟩

/-- A word is not empty and has no change of kind inside. -/
theorem of_mem_words (h : word ∈ words text) : word ≠ [] ∧ word.IsChain Together :=
  of_mem_wordsFrom .nil h

theorem mem_of_mem_words (h : word ∈ words text) (hc : c ∈ word) : c ∈ text ∧ isAlphanumeric c := by
  have hmem : c ∈ (words text).flatten := List.mem_flatten.mpr ⟨word, h, hc⟩
  rw [flatten_words] at hmem
  exact List.mem_filter.mp hmem

/-- The character is in no word and does not decide where one ends. -/
structure Separates (c : Char) : Prop where
  notAlphanumeric : isAlphanumeric c = false
  notLowercase : isLowercase c = false

theorem isBoundary_append (hc : Separates c) (a b : Char) (front back : List Char) :
    isBoundary a b (front ++ c :: back).head? = isBoundary a b front.head? := by
  cases front with
  | nil => simp [isBoundary, hc.notLowercase]
  | cons d front => rfl

theorem wordsFrom_append (hc : Separates c) (gathered front back : List Char) :
    wordsFrom gathered (front ++ c :: back) = wordsFrom gathered front ++ words back := by
  fun_induction wordsFrom gathered front with
  | case1 gathered => exact wordsFrom_separator hc.notAlphanumeric
  | case2 gathered d front hother ih =>
    rw [List.cons_append, wordsFrom_separator (by simpa using hother), words, ih, List.append_assoc]
  | case3 d front hletter ih => rw [List.cons_append, wordsFrom_first (by simpa using hletter), ih]
  | case4 d front hletter previous others hboundary ih =>
    rw [List.cons_append, wordsFrom_next (by simpa using hletter), isBoundary_append hc,
      if_pos hboundary, ih, List.cons_append]
  | case5 d front hletter previous others hboundary ih =>
    rw [List.cons_append, wordsFrom_next (by simpa using hletter), isBoundary_append hc,
      if_neg hboundary, ih]

theorem words_append (hc : Separates c) (front back : List Char) :
    words (front ++ c :: back) = words front ++ words back :=
  wordsFrom_append hc [] front back

/-- Pieces with separators between them have the words of the pieces. -/
theorem words_intercalate (hc : Separates c) (pieces : List (List Char)) :
    words ([c].intercalate pieces) = pieces.flatMap words := by
  match pieces with
  | [] => rfl
  | [piece] => simp
  | piece :: next :: pieces =>
    rw [List.intercalate_cons_cons, List.append_assoc, List.singleton_append, words_append hc,
      words_intercalate hc (next :: pieces)]
    rfl

theorem separates_underscore : Separates '_' := ⟨by decide +kernel, by decide +kernel⟩

theorem separates_slash : Separates '/' := ⟨by decide +kernel, by decide +kernel⟩

/-- A word that ends nowhere but at its end. -/
structure Seamless (word : List Char) : Prop where
  ne_nil : word ≠ []
  alphanumeric : ∀ c ∈ word, isAlphanumeric c
  unbroken : ∀ front a b back, word = front ++ a :: b :: back → isBoundary a b back.head? = false

theorem wordsFrom_seamless {previous : Char} {others : List Char}
    (h : Seamless ((previous :: others).reverse ++ rest)) :
    wordsFrom (previous :: others) rest = [(previous :: others).reverse ++ rest] := by
  induction rest generalizing previous others with
  | nil => simp [wordsFrom, finished]
  | cons c rest ih =>
    have hletter : isAlphanumeric c = true := h.alphanumeric c (by simp)
    have hboundary : isBoundary previous c rest.head? = false :=
      h.unbroken others.reverse previous c rest (by simp)
    have hmore : (c :: previous :: others).reverse ++ rest =
        (previous :: others).reverse ++ c :: rest := by simp
    rw [wordsFrom_next hletter, hboundary, ← hmore]
    exact ih (hmore ▸ h)

theorem words_seamless (h : Seamless word) : words word = [word] := by
  obtain ⟨c, rest, rfl⟩ := List.exists_cons_of_ne_nil h.ne_nil
  have hletter : isAlphanumeric c = true := h.alphanumeric c (by simp)
  rw [words, wordsFrom_first hletter]
  exact wordsFrom_seamless h

theorem words_intercalate_seamless {list : List (List Char)} (h : ∀ word ∈ list, Seamless word) :
    words (['_'].intercalate list) = list := by
  rw [words_intercalate separates_underscore, List.flatMap_congr fun word hw => words_seamless (h word hw)]
  simp

/-- The words of a text in lower case. -/
def lowerWords (text : String) : List (List Char) :=
  (words text.toList).map lower

def upperWords (text : String) : List (List Char) :=
  (words text.toList).map upper

theorem toList_join_ofList (list : List (List Char)) :
    (Text.join "_" (list.map String.ofList)).toList = ['_'].intercalate list := by
  have hback : String.toList ∘ String.ofList = id := funext fun word => String.toList_ofList
  rw [Text.join_eq_intercalate, String.toList_intercalate, List.map_map, hback, List.map_id]
  rfl

theorem snakeCase_eq (text : String) :
    snakeCase text = Text.join "_" ((lowerWords text).map String.ofList) := by
  rw [lowerWords, List.map_map]
  rfl

theorem upperSnakeCase_eq (text : String) :
    upperSnakeCase text = Text.join "_" ((upperWords text).map String.ofList) := by
  rw [upperWords, List.map_map]
  rfl

theorem toList_snakeCase (text : String) :
    (snakeCase text).toList = ['_'].intercalate (lowerWords text) := by
  rw [snakeCase_eq, toList_join_ofList]

theorem toList_upperSnakeCase (text : String) :
    (upperSnakeCase text).toList = ['_'].intercalate (upperWords text) := by
  rw [upperSnakeCase_eq, toList_join_ofList]

section Ascii

variable {f : Char → Char} (hf : Recases f)

include hf

/-- A change to one case makes no new change of kind inside a word. -/
theorem seamless_recased (hascii : ∀ c ∈ text, c.toNat < 128) (h : word ∈ words text) :
    Seamless (word.map f) := by
  have hplain : ∀ c ∈ word, c.toNat < 128 := fun c hc => hascii c (mem_of_mem_words h hc).1
  refine ⟨by simpa using (of_mem_words h).1, ?_, fun front a b back e => ?_⟩
  · refine List.forall_mem_map.mpr fun c hc => ?_
    rw [hf.alphanumeric c (hplain c hc)]
    exact (mem_of_mem_words h hc).2
  · obtain ⟨front', rest', rfl, -, hrest⟩ := List.map_eq_append_iff.mp e
    obtain ⟨a, tail, rfl, rfl, htail⟩ := List.map_eq_cons_iff.mp hrest
    obtain ⟨b, back, rfl, rfl, rfl⟩ := List.map_eq_cons_iff.mp htail
    have hnumeric : isNumeric (f a) = isNumeric (f b) := by
      rw [hf.numeric a (hplain a (by simp)), hf.numeric b (hplain b (by simp))]
      exact (List.isChain_iff_forall_rel_of_append_cons_cons.mp (of_mem_words h).2 rfl).1
    rcases hf.oneCase with hupper | hlower
    · simp [isBoundary, hnumeric, hupper b (hplain b (by simp))]
    · have hnext : (back.map f).head?.any isLowercase = false := by
        cases back with
        | nil => rfl
        | cons c back => exact hlower c (hplain c (by simp))
      rw [isBoundary, hnumeric, hlower a (hplain a (by simp)), hnext]
      simp

theorem words_recased (hascii : ∀ c ∈ text, c.toNat < 128) :
    words (['_'].intercalate ((words text).map (List.map f))) = (words text).map (List.map f) :=
  words_intercalate_seamless (List.forall_mem_map.mpr fun _ => seamless_recased hf hascii)

theorem lower_recased (hascii : ∀ c ∈ word, c.toNat < 128) : lower (word.map f) = lower word := by
  have hforms : ∀ c ∈ word.map f, c.toNat < 128 :=
    List.forall_mem_map.mpr fun c hc => hf.ascii c (hascii c hc)
  rw [lower_ascii hforms, lower_ascii hascii, List.map_map]
  exact List.map_congr_left fun c hc => hf.toLower c (hascii c hc)

/-- The words written in one case with separators between them have the same words in lower case. -/
theorem lowerWords_of_recased {text other : String} (hascii : ∀ c ∈ text.toList, c.toNat < 128)
    (h : other.toList = ['_'].intercalate ((words text.toList).map (List.map f))) :
    lowerWords other = lowerWords text := by
  rw [lowerWords, h, words_recased hf hascii, List.map_map, lowerWords]
  refine List.map_congr_left fun word hw => lower_recased hf fun c hc => ?_
  exact hascii c (mem_of_mem_words hw hc).1

end Ascii

theorem lowerWords_ascii {text : String} (hascii : ∀ c ∈ text.toList, c.toNat < 128) :
    lowerWords text = (words text.toList).map (List.map Char.toLower) :=
  List.map_congr_left fun _ hw => lower_ascii fun c hc => hascii c (mem_of_mem_words hw hc).1

theorem upperWords_ascii {text : String} (hascii : ∀ c ∈ text.toList, c.toNat < 128) :
    upperWords text = (words text.toList).map (List.map Char.toUpper) :=
  List.map_congr_left fun _ hw => upper_ascii fun c hc => hascii c (mem_of_mem_words hw hc).1

/-- Splitting into words loses no letter and no number; no word is empty, has a number beside something else, or a
small letter before a capital. Splitting the snake case of an ASCII text gives its words in lower case, so that snake
case is the same again, and the same for what is in upper snake case. -/
theorem splitWords_lossless :
    (∀ text : String,
      String.join (splitWords text) = String.ofList (text.toList.filter isAlphanumeric) ∧
        ∀ word ∈ splitWords text, word ≠ "" ∧ word.toList.IsChain Together) ∧
    ∀ text : String, (∀ c ∈ text.toList, c.toNat < 128) →
      splitWords (snakeCase text) =
          (splitWords text).map (fun word => String.ofList (lower word.toList)) ∧
        snakeCase (snakeCase text) = snakeCase text ∧
          snakeCase (upperSnakeCase text) = snakeCase text := by
  refine ⟨fun text => ⟨?_, List.forall_mem_map.mpr fun word hw => ?_⟩, fun text hascii => ?_⟩
  · apply String.toList_inj.mp
    rw [String.toList_join, splitWords, List.flatMap_map, String.toList_ofList, ← flatten_words]
    simp [List.flatMap_def]
  · obtain ⟨hne, hchain⟩ := of_mem_words hw
    rw [String.toList_ofList]
    exact ⟨by simpa using hne, hchain⟩
  · have hlower := lowerWords_ascii hascii
    have hsnake := toList_snakeCase text
    have hupper := toList_upperSnakeCase text
    rw [upperWords_ascii hascii] at hupper
    refine ⟨?_, ?_, ?_⟩
    · rw [splitWords, hsnake, hlower, words_recased recases_toLower hascii, ← hlower, splitWords,
        lowerWords, List.map_map, List.map_map]
      simp [Function.comp_def]
    · rw [snakeCase_eq, lowerWords_of_recased recases_toLower hascii (hlower ▸ hsnake), ← snakeCase_eq]
    · rw [snakeCase_eq, lowerWords_of_recased recases_toUpper hascii hupper, ← snakeCase_eq]

theorem splitWords_lossless_http :
    (∀ c ∈ "getHTTPResponse2XX".toList, c.toNat < 128) ∧
      splitWords (snakeCase "getHTTPResponse2XX") = ["get", "http", "response", "2", "xx"] := by
  have hascii : ∀ c ∈ "getHTTPResponse2XX".toList, c.toNat < 128 := by simp
  refine ⟨hascii, (splitWords_lossless.2 _ hascii).1.trans ?_⟩
  decide +kernel

end SwaggerClient.Naming
