import Mathlib.Data.List.Forall2
import SwaggerClient.Naming.Url
import SwaggerClient.Proofs.Text.Split

namespace SwaggerClient.Url

/-- What stands between the slashes, where that is not empty. -/
def pieces (chars : List Char) : List (List Char) :=
  (chars.splitOn '/').filter (· ≠ [])

theorem pieces_append_slash (front back : List Char) :
    pieces (front ++ '/' :: back) = pieces front ++ pieces back := by
  rw [pieces, List.splitOn_append_cons_self, List.filter_append]
  rfl

@[simp] theorem pieces_nil : pieces [] = [] := rfl

@[simp] theorem pieces_slash_cons (chars : List Char) : pieces ('/' :: chars) = pieces chars :=
  pieces_append_slash [] chars

@[simp] theorem pieces_append_slash_nil (chars : List Char) : pieces (chars ++ ['/']) = pieces chars := by
  rw [pieces_append_slash, pieces_nil, List.append_nil]

theorem mem_pieces {piece chars : List Char} (h : piece ∈ pieces chars) : piece ≠ [] ∧ '/' ∉ piece := by
  obtain ⟨hmem, hne⟩ := List.mem_filter.mp h
  exact ⟨of_decide_eq_true hne, Text.not_mem_of_mem_splitOn hmem⟩

theorem pieces_intercalate {list : List (List Char)} (h : ∀ piece ∈ list, piece ≠ [] ∧ '/' ∉ piece) :
    pieces (['/'].intercalate list) = list := by
  by_cases hlist : list = []
  · rw [hlist]
    rfl
  · rw [pieces, List.splitOn_intercalate '/' (fun piece hp => (h piece hp).2) hlist]
    exact List.filter_eq_self.mpr fun piece hp => decide_eq_true (h piece hp).1

theorem map_toList_segments (fragment : String) :
    (segments fragment).map String.toList = pieces fragment.toList := by
  have hempty : (fun segment : String => !segment.isEmpty) ∘ String.ofList =
      fun piece => decide (piece ≠ []) := by
    funext piece
    cases piece <;> simp
  have hback : String.toList ∘ String.ofList = id := funext fun piece => String.toList_ofList
  rw [segments, Text.split, Text.splitChars_eq_splitOn, List.filter_map, hempty, List.map_map, hback,
    List.map_id]
  rfl

/-- The pieces of all fragments. -/
def allPieces (fragments : List String) : List (List Char) :=
  fragments.flatMap fun fragment => pieces fragment.toList

theorem ne_nil_of_mem_allPieces (fragments : List String) :
    ∀ piece ∈ allPieces fragments, piece ≠ [] ∧ '/' ∉ piece := by
  intro piece hpiece
  obtain ⟨fragment, _, hpiece⟩ := List.mem_flatMap.mp hpiece
  exact mem_pieces hpiece

theorem toList_join_segments (fragments : List String) :
    (Text.join "/" (fragments.flatMap segments)).toList = ['/'].intercalate (allPieces fragments) := by
  rw [Text.join_eq_intercalate, String.toList_intercalate, List.map_flatMap]
  simp only [map_toList_segments]
  rfl

/-- Joining keeps the pieces of the fragments. -/
theorem pieces_join (fragments : List String) : pieces (join fragments).toList = allPieces fragments := by
  have hpieces := pieces_intercalate (ne_nil_of_mem_allPieces fragments)
  unfold join
  split
  · next first rest =>
    dsimp only
    split
    · rw [String.toList_append, toList_join_segments]
      exact (pieces_slash_cons _).trans hpieces
    · rw [toList_join_segments, hpieces]
  · rfl

/-- With a slash in front: a slash and the pieces of all fragments with single slashes between them. -/
theorem toList_join_slash (fragments : List String) :
    (join ("/" :: fragments)).toList = '/' :: ['/'].intercalate (allPieces fragments) := by
  have hslash : Text.beginsWith '/' "/" = true := by decide
  have hnone : allPieces ("/" :: fragments) = allPieces fragments := rfl
  rw [join, hslash, if_pos rfl, String.toList_append, toList_join_segments, hnone]
  rfl

/-- Fragments with the same pieces are joined to the same path. -/
theorem join_slash_congr {fragments others : List String} (h : allPieces fragments = allPieces others) :
    join ("/" :: fragments) = join ("/" :: others) := by
  apply String.toList_inj.mp
  rw [toList_join_slash, toList_join_slash, h]

/-- Fragments may be joined before they are joined with others. -/
theorem join_slash_join (fragments more : List String) :
    join ("/" :: join fragments :: more) = join ("/" :: (fragments ++ more)) := by
  apply join_slash_congr
  rw [allPieces, List.flatMap_cons, pieces_join, allPieces, allPieces, List.flatMap_append]

/-- The same text inside, perhaps with more or fewer slashes at the ends. -/
def SameInside (a b : String) : Prop :=
  ∃ inside front back front' back',
    a.toList = List.replicate front '/' ++ inside ++ List.replicate back '/' ∧
      b.toList = List.replicate front' '/' ++ inside ++ List.replicate back' '/'

theorem pieces_slashes (inside : List Char) (front back : Nat) :
    pieces (List.replicate front '/' ++ inside ++ List.replicate back '/') = pieces inside := by
  induction front with
  | zero =>
    induction back with
    | zero => simp
    | succ back ih => rw [List.replicate_succ', ← List.append_assoc, pieces_append_slash_nil, ih]
  | succ front ih => rw [List.replicate_succ, List.cons_append, List.cons_append, pieces_slash_cons, ih]

theorem SameInside.pieces_eq {a b : String} (h : SameInside a b) : pieces a.toList = pieces b.toList := by
  obtain ⟨inside, front, back, front', back', ha, hb⟩ := h
  rw [ha, hb, pieces_slashes, pieces_slashes]

theorem allPieces_congr {fragments others : List String} (h : List.Forall₂ SameInside fragments others) :
    allPieces fragments = allPieces others := by
  induction h with
  | nil => rfl
  | cons hfirst _ ih =>
    rw [allPieces, List.flatMap_cons, hfirst.pieces_eq]
    exact congrArg (_ ++ ·) ih

variable {list : List (List Char)} {front back : List Char}

/-- In normal form, where a slash comes behind something, something comes behind the slash, and not a slash. -/
theorem splitOn_ne_nil_of_normal (h : ∀ piece ∈ list, piece ≠ [] ∧ '/' ∉ piece) (hlist : list ≠ [])
    (e : front ++ '/' :: back = '/' :: ['/'].intercalate list) : (back.splitOn '/').head? ≠ some [] := by
  intro hback
  obtain ⟨rest, hrest⟩ := List.head?_eq_some_iff.mp hback
  obtain ⟨first, others, hfront⟩ := List.exists_cons_of_ne_nil (List.splitOn_ne_nil '/' front)
  have hsplit := congrArg (List.splitOn '/') e
  rw [List.splitOn_append_cons_self, List.splitOn_cons_eq_if_modifyHead, hrest, hfront,
    List.splitOn_intercalate '/' (fun piece hp => (h piece hp).2) hlist] at hsplit
  obtain ⟨-, rfl⟩ := List.cons.inj hsplit
  exact (h [] (by simp)).1 rfl

theorem no_double_slash (h : ∀ piece ∈ list, piece ≠ [] ∧ '/' ∉ piece) :
    ¬['/', '/'] <:+: '/' :: ['/'].intercalate list := by
  rintro ⟨front, back, e⟩
  by_cases hlist : list = []
  · have hlength := congrArg List.length e
    simp [hlist] at hlength
    omega
  · rw [List.append_assoc] at e
    refine splitOn_ne_nil_of_normal h hlist e ?_
    change (List.splitOn '/' ('/' :: back)).head? = some []
    rw [List.splitOn_cons_eq_if_modifyHead]
    rfl

theorem no_last_slash (h : ∀ piece ∈ list, piece ≠ [] ∧ '/' ∉ piece)
    (e : ('/' :: ['/'].intercalate list).getLast? = some '/') : list = [] := by
  obtain ⟨front, hfront⟩ := List.getLast?_eq_some_iff.mp e
  by_cases hlist : list = []
  · exact hlist
  · exact absurd rfl (splitOn_ne_nil_of_normal h hlist hfront.symm)

end SwaggerClient.Url
