import SwaggerClient.Text.Split

namespace SwaggerClient.Text

theorem after?_eq_some_iff {start text rest : String} :
    after? start text = some rest ↔ text = start ++ rest := by
  unfold after?
  constructor
  · intro h
    split at h
    · next hprefix =>
      obtain ⟨back, hback⟩ := List.isPrefixOf_iff_prefix.mp hprefix
      obtain rfl := Option.some.inj h
      apply String.toList_inj.mp
      simp [← hback]
    · cases h
  · rintro rfl
    simp

theorem splitChars_eq_splitOn (separator : Char) (chars : List Char) :
    splitChars separator chars = chars.splitOn separator := by
  induction chars with
  | nil => rfl
  | cons c rest ih =>
    rw [List.splitOn_cons_eq_if_modifyHead, splitChars, ih]
    by_cases hc : c = separator
    · simp [hc]
    · obtain ⟨piece, pieces, hpieces⟩ := List.exists_cons_of_ne_nil (List.splitOn_ne_nil separator rest)
      simp [hc, hpieces]

theorem splitChars_ne_nil (separator : Char) (chars : List Char) : splitChars separator chars ≠ [] := by
  rw [splitChars_eq_splitOn]
  exact List.splitOn_ne_nil separator chars

theorem splitChars_cons_separator (separator : Char) (chars : List Char) :
    splitChars separator (separator :: chars) = [] :: splitChars separator chars := by
  simp [splitChars]

/-- Up to the first separator stands the first piece. -/
theorem splitChars_append {separator : Char} {front : List Char} (h : separator ∉ front)
    (back : List Char) :
    splitChars separator (front ++ separator :: back) = front :: splitChars separator back := by
  rw [splitChars_eq_splitOn, splitChars_eq_splitOn, List.splitOn_append_cons_self_of_not_mem h]

theorem splitChars_of_not_mem {separator : Char} {chars : List Char} (h : separator ∉ chars) :
    splitChars separator chars = [chars] := by
  rw [splitChars_eq_splitOn, List.splitOn_eq_singleton h]

/-- A text in one piece is that piece. -/
theorem eq_of_splitChars_eq_singleton {separator : Char} {chars piece : List Char}
    (h : splitChars separator chars = [piece]) : chars = piece := by
  have hjoined : [separator].intercalate (chars.splitOn separator) = chars :=
    List.intercalate_splitOn separator
  rw [← splitChars_eq_splitOn, h] at hjoined
  simpa using hjoined.symm

theorem not_mem_of_mem_splitOn {separator : Char} {chars piece : List Char}
    (h : piece ∈ chars.splitOn separator) : separator ∉ piece := by
  induction chars generalizing piece with
  | nil =>
    obtain rfl := List.mem_singleton.mp h
    simp
  | cons c rest ih =>
    rw [← splitChars_eq_splitOn, splitChars] at h
    split at h
    · rcases List.mem_cons.mp h with rfl | h
      · simp
      · exact ih (splitChars_eq_splitOn separator rest ▸ h)
    · next hc =>
      obtain ⟨first, pieces, hpieces⟩ := List.exists_cons_of_ne_nil (List.splitOn_ne_nil separator rest)
      rw [splitChars_eq_splitOn, hpieces] at h
      rw [hpieces] at ih
      rcases List.mem_cons.mp h with rfl | h
      · exact List.not_mem_cons_of_ne_of_not_mem (Ne.symm hc) (ih (by simp))
      · exact ih (List.mem_cons_of_mem _ h)

theorem join_eq_intercalate (separator : String) (pieces : List String) :
    join separator pieces = separator.intercalate pieces := by
  cases pieces with
  | nil => rfl
  | cons piece pieces =>
    induction pieces generalizing piece with
    | nil => rfl
    | cons next pieces ih => exact ih (piece ++ separator ++ next)

end SwaggerClient.Text
