import SwaggerClient.Proofs.Outcome
import SwaggerClient.Proofs.Text.Split
import SwaggerClient.Reference.Lookup

namespace SwaggerClient

namespace Json

theorem unescapeSlashes_eq_or (chars : List Char) :
    unescapeSlashes chars = chars ∨ '~' ∈ chars ∧ '/' ∈ unescapeSlashes chars := by
  fun_induction unescapeSlashes chars with
  | case1 rest ih => simp
  | case2 c rest _ ih =>
    rcases ih with ih | ⟨htilde, hslash⟩
    · exact .inl (congrArg _ ih)
    · exact .inr ⟨List.mem_cons_of_mem _ htilde, List.mem_cons_of_mem _ hslash⟩
  | case3 => exact .inl rfl

theorem unescapeTildes_eq_or (chars : List Char) :
    unescapeTildes chars = chars ∨ '~' ∈ chars ∧ '~' ∈ unescapeTildes chars := by
  fun_induction unescapeTildes chars with
  | case1 rest ih => simp
  | case2 c rest _ ih =>
    rcases ih with ih | ⟨htilde, htilde'⟩
    · exact .inl (congrArg _ ih)
    · exact .inr ⟨List.mem_cons_of_mem _ htilde, List.mem_cons_of_mem _ htilde'⟩
  | case3 => exact .inl rfl

theorem unescapeSegment_of_not_mem {segment : String} (h : '~' ∉ segment.toList) :
    unescapeSegment segment = segment := by
  have hslashes : unescapeSlashes segment.toList = segment.toList :=
    (unescapeSlashes_eq_or _).resolve_right fun hmem => h hmem.1
  have htildes : unescapeTildes segment.toList = segment.toList :=
    (unescapeTildes_eq_or _).resolve_right fun hmem => h hmem.1
  rw [unescapeSegment, hslashes, htildes, String.ofList_toList]

/-- A key with neither slash nor tilde is written in one way only. -/
theorem unescapeSegment_eq_iff {segment key : String} (hslash : '/' ∉ key.toList)
    (htilde : '~' ∉ key.toList) : unescapeSegment segment = key ↔ segment = key := by
  refine ⟨fun h => ?_, fun h => h ▸ unescapeSegment_of_not_mem (h ▸ htilde)⟩
  have hkey : unescapeTildes (unescapeSlashes segment.toList) = key.toList := by
    rw [← h, unescapeSegment, String.toList_ofList]
  have htildes : unescapeTildes (unescapeSlashes segment.toList) = unescapeSlashes segment.toList :=
    (unescapeTildes_eq_or _).resolve_right fun hmem => htilde (hkey ▸ hmem.2)
  have hkey' : unescapeSlashes segment.toList = key.toList := htildes.symm.trans hkey
  have hslashes : unescapeSlashes segment.toList = segment.toList :=
    (unescapeSlashes_eq_or _).resolve_right fun hmem => hslash (hkey' ▸ hmem.2)
  exact String.toList_inj.mp (hslashes.symm.trans hkey')

theorem pointer?_slash (rest : String) (j : Json) :
    j.pointer? ("/" ++ rest) = follow? ((Text.split '/' rest).map unescapeSegment) j := by
  have hsplit : Text.split '/' ("/" ++ rest) = "" :: Text.split '/' rest := by
    simp [Text.split, Text.splitChars_cons_separator]
  have hempty : ("/" ++ rest).isEmpty = false := by
    rw [← Bool.not_eq_true, String.isEmpty_iff]
    intro h
    simpa using congrArg String.toList h
  have hslash : Text.beginsWith '/' ("/" ++ rest) = true := by simp [Text.beginsWith]
  rw [pointer?, hempty, hslash, hsplit]
  rfl

end Json

namespace Document

variable {d : Document} {α : Type} {kind : TargetKind} {read : Reader α} {r : String}

theorem pointerOf_local (rest : String) : pointerOf ("#/" ++ rest) = .ok ("/" ++ rest) := by
  have hafter : Text.after? "#/" ("#/" ++ rest) = some rest := Text.after?_eq_some_iff.mpr rfl
  have hdrop : String.ofList (("#/" ++ rest).toList.drop 1) = "/" ++ rest := by
    apply String.toList_inj.mp
    simp
  rw [pointerOf, hafter, hdrop]
  rfl

theorem pointerOf_of_not_local (h : ∀ rest, r ≠ "#/" ++ rest) :
    pointerOf r = .error (.unsupportedReference r) := by
  have hafter : Text.after? "#/" r = none :=
    Option.eq_none_iff_forall_not_mem.mpr fun rest hrest => h rest (Text.after?_eq_some_iff.mp hrest)
  rw [pointerOf, hafter]
  rfl

theorem pointerOf_eq_ok_iff {pointer : String} :
    pointerOf r = .ok pointer ↔ ∃ rest, r = "#/" ++ rest ∧ pointer = "/" ++ rest := by
  constructor
  · intro h
    by_cases hlocal : ∃ rest, r = "#/" ++ rest
    · obtain ⟨rest, rfl⟩ := hlocal
      rw [pointerOf_local] at h
      exact ⟨rest, rfl, (Except.ok.inj h).symm⟩
    · rw [pointerOf_of_not_local (not_exists.mp hlocal)] at h
      cases h
  · rintro ⟨rest, rfl, rfl⟩
    exact pointerOf_local rest

/-- What stands in the document where a reference leads. -/
def Stands (d : Document) (r : String) (j : Json) : Prop :=
  ∃ rest, r = "#/" ++ rest ∧ d.raw.pointer? ("/" ++ rest) = some j

/-- Why a reference leads to nothing that can be read. -/
inductive Broken (d : Document) (kind : TargetKind) (read : Reader α) (r : String) : SynthesisError → Prop
  | unsupported (h : ∀ rest, r ≠ "#/" ++ rest) : Broken d kind read r (.unsupportedReference r)
  | dangling {rest : String} (hr : r = "#/" ++ rest) (h : d.raw.pointer? ("/" ++ rest) = none) :
    Broken d kind read r (.danglingReference r)
  | invalid {j : Json} {cause : StructureError} (hj : d.Stands r j) (h : read j = .error cause) :
    Broken d kind read r (.invalidTarget r kind cause)

theorem lookup_local (rest : String) :
    d.lookup kind read ("#/" ++ rest) =
      match d.raw.pointer? ("/" ++ rest) with
      | none => .error (.danglingReference ("#/" ++ rest))
      | some j => (read j).mapError (.invalidTarget ("#/" ++ rest) kind) := by
  rw [lookup, pointerOf_local, ok_bind]
  cases d.raw.pointer? ("/" ++ rest) with
  | none => rfl
  | some j => cases h : read j <;> simp only [h] <;> rfl

theorem Stands.lookup_eq {j : Json} (h : d.Stands r j) :
    d.lookup kind read r = (read j).mapError (.invalidTarget r kind) := by
  obtain ⟨rest, rfl, hj⟩ := h
  rw [lookup_local, hj]

theorem Broken.lookup_eq {e : SynthesisError} (h : d.Broken kind read r e) :
    d.lookup kind read r = .error e := by
  cases h with
  | unsupported h =>
    rw [lookup, pointerOf_of_not_local h]
    rfl
  | dangling hr h =>
    subst hr
    rw [lookup_local, h]
  | invalid hj h =>
    rw [hj.lookup_eq, h]
    rfl

theorem Stands.lookup_eq_ok {j : Json} {a : α} (hj : d.Stands r j) (ha : read j = .ok a) :
    d.lookup kind read r = .ok a := by
  rw [hj.lookup_eq, ha]
  rfl

/-- A reference leads to at most one thing. -/
theorem Stands.unique {j j' : Json} {a a' : α} (hj : d.Stands r j) (ha : read j = .ok a)
    (hj' : d.Stands r j') (ha' : read j' = .ok a') : a = a' := by
  have hlook : d.lookup .schema read r = .ok a := hj.lookup_eq_ok ha
  exact Except.ok.inj (hlook.symm.trans (hj'.lookup_eq_ok ha'))

theorem Broken.not_stands {e : SynthesisError} {j : Json} {a : α} (h : d.Broken kind read r e)
    (hj : d.Stands r j) : read j ≠ .ok a := by
  intro ha
  have hlook : d.lookup kind read r = .ok a := hj.lookup_eq_ok ha
  rw [h.lookup_eq] at hlook
  cases hlook

/-- A reference leads to something that can be read, or it is broken. -/
theorem stands_or_broken (d : Document) (kind : TargetKind) (read : Reader α) (r : String) :
    (∃ j a, d.Stands r j ∧ read j = .ok a) ∨ ∃ e, d.Broken kind read r e := by
  by_cases hlocal : ∃ rest, r = "#/" ++ rest
  · obtain ⟨rest, rfl⟩ := hlocal
    cases hj : d.raw.pointer? ("/" ++ rest) with
    | none => exact .inr ⟨_, .dangling rfl hj⟩
    | some j =>
      have hstands : d.Stands ("#/" ++ rest) j := ⟨rest, rfl, hj⟩
      cases hread : read j with
      | ok a => exact .inl ⟨j, a, hstands, hread⟩
      | error cause => exact .inr ⟨_, .invalid hstands hread⟩
  · exact .inr ⟨_, .unsupported (not_exists.mp hlocal)⟩

end Document

end SwaggerClient
