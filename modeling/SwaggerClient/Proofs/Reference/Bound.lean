import Mathlib.Data.Finset.Card
import SwaggerClient.Proofs.Reference.Closed
import SwaggerClient.Proofs.Reference.Lookup

namespace SwaggerClient

/-- What lies in some sets of bounded sizes lies in one whose size is bounded by their sum. -/
theorem exists_union {α : Type} (Q : Finset String → α → Prop) {size : α → Nat}
    (total : List α → Nat) (hmono : ∀ {U V : Finset String} {a : α}, Q U a → U ⊆ V → Q V a)
    (htotal : ∀ a l, size a + total l ≤ total (a :: l)) {l : List α}
    (h : ∀ a ∈ l, ∃ U, U.card ≤ size a ∧ Q U a) : ∃ U, U.card ≤ total l ∧ ∀ a ∈ l, Q U a := by
  induction l with
  | nil => exact ⟨∅, by simp, by simp⟩
  | cons a rest ih =>
    obtain ⟨U, hcard, hU⟩ := h a (by simp)
    obtain ⟨V, hcard', hV⟩ := ih fun b hb => h b (List.mem_cons_of_mem _ hb)
    have hunion := Finset.card_union_le U V
    have hsum := htotal a rest
    refine ⟨U ∪ V, by omega, fun b hb => ?_⟩
    rcases List.mem_cons.mp hb with rfl | hb
    · exact hmono hU Finset.subset_union_left
    · exact hmono (hV b hb) Finset.subset_union_right

namespace Json

/-- The texts in a value, at every depth, are among `U`. -/
def TextsIn (U : Finset String) (j : Json) : Prop :=
  j.Everywhere fun c => ∀ text, c = .string text → text ∈ U

theorem TextsIn.mono {U V : Finset String} {j : Json} (h : j.TextsIn U) (hUV : U ⊆ V) :
    j.TextsIn V :=
  Everywhere.mono h fun _ hc text e => hUV (hc text e)

/-- The texts in a value are no more than the value counts. -/
theorem exists_textsIn (j : Json) :
    ∃ U : Finset String, U.card ≤ j.stringCount ∧ j.TextsIn U := by
  induction j using Json.induction with
  | step j ih =>
    cases j with
    | array items =>
      obtain ⟨U, hcard, hU⟩ := exists_union TextsIn stringCountItems TextsIn.mono
        (fun _ _ => le_rfl) ih
      exact ⟨U, hcard, .intro _ (by simp) hU⟩
    | object entries =>
      obtain ⟨U, hcard, hU⟩ := exists_union (fun U e => e.2.TextsIn U) stringCountEntries
        TextsIn.mono (fun _ _ => le_rfl) fun e he => ih e.2 (List.mem_map_of_mem he)
      exact ⟨U, hcard, .intro _ (by simp) (List.forall_mem_map.mpr hU)⟩
    | string text =>
      refine ⟨{text}, by simp [stringCount], .intro _ ?_ (by simp [children])⟩
      intro t e
      obtain rfl := Json.string.inj e
      simp
    | null | bool | number => exact ⟨∅, by simp, .intro _ (by simp) (by simp [children])⟩

end Json

namespace Schema

def ReferenceIn (U : Finset String) (s : Schema) : Prop :=
  ∀ r, s.reference = some r → r ∈ U

/-- The references in a schema, at every depth, are among `U`. -/
def ReferencesIn (U : Finset String) (s : Schema) : Prop :=
  s.Everywhere (ReferenceIn U)

theorem ReferencesIn.mono {U V : Finset String} {s : Schema} (h : s.ReferencesIn U) (hUV : U ⊆ V) :
    s.ReferencesIn V :=
  Everywhere.mono h fun _ hs r e => hUV (hs r e)

/-- A schema has no more references than schemas in it, itself included. -/
theorem exists_referencesIn (s : Schema) :
    ∃ U : Finset String, U.card ≤ s.size ∧ s.ReferencesIn U := by
  induction s using Schema.induction with
  | step s ih =>
    obtain ⟨U, hcard, hU⟩ := exists_union ReferencesIn sizeMembers ReferencesIn.mono
      (fun _ _ => le_rfl) ih
    have hsize := size_eq s
    have hunion := Finset.card_union_le s.reference.toList.toFinset U
    have hown : s.reference.toList.toFinset.card ≤ 1 := by
      cases s.reference <;> simp
    refine ⟨s.reference.toList.toFinset ∪ U, by omega, .intro s ?_ fun t ht => ?_⟩
    · intro r hr
      simp [hr]
    · exact (hU t ht).mono Finset.subset_union_right

end Schema

namespace Document

theorem mergeable_referenceIn (U : Finset String) : Mergeable (Schema.ReferenceIn U) :=
  mergeable_referenceHas (· ∈ U)

theorem lookupSchema_referencesIn {d : Document} {U : Finset String} (hd : d.raw.TextsIn U)
    {r : String} {t : Schema} (h : d.lookupSchema r = .ok t) : t.ReferencesIn U :=
  (lookupSchema_drawn hd h).mono fun _ hs r hr => hs.reference r hr r rfl

/-- The references of a document and a schema together are within the bound of an expansion. -/
theorem exists_references (d : Document) (s : Schema) :
    ∃ U : Finset String, U.card ≤ d.referenceBound + s.size ∧ s.ReferencesIn U ∧
      ∀ r t, d.lookupSchema r = .ok t → t.ReferencesIn U := by
  obtain ⟨U, hU, htexts⟩ := d.raw.exists_textsIn
  obtain ⟨V, hV, hs⟩ := s.exists_referencesIn
  have hunion := Finset.card_union_le U V
  refine ⟨U ∪ V, ?_, hs.mono Finset.subset_union_right, fun r t h => ?_⟩
  · simp only [referenceBound]
    omega
  · exact lookupSchema_referencesIn (htexts.mono Finset.subset_union_left) h

end Document

end SwaggerClient
