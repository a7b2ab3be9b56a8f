import SwaggerClient.Proofs.Reference.Expansion

namespace SwaggerClient

namespace Schema

/-- At most so many schemas stand inside one another in the schema, itself included. -/
def HeightAtMost : Nat → Schema → Prop
  | 0, _ => False
  | n + 1, s => ∀ t ∈ s.children, HeightAtMost n t

theorem HeightAtMost.mono {n m : Nat} {s : Schema} (h : HeightAtMost n s) (hle : n ≤ m) :
    HeightAtMost m s := by
  induction n generalizing m s with
  | zero => exact h.elim
  | succ n ih =>
    obtain ⟨m, rfl⟩ : ∃ k, m = k + 1 := ⟨m - 1, by omega⟩
    exact fun t ht => ih (h t ht) (by omega)

theorem heightAtMost_size (s : Schema) : HeightAtMost s.size s := by
  induction s using Schema.induction with
  | step s ih =>
    have hsize := size_eq s
    have hsucc : s.size = sizeMembers s.children + 1 := by omega
    rw [hsucc]
    intro t ht
    have hle := size_le_sizeMembers ht
    exact (ih t ht).mono hle

theorem heightAtMost_empty (n : Nat) : HeightAtMost (n + 1) {} := by
  intro t ht
  simp [children] at ht

theorem heightAtMost_merge {n : Nat} {a b : Schema} (ha : HeightAtMost n a)
    (hb : HeightAtMost n b) : HeightAtMost n (a.merge b) := by
  induction n generalizing a b with
  | zero => exact ha
  | succ n ih =>
    show ∀ t ∈ (a.merge b).children, HeightAtMost n t
    apply forall_children_merge
    · exact ha
    · exact hb
    · exact fun y hy x hx => ih hx (hb y hy)

theorem heightAtMost_foldl_merge {n : Nat} {target : Schema} {parts : List Schema}
    (ht : HeightAtMost n target) (hp : ∀ p ∈ parts, HeightAtMost n p) :
    HeightAtMost n (parts.foldl merge target) := by
  induction parts generalizing target with
  | nil => exact ht
  | cons p rest ih =>
    have hfirst := heightAtMost_merge ht (hp p (by simp))
    exact ih hfirst fun q hq => hp q (List.mem_cons_of_mem _ hq)

end Schema

namespace Document

variable {d : Document}

theorem heightAtMost_ownParts {n : Nat} {s : Schema} (e : Expansion) (h : s.HeightAtMost n) :
    (e.ownParts s).HeightAtMost n := by
  cases n with
  | zero => exact h
  | succ n => exact fun t ht => h t (ownParts_children_subset e s ht)

/-- An expansion on whose ways no reference is followed makes a schema no deeper. -/
theorem Expands.heightAtMost {e : Expansion} {chain : List String} {s t : Schema} {n : Nat}
    (h : d.Expands e chain s t) (hnone : ∀ refs u, d.Follows e s refs u → refs = [])
    (hs : s.HeightAtMost n) : t.HeightAtMost n := by
  induction h generalizing n with
  | unchanged => exact hs
  | @members e chain s f _ _ _ ih =>
    cases n with
    | zero => exact hs.elim
    | succ n =>
      have hparts : ∀ p ∈ (e.members s).map f, p.HeightAtMost (n + 1) := by
        intro p hp
        obtain ⟨m, hm, rfl⟩ := List.mem_map.mp hp
        have hmember : (f m).HeightAtMost n :=
          ih m hm (fun refs u hu => hnone refs u (.member hm hu))
            (hs m (Expansion.member_mem_children hm))
        exact hmember.mono (by omega)
      have hmerged := Schema.heightAtMost_foldl_merge (Schema.heightAtMost_empty n) hparts
      exact Schema.heightAtMost_merge hmerged (heightAtMost_ownParts e hs)
  | follow f hf _ hleads =>
    have hway := hnone _ _ (.reference hf hleads .here)
    cases hway

end Document

end SwaggerClient
