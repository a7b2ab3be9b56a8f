import Mathlib.Data.List.Perm.Basic
import SwaggerClient.Proofs.Outcome

namespace SwaggerClient

variable {ε α β : Type} {f g : α → Except ε β} {list more : List α} {made : List β}

theorem mapM_eq_ok : list.mapM f = .ok made ↔ List.Forall₂ (fun a b => f a = .ok b) list made := by
  induction list generalizing made with
  | nil =>
    rw [List.mapM_nil, List.forall₂_nil_left_iff]
    constructor
    · exact fun h => (Except.ok.inj h).symm
    · rintro rfl
      rfl
  | cons first rest ih =>
    rw [List.mapM_cons, List.forall₂_cons_left_iff]
    constructor
    · intro h
      obtain ⟨a, ha, h⟩ := bind_eq_ok.mp h
      obtain ⟨others, hothers, h⟩ := bind_eq_ok.mp h
      exact ⟨a, others, ha, ih.mp hothers, (Except.ok.inj h).symm⟩
    · rintro ⟨a, others, ha, hothers, rfl⟩
      rw [ha, ok_bind, ih.mpr hothers, ok_bind]
      rfl

theorem forall₂_mem {R : α → β → Prop} {a : α} (h : List.Forall₂ R list made) (ha : a ∈ list) :
    ∃ b ∈ made, R a b := by
  induction h with
  | nil => simp at ha
  | @cons _ b _ _ hab _ ih =>
    rcases List.mem_cons.mp ha with rfl | ha
    · exact ⟨b, by simp, hab⟩
    · obtain ⟨b, hmem, hab⟩ := ih ha
      exact ⟨b, List.mem_cons_of_mem _ hmem, hab⟩

/-- Two traversals one after the other are one, in which each element takes both steps. -/
theorem exists_forall₂_iff {γ : Type} {R : α → β → Prop} {S : β → γ → Prop} {ends : List γ} :
    (∃ between, List.Forall₂ R list between ∧ List.Forall₂ S between ends) ↔
      List.Forall₂ (fun a c => ∃ b, R a b ∧ S b c) list ends := by
  constructor
  · rintro ⟨between, hR, hS⟩
    induction hR generalizing ends with
    | nil =>
      obtain rfl := List.forall₂_nil_left_iff.mp hS
      exact .nil
    | cons hab _ ih =>
      obtain ⟨c, rest, hbc, hrest, rfl⟩ := List.forall₂_cons_left_iff.mp hS
      exact .cons ⟨_, hab, hbc⟩ (ih hrest)
  · intro h
    induction h with
    | nil => exact ⟨[], .nil, .nil⟩
    | cons hac _ ih =>
      obtain ⟨b, hab, hbc⟩ := hac
      obtain ⟨between, hR, hS⟩ := ih
      exact ⟨b :: between, .cons hab hR, .cons hbc hS⟩

theorem mapM_mem {a : α} (h : list.mapM f = .ok made) (ha : a ∈ list) :
    ∃ b ∈ made, f a = .ok b :=
  forall₂_mem (mapM_eq_ok.mp h) ha

theorem mapM_comes {b : β} (h : list.mapM f = .ok made) (hb : b ∈ made) :
    ∃ a ∈ list, f a = .ok b :=
  forall₂_mem (mapM_eq_ok.mp h).flip hb

theorem mapM_eq_error {e : ε} (h : list.mapM f = .error e) : ∃ a ∈ list, f a = .error e := by
  induction list with
  | nil => cases h
  | cons first rest ih =>
    rw [List.mapM_cons] at h
    rcases bind_eq_error.mp h with hfirst | ⟨_, _, h⟩
    · exact ⟨first, by simp, hfirst⟩
    · rcases bind_eq_error.mp h with hrest | ⟨_, _, h⟩
      · obtain ⟨a, ha, hfails⟩ := ih hrest
        exact ⟨a, List.mem_cons_of_mem _ ha, hfails⟩
      · cases h

theorem mapM_perm (hperm : list.Perm more) (h : list.mapM f = .ok made) :
    ∃ made', more.mapM f = .ok made' ∧ made.Perm made' := by
  obtain ⟨made', hmade', hperm'⟩ := List.perm_comp_forall₂ hperm.symm (mapM_eq_ok.mp h)
  exact ⟨made', mapM_eq_ok.mpr hmade', hperm'.symm⟩

theorem mapM_gives (h : ∀ a ∈ list, Gives (f a) (g a)) : Gives (list.mapM f) (list.mapM g) := by
  induction list with
  | nil => exact Gives.stepwise.refl _
  | cons first rest ih =>
    have hrest := ih fun a ha => h a (List.mem_cons_of_mem _ ha)
    rw [List.mapM_cons, List.mapM_cons]
    exact (h first (by simp)).bind fun _ => hrest.bind fun _ => Gives.stepwise.refl _

theorem mapM_append_eq_ok {last : List β} (h : list.mapM f = .ok made)
    (hmore : more.mapM f = .ok last) : (list ++ more).mapM f = .ok (made ++ last) := by
  rw [List.mapM_append, h, ok_bind, hmore, ok_bind]
  rfl

/-- Steps that may be taken in either order, two at a time, may be taken in any order. -/
theorem foldlM_perm {related : α → α → Prop} {step : β → α → Except ε β}
    (hsymm : ∀ {a b}, related a b → related b a)
    (hstep : ∀ a b, related a b → ∀ s,
      Gives (step s a >>= fun t => step t b) (step s b >>= fun t => step t a))
    (hperm : list.Perm more) (hpair : list.Pairwise related) (s : β) :
    Gives (list.foldlM step s) (more.foldlM step s) := by
  induction hperm generalizing s with
  | nil => exact Gives.stepwise.refl _
  | cons a _ ih =>
    rw [List.foldlM_cons, List.foldlM_cons]
    exact (Gives.stepwise.refl _).bind fun t => ih (List.pairwise_cons.mp hpair).2 t
  | swap a b rest =>
    have hab := (List.pairwise_cons.mp hpair).1 a (by simp)
    have h := (hstep b a hab s).bind fun t => Gives.stepwise.refl (rest.foldlM step t)
    simpa only [List.foldlM_cons, bind_assoc] using h
  | trans hfirst _ ihfirst ihthen =>
    have hmiddle := (hfirst.pairwise_iff hsymm).mp hpair
    exact fun t ht => ihthen hmiddle s t (ihfirst hpair s t ht)

end SwaggerClient
