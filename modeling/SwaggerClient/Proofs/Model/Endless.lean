import Mathlib.Order.WellFounded
import SwaggerClient.Proofs.Model.Failure

namespace SwaggerClient

namespace ModelSynthesis

variable {x : ModelSynthesis} {c c' : Call} {base full : Schema}

/-- The call has no result at any depth. -/
def Endless (x : ModelSynthesis) (c : Call) : Prop :=
  ∀ depth, x.run depth c = .error .endless

theorem not_endless_iff : ¬x.Endless c ↔ ∃ depth, x.run depth c ≠ .error .endless :=
  not_forall

theorem fromSchema_of_endless {s : Schema} {name : String} (h : x.Endless ⟨[], s, name⟩) :
    x.fromSchema s name = .error .endless :=
  h (x.depthBound s)

theorem run_endless_of_le {depth more : Nat} (h : depth ≤ more)
    (hmore : x.run more c = .error .endless) : x.run depth c = .error .endless := by
  rcases run_atMost x h c with hend | hsame
  · exact hend
  · rw [hsame, hmore]

theorem failure_endless_of_le {depth more : Nat} (h : depth ≤ more) {calls : List Call}
    (hmore : failure (x.within more) calls = some .endless) :
    failure (x.within depth) calls = some .endless := by
  induction calls with
  | nil => simp [failure] at hmore
  | cons c rest ih =>
    rw [failure] at hmore ⊢
    rcases run_atMost x h c with hend | hsame
    · have hask : ask (x.within depth) c = .error .endless := hend
      rw [hask]
      rfl
    · have hask : ask (x.within depth) c = ask (x.within more) c := hsame
      rw [hask]
      cases hrun : ask (x.within more) c with
      | error error =>
        rw [hrun] at hmore
        exact hmore
      | ok made =>
        rw [hrun] at hmore
        exact ih hmore

/-- Calls whose runs fail for want of depth at every depth: one of them is endless, and those before it
yield something. -/
theorem exists_endless {calls : List Call}
    (h : ∀ depth, failure (x.within depth) calls = some .endless) :
    ∃ before c' after, calls = before ++ c' :: after ∧ (∀ b ∈ before, ∃ made, x.Yields b made) ∧
      x.Endless c' := by
  induction calls with
  | nil => simp [failure] at h
  | cons c rest ih =>
    by_cases hend : x.Endless c
    · exact ⟨[], c, rest, rfl, by simp, hend⟩
    · obtain ⟨enough, henough⟩ := not_endless_iff.mp hend
      cases hrun : x.run enough c with
      | error error =>
        have hfailure := h enough
        have hask : ask (x.within enough) c = .error error := hrun
        rw [failure, hask] at hfailure
        obtain rfl : error = .endless := Option.some.inj hfailure
        exact absurd hrun henough
      | ok made =>
        -- with depth enough for the first call, it is the others that fail
        have hrest : ∀ depth, failure (x.within depth) rest = some .endless := by
          intro depth
          have hmore : x.run (max enough depth) c = .ok made := by
            rw [← (run_atMost x (le_max_left enough depth) c).eq henough, hrun]
          have hask : ask (x.within (max enough depth)) c = .ok made := hmore
          have hfailure := h (max enough depth)
          rw [failure, hask] at hfailure
          exact failure_endless_of_le (le_max_right enough depth) hfailure
        obtain ⟨before, c', after, rfl, hbefore, hend'⟩ := ih hrest
        refine ⟨c :: before, c', after, rfl, ?_, hend'⟩
        intro b hb
        rcases List.mem_cons.mp hb with rfl | hb
        · exact ⟨made, enough, hrun⟩
        · exact hbefore b hb

theorem failure_endless {depth : Nat} {before after : List Call}
    (hbefore : ∀ b ∈ before, ∃ made, x.Yields b made)
    (hc : x.run depth c' = .error .endless) :
    failure (x.within depth) (before ++ c' :: after) = some .endless := by
  have hask : ask (x.within depth) c' = .error .endless := hc
  induction before with
  | nil =>
    rw [List.nil_append, failure, hask]
    rfl
  | cons b rest ih =>
    obtain ⟨made, hmade⟩ := hbefore b (by simp)
    have hrest := ih fun b hb => hbefore b (List.mem_cons_of_mem _ hb)
    rw [List.cons_append, failure]
    by_cases hend : x.run depth b = .error .endless
    · have hask' : ask (x.within depth) b = .error .endless := hend
      rw [hask']
      rfl
    · have hask' : ask (x.within depth) b = .ok made := hmade.run_eq hend
      rw [hask']
      exact hrest

theorem run_succ_endless_iff (hopens : x.Opens c base full) {depth : Nat} :
    x.run (depth + 1) c = .error .endless ↔
      failure (x.within depth) (x.nested c (superclassReference base) full) = some .endless :=
  run_succ_eq_error_iff hopens id

/-- An endless call comes to another one in its run. -/
theorem Endless.exists_enters (h : x.Endless c) : ∃ c', x.Enters c c' ∧ x.Endless c' := by
  rcases x.opens_or_settled c with ⟨base, full, hopens⟩ | ⟨result, hresult, _, hstep⟩
  · have hnested := fun depth => (run_succ_endless_iff hopens).mp (h (depth + 1))
    obtain ⟨before, c', after, hsplit, hbefore, hend⟩ := exists_endless hnested
    exact ⟨c', ⟨base, full, before, after, hopens, hsplit, hbefore⟩, hend⟩
  · have hrun : x.run 1 c = result := hstep _
    exact absurd (hrun.symm.trans (h 1)) hresult

/-- A call that comes to one with no result at some depth has none at the next depth. -/
theorem Enters.run_endless (h : x.Enters c c') {depth : Nat} (hc : x.run depth c' = .error .endless) :
    x.run (depth + 1) c = .error .endless := by
  obtain ⟨base, full, before, after, hopens, hsplit, hbefore⟩ := h
  rw [run_succ_endless_iff hopens, hsplit]
  exact failure_endless hbefore hc

/-- A call has a result exactly if no way leads on from it for ever. -/
theorem not_endless_iff_acc : ¬x.Endless c ↔ Acc (fun c' c => x.Enters c c') c := by
  constructor
  · intro h
    obtain ⟨depth, h⟩ := not_endless_iff.mp h
    induction depth generalizing c with
    | zero => exact absurd rfl h
    | succ depth ih =>
      refine Acc.intro c fun c' hc => ?_
      have hnested : x.run depth c' ≠ .error .endless := fun hend => h (hc.run_endless hend)
      exact ih (not_endless_iff.mpr ⟨depth, hnested⟩) hnested
  · intro h
    induction h with
    | intro c _ ih =>
      intro hend
      obtain ⟨c', hc, hend'⟩ := hend.exists_enters
      exact ih c' hc hend'

/-- A way of calls from `c`, each nested in the one before and come to in its run. -/
structure Way (x : ModelSynthesis) (c : Call) (way : Nat → Call) : Prop where
  start : way 0 = c
  enters : ∀ i, x.Enters (way i) (way (i + 1))

theorem endless_iff_exists_way : x.Endless c ↔ ∃ way, x.Way c way := by
  have hchain : x.Endless c ↔ ¬Acc (fun c' c => x.Enters c c') c := by
    rw [← not_endless_iff_acc, not_not]
  rw [hchain, not_acc_iff_exists_descending_chain]
  constructor
  · rintro ⟨way, hstart, henters⟩
    exact ⟨way, hstart, henters⟩
  · rintro ⟨way, hway⟩
    exact ⟨way, hway.start, hway.enters⟩

end ModelSynthesis

end SwaggerClient
