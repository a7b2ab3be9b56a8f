import SwaggerClient.Proofs.Model.Call
import SwaggerClient.Proofs.Reference.Extension

namespace SwaggerClient.ModelSynthesis

variable (x : ModelSynthesis) (d' : Document) {again : Step}

theorem members_document (building : List String) (owner : String) (full : Schema)
    (properties : List (String × Schema)) :
    ({ x with document := d' } : ModelSynthesis).members again building owner full properties =
      x.members again building owner full properties := by
  induction properties with
  | nil => rfl
  | cons p rest ih =>
    simp only [members, ih]
    rfl

theorem fromFull_document (building : List String) (name specName : String)
    (superclass : Option String) (full : Schema) :
    ({ x with document := d' } : ModelSynthesis).fromFull again building name specName superclass full =
      x.fromFull again building name specName superclass full := by
  simp only [fromFull, objectModels, members_document]
  rfl

variable {x d'} (h : x.document.Extends d')

include h

theorem run_extends (depth : Nat) (c : Call) :
    Gives (x.run depth c) ({ x with document := d' }.run depth c) := by
  induction depth generalizing c with
  | zero =>
    intro made hmade
    cases hmade
  | succ depth ih =>
    show Gives (ask (x.step (x.within depth)) c) (ask ({ x with document := d' }.step _) c)
    have hname : ({ x with document := d' } : ModelSynthesis).nameOf c = x.nameOf c := rfl
    rw [step_eq, step_eq, hname]
    split
    · exact Gives.stepwise.refl _
    split
    · exact Gives.stepwise.refl _
    refine (h.resolve _ _).bind fun base => (h.resolve _ _).bind fun full => ?_
    rw [fromFull_document x d']
    exact fromFull_stepwise Gives.stepwise ih _ _ _ _ _

theorem fromSchema_extends (schema : Schema) (name : String) :
    Gives (x.fromSchema schema name) ({ x with document := d' }.fromSchema schema name) := by
  intro made hmade
  have hdepth : x.depthBound schema ≤ { x with document := d' }.depthBound schema := by
    have hsize := h.size
    have hn : x.document.raw.size + schema.size + 2 ≤ d'.raw.size + schema.size + 2 := by omega
    exact Nat.mul_le_mul (Nat.mul_le_mul hn hn) hn
  -- the other document may be larger, and more depth gives the same
  have hrun := run_extends h (x.depthBound schema) ⟨[], schema, name⟩ made hmade
  have hmore := (run_atMost { x with document := d' } hdepth ⟨[], schema, name⟩).eq (by simp [hrun])
  exact hmore.symm.trans hrun

end SwaggerClient.ModelSynthesis
