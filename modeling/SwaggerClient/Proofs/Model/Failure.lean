import SwaggerClient.Proofs.Model.Call

namespace SwaggerClient

/-- The error says that there is no type for a schema without references and compositions. -/
def SynthesisError.OfShape : SynthesisError → Prop
  | .unknownShape _ _ => True
  | .arrayWithoutItems _ => True
  | .unsupportedMapValue _ => True
  | .missingTypeEntry _ => True
  | _ => False

/-- A run that gives a value, or fails because there is no type for a schema. -/
def FailsByShape {α : Type} (run : Except SynthesisError α) : Prop :=
  ∀ error, run = .error error → error.OfShape

section Runs

variable {α β : Type} {run : Except SynthesisError α} {f : α → Except SynthesisError β}

theorem FailsByShape.ok (a : α) : FailsByShape (.ok a : Except SynthesisError α) :=
  fun _ h => by cases h

theorem FailsByShape.error {error : SynthesisError} (h : error.OfShape) :
    FailsByShape (.error error : Except SynthesisError α) := by
  rintro _ ⟨⟩
  exact h

theorem FailsByShape.bind (hrun : FailsByShape run) (hf : ∀ a, FailsByShape (f a)) :
    FailsByShape (run >>= f) := by
  cases run with
  | error error => exact .error (hrun error rfl)
  | ok a => exact hf a

/-- What follows a run makes no other errors than those about shapes. -/
theorem bind_eq_error_iff {error : SynthesisError} (herror : ¬error.OfShape)
    (hf : ∀ a, FailsByShape (f a)) : run >>= f = .error error ↔ run = .error error := by
  cases run with
  | error other => simp [bind, Except.bind]
  | ok a =>
    rw [ok_bind]
    constructor
    · exact fun h => absurd (hf a error h) herror
    · intro h
      cases h

end Runs

namespace Target

mutual

theorem valueName_fails (t : Target) : (s : Schema) → FailsByShape (t.valueName s)
  | ⟨some r, _, _, _, _, _, _, _, _, _, _⟩ => by
    rw [valueName]
    exact .ok _
  | ⟨none, type, format, _, _, _, _, additional, _, _, _⟩ => by
    rw [valueName]
    split
    · exact .error trivial
    · refine (additionalName_fails t additional).bind fun inner => ?_
      split
      · exact .ok _
      · exact .error trivial
termination_by structural s => s

theorem additionalName_fails (t : Target) :
    (additional : Option (Additional Schema)) → FailsByShape (t.additionalName additional)
  | some (.schema s) => valueName_fails t s
  | some (.allowed _) => .ok _
  | none => .ok _
termination_by structural additional => additional

end

theorem arrayName_fails (t : Target) (item : String) : FailsByShape (t.arrayName item) := by
  unfold arrayName
  split
  · exact .ok _
  · exact .error trivial

end Target

namespace ModelSynthesis

variable {x : ModelSynthesis} {again : Step} {c c' : Call} {base full : Schema}
  {error : SynthesisError}

theorem primitiveName_fails (x : ModelSynthesis) (schema : Schema) (type format : Option String)
    (additional : Option (Additional Schema)) :
    FailsByShape (x.primitiveName schema type format additional) := by
  have hname : FailsByShape (x.target.typeName? type format additional) :=
    (Target.additionalName_fails _ additional).bind fun _ => .ok _
  refine hname.bind fun name => ?_
  split
  · exact .ok _
  · exact .error trivial

theorem enumModel_fails (x : ModelSynthesis) (name : String) (schema : Schema)
    (baseType : Option String) (values : List EnumValue) :
    FailsByShape (x.enumModel name schema baseType values) :=
  (primitiveName_fails x schema baseType schema.format none).bind fun _ => .ok _

theorem primitive_fails (x : ModelSynthesis) (full : Schema) (type format : Option String)
    (models : List Model) : FailsByShape (x.primitive full type format models) :=
  (primitiveName_fails x full type format full.additional).bind fun _ => .ok _

def failureOf {α : Type} : Except SynthesisError α → Option SynthesisError
  | .ok _ => none
  | .error error => some error

/-- What the first of the calls that fail fails with. -/
def failure (again : Step) : List Call → Option SynthesisError
  | [] => none
  | c :: rest => (failureOf (ask again c)).or (failure again rest)

theorem failureOf_eq_some {α : Type} {run : Except SynthesisError α} :
    failureOf run = some error ↔ run = .error error := by
  cases run <;> simp [failureOf]

theorem failureOf_bind {α β : Type} {run : Except SynthesisError α}
    {f : α → Except SynthesisError β} {rest : Option SynthesisError}
    (hf : ∀ a, failureOf (f a) = rest) : failureOf (run >>= f) = (failureOf run).or rest := by
  cases run with
  | error error => rfl
  | ok a =>
    rw [ok_bind, hf a]
    simp [failureOf]

theorem failureOf_bind_ok {α β : Type} {run : Except SynthesisError α}
    {f : α → Except SynthesisError β} (hf : ∀ a, failureOf (f a) = none) :
    failureOf (run >>= f) = failureOf run := by
  rw [failureOf_bind hf, Option.or_none]

theorem failure_append (again : Step) (calls more : List Call) :
    failure again (calls ++ more) = (failure again calls).or (failure again more) := by
  induction calls with
  | nil => simp [failure]
  | cons c rest ih => rw [List.cons_append, failure, failure, ih, Option.or_assoc]

/-- The calls before the one that fails yield something. -/
theorem exists_of_failure {calls : List Call} (h : failure again calls = some error) :
    ∃ before c' after, calls = before ++ c' :: after ∧
      (∀ b ∈ before, ∃ made, ask again b = .ok made) ∧ ask again c' = .error error := by
  induction calls with
  | nil => simp [failure] at h
  | cons c rest ih =>
    rw [failure] at h
    cases hc : ask again c with
    | error first =>
      rw [hc] at h
      obtain rfl : first = error := Option.some.inj h
      exact ⟨[], c, rest, rfl, by simp, hc⟩
    | ok made =>
      rw [hc] at h
      obtain ⟨before, c', after, rfl, hbefore, hc'⟩ := ih h
      refine ⟨c :: before, c', after, rfl, ?_, hc'⟩
      exact List.forall_mem_cons.mpr ⟨⟨made, hc⟩, hbefore⟩

theorem members_failure (full : Schema) (properties : List (String × Schema)) :
    failureOf (x.members again (x.nameOf c :: c.building) (x.nameOf c) full properties) =
      failure again (properties.map fun p => x.propertyCall c p.1 p.2) := by
  induction properties with
  | nil => rfl
  | cons p rest ih =>
    have hmember :
        failureOf (x.member again (x.nameOf c :: c.building) (x.nameOf c) full p.1 p.2) =
          failureOf (ask again (x.propertyCall c p.1 p.2)) :=
      failureOf_bind_ok fun _ => rfl
    rw [List.map_cons, failure, ← ih, ← hmember]
    exact failureOf_bind fun first => failureOf_bind_ok fun _ => rfl

theorem parent_failure (superclass : Option String) :
    failureOf (parent again (x.nameOf c :: c.building) superclass) =
      failure again (superclass.toList.map (x.superclassCall c)) := by
  cases superclass with
  | none => rfl
  | some r =>
    have hparent : failureOf (parent again (x.nameOf c :: c.building) (some r)) =
        failureOf (ask again (x.superclassCall c r)) :=
      failureOf_bind_ok fun _ => rfl
    rw [hparent, Option.toList_some, List.map_singleton, failure, failure, Option.or_none]

/-- Errors that are not about a shape come from a nested call. -/
theorem fromFull_eq_error_iff (herror : ¬error.OfShape) {specName : String}
    {superclass : Option String} :
    x.fromFull again c.building (x.nameOf c) specName superclass full = .error error ↔
      failure again (x.nested c superclass full) = some error := by
  have hsingle (c' : Call) : failure again [c'] = some error ↔ ask again c' = .error error := by
    rw [failure, failure, Option.or_none, failureOf_eq_some]
  have hnone {run : Except SynthesisError Synthesized} (h : FailsByShape run) :
      run ≠ .error error :=
    fun hrun => herror (h error hrun)
  cases hs : full.shape with
  | enumeration type values =>
    have hfails : FailsByShape
        (x.fromFull again c.building (x.nameOf c) specName superclass full) := by
      simp only [fromFull, hs]
      exact (enumModel_fails x _ _ _ _).bind fun _ => .ok _
    simp [nested, hs, failure, hnone hfails]
  | array items =>
    cases items with
    | none =>
      have hfails : FailsByShape
          (x.fromFull again c.building (x.nameOf c) specName superclass full) := by
        simp only [fromFull, hs]
        exact .error trivial
      simp [nested, hs, failure, hnone hfails]
    | some items =>
      have hnested : x.nested c superclass full = [⟨c.building, items, x.nameOf c⟩] := by
        simp [nested, hs]
      rw [fromFull_array hs, hnested, hsingle]
      exact bind_eq_error_iff herror fun inner => (x.target.arrayName_fails _).bind fun _ => .ok _
  | object properties =>
    have hnested : x.nested c superclass full =
        properties.map (fun p => x.propertyCall c p.1 p.2) ++
          superclass.toList.map (x.superclassCall c) := by
      simp [nested, hs]
    have hmodels : failureOf (x.objectModels again (x.nameOf c :: c.building) (x.nameOf c) specName
        full properties superclass) = failure again (x.nested c superclass full) := by
      rw [hnested, failure_append, ← members_failure full, ← parent_failure]
      exact failureOf_bind fun members => failureOf_bind_ok fun _ => rfl
    rw [fromFull_properties hs, ← hmodels, failureOf_eq_some]
    exact bind_eq_error_iff herror fun models => .ok _
  | primitive type format =>
    cases ha : full.additional.bind Additional.value? with
    | none =>
      rw [fromFull_value hs ha]
      simp [nested, hs, ha, failure, hnone (primitive_fails x full type format [])]
    | some value =>
      have hnested : x.nested c superclass full = [⟨c.building, value, ""⟩] := by
        simp [nested, hs, ha]
      rw [fromFull_map hs (Schema.additional_bind_value.mp ha), hnested, hsingle]
      exact bind_eq_error_iff herror fun inner => primitive_fails x full type format inner.models

theorem run_succ_eq_error_iff (hopens : x.Opens c base full) (herror : ¬error.OfShape)
    {depth : Nat} :
    x.run (depth + 1) c = .error error ↔
      failure (x.within depth) (x.nested c (superclassReference base) full) = some error := by
  rw [run_succ_of_opens hopens]
  exact fromFull_eq_error_iff herror

end ModelSynthesis

end SwaggerClient
