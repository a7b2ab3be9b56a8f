import Mathlib.Data.List.Nodup
import SwaggerClient.Api.Report

namespace SwaggerClient

theorem foldl_append_ne_empty {α : Type} {f : α → String} {text : String} (h : text ≠ "")
    (more : List α) : more.foldl (fun text a => text ++ f a) text ≠ "" := by
  induction more generalizing text with
  | nil => exact h
  | cons a more ih => exact ih fun e => h (String.append_eq_empty_iff.mp e).1

theorem Text.join_eq_empty_iff {separator : String} {pieces : List String}
    (h : ∀ piece ∈ pieces, piece ≠ "") : join separator pieces = "" ↔ pieces = [] := by
  cases pieces with
  | nil => simp [join]
  | cons piece pieces =>
    simp only [join, String.append_assoc, reduceCtorEq, iff_false]
    exact foldl_append_ne_empty (h piece (by simp)) pieces

theorem Report.text_ne_empty {r : Report} (h : r.problems ≠ []) : r.text ≠ "" := by
  have hstart : "Problems with " ++ r.apiName ++ ": " ≠ "" := by simp
  unfold text
  rw [if_neg (by simpa using h)]
  simp only [String.append_assoc] at hstart ⊢
  exact foldl_append_ne_empty hstart r.problems

/-- Taken together, the reports have no text exactly when none of them tells a problem. -/
theorem Api.verifyAll_isEmpty_iff (apis : List Api) :
    (verifyAll apis).isEmpty ↔ ∀ a ∈ apis, a.verify.problems = [] := by
  have htexts : ∀ text ∈ ((apis.map verify).filter fun r => !r.isEmpty).map Report.text, text ≠ "" := by
    refine List.forall_mem_map.mpr fun r hr => Report.text_ne_empty ?_
    simpa [Report.isEmpty] using (List.mem_filter.mp hr).2
  rw [String.isEmpty_iff, verifyAll, Text.join_eq_empty_iff htexts]
  simp [Report.isEmpty]

namespace Api

/-- The parts of a client that a check looks at. -/
def parts (a : Api) : ProblemKind → List Culprit
  | .missingType => (a.methods.flatMap fun m => m.params ++ [m.response]).map .param
  | .nonFileFormData => (a.methods.flatMap fun m => m.params).map .param
  | .duplicateModelName => a.models.map .model
  | .unnamedModel => a.models.map .model

/-- The part fails the check. -/
inductive Fails (a : Api) : ProblemKind → Culprit → Prop
  | missingType {p : Param} (h : p.type = "") : Fails a .missingType (.param p)
  | nonFileFormData {p : Param} (hform : p.location = some .formData)
    (hfile : p.schemaType ≠ some "file") : Fails a .nonFileFormData (.param p)
  | duplicateModelName {m : Model} (hname : m.name ≠ "")
    (hcount : 1 < (a.models.map Model.name).count m.name) : Fails a .duplicateModelName (.model m)
  | unnamedModel {m : Model} (h : m.name = "") : Fails a .unnamedModel (.model m)

/-- Everything has a type, data of forms are files, and models have names of their own. -/
structure Faultless (a : Api) : Prop where
  typed : ∀ m ∈ a.methods, ∀ p ∈ m.params ++ [m.response], p.type ≠ ""
  files : ∀ m ∈ a.methods, ∀ p ∈ m.params, p.location = some .formData → p.schemaType = some "file"
  named : ∀ m ∈ a.models, m.name ≠ ""
  distinct : (a.models.map Model.name).Nodup

variable {a : Api}

theorem fails_param_iff {kind : ProblemKind} {p : Param} :
    a.Fails kind (.param p) ↔ kind = .missingType ∧ p.type = "" ∨
      kind = .nonFileFormData ∧ p.location = some .formData ∧ p.schemaType ≠ some "file" := by
  constructor
  · rintro (htype | ⟨hform, hfile⟩)
    · exact .inl ⟨rfl, htype⟩
    · exact .inr ⟨rfl, hform, hfile⟩
  · rintro (⟨rfl, htype⟩ | ⟨rfl, hform, hfile⟩)
    · exact .missingType htype
    · exact .nonFileFormData hform hfile

theorem fails_model_iff {kind : ProblemKind} {m : Model} :
    a.Fails kind (.model m) ↔ kind = .unnamedModel ∧ m.name = "" ∨
      kind = .duplicateModelName ∧ m.name ≠ "" ∧ 1 < (a.models.map Model.name).count m.name := by
  constructor
  · rintro (_ | _ | ⟨hname, hcount⟩ | hname)
    · exact .inr ⟨rfl, hname, hcount⟩
    · exact .inl ⟨rfl, hname⟩
  · rintro (⟨rfl, hname⟩ | ⟨rfl, hname, hcount⟩)
    · exact .unnamedModel hname
    · exact .duplicateModelName hname hcount

instance (kind : ProblemKind) : DecidablePred (a.Fails kind)
  | .param _ => decidable_of_iff _ fails_param_iff.symm
  | .model _ => decidable_of_iff _ fails_model_iff.symm

end Api

namespace Problem

/-- What the problems of one kind are about. -/
def culprits (kind : ProblemKind) (problems : List Problem) : List Culprit :=
  (problems.filter fun p => p.kind = kind).map (·.culprit)

variable {kind other : ProblemKind}

theorem culprits_append (problems more : List Problem) :
    culprits kind (problems ++ more) = culprits kind problems ++ culprits kind more := by
  simp [culprits]

theorem culprits_eq_nil {problems : List Problem} (h : ∀ p ∈ problems, p.kind ≠ kind) :
    culprits kind problems = [] := by
  simpa [culprits] using h

theorem culprits_flatMap {α : Type} (list : List α) (f : α → List Problem) :
    culprits kind (list.flatMap f) = list.flatMap fun a => culprits kind (f a) := by
  simp [culprits, List.filter_flatMap, List.map_flatMap]

theorem forall_culprits_eq_nil_iff {problems : List Problem} :
    (∀ kind, culprits kind problems = []) ↔ problems = [] := by
  constructor
  · intro h
    refine List.eq_nil_iff_forall_not_mem.mpr fun p hp => ?_
    have hmem : p.culprit ∈ culprits p.kind problems :=
      List.mem_map_of_mem (List.mem_filter.mpr ⟨hp, decide_eq_true rfl⟩)
    rw [h] at hmem
    cases hmem
  · rintro rfl kind
    rfl

/-- A check of a list finds the parts that fail it. -/
theorem culprits_check {α : Type} {fails : Culprit → Prop} [DecidablePred fails] {bad : α → Bool}
    {part : α → Culprit} (h : ∀ x, fails (part x) ↔ bad x) (list : List α) :
    culprits kind ((list.filter bad).map fun x => ⟨kind, part x⟩) =
      (list.map part).filter fun c => fails c := by
  have hbad : (fun c => decide (fails c)) ∘ part = bad := by
    funext x
    simp [h]
  have hkind : ∀ p ∈ (list.filter bad).map fun x => Problem.mk kind (part x), p.kind = kind :=
    List.forall_mem_map.mpr fun _ _ => rfl
  rw [culprits, List.filter_eq_self.mpr fun p hp => decide_eq_true (hkind p hp), List.map_map,
    List.filter_map, hbad]
  rfl

/-- It finds nothing that another check is about. -/
theorem culprits_check_other {α : Type} (h : other ≠ kind) {bad : α → Bool} {part : α → Culprit}
    {list : List α} : culprits kind ((list.filter bad).map fun x => ⟨other, part x⟩) = [] :=
  culprits_eq_nil (List.forall_mem_map.mpr fun _ _ => h)

end Problem

open Problem

namespace Method

theorem culprits_missingType (a : Api) (m : Method) :
    culprits .missingType m.problems =
      ((m.params ++ [m.response]).map Culprit.param).filter fun c => a.Fails .missingType c := by
  have hother : ProblemKind.nonFileFormData ≠ .missingType := by decide
  rw [problems, culprits_append, culprits_check_other hother, List.append_nil]
  exact culprits_check (fun p => by simp [Api.fails_param_iff, String.isEmpty_iff]) _

theorem culprits_nonFileFormData (a : Api) (m : Method) :
    culprits .nonFileFormData m.problems =
      (m.params.map Culprit.param).filter fun c => a.Fails .nonFileFormData c := by
  have hother : ProblemKind.missingType ≠ .nonFileFormData := by decide
  rw [problems, culprits_append, culprits_check_other hother, List.nil_append]
  exact culprits_check (fun p => by simp [Api.fails_param_iff]) _

theorem kind_of_mem_problems {m : Method} {p : Problem} (hp : p ∈ m.problems) :
    p.kind = .missingType ∨ p.kind = .nonFileFormData := by
  rcases List.mem_append.mp hp with hp | hp
  · obtain ⟨_, _, rfl⟩ := List.mem_map.mp hp
    exact .inl rfl
  · obtain ⟨_, _, rfl⟩ := List.mem_map.mp hp
    exact .inr rfl

end Method

namespace Api

variable (a : Api)

theorem culprits_problem? (kind : ProblemKind) (m : Model) :
    culprits kind (Model.problem? a.models m).toList =
      if a.Fails kind (.model m) then [.model m] else [] := by
  have hcount : (a.models.map Model.name).count m.name =
      a.models.countP fun other => other.name == m.name := by
    rw [List.count, List.countP_map]
    rfl
  unfold Model.problem?
  split
  · next hname =>
    have hempty := String.isEmpty_iff.mp hname
    cases kind <;> simp [culprits, fails_model_iff, hempty]
  · next hname =>
    have hsome : m.name ≠ "" := fun e => hname (String.isEmpty_iff.mpr e)
    split
    · next hdouble =>
      cases kind <;> simp [culprits, fails_model_iff, hsome, hcount, hdouble]
    · next hsingle =>
      simp [culprits, fails_model_iff, hsome, hcount, hsingle]

theorem culprits_models (kind : ProblemKind) (list : List Model) :
    culprits kind (list.filterMap (Model.problem? a.models)) =
      (list.map Culprit.model).filter fun c => a.Fails kind c := by
  induction list with
  | nil => rfl
  | cons m rest ih =>
    have hfirst : (m :: rest).filterMap (Model.problem? a.models) =
        (Model.problem? a.models m).toList ++ rest.filterMap (Model.problem? a.models) := by
      cases h : Model.problem? a.models m <;> simp [h]
    rw [hfirst, culprits_append, culprits_problem?, ih]
    by_cases h : a.Fails kind (.model m) <;> simp [h]

theorem culprits_methods_eq_nil {kind : ProblemKind} (htype : kind ≠ .missingType)
    (hform : kind ≠ .nonFileFormData) : culprits kind (a.methods.flatMap Method.problems) = [] := by
  refine culprits_eq_nil fun p hp => ?_
  obtain ⟨m, _, hp⟩ := List.mem_flatMap.mp hp
  rcases Method.kind_of_mem_problems hp with h | h
  · exact h ▸ htype.symm
  · exact h ▸ hform.symm

theorem culprits_models_eq_nil {kind : ProblemKind} (hname : kind ≠ .duplicateModelName)
    (hnone : kind ≠ .unnamedModel) :
    culprits kind (a.models.filterMap (Model.problem? a.models)) = [] := by
  simp [culprits_models, fails_model_iff, hname, hnone]

/-- The problems of a kind are about the parts that fail that check, in order, each of them once. -/
theorem culprits_verify (kind : ProblemKind) :
    culprits kind a.verify.problems = (a.parts kind).filter fun c => a.Fails kind c := by
  rw [verify, culprits_append]
  cases kind with
  | missingType =>
    rw [culprits_models_eq_nil a (by decide) (by decide), List.append_nil, culprits_flatMap, parts,
      List.map_flatMap, List.filter_flatMap]
    exact List.flatMap_congr fun m _ => m.culprits_missingType a
  | nonFileFormData =>
    rw [culprits_models_eq_nil a (by decide) (by decide), List.append_nil, culprits_flatMap, parts,
      List.map_flatMap, List.filter_flatMap]
    exact List.flatMap_congr fun m _ => m.culprits_nonFileFormData a
  | duplicateModelName =>
    rw [culprits_methods_eq_nil a (by decide) (by decide), culprits_models]
    rfl
  | unnamedModel =>
    rw [culprits_methods_eq_nil a (by decide) (by decide), culprits_models]
    rfl

variable {a}

theorem faultless_iff : a.Faultless ↔ ∀ kind, ∀ c ∈ a.parts kind, ¬a.Fails kind c := by
  have htyped : (∀ c ∈ a.parts .missingType, ¬a.Fails .missingType c) ↔
      ∀ m ∈ a.methods, ∀ p ∈ m.params ++ [m.response], p.type ≠ "" := by
    rw [parts, List.forall_mem_map, List.forall_mem_flatMap]
    simp [fails_param_iff]
  have hfiles : (∀ c ∈ a.parts .nonFileFormData, ¬a.Fails .nonFileFormData c) ↔
      ∀ m ∈ a.methods, ∀ p ∈ m.params, p.location = some .formData → p.schemaType = some "file" := by
    rw [parts, List.forall_mem_map, List.forall_mem_flatMap]
    simp [fails_param_iff]
  have hnamed : (∀ c ∈ a.parts .unnamedModel, ¬a.Fails .unnamedModel c) ↔
      ∀ m ∈ a.models, m.name ≠ "" := by
    rw [parts, List.forall_mem_map]
    simp [fails_model_iff]
  have hdistinct : (∀ c ∈ a.parts .duplicateModelName, ¬a.Fails .duplicateModelName c) ↔
      ∀ m ∈ a.models, m.name ≠ "" → (a.models.map Model.name).count m.name ≤ 1 := by
    rw [parts, List.forall_mem_map]
    simp [fails_model_iff]
  constructor
  · rintro h (_ | _ | _ | _)
    · exact htyped.mpr h.typed
    · exact hfiles.mpr h.files
    · exact hdistinct.mpr fun m _ _ => List.nodup_iff_count_le_one.mp h.distinct m.name
    · exact hnamed.mpr h.named
  · intro h
    have hnames := hnamed.mp (h _)
    refine ⟨htyped.mp (h _), hfiles.mp (h _), hnames, List.nodup_iff_count_le_one.mpr fun name => ?_⟩
    by_cases hname : name ∈ a.models.map Model.name
    · obtain ⟨m, hm, rfl⟩ := List.mem_map.mp hname
      exact hdistinct.mp (h _) m hm (hnames m hm)
    · rw [List.count_eq_zero_of_not_mem hname]
      exact Nat.zero_le 1

theorem verify_isEmpty_iff : a.verify.isEmpty ↔ a.Faultless := by
  rw [Report.isEmpty, List.isEmpty_iff, ← forall_culprits_eq_nil_iff, faultless_iff]
  simp only [culprits_verify, List.filter_eq_nil_iff, decide_eq_true_eq]

/-- A report is empty exactly when the client has no fault, and otherwise it tells of each check the parts
that fail it, in order and each of them once. The reports on several clients have no text exactly when each of
them is empty. -/
theorem verify_exact :
    (∀ a : Api, (a.verify.isEmpty ↔ a.Faultless) ∧
      ∀ kind, culprits kind a.verify.problems = (a.parts kind).filter fun c => a.Fails kind c) ∧
    ∀ apis : List Api, verifyAll apis = "" ↔ ∀ a ∈ apis, a.verify.isEmpty := by
  refine ⟨fun a => ⟨verify_isEmpty_iff, culprits_verify a⟩, fun apis => ?_⟩
  rw [← String.isEmpty_iff, verifyAll_isEmpty_iff]
  simp only [Report.isEmpty, List.isEmpty_iff]

end Api

end SwaggerClient
