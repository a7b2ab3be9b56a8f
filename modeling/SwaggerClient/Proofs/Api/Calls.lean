import SwaggerClient.Proofs.Api.Gathering
import SwaggerClient.Proofs.Model.Call

namespace SwaggerClient

namespace ModelSynthesis

variable {x : ModelSynthesis}

theorem fromSchema_yields {schema : Schema} {name : String} {made : Synthesized}
    (h : x.fromSchema schema name = .ok made) : x.Yields ⟨[], schema, name⟩ made :=
  ⟨x.depthBound schema, h⟩

/-- The models are those that the calls yield. -/
structure Gathers (x : ModelSynthesis) (calls : List Call) (models : List Model) : Prop where
  yields : ∀ c ∈ calls, ∃ made, x.Yields c made ∧ made.models ⊆ models
  comes : ∀ m ∈ models, ∃ c ∈ calls, ∃ made, x.Yields c made ∧ m ∈ made.models

theorem Gathers.nil : x.Gathers [] [] :=
  ⟨by simp, by simp⟩

theorem Gathers.single {c : Call} {made : Synthesized} (h : x.Yields c made) :
    x.Gathers [c] made.models where
  yields c' hc := by
    obtain rfl := List.mem_singleton.mp hc
    exact ⟨made, h, List.Subset.refl _⟩
  comes m hm := ⟨c, by simp, made, h, hm⟩

theorem Gathers.append {calls more : List Call} {models others : List Model}
    (h : x.Gathers calls models) (hmore : x.Gathers more others) :
    x.Gathers (calls ++ more) (models ++ others) where
  yields c hc := by
    rcases List.mem_append.mp hc with hc | hc
    · obtain ⟨made, hmade, hsub⟩ := h.yields c hc
      exact ⟨made, hmade, fun m hm => List.mem_append_left _ (hsub hm)⟩
    · obtain ⟨made, hmade, hsub⟩ := hmore.yields c hc
      exact ⟨made, hmade, fun m hm => List.mem_append_right _ (hsub hm)⟩
  comes m hm := by
    rcases List.mem_append.mp hm with hm | hm
    · obtain ⟨c, hc, hmade⟩ := h.comes m hm
      exact ⟨c, List.mem_append_left _ hc, hmade⟩
    · obtain ⟨c, hc, hmade⟩ := hmore.comes m hm
      exact ⟨c, List.mem_append_right _ hc, hmade⟩

theorem Gathers.flatMap {α β : Type} {list : List α} {made : List β} {calls : α → List Call}
    {models : β → List Model}
    (h : List.Forall₂ (fun a b => x.Gathers (calls a) (models b)) list made) :
    x.Gathers (list.flatMap calls) (made.flatMap models) := by
  induction h with
  | nil => exact .nil
  | cons hfirst _ ih => exact hfirst.append ih

end ModelSynthesis

namespace MethodSynthesis

variable (x : MethodSynthesis)

def paramCall (methodName : String) (p : Parameter) : Call :=
  ⟨[], p.effectiveSchema, x.target.rules.className [methodName, p.name.getD responseName] 0⟩

def paramCalls (methodName : String) (declared : List Parameter) : List Call :=
  declared.filterMap fun p =>
    (x.document.follow .parameter p).toOption.map (x.paramCall methodName)

def responseCall (methodName : String) (r : Response) : Call :=
  ⟨[], r.effectiveSchema, x.target.rules.className [methodName, responseName] 0⟩

def responseCalls (methodName : String) (op : Operation) : List Call :=
  (selectedResponse? op).toList.filterMap fun r =>
    (x.document.follow .response r).toOption.map (x.responseCall methodName)

def methodCalls : String × PathItem × HttpMethod × Operation → List Call
  | (path, item, httpMethod, op) =>
    let name := x.methodName path httpMethod op
    x.paramCalls name (item.parameters.getD [] ++ op.parameters.getD []) ++ x.responseCalls name op

def definitionCalls (definitions : List (String × Schema)) : List Call :=
  definitions.map fun (name, schema) => ⟨[], schema, name⟩

/-- The calls from which the models come. -/
def calls : List Call :=
  (operations x.document).flatMap x.methodCalls ++ definitionCalls x.document.contents.definitions

/-- The call is made in the run. -/
def Runs (c : Call) : Prop :=
  ∃ root ∈ x.calls, Relation.ReflTransGen x.models.Needs root c

variable {x} {methodName : String}

theorem params_gathers {declared : List Parameter} {made : List Param × List Model}
    (h : x.params methodName declared = .ok made) :
    x.models.Gathers (x.paramCalls methodName declared) made.2 := by
  rw [params_eq] at h
  obtain ⟨each, heach, rfl⟩ := map_eq_ok.mp h
  rw [paramCalls, List.filterMap_eq_flatMap_toList]
  refine .flatMap ((mapM_eq_ok.mp heach).imp fun first param hparam => ?_)
  obtain ⟨p, inner, hp, hinner, hmodels⟩ := declaredParam_eq_ok hparam
  have hcall : ((x.document.follow .parameter first).toOption.map (x.paramCall methodName)).toList =
      [x.paramCall methodName p] := by
    simp [hp, Except.toOption]
  rw [hcall, hmodels]
  exact .single (ModelSynthesis.fromSchema_yields hinner)

theorem method_gathers {path : String} {item : PathItem} {httpMethod : HttpMethod} {op : Operation}
    {made : Method × List Model} (h : x.method path item httpMethod op = .ok made) :
    x.models.Gathers (x.methodCalls (path, item, httpMethod, op)) made.2 := by
  obtain ⟨params, declared, response, hparams, hselected, hresponse, rfl⟩ := method_eq_ok.mp h
  obtain ⟨r, inner, hr, hinner, hmodels⟩ := declaredResponse_eq_ok hresponse
  have hcalls : x.responseCalls (x.methodName path httpMethod op) op =
      [x.responseCall (x.methodName path httpMethod op) r] := by
    simp [responseCalls, hselected, hr, Except.toOption]
  rw [methodCalls, hcalls, hmodels]
  exact (params_gathers hparams).append (.single (ModelSynthesis.fromSchema_yields hinner))

theorem methods_gathers {operations : List (String × PathItem × HttpMethod × Operation)}
    {made : List Method × List Model} (h : x.methods operations = .ok made) :
    x.models.Gathers (operations.flatMap x.methodCalls) made.2 := by
  rw [methods_eq] at h
  obtain ⟨each, heach, rfl⟩ := map_eq_ok.mp h
  exact .flatMap ((mapM_eq_ok.mp heach).imp fun _ _ hmethod => method_gathers hmethod)

theorem definitionModels_gathers {definitions : List (String × Schema)} {models : List Model}
    (h : x.definitionModels definitions = .ok models) :
    x.models.Gathers (definitionCalls definitions) models := by
  rw [definitionModels_eq] at h
  obtain ⟨each, heach, rfl⟩ := map_eq_ok.mp h
  rw [definitionCalls, List.map_eq_flatMap]
  refine .flatMap ((mapM_eq_ok.mp heach).imp fun _ _ hmade => ?_)
  exact .single (ModelSynthesis.fromSchema_yields hmade)

theorem synthesize_gathers {made : RawApi} (h : x.synthesize = .ok made) :
    x.models.Gathers x.calls made.models := by
  obtain ⟨⟨methods, models⟩, hmethods, h⟩ := bind_eq_ok.mp h
  obtain ⟨more, hmore, h⟩ := bind_eq_ok.mp h
  obtain rfl := Except.ok.inj h
  exact (methods_gathers hmethods).append (definitionModels_gathers hmore)

end MethodSynthesis

end SwaggerClient
