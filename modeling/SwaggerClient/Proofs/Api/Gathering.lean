import SwaggerClient.Api.Methods
import SwaggerClient.Proofs.Traversal

namespace SwaggerClient.MethodSynthesis

variable {x : MethodSynthesis} {methodName : String}

/-- Parts that were made with their models, and all models in a row. -/
def gather {α : Type} (each : List (α × List Model)) : List α × List Model :=
  (each.map (·.1), each.flatMap (·.2))

/-- A parameter that is declared, perhaps by a reference. -/
def declaredParam (x : MethodSynthesis) (methodName : String) (declared : Parameter) :
    Except SynthesisError (Param × List Model) :=
  x.document.follow .parameter declared >>= x.param methodName

def methodOf (x : MethodSynthesis) :
    String × PathItem × HttpMethod × Operation → Except SynthesisError (Method × List Model)
  | (path, item, httpMethod, op) => x.method path item httpMethod op

def definitionOf (x : MethodSynthesis) : String × Schema → Except SynthesisError Synthesized
  | (name, schema) => x.models.fromSchema schema name

/-- The response that an operation declares for a successful call, perhaps by a reference. -/
def declaredResponse (x : MethodSynthesis) (methodName : String) (declared : Response) :
    Except SynthesisError (Param × List Model) :=
  x.document.follow .response declared >>= x.response methodName

theorem params_eq (declared : List Parameter) :
    x.params methodName declared = (declared.mapM (x.declaredParam methodName)).map gather := by
  induction declared with
  | nil => rfl
  | cons first rest ih =>
    rw [List.mapM_cons, params, ih, declaredParam]
    cases x.document.follow .parameter first with
    | error e => rfl
    | ok p =>
      simp only [ok_bind]
      cases x.param methodName p with
      | error e => rfl
      | ok made =>
        cases rest.mapM (x.declaredParam methodName) <;> rfl

theorem methods_eq (operations : List (String × PathItem × HttpMethod × Operation)) :
    x.methods operations = (operations.mapM x.methodOf).map gather := by
  induction operations with
  | nil => rfl
  | cons first rest ih =>
    obtain ⟨path, item, httpMethod, op⟩ := first
    rw [List.mapM_cons, methods, ih, methodOf]
    cases x.method path item httpMethod op with
    | error e => rfl
    | ok made => cases rest.mapM x.methodOf <;> rfl

theorem definitionModels_eq (definitions : List (String × Schema)) :
    x.definitionModels definitions =
      (definitions.mapM x.definitionOf).map fun each => each.flatMap (·.models) := by
  induction definitions with
  | nil => rfl
  | cons first rest ih =>
    obtain ⟨name, schema⟩ := first
    rw [List.mapM_cons, definitionModels, ih, definitionOf]
    cases x.models.fromSchema schema name with
    | error e => rfl
    | ok made => cases rest.mapM x.definitionOf <;> rfl

theorem methods_append {operations more : List (String × PathItem × HttpMethod × Operation)}
    {made others : List Method × List Model} (h : x.methods operations = .ok made)
    (hmore : x.methods more = .ok others) :
    x.methods (operations ++ more) = .ok (made.1 ++ others.1, made.2 ++ others.2) := by
  rw [methods_eq] at h hmore ⊢
  obtain ⟨each, heach, rfl⟩ := map_eq_ok.mp h
  obtain ⟨last, hlast, rfl⟩ := map_eq_ok.mp hmore
  rw [mapM_append_eq_ok heach hlast, Except.map, gather, List.map_append, List.flatMap_append]
  rfl

theorem declaredParam_eq_ok {declared : Parameter} {made : Param × List Model}
    (h : x.declaredParam methodName declared = .ok made) :
    ∃ p inner, x.document.follow .parameter declared = .ok p ∧
      x.models.fromSchema p.effectiveSchema
        (x.target.rules.className [methodName, p.name.getD responseName] 0) = .ok inner ∧
      made.2 = inner.models := by
  obtain ⟨p, hp, h⟩ := bind_eq_ok.mp h
  obtain ⟨inner, hinner, h⟩ := bind_eq_ok.mp h
  obtain rfl := Except.ok.inj h
  exact ⟨p, inner, hp, hinner, rfl⟩

theorem declaredResponse_eq_ok {declared : Response} {made : Param × List Model}
    (h : x.declaredResponse methodName declared = .ok made) :
    ∃ r inner, x.document.follow .response declared = .ok r ∧
      x.models.fromSchema r.effectiveSchema
        (x.target.rules.className [methodName, responseName] 0) = .ok inner ∧
      made.2 = inner.models := by
  obtain ⟨r, hr, h⟩ := bind_eq_ok.mp h
  obtain ⟨inner, hinner, h⟩ := bind_eq_ok.mp h
  obtain rfl := Except.ok.inj h
  exact ⟨r, inner, hr, hinner, rfl⟩

/-- A method is made of its parameters and of the response that describes a successful call. -/
theorem method_eq_ok {path : String} {item : PathItem} {httpMethod : HttpMethod} {op : Operation}
    {made : Method × List Model} :
    x.method path item httpMethod op = .ok made ↔
      ∃ params declared response,
        x.params (x.methodName path httpMethod op)
          (item.parameters.getD [] ++ op.parameters.getD []) = .ok params ∧
        selectedResponse? op = some declared ∧
        x.declaredResponse (x.methodName path httpMethod op) declared = .ok response ∧
        made = (⟨x.methodPath path, httpMethod, x.methodName path httpMethod op,
          op.description <|> op.summary, params.1, response.1, isStreaming op, op.security⟩,
          params.2 ++ response.2) := by
  constructor
  · intro h
    obtain ⟨params, hparams, h⟩ := bind_eq_ok.mp h
    cases hselected : selectedResponse? op with
    | none => simp [hselected, throw_eq_error] at h
    | some declared =>
      simp only [hselected] at h
      obtain ⟨r, hr, h⟩ := bind_eq_ok.mp h
      obtain ⟨response, hresponse, h⟩ := bind_eq_ok.mp h
      obtain rfl := Except.ok.inj h
      refine ⟨params, declared, response, hparams, rfl, ?_, rfl⟩
      rw [declaredResponse, hr, ok_bind, hresponse]
  · rintro ⟨params, declared, response, hparams, hselected, hresponse, rfl⟩
    obtain ⟨r, hr, hresponse⟩ := bind_eq_ok.mp hresponse
    simp only [method, hparams, ok_bind, hselected, hr, hresponse]
    rfl

end SwaggerClient.MethodSynthesis
