import SwaggerClient.Proofs.Api.Gathering
import SwaggerClient.Proofs.Model.Extension

namespace SwaggerClient.MethodSynthesis

variable {x : MethodSynthesis} {methodName : String} {d' : Document} (h : x.document.Extends d')

include h

theorem declaredParam_extends (declared : Parameter) :
    Gives (x.declaredParam methodName declared)
      ({ x with document := d' }.declaredParam methodName declared) :=
  (h.follow_parameter declared).bind fun _ =>
    (ModelSynthesis.fromSchema_extends (x := x.models) h _ _).bind fun _ => Gives.stepwise.refl _

theorem declaredResponse_extends (declared : Response) :
    Gives (x.declaredResponse methodName declared)
      ({ x with document := d' }.declaredResponse methodName declared) :=
  (h.follow_response declared).bind fun _ =>
    (ModelSynthesis.fromSchema_extends (x := x.models) h _ _).bind fun _ => Gives.stepwise.refl _

theorem params_extends (declared : List Parameter) :
    Gives (x.params methodName declared) ({ x with document := d' }.params methodName declared) := by
  rw [params_eq, params_eq]
  exact (mapM_gives fun p _ => declaredParam_extends h p).map gather

theorem methodOf_extends (operation : String × PathItem × HttpMethod × Operation) :
    Gives (x.methodOf operation) ({ x with document := d' }.methodOf operation) := by
  obtain ⟨path, item, httpMethod, op⟩ := operation
  intro made hmade
  obtain ⟨params, declared, response, hparams, hselected, hresponse, rfl⟩ := method_eq_ok.mp hmade
  have hpath : ({ x with document := d' } : MethodSynthesis).methodPath path = x.methodPath path := by
    simp only [methodPath, fullBasePath, h.basePath]
  refine method_eq_ok.mpr ⟨params, declared, response, ?_, hselected, ?_, by rw [hpath]; rfl⟩
  · exact params_extends h _ _ hparams
  · exact declaredResponse_extends h _ _ hresponse

theorem methods_extends (operations : List (String × PathItem × HttpMethod × Operation)) :
    Gives (x.methods operations) ({ x with document := d' }.methods operations) := by
  rw [methods_eq, methods_eq]
  exact (mapM_gives fun operation _ => methodOf_extends h operation).map gather

theorem definitionModels_extends (definitions : List (String × Schema)) :
    Gives (x.definitionModels definitions)
      ({ x with document := d' }.definitionModels definitions) := by
  rw [definitionModels_eq, definitionModels_eq]
  exact (mapM_gives fun definition _ =>
    ModelSynthesis.fromSchema_extends (x := x.models) h definition.2 definition.1).map _

end SwaggerClient.MethodSynthesis
