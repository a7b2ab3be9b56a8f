import SwaggerClient.Api.Write
import SwaggerClient.Json.Print

namespace SwaggerClient

/-- What is wrong with a part of a client description. -/
inductive ProblemKind where
  /-- A parameter or response has no type. -/
  | missingType
  /-- A form-data parameter is not a file. -/
  | nonFileFormData
  /-- Another model has the same name. -/
  | duplicateModelName
  /-- A model has no name. -/
  | unnamedModel
deriving DecidableEq, Repr

def ProblemKind.text : ProblemKind → String
  | .missingType => "a parameter or response with no type"
  | .nonFileFormData => "a formData parameter that is not a file"
  | .duplicateModelName => "a model whose name is used by another model"
  | .unnamedModel => "a model with no name"

/-- The part of a client description that a problem is about. -/
inductive Culprit where
  | param (p : Param)
  | model (m : Model)
deriving DecidableEq

def Culprit.dump : Culprit → String
  | .param p => p.toJson.pretty
  | .model m => m.toJson.pretty

/-- A problem of one part. -/
structure Problem where
  kind : ProblemKind
  culprit : Culprit
deriving DecidableEq

/-- The problems of one API. -/
structure Report where
  apiName : String
  problems : List Problem
deriving DecidableEq

namespace Report

def isEmpty (r : Report) : Bool :=
  r.problems.isEmpty

def separator : String := "---------------------------"

/-- The text of a report; one without problems has none. -/
def text (r : Report) : String :=
  if r.problems.isEmpty then ""
  else
    r.problems.foldl
      (fun t p => t ++ "\nFound " ++ p.kind.text ++ ": " ++ p.culprit.dump ++ "\n" ++ separator)
      ("Problems with " ++ r.apiName ++ ": ")

end Report

namespace Method

/-- The parameters and the response without a type, then the form-data parameters that are no files. -/
def problems (m : Method) : List Problem :=
  ((m.params ++ [m.response]).filter fun p => p.type.isEmpty).map
    (fun p => ⟨.missingType, .param p⟩) ++
  (m.params.filter fun p => p.location == some .formData && p.schemaType != some "file").map
    (fun p => ⟨.nonFileFormData, .param p⟩)

end Method

namespace Model

def problem? (models : List Model) (m : Model) : Option Problem :=
  if m.name.isEmpty then some ⟨.unnamedModel, .model m⟩
  else if 1 < models.countP (fun other => other.name == m.name) then
    some ⟨.duplicateModelName, .model m⟩
  else none

end Model

namespace Api

def models (a : Api) : List Model :=
  a.objectModels.map .object ++ a.enumModels.map .enumeration

def verify (a : Api) : Report :=
  ⟨a.name, a.methods.flatMap Method.problems ++ a.models.filterMap (Model.problem? a.models)⟩

def verifyAll (apis : List Api) : String :=
  Text.join "\n" (((apis.map verify).filter fun r => !r.isEmpty).map Report.text)

end Api

end SwaggerClient
