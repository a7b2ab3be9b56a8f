import SwaggerClient.Model.Basic

namespace SwaggerClient

namespace Model

/-- Keeps the first of the models that differ in descriptions alone; `seen` holds the kept ones
without descriptions. -/
def dedupeAfter (seen : List Model) : List Model → List Model
  | [] => []
  | m :: rest =>
    if m.bare ∈ seen then dedupeAfter seen rest else m :: dedupeAfter (seen ++ [m.bare]) rest

/-- Keeps the first of the models that differ in descriptions alone. -/
def dedupe (models : List Model) : List Model :=
  dedupeAfter [] models

def objects (models : List Model) : List ObjectModel :=
  models.filterMap fun
    | .object m => some m
    | .enumeration _ => none

def enumerations (models : List Model) : List EnumModel :=
  models.filterMap fun
    | .object _ => none
    | .enumeration m => some m

end Model

namespace ObjectModel

/-- The models of a list that name `name` as their superclass. -/
def subclassesOf (models : List ObjectModel) (name : String) : List SubclassName :=
  (models.filter fun m => m.superclassName == some name).map fun m => ⟨m.name, m.specName⟩

/-- Every model of a list with its subclasses in the list. -/
def linkSubclasses (models : List ObjectModel) : List ObjectModel :=
  models.map fun m => { m with subclasses := subclassesOf models m.name }

end ObjectModel

end SwaggerClient
