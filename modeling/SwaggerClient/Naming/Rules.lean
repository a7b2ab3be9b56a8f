import SwaggerClient.Naming.Words

namespace SwaggerClient

/-- The reserved words of a target language. -/
structure NamingRules where
  /-- Identifiers that have to stand in back-quotes. -/
  identifiers : List String
  /-- Class names that clash with types of the language. -/
  classNames : List String
deriving DecidableEq, Repr

namespace NamingRules

/-- The reserved words of a language that states none of its own. -/
def standard : NamingRules :=
  ⟨["default", "internal", "as"], ["Type", "Error", "ErrorResponse"]⟩

/-- No digit comes first, and a reserved word stands in back-quotes. -/
def escape (rules : NamingRules) (name : String) : String :=
  let escaped :=
    match name.toList.head? with
    | some c => if c.isDigit then "_" ++ name else name
    | none => name
  if escaped ∈ rules.identifiers then "`" ++ escaped ++ "`" else escaped

def identifier (rules : NamingRules) (components : List String) (snake : Bool) : String :=
  let joined := Text.join "/" components
  rules.escape (if snake then Naming.snakeCase joined else Naming.camelCase joined)

def caseName (rules : NamingRules) (components : List String) : String :=
  rules.escape (Naming.upperSnakeCase (Text.join "/" components))

def capitalized (rules : NamingRules) (components : List String) : String :=
  Naming.capitalize (rules.identifier components false)

/-- The class name made of all components; a reserved one ends in `_`. -/
def fullClassName (rules : NamingRules) (components : List String) : String :=
  let name := rules.capitalized components
  if name ∈ rules.classNames then name ++ "_" else name

/-- The class name made of the components after the first `skip`, or of all of them if that is a
reserved name. -/
def className (rules : NamingRules) (components : List String) (skip : Nat) : String :=
  let name := rules.capitalized (components.drop skip)
  if name ∈ rules.classNames then rules.fullClassName components else name

/-- The last segment of a reference. -/
def lastSegment (reference : String) : String :=
  ((Text.split '/' reference).getLast?).getD reference

def classNameOfReference (rules : NamingRules) (reference : String) : String :=
  rules.className [lastSegment reference] 0

end NamingRules

end SwaggerClient
