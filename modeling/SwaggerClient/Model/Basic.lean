namespace SwaggerClient

/-- A type where it is used. Only texts carry a format. -/
structure TypeUse where
  name : String
  format : Option String := none
deriving DecidableEq, Repr

/-- A property of an object. -/
structure Property where
  name : String
  specName : String
  type : String
  format : Option String
  isRequired : Bool
  description : Option String
deriving DecidableEq, Repr

/-- The two names of a subclass. -/
structure SubclassName where
  name : String
  specName : String
deriving DecidableEq, Repr

/-- A class-like model. -/
structure ObjectModel where
  name : String
  /-- The name in the document. -/
  specName : String
  superclassName : Option String
  /-- The properties that are not inherited. -/
  properties : List Property
  /-- The properties of the superclasses, nearest first. -/
  inheritedProperties : List Property
  /-- The properties that are needed to make an object: those that are not inherited, and behind them the inherited
  ones whose names these leave free. -/
  initializerProperties : List Property
  /-- Models of the objects that properties declare in place. -/
  nestedModels : List ObjectModel
  subclasses : List SubclassName
  discriminator : Option String
  description : Option String
deriving Repr, Inhabited

/-- A value of an enumeration: its identifier, its name in capitals and its source text. -/
structure EnumCase where
  name : String
  capitals : String
  literal : String
deriving DecidableEq, Repr

/-- An enumeration of values of one type. -/
structure EnumModel where
  name : String
  type : String
  cases : List EnumCase
deriving DecidableEq, Repr

/-- A model. -/
inductive Model where
  | object (model : ObjectModel)
  | enumeration (model : EnumModel)
deriving Repr

namespace ObjectModel

mutual

def decEq : (a b : ObjectModel) → Decidable (a = b)
  | ⟨n, s, u, p, i, z, m, c, d, t⟩, ⟨n', s', u', p', i', z', m', c', d', t'⟩ =>
    match decEqList m m' with
    | .isFalse h => .isFalse fun e => h (by injection e)
    | .isTrue h =>
      if hs : ((n, s, u), (p, i, z), (c, d, t)) = ((n', s', u'), (p', i', z'), (c', d', t')) then
        .isTrue (by simp only [Prod.mk.injEq] at hs; simp [hs, h])
      else
        .isFalse fun e => hs (by injection e; simp [*])
termination_by structural a => a

def decEqList : (a b : List ObjectModel) → Decidable (a = b)
  | [], [] => .isTrue rfl
  | [], _ :: _ => .isFalse fun e => nomatch e
  | _ :: _, [] => .isFalse fun e => nomatch e
  | x :: xs, y :: ys =>
    match decEq x y with
    | .isFalse h => .isFalse fun e => h (by injection e)
    | .isTrue h =>
      match decEqList xs ys with
      | .isFalse h' => .isFalse fun e => h' (by injection e)
      | .isTrue h' => .isTrue (by rw [h, h'])
termination_by structural a => a

end

instance : DecidableEq ObjectModel := decEq

end ObjectModel

deriving instance DecidableEq for Model

namespace Property

/-- The property without its description. -/
def bare (p : Property) : Property :=
  { p with description := none }

/-- The same names, type and format; descriptions may differ, and so may whether it is required. -/
def sameSignature (p q : Property) : Bool :=
  p.name == q.name && p.specName == q.specName && p.type == q.type && p.format == q.format

end Property

namespace ObjectModel

mutual

/-- The model without descriptions, at every depth. -/
def bare : ObjectModel → ObjectModel
  | ⟨name, specName, superclassName, properties, inherited, initializer, nested, subclasses,
      discriminator, _⟩ =>
    { name, specName, superclassName
      properties := properties.map Property.bare
      inheritedProperties := inherited.map Property.bare
      initializerProperties := initializer.map Property.bare
      nestedModels := bareList nested
      subclasses, discriminator
      description := none }
termination_by structural m => m

def bareList : List ObjectModel → List ObjectModel
  | [] => []
  | m :: rest => bare m :: bareList rest
termination_by structural models => models

end

end ObjectModel

namespace Model

def name : Model → String
  | .object m => m.name
  | .enumeration m => m.name

/-- The model without descriptions, at every depth. -/
def bare : Model → Model
  | .object m => .object m.bare
  | .enumeration m => .enumeration m

end Model

end SwaggerClient
