import Mathlib.Logic.Relation
import SwaggerClient.Proofs.Model.Classification

namespace SwaggerClient

/-- A call of the synthesis: the names of the object models under construction, innermost first, a
schema, and a name for its model unless a reference names it. -/
structure Call where
  building : List String
  schema : Schema
  defaultName : String

namespace ModelSynthesis

def ask (again : Step) (c : Call) : Except SynthesisError Synthesized :=
  again c.building c.schema c.defaultName

section Calls

variable (x : ModelSynthesis)

def run (depth : Nat) (c : Call) : Except SynthesisError Synthesized :=
  ask (x.within depth) c

/-- What a call yields, given depth enough. -/
def Yields (c : Call) (made : Synthesized) : Prop :=
  ∃ depth, x.run depth c = .ok made

def nameOf (c : Call) : String :=
  x.modelName c.schema c.defaultName

/-- No model under construction answers the call. It looks into its schema, of which `base` is left when
references are followed, and `full` when compositions are replaced, too, all but the superclass. -/
structure Opens (c : Call) (base full : Schema) : Prop where
  unguarded : c.schema.reference.isSome → x.nameOf c ∉ c.building
  resolvesBase : x.document.resolve .onlyReferences c.schema = .ok base
  resolvesFull : x.document.resolve (.full (superclassReference base)) base = .ok full

def propertyCall (c : Call) (key : String) (schema : Schema) : Call :=
  ⟨x.nameOf c :: c.building, schema,
    x.target.rules.className [x.nameOf c, key] (if schema.isInlineObject then 1 else 0)⟩

def superclassCall (c : Call) (reference : String) : Call :=
  ⟨x.nameOf c :: c.building, { reference := some reference }, ""⟩

/-- The calls nested in a call that looks into its schema, in the order in which they are made. -/
def nested (c : Call) (superclass : Option String) (full : Schema) : List Call :=
  match full.shape with
  | .enumeration _ _ => []
  | .array items => items.toList.map fun s => ⟨c.building, s, x.nameOf c⟩
  | .object properties =>
    properties.map (fun p => x.propertyCall c p.1 p.2) ++ superclass.toList.map (x.superclassCall c)
  | .primitive _ _ =>
    (full.additional.bind Additional.value?).toList.map fun s => ⟨c.building, s, ""⟩

/-- The second call is nested in the first. -/
def Needs (c c' : Call) : Prop :=
  ∃ base full, x.Opens c base full ∧ c' ∈ x.nested c (superclassReference base) full

/-- The run of the first call comes to the second: it is nested in the first, and the calls before it
yield something. -/
def Enters (c c' : Call) : Prop :=
  ∃ base full before after, x.Opens c base full ∧
    x.nested c (superclassReference base) full = before ++ c' :: after ∧
      ∀ b ∈ before, ∃ made, x.Yields b made

end Calls

variable {x : ModelSynthesis} {c c' : Call} {base full : Schema} {again again' : Step}

theorem Enters.needs (h : x.Enters c c') : x.Needs c c' := by
  obtain ⟨base, full, before, after, hopens, hnested, _⟩ := h
  exact ⟨base, full, hopens, by simp [hnested]⟩

theorem Opens.unique {base' full' : Schema} (h : x.Opens c base full)
    (h' : x.Opens c base' full') : base = base' ∧ full = full' := by
  obtain rfl := Except.ok.inj (h.resolvesBase.symm.trans h'.resolvesBase)
  exact ⟨rfl, Except.ok.inj (h.resolvesFull.symm.trans h'.resolvesFull)⟩

theorem superclassReference_eq_some {base : Schema} {r : String}
    (h : superclassReference base = some r) : ∃ m ∈ base.allOf.getD [], m.reference = some r :=
  List.exists_of_findSome?_eq_some h

theorem step_eq (x : ModelSynthesis) (again : Step) (c : Call) :
    ask (x.step again) c =
      if c.schema.reference.isSome && c.building.head? == some (x.nameOf c) then
        .ok ⟨⟨x.nameOf c, none⟩, []⟩
      else if c.schema.reference.isSome && c.building.contains (x.nameOf c) then
        .error (.cycle (c.building.reverse.dropWhile (fun n => n != x.nameOf c) ++ [x.nameOf c]))
      else
        x.document.resolve .onlyReferences c.schema >>= fun base =>
          x.document.resolve (.full (superclassReference base)) base >>= fun full =>
            x.fromFull again c.building (x.nameOf c) (specName c.schema c.defaultName)
              (superclassReference base) full := rfl

theorem step_of_opens (h : x.Opens c base full) (again : Step) :
    ask (x.step again) c =
      x.fromFull again c.building (x.nameOf c) (specName c.schema c.defaultName)
        (superclassReference base) full := by
  have hmem : ¬(c.schema.reference.isSome && c.building.contains (x.nameOf c)) = true := by
    simpa using h.unguarded
  have hlast : ¬(c.schema.reference.isSome &&
      c.building.head? == some (x.nameOf c)) = true := by
    intro hl
    obtain ⟨hr, hlast⟩ := Bool.and_eq_true_iff.mp hl
    exact h.unguarded hr (List.mem_of_head? (eq_of_beq hlast))
  rw [step_eq, if_neg hlast, if_neg hmem, h.resolvesBase, ok_bind, h.resolvesFull, ok_bind]

theorem resolve_ne_endless (d : Document) (e : Expansion) (s : Schema) :
    d.resolve e s ≠ .error .endless :=
  Document.resolveWithin_ne_endless d e s le_rfl

/-- What a call does before it makes anything of its schema: it is answered or stopped by the names under
construction, fails to follow references, or opens its schema. -/
inductive Starts (x : ModelSynthesis) (c : Call) : Prop
  | answered {r : String} (reference : c.schema.reference = some r)
      (last : c.building.head? = some (x.target.rules.classNameOfReference r))
      (gives : ∀ again, ask (x.step again) c =
        .ok ⟨⟨x.target.rules.classNameOfReference r, none⟩, []⟩)
  | stopped {r : String} {names : List String} (reference : c.schema.reference = some r)
      (mem : x.target.rules.classNameOfReference r ∈ c.building)
      (gives : ∀ again, ask (x.step again) c = .error (.cycle names))
  | unresolved {error : SynthesisError}
      (fails : x.document.resolve .onlyReferences c.schema = .error error ∨
        ∃ base, x.document.resolve .onlyReferences c.schema = .ok base ∧
          x.document.resolve (.full (superclassReference base)) base = .error error)
      (gives : ∀ again, ask (x.step again) c = .error error)
  | opens {base full : Schema} (opens : x.Opens c base full)

theorem nameOf_of_reference {r : String} (hr : c.schema.reference = some r) :
    x.nameOf c = x.target.rules.classNameOfReference r := by
  simp [nameOf, modelName, hr]

theorem starts (x : ModelSynthesis) (c : Call) : x.Starts c := by
  by_cases hlast : (c.schema.reference.isSome && c.building.head? == some (x.nameOf c)) = true
  · obtain ⟨hsome, hhead⟩ := Bool.and_eq_true_iff.mp hlast
    obtain ⟨r, hr⟩ := Option.isSome_iff_exists.mp hsome
    rw [nameOf_of_reference hr] at hhead
    refine .answered hr (eq_of_beq hhead) fun again => ?_
    rw [step_eq, if_pos hlast, nameOf_of_reference hr]
  by_cases hmem : (c.schema.reference.isSome && c.building.contains (x.nameOf c)) = true
  · obtain ⟨hsome, hcontains⟩ := Bool.and_eq_true_iff.mp hmem
    obtain ⟨r, hr⟩ := Option.isSome_iff_exists.mp hsome
    rw [nameOf_of_reference hr] at hcontains
    exact .stopped hr (by simpa using hcontains) fun again =>
      (step_eq x again c).trans ((if_neg hlast).trans (if_pos hmem))
  cases hbase : x.document.resolve .onlyReferences c.schema with
  | error error =>
    refine .unresolved (.inl hbase) fun again => ?_
    rw [step_eq, if_neg hlast, if_neg hmem, hbase]
    rfl
  | ok base =>
    cases hfull : x.document.resolve (.full (superclassReference base)) base with
    | error error =>
      refine .unresolved (.inr ⟨base, hbase, hfull⟩) fun again => ?_
      rw [step_eq, if_neg hlast, if_neg hmem, hbase, ok_bind, hfull]
      rfl
    | ok full => exact .opens ⟨by simpa using hmem, hbase, hfull⟩

/-- A call that does not look into its schema has its result at once, and no models in it. -/
theorem opens_or_settled (x : ModelSynthesis) (c : Call) :
    (∃ base full, x.Opens c base full) ∨
      ∃ result, result ≠ .error .endless ∧ (∀ made, result = .ok made → made.models = []) ∧
        ∀ again, ask (x.step again) c = result := by
  cases x.starts c with
  | answered _ _ hgives =>
    refine .inr ⟨_, ?_, ?_, hgives⟩
    · simp
    · rintro made ⟨⟩
      rfl
  | stopped _ _ hgives => exact .inr ⟨_, by simp, by simp, hgives⟩
  | @unresolved error hfails hgives =>
    have herror : error ≠ .endless := by
      rintro rfl
      rcases hfails with hbase | ⟨_, _, hfull⟩
      · exact resolve_ne_endless _ _ _ hbase
      · exact resolve_ne_endless _ _ _ hfull
    exact .inr ⟨.error error, by simpa using herror, by simp, hgives⟩
  | @opens base full hopens => exact .inl ⟨base, full, hopens⟩

section Shapes

variable {building : List String} {name specName : String} {superclass : Option String}

theorem fromFull_array {items : Schema} (hs : full.shape = .array (some items)) (again : Step) :
    x.fromFull again building name specName superclass full =
      again building items name >>= fun inner =>
        x.target.arrayName inner.type.name >>= fun arrayName =>
          .ok ⟨⟨arrayName, inner.type.format⟩, inner.models⟩ := by
  simp only [fromFull, hs]
  rfl

theorem fromFull_properties {properties : List (String × Schema)}
    (hs : full.shape = .object properties) (again : Step) :
    x.fromFull again building name specName superclass full =
      x.objectModels again (name :: building) name specName full properties superclass >>=
        fun models => .ok ⟨⟨name, none⟩, models⟩ := by
  simp only [fromFull, hs]
  rfl

/-- The type of a map or of a single value, when the models of the former's values are known. -/
def primitive (x : ModelSynthesis) (full : Schema) (type format : Option String)
    (models : List Model) : Except SynthesisError Synthesized :=
  x.primitiveName full type format full.additional >>= fun typeName =>
    .ok ⟨⟨typeName, if type == some "string" then format else none⟩, models⟩

theorem fromFull_map {type format : Option String} {value : Schema}
    (hs : full.shape = .primitive type format) (ha : full.additional = some (.schema value))
    (again : Step) :
    x.fromFull again building name specName superclass full =
      again building value "" >>= fun inner => x.primitive full type format inner.models := by
  simp only [fromFull, hs, ha, primitive]
  cases again building value "" <;> rfl

theorem fromFull_value {type format : Option String} (hs : full.shape = .primitive type format)
    (ha : full.additional.bind Additional.value? = none) (again : Step) :
    x.fromFull again building name specName superclass full =
      x.primitive full type format [] := by
  simp only [fromFull, hs, primitive]
  cases ha' : full.additional with
  | none => rfl
  | some a =>
    cases a with
    | allowed any => rfl
    | schema value => simp [ha', Additional.value?] at ha

/-- What is made of a map or of a single value has the type that the table names. -/
theorem fromFull_primitive {type format : Option String} {made : Synthesized}
    (hs : full.shape = .primitive type format)
    (h : x.fromFull again building name specName superclass full = .ok made) :
    ∃ models, x.primitive full type format models = .ok made := by
  cases ha : full.additional.bind Additional.value? with
  | none =>
    rw [fromFull_value hs ha] at h
    exact ⟨[], h⟩
  | some value =>
    rw [fromFull_map hs (Schema.additional_bind_value.mp ha)] at h
    obtain ⟨inner, _, h⟩ := bind_eq_ok.mp h
    exact ⟨inner.models, h⟩

end Shapes

/-- A nested call is for the items of an array, the values of a map, a property of an object or the
superclass of one. -/
theorem mem_nested_iff {superclass : Option String} :
    c' ∈ x.nested c superclass full ↔
      (∃ items, full.shape = .array (some items) ∧ c' = ⟨c.building, items, x.nameOf c⟩) ∨
      (∃ type format value, full.shape = .primitive type format ∧
        full.additional = some (.schema value) ∧ c' = ⟨c.building, value, ""⟩) ∨
      ∃ properties, full.shape = .object properties ∧
        ((∃ p ∈ properties, c' = x.propertyCall c p.1 p.2) ∨
          ∃ r, superclass = some r ∧ c' = x.superclassCall c r) := by
  cases hs : full.shape with
  | enumeration type values => simp [nested, hs]
  | array items => cases items <;> simp [nested, hs]
  | object properties =>
    have hproperty : (∃ p ∈ properties, x.propertyCall c p.1 p.2 = c') ↔
        ∃ p ∈ properties, c' = x.propertyCall c p.1 p.2 :=
      exists_congr fun p => and_congr_right fun _ => eq_comm
    have hsuper : (∃ r, superclass = some r ∧ x.superclassCall c r = c') ↔
        ∃ r, superclass = some r ∧ c' = x.superclassCall c r :=
      exists_congr fun r => and_congr_right fun _ => eq_comm
    simp only [nested, hs, List.mem_append, List.mem_map, Option.mem_toList, hproperty, hsuper]
    simp
  | primitive type format =>
    have hvalue : (∃ value, full.additional = some (.schema value) ∧ ⟨c.building, value, ""⟩ = c') ↔
        ∃ value, full.additional = some (.schema value) ∧ c' = ⟨c.building, value, ""⟩ :=
      exists_congr fun value => and_congr_right fun _ => eq_comm
    simp only [nested, hs, List.mem_map, Option.mem_toList, Schema.additional_bind_value, hvalue]
    simp

section Stepwise

variable {R : {α : Type} → Except SynthesisError α → Except SynthesisError α → Prop}
  (hR : Stepwise R) (hagain : ∀ c, R (ask again c) (ask again' c))

include hR hagain

theorem members_stepwise (building : List String) (owner : String) (full : Schema)
    (properties : List (String × Schema)) :
    R (x.members again building owner full properties)
      (x.members again' building owner full properties) := by
  induction properties with
  | nil => exact hR.refl _
  | cons p rest ih =>
    have hmember : R (x.member again building owner full p.1 p.2)
        (x.member again' building owner full p.1 p.2) :=
      hR.bind (hagain ⟨building, p.2, _⟩) fun _ => hR.refl _
    exact hR.bind hmember fun _ => hR.bind ih fun _ => hR.refl _

theorem parent_stepwise (building : List String) (superclass : Option String) :
    R (parent again building superclass) (parent again' building superclass) := by
  cases superclass with
  | none => exact hR.refl _
  | some r => exact hR.bind (hagain ⟨building, { reference := some r }, ""⟩) fun _ => hR.refl _

theorem fromFull_stepwise (building : List String) (name specName : String)
    (superclass : Option String) (full : Schema) :
    R (x.fromFull again building name specName superclass full)
      (x.fromFull again' building name specName superclass full) := by
  cases hs : full.shape with
  | enumeration baseType values =>
    simp only [fromFull, hs]
    exact hR.refl _
  | array items =>
    cases items with
    | none =>
      simp only [fromFull, hs]
      exact hR.refl _
    | some items =>
      rw [fromFull_array hs, fromFull_array hs]
      exact hR.bind (hagain ⟨building, items, name⟩) fun _ => hR.refl _
  | object properties =>
    rw [fromFull_properties hs, fromFull_properties hs]
    have hmembers := members_stepwise (x := x) hR hagain (name :: building) name full properties
    have hparent := parent_stepwise hR hagain (name :: building) superclass
    exact hR.bind (hR.bind hmembers fun _ => hR.bind hparent fun _ => hR.refl _) fun _ => hR.refl _
  | primitive type format =>
    cases ha : full.additional.bind Additional.value? with
    | none =>
      rw [fromFull_value hs ha, fromFull_value hs ha]
      exact hR.refl _
    | some value =>
      have ha' := Schema.additional_bind_value.mp ha
      rw [fromFull_map hs ha', fromFull_map hs ha']
      exact hR.bind (hagain ⟨building, value, ""⟩) fun _ => hR.refl _

end Stepwise

theorem step_atMost (hagain : ∀ c, AtMost (ask again c) (ask again' c)) (c : Call) :
    AtMost (ask (x.step again) c) (ask (x.step again') c) := by
  rcases x.opens_or_settled c with ⟨base, full, hopens⟩ | ⟨result, _, _, hstep⟩
  · rw [step_of_opens hopens, step_of_opens hopens]
    exact fromFull_stepwise AtMost.stepwise hagain _ _ _ _ _
  · rw [hstep, hstep]
    exact .refl _

theorem run_atMost (x : ModelSynthesis) {depth more : Nat} (h : depth ≤ more) (c : Call) :
    AtMost (x.run depth c) (x.run more c) := by
  have hsucc (depth : Nat) : ∀ c, AtMost (x.run depth c) (x.run (depth + 1) c) := by
    induction depth with
    | zero => exact fun _ => .inl rfl
    | succ depth ih => exact step_atMost ih
  induction h with
  | refl => exact .refl _
  | step _ ih => exact ih.trans (hsucc _ c)

theorem Yields.unique {made made' : Synthesized} (h : x.Yields c made) (h' : x.Yields c made') :
    made = made' := by
  obtain ⟨depth, h⟩ := h
  obtain ⟨depth', h'⟩ := h'
  have hle := (run_atMost x (le_max_left depth depth') c).eq (by simp [h])
  have hle' := (run_atMost x (le_max_right depth depth') c).eq (by simp [h'])
  exact Except.ok.inj (h.symm.trans (hle.trans (hle'.symm.trans h')))

theorem Yields.run_eq {made : Synthesized} (h : x.Yields c made) {depth : Nat}
    (hends : x.run depth c ≠ .error .endless) : x.run depth c = .ok made := by
  obtain ⟨more, h⟩ := h
  have hle := (run_atMost x (le_max_left depth more) c).eq hends
  have hle' := (run_atMost x (le_max_right depth more) c).eq (by simp [h])
  exact hle.trans (hle'.symm.trans h)

theorem subset_takeNested (models : List Model) :
    models.tail ⊆ (takeNested models).2 ∧ (takeNested models).2 ⊆ models := by
  cases models with
  | nil => simp [takeNested]
  | cons first rest =>
    cases first with
    | object m => exact ⟨List.Subset.refl _, List.subset_cons_self _ _⟩
    | enumeration m => exact ⟨List.subset_cons_self _ _, List.Subset.refl _⟩

/-- A property that an object model declares: its names are made of its key, and it is required where
the schema of the model says so. -/
structure Declares (x : ModelSynthesis) (full : Schema) (key : String) (p : Property) : Prop where
  name : p.name = x.target.rules.identifier [key] x.snake
  specName : p.specName = key
  isRequired : p.isRequired = full.isRequired key

/-- A member that is made for a property, with the models of a nested call beside it, all of them but
perhaps the first. -/
structure MadeFor (x : ModelSynthesis) (again : Step) (c : Call) (full : Schema)
    (p : String × Schema) (member : Member) : Prop where
  declares : x.Declares full p.1 member.property
  yields : ∃ inner, ask again (x.propertyCall c p.1 p.2) = .ok inner ∧
    inner.models.tail ⊆ member.siblings ∧ member.siblings ⊆ inner.models

theorem member_run {p : String × Schema} {made : Member}
    (h : x.member again (x.nameOf c :: c.building) (x.nameOf c) full p.1 p.2 = .ok made) :
    x.MadeFor again c full p made := by
  obtain ⟨inner, hinner, h⟩ := bind_eq_ok.mp h
  cases hs : p.2.isInlineObject with
  | false =>
    simp only [hs] at h
    obtain rfl := Except.ok.inj h
    exact ⟨⟨rfl, rfl, rfl⟩, inner, by simpa [ask, propertyCall, hs] using hinner,
      List.tail_subset _, List.Subset.refl _⟩
  | true =>
    simp only [hs] at h
    obtain rfl := Except.ok.inj h
    exact ⟨⟨rfl, rfl, rfl⟩, inner, by simpa [ask, propertyCall, hs] using hinner,
      subset_takeNested _⟩

theorem members_run {properties : List (String × Schema)} {made : List Member}
    (h : x.members again (x.nameOf c :: c.building) (x.nameOf c) full properties = .ok made) :
    (∀ p ∈ properties, ∃ member ∈ made, x.MadeFor again c full p member) ∧
      ∀ member ∈ made, ∃ p ∈ properties, x.MadeFor again c full p member := by
  induction properties generalizing made with
  | nil =>
    obtain rfl := Except.ok.inj h
    simp
  | cons p rest ih =>
    obtain ⟨first, hfirst, h⟩ := bind_eq_ok.mp h
    obtain ⟨more, hmore, h⟩ := bind_eq_ok.mp h
    obtain rfl := Except.ok.inj h
    have hp := member_run hfirst
    obtain ⟨hof, hto⟩ := ih hmore
    refine ⟨fun q hq => ?_, fun member hmember => ?_⟩
    · rcases List.mem_cons.mp hq with rfl | hq
      · exact ⟨first, by simp, hp⟩
      · obtain ⟨member, hmember, hq⟩ := hof q hq
        exact ⟨member, List.mem_cons_of_mem _ hmember, hq⟩
    · rcases List.mem_cons.mp hmember with rfl | hmember
      · exact ⟨p, by simp, hp⟩
      · obtain ⟨q, hq, hmade⟩ := hto member hmember
        exact ⟨q, List.mem_cons_of_mem _ hq, hmade⟩

theorem parent_run {superclass : Option String} {made : Parent}
    (h : parent again (x.nameOf c :: c.building) superclass = .ok made) :
    (superclass = none → made = ⟨none, [], []⟩) ∧
      ∀ r, superclass = some r → ∃ inner, ask again (x.superclassCall c r) = .ok inner ∧
        made = ⟨some inner.type.name, passedOn inner.models, inner.models⟩ := by
  cases superclass with
  | none =>
    obtain rfl := Except.ok.inj h
    exact ⟨fun _ => rfl, by simp⟩
  | some r =>
    obtain ⟨inner, hinner, h⟩ := bind_eq_ok.mp h
    obtain rfl := Except.ok.inj h
    refine ⟨by simp, fun r' hr => ⟨inner, ?_, rfl⟩⟩
    obtain rfl := Option.some.inj hr
    exact hinner

/-- The models of an object: the first tells of its members and of its superclass, and those that they
need come behind it. -/
structure Assembled (x : ModelSynthesis) (c : Call) (members : List Member) (parent : Parent)
    (m : ObjectModel) (rest : List Model) : Prop where
  name : m.name = x.nameOf c
  superclassName : m.superclassName = parent.name
  properties : m.properties = ownProperties (members.map (·.property)) parent.properties
  inherited : m.inheritedProperties = parent.properties
  initializer :
    m.initializerProperties = initializerProperties m.properties m.inheritedProperties
  nested : m.nestedModels = members.filterMap (·.nested)
  behind : rest = members.flatMap (·.siblings) ++ parent.models

theorem objectModels_run {specName : String} {properties : List (String × Schema)}
    {superclass : Option String} {models : List Model}
    (h : x.objectModels again (x.nameOf c :: c.building) (x.nameOf c) specName full properties
      superclass = .ok models) :
    ∃ members made m rest,
      x.members again (x.nameOf c :: c.building) (x.nameOf c) full properties = .ok members ∧
        parent again (x.nameOf c :: c.building) superclass = .ok made ∧
          models = .object m :: rest ∧ x.Assembled c members made m rest := by
  obtain ⟨members, hmembers, h⟩ := bind_eq_ok.mp h
  obtain ⟨made, hmade, h⟩ := bind_eq_ok.mp h
  obtain rfl := Except.ok.inj h
  exact ⟨members, made, _, _, hmembers, hmade, rfl, rfl, rfl, rfl, rfl, rfl, rfl, rfl⟩

/-- Where a call yields something, every call nested in it does, and the models of the nested call, all
but perhaps the first, are among those behind the first of the outer one. -/
theorem fromFull_nested {specName : String} {superclass : Option String} {made : Synthesized}
    (h : x.fromFull again c.building (x.nameOf c) specName superclass full = .ok made)
    (hc : c' ∈ x.nested c superclass full) :
    ∃ inner, ask again c' = .ok inner ∧ inner.models.tail ⊆ made.models.tail := by
  rcases mem_nested_iff.mp hc with ⟨items, hs, rfl⟩ | ⟨type, format, value, hs, ha, rfl⟩ |
    ⟨properties, hs, hc⟩
  · rw [fromFull_array hs] at h
    obtain ⟨inner, hinner, h⟩ := bind_eq_ok.mp h
    obtain ⟨arrayName, _, h⟩ := bind_eq_ok.mp h
    obtain rfl := Except.ok.inj h
    exact ⟨inner, hinner, List.Subset.refl _⟩
  · rw [fromFull_map hs ha] at h
    obtain ⟨inner, hinner, h⟩ := bind_eq_ok.mp h
    obtain ⟨typeName, _, h⟩ := bind_eq_ok.mp h
    obtain rfl := Except.ok.inj h
    exact ⟨inner, hinner, List.Subset.refl _⟩
  · rw [fromFull_properties hs] at h
    obtain ⟨models, hmodels, h⟩ := bind_eq_ok.mp h
    obtain rfl := Except.ok.inj h
    obtain ⟨members, made, m, rest, hmembers, hparent, rfl, hm⟩ := objectModels_run hmodels
    obtain rfl := hm.behind
    rcases hc with ⟨p, hp, rfl⟩ | ⟨r, hr, rfl⟩
    · obtain ⟨member, hmember, _, inner, hinner, htail, _⟩ := (members_run hmembers).1 p hp
      refine ⟨inner, hinner, fun model hmodel => List.mem_append_left _ ?_⟩
      exact List.mem_flatMap.mpr ⟨member, hmember, htail hmodel⟩
    · obtain ⟨inner, hinner, rfl⟩ := (parent_run hparent).2 r hr
      refine ⟨inner, hinner, fun model hmodel => List.mem_append_right _ ?_⟩
      exact List.mem_of_mem_tail hmodel

theorem run_succ_of_opens (h : x.Opens c base full) (depth : Nat) :
    x.run (depth + 1) c =
      x.fromFull (x.within depth) c.building (x.nameOf c) (specName c.schema c.defaultName)
        (superclassReference base) full :=
  step_of_opens h (x.within depth)

theorem run_needs {depth : Nat} {made : Synthesized} (h : x.run (depth + 1) c = .ok made)
    (hc : x.Needs c c') :
    ∃ inner, x.run depth c' = .ok inner ∧ inner.models.tail ⊆ made.models.tail := by
  obtain ⟨base, full, hopens, hmem⟩ := hc
  rw [run_succ_of_opens hopens] at h
  exact fromFull_nested h hmem

theorem Yields.run_succ {made : Synthesized} (h : x.Yields c made) :
    ∃ depth, x.run (depth + 1) c = .ok made := by
  obtain ⟨depth, h⟩ := h
  cases depth with
  | zero => cases h
  | succ depth => exact ⟨depth, h⟩

/-- Where a call yields something, so does every call in its run, and the models of the latter, all but
perhaps the first, are among those behind the first of the former. -/
theorem Yields.reaches {made : Synthesized} (h : x.Yields c made)
    (hc : Relation.ReflTransGen x.Needs c c') :
    ∃ inner, x.Yields c' inner ∧ inner.models.tail ⊆ made.models.tail := by
  induction hc with
  | refl => exact ⟨made, h, List.Subset.refl _⟩
  | tail _ hneeds ih =>
    obtain ⟨inner, hinner, htail⟩ := ih
    obtain ⟨depth, hrun⟩ := hinner.run_succ
    obtain ⟨more, hmore, htail'⟩ := run_needs hrun hneeds
    exact ⟨more, ⟨depth, hmore⟩, fun m hm => htail (htail' hm)⟩

/-- The run of a call that yields something is finitely deep. -/
theorem Yields.acc {made : Synthesized} (h : x.Yields c made) :
    Acc (fun c' c => x.Needs c c') c := by
  obtain ⟨depth, h⟩ := h
  induction depth generalizing c made with
  | zero => cases h
  | succ depth ih =>
    refine Acc.intro c fun c' hc => ?_
    obtain ⟨inner, hinner, _⟩ := run_needs h hc
    exact ih hinner

/-- The default name is not looked at for a schema with a reference. -/
theorem run_of_reference {s : Schema} (hs : s.reference.isSome) (depth : Nat)
    (building : List String) (name name' : String) :
    x.run depth ⟨building, s, name⟩ = x.run depth ⟨building, s, name'⟩ := by
  obtain ⟨r, hr⟩ := Option.isSome_iff_exists.mp hs
  cases depth with
  | zero => rfl
  | succ depth =>
    have hname : x.nameOf ⟨building, s, name⟩ = x.nameOf ⟨building, s, name'⟩ := by
      rw [nameOf_of_reference hr, nameOf_of_reference hr]
    have hspec : specName s name = specName s name' := by
      simp [specName, hr]
    show ask (x.step _) _ = ask (x.step _) _
    rw [step_eq, step_eq, hname, hspec]

theorem Yields.of_reference {building : List String} {s : Schema} {name : String}
    {made : Synthesized} (hs : s.reference.isSome) (h : x.Yields ⟨building, s, name⟩ made)
    (name' : String) : x.Yields ⟨building, s, name'⟩ made := by
  obtain ⟨depth, h⟩ := h
  exact ⟨depth, by rw [← h, run_of_reference hs]⟩

end ModelSynthesis

end SwaggerClient
