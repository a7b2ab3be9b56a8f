import SwaggerClient.Proofs.Model.Class

namespace SwaggerClient.ModelSynthesis

/-- The classes from that of a call upwards, each the superclass of the one before. The last one is `top`;
its superclass, if it has one, may be left out. -/
inductive Lineage (x : ModelSynthesis) : Call → List Class → Class → Prop
  | top {c : Call} {cls : Class} (makes : x.Makes c cls) : Lineage x c [cls] cls
  | under {c : Call} {cls top : Class} {r : String} {line : List Class} (makes : x.Makes c cls)
      (names : cls.superclass = some r) (above : Lineage x (x.superclassCall c r) line top) :
      Lineage x c (cls :: line) top

variable {x : ModelSynthesis} {c : Call} {cls top : Class} {line : List Class} {P : Schema → Prop}

open Document

/-- What a schema has altogether, its class has without the superclass, or the superclass has it. -/
theorem Makes.reaches_iff (hP : ∀ e, Part e P) (h : x.Makes c cls) :
    x.document.Reaches (.full none) c.schema P ↔
      P cls.full ∨
        ∃ r, cls.superclass = some r ∧
          x.document.Reaches (.full none) { reference := some r } P := by
  obtain ⟨base, hopens, hsuper⟩ := h.opens
  have hbase := expands_of_resolve hopens.resolvesBase
  have hfull := (expands_of_resolve hopens.resolvesFull).part_iff (hP _)
  rw [reaches_base_iff hP hbase, hfull, hsuper]
  cases hr : cls.superclass with
  | none => simp
  | some r =>
    rw [hr] at hsuper
    obtain ⟨m, hm, hmr⟩ := superclassReference_eq_some hsuper
    rw [reaches_member_iff hP hm hmr]
    simp

theorem Lineage.reaches_iff (hP : ∀ e, Part e P) (h : x.Lineage c line top) :
    x.document.Reaches (.full none) c.schema P ↔
      (∃ cls ∈ line, P cls.full) ∨
        ∃ r, top.superclass = some r ∧
          x.document.Reaches (.full none) { reference := some r } P := by
  induction h with
  | top makes => simpa using makes.reaches_iff hP
  | @under c cls top r line makes names above ih =>
    have hcall : (x.superclassCall c r).schema = { reference := some r } := rfl
    rw [hcall] at ih
    rw [makes.reaches_iff hP, names]
    simp [ih, or_assoc]

theorem Lineage.makes (h : x.Lineage c line top) : ∃ cls, x.Makes c cls := by
  cases h with
  | top makes => exact ⟨_, makes⟩
  | under makes => exact ⟨_, makes⟩

/-- What a class of the lineage declares, the first one has. -/
theorem Lineage.has (h : x.Lineage c line top) (hcls : x.Makes c cls) {above : Class}
    (habove : above ∈ line) {key : String} (hkey : key ∈ above.keys) :
    ∃ p ∈ cls.model.properties ++ cls.model.inheritedProperties,
      p.specName = key ∧ p.name = x.target.rules.identifier [key] x.snake := by
  induction h generalizing cls with
  | top makes =>
    obtain rfl := List.mem_singleton.mp habove
    obtain rfl := hcls.unique makes
    exact hcls.has hkey
  | under makes names rest ih =>
    obtain rfl := hcls.unique makes
    rcases List.mem_cons.mp habove with rfl | habove
    · exact hcls.has hkey
    · obtain ⟨parent, hparent⟩ := rest.makes
      obtain ⟨p, hp, hnames⟩ := ih hparent habove
      have hinherited := (hcls.inherits names hparent).2
      rw [← hinherited] at hp
      exact ⟨p, List.mem_append_right _ hp, hnames⟩

/-- The run of the call makes the class. -/
def MakesInRun (x : ModelSynthesis) (c : Call) (cls : Class) : Prop :=
  ∃ c', Relation.ReflTransGen x.Needs c c' ∧ x.Makes c' cls

/-- What a class inherits, some classes in its run declare. The model that passes it on is that of a call in the
run, so the induction is on the run. -/
theorem Makes.inherited_eq (h : x.Makes c cls) :
    ∃ beyond : List Class, (cls.superclass = none → beyond = []) ∧
      (∀ above ∈ beyond, x.MakesInRun c above) ∧
        cls.model.inheritedProperties = beyond.flatMap (·.model.properties) := by
  obtain ⟨_, hyields⟩ := h.yields
  have hdeep := hyields.acc.transGen
  clear hyields
  induction hdeep generalizing cls with
  | intro c _ ih =>
    cases hr : cls.superclass with
    | none => exact ⟨[], fun _ => rfl, by simp, (h.of_superclass_none hr).2⟩
    | some r =>
      obtain ⟨inner, hinner, _, hinherited⟩ := h.of_superclass hr
      rw [hinherited]
      rcases hmodels : inner.models with _ | ⟨m | m, rest⟩
      · exact ⟨[], nofun, by simp, rfl⟩
      · obtain ⟨c', above, hreach, habove, rfl⟩ := hinner.origin (hmodels ▸ List.mem_cons_self)
        have hneeds := Relation.TransGen.head' (h.needs_superclass hr) hreach
        obtain ⟨beyond, _, hmade, heq⟩ := ih c' (Relation.TransGen.swap _ _ hneeds) habove
        refine ⟨above :: beyond, nofun, List.forall_mem_cons.mpr ⟨?_, ?_⟩, ?_⟩
        · exact ⟨c', hneeds.to_reflTransGen, habove⟩
        · intro other hother
          obtain ⟨c'', hreach', hother⟩ := hmade other hother
          exact ⟨c'', hneeds.to_reflTransGen.trans hreach', hother⟩
        · rw [passedOn, heq, List.flatMap_cons]
      · exact ⟨[], nofun, by simp, rfl⟩

/-- What the first class of a lineage has, the classes of the lineage declare, nearest first, and then some
`beyond` the last of them. -/
theorem Lineage.properties_eq (h : x.Lineage c line top) (hcls : x.Makes c cls) :
    ∃ beyond : List Class, (top.superclass = none → beyond = []) ∧
      (∀ above ∈ line ++ beyond, x.MakesInRun c above) ∧
        cls.model.properties ++ cls.model.inheritedProperties =
          (line ++ beyond).flatMap (·.model.properties) := by
  induction h generalizing cls with
  | top makes =>
    obtain rfl := hcls.unique makes
    obtain ⟨beyond, hwhole, hmade, hinherited⟩ := hcls.inherited_eq
    refine ⟨beyond, hwhole, List.forall_mem_cons.mpr ⟨⟨_, .refl, hcls⟩, hmade⟩, ?_⟩
    rw [hinherited, List.singleton_append, List.flatMap_cons]
  | under makes names rest ih =>
    obtain rfl := hcls.unique makes
    obtain ⟨parent, hparent⟩ := rest.makes
    obtain ⟨beyond, hwhole, hmade, heq⟩ := ih hparent
    refine ⟨beyond, hwhole, List.forall_mem_cons.mpr ⟨⟨_, .refl, hcls⟩, fun above habove => ?_⟩, ?_⟩
    · obtain ⟨c', hreach, habove⟩ := hmade above habove
      exact ⟨c', .head (hcls.needs_superclass names) hreach, habove⟩
    · rw [(hcls.inherits names hparent).2, heq, List.cons_append, List.flatMap_cons]

theorem mem_of_mem_initializerProperties {own inherited : List Property} {p : Property}
    (h : p ∈ initializerProperties own inherited) : p ∈ own ++ inherited := by
  rcases List.mem_append.mp h with h | h
  · exact List.mem_append_left _ h
  · exact List.mem_append_right _ (List.mem_of_mem_filter h)

/-- Every property that is inherited or not is needed, unless one of another key has its name. -/
theorem Makes.initializes (h : x.Makes c cls) {p : Property}
    (hp : p ∈ cls.model.properties ++ cls.model.inheritedProperties) :
    (∃ q ∈ cls.model.initializerProperties, q.specName = p.specName) ∨
      ∃ other ∈ cls.keys, other ≠ p.specName ∧
        x.target.rules.identifier [other] x.snake = p.name := by
  rw [h.initializer]
  rcases List.mem_append.mp hp with hown | hinherited
  · exact .inl ⟨p, List.mem_append_left _ hown, rfl⟩
  · by_cases hshadowed : ∃ q ∈ cls.model.properties, q.name = p.name
    · obtain ⟨q, hq, hname⟩ := hshadowed
      by_cases hspec : q.specName = p.specName
      · exact .inl ⟨q, List.mem_append_left _ hq, hspec⟩
      · obtain ⟨hkey, hdeclares⟩ := h.declares hq
        exact .inr ⟨q.specName, hkey, hspec, hdeclares.name.symm.trans hname⟩
    · refine .inl ⟨p, List.mem_append_right _ ?_, rfl⟩
      apply List.mem_filter.mpr
      refine ⟨hinherited, ?_⟩
      simpa using hshadowed

def petsJson : Json :=
  .object [
    ("paths", .object []),
    ("definitions", .object [
      ("Animal", .object [
        ("required", .array [.string "id"]),
        ("properties", .object [
          ("id", .object [("type", .string "string")]),
          ("first_name", .object [("type", .string "string")])])]),
      ("Feline", .object [
        ("allOf", .array [.object [("$ref", .string "#/definitions/Animal")]])])])]

def petAnimal : Schema :=
  { required := some ["id"]
    properties := some [("id", { type := some "string" }), ("first_name", { type := some "string" })] }

/-- A document in which felines are animals and nothing else. -/
def pets : Document where
  raw := petsJson.settle
  contents := { definitions := [("Animal", petAnimal), ("Feline", { allOf := some [animal] })] }
  reads := rfl
  distinct := petsJson.settle_distinct

def petModels : ModelSynthesis := ⟨pets, Language.swift.target ⟨[]⟩, false⟩

/-- What a dog has beside an animal. -/
def dogAlone : Schema :=
  { required := some ["first_name"], properties := some [("bark", { type := some "string" })] }

def dog : Schema := { dogAlone with allOf := some [animal] }

theorem dog_lineage :
    ∃ m m', petModels.Makes ⟨[], dog, "Dog"⟩ ⟨some "#/definitions/Animal", dogAlone, m⟩ ∧
      petModels.Lineage ⟨[], dog, "Dog"⟩
        [⟨some "#/definitions/Animal", dogAlone, m⟩, ⟨none, petAnimal, m'⟩] ⟨none, petAnimal, m'⟩ := by
  obtain ⟨made, hmade⟩ : ∃ made, petModels.run 3 ⟨[], dog, "Dog"⟩ = .ok made := ⟨_, rfl⟩
  have hdog : petModels.Opens ⟨[], dog, "Dog"⟩ dog dogAlone := ⟨nofun, rfl, rfl⟩
  obtain ⟨m, _, _, hmakes⟩ := Yields.makes ⟨3, hmade⟩ hdog rfl
  obtain ⟨inner, hinner, _⟩ := hmakes.of_superclass rfl
  have hanimal : petModels.Opens (petModels.superclassCall ⟨[], dog, "Dog"⟩ "#/definitions/Animal")
      petAnimal petAnimal := ⟨by decide, rfl, rfl⟩
  obtain ⟨m', _, _, hparent⟩ := hinner.makes hanimal rfl
  exact ⟨m, m', hmakes, .under hmakes rfl (.top hparent)⟩

def cat : Schema :=
  { properties := some [("firstName", { type := some "integer" })], allOf := some [animal] }

def lion : Schema :=
  { properties := some [("mane", { type := some "string" })]
    allOf := some [{ reference := some "#/definitions/Feline" }] }

/-- What a schema declares is needed to make an object of the model, and required there if the schema
requires it. -/
def Agrees (complete : Schema) (m : ObjectModel) : Prop :=
  ∀ key ∈ Entries.keys (complete.properties.getD []),
    ∃ p ∈ m.initializerProperties,
      p.specName = key ∧ (p.isRequired ↔ key ∈ complete.required.getD [])

instance (complete : Schema) (m : ObjectModel) : Decidable (Agrees complete m) :=
  inferInstanceAs (Decidable (∀ _ ∈ _, ∃ _ ∈ _, _))

/-- The schema becomes a class that does not agree with the complete flattening. -/
def Disagrees (x : ModelSynthesis) (s : Schema) (name : String) : Prop :=
  ∃ m rest complete properties,
    x.fromSchema s name = .ok ⟨⟨name, none⟩, .object m :: rest⟩ ∧
      x.document.resolve (.full none) s = .ok complete ∧ complete.shape = .object properties ∧
        ¬Agrees complete m

end SwaggerClient.ModelSynthesis
