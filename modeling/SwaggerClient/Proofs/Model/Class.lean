import SwaggerClient.Proofs.Model.Call

namespace SwaggerClient

/-- What a call makes of a schema that is an object without its superclass: `full` is the schema without
references, compositions and superclass. -/
structure Class where
  superclass : Option String
  full : Schema
  model : ObjectModel

def Class.keys (cls : Class) : List String :=
  Entries.keys (cls.full.properties.getD [])

namespace ModelSynthesis

/-- The call makes the class. -/
structure Makes (x : ModelSynthesis) (c : Call) (cls : Class) : Prop where
  opens : ∃ base, x.Opens c base cls.full ∧ superclassReference base = cls.superclass
  object : ∃ properties, cls.full.shape = .object properties
  yields : ∃ rest, x.Yields c ⟨⟨x.nameOf c, none⟩, .object cls.model :: rest⟩

variable {x : ModelSynthesis} {c : Call} {base full : Schema}

/-- The model of the class is the first that the call yields. -/
theorem Makes.model_eq {cls : Class} (h : x.Makes c cls) {type : TypeUse} {m : ObjectModel}
    {rest : List Model} (hm : x.Yields c ⟨type, .object m :: rest⟩) : cls.model = m := by
  obtain ⟨rest', hyields⟩ := h.yields
  have hmade := hyields.unique hm
  simp only [Synthesized.mk.injEq, List.cons.injEq, Model.object.injEq] at hmade
  exact hmade.2.1

theorem Makes.unique {cls cls' : Class} (h : x.Makes c cls) (h' : x.Makes c cls') : cls = cls' := by
  obtain ⟨base, hopens, hsuper⟩ := h.opens
  obtain ⟨base', hopens', hsuper'⟩ := h'.opens
  obtain ⟨rest, hyields⟩ := h'.yields
  obtain ⟨rfl, hfull⟩ := hopens.unique hopens'
  have hmodel : cls.model = cls'.model := h.model_eq hyields
  cases cls
  cases cls'
  simp_all

/-- How a call comes by the models of an object. -/
theorem Yields.object {made : Synthesized} (h : x.Yields c made) (hopens : x.Opens c base full)
    {properties : List (String × Schema)} (hs : full.shape = .object properties) :
    ∃ depth members made' m rest,
      x.members (x.within depth) (x.nameOf c :: c.building) (x.nameOf c) full properties =
          .ok members ∧
        parent (x.within depth) (x.nameOf c :: c.building) (superclassReference base) =
            .ok made' ∧
          made = ⟨⟨x.nameOf c, none⟩, .object m :: rest⟩ ∧ x.Assembled c members made' m rest := by
  obtain ⟨depth, h⟩ := h.run_succ
  rw [run_succ_of_opens hopens, fromFull_properties hs] at h
  obtain ⟨models, hmodels, h⟩ := bind_eq_ok.mp h
  obtain ⟨members, made', m, rest, hmembers, hparent, rfl, hm⟩ := objectModels_run hmodels
  exact ⟨depth, members, made', m, rest, hmembers, hparent, (Except.ok.inj h).symm, hm⟩

theorem Yields.makes {made : Synthesized} (h : x.Yields c made) (hopens : x.Opens c base full)
    {properties : List (String × Schema)} (hs : full.shape = .object properties) :
    ∃ m rest, made = ⟨⟨x.nameOf c, none⟩, .object m :: rest⟩ ∧
      x.Makes c ⟨superclassReference base, full, m⟩ := by
  obtain ⟨_, _, _, m, rest, _, _, rfl, _⟩ := h.object hopens hs
  exact ⟨m, rest, rfl, ⟨base, hopens, rfl⟩, ⟨properties, hs⟩, rest, h⟩

section Makes

variable {cls : Class} (h : x.Makes c cls)

include h

theorem Makes.assembled :
    ∃ depth properties members made rest,
      cls.full.properties = some properties ∧
        x.members (x.within depth) (x.nameOf c :: c.building) (x.nameOf c) cls.full properties =
            .ok members ∧
          parent (x.within depth) (x.nameOf c :: c.building) cls.superclass = .ok made ∧
            x.Assembled c members made cls.model rest := by
  obtain ⟨base, hopens, hsuper⟩ := h.opens
  obtain ⟨properties, hs⟩ := h.object
  obtain ⟨rest, hyields⟩ := h.yields
  obtain ⟨depth, members, made, m, rest', hmembers, hparent, hmade, hm⟩ := hyields.object hopens hs
  have hproperties := (Schema.shape_eq_object_iff.mp hs).2.1
  obtain rfl : cls.model = m := h.model_eq (hmade ▸ hyields)
  rw [hsuper] at hparent
  exact ⟨depth, properties, members, made, rest', hproperties, hmembers, hparent, hm⟩

theorem Makes.name : cls.model.name = x.nameOf c := by
  obtain ⟨_, _, _, _, _, _, _, _, hm⟩ := h.assembled
  exact hm.name

theorem Makes.initializer :
    cls.model.initializerProperties =
      initializerProperties cls.model.properties cls.model.inheritedProperties := by
  obtain ⟨_, _, _, _, _, _, _, _, hm⟩ := h.assembled
  exact hm.initializer

/-- A property of its own that a class has is declared by its schema. -/
theorem Makes.declares {p : Property} (hp : p ∈ cls.model.properties) :
    p.specName ∈ cls.keys ∧ x.Declares cls.full p.specName p := by
  obtain ⟨_, properties, members, made, _, hproperties, hmembers, _, hm⟩ := h.assembled
  have hdeclared : p ∈ members.map (·.property) := by
    rw [hm.properties] at hp
    exact List.mem_of_mem_filter hp
  obtain ⟨member, hmember, rfl⟩ := List.mem_map.mp hdeclared
  obtain ⟨entry, hentry, hmade⟩ := (members_run hmembers).2 member hmember
  have hspec := hmade.declares.specName
  refine ⟨?_, hspec ▸ hmade.declares⟩
  rw [hspec, Class.keys, hproperties]
  exact Entries.mem_keys hentry

/-- What the schema of a class declares, the class has: as a property of its own, or as one that it
inherits with the same signature. -/
theorem Makes.has {key : String} (hkey : key ∈ cls.keys) :
    ∃ p ∈ cls.model.properties ++ cls.model.inheritedProperties,
      p.specName = key ∧ p.name = x.target.rules.identifier [key] x.snake := by
  obtain ⟨_, properties, members, made, _, hproperties, hmembers, _, hm⟩ := h.assembled
  rw [Class.keys, hproperties] at hkey
  obtain ⟨entry, hentry, rfl⟩ := List.mem_map.mp hkey
  obtain ⟨member, hmember, hmade⟩ := (members_run hmembers).1 entry hentry
  have hname := hmade.declares.name
  have hspec := hmade.declares.specName
  by_cases hinherited : ∃ i ∈ made.properties, i.sameSignature member.property
  · obtain ⟨i, hi, hsame⟩ := hinherited
    simp only [Property.sameSignature, Bool.and_eq_true, beq_iff_eq] at hsame
    obtain ⟨⟨⟨hiname, hispec⟩, _⟩, _⟩ := hsame
    refine ⟨i, ?_, hispec.trans hspec, hiname.trans hname⟩
    rw [hm.inherited]
    exact List.mem_append_right _ hi
  · have hown : member.property ∈ cls.model.properties := by
      rw [hm.properties]
      apply List.mem_filter.mpr
      refine ⟨List.mem_map_of_mem hmember, ?_⟩
      simpa using hinherited
    exact ⟨member.property, List.mem_append_left _ hown, hspec, hname⟩

theorem Makes.of_superclass_none (hnone : cls.superclass = none) :
    cls.model.superclassName = none ∧ cls.model.inheritedProperties = [] := by
  obtain ⟨_, _, _, made, _, _, _, hparent, hm⟩ := h.assembled
  obtain rfl := (parent_run hparent).1 hnone
  exact ⟨hm.superclassName, hm.inherited⟩

/-- A class takes the name of its superclass, and what it inherits, from what the call for the superclass
yields. -/
theorem Makes.of_superclass {r : String} (hr : cls.superclass = some r) :
    ∃ inner, x.Yields (x.superclassCall c r) inner ∧
      cls.model.superclassName = some inner.type.name ∧
        cls.model.inheritedProperties = passedOn inner.models := by
  obtain ⟨depth, _, _, made, _, _, _, hparent, hm⟩ := h.assembled
  obtain ⟨inner, hinner, rfl⟩ := (parent_run hparent).2 r hr
  exact ⟨inner, ⟨depth, hinner⟩, hm.superclassName, hm.inherited⟩

/-- Where the superclass is a class, too, it gives its name, and passes on what it has. -/
theorem Makes.inherits {r : String} {above : Class} (hr : cls.superclass = some r)
    (habove : x.Makes (x.superclassCall c r) above) :
    cls.model.superclassName = some above.model.name ∧
      cls.model.inheritedProperties = above.model.properties ++ above.model.inheritedProperties := by
  obtain ⟨inner, hinner, hname, hinherited⟩ := h.of_superclass hr
  obtain ⟨rest, hyields⟩ := habove.yields
  obtain rfl := hinner.unique hyields
  rw [habove.name]
  exact ⟨hname, hinherited⟩

theorem Makes.needs_superclass {r : String} (hr : cls.superclass = some r) :
    x.Needs c (x.superclassCall c r) := by
  obtain ⟨base, hopens, hsuper⟩ := h.opens
  obtain ⟨properties, hs⟩ := h.object
  refine ⟨base, cls.full, hopens, ?_⟩
  simp [nested, hs, hsuper, hr]

/-- The model of the superclass is behind that of the class. -/
theorem Makes.superclass_mem {r : String} {above : Class} (hr : cls.superclass = some r)
    (habove : x.Makes (x.superclassCall c r) above) {made : Synthesized} (hmade : x.Yields c made) :
    .object above.model ∈ made.models.tail := by
  obtain ⟨base, hopens, hsuper⟩ := h.opens
  obtain ⟨properties, hs⟩ := h.object
  obtain ⟨depth, members, parent, m, rest, _, hparent, rfl, hm⟩ := hmade.object hopens hs
  rw [hsuper] at hparent
  obtain ⟨inner, hinner, rfl⟩ := (parent_run hparent).2 r hr
  obtain ⟨rest', hyields⟩ := habove.yields
  have hsame : inner = _ := Yields.unique ⟨depth, hinner⟩ hyields
  show .object above.model ∈ rest
  rw [hm.behind]
  apply List.mem_append_right
  rw [hsame]
  exact List.mem_cons_self

end Makes

/-- Every model that a call yields is the one that it makes, or comes from a nested call. -/
theorem fromFull_models {again : Step} {specName : String} {superclass : Option String}
    {made : Synthesized}
    (h : x.fromFull again c.building (x.nameOf c) specName superclass full = .ok made) {m : Model}
    (hm : m ∈ made.models) :
    made.models.head? = some m ∧ ((∃ properties, full.shape = .object properties) ∨
        ∃ type values, full.shape = .enumeration type values) ∨
      ∃ c' ∈ x.nested c superclass full, ∃ inner, ask again c' = .ok inner ∧ m ∈ inner.models := by
  cases hs : full.shape with
  | enumeration type values =>
    simp only [fromFull, hs] at h
    obtain ⟨model, _, h⟩ := bind_eq_ok.mp h
    obtain rfl := Except.ok.inj h
    obtain rfl := List.mem_singleton.mp hm
    exact .inl ⟨rfl, .inr ⟨type, values, rfl⟩⟩
  | array items =>
    cases items with
    | none => simp [fromFull, hs] at h
    | some items =>
      rw [fromFull_array hs] at h
      obtain ⟨inner, hinner, h⟩ := bind_eq_ok.mp h
      obtain ⟨arrayName, _, h⟩ := bind_eq_ok.mp h
      obtain rfl := Except.ok.inj h
      exact .inr ⟨⟨c.building, items, x.nameOf c⟩, by simp [nested, hs], inner, hinner, hm⟩
  | object properties =>
    rw [fromFull_properties hs] at h
    obtain ⟨models, hmodels, h⟩ := bind_eq_ok.mp h
    obtain rfl := Except.ok.inj h
    obtain ⟨members, made, top, rest, hmembers, hparent, rfl, htop⟩ := objectModels_run hmodels
    rcases List.mem_cons.mp hm with rfl | hrest
    · exact .inl ⟨rfl, .inl ⟨properties, rfl⟩⟩
    · rw [htop.behind] at hrest
      rcases List.mem_append.mp hrest with hmember | hparents
      · obtain ⟨member, hmember, hsibling⟩ := List.mem_flatMap.mp hmember
        obtain ⟨p, hp, hmade⟩ := (members_run hmembers).2 member hmember
        obtain ⟨inner, hinner, _, hsub⟩ := hmade.yields
        refine .inr ⟨x.propertyCall c p.1 p.2, ?_, inner, hinner, hsub hsibling⟩
        have hcall := List.mem_map_of_mem (f := fun p => x.propertyCall c p.1 p.2) hp
        simp only [nested, hs]
        exact List.mem_append_left _ hcall
      · cases hsuper : superclass with
        | none =>
          obtain rfl := (parent_run hparent).1 hsuper
          simp at hparents
        | some r =>
          obtain ⟨inner, hinner, rfl⟩ := (parent_run hparent).2 r hsuper
          exact .inr ⟨x.superclassCall c r, by simp [nested, hs], inner, hinner, hparents⟩
  | primitive type format =>
    cases ha : full.additional.bind Additional.value? with
    | none =>
      rw [fromFull_value hs ha] at h
      obtain ⟨typeName, _, h⟩ := bind_eq_ok.mp h
      obtain rfl := Except.ok.inj h
      simp at hm
    | some value =>
      rw [fromFull_map hs (Schema.additional_bind_value.mp ha)] at h
      obtain ⟨inner, hinner, h⟩ := bind_eq_ok.mp h
      obtain ⟨typeName, _, h⟩ := bind_eq_ok.mp h
      obtain rfl := Except.ok.inj h
      exact .inr ⟨⟨c.building, value, ""⟩, by simp [nested, hs, ha], inner, hinner, hm⟩

/-- Every object model that a call yields is that of a class, which a call in its run makes. -/
theorem Yields.origin {made : Synthesized} (h : x.Yields c made) {m : ObjectModel}
    (hm : .object m ∈ made.models) :
    ∃ c' cls, Relation.ReflTransGen x.Needs c c' ∧ x.Makes c' cls ∧ cls.model = m := by
  obtain ⟨depth, h⟩ := h
  induction depth generalizing c made with
  | zero => cases h
  | succ depth ih =>
    rcases x.opens_or_settled c with ⟨base, full, hopens⟩ | ⟨result, _, hsettled, hstep⟩
    · have hyields : x.Yields c made := ⟨depth + 1, h⟩
      rw [run_succ_of_opens hopens] at h
      rcases fromFull_models h hm with ⟨hhead, hshape⟩ | ⟨c', hc', inner, hinner, hm'⟩
      · rcases hshape with ⟨properties, hs⟩ | ⟨type, values, hs⟩
        · obtain ⟨m', rest, rfl, hmakes⟩ := hyields.makes hopens hs
          obtain rfl : m' = m := by simpa using hhead
          exact ⟨c, _, .refl, hmakes, rfl⟩
        · obtain ⟨_, m', hmodels, _⟩ := fromFull_enumeration hs h
          simp [hmodels] at hm
      · obtain ⟨c'', cls, hreach, hmakes, hcls⟩ := ih hm' hinner
        exact ⟨c'', cls, .head ⟨base, full, hopens, hc'⟩ hreach, hmakes, hcls⟩
    · have hnone : made.models = [] := hsettled made ((hstep _).symm.trans h)
      simp [hnone] at hm

end ModelSynthesis

end SwaggerClient
