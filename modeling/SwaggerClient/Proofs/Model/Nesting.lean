import SwaggerClient.Proofs.Model.Class
import SwaggerClient.Proofs.Model.Inheritance
import SwaggerClient.Proofs.Model.MapType
import SwaggerClient.Proofs.Naming.ClassName
import SwaggerClient.Proofs.Traversal

namespace SwaggerClient

namespace ObjectModel

/-- What is inherited by nested models holds at every depth. -/
theorem everywhere_of_nested {P Q : ObjectModel → Prop} (here : ∀ m, Q m → P m)
    (below : ∀ m, Q m → ∀ n ∈ m.nestedModels, Q n) (m : ObjectModel) (h : Q m) : m.Everywhere P :=
  .intro m (here m h) fun n hn => everywhere_of_nested here below n (below m h n hn)
termination_by sizeOf m
decreasing_by
  have hsize := List.sizeOf_lt_of_mem hn
  cases m
  simp at hsize ⊢
  omega

end ObjectModel

namespace ModelSynthesis

/-- The property is declared in place, and the models of its call begin with an object model, the child. -/
structure Nests (x : ModelSynthesis) (c : Call) (p : String × Schema) (child : ObjectModel) : Prop where
  inPlace : p.2.isInlineObject
  yields : ∃ type rest, x.Yields (x.propertyCall c p.1 p.2) ⟨type, .object child :: rest⟩

/-- The member that is made for a property: it has a nested model exactly if the property nests that model, and its
type is then the name of the model within that of the owner. -/
structure Houses (x : ModelSynthesis) (c : Call) (p : String × Schema) (member : Member) : Prop where
  specName : member.property.specName = p.1
  nested : ∀ child, member.nested = some child ↔ x.Nests c p child
  type : ∀ child, member.nested = some child → member.property.type = x.nameOf c ++ "." ++ child.name

/-- The name of the model nested for a key in the model of its owner. -/
def nestedName (x : ModelSynthesis) (owner key : String) : String :=
  x.target.rules.className [x.target.rules.className [owner, key] 1] 0

variable {x : ModelSynthesis} {c : Call} {cls inner : Class} {p : String × Schema} {child : ObjectModel}

/-- Keys with the same words in lower case have the same name. -/
theorem nestedName_congr (x : ModelSynthesis) (owner : String) {key other : String}
    (h : Naming.lowerWords key = Naming.lowerWords other) : x.nestedName owner key = x.nestedName owner other := by
  have hname : x.target.rules.className [owner, key] 1 = x.target.rules.className [owner, other] 1 :=
    x.target.rules.className_congr (by simp [h]) (by simp [h])
  rw [nestedName, nestedName, hname]

theorem takeNested_eq_some {models : List Model} :
    (takeNested models).1 = some child ↔ ∃ rest, models = .object child :: rest := by
  cases models with
  | nil => simp [takeNested]
  | cons first rest => cases first <;> simp [takeNested]

theorem Nests.iff_of_yields {made : Synthesized} (hp : p.2.isInlineObject)
    (h : x.Yields (x.propertyCall c p.1 p.2) made) :
    x.Nests c p child ↔ ∃ rest, made.models = .object child :: rest := by
  constructor
  · rintro ⟨_, type, rest, hyields⟩
    obtain rfl := h.unique hyields
    exact ⟨rest, rfl⟩
  · rintro ⟨rest, hmodels⟩
    obtain ⟨type, models⟩ := made
    obtain rfl : models = _ := hmodels
    exact ⟨hp, type, rest, h⟩

theorem member_houses {depth : Nat} {full : Schema} {made : Member}
    (h : x.member (x.within depth) (x.nameOf c :: c.building) (x.nameOf c) full p.1 p.2 = .ok made) :
    x.Houses c p made := by
  obtain ⟨inner, hinner, h⟩ := bind_eq_ok.mp h
  cases hp : p.2.isInlineObject with
  | false =>
    simp only [hp] at h
    obtain rfl := Except.ok.inj h
    refine ⟨rfl, fun child => iff_of_false (by simp) fun hn => ?_, by simp⟩
    simpa [hp] using hn.inPlace
  | true =>
    simp only [hp] at h
    obtain rfl := Except.ok.inj h
    have hyields : x.Yields (x.propertyCall c p.1 p.2) inner :=
      ⟨depth, by simpa [run, ask, propertyCall, hp] using hinner⟩
    refine ⟨rfl, fun child => takeNested_eq_some.trans (Nests.iff_of_yields hp hyields).symm, ?_⟩
    intro child hchild
    obtain ⟨rest, hmodels⟩ := takeNested_eq_some.mp hchild
    simp [hmodels, takeNested]

theorem members_house {depth : Nat} {full : Schema} {properties : List (String × Schema)} {made : List Member}
    (h : x.members (x.within depth) (x.nameOf c :: c.building) (x.nameOf c) full properties = .ok made) :
    List.Forall₂ (x.Houses c) properties made := by
  induction properties generalizing made with
  | nil =>
    obtain rfl := Except.ok.inj h
    exact .nil
  | cons p rest ih =>
    obtain ⟨first, hfirst, h⟩ := bind_eq_ok.mp h
    obtain ⟨more, hmore, h⟩ := bind_eq_ok.mp h
    obtain rfl := Except.ok.inj h
    exact .cons (member_houses hfirst) (ih hmore)

theorem Makes.needs_property (h : x.Makes c cls) (hp : p ∈ cls.full.properties.getD []) :
    x.Needs c (x.propertyCall c p.1 p.2) := by
  obtain ⟨base, hopens, _⟩ := h.opens
  obtain ⟨properties, hs⟩ := h.object
  have hproperties := (Schema.shape_eq_object_iff.mp hs).2.1
  rw [hproperties] at hp
  exact ⟨base, cls.full, hopens, mem_nested_iff.mpr (.inr (.inr ⟨properties, hs, .inl ⟨p, hp, rfl⟩⟩))⟩

/-- A nested model is that of a class, which a call in the run for the property makes. -/
theorem Nests.origin (h : x.Nests c p child) :
    ∃ c' cls', Relation.ReflTransGen x.Needs (x.propertyCall c p.1 p.2) c' ∧ x.Makes c' cls' ∧
      cls'.model = child := by
  obtain ⟨type, rest, hyields⟩ := h.yields
  exact hyields.origin (by simp)

/-- A class that is made of the property itself is what the property nests, under the name for its key. -/
theorem Nests.of_makes (h : x.Nests c p child) (hinner : x.Makes (x.propertyCall c p.1 p.2) inner) :
    inner.model = child ∧ child.name = x.nestedName (x.nameOf c) p.1 := by
  obtain ⟨type, rest, hyields⟩ := h.yields
  have hmodel : inner.model = child := hinner.model_eq hyields
  refine ⟨hmodel, ?_⟩
  have hinline := h.inPlace
  have hreference : p.2.reference = none := by
    simp only [Schema.isInlineObject, Bool.and_eq_true, Option.isNone_iff_eq_none] at hinline
    exact hinline.1.1
  rw [← hmodel, hinner.name]
  simp [nameOf, modelName, propertyCall, nestedName, hreference, hinline]

/-- Without a composition, a property that nests a model is made into a class itself. -/
theorem Nests.makes_of_inPlace (h : x.Nests c p child) (hp : InPlace p.2) :
    ∃ inner, x.Makes (x.propertyCall c p.1 p.2) inner := by
  obtain ⟨type, rest, hyields⟩ := h.yields
  obtain ⟨base, full, hopens⟩ := hyields.opens_of_inPlace hp
  have hsame : SameType p.2 full := hopens.sameType hp
  have hinline := h.inPlace
  simp only [Schema.isInlineObject, Bool.and_eq_true] at hinline
  have hvalues : full.values = none := by
    by_contra hsome
    obtain ⟨values, hvalues⟩ := Option.ne_none_iff_exists'.mp hsome
    have hs := Schema.shape_eq_enumeration_iff.mpr ⟨hvalues, rfl⟩
    obtain ⟨depth, hrun⟩ := hyields.run_succ
    rw [run_succ_of_opens hopens] at hrun
    obtain ⟨_, m, hmodels, _⟩ := fromFull_enumeration hs hrun
    cases hmodels
  obtain ⟨properties, hproperties⟩ := Option.isSome_iff_exists.mp (hsame.properties.trans hinline.1.2)
  have hobject : full.mayBeObject = true := by
    rw [Schema.mayBeObject, hsame.type]
    exact hinline.2
  obtain ⟨_, _, _, hmakes⟩ :=
    hyields.makes hopens (Schema.shape_eq_object_iff.mpr ⟨hvalues, hproperties, hobject⟩)
  exact ⟨_, hmakes⟩

/-- The model is that of the class, subclasses apart; the properties that the schema declares and the nested models
are those of members that are made for the properties of the schema, one for each, in order. -/
structure Scope (x : ModelSynthesis) (c : Call) (cls : Class) (members : List Member) (m : ObjectModel) :
    Prop where
  makes : x.Makes c cls
  model : m = { cls.model with subclasses := m.subclasses }
  houses : List.Forall₂ (x.Houses c) (cls.full.properties.getD []) members
  properties : m.properties = ownProperties (members.map (·.property)) m.inheritedProperties
  nested : m.nestedModels = members.filterMap (·.nested)

/-- The objects that properties declare in place have no compositions that would make something else of them than
classes. -/
def Direct (x : ModelSynthesis) (c : Call) (full : Schema) : Prop :=
  ∀ p ∈ full.properties.getD [], p.2.isInlineObject →
    InPlace p.2 ∨ ∃ inner, x.Makes (x.propertyCall c p.1 p.2) inner

/-- No two of the names are the same, and none is empty. -/
def Apart (names : List String) : Prop :=
  "" ∉ names ∧ names.Nodup

instance : DecidablePred Apart :=
  fun _ => inferInstanceAs (Decidable (_ ∧ _))

/-- The keys for which members have a nested model. -/
def nestedKeys (members : List Member) : List String :=
  (members.filter (·.nested.isSome)).map (·.property.specName)

/-- Nested models have names of their own, and a member with a nested model has the type that names this model and no
other. -/
structure WellNamed (members : List Member) (m : ObjectModel) : Prop where
  named : ∀ n ∈ m.nestedModels, n.name ≠ ""
  distinct : (m.nestedModels.map (·.name)).Nodup
  only : ∀ a ∈ members, ∀ child, a.nested = some child →
    a.property.type = m.name ++ "." ++ child.name ∧
      m.nestedModels.filter (fun n => n.name = child.name) = [child]

theorem Makes.scope (h : x.Makes c cls) (subclasses : List SubclassName) :
    ∃ members, x.Scope c cls members { cls.model with subclasses } := by
  obtain ⟨depth, properties, members, made, rest, hproperties, hmembers, _, hm⟩ := h.assembled
  refine ⟨members, h, rfl, ?_, ?_, hm.nested⟩
  · rw [hproperties]
    exact members_house hmembers
  · show cls.model.properties = ownProperties _ cls.model.inheritedProperties
    rw [hm.properties, hm.inherited]

section Scope

variable {members : List Member} {m : ObjectModel} (h : x.Scope c cls members m)

include h

theorem Scope.name : m.name = x.nameOf c := by
  rw [h.model]
  exact h.makes.name

theorem Scope.wellNamed_iff : WellNamed members m ↔ Apart (m.nestedModels.map (·.name)) := by
  constructor
  · intro hnamed
    refine ⟨fun hempty => ?_, hnamed.distinct⟩
    obtain ⟨n, hn, hname⟩ := List.mem_map.mp hempty
    exact hnamed.named n hn hname
  · rintro ⟨hempty, hdistinct⟩
    refine ⟨fun n hn hname => hempty (hname ▸ List.mem_map_of_mem hn), hdistinct, fun a ha child hchild => ?_⟩
    obtain ⟨p, _, hp⟩ := forall₂_mem h.houses.flip ha
    have hmem : child ∈ m.nestedModels := by
      rw [h.nested]
      exact List.mem_filterMap.mpr ⟨a, ha, hchild⟩
    exact ⟨h.name ▸ hp.type child hchild, filter_eq_singleton hdistinct hmem⟩

/-- Every nested model is that of a class, which is made in the run of the call. -/
theorem Scope.origin {n : ObjectModel} (hn : n ∈ m.nestedModels) :
    ∃ c' cls', Relation.ReflTransGen x.Needs c c' ∧ x.Makes c' cls' ∧ cls'.model = n := by
  rw [h.nested] at hn
  obtain ⟨a, ha, hchild⟩ := List.mem_filterMap.mp hn
  obtain ⟨p, hp, hhouses⟩ := forall₂_mem h.houses.flip ha
  obtain ⟨c', cls', hreach, hmakes, hmodel⟩ := ((hhouses.nested n).mp hchild).origin
  exact ⟨c', cls', .head (h.makes.needs_property hp) hreach, hmakes, hmodel⟩

/-- The names of nested models are made of the keys. -/
theorem Scope.nested_names (hdirect : x.Direct c cls.full) :
    m.nestedModels.map (·.name) = (nestedKeys members).map (x.nestedName m.name) := by
  have hmember : ∀ a ∈ members, a.nested.map (·.name) =
      if a.nested.isSome then some (x.nestedName m.name a.property.specName) else none := by
    intro a ha
    obtain ⟨p, hp, hhouses⟩ := forall₂_mem h.houses.flip ha
    cases hchild : a.nested with
    | none => rfl
    | some child =>
      have hnests := (hhouses.nested child).mp hchild
      obtain ⟨inner, hinner⟩ := (hdirect p hp hnests.inPlace).elim hnests.makes_of_inPlace id
      rw [h.name, hhouses.specName]
      exact congrArg some (hnests.of_makes hinner).2
  rw [h.nested, List.map_filterMap, nestedKeys, List.map_map, ← List.filterMap_eq_map, List.filterMap_filter]
  exact List.filterMap_congr hmember

/-- No two keys have the same words where nested models have names of their own. -/
theorem Scope.nodup_words (hdirect : x.Direct c cls.full) (hnamed : WellNamed members m) :
    ((nestedKeys members).map Naming.lowerWords).Nodup := by
  have hdistinct := hnamed.distinct
  rw [h.nested_names hdirect, List.Nodup, List.pairwise_map] at hdistinct
  rw [List.Nodup, List.pairwise_map]
  exact hdistinct.imp fun hne e => hne (x.nestedName_congr m.name e)

end Scope

end ModelSynthesis

end SwaggerClient
