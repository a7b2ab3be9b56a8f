import SwaggerClient.Model.Synthesis
import SwaggerClient.Proofs.Model.Selection
import SwaggerClient.Proofs.Outcome

namespace SwaggerClient

namespace ObjectModel

/-- `P` holds of a model and of every model nested in it, at every depth. -/
inductive Everywhere (P : ObjectModel → Prop) : ObjectModel → Prop
  | intro (m : ObjectModel) (here : P m) (below : ∀ n ∈ m.nestedModels, Everywhere P n) :
      Everywhere P m

theorem Everywhere.here {P : ObjectModel → Prop} {m : ObjectModel} (h : m.Everywhere P) : P m := by
  cases h with
  | intro _ here _ => exact here

theorem Everywhere.mono {P Q : ObjectModel → Prop} {m : ObjectModel} (h : m.Everywhere P)
    (hPQ : ∀ n, P n → Q n) : m.Everywhere Q := by
  induction h with
  | intro m here _ ih => exact .intro m (hPQ m here) ih

/-- The model inherits what its ancestors declare, nearest first, and its ancestors are among `others`,
descriptions apart. -/
structure Derived (others : List ObjectModel) (m : ObjectModel) : Prop where
  inherited : ∃ ancestors, ancestors ⊆ others ∧
    m.inheritedProperties.map Property.bare =
      (ancestors.flatMap (·.properties)).map Property.bare
  initializer : m.initializerProperties =
    ModelSynthesis.initializerProperties m.properties m.inheritedProperties

theorem Derived.mono {others more : List ObjectModel} {m : ObjectModel} (h : m.Derived others)
    (hsub : others ⊆ more) : m.Derived more := by
  obtain ⟨ancestors, hmem, hinherited⟩ := h.inherited
  exact ⟨⟨ancestors, fun a ha => hsub (hmem ha), hinherited⟩, h.initializer⟩

end ObjectModel

namespace Model

/-- Every object model of the list, and every model nested in it, has its ancestors further back. -/
def Grounded : List Model → Prop
  | [] => True
  | .object m :: rest => m.Everywhere (ObjectModel.Derived (objects rest)) ∧ Grounded rest
  | .enumeration _ :: rest => Grounded rest

theorem Grounded.append {models more : List Model} (h : Grounded models) (hmore : Grounded more) :
    Grounded (models ++ more) := by
  induction models with
  | nil => exact hmore
  | cons first rest ih =>
    cases first with
    | object m =>
      have hsub : objects rest ⊆ objects (rest ++ more) := by
        rw [objects_append]
        exact List.subset_append_left _ _
      exact ⟨h.1.mono fun n hn => hn.mono hsub, ih h.2⟩
    | enumeration m => exact ih h

theorem Grounded.everywhere {models : List Model} (h : Grounded models) :
    ∀ m ∈ objects models, m.Everywhere (ObjectModel.Derived (objects models)) := by
  induction models with
  | nil => simp [objects]
  | cons first rest ih =>
    cases first with
    | object top =>
      have hsub : objects rest ⊆ objects (.object top :: rest) := List.subset_cons_self _ _
      intro m hm
      rcases List.mem_cons.mp hm with rfl | hm
      · exact h.1.mono fun n hn => hn.mono hsub
      · exact (ih h.2 m hm).mono fun n hn => hn.mono hsub
    | enumeration top => exact ih h

theorem grounded_flatMap {α : Type} {f : α → List Model} {l : List α}
    (h : ∀ a ∈ l, Grounded (f a)) : Grounded (l.flatMap f) := by
  induction l with
  | nil => trivial
  | cons a rest ih =>
    rw [List.flatMap_cons]
    exact (h a (by simp)).append (ih fun b hb => h b (List.mem_cons_of_mem _ hb))

end Model

namespace ModelSynthesis

theorem names_eq_of_bare {ps qs : List Property} (h : ps.map Property.bare = qs.map Property.bare) :
    ps.map (·.name) = qs.map (·.name) := by
  have hname : ∀ l : List Property, l.map (·.name) = (l.map Property.bare).map (·.name) := by
    simp [Property.bare]
  rw [hname ps, hname qs, h]

theorem initializerProperties_names (own inherited : List Property) :
    (initializerProperties own inherited).map (·.name) =
      own.map (·.name) ++ (inherited.map (·.name)).filter fun name => name ∉ own.map (·.name) := by
  have hfree : (fun i : Property => !own.any fun p => p.name == i.name) =
      (fun name => decide (name ∉ own.map (·.name))) ∘ (·.name) := by
    funext i
    rw [Bool.eq_iff_iff]
    simp
  rw [initializerProperties, List.map_append, List.filter_map, hfree]

theorem initializerProperties_names_nodup_iff (own inherited : List Property) :
    ((initializerProperties own inherited).map (·.name)).Nodup ↔
      (own.map (·.name)).Nodup ∧
        ∀ name, name ∉ own.map (·.name) → (inherited.map (·.name)).count name ≤ 1 := by
  rw [initializerProperties_names, List.nodup_append]
  constructor
  · rintro ⟨hown, hinherited, _⟩
    refine ⟨hown, fun name hname => ?_⟩
    have hcount := List.nodup_iff_count.mp hinherited name
    rwa [List.count_filter (by simpa using hname)] at hcount
  · rintro ⟨hown, hcount⟩
    refine ⟨hown, List.nodup_iff_count.mpr fun name => ?_, ?_⟩
    · by_cases hname : name ∈ own.map (·.name)
      · have hnone : name ∉ (inherited.map (·.name)).filter fun n => n ∉ own.map (·.name) := by
          intro h
          have hfree := (List.mem_filter.mp h).2
          simp [hname] at hfree
        rw [List.count_eq_zero_of_not_mem hnone]
        omega
      · rw [List.count_filter (by simpa using hname)]
        exact hcount name hname
    · intro a ha b hb e
      have hfree := (List.mem_filter.mp hb).2
      simp [← e, ha] at hfree

/-- A name may be declared by one ancestor alone and once, unless the model itself declares it. -/
theorem initializer_nodup_iff_of_derived {others : List ObjectModel} {m : ObjectModel}
    (h : m.Derived others) :
    ∃ ancestors, ancestors ⊆ others ∧
      m.inheritedProperties.map Property.bare =
        (ancestors.flatMap (·.properties)).map Property.bare ∧
      ((m.initializerProperties.map (·.name)).Nodup ↔
        (m.properties.map (·.name)).Nodup ∧
          ∀ name, name ∉ m.properties.map (·.name) →
            ((ancestors.flatMap (·.properties)).map (·.name)).count name ≤ 1) := by
  obtain ⟨ancestors, hsub, hinherited⟩ := h.inherited
  refine ⟨ancestors, hsub, hinherited, ?_⟩
  rw [h.initializer, initializerProperties_names_nodup_iff, names_eq_of_bare hinherited]

open Model

variable {x : ModelSynthesis} {again : Step}

theorem passedOn_eq {models : List Model} (h : Grounded models) :
    ∃ ancestors, ancestors ⊆ objects models ∧
      (passedOn models).map Property.bare =
        (ancestors.flatMap (·.properties)).map Property.bare := by
  cases models with
  | nil => exact ⟨[], by simp, rfl⟩
  | cons first rest =>
    cases first with
    | enumeration m => exact ⟨[], by simp, rfl⟩
    | object m =>
      obtain ⟨hm, _⟩ := h
      cases hm with
      | intro _ here _ =>
        obtain ⟨ancestors, hsub, hinherited⟩ := here.inherited
        refine ⟨m :: ancestors, List.cons_subset_cons m hsub, ?_⟩
        rw [passedOn, List.map_append, hinherited, ← List.map_append, List.flatMap_cons]

/-- The model `nested` and the models `siblings` beside it: the ancestors are among the latter. -/
def GroundedBeside (nested : Option ObjectModel) (siblings : List Model) : Prop :=
  Grounded siblings ∧ ∀ m, nested = some m → m.Everywhere (ObjectModel.Derived (objects siblings))

theorem takeNested_grounded {models : List Model} (h : Grounded models) :
    GroundedBeside (takeNested models).1 (takeNested models).2 := by
  cases models with
  | nil => exact ⟨trivial, by simp [takeNested]⟩
  | cons first rest =>
    cases first with
    | enumeration m => exact ⟨h, by simp [takeNested]⟩
    | object m =>
      refine ⟨h.2, fun n hn => ?_⟩
      obtain rfl := Option.some.inj hn
      exact h.1

theorem member_eq_ok {building : List String} {owner key : String} {full schema : Schema}
    {made : Member} (h : x.member again building owner full key schema = .ok made) :
    ∃ name inner, again building schema name = .ok inner ∧
      (made.nested, made.siblings) =
        if schema.isInlineObject then takeNested inner.models else (none, inner.models) := by
  obtain ⟨inner, hinner, h⟩ := bind_eq_ok.mp h
  refine ⟨_, inner, hinner, ?_⟩
  cases hs : schema.isInlineObject with
  | false =>
    simp only [hs] at h
    obtain rfl := Except.ok.inj h
    rfl
  | true =>
    simp only [hs] at h
    obtain rfl := Except.ok.inj h
    rfl

section Step

variable (hagain : ∀ building schema name made, again building schema name = .ok made →
  Grounded made.models)

include hagain

theorem member_grounded {building : List String} {owner key : String} {full schema : Schema}
    {made : Member} (h : x.member again building owner full key schema = .ok made) :
    GroundedBeside made.nested made.siblings := by
  obtain ⟨name, inner, hinner, hmade⟩ := member_eq_ok h
  have hmodels := hagain _ _ _ _ hinner
  split at hmade
  · obtain ⟨hn, hs⟩ := Prod.mk.inj hmade
    rw [hn, hs]
    exact takeNested_grounded hmodels
  · obtain ⟨hn, hs⟩ := Prod.mk.inj hmade
    rw [hn, hs]
    exact ⟨hmodels, by simp⟩

theorem members_grounded {building : List String} {owner : String} {full : Schema}
    {properties : List (String × Schema)} {made : List Member}
    (h : x.members again building owner full properties = .ok made) :
    ∀ member ∈ made, GroundedBeside member.nested member.siblings := by
  induction properties generalizing made with
  | nil =>
    obtain rfl := Except.ok.inj h
    simp
  | cons property rest ih =>
    obtain ⟨first, hfirst, h⟩ := bind_eq_ok.mp h
    obtain ⟨more, hmore, h⟩ := bind_eq_ok.mp h
    obtain rfl := Except.ok.inj h
    intro member hmem
    rcases List.mem_cons.mp hmem with rfl | hmem
    · exact member_grounded hagain hfirst
    · exact ih hmore member hmem

theorem parent_grounded {building : List String} {reference : Option String} {made : Parent}
    (h : parent again building reference = .ok made) :
    Grounded made.models ∧ ∃ ancestors, ancestors ⊆ objects made.models ∧
      made.properties.map Property.bare =
        (ancestors.flatMap (·.properties)).map Property.bare := by
  cases reference with
  | none =>
    obtain rfl := Except.ok.inj h
    exact ⟨trivial, [], by simp, rfl⟩
  | some r =>
    obtain ⟨inner, hinner, h⟩ := bind_eq_ok.mp h
    obtain rfl := Except.ok.inj h
    have hmodels := hagain _ _ _ _ hinner
    exact ⟨hmodels, passedOn_eq hmodels⟩

theorem objectModels_grounded {building : List String} {name specName : String} {full : Schema}
    {properties : List (String × Schema)} {superclass : Option String} {models : List Model}
    (h : x.objectModels again building name specName full properties superclass = .ok models) :
    Grounded models := by
  obtain ⟨members, hmembers, h⟩ := bind_eq_ok.mp h
  obtain ⟨parent, hparent, h⟩ := bind_eq_ok.mp h
  obtain rfl := Except.ok.inj h
  have heach := members_grounded hagain hmembers
  obtain ⟨hparents, ancestors, hsub, hproperties⟩ := parent_grounded hagain hparent
  have hsiblings : Grounded (members.flatMap (·.siblings)) :=
    grounded_flatMap fun member hm => (heach member hm).1
  refine ⟨.intro _ ⟨⟨ancestors, ?_, hproperties⟩, rfl⟩ fun n hn => ?_, hsiblings.append hparents⟩
  · have hbehind : parent.models ⊆ members.flatMap (·.siblings) ++ parent.models :=
      List.subset_append_right _ _
    exact fun a ha => objects_subset hbehind (hsub ha)
  · obtain ⟨member, hm, hnested⟩ := List.mem_filterMap.mp hn
    have hbeside : member.siblings ⊆ members.flatMap (·.siblings) ++ parent.models :=
      fun sibling hs => List.mem_append_left _ (List.mem_flatMap.mpr ⟨member, hm, hs⟩)
    exact ((heach member hm).2 n hnested).mono fun k hk => hk.mono (objects_subset hbeside)

theorem fromFull_grounded {building : List String} {name specName : String} {full : Schema}
    {superclass : Option String} {made : Synthesized}
    (h : x.fromFull again building name specName superclass full = .ok made) :
    Grounded made.models := by
  unfold fromFull at h
  cases hs : full.shape with
  | enumeration baseType values =>
    simp only [hs] at h
    obtain ⟨model, _, h⟩ := bind_eq_ok.mp h
    obtain rfl := Except.ok.inj h
    trivial
  | array items =>
    cases items with
    | none => simp [hs] at h
    | some items =>
      simp only [hs] at h
      obtain ⟨inner, hinner, h⟩ := bind_eq_ok.mp h
      obtain ⟨_, _, h⟩ := bind_eq_ok.mp h
      have hmodels := hagain _ _ _ _ hinner
      obtain rfl := Except.ok.inj h
      exact hmodels
  | object properties =>
    simp only [hs] at h
    obtain ⟨models, hmodels, h⟩ := bind_eq_ok.mp h
    obtain rfl := Except.ok.inj h
    exact objectModels_grounded hagain hmodels
  | primitive type format =>
    simp only [hs] at h
    split at h
    · obtain ⟨models, hvalue, h⟩ := bind_eq_ok.mp h
      obtain ⟨_, _, h⟩ := bind_eq_ok.mp h
      obtain ⟨inner, hinner, rfl⟩ := map_eq_ok.mp hvalue
      have hmodels := hagain _ _ _ _ hinner
      obtain rfl := Except.ok.inj h
      exact hmodels
    · obtain ⟨models, hnone, h⟩ := bind_eq_ok.mp h
      obtain ⟨_, _, h⟩ := bind_eq_ok.mp h
      obtain rfl := Except.ok.inj hnone
      obtain rfl := Except.ok.inj h
      trivial

theorem step_grounded {building : List String} {schema : Schema} {name : String}
    {made : Synthesized} (h : x.step again building schema name = .ok made) :
    Grounded made.models := by
  unfold step at h
  simp only at h
  split at h
  · obtain rfl := Except.ok.inj h
    trivial
  · split at h
    · cases h
    · obtain ⟨base, _, h⟩ := bind_eq_ok.mp h
      obtain ⟨full, _, h⟩ := bind_eq_ok.mp h
      exact fromFull_grounded hagain h

end Step

/-- Models made together are grounded, however deep the schemas stand inside one another. -/
theorem within_grounded {depth : Nat} {building : List String} {schema : Schema} {name : String}
    {made : Synthesized} (h : x.within depth building schema name = .ok made) :
    Grounded made.models := by
  induction depth generalizing building schema name made with
  | zero => cases h
  | succ depth ih => exact step_grounded (fun _ _ _ _ => ih) h

theorem fromSchema_grounded {schema : Schema} {name : String} {made : Synthesized}
    (h : x.fromSchema schema name = .ok made) : Grounded made.models :=
  within_grounded h

end ModelSynthesis

end SwaggerClient
