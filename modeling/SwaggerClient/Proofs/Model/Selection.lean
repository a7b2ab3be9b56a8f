import Mathlib.Data.List.Nodup
import Mathlib.Data.Multiset.Defs
import SwaggerClient.Model.Selection

namespace SwaggerClient

/-- Where no two elements have one key, each is the only one with its key. -/
theorem filter_eq_singleton {α β : Type} [DecidableEq β] {key : α → β} {list : List α}
    (h : (list.map key).Nodup) {a : α} (ha : a ∈ list) : list.filter (fun b => key b = key a) = [a] := by
  obtain ⟨front, back, rfl⟩ := List.append_of_mem ha
  rw [List.map_append, List.map_cons, List.nodup_append, List.nodup_cons] at h
  obtain ⟨_, ⟨hback, _⟩, hfront⟩ := h
  have hnone : ∀ {more : List α}, key a ∉ more.map key → more.filter (fun b => key b = key a) = [] := by
    intro more hmore
    rw [List.filter_eq_nil_iff]
    intro b hb e
    exact hmore (of_decide_eq_true e ▸ List.mem_map_of_mem hb)
  have hfront' : key a ∉ front.map key := fun hmem => hfront _ hmem _ (by simp) rfl
  rw [List.filter_append, List.filter_cons_of_pos (by simp), hnone hback, hnone hfront']
  rfl

namespace Model

theorem objects_append (models more : List Model) :
    objects (models ++ more) = objects models ++ objects more :=
  List.filterMap_append

@[simp] theorem objects_object (m : ObjectModel) (rest : List Model) :
    objects (.object m :: rest) = m :: objects rest := rfl

@[simp] theorem objects_enumeration (m : EnumModel) (rest : List Model) :
    objects (.enumeration m :: rest) = objects rest := rfl

theorem objects_subset {models more : List Model} (h : models ⊆ more) :
    objects models ⊆ objects more :=
  List.filterMap_subset _ h

theorem mem_objects {models : List Model} {m : ObjectModel} :
    m ∈ objects models ↔ .object m ∈ models := by
  simp only [objects, List.mem_filterMap]
  constructor
  · rintro ⟨_ | _, hm, e⟩
    · exact Option.some.inj e ▸ hm
    · cases e
  · exact fun hm => ⟨_, hm, rfl⟩

theorem dedupeAfter_subset (seen models : List Model) : dedupeAfter seen models ⊆ models := by
  induction models generalizing seen with
  | nil => simp [dedupeAfter]
  | cons first rest ih =>
    unfold dedupeAfter
    split
    · exact List.subset_cons_of_subset _ (ih seen)
    · exact List.cons_subset_cons _ (ih _)

/-- Of every model one is kept that differs from it in descriptions alone. -/
theorem exists_mem_dedupeAfter (seen : List Model) {models : List Model} {m : Model}
    (hm : m ∈ models) :
    m.bare ∈ seen ∨ ∃ kept ∈ dedupeAfter seen models, kept.bare = m.bare := by
  induction models generalizing seen with
  | nil => simp at hm
  | cons first rest ih =>
    unfold dedupeAfter
    by_cases hseen : first.bare ∈ seen
    · simp only [hseen, if_true]
      rcases List.mem_cons.mp hm with rfl | hm
      · exact .inl hseen
      · exact ih seen hm
    · simp only [hseen, if_false]
      rcases List.mem_cons.mp hm with rfl | hm
      · exact .inr ⟨m, by simp, rfl⟩
      · rcases ih (seen ++ [first.bare]) hm with h | ⟨kept, hkept, e⟩
        · rcases List.mem_append.mp h with h | h
          · exact .inl h
          · exact .inr ⟨first, by simp, (List.mem_singleton.mp h).symm⟩
        · exact .inr ⟨kept, List.mem_cons_of_mem _ hkept, e⟩

/-- No two of the kept models are the same without descriptions, and none is one that was seen before. -/
theorem nodup_dedupeAfter (seen models : List Model) :
    ((dedupeAfter seen models).map bare).Nodup ∧
      ∀ m ∈ (dedupeAfter seen models).map bare, m ∉ seen := by
  induction models generalizing seen with
  | nil => simp [dedupeAfter]
  | cons first rest ih =>
    unfold dedupeAfter
    split
    · exact ih seen
    · next hfirst =>
      obtain ⟨hnodup, hfresh⟩ := ih (seen ++ [first.bare])
      have hrest : ∀ m ∈ (dedupeAfter (seen ++ [first.bare]) rest).map bare,
          m ∉ seen ∧ m ≠ first.bare := by
        intro m hm
        simpa using hfresh m hm
      rw [List.map_cons, List.nodup_cons, List.forall_mem_cons]
      exact ⟨⟨fun hm => (hrest _ hm).2 rfl, hnodup⟩, hfirst, fun m hm => (hrest m hm).1⟩

theorem mem_dedupe_bare {models : List Model} {m : Model} :
    m ∈ (dedupe models).map bare ↔ m ∈ models.map bare := by
  constructor
  · exact fun hm => List.map_subset _ (dedupeAfter_subset [] models) hm
  · intro hm
    obtain ⟨made, hmade, rfl⟩ := List.mem_map.mp hm
    rcases exists_mem_dedupeAfter [] hmade with h | ⟨kept, hkept, e⟩
    · simp at h
    · exact List.mem_map.mpr ⟨kept, hkept, e⟩

/-- The same models are kept, descriptions apart, in whatever order they come. -/
theorem dedupe_perm {models more : List Model} (h : models.Perm more) :
    ((dedupe models).map bare).Perm ((dedupe more).map bare) := by
  have hnodup := (nodup_dedupeAfter [] models).1
  refine (List.perm_ext_iff_of_nodup hnodup (nodup_dedupeAfter [] more).1).mpr fun m => ?_
  exact (mem_dedupe_bare.trans (h.map bare).mem_iff).trans mem_dedupe_bare.symm

theorem objects_bare (models : List Model) :
    objects (models.map bare) = (objects models).map ObjectModel.bare := by
  rw [objects, objects, List.filterMap_map, List.map_filterMap]
  refine List.filterMap_congr fun m _ => ?_
  cases m <;> rfl

theorem enumerations_bare (models : List Model) :
    enumerations (models.map bare) = enumerations models := by
  rw [enumerations, enumerations, List.filterMap_map]
  refine List.filterMap_congr fun m _ => ?_
  cases m <;> rfl

theorem dedupeAfter_append (seen models more : List Model) :
    dedupeAfter seen (models ++ more) =
      dedupeAfter seen models ++ dedupeAfter (seen ++ (dedupeAfter seen models).map bare) more := by
  induction models generalizing seen with
  | nil => simp [dedupeAfter]
  | cons first rest ih =>
    simp only [List.cons_append, dedupeAfter]
    split
    · exact ih seen
    · simp [ih]

theorem dedupeAfter_eq_nil {seen models : List Model} (h : ∀ m ∈ models, m.bare ∈ seen) :
    dedupeAfter seen models = [] := by
  induction models with
  | nil => rfl
  | cons first rest ih =>
    obtain ⟨hfirst, hrest⟩ := List.forall_mem_cons.mp h
    rw [dedupeAfter, if_pos hfirst, ih hrest]

theorem bare_mem_dedupeAfter (seen : List Model) {models : List Model} {m : Model}
    (hm : m.bare ∈ models.map bare) : m.bare ∈ seen ++ (dedupeAfter seen models).map bare := by
  obtain ⟨made, hmade, e⟩ := List.mem_map.mp hm
  rw [← e, List.mem_append, List.mem_map]
  exact exists_mem_dedupeAfter seen hmade

/-- Models that come again leave no trace. -/
theorem dedupeAfter_again {seen models again more : List Model}
    (h : ∀ m ∈ again, m.bare ∈ seen ∨ m ∈ models) :
    dedupeAfter seen (models ++ (again ++ more)) = dedupeAfter seen (models ++ more) := by
  have hagain : ∀ m ∈ again, m.bare ∈ seen ++ (dedupeAfter seen models).map bare := by
    intro m hm
    rcases h m hm with hbare | hmem
    · exact List.mem_append_left _ hbare
    · exact bare_mem_dedupeAfter seen (List.mem_map_of_mem hmem)
  have hnil := dedupeAfter_eq_nil hagain
  simp [dedupeAfter_append, hnil]

end Model

namespace ObjectModel

/-- The model without descriptions and subclasses. -/
def core (m : ObjectModel) : ObjectModel :=
  { m.bare with subclasses := [] }

theorem core_of_bare {m n : ObjectModel} (h : m.bare = n.bare) : m.core = n.core := by
  rw [core, core, h]

theorem core_link (m : ObjectModel) (subclasses : List SubclassName) :
    ({ m with subclasses } : ObjectModel).core = m.core := by
  cases m; rfl

/-- The model without descriptions, and its subclasses without their order. -/
def unordered (m : ObjectModel) : ObjectModel × Multiset SubclassName :=
  (m.core, m.subclasses)

theorem subclassesOf_bare (models : List ObjectModel) (name : String) :
    subclassesOf (models.map bare) name = subclassesOf models name := by
  have hsuperclass : (fun m : ObjectModel => m.superclassName == some name) ∘ bare =
      fun m => m.superclassName == some name := by
    funext m
    cases m; rfl
  have hnames : (fun m : ObjectModel => SubclassName.mk m.name m.specName) ∘ bare =
      fun m => ⟨m.name, m.specName⟩ := by
    funext m
    cases m; rfl
  rw [subclassesOf, subclassesOf, List.filter_map, List.map_map, hsuperclass, hnames]

theorem subclassesOf_perm {models more : List ObjectModel} (h : models.Perm more) (name : String) :
    (subclassesOf models name).Perm (subclassesOf more name) :=
  (h.filter _).map _

/-- Linked models are the same without descriptions if they were so before. -/
theorem linkSubclasses_perm {models more : List ObjectModel}
    (h : (models.map bare).Perm (more.map bare)) :
    ((linkSubclasses models).map unordered).Perm ((linkSubclasses more).map unordered) := by
  let link (models : List ObjectModel) (m : ObjectModel) : ObjectModel × Multiset SubclassName :=
    ({ m with subclasses := [] }, subclassesOf models m.name)
  have hlink : ∀ models, (linkSubclasses models).map unordered =
      (models.map bare).map (link (models.map bare)) := by
    intro models
    rw [linkSubclasses, List.map_map, List.map_map]
    refine List.map_congr_left fun m _ => ?_
    simp only [link, Function.comp, unordered, core_link, subclassesOf_bare]
    cases m; rfl
  -- a model has the same subclasses in both lists, since only their order depends on that of the list
  have hsame : link (more.map bare) = link (models.map bare) :=
    funext fun m => congrArg _ (Multiset.coe_eq_coe.mpr (subclassesOf_perm h m.name).symm)
  rw [hlink, hlink, hsame]
  exact h.map _

end ObjectModel

end SwaggerClient
