import Mathlib.Data.List.FinRange
import Mathlib.Data.List.Forall2
import SwaggerClient.Proofs.Model.Selection

namespace SwaggerClient

theorem forall₂_iff_map_eq {α β : Type} {f : α → β} {list more : List α} :
    List.Forall₂ (fun a b => f a = f b) list more ↔ list.map f = more.map f := by
  have h : List.Forall₂ (· = ·) (list.map f) (more.map f) ↔ list.map f = more.map f := by
    rw [List.forall₂_eq_eq_eq]
  rw [← h, List.forall₂_map_left_iff, List.forall₂_map_right_iff]

namespace Property

/-- The same property, perhaps with another description. -/
def Alike (p q : Property) : Prop :=
  ∃ description, q = { p with description }

theorem bare_eq_iff {p q : Property} : p.bare = q.bare ↔ p.Alike q := by
  constructor
  · intro h
    refine ⟨q.description, ?_⟩
    cases p
    cases q
    simpa [bare, eq_comm] using h
  · rintro ⟨description, rfl⟩
    rfl

theorem map_bare_eq_iff {ps qs : List Property} :
    ps.map bare = qs.map bare ↔ List.Forall₂ Alike ps qs := by
  rw [← forall₂_iff_map_eq]
  simp only [bare_eq_iff]

end Property

namespace ObjectModel

/-- The same model, perhaps with other descriptions of itself, its properties and the models in it, at every
depth. -/
inductive Alike : ObjectModel → ObjectModel → Prop
  | intro {m n : ObjectModel} (name : m.name = n.name) (specName : m.specName = n.specName)
    (superclassName : m.superclassName = n.superclassName)
    (properties : List.Forall₂ Property.Alike m.properties n.properties)
    (inherited : List.Forall₂ Property.Alike m.inheritedProperties n.inheritedProperties)
    (initializer : List.Forall₂ Property.Alike m.initializerProperties n.initializerProperties)
    (nested : List.Forall₂ Alike m.nestedModels n.nestedModels)
    (subclasses : m.subclasses = n.subclasses) (discriminator : m.discriminator = n.discriminator) :
    Alike m n

mutual

theorem bare_eq_iff : (m n : ObjectModel) → (m.bare = n.bare ↔ m.Alike n)
  | ⟨_, _, _, _, _, _, nested, _, _, _⟩, ⟨_, _, _, _, _, _, nested', _, _, _⟩ => by
    simp only [bare, mk.injEq, Property.map_bare_eq_iff, bareList_eq_iff nested nested']
    constructor
    · rintro ⟨name, specName, superclass, properties, inherited, initializer, models, subclasses,
        discriminator, -⟩
      exact .intro name specName superclass properties inherited initializer models subclasses
        discriminator
    · rintro ⟨name, specName, superclass, properties, inherited, initializer, models, subclasses,
        discriminator⟩
      exact ⟨name, specName, superclass, properties, inherited, initializer, models, subclasses,
        discriminator, trivial⟩

theorem bareList_eq_iff : (ms ns : List ObjectModel) → (bareList ms = bareList ns ↔ List.Forall₂ Alike ms ns)
  | [], ns => by cases ns <;> simp [bareList]
  | m :: ms, [] => by simp [bareList]
  | m :: ms, n :: ns => by
    simp only [bareList, List.cons.injEq, List.forall₂_cons, bare_eq_iff m n, bareList_eq_iff ms ns]

end

end ObjectModel

namespace Model

/-- The same model, perhaps with other descriptions. -/
inductive Alike : Model → Model → Prop
  | object {m n : ObjectModel} (h : m.Alike n) : Alike (.object m) (.object n)
  | enumeration (m : EnumModel) : Alike (.enumeration m) (.enumeration m)

theorem bare_eq_iff {m n : Model} : m.bare = n.bare ↔ m.Alike n := by
  cases m with
  | object m =>
    cases n with
    | object n =>
      rw [bare, bare, object.injEq, ObjectModel.bare_eq_iff]
      exact ⟨.object, fun h => by cases h; assumption⟩
    | enumeration n => exact ⟨nofun, nofun⟩
  | enumeration m =>
    cases n with
    | object n => exact ⟨nofun, nofun⟩
    | enumeration n =>
      rw [bare, bare, enumeration.injEq]
      exact ⟨fun h => h ▸ .enumeration m, fun h => by cases h; rfl⟩

instance : DecidableRel Alike := fun _ _ => decidable_of_iff _ bare_eq_iff

/-- No model before the place is the same but for descriptions. -/
def IsFirst (models : List Model) (i : Fin models.length) : Prop :=
  ∀ k < i, ¬models[k].Alike models[i]

instance (models : List Model) : DecidablePred (IsFirst models) :=
  fun i => inferInstanceAs (Decidable (∀ k < i, ¬models[k].Alike models[i]))

theorem isFirst_succ {first : Model} {rest : List Model} {i : Fin rest.length} :
    IsFirst (first :: rest) i.succ ↔ first.bare ≠ rest[i].bare ∧ IsFirst rest i := by
  refine Fin.forall_fin_succ.trans ?_
  simp [IsFirst, bare_eq_iff]

/-- Behind the first model those are kept that stand first there and are not the same as it. -/
theorem map_filter_succ {first : Model} {rest : List Model} {p : Fin (first :: rest).length → Bool}
    {q : Fin rest.length → Bool} (h : ∀ i, p (Fin.succ i) = q i) :
    (((List.finRange rest.length).map Fin.succ).filter p).map (fun i => (first :: rest)[i]) =
      ((List.finRange rest.length).filter q).map fun i => rest[i] := by
  rw [List.filter_map, List.map_map]
  congr 1
  exact List.filter_congr fun i _ => h i

/-- Of models that come behind others, those are kept that stand first and are not the same as one seen. -/
theorem dedupeAfter_eq (seen models : List Model) :
    dedupeAfter seen models =
      ((List.finRange models.length).filter fun i => models[i].bare ∉ seen ∧ IsFirst models i).map
        fun i => models[i] := by
  induction models generalizing seen with
  | nil => rfl
  | cons first rest ih =>
    have hplaces : List.finRange (first :: rest).length =
        (0 : Fin (rest.length + 1)) :: (List.finRange rest.length).map Fin.succ := List.finRange_succ
    have hzero : IsFirst (first :: rest) (0 : Fin (rest.length + 1)) := fun k hk => absurd hk (by simp)
    rw [hplaces]
    unfold dedupeAfter
    split
    · next hseen =>
      -- the first model takes no place, and what is the same as it has been seen, too
      rw [List.filter_cons_of_neg (by simp [hseen]), ih]
      refine (map_filter_succ fun i => decide_eq_decide.mpr ?_).symm
      rw [isFirst_succ]
      constructor
      · rintro ⟨hi, _, hfirst⟩
        exact ⟨hi, hfirst⟩
      · rintro ⟨hi, hfirst⟩
        exact ⟨hi, fun e => hi (e ▸ hseen), hfirst⟩
    · next hseen =>
      -- behind the first model it counts as seen, and that is what standing first adds there
      rw [List.filter_cons_of_pos (by simp [hseen, hzero]), List.map_cons, ih]
      refine congrArg (first :: ·) (map_filter_succ fun i => decide_eq_decide.mpr ?_).symm
      rw [isFirst_succ, List.mem_append, List.mem_singleton, not_or, and_assoc, ne_comm]
      rfl

theorem dedupe_eq (models : List Model) :
    dedupe models = ((List.finRange models.length).filter fun i => IsFirst models i).map
      fun i => models[i] := by
  simp [dedupe, dedupeAfter_eq]

theorem dedupe_sublist (models : List Model) : (dedupe models).Sublist models := by
  have hall : (List.finRange models.length).map (fun i => models[i]) = models :=
    List.map_getElem_finRange models
  have hsub := (List.filter_sublist (l := List.finRange models.length)
    (p := fun i => IsFirst models i)).map fun i => models[i]
  rwa [← dedupe_eq, hall] at hsub

/-- Of the models that are the same as the one at a place, one is kept; it stands there or before. -/
theorem exists_first (models : List Model) (i : Fin models.length) :
    ∃ k ≤ i, IsFirst models k ∧
      (dedupe models).filter (fun m => m.Alike models[i]) = [models[k]] := by
  obtain h | ⟨kept, hkept, e⟩ := exists_mem_dedupeAfter [] (List.getElem_mem i.isLt)
  · simp at h
  have honly := filter_eq_singleton (nodup_dedupeAfter [] models).1 hkept
  rw [← dedupe, dedupe_eq] at hkept
  obtain ⟨k, hk, rfl⟩ := List.mem_map.mp hkept
  have hfirst : IsFirst models k := by simpa using (List.mem_filter.mp hk).2
  refine ⟨k, ?_, hfirst, ?_⟩
  · by_contra hlt
    exact hfirst i (not_le.mp hlt) (bare_eq_iff.mp e.symm)
  · rw [← honly, ← dedupe]
    refine List.filter_congr fun m _ => decide_eq_decide.mpr ?_
    rw [← bare_eq_iff, e]
    rfl

theorem dedupe_append (models : List Model) {more : List Model}
    (h : ∀ m ∈ more, ∃ n ∈ models, n.Alike m) : dedupe (models ++ more) = dedupe models := by
  have hseen : ∀ m ∈ more, m.bare ∈ [] ++ (dedupeAfter [] models).map bare := by
    intro m hm
    obtain ⟨n, hn, halike⟩ := h m hm
    exact bare_mem_dedupeAfter [] (List.mem_map.mpr ⟨n, hn, bare_eq_iff.mpr halike⟩)
  rw [dedupe, dedupeAfter_append, dedupeAfter_eq_nil hseen, List.append_nil]
  rfl

theorem dedupe_pairwise (models : List Model) :
    (dedupe models).Pairwise fun m n => ¬m.Alike n :=
  (List.pairwise_map.mp (nodup_dedupeAfter [] models).1).imp fun h => mt bare_eq_iff.mpr h

/-- Models of which no two are the same are all kept. -/
theorem dedupe_of_pairwise {models : List Model} (h : models.Pairwise fun m n => ¬m.Alike n) :
    dedupe models = models := by
  have hall : ∀ i : Fin models.length, IsFirst models i :=
    fun i k hk => List.pairwise_iff_getElem.mp h k i k.isLt i.isLt hk
  rw [dedupe_eq, List.filter_eq_self.mpr fun i _ => decide_eq_true (hall i)]
  exact List.map_getElem_finRange models

/-- Kept are, unchanged and in order, the models before which none is the same but for descriptions. No two
of them are the same in that sense, and of the models that are the same as a given one the kept one stands
there or before. Models that are the same as some before them add nothing. -/
theorem dedupe_firsts (models : List Model) :
    dedupe models = ((List.finRange models.length).filter fun i => IsFirst models i).map
      (fun i => models[i]) ∧
    (dedupe models).Sublist models ∧
    (dedupe models).Pairwise (fun m n => ¬m.Alike n) ∧
    (∀ i : Fin models.length, ∃ k ≤ i, IsFirst models k ∧
      (dedupe models).filter (fun m => m.Alike models[i]) = [models[k]]) ∧
    (∀ more, (∀ m ∈ more, ∃ n ∈ models, n.Alike m) → dedupe (models ++ more) = dedupe models) ∧
    dedupe (dedupe models) = dedupe models :=
  ⟨dedupe_eq models, dedupe_sublist models, dedupe_pairwise models, exists_first models,
    fun _ => dedupe_append models, dedupe_of_pairwise (dedupe_pairwise models)⟩

end Model

end SwaggerClient
