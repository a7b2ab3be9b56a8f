import Mathlib.Data.Set.Finite.Lattice
import SwaggerClient.Proofs.Model.Endless
import SwaggerClient.Proofs.Reference.Bound
import SwaggerClient.Proofs.Schema.Height

namespace SwaggerClient.ModelSynthesis

open Document

variable {x : ModelSynthesis} {c c' : Call} {base full : Schema} {way : Nat → Call}

/-- The call makes an object model. -/
def IsObject (x : ModelSynthesis) (c : Call) : Prop :=
  ∃ base full properties, x.Opens c base full ∧ full.shape = .object properties

/-- The call makes the type of an array or a map from that of the schema in it. -/
def IsContainer (x : ModelSynthesis) (c : Call) : Prop :=
  ∃ base full, x.Opens c base full ∧
    ((∃ items, full.shape = .array (some items)) ∨
      ∃ type format value, full.shape = .primitive type format ∧
        full.additional = some (.schema value))

/-- A reference names the schema of the call. -/
def Named (c : Call) : Prop :=
  c.schema.reference.isSome

/-- The call follows the reference: that of its schema, one that this leads to, or one of a composition
in what is left. -/
def FollowsAt (x : ModelSynthesis) (c : Call) (r : String) : Prop :=
  ∃ base full, x.Opens c base full ∧ ∃ refs u, r ∈ refs ∧
    (x.document.Follows .onlyReferences c.schema refs u ∨
      x.document.Follows (.full (superclassReference base)) base refs u)

section References

variable {Q : String → Prop} (hQ : x.document.Closed Q)

include hQ

/-- What is nested in a call has no references but those of what is left of its schema when its own
references are replaced, and those that come up from there. -/
theorem Opens.referencesHave (hopens : x.Opens c base full) (hbase : base.ReferencesHave Q)
    (hmem : c' ∈ x.nested c (superclassReference base) full) : c'.schema.ReferencesHave Q := by
  have hfull : full.ReferencesHave Q :=
    (expands_of_resolve hopens.resolvesFull).referencesHave hQ hbase
  rcases mem_nested_iff.mp hmem with ⟨items, hs, rfl⟩ | ⟨_, _, value, _, ha, rfl⟩ |
    ⟨properties, hs, ⟨p, hp, rfl⟩ | ⟨r, hr, rfl⟩⟩
  · exact hfull.items (Schema.items_of_shape hs)
  · exact hfull.additional ha
  · exact hfull.property (Schema.shape_eq_object_iff.mp hs).2.1 hp
  · obtain ⟨m, hm, hmr⟩ := superclassReference_eq_some hr
    exact Schema.referencesHave_reference ((hbase.member hm).here r hmr)

theorem Needs.referencesHave (h : x.Needs c c') (hc : c.schema.ReferencesHave Q) :
    c'.schema.ReferencesHave Q := by
  obtain ⟨base, full, hopens, hmem⟩ := h
  have hbase : base.ReferencesHave Q :=
    (expands_of_resolve hopens.resolvesBase).referencesHave hQ hc
  exact hopens.referencesHave hQ hbase hmem

end References

/-- The references in the schema of a call, and in what references lead to, are all that come up in its
run. -/
theorem Enters.referencesIn {U : Finset String}
    (hlook : ∀ r t, x.document.lookupSchema r = .ok t → t.ReferencesIn U) (h : x.Enters c c')
    (hc : c.schema.ReferencesIn U) : c'.schema.ReferencesIn U :=
  h.needs.referencesHave (Q := (· ∈ U)) (fun r t _ => hlook r t) hc

theorem FollowsAt.reference_in {U : Finset String}
    (hlook : ∀ r t, x.document.lookupSchema r = .ok t → t.ReferencesIn U) {r : String}
    (h : x.FollowsAt c r) (hc : c.schema.ReferencesIn U) : r ∈ U := by
  obtain ⟨base, full, hopens, refs, u, hr, hu⟩ := h
  have hclosed : x.document.Closed (· ∈ U) := fun r t _ => hlook r t
  have hbase : base.ReferencesIn U :=
    (expands_of_resolve hopens.resolvesBase).referencesHave hclosed hc
  rcases hu with hu | hu
  · exact (hu.referencesHave hclosed hc).1 r hr
  · exact (hu.referencesHave hclosed hbase).1 r hr

theorem Enters.building_subset (h : x.Enters c c') : c.building ⊆ c'.building := by
  obtain ⟨base, full, _, hmem⟩ := h.needs
  rcases mem_nested_iff.mp hmem with ⟨_, _, rfl⟩ | ⟨_, _, _, _, _, rfl⟩ |
    ⟨_, _, ⟨_, _, rfl⟩ | ⟨_, _, rfl⟩⟩
  · exact List.Subset.refl _
  · exact List.Subset.refl _
  · exact List.subset_cons_self _ _
  · exact List.subset_cons_self _ _

theorem Enters.name_mem (h : x.Enters c c') (hobject : x.IsObject c) :
    x.nameOf c ∈ c'.building := by
  obtain ⟨base, full, before, after, hopens, hsplit, _⟩ := h
  obtain ⟨_, _, properties, hopens', hs⟩ := hobject
  obtain ⟨rfl, rfl⟩ := hopens.unique hopens'
  have hmem : c' ∈ x.nested c (superclassReference base) full := by simp [hsplit]
  rcases mem_nested_iff.mp hmem with ⟨_, hs', _⟩ | ⟨_, _, _, hs', _⟩ |
    ⟨_, _, ⟨_, _, rfl⟩ | ⟨_, _, rfl⟩⟩
  · rw [hs] at hs'
    cases hs'
  · rw [hs] at hs'
    cases hs'
  · exact List.mem_cons_self
  · exact List.mem_cons_self

theorem Enters.isObject_or_isContainer (h : x.Enters c c') : x.IsObject c ∨ x.IsContainer c := by
  obtain ⟨base, full, hopens, hmem⟩ := h.needs
  rcases mem_nested_iff.mp hmem with ⟨items, hs, _⟩ | ⟨type, format, value, hs, ha, _⟩ |
    ⟨properties, hs, _⟩
  · exact .inr ⟨base, full, hopens, .inl ⟨items, hs⟩⟩
  · exact .inr ⟨base, full, hopens, .inr ⟨type, format, value, hs, ha⟩⟩
  · exact .inl ⟨base, full, properties, hopens, hs⟩

/-- Where two calls one after the other follow no reference, the schema of the second is less deep. -/
theorem Enters.heightAtMost (h : x.Enters c c') (hopens' : ∃ base full, x.Opens c' base full)
    (hc : ∀ r, ¬x.FollowsAt c r) (hc' : ∀ r, ¬x.FollowsAt c' r) {n : Nat}
    (hs : c.schema.HeightAtMost (n + 1)) : c'.schema.HeightAtMost n := by
  obtain ⟨base, full, hopens, hmem⟩ := h.needs
  have hbase : base.HeightAtMost (n + 1) := by
    refine (expands_of_resolve hopens.resolvesBase).heightAtMost (fun refs u hu => ?_) hs
    by_contra hne
    obtain ⟨r, hr⟩ := List.exists_mem_of_ne_nil refs hne
    exact hc r ⟨base, full, hopens, refs, u, hr, .inl hu⟩
  have hfull : full.HeightAtMost (n + 1) := by
    refine (expands_of_resolve hopens.resolvesFull).heightAtMost (fun refs u hu => ?_) hbase
    by_contra hne
    obtain ⟨r, hr⟩ := List.exists_mem_of_ne_nil refs hne
    exact hc r ⟨base, full, hopens, refs, u, hr, .inr hu⟩
  rcases mem_nested_iff.mp hmem with ⟨items, hs, rfl⟩ | ⟨_, _, value, _, ha, rfl⟩ |
    ⟨properties, hs, ⟨p, hp, rfl⟩ | ⟨r, hr, rfl⟩⟩
  · exact hfull _ (Schema.items_mem_children (Schema.items_of_shape hs))
  · exact hfull _ (Schema.additional_mem_children ha)
  · exact hfull _ (Schema.property_mem_children (Schema.shape_eq_object_iff.mp hs).2.1 hp)
  · -- the call for a superclass follows its reference
    obtain ⟨base', full', hopens'⟩ := hopens'
    have hexpands := expands_of_resolve hopens'.resolvesBase
    cases hexpands with
    | unchanged hf => cases hf
    | members _ hf => cases hf
    | follow f hf _ hleads _ _ =>
      exact absurd ⟨base', full', hopens', _, _, List.mem_cons_self, .inl (.reference hf hleads .here)⟩
        (hc' _)

theorem exists_bound {S : Set Nat} (h : S.Finite) : ∃ n, ∀ i, n ≤ i → i ∉ S := by
  obtain ⟨n, hn⟩ := h.bddAbove
  refine ⟨n + 1, fun i hi hmem => ?_⟩
  have hle : i ≤ n := hn hmem
  omega

namespace Way

variable (h : x.Way c way)

include h

theorem opens (i : Nat) : ∃ base full, x.Opens (way i) base full := by
  obtain ⟨base, full, _, _, hopens, _⟩ := h.enters i
  exact ⟨base, full, hopens⟩

/-- All references on a way are among finitely many. -/
theorem exists_references : ∃ U : Finset String, (∀ i, (way i).schema.ReferencesIn U) ∧
    ∀ r t, x.document.lookupSchema r = .ok t → t.ReferencesIn U := by
  obtain ⟨U, _, hs, hlook⟩ := Document.exists_references x.document c.schema
  refine ⟨U, fun i => ?_, hlook⟩
  induction i with
  | zero =>
    rw [h.start]
    exact hs
  | succ i ih => exact (h.enters i).referencesIn hlook ih

theorem building_subset {i j : Nat} (hij : i ≤ j) : (way i).building ⊆ (way j).building := by
  induction hij with
  | refl => exact List.Subset.refl _
  | step _ ih => exact List.Subset.trans ih (h.enters _).building_subset

/-- No two objects that references name have one name: that of the first is under construction when the
second is come to. -/
theorem name_ne {i j : Nat} (hij : i < j) (hi : x.IsObject (way i)) (hj : Named (way j)) :
    x.nameOf (way i) ≠ x.nameOf (way j) := by
  intro hname
  have hmem := h.building_subset (Nat.succ_le_of_lt hij) ((h.enters i).name_mem hi)
  obtain ⟨_, _, hopens⟩ := h.opens j
  exact hopens.unguarded hj (hname ▸ hmem)

/-- A way comes to finitely many objects that references name. -/
theorem finite_named : {i | x.IsObject (way i) ∧ Named (way i)}.Finite := by
  obtain ⟨U, hU, _⟩ := h.exists_references
  apply Set.Finite.of_finite_image (f := fun i => x.nameOf (way i))
  · apply (U.image x.target.rules.classNameOfReference).finite_toSet.subset
    rintro _ ⟨i, ⟨_, hnamed⟩, rfl⟩
    obtain ⟨r, hr⟩ := Option.isSome_iff_exists.mp hnamed
    show x.nameOf (way i) ∈ _
    rw [nameOf_of_reference hr, Finset.coe_image]
    exact Set.mem_image_of_mem _ ((hU i).here r hr)
  · rintro i ⟨hi, hi'⟩ j ⟨hj, hj'⟩ hname
    rcases Nat.lt_trichotomy i j with hlt | heq | hgt
    · exact absurd hname (h.name_ne hlt hi hj')
    · exact heq
    · exact absurd hname.symm (h.name_ne hgt hj hi')

/-- From no call on does a way follow no reference: its schemas would become less and less deep. -/
theorem exists_follows (n : Nat) : ∃ i, n ≤ i ∧ ∃ r, x.FollowsAt (way i) r := by
  by_contra hnone
  have hnone' : ∀ i, n ≤ i → ∀ r, ¬x.FollowsAt (way i) r :=
    fun i hi r hr => hnone ⟨i, hi, r, hr⟩
  have hdescent : ∀ height i, n ≤ i → ¬(way i).schema.HeightAtMost height := by
    intro height
    induction height with
    | zero => exact fun i _ hs => hs
    | succ height ih =>
      intro i hi hs
      have hnext := (h.enters i).heightAtMost (h.opens (i + 1)) (hnone' i hi)
        (hnone' (i + 1) (by omega)) hs
      exact ih (i + 1) (by omega) hnext
  exact hdescent _ n le_rfl (Schema.heightAtMost_size _)

/-- A way follows some reference again and again. -/
theorem exists_infinite_follows : ∃ r, {i | x.FollowsAt (way i) r}.Infinite := by
  by_contra hnone
  have hfinite : ∀ r, {i | x.FollowsAt (way i) r}.Finite := fun r => by
    by_contra hr
    exact hnone ⟨r, hr⟩
  obtain ⟨U, hU, hlook⟩ := h.exists_references
  have hall : (⋃ r ∈ U, {i | x.FollowsAt (way i) r}).Finite :=
    U.finite_toSet.biUnion fun r _ => hfinite r
  obtain ⟨n, hn⟩ := exists_bound hall
  obtain ⟨i, hi, r, hr⟩ := h.exists_follows n
  have hmem : i ∈ ⋃ r ∈ U, {i | x.FollowsAt (way i) r} := by
    simp only [Set.mem_iUnion]
    exact ⟨r, hr.reference_in hlook (hU i), hr⟩
  exact hn i hi hmem

end Way

/-- Arrays and maps stand inside one another for ever, from some call on with no object between them. -/
def Bottomless (x : ModelSynthesis) (c : Call) : Prop :=
  ∃ way, x.Way c way ∧ ∃ n, ∀ i, n ≤ i → x.IsContainer (way i)

/-- Objects stand inside one another for ever, all but finitely many of them declared in place, so that
the names under construction are not consulted; and some reference is followed again and again. -/
structure TangledAlong (x : ModelSynthesis) (way : Nat → Call) : Prop where
  inPlace : {i | x.IsObject (way i) ∧ ¬Named (way i)}.Infinite
  named : {i | x.IsObject (way i) ∧ Named (way i)}.Finite
  follows : ∃ r, {i | x.FollowsAt (way i) r}.Infinite

def Tangled (x : ModelSynthesis) (c : Call) : Prop :=
  ∃ way, x.Way c way ∧ x.TangledAlong way

/-- After the last object on a way there are arrays and maps alone. -/
theorem Way.bottomless (h : x.Way c way)
    (hinPlace : {i | x.IsObject (way i) ∧ ¬Named (way i)}.Finite) : x.Bottomless c := by
  obtain ⟨n, hn⟩ := exists_bound (h.finite_named.union hinPlace)
  refine ⟨way, h, n, fun i hi => ?_⟩
  rcases (h.enters i).isObject_or_isContainer with hobject | hcontainer
  · by_cases hname : Named (way i)
    · exact absurd (.inl ⟨hobject, hname⟩) (hn i hi)
    · exact absurd (.inr ⟨hobject, hname⟩) (hn i hi)
  · exact hcontainer

/-- A call has a result after finitely many calls inside one another exactly if there is no way from it on
which arrays and maps stand inside one another for ever with no object between them, and none on which
objects that are declared in place do, with some reference followed again and again. -/
theorem ends_iff (x : ModelSynthesis) (c : Call) :
    (∃ depth, x.run depth c ≠ .error .endless) ↔ ¬x.Bottomless c ∧ ¬x.Tangled c := by
  rw [← not_endless_iff, endless_iff_exists_way, ← not_or, not_iff_not]
  constructor
  · rintro ⟨way, hway⟩
    by_cases hinPlace : {i | x.IsObject (way i) ∧ ¬Named (way i)}.Finite
    · exact .inl (hway.bottomless hinPlace)
    · exact .inr ⟨way, hway, hinPlace, hway.finite_named, hway.exists_infinite_follows⟩
  · rintro (⟨way, hway, _⟩ | ⟨way, hway, _⟩)
    · exact ⟨way, hway⟩
    · exact ⟨way, hway⟩

/-- What is left of a schema in a call for it: when references are followed, and when compositions are
replaced, too. -/
def opened (x : ModelSynthesis) (s : Schema) : Option (Schema × Schema) :=
  match x.document.resolve .onlyReferences s with
  | .error _ => none
  | .ok base =>
    match x.document.resolve (.full (superclassReference base)) base with
    | .error _ => none
    | .ok full => some (base, full)

/-- The schemas of the calls nested in a call for a schema. -/
def inner (x : ModelSynthesis) (s : Schema) : List Schema :=
  match x.opened s with
  | none => []
  | some (base, full) =>
    match full.shape with
    | .enumeration _ _ => []
    | .array items => items.toList
    | .object properties =>
      properties.map Prod.snd ++
        (superclassReference base).toList.map fun r => { reference := some r }
    | .primitive _ _ => (full.additional.bind Additional.value?).toList

/-- A call for the schema makes an array or a map. -/
def hasContents (x : ModelSynthesis) (s : Schema) : Bool :=
  match x.opened s with
  | none => false
  | some (_, full) =>
    match full.shape with
    | .array items => items.isSome
    | .primitive _ _ => (full.additional.bind Additional.value?).isSome
    | _ => false

theorem Opens.opened_eq (h : x.Opens c base full) : x.opened c.schema = some (base, full) := by
  simp [opened, h.resolvesBase, h.resolvesFull]

theorem Enters.schema_mem_inner (h : x.Enters c c') : c'.schema ∈ x.inner c.schema := by
  obtain ⟨base, full, hopens, hmem⟩ := h.needs
  have hschema := List.mem_map_of_mem (f := Call.schema) hmem
  rw [inner, hopens.opened_eq]
  cases hs : full.shape with
  | enumeration type values => simp [nested, hs] at hschema
  | array items => simpa [nested, hs, Function.comp_def] using hschema
  | object properties =>
    simpa [nested, hs, propertyCall, superclassCall, Function.comp_def] using hschema
  | primitive type format => simpa [nested, hs, Function.comp_def] using hschema

theorem IsContainer.hasContents (h : x.IsContainer c) : x.hasContents c.schema := by
  obtain ⟨base, full, hopens, ⟨items, hs⟩ | ⟨type, format, value, hs, ha⟩⟩ := h
  · simp [ModelSynthesis.hasContents, hopens.opened_eq, hs]
  · simp [ModelSynthesis.hasContents, hopens.opened_eq, hs, ha, Additional.value?]

/-- A call is not bottomless if its schema is one of some that lead to no others, and none of these that
makes an array or a map leads to another that does. -/
theorem not_bottomless (schemas : List Schema) (hc : c.schema ∈ schemas)
    (hinner : ∀ s ∈ schemas, x.inner s ⊆ schemas)
    (hcontents : ∀ s ∈ schemas, x.hasContents s → ∀ t ∈ x.inner s, ¬x.hasContents t) :
    ¬x.Bottomless c := by
  rintro ⟨way, hway, n, hn⟩
  have hmem : ∀ i, (way i).schema ∈ schemas := by
    intro i
    induction i with
    | zero =>
      rw [hway.start]
      exact hc
    | succ i ih => exact hinner _ ih (hway.enters i).schema_mem_inner
  have hnot := hcontents _ (hmem n) (hn n le_rfl).hasContents _ (hway.enters n).schema_mem_inner
  exact hnot (hn (n + 1) (by omega)).hasContents

def linksJson : Json :=
  .object [
    ("paths", .object []),
    ("definitions", .object [
      ("Base", .object [("properties", .object [("id", .object [("type", .string "string")])])]),
      ("Node", .object [("properties", .object [
        ("next", .object [
          ("properties", .object [("weight", .object [("type", .string "integer")])]),
          ("allOf", .array [
            .object [("$ref", .string "#/definitions/Base")],
            .object [("$ref", .string "#/definitions/Node")]])])])])])]

def linkBase : Schema :=
  { properties := some [("id", { type := some "string" })] }

/-- What comes next after a node: a base and a node, declared in place. -/
def linkNext : Schema :=
  { properties := some [("weight", { type := some "integer" })]
    allOf := some [
      { reference := some "#/definitions/Base" }, { reference := some "#/definitions/Node" }] }

def linkNode : Schema :=
  { properties := some [("next", linkNext)] }

/-- A document without arrays and maps, in which a node is in what comes next after it. -/
def links : Document where
  raw := linksJson.settle
  contents := { definitions := [("Base", linkBase), ("Node", linkNode)] }
  reads := rfl
  distinct := linksJson.settle_distinct

def linkModels : ModelSynthesis := ⟨links, Language.swift.target ⟨[]⟩, false⟩

def forestJson : Json :=
  .object [
    ("paths", .object []),
    ("definitions", .object [
      ("Tree", .object [
        ("type", .string "object"),
        ("additionalProperties", .object [
          ("type", .string "object"),
          ("properties", .object [
            ("branches", .object [("$ref", .string "#/definitions/Tree")])])])])])]

def treeValue : Schema :=
  { type := some "object"
    properties := some [("branches", { reference := some "#/definitions/Tree" })] }

def tree : Schema :=
  { type := some "object", additional := some (.schema treeValue) }

/-- A document in which trees are maps to objects with trees. -/
def forest : Document where
  raw := forestJson.settle
  contents := { definitions := [("Tree", tree)] }
  reads := rfl
  distinct := forestJson.settle_distinct

def forestModels : ModelSynthesis := ⟨forest, Language.swift.target ⟨[]⟩, false⟩

theorem linkNext_endless (depth : Nat) (building : List String) (name : String) :
    linkModels.run depth ⟨building, linkNext, name⟩ = .error .endless := by
  induction depth generalizing building name with
  | zero => rfl
  | succ depth ih =>
    have henters : linkModels.Enters ⟨building, linkNext, name⟩
        (linkModels.propertyCall ⟨building, linkNext, name⟩ "next" linkNext) :=
      ⟨linkNext, _, [], _, ⟨nofun, rfl, rfl⟩, rfl, by simp⟩
    exact henters.run_endless (ih _ _)

theorem linkNode_endless : linkModels.Endless ⟨[], linkNode, "Node"⟩ := by
  intro depth
  have henters : linkModels.Enters ⟨[], linkNode, "Node"⟩
      (linkModels.propertyCall ⟨[], linkNode, "Node"⟩ "next" linkNext) :=
    ⟨linkNode, _, [], _, ⟨nofun, rfl, rfl⟩, rfl, by simp⟩
  have hend := henters.run_endless (linkNext_endless depth _ _)
  exact run_endless_of_le (Nat.le_succ _) hend

/-- The schemas that the run for a node comes to. -/
def linkSchemas : List Schema :=
  [linkNode, linkNext, { type := some "string" }, { type := some "integer" },
    { reference := some "#/definitions/Base" }]

theorem linkNode_not_bottomless : ¬linkModels.Bottomless ⟨[], linkNode, "Node"⟩ := by
  have hinner : linkSchemas.map linkModels.inner =
      [[linkNext], [linkNext, { type := some "integer" }, { reference := some "#/definitions/Base" }],
        [], [], [{ type := some "string" }]] := rfl
  simp only [linkSchemas, List.map_cons, List.map_nil, List.cons.injEq] at hinner
  apply not_bottomless linkSchemas
  · simp [linkSchemas]
  · simp [linkSchemas, hinner]
  · decide

/-- A tree makes a map, so its name is never under construction and no reference to it is stopped. -/
theorem treeValue_endless (depth : Nat) (building : List String) (hfree : "Tree" ∉ building) :
    forestModels.run depth ⟨building, treeValue, ""⟩ = .error .endless := by
  induction depth generalizing building with
  | zero => rfl
  | succ depth ih =>
    have hproperty : forestModels.Enters ⟨building, treeValue, ""⟩
        (forestModels.propertyCall ⟨building, treeValue, ""⟩ "branches"
          { reference := some "#/definitions/Tree" }) :=
      ⟨treeValue, treeValue, [], _, ⟨nofun, rfl, rfl⟩, rfl, by simp⟩
    have hname : forestModels.modelName treeValue "" ≠ "Tree" := by decide
    have hfree' : "Tree" ∉ forestModels.modelName treeValue "" :: building := by
      rw [List.mem_cons, not_or]
      exact ⟨hname.symm, hfree⟩
    have hvalue : forestModels.Enters
        (forestModels.propertyCall ⟨building, treeValue, ""⟩ "branches"
          { reference := some "#/definitions/Tree" })
        ⟨forestModels.modelName treeValue "" :: building, treeValue, ""⟩ :=
      ⟨tree, tree, [], _, ⟨fun _ => hfree', rfl, rfl⟩, rfl, by simp⟩
    have hend := hvalue.run_endless (ih _ hfree')
    exact hproperty.run_endless (run_endless_of_le (Nat.le_succ _) hend)

theorem tree_endless : forestModels.Endless ⟨[], tree, "Tree"⟩ := by
  intro depth
  have henters : forestModels.Enters ⟨[], tree, "Tree"⟩ ⟨[], treeValue, ""⟩ :=
    ⟨tree, tree, [], _, ⟨nofun, rfl, rfl⟩, rfl, by simp⟩
  have hend := henters.run_endless (treeValue_endless depth [] (by simp))
  exact run_endless_of_le (Nat.le_succ _) hend

/-- The schemas that the run for a tree comes to. -/
def treeSchemas : List Schema :=
  [tree, treeValue, { reference := some "#/definitions/Tree" }]

theorem tree_not_bottomless : ¬forestModels.Bottomless ⟨[], tree, "Tree"⟩ := by
  have hinner : treeSchemas.map forestModels.inner =
      [[treeValue], [{ reference := some "#/definitions/Tree" }], [treeValue]] := rfl
  simp only [treeSchemas, List.map_cons, List.map_nil, List.cons.injEq] at hinner
  apply not_bottomless treeSchemas
  · simp [treeSchemas]
  · simp [treeSchemas, hinner]
  · decide

/-- Neither a node nor a tree is an array or a map within another without an object between them, and
calls for them go on for ever. -/
theorem endless_in_place :
    (¬linkModels.Bottomless ⟨[], linkNode, "Node"⟩ ∧
      ∀ depth, linkModels.within depth [] linkNode "Node" = .error .endless) ∧
    ¬forestModels.Bottomless ⟨[], tree, "Tree"⟩ ∧
      ∀ depth, forestModels.within depth [] tree "Tree" = .error .endless :=
  ⟨⟨linkNode_not_bottomless, linkNode_endless⟩, tree_not_bottomless, tree_endless⟩

end SwaggerClient.ModelSynthesis
