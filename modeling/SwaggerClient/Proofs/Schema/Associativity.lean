import SwaggerClient.Proofs.Schema.Merge

namespace SwaggerClient.Schema

def property? (s : Schema) (key : String) : Option Schema :=
  Entries.get? key (s.properties.getD [])

theorem property?_mem_children {s x : Schema} {key : String} (h : s.property? key = some x) :
    x ∈ s.children :=
  mem_children.mpr (.inl ⟨(key, x), Entries.mem_of_get? h, rfl⟩)

mutual

/-- What is left of a schema for a third one when another is merged over it: where that one gives additional
properties by a truth value, those of the schema are gone. -/
def seenThrough : Schema → (middle : Schema) → Schema
  | ⟨reference, type, format, description, properties, required, items, additional, values, allOf,
      discriminator⟩, middle =>
    ⟨reference, type, format, description, seenProperties properties middle.properties, required,
      seenItems items middle.items, seenAdditional additional middle.additional, values, allOf,
      discriminator⟩
termination_by structural s => s

def seenProperties : Option (List (String × Schema)) → (middle : Option (List (String × Schema))) →
    Option (List (String × Schema))
  | none, _ => none
  | some properties, middle => some (seenEntries properties (middle.getD []))
termination_by structural properties => properties

def seenEntries : List (String × Schema) → (middle : List (String × Schema)) → List (String × Schema)
  | [], _ => []
  | (key, s) :: rest, middle =>
    match Entries.get? key middle with
    | none => (key, s) :: seenEntries rest middle
    | some t => (key, seenThrough s t) :: seenEntries rest middle
termination_by structural entries => entries

def seenItems : Option Schema → (middle : Option Schema) → Option Schema
  | none, _ => none
  | some s, none => some s
  | some s, some t => some (seenThrough s t)
termination_by structural items => items

def seenAdditional : Option (Additional Schema) → (middle : Option (Additional Schema)) →
    Option (Additional Schema)
  | none, _ => none
  | some (.allowed any), _ => some (.allowed any)
  | some (.schema s), none => some (.schema s)
  | some (.schema _), some (.allowed _) => none
  | some (.schema s), some (.schema t) => some (.schema (seenThrough s t))
termination_by structural additional => additional

end

theorem seenThrough_eq (s middle : Schema) :
    s.seenThrough middle = { s with
      properties := seenProperties s.properties middle.properties
      items := seenItems s.items middle.items
      additional := seenAdditional s.additional middle.additional } := by
  cases s; rfl

theorem keys_seenEntries (entries middle : List (String × Schema)) :
    Entries.keys (seenEntries entries middle) = Entries.keys entries := by
  induction entries with
  | nil => rfl
  | cons entry rest ih =>
    obtain ⟨key, s⟩ := entry
    simp only [Entries.keys] at ih
    cases h : Entries.get? key middle <;> simp [seenEntries, h, Entries.keys, ih]

theorem get?_seenEntries (key : String) (entries middle : List (String × Schema)) :
    Entries.get? key (seenEntries entries middle) =
      seenItems (Entries.get? key entries) (Entries.get? key middle) := by
  induction entries with
  | nil => rfl
  | cons entry rest ih =>
    obtain ⟨k, s⟩ := entry
    by_cases hk : k = key
    · subst hk
      cases h : Entries.get? k middle <;> simp [seenEntries, Entries.get?, seenItems, h]
    · cases h : Entries.get? k middle <;> simp [seenEntries, Entries.get?, h, hk, ih]

theorem isSome_seenProperties (properties middle : Option (List (String × Schema))) :
    (seenProperties properties middle).isSome = properties.isSome := by
  cases properties <;> rfl

theorem getD_seenProperties (properties middle : Option (List (String × Schema))) :
    (seenProperties properties middle).getD [] = seenEntries (properties.getD []) (middle.getD []) := by
  cases properties <;> rfl

theorem mergeItems_eq (a b : Option Schema) : mergeItems a b = Option.merge merge a b := by
  cases a <;> cases b <;> rfl

theorem isSome_mergeProperties (a b : Option (List (String × Schema))) :
    (mergeProperties a b).isSome = (a.isSome || b.isSome) := by
  cases b <;> simp [mergeProperties]

theorem getD_mergeProperties (a b : Option (List (String × Schema))) :
    (mergeProperties a b).getD [] = Entries.mergeWith merge (a.getD []) (b.getD []) := by
  cases b with
  | none => rfl
  | some properties => simp [mergeProperties, mergeEntries_eq_mergeWith]

theorem eq_iff_of_isSome {α : Type} {a b : Option (List α)} (h : a.isSome = b.isSome) :
    a = b ↔ a.getD [] = b.getD [] := by
  cases a <;> cases b <;> simp_all

theorem distinct_properties {s : Schema} (h : s.KeysDistinct) :
    Entries.Distinct (s.properties.getD []) := by
  cases hp : s.properties with
  | none => exact List.nodup_nil
  | some properties => exact h properties hp

/-- Two groupings of three optional schemas; the first may be another in one than in the other. -/
def SameGrouped (x x' y z : Option Schema) : Prop :=
  Option.merge merge (Option.merge merge x y) z = Option.merge merge x' (Option.merge merge y z)

theorem mergeProperties_eq_iff {a b c : Schema} (ha : a.KeysDistinct) (hb : b.KeysDistinct)
    (hc : c.KeysDistinct) {properties : Option (List (String × Schema))}
    (hsome : a.properties.isSome = properties.isSome)
    (hkeys : Entries.keys (a.properties.getD []) = Entries.keys (properties.getD [])) :
    mergeProperties (mergeProperties a.properties b.properties) c.properties =
        mergeProperties properties (mergeProperties b.properties c.properties) ↔
      ∀ key, SameGrouped (a.property? key) (Entries.get? key (properties.getD [])) (b.property? key)
        (c.property? key) := by
  rw [eq_iff_of_isSome]
  · simp only [getD_mergeProperties]
    exact Entries.mergeWith_mergeWith_eq_iff merge (distinct_properties ha) hkeys
      (distinct_properties hb) (distinct_properties hc)
  · simp [isSome_mergeProperties, hsome, Bool.or_assoc]

/-- Two groupings of three schemas are the same exactly when they are part by part. The first schema may be
another in one than in the other, if only the values of its properties, its items and its additional
properties are. -/
theorem merge_merge_eq_iff {a b c : Schema} (ha : a.KeysDistinct) (hb : b.KeysDistinct)
    (hc : c.KeysDistinct) {properties : Option (List (String × Schema))} {items : Option Schema}
    {additional : Option (Additional Schema)} (hsome : a.properties.isSome = properties.isSome)
    (hkeys : Entries.keys (a.properties.getD []) = Entries.keys (properties.getD [])) :
    (a.merge b).merge c =
        merge { a with properties := properties, items := items, additional := additional }
          (b.merge c) ↔
      (∀ key, SameGrouped (a.property? key) (Entries.get? key (properties.getD [])) (b.property? key)
        (c.property? key)) ∧
      SameGrouped a.items items b.items c.items ∧
      mergeAdditional (mergeAdditional a.additional b.additional) c.additional =
        mergeAdditional additional (mergeAdditional b.additional c.additional) := by
  rw [← mergeProperties_eq_iff ha hb hc hsome hkeys, SameGrouped, ← mergeItems_eq, ← mergeItems_eq,
    ← mergeItems_eq, ← mergeItems_eq]
  constructor
  · intro h
    refine ⟨?_, ?_, ?_⟩
    · simpa using congrArg Schema.properties h
    · simpa using congrArg Schema.items h
    · simpa using congrArg Schema.additional h
  · rintro ⟨hp, hi, hv⟩
    apply ext_parts <;> simp [hp, hi, hv, appendLists_assoc, Option.or_assoc]

theorem distinct_empty : Distinct {} :=
  .intro _ (by simp [KeysDistinct]) (by simp [children])

theorem sameGrouped_seenItems {x y z : Option Schema}
    (h : ∀ s t, x = some s → y = some t → ∀ u, u = {} ∨ z = some u →
      (s.merge t).merge u = (s.seenThrough t).merge (t.merge u)) :
    SameGrouped x (seenItems x y) y z := by
  cases x with
  | none => cases y <;> cases z <;> rfl
  | some s =>
    cases y with
    | none => cases z <;> rfl
    | some t =>
      cases z with
      | none =>
        have htwo : s.merge t = (s.seenThrough t).merge t := by simpa using h s t rfl rfl {} (.inl rfl)
        exact congrArg some htwo
      | some u => exact congrArg some (h s t rfl rfl u (.inr rfl))

theorem mergeAdditional_seenAdditional {a b c : Option (Additional Schema)}
    (h : ∀ s t, a = some (.schema s) → b = some (.schema t) →
      ∀ u, u = {} ∨ c = some (.schema u) →
        (s.merge t).merge u = (s.seenThrough t).merge (t.merge u)) :
    mergeAdditional (mergeAdditional a b) c =
      mergeAdditional (seenAdditional a b) (mergeAdditional b c) := by
  rcases a with _ | _ | s <;> rcases b with _ | _ | t <;> rcases c with _ | _ | u <;> try rfl
  · have htwo : s.merge t = (s.seenThrough t).merge t := by simpa using h s t rfl rfl {} (.inl rfl)
    simp [mergeAdditional, seenAdditional, htwo]
  · simp [mergeAdditional, seenAdditional, h s t rfl rfl u (.inr rfl)]

/-- Of the first of three schemas, the last one meets what can be seen through the one in the middle. -/
theorem merge_merge {a b c : Schema} (ha : a.Distinct) (hb : b.Distinct) (hc : c.Distinct) :
    (a.merge b).merge c = (a.seenThrough b).merge (b.merge c) := by
  induction a using Schema.induction generalizing b c with
  | step a ih =>
    have hbelow {s t : Schema} (hs : s ∈ a.children) (ht : t ∈ b.children) {u : Schema}
        (hu : u = {} ∨ u ∈ c.children) :
        (s.merge t).merge u = (s.seenThrough t).merge (t.merge u) := by
      refine ih s hs (ha.child hs) (hb.child ht) ?_
      rcases hu with rfl | hu
      · exact distinct_empty
      · exact hc.child hu
    have hsome := (isSome_seenProperties a.properties b.properties).symm
    have hkeys : Entries.keys (a.properties.getD []) =
        Entries.keys ((seenProperties a.properties b.properties).getD []) := by
      rw [getD_seenProperties, keys_seenEntries]
    rw [seenThrough_eq, merge_merge_eq_iff ha.here hb.here hc.here hsome hkeys]
    refine ⟨fun key => ?_, ?_, ?_⟩
    · rw [getD_seenProperties, get?_seenEntries]
      refine sameGrouped_seenItems fun s t hs ht u hu => ?_
      exact hbelow (property?_mem_children hs) (property?_mem_children ht)
        (hu.imp_right property?_mem_children)
    · refine sameGrouped_seenItems fun s t hs ht u hu => ?_
      exact hbelow (items_mem_children hs) (items_mem_children ht) (hu.imp_right items_mem_children)
    · refine mergeAdditional_seenAdditional fun s t hs ht u hu => ?_
      exact hbelow (additional_mem_children hs) (additional_mem_children ht)
        (hu.imp_right additional_mem_children)

/-- At some place that three schemas share, the first and the last give additional properties by schemas, the
one in the middle gives them by a truth value, and the last would not be the same merged over the first. -/
inductive Hides : Schema → Schema → Schema → Prop
  | here {a b c x z : Schema} {any : Bool} (first : a.additional = some (.schema x))
      (middle : b.additional = some (.allowed any)) (last : c.additional = some (.schema z))
      (differs : x.merge z ≠ z) : Hides a b c
  | property {a b c x y z : Schema} {key : String} (first : a.property? key = some x)
      (middle : b.property? key = some y) (last : c.property? key = some z) (below : Hides x y z) :
      Hides a b c
  | items {a b c x y z : Schema} (first : a.items = some x) (middle : b.items = some y)
      (last : c.items = some z) (below : Hides x y z) : Hides a b c
  | additional {a b c x y z : Schema} (first : a.additional = some (.schema x))
      (middle : b.additional = some (.schema y)) (last : c.additional = some (.schema z))
      (below : Hides x y z) : Hides a b c

theorem sameGrouped_self_iff {x y z : Option Schema} :
    SameGrouped x x y z ↔ ∀ s t u, x = some s → y = some t → z = some u →
      (s.merge t).merge u = s.merge (t.merge u) := by
  cases x <;> cases y <;> cases z <;> simp [SameGrouped]

theorem mergeAdditional_assoc_iff {a b c : Option (Additional Schema)} :
    mergeAdditional (mergeAdditional a b) c = mergeAdditional a (mergeAdditional b c) ↔
      (∀ s t u, a = some (.schema s) → b = some (.schema t) → c = some (.schema u) →
        (s.merge t).merge u = s.merge (t.merge u)) ∧
      ∀ s any u, a = some (.schema s) → b = some (.allowed any) → c = some (.schema u) →
        s.merge u = u := by
  rcases a with _ | _ | s <;> rcases b with _ | _ | t <;> rcases c with _ | _ | u <;>
    simp [mergeAdditional, eq_comm]

/-- The grouping of three merges makes a difference exactly when the schema in the middle hides something. -/
theorem merge_assoc_iff {a b c : Schema} (ha : a.Distinct) (hb : b.Distinct) (hc : c.Distinct) :
    (a.merge b).merge c = a.merge (b.merge c) ↔ ¬Hides a b c := by
  induction a using Schema.induction generalizing b c with
  | step a ih =>
    have hbelow {x y z : Schema} (hx : x ∈ a.children) (hy : y ∈ b.children) (hz : z ∈ c.children) :
        (x.merge y).merge z = x.merge (y.merge z) ↔ ¬Hides x y z :=
      ih x hx (ha.child hx) (hb.child hy) (hc.child hz)
    have hparts : (a.merge b).merge c = a.merge (b.merge c) ↔
        (∀ key, SameGrouped (a.property? key) (a.property? key) (b.property? key) (c.property? key)) ∧
        SameGrouped a.items a.items b.items c.items ∧
        mergeAdditional (mergeAdditional a.additional b.additional) c.additional =
          mergeAdditional a.additional (mergeAdditional b.additional c.additional) := by
      have hiff := @merge_merge_eq_iff a b c ha.here hb.here hc.here a.properties a.items a.additional
        rfl rfl
      cases a
      exact hiff
    simp only [hparts, mergeAdditional_assoc_iff, sameGrouped_self_iff]
    constructor
    · rintro ⟨hproperty, hitems, hadditional, hvalue⟩ hides
      cases hides with
      | here hx hy hz differs => exact differs (hvalue _ _ _ hx hy hz)
      | property hx hy hz below =>
        exact (hbelow (property?_mem_children hx) (property?_mem_children hy)
          (property?_mem_children hz)).mp (hproperty _ _ _ _ hx hy hz) below
      | items hx hy hz below =>
        exact (hbelow (items_mem_children hx) (items_mem_children hy)
          (items_mem_children hz)).mp (hitems _ _ _ hx hy hz) below
      | additional hx hy hz below =>
        exact (hbelow (additional_mem_children hx) (additional_mem_children hy)
          (additional_mem_children hz)).mp (hadditional _ _ _ hx hy hz) below
    · intro hides
      refine ⟨fun key x y z hx hy hz => ?_, fun x y z hx hy hz => ?_, fun x y z hx hy hz => ?_,
        fun x any z hx hy hz => ?_⟩
      · refine (hbelow (property?_mem_children hx) (property?_mem_children hy)
          (property?_mem_children hz)).mpr fun below => ?_
        exact hides (.property hx hy hz below)
      · refine (hbelow (items_mem_children hx) (items_mem_children hy)
          (items_mem_children hz)).mpr fun below => ?_
        exact hides (.items hx hy hz below)
      · refine (hbelow (additional_mem_children hx) (additional_mem_children hy)
          (additional_mem_children hz)).mpr fun below => ?_
        exact hides (.additional hx hy hz below)
      · by_contra differs
        exact hides (.here hx hy hz differs)

end SwaggerClient.Schema
