import SwaggerClient.Proofs.Reference.Expansion

namespace SwaggerClient.Document

variable {d : Document} {P : Schema → Prop}

/-- A merged schema has the part when one of the two has it, and a schema without what is replaced keeps
it. -/
structure Part (e : Expansion) (P : Schema → Prop) : Prop where
  empty : ¬P {}
  merge : ∀ a b, P (a.merge b) ↔ P a ∨ P b
  ownParts : ∀ s, P (e.ownParts s) ↔ P s
  inMembers : ∀ s, P (e.inMembers.ownParts s) ↔ P s

theorem Part.ofMember {e : Expansion} (hP : Part e P) : Part e.inMembers P :=
  ⟨hP.empty, hP.merge, hP.inMembers, hP.inMembers⟩

theorem Part.foldl {e : Expansion} (hP : Part e P) (target : Schema) (results : List Schema) :
    P (results.foldl Schema.merge target) ↔ P target ∨ ∃ r ∈ results, P r := by
  induction results generalizing target with
  | nil => simp
  | cons r rest ih => rw [List.foldl_cons, ih, hP.merge]; simp [or_assoc]

theorem Part.merged {e : Expansion} (hP : Part e P) (target : Schema) (f : Schema → Schema)
    (s : Schema) :
    P ((((e.members s).map f).foldl Schema.merge target).merge (e.ownParts s)) ↔
      P target ∨ (∃ m ∈ e.members s, P (f m)) ∨ P s := by
  have hmap : (∃ r ∈ (e.members s).map f, P r) ↔ ∃ m ∈ e.members s, P (f m) := by
    constructor
    · rintro ⟨r, hr, hPr⟩
      obtain ⟨m, hm, rfl⟩ := List.mem_map.mp hr
      exact ⟨m, hm, hPr⟩
    · exact fun ⟨m, hm, hPm⟩ => ⟨f m, List.mem_map_of_mem hm, hPm⟩
  rw [hP.merge, hP.foldl, hP.ownParts, or_assoc, hmap]

/-- A schema on the ways of an expansion has `P`. -/
def Reaches (d : Document) (e : Expansion) (s : Schema) (P : Schema → Prop) : Prop :=
  ∃ refs u, d.Follows e s refs u ∧ P u

theorem reaches_iff {e : Expansion} {s : Schema} :
    d.Reaches e s P ↔
      P s ∨ (∃ r target, e.follows? s.reference = some r ∧ d.lookupSchema r = .ok target ∧
        d.Reaches e target P) ∨ ∃ m ∈ e.members s, d.Reaches e.inMembers m P := by
  constructor
  · rintro ⟨refs, u, hu, hPu⟩
    cases hu with
    | here => exact .inl hPu
    | reference hf hleads hrest => exact .inr (.inl ⟨_, _, hf, hleads, _, u, hrest, hPu⟩)
    | member hmem hrest => exact .inr (.inr ⟨_, hmem, _, u, hrest, hPu⟩)
  · rintro (hs | ⟨r, target, hf, hleads, refs, u, hu, hPu⟩ | ⟨m, hmem, refs, u, hu, hPu⟩)
    · exact ⟨[], s, .here, hs⟩
    · exact ⟨r :: refs, u, .reference hf hleads hu, hPu⟩
    · exact ⟨refs, u, .member hmem hu, hPu⟩

theorem Reaches.congr {e : Expansion} {s u : Schema}
    (hr : e.references = true → s.reference = u.reference) (hm : e.members s = e.members u)
    (h : d.Reaches e s P) : P s ∨ d.Reaches e u P := by
  obtain ⟨refs, t, ht, hPt⟩ := h
  rcases ht.congr hr hm with rfl | ht
  · exact .inl hPt
  · exact .inr ⟨refs, t, ht, hPt⟩

/-- After a reference was followed, the ways are those of its target and of what was merged over it. -/
theorem reaches_merged_iff {e : Expansion} (hP : Part e P) {chain : List String} {s target : Schema}
    {f : Schema → Schema} (each : ∀ m ∈ e.members s, d.Expands e.inMembers chain m (f m)) :
    d.Reaches e ((((e.members s).map f).foldl Schema.merge target).merge (e.ownParts s)) P ↔
      d.Reaches e target P ∨ (∃ m ∈ e.members s, P (f m)) ∨ P s := by
  have hr (he : e.references = true) := merged_reference target each he
  have hm := merged_members target each
  have hmerged := hP.merged target f s
  constructor
  · intro h
    rcases h.congr hr hm with h | h
    · rcases hmerged.mp h with ht | h
      · exact .inl (reaches_iff.mpr (.inl ht))
      · exact .inr h
    · exact .inl h
  · rintro (h | h)
    · rcases h.congr (fun he => (hr he).symm) hm.symm with ht | h
      · exact reaches_iff.mpr (.inl (hmerged.mpr (.inl ht)))
      · exact h
    · exact reaches_iff.mpr (.inl (hmerged.mpr (.inr h)))

/-- What a schema expands to has a part exactly when a schema on the ways has it. -/
theorem Expands.part_iff {e : Expansion} (hP : Part e P) {chain : List String} {s t : Schema}
    (h : d.Expands e chain s t) : P t ↔ d.Reaches e s P := by
  induction h with
  | @unchanged e chain s hf hrep =>
    rw [reaches_iff]
    simp [hf, members_of_not_replaces hrep]
  | @members e chain s f hf hrep each ih =>
    have hmembers : (∃ m ∈ e.members s, P (f m)) ↔ ∃ m ∈ e.members s, d.Reaches e.inMembers m P :=
      exists_congr fun m => and_congr_right fun hm => ih m hm hP.ofMember
    rw [hP.merged, reaches_iff, hmembers]
    simp only [hP.empty, hf, false_or, reduceCtorEq, false_and, exists_false]
    exact or_comm
  | @follow e chain s target t r f hf hfresh hleads each rest ihm ihr =>
    have hmembers : (∃ m ∈ e.members s, P (f m)) ↔ ∃ m ∈ e.members s, d.Reaches e.inMembers m P :=
      exists_congr fun m => and_congr_right fun hm => ihm m hm hP.ofMember
    have htarget : d.Reaches e target P ↔ ∃ r target, e.follows? s.reference = some r ∧
        d.lookupSchema r = .ok target ∧ d.Reaches e target P := by
      constructor
      · exact fun h => ⟨r, target, hf, hleads, h⟩
      · rintro ⟨r', target', hf', hleads', h⟩
        obtain rfl : r = r' := Option.some.inj (hf.symm.trans hf')
        obtain rfl : target = target' := Except.ok.inj (hleads.symm.trans hleads')
        exact h
    rw [ihr hP, reaches_merged_iff hP each, reaches_iff (s := s), hmembers, htarget]
    exact or_assoc.symm.trans or_comm

theorem part_properties (e : Expansion) : Part e fun s => s.properties.isSome where
  empty := by simp
  merge a b := by
    cases ha : a.properties <;> cases hb : b.properties <;> simp [Schema.mergeProperties, ha, hb]
  ownParts _ := Iff.rfl
  inMembers _ := Iff.rfl

theorem part_values (e : Expansion) : Part e fun s => s.values.isSome where
  empty := by simp
  merge a b := by
    cases ha : a.values <;> cases hb : b.values <;> simp [Schema.appendLists, ha, hb]
  ownParts _ := Iff.rfl
  inMembers _ := Iff.rfl

theorem part_key (e : Expansion) (key : String) :
    Part e fun s => key ∈ Entries.keys (s.properties.getD []) where
  empty := by simp [Entries.keys]
  merge a b := by
    cases hb : b.properties with
    | none => simp [hb, Entries.keys]
    | some properties =>
      simp [hb, Schema.mergeProperties, Schema.mergeEntries_eq_mergeWith,
        Entries.mem_keys_mergeWith_iff]
  ownParts _ := Iff.rfl
  inMembers _ := Iff.rfl

theorem part_required (e : Expansion) (key : String) : Part e fun s => key ∈ s.required.getD [] where
  empty := by simp
  merge a b := by rw [Schema.merge_required, Schema.mem_appendLists]
  ownParts _ := Iff.rfl
  inMembers _ := Iff.rfl

theorem part_member {e : Expansion} (h : e.allOf = false) (m : Schema) :
    Part e fun s => m ∈ s.allOf.getD [] where
  empty := by simp
  merge a b := by rw [Schema.merge_allOf, Schema.mem_appendLists]
  ownParts s := by simp [Expansion.ownParts, Expansion.keepsAllOf, h]
  inMembers s := by simp [Expansion.ownParts, Expansion.keepsAllOf, Expansion.inMembers, h]

theorem Follows.unignored {ignored : Option String} {s t : Schema} {refs : List String}
    (h : d.Follows (.full ignored) s refs t) : d.Follows (.full none) s refs t := by
  generalize he : Expansion.full ignored = e at h
  induction h with
  | here => exact .here
  | reference hf hleads _ ih =>
    subst he
    refine .reference ?_ hleads (ih rfl)
    have hr := reference_of_follows hf
    simp [hr, Expansion.full, Expansion.follows?]
  | member hmem _ ih =>
    subst he
    exact .member hmem (ih rfl)

theorem Follows.ofReferences {s t : Schema} {refs : List String}
    (h : d.Follows .onlyReferences s refs t) : d.Follows (.full none) s refs t := by
  generalize he : Expansion.onlyReferences = e at h
  induction h with
  | here => exact .here
  | reference hf hleads _ ih =>
    subst he
    exact .reference hf hleads (ih rfl)
  | member hmem =>
    subst he
    simp [Expansion.members, Expansion.onlyReferences] at hmem

theorem Follows.trans {ignored : Option String} {s t u : Schema} {refs more : List String}
    (h : d.Follows (.full ignored) s refs t) (h' : d.Follows (.full ignored) t more u) :
    d.Follows (.full ignored) s (refs ++ more) u := by
  generalize he : Expansion.full ignored = e at h
  induction h with
  | here => exact he ▸ h'
  | reference hf hleads _ ih =>
    subst he
    exact .reference hf hleads (ih h' rfl)
  | member hmem _ ih =>
    subst he
    exact .member hmem (ih h' rfl)

/-- The ways from a schema whose references were replaced first lead nowhere else than those from the
schema itself. -/
theorem reaches_of_base {ignored : Option String} {chain : List String} {s base : Schema}
    (hP : Part .onlyReferences P) (hbase : d.Expands .onlyReferences chain s base)
    (h : d.Reaches (.full ignored) base P) : d.Reaches (.full none) s P := by
  obtain ⟨refs, u, hu, hPu⟩ := h
  cases hu.unignored with
  | here =>
    obtain ⟨refs, t, ht, hPt⟩ := (hbase.part_iff hP).mp hPu
    exact ⟨refs, t, ht.ofReferences, hPt⟩
  | reference hf =>
    have hnone := hbase.normal.1 rfl
    simp [hnone, Expansion.full, Expansion.follows?] at hf
  | @member _ _ m _ _ hmem hrest =>
    obtain ⟨refs, t, ht, hm⟩ := (hbase.part_iff (part_member rfl m)).mp hmem
    exact ⟨_, u, ht.ofReferences.trans (.member hm hrest), hPu⟩

/-- A way follows references of the schema itself, and then goes on in a member of its composition. -/
theorem Follows.split {ignored : Option String} {s u : Schema} {refs : List String}
    (h : d.Follows (.full ignored) s refs u) :
    (∃ refs, d.Follows .onlyReferences s refs u) ∨
      ∃ refs t m more, d.Follows .onlyReferences s refs t ∧ m ∈ t.allOf.getD [] ∧
        d.Follows (.full ignored) m more u := by
  generalize he : Expansion.full ignored = e at h
  induction h with
  | here => exact .inl ⟨[], .here⟩
  | @reference e s target u r refs hf hleads _ ih =>
    subst he
    have hf' : Expansion.onlyReferences.follows? s.reference = some r := by
      simp [reference_of_follows hf, Expansion.onlyReferences, Expansion.follows?]
    rcases ih rfl with ⟨refs, h⟩ | ⟨refs, t, m, more, h, hm, hmore⟩
    · exact .inl ⟨r :: refs, .reference hf' hleads h⟩
    · exact .inr ⟨r :: refs, t, m, more, .reference hf' hleads h, hm, hmore⟩
  | member hmem hrest =>
    subst he
    exact .inr ⟨[], _, _, _, .here, hmem, hrest⟩

/-- A way either leaves a reference out or leads through what it stands for. -/
theorem Follows.through (r : String) {s u : Schema} {refs : List String}
    (h : d.Follows (.full none) s refs u) :
    (∃ refs, d.Follows (.full (some r)) s refs u) ∨
      ∃ target more, d.lookupSchema r = .ok target ∧ d.Follows (.full none) target more u := by
  generalize he : Expansion.full none = e at h
  induction h with
  | here => exact .inl ⟨[], .here⟩
  | @reference e s target u r' refs hf hleads hrest ih =>
    subst he
    by_cases hr : r' = r
    · subst hr
      exact .inr ⟨target, refs, hleads, hrest⟩
    · rcases ih rfl with ⟨refs, h⟩ | h
      · refine .inl ⟨r' :: refs, .reference ?_ hleads h⟩
        have hne : ¬r = r' := fun e => hr e.symm
        simp [reference_of_follows hf, Expansion.full, Expansion.follows?, hne]
      · exact .inr h
  | member hmem _ ih =>
    subst he
    rcases ih rfl with ⟨refs, h⟩ | h
    · exact .inl ⟨refs, .member hmem h⟩
    · exact .inr h

theorem reaches_reference_iff {e : Expansion} (hP : Part e P) (he : e.references = true)
    {r : String} :
    d.Reaches e { reference := some r } P ↔
      ∃ target, e.follows? (some r) = some r ∧ d.lookupSchema r = .ok target ∧
        d.Reaches e target P := by
  have hown : ¬P { reference := some r } := by
    rw [← hP.ownParts]
    have hnone : e.ownParts { reference := some r } = {} := by
      simp [Expansion.ownParts, Expansion.keepsReference, Expansion.keepsAllOf, he]
    exact hnone ▸ hP.empty
  have hmembers : e.members { reference := some r } = [] := by simp [Expansion.members]
  rw [reaches_iff, hmembers]
  constructor
  · rintro (h | ⟨r', target, hf, hleads, h⟩ | ⟨m, hm, _⟩)
    · exact absurd h hown
    · obtain rfl := Option.some.inj (reference_of_follows hf)
      exact ⟨target, hf, hleads, h⟩
    · simp at hm
  · rintro ⟨target, hf, hleads, h⟩
    exact .inr (.inl ⟨r, target, hf, hleads, h⟩)

/-- The ways from a schema and those from what is left when its own references are replaced lead to the
same parts. -/
theorem reaches_base_iff (hP : ∀ e, Part e P) {chain : List String} {s base : Schema}
    (hbase : d.Expands .onlyReferences chain s base) :
    d.Reaches (.full none) s P ↔ d.Reaches (.full none) base P := by
  refine ⟨?_, reaches_of_base (hP _) hbase⟩
  rintro ⟨refs, u, hu, hPu⟩
  rcases hu.split with ⟨refs, h⟩ | ⟨refs, t, m, more, h, hm, hmore⟩
  · exact ⟨[], base, .here, (hbase.part_iff (hP _)).mpr ⟨refs, u, h, hPu⟩⟩
  · have hm' := (hbase.part_iff (part_member rfl m)).mpr ⟨refs, t, h, hm⟩
    exact ⟨more, u, .member hm' hmore, hPu⟩

/-- The ways through a composition with a reference among its members are those that leave this reference
out and those that begin with it. -/
theorem reaches_member_iff (hP : ∀ e, Part e P) {base m : Schema} {r : String}
    (hm : m ∈ base.allOf.getD []) (hr : m.reference = some r) :
    d.Reaches (.full none) base P ↔
      d.Reaches (.full (some r)) base P ∨ d.Reaches (.full none) { reference := some r } P := by
  have hfollows : (Expansion.full none).follows? (some r) = some r := rfl
  rw [reaches_reference_iff (hP _) rfl]
  constructor
  · rintro ⟨refs, u, hu, hPu⟩
    rcases hu.through r with ⟨refs, h⟩ | ⟨target, more, hleads, h⟩
    · exact .inl ⟨refs, u, h, hPu⟩
    · exact .inr ⟨target, hfollows, hleads, more, u, h, hPu⟩
  · rintro (⟨refs, u, hu, hPu⟩ | ⟨target, _, hleads, refs, u, hu, hPu⟩)
    · exact ⟨refs, u, hu.unignored, hPu⟩
    · exact ⟨r :: refs, u, .member (e := .full none) hm
        (.reference (by rw [hr]; exact hfollows) hleads hu), hPu⟩

end SwaggerClient.Document
