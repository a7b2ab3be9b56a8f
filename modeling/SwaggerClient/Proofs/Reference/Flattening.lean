import SwaggerClient.Proofs.Reference.Termination

namespace SwaggerClient

def Json.isTruthValue : Json → Bool
  | .bool _ => true
  | _ => false

namespace Schema

/-- What merging needs to be associative. -/
structure Plain (s : Schema) : Prop where
  distinct : s.Distinct
  noTruthValues : s.NoTruthValues

theorem plain_empty : Plain {} :=
  ⟨.intro _ (by simp [KeysDistinct]) (by simp [children]),
    .intro _ (by simp [NoTruthValue]) (by simp [children])⟩

theorem Plain.merge {a b : Schema} (ha : a.Plain) (hb : b.Plain) : (a.merge b).Plain :=
  ⟨distinct_merge ha.distinct hb.distinct, noTruthValues_merge ha.noTruthValues hb.noTruthValues⟩

theorem Plain.foldl {target : Schema} {parts : List Schema} (ht : target.Plain)
    (h : ∀ p ∈ parts, p.Plain) : (parts.foldl Schema.merge target).Plain := by
  induction parts generalizing target with
  | nil => exact ht
  | cons p rest ih => exact ih (ht.merge (h p (by simp))) fun q hq => h q (List.mem_cons_of_mem _ hq)

theorem foldl_merge (a : Schema) {parts : List Schema} (h : ∀ p ∈ parts, p.Plain) :
    parts.foldl merge a = a.merge (parts.foldl merge {}) := by
  induction parts using List.reverseRecOn with
  | nil => simp
  | append_singleton parts p ih =>
    have hparts : ∀ q ∈ parts, q.Plain := fun q hq => h q (by simp [hq])
    have hp : p.Plain := h p (by simp)
    have hfold : (parts.foldl merge {}).Plain := plain_empty.foldl hparts
    rw [List.foldl_append, List.foldl_append, ih hparts]
    exact merge_assoc a hfold.distinct hfold.noTruthValues hp.distinct

end Schema

namespace Document

open Schema

variable {d : Document} {ignored : Option String} {chain : List String}

theorem mergeable_keysDistinct : Mergeable KeysDistinct where
  empty := plain_empty.distinct.here
  merge _ _ ha _ := keysDistinct_merge ha
  ownParts _ _ h := h

theorem mergeable_noTruthValue : Mergeable NoTruthValue where
  empty := plain_empty.noTruthValues.here
  merge _ _ := noTruthValue_merge
  ownParts _ _ h := h

/-- All schemas on the ways of a full expansion are as merging needs them. -/
def PlainWays (d : Document) (ignored : Option String) (s : Schema) : Prop :=
  ∀ refs u, d.Follows (.full ignored) s refs u → u.Plain

namespace PlainWays

variable {s t : Schema}

theorem here (h : d.PlainWays ignored s) : s.Plain := h [] s .here

theorem member (h : d.PlainWays ignored s) {m : Schema}
    (hm : m ∈ (Expansion.full ignored).members s) : d.PlainWays ignored m :=
  fun refs u hu => h refs u (.member hm hu)

theorem reference (h : d.PlainWays ignored s) {r : String} {target : Schema}
    (hf : (Expansion.full ignored).follows? s.reference = some r)
    (hleads : d.lookupSchema r = .ok target) : d.PlainWays ignored target :=
  fun refs u hu => h (r :: refs) u (.reference hf hleads hu)

theorem ownParts (h : d.PlainWays ignored s) : ((Expansion.full ignored).ownParts s).Plain :=
  ⟨mergeable_keysDistinct.everywhere_ownParts _ h.here.distinct,
    mergeable_noTruthValue.everywhere_ownParts _ h.here.noTruthValues⟩

theorem expands (h : d.PlainWays ignored s) (hs : d.Expands (.full ignored) chain s t) : t.Plain :=
  ⟨hs.everywhere mergeable_keysDistinct fun refs u hu => (h refs u hu).distinct,
    hs.everywhere mergeable_noTruthValue fun refs u hu => (h refs u hu).noTruthValues⟩

theorem results (h : d.PlainWays ignored s) {f : Schema → Schema}
    (each : ∀ m ∈ (Expansion.full ignored).members s, d.Expands (.full ignored) chain m (f m)) :
    ∀ p ∈ ((Expansion.full ignored).members s).map f, p.Plain :=
  List.forall_mem_map.mpr fun m hm => (h.member hm).expands (each m hm)

theorem rest (h : d.PlainWays ignored s) {r : String} {target : Schema} {f : Schema → Schema}
    (hf : (Expansion.full ignored).follows? s.reference = some r)
    (hleads : d.lookupSchema r = .ok target)
    (each : ∀ m ∈ (Expansion.full ignored).members s, d.Expands (.full ignored) chain m (f m)) :
    d.PlainWays ignored (((((Expansion.full ignored).members s).map f).foldl merge target).merge
      ((Expansion.full ignored).ownParts s)) := by
  have ht := h.reference hf hleads
  intro refs u hu
  rcases hu.congr (fun he => merged_reference target each he) (merged_members target each) with
    rfl | hu
  · exact (ht.here.foldl (h.results each)).merge h.ownParts
  · exact ht refs u hu

end PlainWays

section WithoutParts

variable {s x : Schema} (hr : x.reference = none) (ha : x.allOf = none)

include ha in
theorem members_merge :
    (Expansion.full ignored).members (s.merge x) = (Expansion.full ignored).members s := by
  simp [Expansion.members, ha]

include hr ha in
theorem ownParts_merge :
    (Expansion.full ignored).ownParts (s.merge x) =
      ((Expansion.full ignored).ownParts s).merge x := by
  simp only [Expansion.ownParts, Expansion.full, Expansion.keepsReference, Expansion.keepsAllOf,
    if_true]
  apply ext_parts <;> simp [hr, ha]

include hr ha in
/-- A schema without reference and composition may be merged after an expansion as well as before it. -/
theorem Expands.of_merge {t : Schema} (hx : x.Distinct) (hways : d.PlainWays ignored s)
    (h : d.Expands (.full ignored) chain (s.merge x) t) :
    ∃ p, d.Expands (.full ignored) chain s p ∧ t = p.merge x := by
  generalize he : Expansion.full ignored = e at h
  generalize hm : s.merge x = m at h
  induction h generalizing s with
  | @unchanged e chain m hf hrep =>
    subst he hm
    refine ⟨s, .unchanged ?_ ?_, rfl⟩
    · simpa [hr] using hf
    · simpa [hr, ha, Expansion.replaces] using hrep
  | @members e chain m f hf hrep each ih =>
    subst he hm
    have hown := hways.ownParts
    rw [members_merge ha] at each ⊢
    refine ⟨_, .members f ?_ ?_ each, ?_⟩
    · simpa [hr] using hf
    · simpa [hr, ha, Expansion.replaces] using hrep
    · rw [ownParts_merge hr ha, merge_assoc _ hown.distinct hown.noTruthValues hx]
  | @follow e chain m target t r f hf hfresh hleads each rest ihm ihr =>
    subst he hm
    have hown := hways.ownParts
    have hf' : (Expansion.full ignored).follows? s.reference = some r := by
      simpa [hr] using hf
    rw [members_merge ha] at each
    rw [members_merge ha, ownParts_merge hr ha] at ihr
    -- the target stands in the place of the schema now, and the rest is still merged last
    obtain ⟨p, hp, e⟩ := ihr (hways.rest hf' hleads each) rfl
      (merge_assoc _ hown.distinct hown.noTruthValues hx)
    exact ⟨p, .follow f hf' hfresh hleads each hp, e⟩

end WithoutParts

theorem members_full (ignored : Option String) (s : Schema) :
    (Expansion.full ignored).members s = s.allOf.getD [] := rfl

theorem ownParts_full (ignored : Option String) (s : Schema) :
    (Expansion.full ignored).ownParts s = { s with reference := none, allOf := none } := rfl

theorem expands_reference {r : String} {target p : Schema}
    (hf : (Expansion.full ignored).follows? (some r) = some r)
    (hleads : d.lookupSchema r = .ok target)
    (h : d.Expands (.full ignored) [r] target p) :
    d.Expands (.full ignored) [] { reference := some r } p := by
  refine .follow id hf (by simp) hleads (by simp [members_full]) ?_
  simpa [members_full, ownParts_full] using h

theorem resolve_ignored (d : Document) (r : String) :
    d.resolve (.full (some r)) { reference := some r } = .ok {} := by
  rw [resolve_eq_ok_iff]
  have h : d.Expands (.full (some r)) [] { reference := some r } _ :=
    .members id (by simp [Expansion.full, Expansion.follows?]) rfl (by simp [members_full])
  simpa [members_full, ownParts_full] using h

theorem plainWays_of {s : Schema} (hs : s.Distinct)
    (hb : ∀ refs u, d.Follows (.full ignored) s refs u → u.NoTruthValues) :
    d.PlainWays ignored s :=
  fun refs u hu => ⟨hu.everywhere hs fun _ _ => lookupSchema_distinct, hb refs u hu⟩

theorem forall₂_members {s : Schema} {f : Schema → Schema}
    (each : ∀ m ∈ s.allOf.getD [], d.Expands (.full ignored) chain m (f m)) :
    List.Forall₂ (fun m result => d.resolve (.full ignored) m = .ok result) (s.allOf.getD [])
      ((s.allOf.getD []).map f) := by
  rw [List.forall₂_map_right_iff, List.forall₂_same]
  intro m hm
  exact resolve_eq_ok_iff.mpr ((each m hm).mono (List.nil_subset _))

theorem foldl_merge_merge (a : Schema) {parts : List Schema} {last : Schema}
    (h : ∀ p ∈ parts, p.Plain) (hlast : last.Plain) :
    (parts.foldl merge a).merge last = a.merge ((parts.foldl merge {}).merge last) := by
  have hfold : (parts.foldl merge {}).Plain := plain_empty.foldl h
  rw [foldl_merge a h, merge_assoc a hfold.distinct hfold.noTruthValues hlast.distinct]

/-- A schema with a reference: its target may be expanded by itself, before the rest is merged over it. -/
theorem eq_merge_of_follow {s t target : Schema} {r : String} {f : Schema → Schema}
    (hways : d.PlainWays ignored s)
    (hf : (Expansion.full ignored).follows? s.reference = some r)
    (hleads : d.lookupSchema r = .ok target)
    (each : ∀ m ∈ (Expansion.full ignored).members s, d.Expands (.full ignored) [r] m (f m))
    (rest : d.Expands (.full ignored) [r]
      (((((Expansion.full ignored).members s).map f).foldl merge target).merge
        ((Expansion.full ignored).ownParts s)) t) :
    ∃ p, d.resolve (.full ignored) { reference := some r } = .ok p ∧
      t = (p :: (s.allOf.getD []).map f ++ [(Expansion.full ignored).ownParts s]).foldl merge {} := by
  have htarget := hways.reference hf hleads
  have hresults := hways.results each
  have hown := hways.ownParts
  -- what is merged over the target: the members and the schema's own parts
  have hover := (plain_empty.foldl hresults).merge hown
  rw [foldl_merge_merge target hresults hown] at rest
  obtain ⟨p, hp, rfl⟩ := rest.of_merge (merged_reference {} each rfl) (merged_allOf {} each rfl)
    hover.distinct htarget
  have hpPlain := htarget.expands hp
  refine ⟨p, ?_, ?_⟩
  · rw [reference_of_follows hf] at hf
    exact resolve_eq_ok_iff.mpr (expands_reference hf hleads hp)
  · rw [← foldl_merge_merge p hresults hown]
    simp [empty_merge hpPlain.distinct.here, members_full]

/-- Full expansion is an ordered merge: of what the reference of a schema expands to by itself, which is
nothing where it is ignored, of what each member expands to, and of the schema's own parts. No two
properties of the schema have one key, as in every schema that is read. -/
theorem resolve_full_eq_merge {s t : Schema} (hs : s.Distinct)
    (hb : ∀ refs u, d.Follows (.full ignored) s refs u → u.NoTruthValues)
    (h : d.resolve (.full ignored) s = .ok t) :
    ∃ (target : Schema) (results : List Schema),
      (∀ r, s.reference = some r → d.resolve (.full ignored) { reference := some r } = .ok target) ∧
      (s.reference = none ∨ s.reference = ignored → target = {}) ∧
      List.Forall₂ (fun m result => d.resolve (.full ignored) m = .ok result) (s.allOf.getD [])
        results ∧
      t = (target :: results ++ [{ s with reference := none, allOf := none }]).foldl
        Schema.merge {} := by
  have hways := plainWays_of hs hb
  rw [← ownParts_full ignored]
  cases resolve_eq_ok_iff.mp h with
  | unchanged hf hrep =>
    obtain ⟨hr, ha⟩ : s.reference = none ∧ s.allOf = none := by
      simpa [Expansion.replaces, Expansion.full] using hrep
    have hown : (Expansion.full ignored).ownParts s = s := by
      rw [ownParts_full]
      apply ext_parts <;> simp [hr, ha]
    refine ⟨{}, [], by simp [hr], by simp, by simp [ha], ?_⟩
    simp [hown, empty_merge hs.here]
  | members f hf hrep each =>
    refine ⟨{}, (s.allOf.getD []).map f, fun r hr => ?_, fun _ => rfl, forall₂_members each, ?_⟩
    · have hignored : ignored = some r := by
        simpa [hr, Expansion.full, Expansion.follows?, Option.filter] using hf
      rw [hignored]
      exact resolve_ignored d r
    · simp [members_full]
  | @follow _ _ _ target _ r f hf hfresh hleads each rest =>
    obtain ⟨p, hp, ht⟩ := eq_merge_of_follow hways hf hleads each rest
    refine ⟨p, (s.allOf.getD []).map f, fun r' hr' => ?_, ?_, forall₂_members each, ht⟩
    · obtain rfl : r = r' := Option.some.inj ((reference_of_follows hf).symm.trans hr')
      exact hp
    · rintro (hnone | hignored)
      · simp [hnone, Expansion.full, Expansion.follows?] at hf
      · simp [hignored, Expansion.full, Expansion.follows?] at hf

/-- Where a document holds no truth values, no schema on the ways of an expansion has one. -/
theorem Follows.noTruthValues {e : Expansion} {s t : Schema} {refs : List String}
    (hd : d.raw.Everywhere fun c => ¬c.isTruthValue) (hs : s.NoTruthValues)
    (h : d.Follows e s refs t) : t.NoTruthValues := by
  refine h.everywhere hs fun r u hu => ?_
  exact (lookupSchema_drawn hd hu).mono fun v hv any e => hv.truthValue any e rfl

def animalsJson : Json :=
  .object [
    ("paths", .object []),
    ("definitions", .object [
      ("Animal", .object [("properties", .object [("name", .object [("type", .string "string")])])]),
      ("Cat", .object [("allOf", .array [.object [("$ref", .string "#/definitions/Animal")]])])])]

def animals : Document where
  raw := animalsJson.settle
  contents := {
    definitions := [
      ("Animal", { properties := some [("name", { type := some "string" })] }),
      ("Cat", { allOf := some [{ reference := some "#/definitions/Animal" }] })] }
  reads := rfl
  distinct := animalsJson.settle_distinct

def taggedCat : Schema where
  reference := some "#/definitions/Cat"
  properties := some [("tag", {})]
  allOf := some [{ reference := some "#/definitions/Animal" }]

theorem resolve_full_eq_merge_taggedCat :
    animals.resolve (.full none) taggedCat =
      .ok { properties := some [("name", { type := some "string" }), ("tag", {})] } ∧
    ∃ (target : Schema) (results : List Schema),
      (∀ r, taggedCat.reference = some r →
        animals.resolve (.full none) { reference := some r } = .ok target) ∧
      (taggedCat.reference = none ∨ taggedCat.reference = none → target = {}) ∧
      List.Forall₂ (fun m result => animals.resolve (.full none) m = .ok result)
        (taggedCat.allOf.getD []) results ∧
      { properties := some [("name", { type := some "string" }), ("tag", {})] } =
        (target :: results ++ [{ taggedCat with reference := none, allOf := none }]).foldl
          Schema.merge {} := by
  have hresolve : animals.resolve (.full none) taggedCat =
      .ok { properties := some [("name", { type := some "string" }), ("tag", {})] } := by rfl
  have hanimals : animals.raw.Everywhere fun c => ¬c.isTruthValue := by decide
  have hleaves : ∀ t ∈ taggedCat.children,
      t.children = [] ∧ t.properties = none ∧ t.additional = none := by
    simp [taggedCat, children]
  have hplain : taggedCat.Plain := by
    constructor
    · refine .intro _ (by simp [taggedCat, KeysDistinct, Entries.Distinct, Entries.keys]) ?_
      intro t ht
      obtain ⟨hc, hp, _⟩ := hleaves t ht
      exact .intro t (by simp [KeysDistinct, hp]) (by simp [hc])
    · refine .intro _ (by simp [taggedCat, NoTruthValue]) ?_
      intro t ht
      obtain ⟨hc, _, ha⟩ := hleaves t ht
      exact .intro t (by simp [NoTruthValue, ha]) (by simp [hc])
  refine ⟨hresolve, resolve_full_eq_merge hplain.distinct ?_ hresolve⟩
  exact fun refs u hu => hu.noTruthValues hanimals hplain.noTruthValues

end Document

end SwaggerClient
