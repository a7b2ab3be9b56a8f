import SwaggerClient.Proofs.Reference.Pointer
import SwaggerClient.Proofs.Reference.Termination

namespace SwaggerClient

namespace Json

/-- A pointer that goes on from a key that holds nothing or an empty object leads to nothing. -/
theorem follow?_beyond_empty {key : String} {entries : List (String × Json)}
    (h : ∀ j, Entries.get? key entries = some j → j = .object []) (segment : String)
    (segments : List String) : follow? (key :: segment :: segments) (.object entries) = none := by
  unfold follow?
  cases hj : step? key (.object entries) with
  | none => rfl
  | some j =>
    obtain rfl := h j hj
    rfl

/-- Objects that differ under one key, where each has nothing or an empty object, have the same behind every
pointer but the one to that key. -/
theorem pointer?_eq_of_entry {key : String} (hslash : '/' ∉ key.toList) (htilde : '~' ∉ key.toList)
    {entries entries' : List (String × Json)}
    (hothers : ∀ k, k ≠ key → Entries.get? k entries = Entries.get? k entries')
    (hempty : ∀ j, Entries.get? key entries = some j → j = .object [])
    (hempty' : ∀ j, Entries.get? key entries' = some j → j = .object []) {rest : String}
    (hrest : rest ≠ key) :
    (object entries).pointer? ("/" ++ rest) = (object entries').pointer? ("/" ++ rest) := by
  obtain ⟨piece, pieces, hpieces⟩ :=
    List.exists_cons_of_ne_nil (Text.splitChars_ne_nil '/' rest.toList)
  rw [pointer?_slash, pointer?_slash, Text.split, hpieces]
  simp only [List.map_cons]
  by_cases hkey : unescapeSegment (String.ofList piece) = key
  · cases pieces with
    | nil =>
      have hpiece : rest.toList = piece := Text.eq_of_splitChars_eq_singleton hpieces
      refine absurd ?_ hrest
      rw [← (unescapeSegment_eq_iff hslash htilde).mp hkey, ← hpiece, String.ofList_toList]
    | cons piece' pieces =>
      rw [hkey, List.map_cons, List.map_cons, follow?_beyond_empty hempty,
        follow?_beyond_empty hempty']
  · simp only [follow?, step?, hothers _ hkey]

end Json

theorem Expansion.ne_of_follows {e : Expansion} {reference : Option String} {r r' : String}
    (he : e.ignored = some r) (h : e.follows? reference = some r') : r' ≠ r := by
  rintro rfl
  unfold Expansion.follows? at h
  split at h
  · simp [Option.filter_eq_some_iff, he] at h
  · cases h

namespace Document

/-- Every reference but one leads to the same schema in both documents, or to the same error. -/
def AgreeBut (d d' : Document) (r : String) : Prop :=
  ∀ r', r' ≠ r → d.lookupSchema r' = d'.lookupSchema r'

variable {d d' : Document} {r : String}

/-- The members of a composition are expanded with the same reference ignored, so every look-up on the way is of
another one. -/
theorem AgreeBut.expand_eq (h : d.AgreeBut d' r) {again again' : Continuation}
    (hagain : ∀ e chain s, e.ignored = some r → again e chain s = again' e chain s) {e : Expansion}
    (he : e.ignored = some r) (chain : List String) (s : Schema) :
    d.expand again e chain s = d'.expand again' e chain s :=
  expand_stepwise Stepwise.eq (fun _ he => he)
    (fun _ _ r' he hf => h r' (Expansion.ne_of_follows he hf)) hagain he chain s

theorem AgreeBut.resolveWithin_eq (h : d.AgreeBut d' r) {e : Expansion} (he : e.ignored = some r)
    (room : Nat) (chain : List String) (s : Schema) :
    d.resolveWithin room e chain s = d'.resolveWithin room e chain s := by
  induction room generalizing e chain s with
  | zero => exact h.expand_eq (fun _ _ _ _ => rfl) he chain s
  | succ room ih => exact h.expand_eq (fun _ chain s he => ih he chain s) he chain s

/-- An ignored reference may lead to anything. -/
theorem resolve_eq_of_agreeBut (h : d.AgreeBut d' r) (references allOf : Bool) (s : Schema) :
    d.resolve ⟨references, allOf, some r⟩ s = d'.resolve ⟨references, allOf, some r⟩ s :=
  resolve_congr fun room => h.resolveWithin_eq rfl room [] s

/-- Documents that differ under one key, where each has nothing or an empty object, agree on every reference but
the one to that key. -/
theorem agreeBut_of_entry {key : String} (hslash : '/' ∉ key.toList) (htilde : '~' ∉ key.toList)
    {entries entries' : List (String × Json)} (hraw : d.raw = .object entries)
    (hraw' : d'.raw = .object entries') (hdefinitions : d.contents.definitions = d'.contents.definitions)
    (hothers : ∀ k, k ≠ key → Entries.get? k entries = Entries.get? k entries')
    (hempty : ∀ j, Entries.get? key entries = some j → j = .object [])
    (hempty' : ∀ j, Entries.get? key entries' = some j → j = .object []) :
    d.AgreeBut d' ("#/" ++ key) := by
  intro r' hr'
  have hlookup : d.lookup .schema Schema.read r' = d'.lookup .schema Schema.read r' := by
    by_cases hlocal : ∃ rest, r' = "#/" ++ rest
    · obtain ⟨rest, rfl⟩ := hlocal
      have hrest : rest ≠ key := fun h => hr' (h ▸ rfl)
      rw [lookup_local, lookup_local, hraw, hraw',
        Json.pointer?_eq_of_entry hslash htilde hothers hempty hempty' hrest]
    · rw [(Broken.unsupported (not_exists.mp hlocal)).lookup_eq,
        (Broken.unsupported (not_exists.mp hlocal)).lookup_eq]
  unfold lookupSchema
  rw [hdefinitions, hlookup]

def dogJson : Json :=
  .object [
    ("allOf", .array [
      .object [("$ref", .string "#/Animal")],
      .object [("properties", .object [("bark", .object [("type", .string "string")])])]])]

def kennelEntries : List (String × Json) :=
  [("paths", .object []),
    ("definitions", .object [("Dog", dogJson), ("Puppy", .object [("$ref", .string "#/definitions/Dog")])])]

def kennelDefinitions : List (String × Schema) :=
  [("Dog", { allOf := some [{ reference := some "#/Animal" },
      { properties := some [("bark", { type := some "string" })] }] }),
    ("Puppy", { reference := some "#/definitions/Dog" })]

/-- A document in which dogs are animals, and animals are anything. -/
def kennel : Document where
  raw := (Json.object (kennelEntries ++ [("Animal", .object [])])).settle
  contents := { definitions := kennelDefinitions }
  reads := rfl
  distinct := Json.settle_distinct _

/-- A document in which dogs are animals, and what animals are is missing. -/
def strays : Document where
  raw := (Json.object kennelEntries).settle
  contents := { definitions := kennelDefinitions }
  reads := rfl
  distinct := Json.settle_distinct _

/-- Puppies are dogs and dogs are animals, and so is the schema itself. -/
def puppy : Schema where
  reference := some "#/Animal"
  allOf := some [{ reference := some "#/definitions/Puppy" }]

theorem resolve_kennel_eq_strays :
    kennel.AgreeBut strays "#/Animal" ∧
    kennel.lookupSchema "#/Animal" = .ok {} ∧
    strays.lookupSchema "#/Animal" = .error (.danglingReference "#/Animal") ∧
    kennel.resolve (.full (some "#/Animal")) puppy = strays.resolve (.full (some "#/Animal")) puppy ∧
    strays.resolve (.full (some "#/Animal")) puppy =
      .ok { properties := some [("bark", { type := some "string" })] } := by
  have hothers (k : String) (hk : k ≠ "Animal") :
      Entries.get? k (kennelEntries ++ [("Animal", Json.object [])]) = Entries.get? k kennelEntries := by
    simp [kennelEntries, Entries.get?, Ne.symm hk]
  have hempty (j : Json)
      (hj : Entries.get? "Animal" (kennelEntries ++ [("Animal", Json.object [])]) = some j) :
      j = .object [] :=
    (Option.some.inj hj).symm
  have hmissing (j : Json) : Entries.get? "Animal" kennelEntries ≠ some j := by
    simp [kennelEntries, Entries.get?]
  have hagree : kennel.AgreeBut strays ("#/" ++ "Animal") :=
    agreeBut_of_entry (by decide) (by decide) rfl rfl rfl hothers hempty fun j hj =>
      absurd hj (hmissing j)
  exact ⟨hagree, rfl, rfl, resolve_eq_of_agreeBut hagree true true puppy, rfl⟩

end Document

end SwaggerClient
