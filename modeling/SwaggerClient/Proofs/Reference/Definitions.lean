import SwaggerClient.Proofs.Entries
import SwaggerClient.Proofs.Reference.Pointer
import SwaggerClient.Proofs.Schema.Read

namespace SwaggerClient

/-- What stands under a key of a map is read from what stands under the same key. -/
theorem Reader.map_get?_entries {α : Type} {read : Reader α} {entries : List (String × Json)}
    {made : List (String × α)} (h : Reader.entries read entries = .ok made) (key : String) :
    (Entries.get? key entries).map read = (Entries.get? key made).map .ok := by
  induction entries generalizing made with
  | nil =>
    obtain rfl := Except.ok.inj h
    rfl
  | cons e rest ih =>
    obtain ⟨k, value⟩ := e
    obtain ⟨first, hfirst, h⟩ := bind_eq_ok.mp h
    obtain ⟨more, hmore, h⟩ := bind_eq_ok.mp h
    obtain rfl := Except.ok.inj h
    by_cases hk : k = key
    · simp only [Entries.get?, hk, if_true, Option.map_some, hfirst]
    · simp only [Entries.get?, hk, if_false, ih hmore]

namespace Contents

variable {c s : Contents} {key : String} {value : Json}

theorem definitions_of_set (h : record.set "definitions" value c = .ok s) :
    Reader.map Schema.read value = .ok s.definitions := by
  obtain ⟨definitions, hdefinitions, h⟩ := bind_eq_ok.mp h
  obtain rfl := Except.ok.inj h
  exact hdefinitions

theorem definitions_of_set_other (hkey : key ≠ "definitions") (h : record.set key value c = .ok s) :
    s.definitions = c.definitions := by
  simp only [record] at h
  split at h
  case h_2 => exact absurd rfl hkey
  case h_5 => exact Except.ok.inj h ▸ rfl
  all_goals
    obtain ⟨_, _, h⟩ := bind_eq_ok.mp h
    obtain rfl := Except.ok.inj h
    rfl

/-- The definitions are read from the entry of that name; without one there are none. -/
theorem definitions_of_readEntries {entries : List (String × Json)} (hdistinct : Entries.Distinct entries)
    (h : record.readEntries c entries = .ok s) :
    match Entries.get? "definitions" entries with
    | none => s.definitions = c.definitions
    | some j => Reader.map Schema.read j = .ok s.definitions := by
  induction entries generalizing c with
  | nil => exact Except.ok.inj h ▸ rfl
  | cons e rest ih =>
    obtain ⟨k, value⟩ := e
    obtain ⟨next, hnext, h⟩ := bind_eq_ok.mp h
    obtain ⟨hk, hrest⟩ := List.nodup_cons.mp hdistinct
    have hread := ih hrest h
    by_cases hkey : k = "definitions"
    · subst hkey
      rw [Entries.get?_eq_none_iff.mpr hk] at hread
      simp only [Entries.get?, if_true]
      rw [hread, definitions_of_set hnext]
    · rw [definitions_of_set_other hkey hnext] at hread
      simpa only [Entries.get?, hkey, if_false] using hread

end Contents

namespace Document

variable {d : Document} {entries : List (String × Json)} {name r : String}

/-- What stands under a name in the definitions is read as the definition of that name. -/
theorem follow?_definitions (hraw : d.raw = .object entries) (name : String) :
    (Json.follow? ["definitions", name] d.raw).map Schema.read =
      (Entries.get? name d.contents.definitions).map .ok := by
  have hdistinct : Entries.Distinct entries := (hraw ▸ d.distinct).here entries rfl
  have hreads : Contents.record.readEntries {} entries = .ok d.contents := by
    have hreads := d.reads
    rw [hraw] at hreads
    exact hreads
  have hdefinitions := Contents.definitions_of_readEntries hdistinct hreads
  rw [hraw, Json.follow?, Json.step?]
  cases hj : Entries.get? "definitions" entries with
  | none =>
    rw [hj] at hdefinitions
    rw [hdefinitions]
    rfl
  | some j =>
    rw [hj] at hdefinitions
    cases j with
    | object definitions =>
      rw [← Reader.map_get?_entries hdefinitions name, Option.bind_some, Json.follow?, Json.step?]
      cases Entries.get? name definitions <;> rfl
    | null | bool | number | string | array => cases hdefinitions

theorem local_definitions (name : String) : "#/definitions/" ++ name = "#/" ++ ("definitions/" ++ name) := by
  apply String.toList_inj.mp
  simp

theorem pointer?_definitions (hname : '/' ∉ name.toList) (j : Json) :
    j.pointer? ("/" ++ ("definitions/" ++ name)) =
      Json.follow? ["definitions", Json.unescapeSegment name] j := by
  have hchars : ("definitions/" ++ name).toList = "definitions".toList ++ '/' :: name.toList := by simp
  have hsplit : Text.split '/' ("definitions/" ++ name) = ["definitions", name] := by
    rw [Text.split, hchars, Text.splitChars_append (by decide), Text.splitChars_of_not_mem hname]
    simp
  have hkey : Json.unescapeSegment "definitions" = "definitions" :=
    Json.unescapeSegment_of_not_mem (by decide)
  rw [Json.pointer?_slash, hsplit, List.map_cons, List.map_cons, hkey, List.map_nil]

/-- Read as a pointer, a reference leads to the definition that its last segment spells. -/
theorem lookup_definition (hraw : d.raw = .object entries) (hname : '/' ∉ name.toList) :
    d.lookup .schema Schema.read ("#/definitions/" ++ name) =
      match Entries.get? (Json.unescapeSegment name) d.contents.definitions with
      | some s => .ok s
      | none => .error (.danglingReference ("#/definitions/" ++ name)) := by
  have hread := follow?_definitions hraw (Json.unescapeSegment name)
  rw [local_definitions, lookup_local, pointer?_definitions hname]
  cases hj : Json.follow? ["definitions", Json.unescapeSegment name] d.raw with
  | none =>
    rw [hj] at hread
    rw [Option.map_eq_none_iff.mp hread.symm]
  | some j =>
    rw [hj] at hread
    obtain ⟨s, hs, hj⟩ := Option.map_eq_some_iff.mp hread.symm
    rw [hs]
    simp only [← hj]
    rfl

theorem definitionName?_eq_some_iff {rest : String} :
    definitionName? ("/" ++ rest) = some name ↔
      "#/" ++ rest = "#/definitions/" ++ name ∧ '/' ∉ name.toList := by
  have happend : "/" ++ rest = "/definitions/" ++ name ↔ "#/" ++ rest = "#/definitions/" ++ name := by
    simp only [← String.toList_inj, String.toList_append]
    simp
  simp [definitionName?, Option.filter_eq_some_iff, Text.after?_eq_some_iff, happend]

/-- A definition of the name that follows in the reference comes before what stands at the pointer. -/
theorem lookupSchema_definition {s : Schema} (hname : '/' ∉ name.toList)
    (hs : Entries.get? name d.contents.definitions = some s) :
    d.lookupSchema ("#/definitions/" ++ name) = .ok s := by
  have hdefinition : definitionName? ("/" ++ ("definitions/" ++ name)) = some name :=
    definitionName?_eq_some_iff.mpr ⟨(local_definitions name).symm, hname⟩
  rw [local_definitions, lookupSchema, pointerOf_local, ok_bind, hdefinition, Option.bind_some, hs]
  rfl

theorem lookupSchema_of_no_definition
    (h : ∀ name s, r = "#/definitions/" ++ name → '/' ∉ name.toList →
      Entries.get? name d.contents.definitions ≠ some s) :
    d.lookupSchema r = d.lookup .schema Schema.read r := by
  by_cases hlocal : ∃ rest, r = "#/" ++ rest
  · obtain ⟨rest, rfl⟩ := hlocal
    have hnone : (definitionName? ("/" ++ rest)).bind
        (fun name => Entries.get? name d.contents.definitions) = none := by
      refine Option.eq_none_iff_forall_not_mem.mpr fun s hs => ?_
      obtain ⟨name, hname, hs⟩ := Option.bind_eq_some_iff.mp hs
      obtain ⟨hr, hslash⟩ := definitionName?_eq_some_iff.mp hname
      exact h name s hr hslash hs
    rw [lookupSchema, pointerOf_local, ok_bind, hnone]
  · have hbroken := pointerOf_of_not_local (not_exists.mp hlocal)
    rw [lookupSchema, lookup, hbroken]
    rfl

/-- A definition has the name that follows in the reference as it is written, and is not the one whose name
this spells. -/
def Misread (d : Document) (r : String) (s : Schema) : Prop :=
  ∃ name, r = "#/definitions/" ++ name ∧ '/' ∉ name.toList ∧
    Entries.get? name d.contents.definitions = some s ∧
    Entries.get? (Json.unescapeSegment name) d.contents.definitions ≠ some s

/-- The look-up of a schema finds what stands at the pointer of the reference, unless a definition is misread, and
that takes a tilde in the reference. -/
theorem lookupSchema_eq_lookup_iff (hraw : d.raw = .object entries) (r : String) :
    (d.lookupSchema r = d.lookup .schema Schema.read r ↔ ∀ s, ¬d.Misread r s) ∧
    (∀ s, d.Misread r s → '~' ∈ r.toList ∧ d.lookupSchema r = .ok s) := by
  refine ⟨⟨fun h s hmisread => ?_, fun h => ?_⟩, fun s hmisread => ?_⟩
  · obtain ⟨name, rfl, hname, hs, hother⟩ := hmisread
    rw [lookupSchema_definition hname hs, lookup_definition hraw hname] at h
    split at h
    · next s' hs' => exact hother (Except.ok.inj h ▸ hs')
    · cases h
  · by_cases hdefinition : ∃ name s, r = "#/definitions/" ++ name ∧ '/' ∉ name.toList ∧
        Entries.get? name d.contents.definitions = some s
    · obtain ⟨name, s, rfl, hname, hs⟩ := hdefinition
      have hsame : Entries.get? (Json.unescapeSegment name) d.contents.definitions = some s :=
        of_not_not fun hother => h s ⟨name, rfl, hname, hs, hother⟩
      rw [lookupSchema_definition hname hs, lookup_definition hraw hname, hsame]
    · exact lookupSchema_of_no_definition fun name s hr hname hs =>
        hdefinition ⟨name, s, hr, hname, hs⟩
  · obtain ⟨name, rfl, hname, hs, hother⟩ := hmisread
    refine ⟨of_not_not fun htilde => hother ?_, lookupSchema_definition hname hs⟩
    have hplain : '~' ∉ name.toList := fun hmem => htilde (by simp [hmem])
    rw [Json.unescapeSegment_of_not_mem hplain, hs]

def tildeEntries : List (String × Json) :=
  [("paths", .object []),
    ("definitions", .object [
      ("", .object [("type", .string "boolean")]),
      ("a/b", .object [("type", .string "integer")]),
      ("a~1b", .object [("type", .string "string")]),
      ("c~0d", .object [("type", .string "number")])])]

/-- A document whose definitions have tildes and slashes in their names. -/
def tildes : Document where
  raw := (Json.object tildeEntries).settle
  contents := {
    definitions := [
      ("", { type := some "boolean" }), ("a/b", { type := some "integer" }),
      ("a~1b", { type := some "string" }), ("c~0d", { type := some "number" })] }
  reads := rfl
  distinct := Json.settle_distinct _

theorem lookupSchema_eq_lookup_iff_tildes :
    tildes.raw = .object tildeEntries ∧
    tildes.lookupSchema "#/definitions/" = tildes.lookup .schema Schema.read "#/definitions/" ∧
    tildes.lookupSchema "#/definitions/a~1b" = .ok { type := some "string" } ∧
    tildes.lookupSchema "#/definitions/a~1b" ≠ tildes.lookup .schema Schema.read "#/definitions/a~1b" := by
  have hraw : tildes.raw = .object tildeEntries := rfl
  have hmisread : tildes.Misread "#/definitions/a~1b" { type := some "string" } :=
    ⟨"a~1b", rfl, by decide, rfl, fun h => absurd (congrArg (Option.map Schema.type) h) (by decide)⟩
  obtain ⟨hempty, htilde⟩ := lookupSchema_eq_lookup_iff hraw "#/definitions/"
  obtain ⟨hslash, hfound⟩ := lookupSchema_eq_lookup_iff hraw "#/definitions/a~1b"
  refine ⟨hraw, hempty.mpr fun s hs => ?_, (hfound _ hmisread).2, fun h => hslash.mp h _ hmisread⟩
  exact absurd (htilde s hs).1 (by decide)

/-- Of two definitions the look-up finds the one whose name is written like the segment that spells the other,
and it finds one where the pointer leads to nothing. -/
theorem lookupSchema_ne_lookup :
    (tildes.raw = .object tildeEntries ∧
      tildes.lookupSchema "#/definitions/a~1b" = .ok { type := some "string" } ∧
      tildes.lookup .schema Schema.read "#/definitions/a~1b" = .ok { type := some "integer" }) ∧
    tildes.lookupSchema "#/definitions/c~0d" = .ok { type := some "number" } ∧
    tildes.lookup .schema Schema.read "#/definitions/c~0d" =
      .error (.danglingReference "#/definitions/c~0d") :=
  ⟨⟨rfl, rfl, rfl⟩, rfl, rfl⟩

end Document

end SwaggerClient
