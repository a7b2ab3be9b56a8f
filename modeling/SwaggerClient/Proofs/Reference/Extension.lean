import SwaggerClient.Proofs.Document.Alike
import SwaggerClient.Proofs.Reference.Pointer
import SwaggerClient.Proofs.Reference.Termination
import SwaggerClient.Reference.Follow

namespace SwaggerClient

namespace Document

variable {d d' : Document} {α : Type}

/-- Where a reference leads to something in the first document, it leads to the same in the second. -/
structure Extends (d d' : Document) : Prop where
  schema : ∀ r, Gives (d.lookupSchema r) (d'.lookupSchema r)
  parameter : ∀ r, Gives (d.lookup .parameter Parameter.read r) (d'.lookup .parameter Parameter.read r)
  response : ∀ r, Gives (d.lookup .response Response.read r) (d'.lookup .response Response.read r)
  size : d.raw.size ≤ d'.raw.size
  strings : d.raw.stringCount ≤ d'.raw.stringCount
  basePath : d'.contents.basePath = d.contents.basePath

/-- The pointer of a reference has a segment. -/
theorem follow?_of_pointerOf {r pointer : String} (h : pointerOf r = .ok pointer) :
    ∃ segment segments, ∀ j : Json, j.pointer? pointer = Json.follow? (segment :: segments) j := by
  obtain ⟨rest, -, rfl⟩ := pointerOf_eq_ok_iff.mp h
  obtain ⟨piece, pieces, hpieces⟩ :=
    List.exists_cons_of_ne_nil (Text.splitChars_ne_nil '/' rest.toList)
  refine ⟨Json.unescapeSegment (String.ofList piece),
    (pieces.map String.ofList).map Json.unescapeSegment, fun j => ?_⟩
  rw [Json.pointer?_slash, Text.split, hpieces]
  rfl

theorem lookup_of_alike {R : String → Json → Json → Prop}
    (h : Contents.record.Alike R d.raw d'.raw) (hR : ∀ key j j', R key j j' → j.Covers j')
    {kind : TargetKind} {read : Reader α}
    (hread : ∀ j j' : Json, j.Covers j' → Gives (read j) (read j')) (r : String) :
    Gives (d.lookup kind read r) (d'.lookup kind read r) := by
  intro a ha
  obtain ⟨pointer, hpointer, ha⟩ := bind_eq_ok.mp ha
  obtain ⟨segment, segments, hfollow⟩ := follow?_of_pointerOf hpointer
  simp only [hfollow] at ha
  split at ha
  · cases ha
  · next j hj =>
    obtain ⟨j', hj', hcovers⟩ := h.follow? hR hj
    split at ha
    · next target htarget =>
      obtain rfl := Except.ok.inj ha
      rw [lookup, hpointer, ok_bind, hfollow, hj']
      simp only [hread j j' hcovers target htarget]
      rfl
    · cases ha

theorem extends_of_alike {R : String → Json → Json → Prop}
    (h : Contents.record.Alike R d.raw d'.raw) (hR : ∀ key j j', R key j j' → j.Covers j')
    (hdefinitions : ∀ name, Entries.get? name d'.contents.definitions =
      Entries.get? name d.contents.definitions)
    (hbasePath : d'.contents.basePath = d.contents.basePath) : d.Extends d' where
  schema r := by
    intro s hs
    obtain ⟨pointer, hpointer, hs⟩ := bind_eq_ok.mp hs
    rw [lookupSchema, hpointer, ok_bind]
    simp only [hdefinitions]
    split at hs
    · exact hs
    · exact lookup_of_alike h hR (fun _ _ hcovers => hcovers.schema) r s hs
  parameter := lookup_of_alike h hR fun _ _ hcovers => hcovers.parameter
  response := lookup_of_alike h hR fun _ _ hcovers => hcovers.response
  size := (h.size hR).1
  strings := (h.size hR).2
  basePath := hbasePath

theorem Expands.extends (h : d.Extends d') {e : Expansion} {chain : List String} {s t : Schema}
    (hs : d.Expands e chain s t) : d'.Expands e chain s t := by
  induction hs with
  | unchanged hf hrep => exact .unchanged hf hrep
  | members f hf hrep _ ih => exact .members f hf hrep ih
  | follow f hf hfresh hleads _ _ ihm ihr =>
    exact .follow f hf hfresh (h.schema _ _ hleads) ihm ihr

theorem Extends.resolve (h : d.Extends d') (e : Expansion) (s : Schema) :
    Gives (d.resolve e s) (d'.resolve e s) := by
  intro t ht
  rw [resolve_eq_ok_iff] at ht ⊢
  exact ht.extends h

theorem followWithin_gives {target : Referable α}
    (hlook : ∀ r, Gives (d.lookup target.kind target.read r) (d'.lookup target.kind target.read r))
    {room more : Nat} (hroom : room ≤ more) (chain : List String) (value : α) :
    Gives (d.followWithin target chain room value) (d'.followWithin target chain more value) := by
  induction room generalizing more chain value with
  | zero =>
    intro a ha
    cases hr : target.reference? value with
    | some r => simp [followWithin, hr] at ha
    | none => cases more <;> simpa [followWithin, hr] using ha
  | succ room ih =>
    obtain ⟨more, rfl⟩ : ∃ n, more = n + 1 := ⟨more - 1, by omega⟩
    cases hr : target.reference? value with
    | none => simpa [followWithin, hr] using Gives.stepwise.refl _
    | some r =>
      simp only [followWithin, hr]
      split
      · exact Gives.stepwise.refl _
      · exact (hlook r).bind fun next => ih (by omega) _ next

theorem Extends.follow_parameter (h : d.Extends d') (p : Parameter) :
    Gives (d.follow .parameter p) (d'.follow .parameter p) :=
  followWithin_gives h.parameter (by
    have hstrings := h.strings
    simp only [referenceBound]
    omega) [] p

theorem Extends.follow_response (h : d.Extends d') (r : Response) :
    Gives (d.follow .response r) (d'.follow .response r) :=
  followWithin_gives h.response (by
    have hstrings := h.strings
    simp only [referenceBound]
    omega) [] r

end Document

end SwaggerClient
