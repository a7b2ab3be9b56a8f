import SwaggerClient.Proofs.Reference.Expansion

namespace SwaggerClient

namespace Schema

def ReferenceHas (Q : String → Prop) (s : Schema) : Prop :=
  ∀ r, s.reference = some r → Q r

/-- The references in a schema, at every depth, have `Q`. -/
def ReferencesHave (Q : String → Prop) (s : Schema) : Prop :=
  s.Everywhere (ReferenceHas Q)

theorem referencesHave_reference {Q : String → Prop} {r : String} (h : Q r) :
    ReferencesHave Q { reference := some r } := by
  refine .intro _ (fun r' hr => ?_) (by simp [children])
  obtain rfl := Option.some.inj hr
  exact h

theorem referencesHave_properties {Q : String → Prop} {properties : List (String × Schema)}
    (h : ∀ p ∈ properties, p.2.ReferencesHave Q) :
    ReferencesHave Q { properties := some properties } := by
  refine .intro _ nofun fun t ht => ?_
  obtain ⟨p, hp, rfl⟩ : ∃ p ∈ properties, p.2 = t := by simpa [children] using ht
  exact h p hp

end Schema

namespace Document

variable {d : Document} {Q : String → Prop}

/-- A reference with `Q` leads to a schema whose references have `Q`. -/
def Closed (d : Document) (Q : String → Prop) : Prop :=
  ∀ r t, Q r → d.lookupSchema r = .ok t → t.ReferencesHave Q

theorem mergeable_referenceHas (Q : String → Prop) : Mergeable (Schema.ReferenceHas Q) where
  empty := by simp [Schema.ReferenceHas]
  merge a b ha hb := by
    intro r hr
    rw [Schema.merge_reference] at hr
    cases hb' : b.reference with
    | none => exact ha r (by simpa [hb'] using hr)
    | some x =>
      obtain rfl : x = r := by simpa [hb'] using hr
      exact hb x hb'
  ownParts e s h := by
    intro r hr
    simp only [Expansion.ownParts, Expansion.keepsReference] at hr
    split at hr
    · cases hr
    · exact h r hr

section Closed

variable {e : Expansion} {s t : Schema} {refs chain : List String} (hQ : d.Closed Q)

include hQ

/-- The references that are followed on a way have `Q`, and so do those of the schema that is reached. -/
theorem Follows.referencesHave (h : d.Follows e s refs t) (hs : s.ReferencesHave Q) :
    (∀ r ∈ refs, Q r) ∧ t.ReferencesHave Q := by
  induction h with
  | here => exact ⟨by simp, hs⟩
  | @reference e s target t r refs hf hleads _ ih =>
    have hr : Q r := hs.here r (reference_of_follows hf)
    obtain ⟨hrefs, ht⟩ := ih (hQ r target hr hleads)
    exact ⟨List.forall_mem_cons.mpr ⟨hr, hrefs⟩, ht⟩
  | member hmem _ ih => exact ih (hs.child (Expansion.member_mem_children hmem))

theorem Expands.referencesHave (h : d.Expands e chain s t) (hs : s.ReferencesHave Q) :
    t.ReferencesHave Q :=
  h.everywhere (mergeable_referenceHas Q) fun _ _ hu => (hu.referencesHave hQ hs).2

end Closed

end Document

end SwaggerClient
