import Mathlib.Logic.Relation
import SwaggerClient.Proofs.Reference.Parts
import SwaggerClient.Proofs.Reference.Termination

namespace SwaggerClient.Document

variable {d : Document} {Q : String → Prop} {e : Expansion} {s t u : Schema} {r : String}
  {chain names : List String}

/-- The second schema stands in the first, or is what the reference of the first leads to. -/
def Leads (d : Document) (s t : Schema) : Prop :=
  t ∈ s.children ∨ ∃ r, s.reference = some r ∧ d.lookupSchema r = .ok t

/-- The schema, or one that it leads to, has the reference. -/
def ComesTo (d : Document) (s : Schema) (r : String) : Prop :=
  ∃ u, Relation.ReflTransGen d.Leads s u ∧ u.reference = some r

/-- The schema comes to a reference that leads back to itself. -/
def Cyclic (d : Document) (s : Schema) : Prop :=
  ∃ r t, d.ComesTo s r ∧ d.lookupSchema r = .ok t ∧ d.ComesTo t r

/-- The schema leads to one that holds, beside its reference, something that comes to a reference to the
same schema. -/
def Beside (d : Document) (s : Schema) : Prop :=
  ∃ u r, Relation.ReflTransGen d.Leads s u ∧ u.reference = some r ∧
    ∃ m ∈ u.children, ∃ r', d.ComesTo m r' ∧ d.lookupSchema r' = d.lookupSchema r

theorem ComesTo.of_leads (hlead : Relation.ReflTransGen d.Leads s t) (ht : d.ComesTo t r) :
    d.ComesTo s r := by
  obtain ⟨u, hu, hr⟩ := ht
  exact ⟨u, hlead.trans hu, hr⟩

theorem Cyclic.of_leads (hlead : Relation.ReflTransGen d.Leads s t) (ht : d.Cyclic t) :
    d.Cyclic s := by
  obtain ⟨r, target, hr, hlook, hback⟩ := ht
  exact ⟨r, target, hr.of_leads hlead, hlook, hback⟩

theorem Beside.of_leads (hlead : Relation.ReflTransGen d.Leads s t) (ht : d.Beside t) :
    d.Beside s := by
  obtain ⟨u, r, hu, hbeside⟩ := ht
  exact ⟨u, r, hlead.trans hu, hbeside⟩

theorem Follows.leads {refs : List String} (h : d.Follows e s refs t) :
    Relation.ReflTransGen d.Leads s t := by
  induction h with
  | here => exact .refl
  | reference hf hleads _ ih => exact .head (.inr ⟨_, reference_of_follows hf, hleads⟩) ih
  | member hmem _ ih => exact .head (.inl (Expansion.member_mem_children hmem)) ih

theorem referencesHave_comesTo (hlead : Relation.ReflTransGen d.Leads s t) :
    t.ReferencesHave (d.ComesTo s) := by
  induction t using Schema.induction with
  | step t ih =>
    refine .intro t (fun r hr => ⟨t, hlead, hr⟩) fun u hu => ?_
    exact ih u hu (hlead.tail (.inl hu))

theorem closed_comesTo (s : Schema) : d.Closed (d.ComesTo s) := by
  rintro r t ⟨u, hu, hr⟩ hlook
  exact referencesHave_comesTo (hu.tail (.inr ⟨r, hr, hlook⟩))

theorem Closed.referencesHave (hQ : d.Closed Q) (hs : s.ReferencesHave Q)
    (hlead : Relation.ReflTransGen d.Leads s t) : t.ReferencesHave Q := by
  induction hlead with
  | refl => exact hs
  | tail _ hleads ih =>
    rcases hleads with hchild | ⟨r, hr, hlook⟩
    · exact ih.child hchild
    · exact hQ r _ (ih.here r hr) hlook

theorem ComesTo.of_closed (hQ : d.Closed Q) (hs : s.ReferencesHave Q) (h : d.ComesTo s r) :
    Q r := by
  obtain ⟨u, hlead, hr⟩ := h
  exact (hQ.referencesHave hs hlead).here r hr

/-- Where every reference leads to none but lower ones, there is no cycle. -/
theorem not_cyclic_of_rank (rank : String → Nat) (hs : s.ReferencesHave Q)
    (hlower : ∀ r t, Q r → d.lookupSchema r = .ok t →
      t.ReferencesHave fun r' => Q r' ∧ rank r' < rank r) : ¬d.Cyclic s := by
  rintro ⟨r, t, hr, hlook, hback⟩
  have hQ : d.Closed Q := fun r t hr hlook =>
    (hlower r t hr hlook).mono fun _ hu r' hr' => (hu r' hr').1
  have hbelow : d.Closed fun r' => Q r' ∧ rank r' < rank r := by
    intro r' t' hr' hlook'
    refine (hlower r' t' hr'.1 hlook').mono fun _ hu q hq => ?_
    exact ⟨(hu q hq).1, (hu q hq).2.trans hr'.2⟩
  have hrank := hback.of_closed hbelow (hlower r t (hr.of_closed hQ hs) hlook)
  exact absurd hrank.2 (lt_irrefl _)

theorem lookupSchema_ne_cycle (d : Document) (r : String) (names : List String) :
    d.lookupSchema r ≠ .error (.cycle names) := by
  unfold lookupSchema lookup pointerOf
  intro h
  split at h
  · simp only [ok_bind] at h
    split at h
    · cases h
    · split at h
      · cases h
      · split at h <;> cases h
  · cases h

theorem of_expandMembers_eq_error {again : Continuation} {error : SynthesisError}
    {target : Schema} {members : List Schema}
    (h : d.expandMembers again e chain target members = .error error) :
    ∃ m ∈ members, d.expand again e.inMembers chain m = .error error := by
  induction members generalizing target with
  | nil => cases h
  | cons member rest ih =>
    rw [expandMembers_cons] at h
    cases hm : d.expand again e.inMembers chain member with
    | error first =>
      rw [hm] at h
      obtain rfl := Except.error.inj h
      exact ⟨member, by simp, hm⟩
    | ok expanded =>
      rw [hm, ok_bind] at h
      obtain ⟨m, hmem, hm⟩ := ih h
      exact ⟨m, List.mem_cons_of_mem _ hmem, hm⟩

/-- Why the expansion of a schema fails. -/
inductive Fails (d : Document) (again : Continuation) (e : Expansion) (chain : List String)
    (s : Schema) (error : SynthesisError) : Prop
  | member {m : Schema} (mem : m ∈ e.members s)
      (fails : d.expand again e.inMembers chain m = .error error)
  | repeats {r : String} (follows : e.follows? s.reference = some r) (mem : r ∈ chain)
  | lookup {r : String} (fails : d.lookupSchema r = .error error)
  | memberAfter {r : String} {target m : Schema} (follows : e.follows? s.reference = some r)
      (leads : d.lookupSchema r = .ok target) (mem : m ∈ e.members s)
      (fails : d.expand again e.inMembers (chain ++ [r]) m = .error error)
  | rest {r : String} {target : Schema} (f : Schema → Schema)
      (follows : e.follows? s.reference = some r) (leads : d.lookupSchema r = .ok target)
      (each : ∀ m ∈ e.members s, d.expand again e.inMembers (chain ++ [r]) m = .ok (f m))
      (fails : again e (chain ++ [r])
        ((((e.members s).map f).foldl Schema.merge target).merge (e.ownParts s)) = .error error)

theorem fails_of_expand {again : Continuation} {error : SynthesisError}
    (h : d.expand again e chain s = .error error) : d.Fails again e chain s error := by
  rw [expand_eq] at h
  cases hf : e.follows? s.reference with
  | none =>
    simp only [hf] at h
    split at h
    · cases hmembers : d.expandMembers again e chain {} (e.members s) with
      | error first =>
        rw [hmembers] at h
        obtain rfl := Except.error.inj h
        obtain ⟨m, hmem, hfails⟩ := of_expandMembers_eq_error hmembers
        exact .member hmem hfails
      | ok merged =>
        rw [hmembers] at h
        cases h
    · cases h
  | some r =>
    simp only [hf] at h
    split at h
    · next hmem => exact .repeats hf hmem
    · cases hlook : d.lookupSchema r with
      | error first =>
        rw [hlook] at h
        obtain rfl := Except.error.inj h
        exact .lookup hlook
      | ok target =>
        rw [hlook, ok_bind] at h
        cases hmembers : d.expandMembers again e (chain ++ [r]) target (e.members s) with
        | error first =>
          rw [hmembers] at h
          obtain rfl := Except.error.inj h
          obtain ⟨m, hmem, hfails⟩ := of_expandMembers_eq_error hmembers
          exact .memberAfter hf hlook hmem hfails
        | ok merged =>
          rw [hmembers, ok_bind] at h
          obtain ⟨f, heach, rfl⟩ := of_expandMembers_eq_ok hmembers
          exact .rest f hf hlook heach h

/-- What a cycle tells of a schema, when the references of the list were followed on the way to it. -/
def Reports (d : Document) (chain : List String) (s : Schema) : Prop :=
  d.Cyclic s ∨ d.Beside s ∨ ∃ r ∈ chain, d.ComesTo s r

theorem Reports.of_leads (hlead : d.Leads s t) (ht : d.Reports chain t) : d.Reports chain s := by
  have hlead' : Relation.ReflTransGen d.Leads s t := .single hlead
  rcases ht with h | h | ⟨r, hr, h⟩
  · exact .inl (h.of_leads hlead')
  · exact .inr (.inl (h.of_leads hlead'))
  · exact .inr (.inr ⟨r, hr, h.of_leads hlead'⟩)

/-- A cycle through the reference that was followed last is one of its own, or one beside it. -/
theorem Reports.of_reference (hr : s.reference = some r) (hlook : d.lookupSchema r = .ok u)
    (hlead : t = u ∨ t ∈ s.children) (ht : d.Reports (chain ++ [r]) t) : d.Reports chain s := by
  have hleads : d.Leads s t := by
    rcases hlead with rfl | hchild
    · exact .inr ⟨r, hr, hlook⟩
    · exact .inl hchild
  rcases ht with h | h | ⟨r', hr', h⟩
  · exact .of_leads hleads (.inl h)
  · exact .of_leads hleads (.inr (.inl h))
  · rcases List.mem_append.mp hr' with hmem | hlast
    · exact .of_leads hleads (.inr (.inr ⟨r', hmem, h⟩))
    · obtain rfl : r' = r := by simpa using hlast
      rcases hlead with rfl | hchild
      · exact .inl ⟨r', t, ⟨s, .refl, hr⟩, hlook, h⟩
      · exact .inr (.inl ⟨s, r', .refl, hr, t, hchild, r', h, rfl⟩)

/-- The invariant is that of every schema which is expanded on the way: it has the reference and the members
of the schema on the way, whatever else was merged into it. -/
theorem resolveWithin_cycle {room : Nat} (hr : e.references = true → s.reference = u.reference)
    (hm : e.members s = e.members u)
    (h : d.resolveWithin room e chain s = .error (.cycle names)) : d.Reports chain u := by
  induction room using Nat.strong_induction_on generalizing e chain s u with
  | h room ihroom =>
    induction s using Schema.induction generalizing e chain u with
    | step s ih =>
      -- a member of the composition is expanded by itself, with the same room
      have hmember {m : Schema} {chain' : List String} (hmem : m ∈ e.members s)
          (hfails : d.expand (d.beyond room) e.inMembers chain' m = .error (.cycle names)) :
          m ∈ u.children ∧ d.Reports chain' m := by
        have hreports := ih m (Expansion.member_mem_children hmem) (fun _ => rfl) rfl
          (resolveWithin_eq d room ▸ hfails)
        exact ⟨Expansion.member_mem_children (hm ▸ hmem), hreports⟩
      have hreference {r : String} (hf : e.follows? s.reference = some r) :
          u.reference = some r := by
        rw [← hr (references_of_follows hf), reference_of_follows hf]
      rw [resolveWithin_eq] at h
      cases fails_of_expand h with
      | member hmem hfails =>
        obtain ⟨hchild, hreports⟩ := hmember hmem hfails
        exact .of_leads (.inl hchild) hreports
      | repeats hf hmem => exact .inr (.inr ⟨_, hmem, u, .refl, hreference hf⟩)
      | lookup hfails => exact absurd hfails (lookupSchema_ne_cycle d _ names)
      | memberAfter hf hlook hmem hfails =>
        obtain ⟨hchild, hreports⟩ := hmember hmem hfails
        exact .of_reference (hreference hf) hlook (.inr hchild) hreports
      | @rest r target f hf hlook heach hfails =>
        have heach' : ∀ m ∈ e.members s, d.Expands e.inMembers (chain ++ [r]) m (f m) :=
          fun m hmem => expands_of_resolveWithin (resolveWithin_eq d room ▸ heach m hmem)
        cases room with
        | zero => cases hfails
        | succ room =>
          have hreports := ihroom room (Nat.lt_succ_self _)
            (fun he => merged_reference target heach' he) (merged_members target heach') hfails
          exact .of_reference (hreference hf) hlook (.inl rfl) hreports

theorem Reports.cyclic_or_beside (h : d.Reports [] s) : d.Cyclic s ∨ d.Beside s := by
  rcases h with hcyclic | hbeside | ⟨r, hr, _⟩
  · exact .inl hcyclic
  · exact .inr hbeside
  · simp at hr

theorem resolve_cycle (h : d.resolve e s = .error (.cycle names)) : d.Cyclic s ∨ d.Beside s :=
  (resolveWithin_cycle (fun _ => rfl) rfl h).cyclic_or_beside

/-- The members that are left when the references of a schema are replaced come from schemas that it leads
to. -/
theorem leads_of_base {base m : Schema} (hbase : d.resolve .onlyReferences s = .ok base)
    (hm : m ∈ base.allOf.getD []) : Relation.ReflTransGen d.Leads s m := by
  obtain ⟨refs, v, hv, hmv⟩ := ((expands_of_resolve hbase).part_iff (part_member rfl m)).mp hm
  exact hv.leads.tail (.inl (Schema.member_mem_children hmv))

theorem resolve_base_cycle {base : Schema} {ignored : Option String}
    (hbase : d.resolve .onlyReferences s = .ok base)
    (h : d.resolve (.full ignored) base = .error (.cycle names)) : d.Cyclic s ∨ d.Beside s := by
  have hnone : base.reference = none := (expands_of_resolve hbase).normal.1 rfl
  have hfollows : (Expansion.full ignored).follows? base.reference = none := by
    rw [hnone]
    rfl
  rw [resolve, resolveWithin_eq] at h
  cases fails_of_expand h with
  | member hmem hfails =>
    rw [← resolveWithin_eq] at hfails
    have hreports := (resolveWithin_cycle (fun _ => rfl) rfl hfails).cyclic_or_beside
    have hleads := leads_of_base hbase hmem
    exact hreports.imp (.of_leads hleads) (.of_leads hleads)
  | lookup hfails => exact absurd hfails (lookupSchema_ne_cycle d _ names)
  | repeats hf => simp [hfollows] at hf
  | memberAfter hf => simp [hfollows] at hf
  | rest f hf => simp [hfollows] at hf

end SwaggerClient.Document
