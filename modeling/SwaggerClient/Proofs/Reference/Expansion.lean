import SwaggerClient.Proofs.Outcome
import SwaggerClient.Proofs.Schema.Merge
import SwaggerClient.Reference.Resolve

namespace SwaggerClient

namespace Expansion

/-- The expansion of the members of a composition: their references are always followed. -/
def inMembers (e : Expansion) : Expansion := { e with references := true }

/-- The members of a composition that is replaced. -/
def members (e : Expansion) (s : Schema) : List Schema :=
  if e.allOf then s.allOf.getD [] else []

/-- The schema without the parts that are replaced. -/
def ownParts (e : Expansion) (s : Schema) : Schema :=
  { s with reference := e.keepsReference s.reference, allOf := e.keepsAllOf s.allOf }

def replaces (e : Expansion) (s : Schema) : Bool :=
  (e.references && s.reference.isSome) || (e.allOf && s.allOf.isSome)

end Expansion

namespace Document

variable {d : Document} {again : Continuation}

theorem expand_eq (d : Document) (again : Continuation) (e : Expansion) (chain : List String)
    (s : Schema) :
    d.expand again e chain s =
      match e.follows? s.reference with
      | some r =>
        if r ∈ chain then .error (cycleError chain r)
        else do
          let target ← d.lookupSchema r
          let merged ← d.expandMembers again e (chain ++ [r]) target (e.members s)
          again e (chain ++ [r]) (merged.merge (e.ownParts s))
      | none =>
        if e.replaces s then do
          let merged ← d.expandMembers again e chain {} (e.members s)
          return merged.merge (e.ownParts s)
        else .ok s := by
  have hmembers (chain : List String) (target : Schema) :
      d.expandAllOf again e chain target s.allOf =
        d.expandMembers again e chain target (e.members s) := by
    cases hs : s.allOf with
    | none => cases he : e.allOf <;> simp [expandAllOf, Expansion.members, expandMembers, he, hs]
    | some members =>
      cases he : e.allOf <;> simp [expandAllOf, Expansion.members, expandMembers, he, hs]
  cases s
  simp only [expand, Expansion.replaces, Expansion.ownParts] at hmembers ⊢
  simp only [hmembers]
  rfl

theorem expandMembers_cons (d : Document) (again : Continuation) (e : Expansion)
    (chain : List String) (target member : Schema) (rest : List Schema) :
    d.expandMembers again e chain target (member :: rest) =
      d.expand again e.inMembers chain member >>= fun expanded =>
        d.expandMembers again e chain (target.merge expanded) rest := rfl

theorem expandMembers_eq_ok {e : Expansion} {chain : List String} {f : Schema → Schema}
    (target : Schema) {members : List Schema}
    (h : ∀ m ∈ members, d.expand again e.inMembers chain m = .ok (f m)) :
    d.expandMembers again e chain target members =
      .ok ((members.map f).foldl Schema.merge target) := by
  induction members generalizing target with
  | nil => rfl
  | cons member rest ih =>
    rw [expandMembers_cons, h member (by simp), ok_bind,
      ih _ fun m hm => h m (List.mem_cons_of_mem _ hm)]
    rfl

theorem of_expandMembers_eq_ok {e : Expansion} {chain : List String} {target merged : Schema}
    {members : List Schema} (h : d.expandMembers again e chain target members = .ok merged) :
    ∃ f : Schema → Schema, (∀ m ∈ members, d.expand again e.inMembers chain m = .ok (f m)) ∧
      merged = (members.map f).foldl Schema.merge target := by
  -- members with one text expand alike, so one function serves all of them
  let f := fun m => (d.expand again e.inMembers chain m).toOption.getD {}
  have hall : ∀ m ∈ members, d.expand again e.inMembers chain m = .ok (f m) := by
    induction members generalizing target with
    | nil => simp
    | cons member rest ih =>
      rw [expandMembers_cons] at h
      obtain ⟨expanded, hm, hr⟩ := bind_eq_ok.mp h
      intro m hmem
      rcases List.mem_cons.mp hmem with rfl | hrest
      · simp [f, hm, Except.toOption]
      · exact ih hr m hrest
  refine ⟨f, hall, ?_⟩
  rw [expandMembers_eq_ok target hall] at h
  exact (Except.ok.inj h).symm

/-- A schema expands to another, with the references of the list followed on the way to it. -/
inductive Expands (d : Document) : Expansion → List String → Schema → Schema → Prop
  /-- Nothing is to be replaced. -/
  | unchanged {e : Expansion} {chain : List String} {s : Schema}
      (follows : e.follows? s.reference = none) (replaces : e.replaces s = false) :
      Expands d e chain s s
  /-- Members are replaced by what they expand to. -/
  | members {e : Expansion} {chain : List String} {s : Schema} (f : Schema → Schema)
      (follows : e.follows? s.reference = none) (replaces : e.replaces s = true)
      (each : ∀ m ∈ e.members s, Expands d e.inMembers chain m (f m)) :
      Expands d e chain s ((((e.members s).map f).foldl Schema.merge {}).merge (e.ownParts s))
  /-- A reference is followed, and what it leads to is expanded with all other parts merged over it. -/
  | follow {e : Expansion} {chain : List String} {s target t : Schema} {r : String}
      (f : Schema → Schema) (follows : e.follows? s.reference = some r) (fresh : r ∉ chain)
      (leads : d.lookupSchema r = .ok target)
      (each : ∀ m ∈ e.members s, Expands d e.inMembers (chain ++ [r]) m (f m))
      (rest : Expands d e (chain ++ [r])
        ((((e.members s).map f).foldl Schema.merge target).merge (e.ownParts s)) t) :
      Expands d e chain s t

theorem Expansion.member_mem_children {e : Expansion} {s m : Schema} (h : m ∈ e.members s) :
    m ∈ s.children := by
  unfold Expansion.members at h
  split at h
  · exact Schema.member_mem_children h
  · simp at h

theorem expands_of_expand
    (hagain : ∀ e chain s t, again e chain s = .ok t → d.Expands e chain s t) {e : Expansion}
    {chain : List String} {s t : Schema} (h : d.expand again e chain s = .ok t) :
    d.Expands e chain s t := by
  induction s using Schema.induction generalizing e chain t with
  | step s ih =>
    rw [expand_eq] at h
    cases hf : e.follows? s.reference with
    | some r =>
      simp only [hf] at h
      split at h
      · cases h
      · next hfresh =>
        obtain ⟨target, htarget, h⟩ := bind_eq_ok.mp h
        obtain ⟨merged, hmerged, h⟩ := bind_eq_ok.mp h
        obtain ⟨f, heach, rfl⟩ := of_expandMembers_eq_ok hmerged
        refine .follow f hf hfresh htarget ?_ (hagain _ _ _ _ h)
        exact fun m hm => ih m (Expansion.member_mem_children hm) (heach m hm)
    | none =>
      simp only [hf] at h
      split at h
      · next hrep =>
        obtain ⟨merged, hmerged, h⟩ := bind_eq_ok.mp h
        obtain ⟨f, heach, rfl⟩ := of_expandMembers_eq_ok hmerged
        obtain rfl := Except.ok.inj h
        refine .members f hf hrep ?_
        exact fun m hm => ih m (Expansion.member_mem_children hm) (heach m hm)
      · next hrep =>
        obtain rfl := Except.ok.inj h
        exact .unchanged hf (by simpa using hrep)

theorem expands_of_resolveWithin {room : Nat} {e : Expansion} {chain : List String} {s t : Schema}
    (h : d.resolveWithin room e chain s = .ok t) : d.Expands e chain s t := by
  induction room generalizing e chain s t with
  | zero => exact expands_of_expand (by simp) h
  | succ room ih => exact expands_of_expand (fun _ _ _ _ => ih) h

theorem expands_of_resolve {e : Expansion} {s t : Schema} (h : d.resolve e s = .ok t) :
    d.Expands e [] s t :=
  expands_of_resolveWithin h

theorem foldl_merge_reference {results : List Schema} (target : Schema)
    (h : ∀ r ∈ results, r.reference = none) :
    (results.foldl Schema.merge target).reference = target.reference := by
  induction results generalizing target with
  | nil => rfl
  | cons r rest ih =>
    rw [List.foldl_cons, ih _ fun x hx => h x (List.mem_cons_of_mem _ hx)]
    simp [h r (by simp)]

theorem foldl_merge_allOf {results : List Schema} (target : Schema)
    (h : ∀ r ∈ results, r.allOf = none) :
    (results.foldl Schema.merge target).allOf = target.allOf := by
  induction results generalizing target with
  | nil => rfl
  | cons r rest ih =>
    rw [List.foldl_cons, ih _ fun x hx => h x (List.mem_cons_of_mem _ hx)]
    simp [h r (by simp)]

theorem ownParts_reference {e : Expansion} (h : e.references = true) (s : Schema) :
    (e.ownParts s).reference = none := by
  simp [Expansion.ownParts, Expansion.keepsReference, h]

theorem ownParts_allOf {e : Expansion} (h : e.allOf = true) (s : Schema) :
    (e.ownParts s).allOf = none := by
  simp [Expansion.ownParts, Expansion.keepsAllOf, h]

theorem allOf_of_mem_members {e : Expansion} {s m : Schema} (h : m ∈ e.members s) :
    e.allOf = true := by
  unfold Expansion.members at h
  split at h
  · assumption
  · simp at h

theorem members_of_not_replaces {e : Expansion} {s : Schema} (h : e.replaces s = false) :
    e.members s = [] := by
  simp only [Expansion.replaces, Bool.or_eq_false_iff, Bool.and_eq_false_iff] at h
  rcases h.2 with ha | hnone
  · simp [Expansion.members, ha]
  · have hs : s.allOf = none := by simpa using hnone
    simp [Expansion.members, hs]

/-- Nothing that an expansion replaces is left. -/
theorem Expands.normal {e : Expansion} {chain : List String} {s t : Schema}
    (h : d.Expands e chain s t) :
    (e.references = true → t.reference = none) ∧ (e.allOf = true → t.allOf = none) := by
  induction h with
  | @unchanged e chain s _ hrep =>
    simp only [Expansion.replaces, Bool.or_eq_false_iff, Bool.and_eq_false_iff] at hrep
    refine ⟨fun he => ?_, fun he => ?_⟩
    · simpa [he] using hrep.1
    · simpa [he] using hrep.2
  | @members e chain s f _ _ _ ih =>
    refine ⟨fun he => ?_, fun he => ?_⟩
    · have hr : ∀ r ∈ (e.members s).map f, r.reference = none :=
        List.forall_mem_map.mpr fun m hm => (ih m hm).1 rfl
      simp [ownParts_reference he, foldl_merge_reference _ hr]
    · have hr : ∀ r ∈ (e.members s).map f, r.allOf = none :=
        List.forall_mem_map.mpr fun m hm => (ih m hm).2 (allOf_of_mem_members hm)
      simp [ownParts_allOf he, foldl_merge_allOf _ hr]
  | follow _ _ _ _ _ _ _ ih => exact ih

theorem Expands.member_normal {e : Expansion} {chain : List String} {s : Schema}
    {f : Schema → Schema} (h : ∀ m ∈ e.members s, d.Expands e.inMembers chain m (f m)) :
    ∀ r ∈ (e.members s).map f, r.reference = none ∧ r.allOf = none :=
  List.forall_mem_map.mpr fun m hm =>
    ⟨(h m hm).normal.1 rfl, (h m hm).normal.2 (allOf_of_mem_members hm)⟩

/-- What is expanded after a reference has the reference of the schema that this one leads to. -/
theorem merged_reference {e : Expansion} {chain : List String} {s : Schema} (target : Schema)
    {f : Schema → Schema} (h : ∀ m ∈ e.members s, d.Expands e.inMembers chain m (f m))
    (he : e.references = true) :
    ((((e.members s).map f).foldl Schema.merge target).merge (e.ownParts s)).reference =
      target.reference := by
  have hr := foldl_merge_reference target fun r hr => (Expands.member_normal h r hr).1
  simp [ownParts_reference he, hr]

theorem merged_allOf {e : Expansion} {chain : List String} {s : Schema} (target : Schema)
    {f : Schema → Schema} (h : ∀ m ∈ e.members s, d.Expands e.inMembers chain m (f m))
    (he : e.allOf = true) :
    ((((e.members s).map f).foldl Schema.merge target).merge (e.ownParts s)).allOf =
      target.allOf := by
  have hr := foldl_merge_allOf target fun r hr => (Expands.member_normal h r hr).2
  simp [ownParts_allOf he, hr]

theorem merged_members {e : Expansion} {chain : List String} {s : Schema} (target : Schema)
    {f : Schema → Schema} (h : ∀ m ∈ e.members s, d.Expands e.inMembers chain m (f m)) :
    e.members ((((e.members s).map f).foldl Schema.merge target).merge (e.ownParts s)) =
      e.members target := by
  cases he : e.allOf with
  | false => simp [Expansion.members, he]
  | true =>
    have ha := merged_allOf target h he
    simp only [Expansion.members, he, if_true] at ha ⊢
    rw [ha]

theorem references_of_follows {e : Expansion} {reference : Option String} {r : String}
    (h : e.follows? reference = some r) : e.references = true := by
  unfold Expansion.follows? at h
  split at h
  · assumption
  · cases h

theorem reference_of_follows {e : Expansion} {reference : Option String} {r : String}
    (h : e.follows? reference = some r) : reference = some r := by
  unfold Expansion.follows? at h
  split at h
  · exact (Option.filter_eq_some_iff.mp h).1
  · cases h

/-- With fewer references followed before, a schema expands to the same. -/
theorem Expands.mono {e : Expansion} {chain fewer : List String} {s t : Schema}
    (h : d.Expands e chain s t) (hsub : fewer ⊆ chain) : d.Expands e fewer s t := by
  induction h generalizing fewer with
  | unchanged hf hrep => exact .unchanged hf hrep
  | members f hf hrep _ ih => exact .members f hf hrep fun m hm => ih m hm hsub
  | @follow e chain s target t r f hf hfresh hleads _ _ ihm ihr =>
    have hsub' : fewer ++ [r] ⊆ chain ++ [r] :=
      List.append_subset.mpr
        ⟨fun x hx => List.mem_append_left _ (hsub hx), List.subset_append_right _ _⟩
    exact .follow f hf (fun hr => hfresh (hsub hr)) hleads (fun m hm => ihm m hm hsub') (ihr hsub')

/-- The ways along which an expansion goes: the references followed one after the other, and the schema
that is reached. -/
inductive Follows (d : Document) : Expansion → Schema → List String → Schema → Prop
  | here {e : Expansion} {s : Schema} : Follows d e s [] s
  | reference {e : Expansion} {s target t : Schema} {r : String} {refs : List String}
      (follows : e.follows? s.reference = some r) (leads : d.lookupSchema r = .ok target)
      (rest : Follows d e target refs t) : Follows d e s (r :: refs) t
  | member {e : Expansion} {s m t : Schema} {refs : List String} (mem : m ∈ e.members s)
      (rest : Follows d e.inMembers m refs t) : Follows d e s refs t

theorem Follows.congr {e : Expansion} {s u t : Schema} {refs : List String}
    (hr : e.references = true → s.reference = u.reference) (hm : e.members s = e.members u)
    (h : d.Follows e s refs t) : t = s ∨ d.Follows e u refs t := by
  cases h with
  | here => exact .inl rfl
  | reference hf hleads hrest =>
    rw [hr (references_of_follows hf)] at hf
    exact .inr (.reference hf hleads hrest)
  | member hmem hrest => exact .inr (.member (hm ▸ hmem) hrest)

/-- What holds of a schema at every depth, and of what references lead to, holds all along the ways. -/
theorem Follows.everywhere {P : Schema → Prop} {e : Expansion} {s t : Schema} {refs : List String}
    (h : d.Follows e s refs t) (hs : s.Everywhere P)
    (hlook : ∀ r u, d.lookupSchema r = .ok u → u.Everywhere P) : t.Everywhere P := by
  induction h with
  | here => exact hs
  | reference _ hleads _ ih => exact ih (hlook _ _ hleads)
  | member hmem _ ih => exact ih (hs.child (Expansion.member_mem_children hmem))

theorem everywhere_foldl_merge {P : Schema → Prop} (hP : ∀ a b, P a → P b → P (a.merge b))
    {target : Schema} {results : List Schema} (ht : target.Everywhere P)
    (hr : ∀ r ∈ results, r.Everywhere P) : (results.foldl Schema.merge target).Everywhere P := by
  induction results generalizing target with
  | nil => exact ht
  | cons r rest ih =>
    exact ih (Schema.everywhere_merge hP ht (hr r (by simp)))
      fun x hx => hr x (List.mem_cons_of_mem _ hx)

/-- Properties of schemas that merging keeps, and that a schema keeps without its reference and its
composition. -/
structure Mergeable (P : Schema → Prop) : Prop where
  empty : P {}
  merge : ∀ a b, P a → P b → P (a.merge b)
  ownParts : ∀ e s, P s → P (Expansion.ownParts e s)

theorem ownParts_children_subset (e : Expansion) (s : Schema) :
    (e.ownParts s).children ⊆ s.children := by
  intro t ht
  have hm : t ∈ (e.keepsAllOf s.allOf).getD [] → t ∈ s.allOf.getD [] := by
    unfold Expansion.keepsAllOf
    split
    · simp
    · exact id
  exact Schema.mem_children.mpr ((Schema.mem_children.mp ht).imp_right fun h =>
    h.imp_right fun h => h.imp_right hm)

theorem Mergeable.everywhere_ownParts {P : Schema → Prop} (hP : Mergeable P) (e : Expansion)
    {s : Schema} (h : s.Everywhere P) : (e.ownParts s).Everywhere P :=
  .intro _ (hP.ownParts e s h.here) fun _ ht => h.child (ownParts_children_subset e s ht)

theorem Mergeable.everywhere_empty {P : Schema → Prop} (hP : Mergeable P) :
    Schema.Everywhere P {} :=
  .intro _ hP.empty (by simp [Schema.children])

/-- What holds at every depth of all schemas on the ways of an expansion, and is kept by merging, holds
at every depth of the result. -/
theorem Expands.everywhere {P : Schema → Prop} (hP : Mergeable P) {e : Expansion}
    {chain : List String} {s t : Schema} (h : d.Expands e chain s t)
    (hways : ∀ refs u, d.Follows e s refs u → u.Everywhere P) : t.Everywhere P := by
  induction h with
  | unchanged => exact hways [] _ .here
  | @members e chain s f _ _ _ ih =>
    have hs := hways [] s .here
    have hr : ∀ r ∈ (e.members s).map f, r.Everywhere P :=
      List.forall_mem_map.mpr fun m hm => ih m hm fun refs u hu => hways refs u (.member hm hu)
    exact Schema.everywhere_merge hP.merge
      (everywhere_foldl_merge hP.merge hP.everywhere_empty hr) (hP.everywhere_ownParts e hs)
  | @follow e chain s target t r f hf _ hleads heach _ ihm ihr =>
    have hs := hways [] s .here
    have ht := hways [r] target (.reference hf hleads .here)
    have hr : ∀ r ∈ (e.members s).map f, r.Everywhere P :=
      List.forall_mem_map.mpr fun m hm => ihm m hm fun refs u hu => hways refs u (.member hm hu)
    have hmerged := Schema.everywhere_merge hP.merge (everywhere_foldl_merge hP.merge ht hr)
      (hP.everywhere_ownParts e hs)
    refine ihr fun refs u hu => ?_
    rcases hu.congr (fun he => merged_reference target heach he) (merged_members target heach) with
      rfl | hu
    · exact hmerged
    · exact hways (r :: refs) u (.reference hf hleads hu)

/-- Where expansion succeeds, no way comes back to a reference followed on it. The invariant is that of
every schema which is expanded on the way: it has the reference and the members of the schema on the
way, whatever else was merged into it. -/
theorem Follows.nodup {e : Expansion} {u t : Schema} {refs : List String}
    (hp : d.Follows e u refs t) {chain : List String} {s v : Schema}
    (hr : e.references = true → s.reference = u.reference) (hm : e.members s = e.members u)
    (h : d.Expands e chain s v) : refs.Nodup ∧ ∀ r ∈ refs, r ∉ chain := by
  induction hp generalizing chain s v with
  | here => simp
  | @reference e u target t r refs hf hleads _ ih =>
    have he := references_of_follows hf
    rw [← hr he] at hf
    cases h with
    | unchanged hf' => simp [hf] at hf'
    | members f hf' => simp [hf] at hf'
    | @follow _ _ _ target' _ r' f hf' hfresh hleads' heach hrest =>
      obtain rfl : r = r' := Option.some.inj (hf.symm.trans hf')
      obtain rfl : target = target' := Except.ok.inj (hleads.symm.trans hleads')
      obtain ⟨hnd, hnot⟩ :=
        ih (fun he => merged_reference target heach he) (merged_members target heach) hrest
      refine ⟨List.nodup_cons.mpr ⟨fun hx => hnot r hx (by simp), hnd⟩, ?_⟩
      intro x hx
      rcases List.mem_cons.mp hx with rfl | hx
      · exact hfresh
      · exact fun hc => hnot x hx (List.mem_append_left _ hc)
  | @member e u m t refs hmem _ ih =>
    rw [← hm] at hmem
    cases h with
    | unchanged hf hrep => simp [members_of_not_replaces hrep] at hmem
    | members f _ _ heach => exact ih (fun _ => rfl) rfl (heach m hmem)
    | follow f _ _ _ heach _ =>
      obtain ⟨hnd, hnot⟩ := ih (fun _ => rfl) rfl (heach m hmem)
      exact ⟨hnd, fun x hx hc => hnot x hx (List.mem_append_left _ hc)⟩

end Document

end SwaggerClient
