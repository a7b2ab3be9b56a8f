import SwaggerClient.Proofs.Reference.Bound

namespace SwaggerClient

/-- A run that does not fail for want of room, and whose value has `P`. -/
def Ends {α : Type} (P : α → Prop) : Except SynthesisError α → Prop
  | .ok a => P a
  | .error error => error ≠ .endless

/-- A run that either fails for want of room or does what `y` does. -/
def AtMost {α : Type} (x y : Except SynthesisError α) : Prop :=
  x = .error .endless ∨ x = y

section Runs

variable {α β : Type} {P : α → Prop} {Q : β → Prop} {x y z : Except SynthesisError α}

theorem Ends.bind {f : α → Except SynthesisError β} (hx : Ends P x)
    (hf : ∀ a, x = .ok a → P a → Ends Q (f a)) : Ends Q (x >>= f) := by
  cases x with
  | error error => exact hx
  | ok a => exact hf a rfl hx

theorem Ends.ne_endless (h : Ends P x) : x ≠ .error .endless := by
  rintro rfl
  exact h rfl

theorem AtMost.refl (x : Except SynthesisError α) : AtMost x x := .inr rfl

theorem AtMost.trans (hxy : AtMost x y) (hyz : AtMost y z) : AtMost x z := by
  rcases hxy with rfl | rfl
  · exact .inl rfl
  · exact hyz

theorem AtMost.bind {f g : α → Except SynthesisError β} (hxy : AtMost x y)
    (hfg : ∀ a, AtMost (f a) (g a)) : AtMost (x >>= f) (y >>= g) := by
  rcases hxy with rfl | rfl
  · exact .inl rfl
  · cases x with
    | error error => exact .refl _
    | ok a => exact hfg a

theorem AtMost.stepwise : Stepwise AtMost where
  refl := AtMost.refl
  bind := AtMost.bind

theorem AtMost.bind_ok {a : α} {f : α → Except SynthesisError β} {y : Except SynthesisError β}
    (hx : AtMost x (.ok a)) (hf : AtMost (f a) y) : AtMost (x >>= f) y := by
  rcases hx with rfl | rfl
  · exact .inl rfl
  · exact hf

theorem AtMost.eq (h : AtMost x y) (hx : x ≠ .error .endless) : x = y :=
  h.resolve_left hx

end Runs

namespace Document

variable {d : Document} {again : Continuation}

/-- How expansion goes on with room for one reference less. -/
def beyond (d : Document) : Nat → Continuation
  | 0 => fun _ _ _ => .error .endless
  | room + 1 => d.resolveWithin room

theorem resolveWithin_eq (d : Document) (room : Nat) :
    d.resolveWithin room = d.expand (d.beyond room) := by
  cases room <;> rfl

section Stepwise

variable {d' : Document} {again' : Continuation}
  {R : {α : Type} → Except SynthesisError α → Except SynthesisError α → Prop} (hR : Stepwise R)

include hR

theorem expandMembers_stepwise {e : Expansion} {chain : List String} (target : Schema)
    {members : List Schema}
    (h : ∀ m ∈ members,
      R (d.expand again e.inMembers chain m) (d'.expand again' e.inMembers chain m)) :
    R (d.expandMembers again e chain target members)
      (d'.expandMembers again' e chain target members) := by
  induction members generalizing target with
  | nil => exact hR.refl _
  | cons member rest ih =>
    rw [expandMembers_cons, expandMembers_cons]
    exact hR.bind (h member (by simp)) fun expanded =>
      ih _ fun m hm => h m (List.mem_cons_of_mem _ hm)

/-- Where all references that may be followed lead to related results, and what follows is related, expansions
are. -/
theorem expand_stepwise {I : Expansion → Prop} (hmembers : ∀ e, I e → I e.inMembers)
    (hlook : ∀ e reference r, I e → e.follows? reference = some r →
      R (d.lookupSchema r) (d'.lookupSchema r))
    (hagain : ∀ e chain s, I e → R (again e chain s) (again' e chain s)) {e : Expansion} (he : I e)
    (chain : List String) (s : Schema) :
    R (d.expand again e chain s) (d'.expand again' e chain s) := by
  induction s using Schema.induction generalizing e chain with
  | step s ih =>
    have heach (chain : List String) (target : Schema) :
        R (d.expandMembers again e chain target (e.members s))
          (d'.expandMembers again' e chain target (e.members s)) :=
      expandMembers_stepwise hR target fun m hm =>
        ih m (Expansion.member_mem_children hm) (hmembers e he) _
    rw [expand_eq, expand_eq]
    cases hf : e.follows? s.reference with
    | some r =>
      by_cases hr : r ∈ chain
      · simp only [hr, if_true]
        exact hR.refl _
      · simp only [hr, if_false]
        exact hR.bind (hlook e _ r he hf) fun target =>
          hR.bind (heach _ target) fun merged => hagain _ _ _ he
    | none =>
      cases e.replaces s with
      | false => exact hR.refl _
      | true => exact hR.bind (heach chain {}) fun merged => hR.refl _

end Stepwise

theorem expand_atMost {again' : Continuation}
    (hagain : ∀ e chain s, AtMost (again e chain s) (again' e chain s)) (e : Expansion)
    (chain : List String) (s : Schema) :
    AtMost (d.expand again e chain s) (d.expand again' e chain s) :=
  expand_stepwise AtMost.stepwise (I := fun _ => True) (fun _ _ => trivial) (fun _ _ _ _ _ => .refl _)
    (fun e chain s _ => hagain e chain s) trivial chain s

theorem resolveWithin_atMost_succ (d : Document) (room : Nat) (e : Expansion) (chain : List String)
    (s : Schema) : AtMost (d.resolveWithin room e chain s) (d.resolveWithin (room + 1) e chain s) := by
  induction room generalizing e chain s with
  | zero => exact expand_atMost (fun _ _ _ => .inl rfl) e chain s
  | succ room ih => exact expand_atMost ih e chain s

theorem resolveWithin_atMost (d : Document) {room more : Nat} (h : room ≤ more) (e : Expansion)
    (chain : List String) (s : Schema) :
    AtMost (d.resolveWithin room e chain s) (d.resolveWithin more e chain s) := by
  induction h with
  | refl => exact .refl _
  | step _ ih => exact ih.trans (resolveWithin_atMost_succ d _ e chain s)

theorem expandMembers_atMost_ok {e : Expansion} {chain : List String} {f : Schema → Schema}
    (target : Schema) {members : List Schema}
    (h : ∀ m ∈ members, AtMost (d.expand again e.inMembers chain m) (.ok (f m))) :
    AtMost (d.expandMembers again e chain target members)
      (.ok ((members.map f).foldl Schema.merge target)) := by
  induction members generalizing target with
  | nil => exact .refl _
  | cons member rest ih =>
    rw [expandMembers_cons]
    exact (h member (by simp)).bind_ok <| ih _ fun m hm => h m (List.mem_cons_of_mem _ hm)

theorem Expands.atMost {e : Expansion} {chain : List String} {s t : Schema}
    (h : d.Expands e chain s t) (room : Nat) : AtMost (d.resolveWithin room e chain s) (.ok t) := by
  rw [resolveWithin_eq]
  induction h generalizing room with
  | unchanged hf hrep =>
    rw [expand_eq, hf, hrep]
    exact .refl _
  | members f hf hrep _ ih =>
    rw [expand_eq, hf, hrep]
    exact (expandMembers_atMost_ok {} fun m hm => ih m hm room).bind_ok (.refl _)
  | @follow e chain s target t r f hf hfresh hleads _ _ ihm ihr =>
    have hmembers := expandMembers_atMost_ok target fun m hm => ihm m hm room
    rw [expand_eq, hf]
    simp only [hfresh, if_false, hleads, ok_bind]
    refine hmembers.bind_ok ?_
    cases room with
    | zero => exact .inl rfl
    | succ room =>
      rw [beyond, resolveWithin_eq]
      exact ihr room

theorem lookupSchema_ends (d : Document) (r : String) :
    Ends (fun _ => True) (d.lookupSchema r) := by
  have hpointer : Ends (fun _ => True) (pointerOf r) := by
    unfold pointerOf
    split <;> simp [Ends]
  refine hpointer.bind fun pointer _ _ => ?_
  split
  · trivial
  · refine hpointer.bind fun pointer _ _ => ?_
    split
    · simp [Ends, throw_eq_error]
    · split <;> simp [Ends, throw_eq_error, pure, Except.pure]

/-- How many of the references in `U` are not on the way. -/
def fresh (U : Finset String) (chain : List String) : Nat :=
  (U \ chain.toFinset).card

theorem fresh_append {U : Finset String} {chain : List String} {r : String} (hU : r ∈ U)
    (hr : r ∉ chain) : fresh U (chain ++ [r]) < fresh U chain := by
  apply Finset.card_lt_card
  rw [Finset.ssubset_iff_of_subset (Finset.sdiff_subset_sdiff subset_rfl (by simp))]
  exact ⟨r, by simp [hU, hr], by simp⟩

theorem expandMembers_ends {P : Schema → Prop} (hP : ∀ a b, P a → P b → P (a.merge b))
    {e : Expansion} {chain : List String} {target : Schema} (ht : P target) {members : List Schema}
    (h : ∀ m ∈ members, Ends P (d.expand again e.inMembers chain m)) :
    Ends P (d.expandMembers again e chain target members) := by
  induction members generalizing target with
  | nil => exact ht
  | cons member rest ih =>
    rw [expandMembers_cons]
    refine (h member (by simp)).bind fun expanded _ hexpanded => ?_
    exact ih (hP _ _ ht hexpanded) fun m hm => h m (List.mem_cons_of_mem _ hm)

section Room

variable {U : Finset String} (hlook : ∀ r t, d.lookupSchema r = .ok t → t.ReferencesIn U)

include hlook

theorem expand_ends {e : Expansion} {chain : List String} {s : Schema} (hs : s.ReferencesIn U)
    (hagain : ∀ e chain' s, fresh U chain' < fresh U chain → s.ReferencesIn U →
      Ends (Schema.ReferencesIn U) (again e chain' s)) :
    Ends (Schema.ReferencesIn U) (d.expand again e chain s) := by
  have hP := mergeable_referenceIn U
  have hmerge : ∀ a b : Schema, a.ReferencesIn U → b.ReferencesIn U → (a.merge b).ReferencesIn U :=
    fun _ _ => Schema.everywhere_merge hP.merge
  induction s using Schema.induction generalizing e chain with
  | step s ih =>
    have hown : (e.ownParts s).ReferencesIn U := hP.everywhere_ownParts e hs
    have hmembers {chain' : List String} (hle : fresh U chain' ≤ fresh U chain) {target : Schema}
        (ht : target.ReferencesIn U) :
        Ends (Schema.ReferencesIn U) (d.expandMembers again e chain' target (e.members s)) := by
      refine expandMembers_ends hmerge ht fun m hm => ?_
      have hm' := Expansion.member_mem_children hm
      exact ih m hm' (hs.child hm') fun e chain'' s hlt => hagain e chain'' s (by omega)
    rw [expand_eq]
    cases hf : e.follows? s.reference with
    | some r =>
      by_cases hr : r ∈ chain
      · simp [hr, Ends, cycleError]
      · have hU : r ∈ U := hs.here r (reference_of_follows hf)
        have hlt := fresh_append hU hr
        simp only [hr, if_false]
        refine (lookupSchema_ends d r).bind fun target htarget _ => ?_
        refine (hmembers (by omega) (hlook r target htarget)).bind fun merged _ hmerged => ?_
        exact hagain e (chain ++ [r]) _ hlt (hmerge _ _ hmerged hown)
    | none =>
      cases e.replaces s with
      | false => exact hs
      | true =>
        refine (hmembers le_rfl hP.everywhere_empty).bind fun merged _ hmerged => ?_
        exact hmerge _ _ hmerged hown

/-- With room for every reference that may still come, expansion ends. -/
theorem resolveWithin_ends {room : Nat} {e : Expansion} {chain : List String} {s : Schema}
    (hs : s.ReferencesIn U) (hroom : fresh U chain ≤ room) :
    Ends (Schema.ReferencesIn U) (d.resolveWithin room e chain s) := by
  induction room generalizing e chain s with
  | zero =>
    rw [resolveWithin_eq]
    exact expand_ends hlook hs fun _ _ _ hlt => absurd hlt (by omega)
  | succ room ih =>
    rw [resolveWithin_eq]
    exact expand_ends hlook hs fun _ _ _ hlt hs => ih hs (by omega)

end Room

theorem resolveWithin_ne_endless (d : Document) (e : Expansion) (s : Schema) {room : Nat}
    (h : d.referenceBound + s.size ≤ room) : d.resolveWithin room e [] s ≠ .error .endless := by
  obtain ⟨U, hcard, hs, hlook⟩ := exists_references d s
  have hroom : fresh U [] ≤ room := by
    have hfresh : fresh U [] = U.card := by simp [fresh]
    omega
  exact (resolveWithin_ends hlook hs hroom).ne_endless

theorem resolveWithin_eq_resolve (d : Document) (e : Expansion) (s : Schema) {room : Nat}
    (h : d.referenceBound + s.size ≤ room) : d.resolveWithin room e [] s = d.resolve e s :=
  ((resolveWithin_atMost d h e [] s).eq (resolveWithin_ne_endless d e s le_rfl)).symm

/-- Expansions that agree whatever the room find the same. -/
theorem resolve_congr {d d' : Document} {e e' : Expansion} {s s' : Schema}
    (h : ∀ room, d.resolveWithin room e [] s = d'.resolveWithin room e' [] s') :
    d.resolve e s = d'.resolve e' s' := by
  have hroom := Nat.le_max_left (d.referenceBound + s.size) (d'.referenceBound + s'.size)
  have hroom' := Nat.le_max_right (d.referenceBound + s.size) (d'.referenceBound + s'.size)
  rw [← resolveWithin_eq_resolve d e s hroom, h, resolveWithin_eq_resolve d' e' s' hroom']

/-- Expansion finds what a schema expands to, and nothing else. -/
theorem resolve_eq_ok_iff {e : Expansion} {s t : Schema} :
    d.resolve e s = .ok t ↔ d.Expands e [] s t := by
  constructor
  · exact expands_of_resolve
  · exact fun h => (h.atMost _).eq (resolveWithin_ne_endless d e s le_rfl)

theorem Expands.fixed {e : Expansion} {chain : List String} {s t : Schema}
    (h : d.Expands e chain s t) (chain' : List String) : d.Expands e chain' t t := by
  obtain ⟨hr, ha⟩ := h.normal
  refine .unchanged ?_ ?_
  · cases he : e.references with
    | false => simp [Expansion.follows?, he]
    | true => simp [Expansion.follows?, hr he]
  · cases he : e.references <;> cases hf : e.allOf <;>
      simp_all [Expansion.replaces]

/-- Expansion ends on every document, with no more room than `resolve` leaves. What it gives is free of
what was to be replaced and expands to itself. Where a way comes back to a reference that was followed
on it, it gives an error. -/
theorem resolve_settles (d : Document) (e : Expansion) (s : Schema) :
    (∀ room, d.referenceBound + s.size ≤ room → d.resolveWithin room e [] s = d.resolve e s) ∧
    d.resolve e s ≠ .error .endless ∧
    (∀ t, d.resolve e s = .ok t →
      (e.references = true → t.reference = none) ∧ (e.allOf = true → t.allOf = none) ∧
        d.resolve e t = .ok t) ∧
    (∀ refs t, d.Follows e s refs t → ¬refs.Nodup → ∃ error, d.resolve e s = .error error) := by
  refine ⟨fun room => resolveWithin_eq_resolve d e s, resolveWithin_ne_endless d e s le_rfl, ?_, ?_⟩
  · intro t ht
    have hexpands := resolve_eq_ok_iff.mp ht
    obtain ⟨hreference, hallOf⟩ := hexpands.normal
    exact ⟨hreference, hallOf, resolve_eq_ok_iff.mpr (hexpands.fixed [])⟩
  · intro refs t hway hrepeats
    cases hresult : d.resolve e s with
    | error error => exact ⟨error, rfl⟩
    | ok t =>
      have hnodup := (hway.nodup (fun _ => rfl) rfl (resolve_eq_ok_iff.mp hresult)).1
      exact absurd hnodup hrepeats

def ropesJson : Json :=
  .object [
    ("paths", .object []),
    ("definitions", .object [
      ("Hemp", .object [("properties", .object [("length", .object [("type", .string "integer")])])]),
      ("Rope", .object [("allOf", .array [.object [("$ref", .string "#/definitions/Hemp")]])]),
      ("Knot", .object [("allOf", .array [.object [("$ref", .string "#/definitions/Bow")]])]),
      ("Bow", .object [("$ref", .string "#/definitions/Knot")])])]

/-- A document in which ropes are hemp, and knots are bows, which are knots. -/
def ropes : Document where
  raw := ropesJson.settle
  contents := {
    definitions := [
      ("Hemp", { properties := some [("length", { type := some "integer" })] }),
      ("Rope", { allOf := some [{ reference := some "#/definitions/Hemp" }] }),
      ("Knot", { allOf := some [{ reference := some "#/definitions/Bow" }] }),
      ("Bow", { reference := some "#/definitions/Knot" })] }
  reads := rfl
  distinct := ropesJson.settle_distinct

def rope : Schema := { reference := some "#/definitions/Rope" }

def knot : Schema := { reference := some "#/definitions/Knot" }

theorem resolve_settles_ropes :
    (∃ t, ropes.resolve (.full none) rope = .ok t ∧ t.reference = none ∧ t.allOf = none ∧
      t.properties = some [("length", { type := some "integer" })] ∧
        ropes.resolve (.full none) t = .ok t) ∧
    ropes.Follows (.full none) knot
        ["#/definitions/Knot", "#/definitions/Bow", "#/definitions/Knot"]
        { allOf := some [{ reference := some "#/definitions/Bow" }] } ∧
      ∃ error, ropes.resolve (.full none) knot = .error error := by
  constructor
  · obtain ⟨t, ht, hproperties⟩ : ∃ t, ropes.resolve (.full none) rope = .ok t ∧
        t.properties = some [("length", { type := some "integer" })] := ⟨_, rfl, rfl⟩
    obtain ⟨_, _, hsettled, _⟩ := resolve_settles ropes (.full none) rope
    obtain ⟨hreference, hallOf, hagain⟩ := hsettled t ht
    exact ⟨t, ht, hreference rfl, hallOf rfl, hproperties, hagain⟩
  · have hback : ropes.Follows (.full none) { reference := some "#/definitions/Bow" }
        ["#/definitions/Bow", "#/definitions/Knot"]
        { allOf := some [{ reference := some "#/definitions/Bow" }] } :=
      .reference rfl rfl (.reference rfl rfl .here)
    have hway : ropes.Follows (.full none) knot
        ["#/definitions/Knot", "#/definitions/Bow", "#/definitions/Knot"]
        { allOf := some [{ reference := some "#/definitions/Bow" }] } :=
      .reference rfl rfl (.member List.mem_cons_self hback)
    obtain ⟨_, _, _, hrepeats⟩ := resolve_settles ropes (.full none) knot
    exact ⟨hway, hrepeats _ _ hway (by decide)⟩

end Document

end SwaggerClient
