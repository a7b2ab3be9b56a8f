import SwaggerClient.Proofs.Reference.Bound
import SwaggerClient.Proofs.Reference.Pointer
import SwaggerClient.Reference.Follow

namespace SwaggerClient

theorem Parameter.reference_of_setField {key : String} {value : Json} {p q : Parameter} {r : String}
    (h : p.setField key value = .ok q) (hr : q.reference = some r) :
    p.reference = some r ∨ value = .string r := by
  unfold setField at h
  split at h
  case h_1 =>
    obtain ⟨field, hfield, h⟩ := bind_eq_ok.mp h
    obtain rfl := Except.ok.inj h
    obtain rfl : field = some r := hr
    exact .inr (Reader.string_eq_ok (Reader.optional_eq_some hfield))
  case h_7 => exact .inl (Except.ok.inj h ▸ hr)
  all_goals
    obtain ⟨_, _, h⟩ := bind_eq_ok.mp h
    obtain rfl := Except.ok.inj h
    exact .inl hr

theorem Parameter.reference_of_readFields {entries : List (String × Json)} {p q : Parameter} {r : String}
    (h : p.readFields entries = .ok q) (hr : q.reference = some r) :
    p.reference = some r ∨ .string r ∈ entries.map (·.2) := by
  induction entries generalizing p with
  | nil => exact .inl (Except.ok.inj h ▸ hr)
  | cons e rest ih =>
    obtain ⟨next, hnext, h⟩ := bind_eq_ok.mp h
    rcases ih h with hp | hrest
    · rcases reference_of_setField hnext hp with hp | hvalue
      · exact .inl hp
      · exact .inr (by simp [hvalue])
    · exact .inr (List.mem_cons_of_mem _ hrest)

theorem Response.reference_of_set {key : String} {value : Json} {a b : Response} {r : String}
    (h : record.set key value a = .ok b) (hr : b.reference = some r) :
    a.reference = some r ∨ value = .string r := by
  simp only [record] at h
  split at h
  case h_1 =>
    obtain ⟨field, hfield, h⟩ := bind_eq_ok.mp h
    obtain rfl := Except.ok.inj h
    obtain rfl : field = some r := hr
    exact .inr (Reader.string_eq_ok (Reader.optional_eq_some hfield))
  case h_4 => exact .inl (Except.ok.inj h ▸ hr)
  all_goals
    obtain ⟨_, _, h⟩ := bind_eq_ok.mp h
    obtain rfl := Except.ok.inj h
    exact .inl hr

namespace Referable

variable {α : Type}

/-- The reference of an object is a text among the values it is read from. -/
def Drawn (target : Referable α) : Prop :=
  ∀ j a r, target.read j = .ok a → target.reference? a = some r → .string r ∈ j.children

theorem drawn_parameter : parameter.Drawn := by
  intro j p r h hr
  cases j with
  | object entries =>
    obtain ⟨q, hq, h⟩ := bind_eq_ok.mp h
    obtain ⟨beside, _, h⟩ := bind_eq_ok.mp h
    obtain rfl := Except.ok.inj h
    exact (Parameter.reference_of_readFields hq hr).resolve_left nofun
  | null | bool | number | string | array => cases h

theorem drawn_response : response.Drawn := by
  intro j a r h hr
  let I : Response → Prop := fun b => ∀ r, b.reference = some r → .string r ∈ j.children
  have hset (key : String) (value : Json) (b b' : Response) (hvalue : value ∈ j.children) (hb : I b)
      (h : Response.record.set key value b = .ok b') : I b' := by
    intro r hr
    rcases Response.reference_of_set h hr with hr | rfl
    · exact hb r hr
    · exact hvalue
  have hempty : I Response.record.empty := fun r hr => by cases hr
  exact Record.read_invariant hset hempty (fun _ hc => hc) h r hr

end Referable

namespace Document

variable {α : Type} {d : Document} {target : Referable α} {chain refs more : List String} {u v w : α}
  {r : String}

/-- The references that lead from an object to another, one after the other. -/
inductive Trail (d : Document) (target : Referable α) : α → List String → α → Prop
  | here {v : α} : Trail d target v [] v
  | next {v w u : α} {r : String} {refs : List String} {j : Json} (reference : target.reference? v = some r)
      (stands : d.Stands r j) (reads : target.read j = .ok w) (rest : Trail d target w refs u) :
      Trail d target v (r :: refs) u

/-- The object leads to no other. -/
def Stuck (d : Document) (target : Referable α) (v : α) : Prop :=
  ∀ r, target.reference? v = some r → ∃ e, d.Broken target.kind target.read r e

theorem Stuck.of_none (h : target.reference? v = none) : d.Stuck target v := by
  intro r hr
  rw [h] at hr
  cases hr

theorem Stuck.of_broken {e : SynthesisError} (hr : target.reference? v = some r)
    (h : d.Broken target.kind target.read r e) : d.Stuck target v := by
  intro r' hr'
  obtain rfl := Option.some.inj (hr.symm.trans hr')
  exact ⟨e, h⟩

namespace Trail

theorem snoc {j : Json} (h : d.Trail target v refs u) (hr : target.reference? u = some r)
    (hj : d.Stands r j) (hw : target.read j = .ok w) : d.Trail target v (refs ++ [r]) w := by
  induction h with
  | here => exact .next hr hj hw .here
  | next hr' hj' hw' _ ih => exact .next hr' hj' hw' (ih hr)

theorem split (h : d.Trail target v (refs ++ more) w) :
    ∃ u, d.Trail target v refs u ∧ d.Trail target u more w := by
  induction refs generalizing v with
  | nil => exact ⟨v, .here, h⟩
  | cons r refs ih =>
    cases h with
    | next hr hj hw rest =>
      obtain ⟨u, hu, hmore⟩ := ih rest
      exact ⟨u, .next hr hj hw hu, hmore⟩

/-- An object has at most one reference, and that leads to at most one object: every trail is the beginning of
one that ends. -/
theorem exists_rest {refs' : List String} (h : d.Trail target v refs u)
    (h' : d.Trail target v refs' w) (hstuck : d.Stuck target w) :
    ∃ more, refs' = refs ++ more ∧ d.Trail target u more w := by
  induction h generalizing refs' with
  | here => exact ⟨refs', rfl, h'⟩
  | @next v x u r refs j hr hj hx _ ih =>
    cases h' with
    | here =>
      obtain ⟨e, hbroken⟩ := hstuck r hr
      exact absurd hx (hbroken.not_stands hj)
    | @next _ x' _ r' refs' j' hr' hj' hx' rest =>
      obtain rfl := Option.some.inj (hr.symm.trans hr')
      obtain rfl : x = x' := hj.unique hx hj' hx'
      obtain ⟨more, rfl, hmore⟩ := ih rest
      exact ⟨more, rfl, hmore⟩

theorem eq_of_stuck {refs' : List String} (h : d.Trail target v refs u) (h' : d.Trail target v refs' w)
    (hu : d.Stuck target u) (hw : d.Stuck target w) : refs = refs' := by
  obtain ⟨more, rfl, -⟩ := h.exists_rest h' hw
  obtain ⟨more', hrefs, -⟩ := h'.exists_rest h hu
  have hlength := congrArg List.length hrefs
  simp only [List.length_append] at hlength
  obtain rfl : more = [] := List.length_eq_zero_iff.mp (by omega)
  simp

/-- On a trail that ends no reference comes twice: both times it would lead to the same object, and the trail
from there to the end would have two lengths. -/
theorem nodup (h : d.Trail target v refs w) (hstuck : d.Stuck target w) : refs.Nodup := by
  induction h with
  | here => exact List.nodup_nil
  | @next v x w r refs j hr hj hx rest ih =>
    refine List.nodup_cons.mpr ⟨fun hmem => ?_, ih hstuck⟩
    obtain ⟨before, after, rfl⟩ := List.append_of_mem hmem
    obtain ⟨y, -, hy⟩ := rest.split
    cases hy with
    | @next _ x' _ _ _ j' _ hj' hx' hafter =>
      obtain rfl : x = x' := hj.unique hx hj' hx'
      have hlength := congrArg List.length (rest.eq_of_stuck hafter hstuck hstuck)
      simp only [List.length_append, List.length_cons] at hlength
      omega

/-- Every reference that was followed leads to something. -/
theorem stands (h : d.Trail target v refs u) (hr : r ∈ refs) :
    ∃ j w, d.Stands r j ∧ target.read j = .ok w := by
  obtain ⟨before, after, rfl⟩ := List.append_of_mem hr
  obtain ⟨x, -, hx⟩ := h.split
  cases hx with
  | next _ hj hw _ => exact ⟨_, _, hj, hw⟩

/-- But for the first, the references of a trail are texts of the document. -/
theorem length_le (hdrawn : target.Drawn) (h : d.Trail target v refs u) (hnodup : refs.Nodup) :
    refs.length ≤ d.referenceBound + 1 := by
  obtain ⟨U, hcard, hU⟩ := d.raw.exists_textsIn
  have hread {j : Json} {w : α} {r r' : String} (hj : d.Stands r j) (hw : target.read j = .ok w)
      (hr' : target.reference? w = some r') : r' ∈ U := by
    obtain ⟨rest, -, hpointer⟩ := hj
    have htexts : j.TextsIn U := Json.everywhere_of_pointer? hU hpointer
    exact (htexts.child (hdrawn j w r' hw hr')).here r' rfl
  have hall {refs : List String} {u v : α} (h : d.Trail target v refs u)
      (hv : ∀ r, target.reference? v = some r → r ∈ U) : ∀ r ∈ refs, r ∈ U := by
    induction h with
    | here => simp
    | next hr hj hw _ ih => exact List.forall_mem_cons.mpr ⟨hv _ hr, ih fun _ => hread hj hw⟩
  cases h with
  | here => simp
  | @next _ _ _ r refs _ _ hj hw rest =>
    have hsubset : refs.toFinset ⊆ U := fun r hr =>
      hall rest (fun _ => hread hj hw) r (List.mem_toFinset.mp hr)
    have hle := Finset.card_le_card hsubset
    rw [List.toFinset_card_of_nodup (List.nodup_cons.mp hnodup).2] at hle
    simp only [List.length_cons, referenceBound]
    omega

end Trail

/-- What comes of following the references of an object, when those of the list were followed on the way to it. -/
inductive Arrives (d : Document) (target : Referable α) (chain : List String) (v : α) :
    Except SynthesisError α → Prop
  | value {refs : List String} {w : α} (trail : d.Trail target v refs w) (fresh : (chain ++ refs).Nodup)
      (last : target.reference? w = none) : Arrives d target chain v (.ok w)
  | broken {refs : List String} {w : α} {r : String} {e : SynthesisError}
      (trail : d.Trail target v refs w) (fresh : (chain ++ refs).Nodup)
      (reference : target.reference? w = some r) (new : r ∉ chain ++ refs)
      (broken : d.Broken target.kind target.read r e) :
      Arrives d target chain v (.error e)
  | cycle {refs : List String} {w : α} {r : String} (trail : d.Trail target v refs w)
      (fresh : (chain ++ refs).Nodup) (reference : target.reference? w = some r) (again : r ∈ chain ++ refs) :
      Arrives d target chain v (.error (cycleError (chain ++ refs) r))

theorem followWithin_succ (room : Nat) (hr : target.reference? v = some r) (hfresh : r ∉ chain) :
    d.followWithin target chain (room + 1) v =
      d.lookup target.kind target.read r >>= d.followWithin target (chain ++ [r]) room := by
  simp only [followWithin, hr, hfresh, if_false]

/-- As many steps as a trail has references lead along it. -/
theorem Trail.followWithin_eq (h : d.Trail target v refs u) (hfresh : (chain ++ refs).Nodup)
    (room : Nat) :
    d.followWithin target chain (refs.length + room) v =
      d.followWithin target (chain ++ refs) room u := by
  induction h generalizing chain with
  | here => simp
  | @next v w u r refs j hr hj hw _ ih =>
    have hnew : r ∉ chain := fun hmem =>
      List.disjoint_of_nodup_append hfresh hmem List.mem_cons_self
    have happend : chain ++ r :: refs = (chain ++ [r]) ++ refs := by simp
    rw [List.length_cons, Nat.add_right_comm, followWithin_succ _ hr hnew, hj.lookup_eq_ok hw, ok_bind,
      ih (happend ▸ hfresh), happend]

/-- With room for one reference more than are followed, following arrives. -/
theorem Arrives.exists_room {x : Except SynthesisError α} (h : d.Arrives target chain v x) :
    ∃ enough, ∀ room, d.followWithin target chain (enough + room) v = x := by
  cases h with
  | @value refs w trail fresh last =>
    refine ⟨refs.length, fun room => ?_⟩
    rw [trail.followWithin_eq fresh]
    cases room <;> simp only [followWithin, last]
  | @broken refs w r e trail fresh hr hnew hbroken =>
    refine ⟨refs.length + 1, fun room => ?_⟩
    rw [Nat.add_assoc, trail.followWithin_eq fresh, Nat.add_comm 1 room, followWithin_succ room hr hnew,
      hbroken.lookup_eq]
    rfl
  | @cycle refs w r trail fresh hr hagain =>
    refine ⟨refs.length + 1, fun room => ?_⟩
    rw [Nat.add_assoc, trail.followWithin_eq fresh, Nat.add_comm 1 room]
    simp only [followWithin, hr, hagain, if_true]

theorem Arrives.unique {x y : Except SynthesisError α} (hx : d.Arrives target chain v x)
    (hy : d.Arrives target chain v y) : x = y := by
  obtain ⟨n, hn⟩ := hx.exists_room
  obtain ⟨m, hm⟩ := hy.exists_room
  rw [← hn m, ← hm n, Nat.add_comm]

/-- One step more before following arrives. -/
theorem Arrives.next {x : Except SynthesisError α} {j : Json} (hr : target.reference? v = some r)
    (hj : d.Stands r j) (hw : target.read j = .ok w) (h : d.Arrives target (chain ++ [r]) w x) :
    d.Arrives target chain v x := by
  cases h with
  | value trail fresh last =>
    rw [List.append_assoc] at fresh
    exact .value (.next hr hj hw trail) fresh last
  | broken trail fresh hr' hnew hbroken =>
    rw [List.append_assoc] at fresh hnew
    exact .broken (.next hr hj hw trail) fresh hr' hnew hbroken
  | cycle trail fresh hr' hagain =>
    rw [List.append_assoc] at fresh hagain ⊢
    exact .cycle (.next hr hj hw trail) fresh hr' hagain

/-- Following arrives, or the room is used up by references that are all different. -/
theorem arrives_or_goes_on (hchain : chain.Nodup) (room : Nat) (v : α) :
    d.Arrives target chain v (d.followWithin target chain room v) ∨
      ∃ refs u, refs.length = room ∧ (chain ++ refs).Nodup ∧ d.Trail target v refs u := by
  induction room generalizing chain v with
  | zero => exact .inr ⟨[], v, rfl, by simpa using hchain, .here⟩
  | succ room ih =>
    cases hr : target.reference? v with
    | none =>
      simp only [followWithin, hr]
      exact .inl (.value .here (by simpa using hchain) hr)
    | some r =>
      by_cases hmem : r ∈ chain
      · simp only [followWithin, hr, hmem, if_true]
        have harrives : d.Arrives target chain v (.error (cycleError (chain ++ []) r)) :=
          .cycle .here (by simpa using hchain) hr (by simpa using hmem)
        rw [List.append_nil] at harrives
        exact .inl harrives
      · rw [followWithin_succ room hr hmem]
        obtain ⟨j, w, hj, hw⟩ | ⟨e, hbroken⟩ := stands_or_broken d target.kind target.read r
        · rw [hj.lookup_eq_ok hw, ok_bind]
          have hchain' : (chain ++ [r]).Nodup := by
            simpa [List.nodup_append] using ⟨hchain, fun a ha => by rintro rfl; exact hmem ha⟩
          rcases ih hchain' w with harrives | ⟨refs, u, hlength, hnodup, htrail⟩
          · exact .inl (harrives.next hr hj hw)
          · refine .inr ⟨r :: refs, u, by simp [hlength], by simpa using hnodup, ?_⟩
            exact .next hr hj hw htrail
        · rw [hbroken.lookup_eq]
          exact .inl (.broken .here (by simpa using hchain) hr (by simpa using hmem) hbroken)

/-- With room for one reference more than the document has, following arrives. -/
theorem arrives_followWithin (hdrawn : target.Drawn) (v : α) {room : Nat}
    (hroom : d.referenceBound + 2 ≤ room) : d.Arrives target [] v (d.followWithin target [] room v) := by
  rcases arrives_or_goes_on List.nodup_nil room v with harrives | ⟨refs, u, hlength, hnodup, htrail⟩
  · exact harrives
  · have hle := htrail.length_le hdrawn hnodup
    omega

theorem follow_eq_iff (hdrawn : target.Drawn) {x : Except SynthesisError α} :
    d.follow target v = x ↔ d.Arrives target [] v x := by
  have harrives : d.Arrives target [] v (d.follow target v) := arrives_followWithin hdrawn v le_rfl
  exact ⟨fun h => h ▸ harrives, fun h => harrives.unique h⟩

theorem Arrives.ne_endless {x : Except SynthesisError α} (h : d.Arrives target chain v x) :
    x ≠ .error .endless := by
  rintro rfl
  cases h with
  | broken _ _ _ _ hbroken => cases hbroken

/-- The part of a chain from the first occurrence of a reference on, closed. -/
theorem cycleError_append {lead middle : List String} (hlead : r ∉ lead) :
    cycleError (lead ++ r :: middle) r = .cycle (r :: middle ++ [r]) := by
  have hpos : ∀ a ∈ lead, (a != r) = true := fun a ha => bne_iff_ne.mpr fun h => hlead (h ▸ ha)
  simp [cycleError, List.dropWhile_append_of_pos hpos]

theorem Broken.not_mem_trail {e : SynthesisError} (h : d.Broken target.kind target.read r e)
    (trail : d.Trail target v refs u) : r ∉ refs := by
  intro hmem
  obtain ⟨j, w, hj, hw⟩ := trail.stands hmem
  exact h.not_stands hj hw

theorem follow_eq_ok_iff (hdrawn : target.Drawn) :
    d.follow target v = .ok w ↔ ∃ refs, d.Trail target v refs w ∧ target.reference? w = none := by
  rw [follow_eq_iff hdrawn]
  constructor
  · rintro ⟨trail, -, last⟩
    exact ⟨_, trail, last⟩
  · rintro ⟨refs, trail, last⟩
    exact .value trail (trail.nodup (.of_none last)) last

theorem follow_eq_error_iff (hdrawn : target.Drawn) {e : SynthesisError} :
    d.follow target v = .error e ↔
      (∃ refs u r, d.Trail target v refs u ∧ target.reference? u = some r ∧
        d.Broken target.kind target.read r e) ∨
      ∃ lead r middle u, d.Trail target v (lead ++ r :: middle) u ∧ target.reference? u = some r ∧
        (lead ++ r :: middle).Nodup ∧ e = .cycle (r :: middle ++ [r]) := by
  rw [follow_eq_iff hdrawn]
  constructor
  · intro h
    cases h with
    | broken trail _ hr _ hbroken => exact .inl ⟨_, _, _, trail, hr, hbroken⟩
    | @cycle refs u r trail fresh hr hagain =>
      obtain ⟨lead, middle, hrefs, hlead⟩ := List.eq_append_cons_of_mem hagain
      rw [List.nil_append] at hrefs fresh
      subst hrefs
      exact .inr ⟨lead, r, middle, u, trail, hr, fresh, cycleError_append hlead⟩
  · rintro (⟨refs, u, r, trail, hr, hbroken⟩ | ⟨lead, r, middle, u, trail, hr, hnodup, rfl⟩)
    · exact .broken trail (trail.nodup (.of_broken hr hbroken)) hr (hbroken.not_mem_trail trail) hbroken
    · have hlead : r ∉ lead := fun hmem =>
        List.disjoint_of_nodup_append hnodup hmem List.mem_cons_self
      have hagain : r ∈ [] ++ (lead ++ r :: middle) := by simp
      rw [← cycleError_append hlead]
      exact .cycle trail hnodup hr hagain

/-- A cycle is reported exactly when a reference comes twice. -/
theorem follow_eq_cycle_iff (hdrawn : target.Drawn) :
    (∃ names, d.follow target v = .error (.cycle names)) ↔
      ∃ refs u, d.Trail target v refs u ∧ ¬refs.Nodup := by
  constructor
  · rintro ⟨names, h⟩
    obtain ⟨_, _, _, _, _, hbroken⟩ | ⟨lead, r, middle, u, trail, hr, -⟩ := (follow_eq_error_iff hdrawn).mp h
    · cases hbroken
    · have hagain : r ∈ lead ++ r :: middle := by simp
      obtain ⟨j, w, hj, hw⟩ := trail.stands hagain
      refine ⟨_, w, trail.snoc hr hj hw, fun hnodup => ?_⟩
      exact List.disjoint_of_nodup_append hnodup hagain List.mem_cons_self
  · rintro ⟨refs, u, trail, hrepeats⟩
    have hends {refs' : List String} {w : α} (trail' : d.Trail target v refs' w)
        (hstuck : d.Stuck target w) : False := by
      obtain ⟨more, rfl, -⟩ := trail.exists_rest trail' hstuck
      exact hrepeats (trail'.nodup hstuck).of_append_left
    generalize hx : d.follow target v = x
    cases (follow_eq_iff hdrawn).mp hx with
    | value trail' _ last => exact (hends trail' (.of_none last)).elim
    | broken trail' _ hr _ hbroken => exact (hends trail' (.of_broken hr hbroken)).elim
    | cycle => exact ⟨_, rfl⟩

/-- Following the references of an object gives what is at the end of its trail, the error of the first reference
that is broken, or the cycle that the first reference which comes again closes. -/
structure FollowedExactly (d : Document) (target : Referable α) (v : α) : Prop where
  /-- More room than `follow` leaves makes no difference. -/
  ends : ∀ room, d.referenceBound + 2 ≤ room → d.followWithin target [] room v = d.follow target v
  ne_endless : d.follow target v ≠ .error .endless
  ok_iff : ∀ w, d.follow target v = .ok w ↔
    ∃ refs, d.Trail target v refs w ∧ target.reference? w = none
  error_iff : ∀ e, d.follow target v = .error e ↔
    (∃ refs u r, d.Trail target v refs u ∧ target.reference? u = some r ∧
      d.Broken target.kind target.read r e) ∨
    ∃ lead r middle u, d.Trail target v (lead ++ r :: middle) u ∧ target.reference? u = some r ∧
      (lead ++ r :: middle).Nodup ∧ e = .cycle (r :: middle ++ [r])
  cycle_iff : (∃ names, d.follow target v = .error (.cycle names)) ↔
    ∃ refs u, d.Trail target v refs u ∧ ¬refs.Nodup

theorem followedExactly (d : Document) (hdrawn : target.Drawn) (v : α) : d.FollowedExactly target v where
  ends _ hroom := ((follow_eq_iff hdrawn).mpr (arrives_followWithin hdrawn v hroom)).symm
  ne_endless := (arrives_followWithin hdrawn v le_rfl).ne_endless
  ok_iff _ := follow_eq_ok_iff hdrawn
  error_iff _ := follow_eq_error_iff hdrawn
  cycle_iff := follow_eq_cycle_iff hdrawn

/-- Following the references of parameters and responses is exact. -/
theorem follow_exact (d : Document) :
    (∀ p, d.FollowedExactly .parameter p) ∧ ∀ r, d.FollowedExactly .response r :=
  ⟨d.followedExactly Referable.drawn_parameter, d.followedExactly Referable.drawn_response⟩

def detourJson : Json :=
  .object [
    ("paths", .object []),
    ("parameters", .object [
      ("Page", .object [("$ref", .string "#/parameters/Offset")]),
      ("Offset", .object [("$ref", .string "#/parameters/Start")]),
      ("Start", .object [("$ref", .string "#/parameters/Offset")])])]

/-- A document in which the way to a cycle of parameters begins outside of it. -/
def detour : Document where
  raw := detourJson.settle
  contents := {}
  reads := rfl
  distinct := detourJson.settle_distinct

example :
    (detour.follow .parameter { reference := some "#/parameters/Page" }).mapError SynthesisError.message =
      .error ("Cyclic reference detected: " ++
        "#/parameters/Offset -> #/parameters/Start -> #/parameters/Offset") := by
  rfl

end Document

end SwaggerClient
