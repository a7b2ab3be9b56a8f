import SwaggerClient.Json.Settled
import SwaggerClient.Proofs.Outcome
import SwaggerClient.Proofs.Schema.Depth
import SwaggerClient.Schema.Read

namespace SwaggerClient.Reader

theorem optional_eq_some {α : Type} {read : Reader α} {j : Json} {a : α}
    (h : optional read j = .ok (some a)) : read j = .ok a := by
  cases j <;> simp_all [optional, map_eq_ok]

theorem string_eq_ok {j : Json} {s : String} (h : string j = .ok s) : j = .string s := by
  cases j with
  | string text => exact congrArg Json.string (Except.ok.inj h)
  | _ => cases h

end SwaggerClient.Reader

namespace SwaggerClient.Schema

variable {P : Json → Prop} {Q : Schema → Prop} {beside : Bool}

def forms (beside : Bool) (value : Json) : Forms :=
  ⟨fun _ => readOptional beside value, fun _ => readProperties beside value,
    fun _ => readAdditional beside value, fun _ => readMembers beside value⟩

theorem readMap_eq_ok {entries : List (String × Json)} {properties : List (String × Schema)}
    (h : readMap beside entries = .ok properties) :
    Entries.keys properties = Entries.keys entries ∧
      ∀ p ∈ properties, ∃ e ∈ entries, readIn beside e.2 = .ok p.2 := by
  induction entries generalizing properties with
  | nil =>
    obtain rfl := Except.ok.inj h
    simp [Entries.keys]
  | cons e rest ih =>
    obtain ⟨first, hfirst, h⟩ := bind_eq_ok.mp h
    obtain ⟨more, hmore, h⟩ := bind_eq_ok.mp h
    obtain rfl := Except.ok.inj h
    obtain ⟨hkeys, hvalues⟩ := ih hmore
    refine ⟨by simpa [Entries.keys] using hkeys, fun p hp => ?_⟩
    rcases List.mem_cons.mp hp with rfl | hp
    · exact ⟨e, by simp, hfirst⟩
    · obtain ⟨e', he', hread⟩ := hvalues p hp
      exact ⟨e', List.mem_cons_of_mem _ he', hread⟩

theorem readAll_eq_ok {items : List Json} {members : List Schema}
    (h : readAll beside items = .ok members) :
    ∀ m ∈ members, ∃ j ∈ items, readIn beside j = .ok m := by
  induction items generalizing members with
  | nil =>
    obtain rfl := Except.ok.inj h
    simp
  | cons j rest ih =>
    obtain ⟨first, hfirst, h⟩ := bind_eq_ok.mp h
    obtain ⟨more, hmore, h⟩ := bind_eq_ok.mp h
    obtain rfl := Except.ok.inj h
    intro m hm
    rcases List.mem_cons.mp hm with rfl | hm
    · exact ⟨j, by simp, hfirst⟩
    · obtain ⟨j', hj', hread⟩ := ih hmore m hm
      exact ⟨j', List.mem_cons_of_mem _ hj', hread⟩

theorem readOptional_eq_some {value : Json} {s : Schema}
    (h : readOptional beside value = .ok (some s)) : readIn beside value = .ok s := by
  cases value with
  | object entries => simpa [readOptional, readIn, map_eq_ok] using h
  | array items => simpa [readOptional, readIn, map_eq_ok] using h
  | null | bool | number | string => simp [readOptional] at h

theorem readProperties_eq_some {value : Json} {properties : List (String × Schema)}
    (h : readProperties beside value = .ok (some properties)) :
    ∃ entries, value = .object entries ∧ readMap beside entries = .ok properties := by
  cases value with
  | object entries => exact ⟨entries, rfl, by simpa [readProperties, map_eq_ok] using h⟩
  | null | bool | number | string | array => simp [readProperties] at h

theorem readMembers_eq_some {value : Json} {members : List Schema}
    (h : readMembers beside value = .ok (some members)) :
    ∃ items, value = .array items ∧ readAll beside items = .ok members := by
  cases value with
  | array items => exact ⟨items, rfl, by simpa [readMembers, map_eq_ok] using h⟩
  | null | bool | number | string | object => simp [readMembers] at h

theorem readAdditional_eq_some {value : Json} {additional : Additional Schema}
    (h : readAdditional beside value = .ok (some additional)) :
    (∃ any, value = .bool any ∧ additional = .allowed any) ∨
      ∃ s, readIn beside value = .ok s ∧ additional = .schema s := by
  cases value with
  | bool any =>
    obtain rfl := Option.some.inj (Except.ok.inj h)
    exact .inl ⟨any, rfl, rfl⟩
  | object entries =>
    simp only [readAdditional] at h
    split at h
    · next s hs =>
      obtain rfl := Option.some.inj (Except.ok.inj h)
      exact .inr ⟨s, hs, rfl⟩
    · cases h
  | array items =>
    simp only [readAdditional] at h
    split at h
    · next s hs =>
      obtain rfl := Option.some.inj (Except.ok.inj h)
      exact .inr ⟨s, hs, rfl⟩
    · cases h
  | null | number | string => simp [readAdditional] at h

/-- The schema is read from the value, or from one that the value holds directly. -/
def ReadFrom (beside : Bool) (value : Json) (s : Schema) : Prop :=
  ∃ j, (j = value ∨ j ∈ value.children) ∧ readIn beside j = .ok s

/-- A value brings no schemas into the one whose part it becomes but those that are read from it. -/
theorem mem_children_of_setPart {key : String} {value : Json} {s t c : Schema}
    (h : setPart key value (forms beside value) s = .ok t) (hc : c ∈ t.children) :
    c ∈ s.children ∨ ReadFrom beside value c := by
  unfold setPart at h
  rw [mem_children] at hc ⊢
  split at h
  case h_5 =>
    obtain ⟨part, hpart, h⟩ := bind_eq_ok.mp h
    obtain rfl := Except.ok.inj h
    rcases hc with ⟨p, hp, rfl⟩ | hc
    · cases part with
      | none => simp at hp
      | some properties =>
        obtain ⟨entries, rfl, hmap⟩ := readProperties_eq_some hpart
        obtain ⟨e, he, hread⟩ := (readMap_eq_ok hmap).2 p hp
        exact .inr ⟨e.2, .inr (List.mem_map_of_mem he), hread⟩
    · exact .inl (.inr hc)
  case h_7 =>
    obtain ⟨part, hpart, h⟩ := bind_eq_ok.mp h
    obtain rfl := Except.ok.inj h
    rcases hc with hp | hi | hc
    · exact .inl (.inl hp)
    · obtain rfl : part = some c := hi
      exact .inr ⟨value, .inl rfl, readOptional_eq_some hpart⟩
    · exact .inl (.inr (.inr hc))
  case h_8 =>
    obtain ⟨part, hpart, h⟩ := bind_eq_ok.mp h
    obtain rfl := Except.ok.inj h
    rcases hc with hp | hi | ha | hm
    · exact .inl (.inl hp)
    · exact .inl (.inr (.inl hi))
    · obtain rfl : part = some (.schema c) := ha
      rcases readAdditional_eq_some hpart with ⟨_, _, hadd⟩ | ⟨s', hread, hadd⟩
      · cases hadd
      · obtain rfl := Additional.schema.inj hadd
        exact .inr ⟨value, .inl rfl, hread⟩
    · exact .inl (.inr (.inr (.inr hm)))
  case h_10 =>
    obtain ⟨part, hpart, h⟩ := bind_eq_ok.mp h
    obtain rfl := Except.ok.inj h
    rcases hc with hp | hi | ha | hm
    · exact .inl (.inl hp)
    · exact .inl (.inr (.inl hi))
    · exact .inl (.inr (.inr (.inl ha)))
    · cases part with
      | none => simp at hm
      | some members =>
        obtain ⟨items, rfl, hall⟩ := readMembers_eq_some hpart
        obtain ⟨j, hj, hread⟩ := readAll_eq_ok hall c hm
        exact .inr ⟨j, .inr hj, hread⟩
  case h_12 =>
    obtain rfl := Except.ok.inj h
    exact .inl hc
  all_goals
    obtain ⟨part, _, h⟩ := bind_eq_ok.mp h
    obtain rfl := Except.ok.inj h
    exact .inl hc

section Invariant

variable {I : Schema → Prop}

theorem readEntries_invariant {entries : List (String × Json)} {s t : Schema}
    (hset : ∀ e ∈ entries, ∀ s t, I s → setPart e.1 e.2 (forms beside e.2) s = .ok t → I t)
    (hs : I s) (h : readEntries beside s entries = .ok t) : I t := by
  induction entries generalizing s with
  | nil => exact Except.ok.inj h ▸ hs
  | cons e rest ih =>
    obtain ⟨next, hnext, h⟩ := bind_eq_ok.mp h
    exact ih (fun e he => hset e (List.mem_cons_of_mem _ he)) (hset e (by simp) s next hs hnext) h

theorem readList_invariant {items : List Json} {count : Nat} {names : List String} {s t : Schema}
    (hset : ∀ j ∈ items, ∀ key s t, I s → setPart key j (forms beside j) s = .ok t → I t)
    (hs : I s) (h : readList beside count s names items = .ok t) : I t := by
  induction items generalizing s names with
  | nil =>
    simp only [readList] at h
    split at h
    · exact Except.ok.inj h ▸ hs
    · cases h
  | cons j rest ih =>
    cases names with
    | nil => cases h
    | cons key names =>
      obtain ⟨next, hnext, h⟩ := bind_eq_ok.mp h
      exact ih (fun j hj => hset j (List.mem_cons_of_mem _ hj))
        (hset j (by simp) key s next hs hnext) h

/-- What holds of the empty schema, and is kept by each value that becomes a part, holds of the schema
that is read. -/
theorem readIn_invariant {j : Json} {s : Schema} (hempty : I {})
    (hset : ∀ v ∈ j.children, ∀ key s t, I s → setPart key v (forms beside v) s = .ok t → I t)
    (h : readIn beside j = .ok s) : I s := by
  cases j with
  | object entries =>
    exact readEntries_invariant (fun e he => hset e.2 (List.mem_map_of_mem he) e.1) hempty h
  | array items => exact readList_invariant hset hempty h
  | null | bool | number | string => cases h

end Invariant

/-- What the parts that are read from values with `P` keep holds of a schema at every depth, if `P` holds
of the value that it is read from at every depth. -/
theorem everywhere_of_read (hempty : Q {})
    (hset : ∀ {beside key value s t}, value.Everywhere P → Q s →
      setPart key value (forms beside value) s = .ok t → Q t)
    {j : Json} (hj : j.Everywhere P) {s : Schema} (h : readIn beside j = .ok s) :
    s.Everywhere Q := by
  let Reads (v : Json) : Prop :=
    v.Everywhere P → ∀ {beside s}, readIn beside v = .ok s → s.Everywhere Q
  suffices hreads : j.Everywhere Reads from hreads.here hj h
  clear hj h
  induction j using Json.induction with
  | step j ih =>
    refine .intro j (fun hj beside s h => ?_) ih
    have hboth : Q s ∧ ∀ c ∈ s.children, c.Everywhere Q := by
      refine readIn_invariant (I := fun s => Q s ∧ ∀ c ∈ s.children, c.Everywhere Q)
        ⟨hempty, by simp [children]⟩ ?_ h
      rintro v hv key s t ⟨hs, hbelow⟩ hset'
      refine ⟨hset (hj.child hv) hs hset', fun c hc => ?_⟩
      rcases mem_children_of_setPart hset' hc with hc | ⟨w, rfl | hw, hread⟩
      · exact hbelow c hc
      · exact (ih w hv).here (hj.child hv) hread
      · exact ((ih v hv).child hw).here ((hj.child hv).child hw) hread
    exact .intro s hboth.1 hboth.2

/-- The reference, the keys of the properties and the truth value of a schema stand in values with `P`. -/
structure DrawnFrom (P : Json → Prop) (s : Schema) : Prop where
  reference : ∀ r, s.reference = some r → P (.string r)
  keys : ∀ properties, s.properties = some properties →
    ∃ entries, P (.object entries) ∧ Entries.keys properties = Entries.keys entries
  truthValue : ∀ any, s.additional = some (.allowed any) → P (.bool any)

theorem setPart_drawn {key : String} {value : Json} {s t : Schema} (hv : value.Everywhere P)
    (hs : DrawnFrom P s) (h : setPart key value (forms beside value) s = .ok t) : DrawnFrom P t := by
  obtain ⟨hr, hk, ht⟩ := hs
  unfold setPart at h
  split at h
  case h_1 =>
    obtain ⟨part, hpart, h⟩ := bind_eq_ok.mp h
    obtain rfl := Except.ok.inj h
    refine ⟨fun r e => ?_, hk, ht⟩
    obtain rfl : part = some r := e
    exact Reader.string_eq_ok (Reader.optional_eq_some hpart) ▸ hv.here
  case h_5 =>
    obtain ⟨part, hpart, h⟩ := bind_eq_ok.mp h
    obtain rfl := Except.ok.inj h
    refine ⟨hr, fun properties e => ?_, ht⟩
    obtain rfl : part = some properties := e
    obtain ⟨entries, rfl, hmap⟩ := readProperties_eq_some hpart
    exact ⟨entries, hv.here, (readMap_eq_ok hmap).1⟩
  case h_8 =>
    obtain ⟨part, hpart, h⟩ := bind_eq_ok.mp h
    obtain rfl := Except.ok.inj h
    refine ⟨hr, hk, fun any e => ?_⟩
    obtain rfl : part = some (.allowed any) := e
    rcases readAdditional_eq_some hpart with ⟨_, rfl, hadd⟩ | ⟨_, _, hadd⟩
    · obtain rfl := Additional.allowed.inj hadd
      exact hv.here
    · cases hadd
  case h_12 =>
    obtain rfl := Except.ok.inj h
    exact ⟨hr, hk, ht⟩
  all_goals
    obtain ⟨part, _, h⟩ := bind_eq_ok.mp h
    obtain rfl := Except.ok.inj h
    exact ⟨hr, hk, ht⟩

theorem readIn_drawn (beside : Bool) (j : Json) (hj : j.Everywhere P) (s : Schema)
    (h : readIn beside j = .ok s) : s.Everywhere (DrawnFrom P) :=
  everywhere_of_read ⟨nofun, nofun, nofun⟩ setPart_drawn hj h

end SwaggerClient.Schema
