import SwaggerClient.Proofs.Entries
import SwaggerClient.Proofs.Schema.Read
import SwaggerClient.Reference.Lookup

namespace SwaggerClient

namespace Json

variable {P : Json → Prop}

theorem everywhere_of_step? {segment : String} {j c : Json} (hj : j.Everywhere P)
    (h : step? segment j = some c) : c.Everywhere P := by
  cases j with
  | object entries => exact hj.entry (Entries.mem_of_get? h)
  | array items =>
    obtain ⟨i, _, hi⟩ := Option.bind_eq_some_iff.mp h
    exact hj.item (List.mem_of_getElem? hi)
  | null | bool | number | string => simp [step?] at h

theorem everywhere_of_follow? {segments : List String} {j c : Json} (hj : j.Everywhere P)
    (h : follow? segments j = some c) : c.Everywhere P := by
  induction segments generalizing j with
  | nil => exact Option.some.inj h ▸ hj
  | cons segment rest ih =>
    obtain ⟨next, hnext, h⟩ := Option.bind_eq_some_iff.mp h
    exact ih (everywhere_of_step? hj hnext) h

theorem everywhere_of_pointer? {pointer : String} {j c : Json} (hj : j.Everywhere P)
    (h : j.pointer? pointer = some c) : c.Everywhere P := by
  unfold pointer? at h
  split at h
  · exact Option.some.inj h ▸ hj
  · split at h
    · exact everywhere_of_follow? hj h
    · cases h

end Json

namespace Record

variable {ρ : Type} {record : Record ρ} {P : Json → Prop} {I : ρ → Prop}

theorem readEntries_invariant
    (hset : ∀ key value r r', P value → I r → record.set key value r = .ok r' → I r')
    {entries : List (String × Json)} {done r : ρ} (he : ∀ e ∈ entries, P e.2) (hd : I done)
    (h : record.readEntries done entries = .ok r) : I r := by
  induction entries generalizing done with
  | nil => exact Except.ok.inj h ▸ hd
  | cons entry rest ih =>
    obtain ⟨next, hnext, h⟩ := bind_eq_ok.mp h
    have hn := hset _ _ _ _ (he entry (by simp)) hd hnext
    exact ih (fun e hm => he e (List.mem_cons_of_mem _ hm)) hn h

theorem readItems_invariant
    (hset : ∀ key value r r', P value → I r → record.set key value r = .ok r' → I r')
    {items : List Json} {fields : List Field} {count position : Nat} {done r : ρ}
    (hi : ∀ j ∈ items, P j) (hd : I done)
    (h : record.readItems count position done fields items = .ok r) : I r := by
  induction items generalizing fields position done with
  | nil =>
    cases fields with
    | nil => exact Except.ok.inj h ▸ hd
    | cons field fields =>
      simp only [readItems] at h
      split at h
      · exact Except.ok.inj h ▸ hd
      · cases h
  | cons value rest ih =>
    cases fields with
    | nil => cases h
    | cons field fields =>
      obtain ⟨next, hnext, h⟩ := bind_eq_ok.mp h
      have hn := hset _ _ _ _ (hi value (by simp)) hd hnext
      exact ih (fun j hm => hi j (List.mem_cons_of_mem _ hm)) hn h

/-- What holds of the empty record and is kept by every value that is read into it holds of what is
read from a JSON value. -/
theorem read_invariant
    (hset : ∀ key value r r', P value → I r → record.set key value r = .ok r' → I r')
    (hempty : I record.empty) {j : Json} {r : ρ} (hj : ∀ c ∈ j.children, P c)
    (h : record.read j = .ok r) : I r := by
  cases j with
  | object entries =>
    exact readEntries_invariant hset (fun e he => hj e.2 (List.mem_map_of_mem he)) hempty h
  | array items => exact readItems_invariant hset hj hempty h
  | null | bool | number | string => cases h

end Record

namespace Document

variable {P : Json → Prop}

theorem entries_drawn {entries : List (String × Json)} {schemas : List (String × Schema)}
    (hj : ∀ e ∈ entries, e.2.Everywhere P) (h : Reader.entries Schema.read entries = .ok schemas) :
    ∀ e ∈ schemas, e.2.Everywhere (Schema.DrawnFrom P) := by
  induction entries generalizing schemas with
  | nil =>
    obtain rfl := Except.ok.inj h
    simp
  | cons entry rest ih =>
    obtain ⟨first, hfirst, h⟩ := bind_eq_ok.mp h
    obtain ⟨more, hmore, h⟩ := bind_eq_ok.mp h
    obtain rfl := Except.ok.inj h
    intro e he
    rcases List.mem_cons.mp he with rfl | he
    · exact Schema.readIn_drawn false entry.2 (hj entry (by simp)) first hfirst
    · exact ih (fun e hm => hj e (List.mem_cons_of_mem _ hm)) hmore e he

theorem setDefinitions_drawn {key : String} {value : Json} {contents after : Contents}
    (hv : value.Everywhere P) (hc : ∀ e ∈ contents.definitions, e.2.Everywhere (Schema.DrawnFrom P))
    (h : Contents.record.set key value contents = .ok after) :
    ∀ e ∈ after.definitions, e.2.Everywhere (Schema.DrawnFrom P) := by
  simp only [Contents.record] at h
  split at h
  case h_2 =>
    obtain ⟨definitions, hd, h⟩ := bind_eq_ok.mp h
    obtain rfl := Except.ok.inj h
    cases value with
    | object entries => exact entries_drawn (fun e he => hv.entry he) hd
    | null | bool | number | string | array => cases hd
  case h_5 => exact Except.ok.inj h ▸ hc
  all_goals
    obtain ⟨_, _, h⟩ := bind_eq_ok.mp h
    obtain rfl := Except.ok.inj h
    exact hc

theorem definitions_drawn {d : Document} (hd : d.raw.Everywhere P) :
    ∀ e ∈ d.contents.definitions, e.2.Everywhere (Schema.DrawnFrom P) := by
  refine Record.read_invariant (P := Json.Everywhere P)
    (I := fun c => ∀ e ∈ c.definitions, e.2.Everywhere (Schema.DrawnFrom P)) ?_ ?_ ?_ d.reads
  · exact fun _ _ _ _ => setDefinitions_drawn
  · simp [Contents.record]
  · exact fun c hc => hd.child hc

/-- What holds of a document's value at every depth holds of the parts of the schemas that references
lead to. -/
theorem lookupSchema_drawn {d : Document} (hd : d.raw.Everywhere P) {r : String} {t : Schema}
    (h : d.lookupSchema r = .ok t) : t.Everywhere (Schema.DrawnFrom P) := by
  obtain ⟨pointer, _, h⟩ := bind_eq_ok.mp h
  split at h
  · next schema hs =>
    obtain rfl := Except.ok.inj h
    obtain ⟨name, _, hget⟩ := Option.bind_eq_some_iff.mp hs
    exact definitions_drawn hd _ (Entries.mem_of_get? hget)
  · obtain ⟨pointer, _, h⟩ := bind_eq_ok.mp h
    split at h
    · cases h
    · next j hj =>
      split at h
      · next target hread =>
        obtain rfl := Except.ok.inj h
        exact Schema.readIn_drawn false j (Json.everywhere_of_pointer? hd hj) _ hread
      · cases h

theorem lookupSchema_distinct {d : Document} {r : String} {t : Schema}
    (h : d.lookupSchema r = .ok t) : t.Distinct := by
  refine (lookupSchema_drawn d.distinct h).mono fun s hs properties hp => ?_
  obtain ⟨entries, he, hk⟩ := hs.keys properties hp
  unfold Entries.Distinct
  rw [hk]
  exact he entries rfl

end Document

end SwaggerClient
