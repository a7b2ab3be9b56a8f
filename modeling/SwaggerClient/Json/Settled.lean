import SwaggerClient.Json.Basic

namespace SwaggerClient

namespace Json

/-- The values that a value holds directly. -/
def children : Json → List Json
  | .array items => items
  | .object entries => entries.map (·.2)
  | _ => []

theorem sizeOf_lt_of_mem_children {j c : Json} (h : c ∈ j.children) : sizeOf c < sizeOf j := by
  cases j with
  | array items =>
    have hlt := List.sizeOf_lt_of_mem (show c ∈ items from h)
    simp only [array.sizeOf_spec]
    omega
  | object entries =>
    obtain ⟨e, he, rfl⟩ := List.mem_map.mp h
    have hlt := List.sizeOf_lt_of_mem he
    obtain ⟨key, value⟩ := e
    simp only [object.sizeOf_spec, Prod.mk.sizeOf_spec] at hlt ⊢
    omega
  | null | bool | number | string => simp [children] at h

/-- What passes from the values in a value to the value holds of every value. -/
theorem induction {P : Json → Prop} (step : ∀ j, (∀ c ∈ j.children, P c) → P j) (j : Json) : P j :=
  step j fun c _ => induction step c
termination_by sizeOf j
decreasing_by exact sizeOf_lt_of_mem_children ‹_›

/-- `P` holds of a value and of every value in it, at every depth. -/
inductive Everywhere (P : Json → Prop) : Json → Prop
  | intro (j : Json) (here : P j) (below : ∀ c ∈ j.children, Everywhere P c) : Everywhere P j

namespace Everywhere

variable {P : Json → Prop} {j : Json}

theorem here (h : Everywhere P j) : P j := by
  cases h with
  | intro _ here _ => exact here

theorem child {c : Json} (h : Everywhere P j) (hc : c ∈ j.children) : Everywhere P c := by
  cases h with
  | intro _ _ below => exact below c hc

theorem item {items : List Json} {c : Json} (h : Everywhere P (.array items)) (hc : c ∈ items) :
    Everywhere P c :=
  h.child hc

theorem entry {entries : List (String × Json)} {e : String × Json}
    (h : Everywhere P (.object entries)) (he : e ∈ entries) : Everywhere P e.2 :=
  h.child (List.mem_map_of_mem he)

theorem mono {Q : Json → Prop} (h : Everywhere P j) (hPQ : ∀ c, P c → Q c) : Everywhere Q j := by
  induction h with
  | intro j here _ ih => exact .intro j (hPQ j here) ih

end Everywhere

theorem everywhere_iff {P : Json → Prop} {j : Json} :
    j.Everywhere P ↔ P j ∧ ∀ c ∈ j.children, c.Everywhere P := by
  constructor
  · exact fun h => ⟨h.here, fun c => h.child⟩
  · exact fun h => .intro j h.1 h.2

theorem everywhere_iff_of_leaf {P : Json → Prop} {j : Json} (h : j.children = []) :
    j.Everywhere P ↔ P j := by
  rw [everywhere_iff, h]
  simp

mutual

/-- What can be decided of a value can be decided of a value at every depth. -/
def decideEverywhere (P : Json → Prop) [DecidablePred P] : (j : Json) → Decidable (j.Everywhere P)
  | .array items =>
    have := decideItems P items
    decidable_of_iff (P (.array items) ∧ ∀ c ∈ items, c.Everywhere P) everywhere_iff.symm
  | .object entries =>
    have := decideEntries P entries
    decidable_of_iff (P (.object entries) ∧ ∀ e ∈ entries, e.2.Everywhere P)
      (by rw [everywhere_iff, children, List.forall_mem_map])
  | .null => decidable_of_iff (P .null) (everywhere_iff_of_leaf rfl).symm
  | .bool value => decidable_of_iff (P (.bool value)) (everywhere_iff_of_leaf rfl).symm
  | .number value => decidable_of_iff (P (.number value)) (everywhere_iff_of_leaf rfl).symm
  | .string value => decidable_of_iff (P (.string value)) (everywhere_iff_of_leaf rfl).symm
termination_by structural j => j

def decideItems (P : Json → Prop) [DecidablePred P] :
    (items : List Json) → Decidable (∀ c ∈ items, c.Everywhere P)
  | [] => .isTrue (by simp)
  | j :: rest =>
    have := decideEverywhere P j
    have := decideItems P rest
    decidable_of_iff (j.Everywhere P ∧ ∀ c ∈ rest, c.Everywhere P) (by simp)
termination_by structural items => items

def decideEntries (P : Json → Prop) [DecidablePred P] :
    (entries : List (String × Json)) → Decidable (∀ e ∈ entries, e.2.Everywhere P)
  | [] => .isTrue (by simp)
  | (key, value) :: rest =>
    have := decideEverywhere P value
    have := decideEntries P rest
    decidable_of_iff (value.Everywhere P ∧ ∀ e ∈ rest, e.2.Everywhere P) (by simp)
termination_by structural entries => entries

end

instance (P : Json → Prop) [DecidablePred P] : DecidablePred (Everywhere P) :=
  decideEverywhere P

/-- No object in the value has two entries for one key. -/
def Distinct (j : Json) : Prop :=
  j.Everywhere fun c => ∀ entries, c = .object entries → Entries.Distinct entries

mutual

theorem settle_distinct : (j : Json) → (settle j).Distinct
  | .array items => by
    have below := settleItems_distinct items
    exact .intro _ (by simp [settle]) below
  | .object entries => by
    obtain ⟨here, below⟩ := settleEntries_distinct [] entries List.nodup_nil (by simp)
    refine .intro _ ?_ ?_
    · intro found e
      simp only [settle, Json.object.injEq] at e
      exact e ▸ here
    · intro c hc
      obtain ⟨e, he, rfl⟩ := List.mem_map.mp hc
      exact below e he
  | .null => .intro _ (by simp [settle]) (by simp [settle, children])
  | .bool _ => .intro _ (by simp [settle]) (by simp [settle, children])
  | .number _ => .intro _ (by simp [settle]) (by simp [settle, children])
  | .string _ => .intro _ (by simp [settle]) (by simp [settle, children])
termination_by structural j => j

theorem settleItems_distinct : (items : List Json) → ∀ c ∈ settleItems items, c.Distinct
  | [] => by simp [settleItems]
  | j :: rest => by
    intro c hc
    rcases List.mem_cons.mp hc with rfl | hr
    · exact settle_distinct j
    · exact settleItems_distinct rest c hr
termination_by structural items => items

theorem settleEntries_distinct (done : List (String × Json)) :
    (entries : List (String × Json)) → Entries.Distinct done → (∀ e ∈ done, e.2.Distinct) →
      Entries.Distinct (settleEntries done entries) ∧
        ∀ e ∈ settleEntries done entries, e.2.Distinct
  | [], hd, hb => ⟨hd, hb⟩
  | (key, value) :: rest, hd, hb => by
    refine settleEntries_distinct _ rest (Entries.distinct_upsert key _ _ hd) ?_
    intro e he
    rcases Entries.mem_upsert he with rfl | hm | ⟨_, _, rfl⟩
    · exact settle_distinct value
    · exact hb e hm
    · exact settle_distinct value
termination_by structural entries => entries

end

end Json

end SwaggerClient
