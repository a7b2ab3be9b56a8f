import SwaggerClient.Entries
import SwaggerClient.Schema.Basic

namespace SwaggerClient

/-- The schema of the values of a map, if there is one. -/
def Additional.value? {σ : Type} : Additional σ → Option σ
  | .allowed _ => none
  | .schema value => some value

namespace Schema

/-- The schemas that a schema holds directly. -/
def children (s : Schema) : List Schema :=
  (s.properties.getD []).map (·.2) ++ s.items.toList ++
    (s.additional.bind Additional.value?).toList ++ s.allOf.getD []

theorem additional_bind_value {s t : Schema} :
    s.additional.bind Additional.value? = some t ↔ s.additional = some (.schema t) := by
  cases s.additional with
  | none => simp
  | some a => cases a <;> simp [Additional.value?]

theorem mem_children {s t : Schema} :
    t ∈ s.children ↔ (∃ p ∈ s.properties.getD [], p.2 = t) ∨ s.items = some t ∨
      s.additional = some (.schema t) ∨ t ∈ s.allOf.getD [] := by
  simp only [children, List.mem_append, List.mem_map, Option.mem_toList, additional_bind_value,
    or_assoc]

theorem forall_mem_children {s : Schema} {P : Schema → Prop} :
    (∀ t ∈ s.children, P t) ↔ (∀ p ∈ s.properties.getD [], P p.2) ∧ (∀ t, s.items = some t → P t) ∧
      (∀ t, s.additional = some (.schema t) → P t) ∧ ∀ t ∈ s.allOf.getD [], P t := by
  simp only [mem_children, or_imp, forall_and, forall_exists_index, and_imp, forall_apply_eq_imp_iff₂]

theorem property_mem_children {s : Schema} {properties : List (String × Schema)}
    (h : s.properties = some properties) {p : String × Schema} (hp : p ∈ properties) :
    p.2 ∈ s.children :=
  mem_children.mpr (.inl ⟨p, by simpa [h] using hp, rfl⟩)

theorem items_mem_children {s t : Schema} (h : s.items = some t) : t ∈ s.children :=
  mem_children.mpr (.inr (.inl h))

theorem additional_mem_children {s t : Schema} (h : s.additional = some (.schema t)) :
    t ∈ s.children :=
  mem_children.mpr (.inr (.inr (.inl h)))

theorem member_mem_children {s t : Schema} (h : t ∈ s.allOf.getD []) : t ∈ s.children :=
  mem_children.mpr (.inr (.inr (.inr h)))

theorem sizeMembers_append (members more : List Schema) :
    sizeMembers (members ++ more) = sizeMembers members + sizeMembers more := by
  induction members with
  | nil => simp [sizeMembers]
  | cons first rest ih =>
    rw [List.cons_append, sizeMembers, sizeMembers, ih]
    omega

theorem sizeEntries_eq (entries : List (String × Schema)) :
    sizeEntries entries = sizeMembers (entries.map (·.2)) := by
  induction entries with
  | nil => rfl
  | cons entry rest ih => rw [sizeEntries, List.map_cons, sizeMembers, ih]

theorem size_eq (s : Schema) : s.size = 1 + sizeMembers s.children := by
  obtain ⟨_, _, _, _, properties, _, items, additional, _, allOf, _⟩ := s
  have hp : sizeProperties properties = sizeMembers ((properties.getD []).map (·.2)) := by
    cases properties with
    | none => rfl
    | some entries => exact sizeEntries_eq entries
  have hi : sizeItems items = sizeMembers items.toList := by
    cases items <;> simp [sizeItems, sizeMembers]
  have ha : sizeAdditional additional =
      sizeMembers (additional.bind Additional.value?).toList := by
    rcases additional with _ | _ | _ <;> simp [sizeAdditional, sizeMembers, Additional.value?]
  have hm : sizeAllOf allOf = sizeMembers (allOf.getD []) := by
    cases allOf <;> rfl
  simp only [size, children, sizeMembers_append]
  omega

theorem size_le_sizeMembers {s : Schema} {members : List Schema} (h : s ∈ members) :
    s.size ≤ sizeMembers members := by
  induction members with
  | nil => simp at h
  | cons first rest ih =>
    rw [sizeMembers]
    rcases List.mem_cons.mp h with rfl | hr
    · omega
    · have hle := ih hr
      omega

theorem size_lt_of_mem_children {s t : Schema} (h : t ∈ s.children) : t.size < s.size := by
  have hle := size_le_sizeMembers h
  rw [size_eq s]
  omega

/-- What passes from the schemas in a schema to the schema holds of every schema. -/
theorem induction {P : Schema → Prop} (step : ∀ s, (∀ t ∈ s.children, P t) → P s) (s : Schema) :
    P s :=
  step s fun t _ => induction step t
termination_by s.size
decreasing_by exact size_lt_of_mem_children ‹_›

/-- `P` holds of a schema and of every schema in it, at every depth. -/
inductive Everywhere (P : Schema → Prop) : Schema → Prop
  | intro (s : Schema) (here : P s) (below : ∀ t ∈ s.children, Everywhere P t) : Everywhere P s

namespace Everywhere

variable {P Q : Schema → Prop} {s t : Schema}

theorem here (h : Everywhere P s) : P s := by
  cases h with
  | intro _ here _ => exact here

theorem child (h : Everywhere P s) (ht : t ∈ s.children) : Everywhere P t := by
  cases h with
  | intro _ _ below => exact below t ht

theorem property (h : Everywhere P s) {properties : List (String × Schema)}
    (hp : s.properties = some properties) {p : String × Schema} (hm : p ∈ properties) :
    Everywhere P p.2 :=
  h.child (property_mem_children hp hm)

theorem items (h : Everywhere P s) (ht : s.items = some t) : Everywhere P t :=
  h.child (items_mem_children ht)

theorem additional (h : Everywhere P s) (ht : s.additional = some (.schema t)) : Everywhere P t :=
  h.child (additional_mem_children ht)

theorem member (h : Everywhere P s) (ht : t ∈ s.allOf.getD []) : Everywhere P t :=
  h.child (member_mem_children ht)

theorem mono (h : Everywhere P s) (hPQ : ∀ t, P t → Q t) : Everywhere Q s := by
  induction h with
  | intro s here _ ih => exact .intro s (hPQ s here) ih

end Everywhere

theorem everywhere_iff {P : Schema → Prop} {s : Schema} :
    s.Everywhere P ↔ P s ∧ ∀ t ∈ s.children, t.Everywhere P := by
  constructor
  · exact fun h => ⟨h.here, fun t => h.child⟩
  · exact fun h => .intro s h.1 h.2

mutual

/-- What can be decided of a schema can be decided of a schema at every depth. -/
def decideEverywhere (P : Schema → Prop) [DecidablePred P] : (s : Schema) → Decidable (s.Everywhere P)
  | ⟨reference, type, format, description, properties, required, items, additional, values, allOf,
      discriminator⟩ =>
    have := decideProperties P properties
    have := decideItems P items
    have := decideAdditional P additional
    have := decideAllOf P allOf
    decidable_of_iff
      (P ⟨reference, type, format, description, properties, required, items, additional, values, allOf,
          discriminator⟩ ∧
        (∀ p ∈ properties.getD [], p.2.Everywhere P) ∧ (∀ t, items = some t → t.Everywhere P) ∧
        (∀ t, additional = some (.schema t) → t.Everywhere P) ∧ ∀ t ∈ allOf.getD [], t.Everywhere P)
      (by rw [everywhere_iff, forall_mem_children])
termination_by structural s => s

def decideProperties (P : Schema → Prop) [DecidablePred P] :
    (properties : Option (List (String × Schema))) →
      Decidable (∀ p ∈ properties.getD [], p.2.Everywhere P)
  | none => .isTrue (by simp)
  | some entries => decideEntries P entries
termination_by structural properties => properties

def decideEntries (P : Schema → Prop) [DecidablePred P] :
    (entries : List (String × Schema)) → Decidable (∀ p ∈ entries, p.2.Everywhere P)
  | [] => .isTrue (by simp)
  | (key, s) :: rest =>
    have := decideEverywhere P s
    have := decideEntries P rest
    decidable_of_iff (s.Everywhere P ∧ ∀ p ∈ rest, p.2.Everywhere P) (by simp)
termination_by structural entries => entries

def decideItems (P : Schema → Prop) [DecidablePred P] :
    (items : Option Schema) → Decidable (∀ t, items = some t → t.Everywhere P)
  | none => .isTrue (by simp)
  | some s =>
    have := decideEverywhere P s
    decidable_of_iff (s.Everywhere P) (by simp)
termination_by structural items => items

def decideAdditional (P : Schema → Prop) [DecidablePred P] :
    (additional : Option (Additional Schema)) →
      Decidable (∀ t, additional = some (.schema t) → t.Everywhere P)
  | none => .isTrue (by simp)
  | some (.allowed _) => .isTrue (by simp)
  | some (.schema s) =>
    have := decideEverywhere P s
    decidable_of_iff (s.Everywhere P) (by simp)
termination_by structural additional => additional

def decideAllOf (P : Schema → Prop) [DecidablePred P] :
    (allOf : Option (List Schema)) → Decidable (∀ t ∈ allOf.getD [], t.Everywhere P)
  | none => .isTrue (by simp)
  | some members => decideMembers P members
termination_by structural allOf => allOf

def decideMembers (P : Schema → Prop) [DecidablePred P] :
    (members : List Schema) → Decidable (∀ t ∈ members, t.Everywhere P)
  | [] => .isTrue (by simp)
  | s :: rest =>
    have := decideEverywhere P s
    have := decideMembers P rest
    decidable_of_iff (s.Everywhere P ∧ ∀ t ∈ rest, t.Everywhere P) (by simp)
termination_by structural members => members

end

instance (P : Schema → Prop) [DecidablePred P] : DecidablePred (Everywhere P) :=
  decideEverywhere P

/-- No two properties of the schema have one key. -/
def KeysDistinct (s : Schema) : Prop :=
  ∀ properties, s.properties = some properties → Entries.Distinct properties

instance : DecidablePred KeysDistinct := fun s =>
  match h : s.properties with
  | none => .isTrue (by simp [KeysDistinct, h])
  | some properties =>
    decidable_of_iff (Entries.keys properties).Nodup (by simp [KeysDistinct, h, Entries.Distinct])

def Distinct (s : Schema) : Prop :=
  s.Everywhere KeysDistinct

instance : DecidablePred Distinct :=
  inferInstanceAs (DecidablePred (Everywhere KeysDistinct))

/-- The additional properties are not given by a truth value. -/
def NoTruthValue (s : Schema) : Prop :=
  ∀ any, s.additional ≠ some (.allowed any)

instance : DecidablePred NoTruthValue := fun s =>
  match h : s.additional with
  | none => .isTrue (by simp [NoTruthValue, h])
  | some (.allowed any) => .isFalse fun hs => hs any h
  | some (.schema _) => .isTrue (by simp [NoTruthValue, h])

def NoTruthValues (s : Schema) : Prop :=
  s.Everywhere NoTruthValue

instance : DecidablePred NoTruthValues :=
  inferInstanceAs (DecidablePred (Everywhere NoTruthValue))

end Schema

end SwaggerClient
