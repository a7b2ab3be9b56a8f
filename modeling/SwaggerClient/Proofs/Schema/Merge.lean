import SwaggerClient.Proofs.Entries
import SwaggerClient.Proofs.Schema.Depth
import SwaggerClient.Schema.Merge

namespace SwaggerClient.Schema

section Parts

variable (target source : Schema)

@[simp] theorem merge_reference :
    (target.merge source).reference = (source.reference <|> target.reference) := by
  cases source; rfl

@[simp] theorem merge_type : (target.merge source).type = (source.type <|> target.type) := by
  cases source; rfl

@[simp] theorem merge_format : (target.merge source).format = (source.format <|> target.format) := by
  cases source; rfl

@[simp] theorem merge_description :
    (target.merge source).description = (source.description <|> target.description) := by
  cases source; rfl

@[simp] theorem merge_properties :
    (target.merge source).properties = mergeProperties target.properties source.properties := by
  cases source; rfl

@[simp] theorem merge_required :
    (target.merge source).required = appendLists target.required source.required := by
  cases source; rfl

@[simp] theorem merge_items :
    (target.merge source).items = mergeItems target.items source.items := by
  cases source; rfl

@[simp] theorem merge_additional :
    (target.merge source).additional = mergeAdditional target.additional source.additional := by
  cases source; rfl

@[simp] theorem merge_values :
    (target.merge source).values = appendLists target.values source.values := by
  cases source; rfl

@[simp] theorem merge_allOf :
    (target.merge source).allOf = appendLists target.allOf source.allOf := by
  cases source; rfl

@[simp] theorem merge_discriminator :
    (target.merge source).discriminator = (source.discriminator <|> target.discriminator) := by
  cases source; rfl

end Parts

theorem ext_parts {a b : Schema} (reference : a.reference = b.reference) (type : a.type = b.type)
    (format : a.format = b.format) (description : a.description = b.description)
    (properties : a.properties = b.properties) (required : a.required = b.required)
    (items : a.items = b.items) (additional : a.additional = b.additional)
    (values : a.values = b.values) (allOf : a.allOf = b.allOf)
    (discriminator : a.discriminator = b.discriminator) : a = b := by
  cases a; cases b; simp_all

theorem appendLists_assoc {α : Type} (a b c : Option (List α)) :
    appendLists (appendLists a b) c = appendLists a (appendLists b c) := by
  cases a <;> cases b <;> cases c <;> simp [appendLists]

@[simp] theorem appendLists_none {α : Type} (a : Option (List α)) : appendLists a none = a := by
  cases a <;> rfl

@[simp] theorem none_appendLists {α : Type} (a : Option (List α)) : appendLists none a = a := by
  cases a <;> rfl

theorem mergeEntries_eq_mergeWith (target source : List (String × Schema)) :
    mergeEntries target source = Entries.mergeWith merge target source := by
  induction source generalizing target with
  | nil => rfl
  | cons entry rest ih =>
    obtain ⟨key, s⟩ := entry
    rw [mergeEntries, Entries.mergeWith_cons, ih]

@[simp] theorem mergeProperties_none (target : Option (List (String × Schema))) :
    mergeProperties target none = target := rfl

@[simp] theorem mergeItems_none (target : Option Schema) : mergeItems target none = target := rfl

@[simp] theorem none_mergeItems (source : Option Schema) : mergeItems none source = source := by
  cases source <;> rfl

@[simp] theorem mergeAdditional_none (target : Option (Additional Schema)) :
    mergeAdditional target none = target := rfl

@[simp] theorem none_mergeAdditional (source : Option (Additional Schema)) :
    mergeAdditional none source = source := by
  cases source with
  | none => rfl
  | some a => cases a <;> rfl

theorem none_mergeProperties {source : Option (List (String × Schema))}
    (h : ∀ properties, source = some properties → Entries.Distinct properties) :
    mergeProperties none source = source := by
  cases source with
  | none => rfl
  | some properties =>
    simp only [mergeProperties, Option.getD_none, mergeEntries_eq_mergeWith,
      Entries.nil_mergeWith merge (h properties rfl)]

@[simp] theorem merge_empty (s : Schema) : s.merge {} = s := by
  apply ext_parts <;> simp

theorem empty_merge {s : Schema} (h : s.KeysDistinct) : merge {} s = s := by
  apply ext_parts <;> simp [none_mergeProperties h]

section Associativity

variable {a b c : Schema}

theorem mergeProperties_assoc (hb : b.KeysDistinct) (hc : c.KeysDistinct)
    (h : ∀ ps qs, b.properties = some ps → c.properties = some qs → ∀ key z, (key, z) ∈ qs →
      ∀ y, (key, y) ∈ ps → ∀ x : Schema, (x.merge y).merge z = x.merge (y.merge z)) :
    mergeProperties (mergeProperties a.properties b.properties) c.properties =
      mergeProperties a.properties (mergeProperties b.properties c.properties) := by
  cases hc' : c.properties with
  | none => simp
  | some qs =>
    cases hb' : b.properties with
    | none =>
      have hq := hc qs hc'
      simp only [mergeProperties, Option.getD_none, mergeEntries_eq_mergeWith,
        Entries.nil_mergeWith merge hq]
    | some ps =>
      simp only [mergeProperties, Option.getD_some, mergeEntries_eq_mergeWith, Option.some.injEq]
      exact Entries.mergeWith_assoc merge _ (hb ps hb') (hc qs hc') (h ps qs hb' hc')

theorem mergeItems_assoc
    (h : ∀ y z, b.items = some y → c.items = some z →
      ∀ x : Schema, (x.merge y).merge z = x.merge (y.merge z)) :
    mergeItems (mergeItems a.items b.items) c.items =
      mergeItems a.items (mergeItems b.items c.items) := by
  cases hc : c.items with
  | none => simp
  | some z =>
    cases hb : b.items with
    | none => simp
    | some y =>
      cases a.items with
      | none => simp [mergeItems]
      | some x => simp [mergeItems, h y z hb hc]

theorem mergeAdditional_assoc (hb : b.NoTruthValue)
    (h : ∀ y z, b.additional = some (.schema y) → c.additional = some (.schema z) →
      ∀ x : Schema, (x.merge y).merge z = x.merge (y.merge z)) :
    mergeAdditional (mergeAdditional a.additional b.additional) c.additional =
      mergeAdditional a.additional (mergeAdditional b.additional c.additional) := by
  cases hc : c.additional with
  | none => simp
  | some w =>
    cases w with
    | allowed any => simp [mergeAdditional]
    | schema z =>
      cases hb' : b.additional with
      | none => simp
      | some v =>
        cases v with
        | allowed any => exact absurd hb' (hb any)
        | schema y =>
          cases a.additional with
          | none => simp [mergeAdditional]
          | some u =>
            cases u with
            | allowed any => simp [mergeAdditional]
            | schema x => simp [mergeAdditional, h y z hb' hc]

end Associativity

/-- Merging is associative when the schema in the middle gives no additional properties by a truth
value, at any depth: a truth value in the middle would hide those of the first schema from the last. -/
theorem merge_assoc (a : Schema) {b c : Schema} (hb : b.Distinct) (ht : b.NoTruthValues)
    (hc : c.Distinct) : (a.merge b).merge c = a.merge (b.merge c) := by
  induction c using Schema.induction generalizing a b with
  | step c ih =>
    apply ext_parts
    · simp [Option.or_assoc]
    · simp [Option.or_assoc]
    · simp [Option.or_assoc]
    · simp [Option.or_assoc]
    · simp only [merge_properties]
      refine mergeProperties_assoc hb.here hc.here ?_
      intro ps qs hps hqs key z hz y hy x
      exact ih z (property_mem_children hqs hz) x (hb.property hps hy) (ht.property hps hy)
        (hc.property hqs hz)
    · simp [appendLists_assoc]
    · simp only [merge_items]
      refine mergeItems_assoc ?_
      intro y z hy hz x
      exact ih z (items_mem_children hz) x (hb.items hy) (ht.items hy) (hc.items hz)
    · simp only [merge_additional]
      refine mergeAdditional_assoc ht.here ?_
      intro y z hy hz x
      exact ih z (additional_mem_children hz) x (hb.additional hy) (ht.additional hy)
        (hc.additional hz)
    · simp [appendLists_assoc]
    · simp [appendLists_assoc]
    · simp [Option.or_assoc]

section Preservation

variable {a b : Schema}

theorem mem_appendLists {α : Type} {x : α} {a b : Option (List α)} :
    x ∈ (appendLists a b).getD [] ↔ x ∈ a.getD [] ∨ x ∈ b.getD [] := by
  cases a <;> cases b <;> simp [appendLists]

theorem forall_mergeProperties {P : Schema → Prop} {a b : Option (List (String × Schema))}
    (ha : ∀ p ∈ a.getD [], P p.2) (hb : ∀ p ∈ b.getD [], P p.2)
    (h : ∀ p ∈ b.getD [], ∀ x, P x → P (x.merge p.2)) :
    ∀ p ∈ (mergeProperties a b).getD [], P p.2 := by
  cases b with
  | none => exact ha
  | some qs =>
    simp only [mergeProperties, Option.getD_some, mergeEntries_eq_mergeWith]
    exact Entries.forall_mergeWith merge ha hb h

theorem forall_mergeItems {P : Schema → Prop} {a b : Option Schema} (ha : ∀ x, a = some x → P x)
    (hb : ∀ y, b = some y → P y) (h : ∀ y, b = some y → ∀ x, P x → P (x.merge y)) {t : Schema}
    (ht : mergeItems a b = some t) : P t := by
  cases b with
  | none => exact ha t ht
  | some y =>
    cases a with
    | none => exact hb t ht
    | some x =>
      obtain rfl : x.merge y = t := by simpa [mergeItems] using ht
      exact h y rfl x (ha x rfl)

theorem forall_mergeAdditional {P : Schema → Prop} {a b : Option (Additional Schema)}
    (ha : ∀ x, a = some (.schema x) → P x) (hb : ∀ y, b = some (.schema y) → P y)
    (h : ∀ y, b = some (.schema y) → ∀ x, P x → P (x.merge y)) {t : Schema}
    (ht : mergeAdditional a b = some (.schema t)) : P t := by
  cases b with
  | none => exact ha t ht
  | some w =>
    cases w with
    | allowed any => simp [mergeAdditional] at ht
    | schema y =>
      cases a with
      | none => exact hb t ht
      | some u =>
        cases u with
        | allowed any => exact hb t ht
        | schema x =>
          obtain rfl : x.merge y = t := by simpa [mergeAdditional] using ht
          exact h y rfl x (ha x rfl)

theorem forall_children_merge {P : Schema → Prop} (ha : ∀ t ∈ a.children, P t)
    (hb : ∀ t ∈ b.children, P t) (h : ∀ y ∈ b.children, ∀ x, P x → P (x.merge y)) :
    ∀ t ∈ (a.merge b).children, P t := by
  intro t ht
  simp only [mem_children, merge_properties, merge_items, merge_additional, merge_allOf] at ht
  rcases ht with ⟨p, hp, rfl⟩ | hi | hv | hm
  · refine forall_mergeProperties ?_ ?_ ?_ p hp
    · exact fun p hp => ha _ (mem_children.mpr (.inl ⟨p, hp, rfl⟩))
    · exact fun p hp => hb _ (mem_children.mpr (.inl ⟨p, hp, rfl⟩))
    · exact fun p hp => h _ (mem_children.mpr (.inl ⟨p, hp, rfl⟩))
  · refine forall_mergeItems ?_ ?_ ?_ hi
    · exact fun x hx => ha x (items_mem_children hx)
    · exact fun y hy => hb y (items_mem_children hy)
    · exact fun y hy => h y (items_mem_children hy)
  · refine forall_mergeAdditional ?_ ?_ ?_ hv
    · exact fun x hx => ha x (additional_mem_children hx)
    · exact fun y hy => hb y (additional_mem_children hy)
    · exact fun y hy => h y (additional_mem_children hy)
  · rcases mem_appendLists.mp hm with hm | hm
    · exact ha t (member_mem_children hm)
    · exact hb t (member_mem_children hm)

/-- What merging two schemas keeps, it keeps at every depth. -/
theorem everywhere_merge {P : Schema → Prop} (h : ∀ a b, P a → P b → P (a.merge b))
    (ha : a.Everywhere P) (hb : b.Everywhere P) : (a.merge b).Everywhere P := by
  induction b using Schema.induction generalizing a with
  | step b ih =>
    refine .intro _ (h a b ha.here hb.here) ?_
    apply forall_children_merge
    · exact fun t ht => ha.child ht
    · exact fun t ht => hb.child ht
    · exact fun y hy x hx => ih y hy hx (hb.child hy)

theorem keysDistinct_merge (ha : a.KeysDistinct) : (a.merge b).KeysDistinct := by
  intro properties hp
  rw [merge_properties] at hp
  cases hb' : b.properties with
  | none => exact ha properties (by simpa [hb'] using hp)
  | some qs =>
    simp only [hb', mergeProperties, mergeEntries_eq_mergeWith, Option.some.injEq] at hp
    subst hp
    apply Entries.distinct_mergeWith
    cases ha' : a.properties with
    | none => exact List.nodup_nil
    | some ps => exact ha ps ha'

theorem noTruthValue_merge (ha : a.NoTruthValue) (hb : b.NoTruthValue) :
    (a.merge b).NoTruthValue := by
  intro any hv
  rw [merge_additional] at hv
  cases hb' : b.additional with
  | none => exact ha any (by simpa [hb'] using hv)
  | some w =>
    cases w with
    | allowed any => exact hb any hb'
    | schema y =>
      cases ha' : a.additional with
      | none => simp [ha', hb'] at hv
      | some u => cases u <;> simp [ha', hb', mergeAdditional] at hv

theorem distinct_merge (ha : a.Distinct) (hb : b.Distinct) : (a.merge b).Distinct :=
  everywhere_merge (fun _ _ ha _ => keysDistinct_merge ha) ha hb

theorem noTruthValues_merge (ha : a.NoTruthValues) (hb : b.NoTruthValues) :
    (a.merge b).NoTruthValues :=
  everywhere_merge (fun _ _ => noTruthValue_merge) ha hb

end Preservation

end SwaggerClient.Schema
