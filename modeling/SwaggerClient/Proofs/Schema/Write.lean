import SwaggerClient.Proofs.Document.Entries
import SwaggerClient.Schema.Write

namespace SwaggerClient

namespace Double

/-- The code of a whole number that needs all of 64 bits. -/
theorem nearestCode_of_le {m : Nat} (hlow : Nat.pow 2 63 ≤ m) (hhigh : m < Nat.pow 2 64) :
    nearestCode m 1 = roundHalfEven m (Nat.pow 2 11) + 1085 * Nat.pow 2 52 := by
  have hlow : 2 ^ 63 ≤ m := hlow
  have hhigh : m < 2 ^ 64 := hhigh
  have hlog : m.log2 = 63 := (Nat.log2_eq_iff (by omega)).mpr ⟨hlow, hhigh⟩
  have hone : Nat.log2 1 = 0 := by decide
  have hzero : m ≠ 0 := by omega
  have hmax : max (((63 : Nat) : Int) - ((0 : Nat) : Int) - 53) (-1074) = 10 := by decide
  have hguess : Nat.pow 2 53 ≤ m / Nat.pow 2 (10 : Int).toNat := by
    show 2 ^ 53 ≤ m / 2 ^ 10
    omega
  simp only [nearestCode, hzero, hlog, hone, hmax, if_false, if_pos (show (0 : Int) ≤ 10 by decide),
    if_pos hguess, if_pos (show (0 : Int) ≤ 10 + 1 by decide), Nat.one_mul]
  rfl

theorem roundHalfEven_le (num den : Nat) : roundHalfEven num den ≤ num / den + 1 := by
  simp only [roundHalfEven]
  split <;> omega

theorem isInfinite_ofInt {n : Int} (hlow : (Nat.pow 2 63 : Nat) ≤ n) (hhigh : n < (Nat.pow 2 64 : Nat)) :
    (ofInt n).isInfinite = false := by
  obtain ⟨m, rfl⟩ := Int.eq_ofNat_of_zero_le (Int.le_trans (Int.natCast_nonneg _) hlow)
  have hlow : 2 ^ 63 ≤ m := Int.ofNat_le.mp hlow
  have hhigh : m < 2 ^ 64 := Int.ofNat_lt.mp hhigh
  have hround : roundHalfEven m (2 ^ 11) ≤ m / 2 ^ 11 + 1 := roundHalfEven_le m _
  have hcode : nearestCode m 1 < 2047 * 2 ^ 52 := by
    rw [nearestCode_of_le hlow hhigh]
    show roundHalfEven m (2 ^ 11) + 1085 * 2 ^ 52 < 2047 * 2 ^ 52
    omega
  exact decide_eq_false (Nat.not_le.mpr hcode)

end Double

/-- An integer of 64 bits, with a sign or without, or a finite floating-point number. -/
def Number.Fits : Number → Prop
  | .integer n => -(Nat.pow 2 63 : Nat) ≤ n ∧ n < (Nat.pow 2 64 : Nat)
  | .real x => x.isInfinite = false

instance : DecidablePred Number.Fits
  | .integer n =>
    inferInstanceAs (Decidable (-(Nat.pow 2 63 : Nat) ≤ n ∧ n < (Nat.pow 2 64 : Nat)))
  | .real x => inferInstanceAs (Decidable (x.isInfinite = false))

namespace Json

/-- A value that is well formed apart from the values in it. -/
structure Proper (j : Json) : Prop where
  distinct : ∀ entries, j = .object entries → Entries.Distinct entries
  fits : ∀ n, j = .number n → n.Fits

instance : DecidablePred Proper
  | .object entries =>
    decidable_of_iff (Entries.keys entries).Nodup
      ⟨fun h => ⟨by rintro _ ⟨⟩; exact h, nofun⟩, fun h => h.distinct entries rfl⟩
  | .number n =>
    decidable_of_iff n.Fits ⟨fun h => ⟨nofun, by rintro _ ⟨⟩; exact h⟩, fun h => h.fits n rfl⟩
  | .null => .isTrue ⟨nofun, nofun⟩
  | .bool _ => .isTrue ⟨nofun, nofun⟩
  | .string _ => .isTrue ⟨nofun, nofun⟩
  | .array _ => .isTrue ⟨nofun, nofun⟩

/-- No object in the value has two entries for one key, and every number in it fits. -/
def WellFormed (j : Json) : Prop :=
  j.Everywhere Proper

instance : DecidablePred WellFormed :=
  inferInstanceAs (DecidablePred (Everywhere Proper))

theorem wellFormed_object {entries : List (String × Json)} (hd : Entries.Distinct entries)
    (hv : ∀ e ∈ entries, e.2.WellFormed) : WellFormed (.object entries) := by
  refine .intro _ ⟨?_, nofun⟩ (List.forall_mem_map.mpr hv)
  rintro _ ⟨⟩
  exact hd

theorem wellFormed_array {items : List Json} (h : ∀ j ∈ items, j.WellFormed) :
    WellFormed (.array items) :=
  .intro _ ⟨nofun, nofun⟩ h

theorem wellFormed_string (s : String) : WellFormed (.string s) :=
  .intro _ ⟨nofun, nofun⟩ nofun

theorem wellFormed_bool (b : Bool) : WellFormed (.bool b) :=
  .intro _ ⟨nofun, nofun⟩ nofun

theorem wellFormed_ofTexts (texts : List String) : WellFormed (ofTexts texts) :=
  wellFormed_array (List.forall_mem_map.mpr fun s _ => wellFormed_string s)

theorem everywhere_of_forall {P : Json → Prop} (h : ∀ j, P j) (j : Json) : j.Everywhere P := by
  induction j using Json.induction with
  | step j ih => exact .intro j (h j) ih

theorem keys_entry?_append {key : String} {value : Option Json} {rest : List (String × Json)}
    {keys : List String} (h : (Entries.keys rest).Sublist keys) :
    (Entries.keys ( entry? key value ++ rest)).Sublist (key :: keys) := by
  cases value with
  | none => exact h.cons key
  | some j => exact h.cons_cons key

theorem forall_entry?_append {α : Type} {P : Json → Prop} {key : String} {part : Option α}
    {f : α → Json} {rest : List (String × Json)} (h : ∀ a, part = some a → P (f a))
    (hrest : ∀ e ∈ rest, P e.2) : ∀ e ∈ entry? key (part.map f) ++ rest, P e.2 := by
  cases part with
  | none => exact hrest
  | some a => exact List.forall_mem_cons.mpr ⟨h a rfl, hrest⟩

end Json

namespace EnumValue

/-- An integer that is too large for 64 bits with a sign was read as a floating-point number before. -/
theorem read_toJson {j : Json} {v : EnumValue} (h : read j = .ok v) : read v.toJson = .ok v := by
  cases j with
  | number n =>
    cases n with
    | integer n =>
      simp only [read] at h
      split at h
      · next hn =>
        obtain rfl := Except.ok.inj h
        exact congrArg Except.ok (if_pos hn)
      · obtain rfl := Except.ok.inj h
        rfl
    | real x =>
      obtain rfl := Except.ok.inj h
      rfl
  | null | bool | string =>
    obtain rfl := Except.ok.inj h
    rfl
  | array | object => cases h

theorem wellFormed_toJson {j : Json} {v : EnumValue} (hj : j.Proper) (h : read j = .ok v) :
    v.toJson.WellFormed := by
  have hnumber {n : Number} (hn : n.Fits) : Json.WellFormed (.number n) := by
    refine .intro _ ⟨nofun, ?_⟩ nofun
    rintro _ ⟨⟩
    exact hn
  cases j with
  | number n =>
    have hfits := hj.fits n rfl
    cases n with
    | integer n =>
      simp only [read] at h
      split at h
      · obtain rfl := Except.ok.inj h
        exact hnumber hfits
      · next hn =>
        obtain rfl := Except.ok.inj h
        exact hnumber (Double.isInfinite_ofInt (Int.not_lt.mp hn) hfits.2)
    | real x =>
      obtain rfl := Except.ok.inj h
      exact hnumber hfits
  | null =>
    obtain rfl := Except.ok.inj h
    exact .intro _ ⟨nofun, nofun⟩ nofun
  | bool b =>
    obtain rfl := Except.ok.inj h
    exact Json.wellFormed_bool b
  | string s =>
    obtain rfl := Except.ok.inj h
    exact Json.wellFormed_string s
  | array | object => cases h

end EnumValue

namespace Reader

variable {α : Type} {read : Reader α} {R : α → Prop}

theorem forall_of_items {js : List Json} {list : List α} (hread : ∀ j ∈ js, ∀ a, read j = .ok a → R a)
    (h : items read js = .ok list) : ∀ a ∈ list, R a := by
  induction js generalizing list with
  | nil =>
    obtain rfl := Except.ok.inj h
    simp
  | cons j rest ih =>
    obtain ⟨first, hfirst, h⟩ := bind_eq_ok.mp h
    obtain ⟨more, hmore, h⟩ := bind_eq_ok.mp h
    obtain rfl := Except.ok.inj h
    have hrest := ih (fun j hj => hread j (List.mem_cons_of_mem _ hj)) hmore
    exact List.forall_mem_cons.mpr ⟨hread j (by simp) first hfirst, hrest⟩

theorem items_map_eq_ok {f : α → Json} {list : List α} (h : ∀ a ∈ list, read (f a) = .ok a) :
    items read (list.map f) = .ok list := by
  induction list with
  | nil => rfl
  | cons a rest ih =>
    rw [List.map_cons, items, h a (by simp), ok_bind, ih fun b hb => h b (List.mem_cons_of_mem _ hb)]
    rfl

end Reader

def Additional.toJson : Additional Schema → Json
  | .allowed any => .bool any
  | .schema s => s.toJson

namespace Schema

variable {beside : Bool}

theorem propertiesToJson_eq (properties : Option (List (String × Schema))) :
    propertiesToJson properties =
      properties.map fun ps => .object (ps.map fun p => (p.1, p.2.toJson)) := by
  cases properties with
  | none => rfl
  | some ps =>
    have h : entriesToJson ps = ps.map fun p => (p.1, p.2.toJson) := by
      induction ps with
      | nil => rfl
      | cons p rest ih => rw [entriesToJson, ih, List.map_cons, toJson]
    rw [propertiesToJson, h, Option.map_some]

theorem itemsToJson_eq (items : Option Schema) : itemsToJson items = items.map toJson := by
  cases items <;> rfl

theorem additionalToJson_eq (additional : Option (Additional Schema)) :
    additionalToJson additional = additional.map Additional.toJson := by
  rcases additional with _ | _ | _ <;> rfl

theorem allOfToJson_eq (allOf : Option (List Schema)) :
    allOfToJson allOf = allOf.map fun ms => .array (ms.map toJson) := by
  cases allOf with
  | none => rfl
  | some ms =>
    have h : membersToJson ms = ms.map toJson := by
      induction ms with
      | nil => rfl
      | cons m rest ih => rw [membersToJson, ih, List.map_cons, toJson]
    rw [allOfToJson, h, Option.map_some]

theorem toEntries_eq (s : Schema) :
    s.toEntries =
      Json.entry? "$ref" (s.reference.map .string) ++ (
      Json.entry? "type" (s.type.map .string) ++ (
      Json.entry? "format" (s.format.map .string) ++ (
      Json.entry? "description" (s.description.map .string) ++ (
      Json.entry? "properties"
        (s.properties.map fun ps => .object (ps.map fun p => (p.1, p.2.toJson))) ++ (
      Json.entry? "required" (s.required.map Json.ofTexts) ++ (
      Json.entry? "items" (s.items.map toJson) ++ (
      Json.entry? "additionalProperties" (s.additional.map Additional.toJson) ++ (
      Json.entry? "enum" (s.values.map fun vs => .array (vs.map EnumValue.toJson)) ++ (
      Json.entry? "allOf" (s.allOf.map fun ms => .array (ms.map toJson)) ++ (
      Json.entry? "discriminator" (s.discriminator.map .string) ++ [])))))))))) := by
  cases s
  simp only [toEntries, propertiesToJson_eq, itemsToJson_eq, additionalToJson_eq, allOfToJson_eq,
    List.append_assoc, List.append_nil]

/-- All values that the schema lists have `R`. -/
def Lists (R : EnumValue → Prop) (s : Schema) : Prop :=
  ∀ values, s.values = some values → ∀ v ∈ values, R v

/-- The value is read back as it is. -/
def ReadBack (v : EnumValue) : Prop :=
  EnumValue.read v.toJson = .ok v

section Parts

variable (s : Schema)

theorem setPart_properties {properties : List (String × Schema)}
    (h : ∀ p ∈ properties, readIn beside p.2.toJson = .ok p.2) :
    let value : Json := .object (properties.map fun p => (p.1, p.2.toJson))
    setPart "properties" value (forms beside value) s = .ok { s with properties := some properties } := by
  have hread : readMap beside (properties.map fun p => (p.1, p.2.toJson)) = .ok properties := by
    induction properties with
    | nil => rfl
    | cons p rest ih =>
      rw [List.map_cons, readMap, h p (by simp), ok_bind,
        ih fun q hq => h q (List.mem_cons_of_mem _ hq)]
      rfl
  show (readMap beside _).map some >>= _ = _
  rw [hread]
  rfl

theorem setPart_required (required : List String) :
    setPart "required" (Json.ofTexts required) (forms beside (Json.ofTexts required)) s =
      .ok { s with required := some required } := by
  have hread : Reader.items Reader.string (required.map .string) = .ok required :=
    Reader.items_map_eq_ok fun _ _ => rfl
  show (Reader.items Reader.string _).map some >>= _ = _
  rw [hread]
  rfl

theorem setPart_items {items : Schema} (h : readIn beside items.toJson = .ok items) :
    setPart "items" items.toJson (forms beside items.toJson) s = .ok { s with items := some items } := by
  show (readIn beside items.toJson).map some >>= _ = _
  rw [h]
  rfl

theorem setPart_additional {additional : Additional Schema}
    (h : ∀ t, additional = .schema t → readIn beside t.toJson = .ok t) :
    setPart "additionalProperties" additional.toJson (forms beside additional.toJson) s =
      .ok { s with additional := some additional } := by
  cases additional with
  | allowed any => rfl
  | schema t =>
    have ht : readEntries beside {} t.toEntries = .ok t := h t rfl
    have hread : readAdditional beside t.toJson = .ok (some (.schema t)) := by
      rw [toJson, readAdditional, ht]
    show readAdditional beside t.toJson >>= _ = _
    rw [hread]
    rfl

theorem setPart_enum {values : List EnumValue} (h : ∀ v ∈ values, ReadBack v) :
    let value : Json := .array (values.map EnumValue.toJson)
    setPart "enum" value (forms beside value) s = .ok { s with values := some values } := by
  have hread : Reader.items EnumValue.read (values.map EnumValue.toJson) = .ok values :=
    Reader.items_map_eq_ok h
  show (Reader.items EnumValue.read _).map some >>= _ = _
  rw [hread]
  rfl

theorem setPart_allOf {members : List Schema} (h : ∀ m ∈ members, readIn beside m.toJson = .ok m) :
    let value : Json := .array (members.map toJson)
    setPart "allOf" value (forms beside value) s = .ok { s with allOf := some members } := by
  have hread : readAll beside (members.map toJson) = .ok members := by
    induction members with
    | nil => rfl
    | cons m rest ih =>
      rw [List.map_cons, readAll, h m (by simp), ok_bind,
        ih fun n hn => h n (List.mem_cons_of_mem _ hn)]
      rfl
  show (readAll beside _).map some >>= _ = _
  rw [hread]
  rfl

end Parts

/-- What is written for a schema is read as the schema, if its values are read back at every depth. -/
theorem readIn_toJson {s : Schema} (hs : s.Everywhere (Lists ReadBack)) :
    readIn beside s.toJson = .ok s := by
  induction s using Schema.induction with
  | step s ih =>
    have below (t : Schema) (ht : t ∈ s.children) : readIn beside t.toJson = .ok t :=
      ih t ht (hs.child ht)
    have hvalues := hs.here
    clear ih hs
    obtain ⟨reference, type, format, description, properties, required, items, additional, values,
      allOf, discriminator⟩ := s
    show readEntries beside {} (toEntries _) = _
    rw [toEntries_eq, readEntries_eq]
    let set : SetEntry Schema := setEntry beside
    refine (foldlM_part set (fun r => { reference := r }) (fun _ _ => rfl) _).trans ?_
    refine (foldlM_part set (fun t => { reference, type := t }) (fun _ _ => rfl) _).trans ?_
    refine (foldlM_part set (fun f => { reference, type, format := f }) (fun _ _ => rfl) _).trans ?_
    refine (foldlM_part set (fun d => { reference, type, format, description := d })
      (fun _ _ => rfl) _).trans ?_
    refine (foldlM_part set (fun p => { reference, type, format, description, properties := p })
      (fun ps h => setPart_properties _ fun p hp => below _ (property_mem_children h hp)) _).trans ?_
    refine (foldlM_part set (fun r =>
      { reference, type, format, description, properties, required := r })
      (fun _ _ => setPart_required _ _) _).trans ?_
    refine (foldlM_part set (fun i =>
      { reference, type, format, description, properties, required, items := i })
      (fun t h => setPart_items _ (below t (items_mem_children h))) _).trans ?_
    refine (foldlM_part set (fun a =>
      { reference, type, format, description, properties, required, items, additional := a })
      (fun a h => setPart_additional _ fun t ht => below t (additional_mem_children (ht ▸ h))) _).trans ?_
    refine (foldlM_part set (fun v =>
      { reference, type, format, description, properties, required, items, additional, values := v })
      (fun vs h => setPart_enum _ (hvalues vs h)) _).trans ?_
    refine (foldlM_part set (fun m =>
      { reference, type, format, description, properties, required, items, additional, values,
        allOf := m })
      (fun ms h => setPart_allOf _ fun m hm => below m (member_mem_children ?_)) _).trans ?_
    · rw [show allOf = some ms from h]
      exact hm
    exact foldlM_part set (fun d =>
      { reference, type, format, description, properties, required, items, additional, values, allOf,
        discriminator := d }) (fun _ _ => rfl) []

theorem lists_of_setPart {R : EnumValue → Prop} {key : String} {value : Json} {s t : Schema}
    (hread : ∀ j ∈ value.children, ∀ v, EnumValue.read j = .ok v → R v) (hs : s.Lists R)
    (h : setPart key value (forms beside value) s = .ok t) : t.Lists R := by
  unfold setPart at h
  split at h
  case h_9 =>
    obtain ⟨part, hpart, h⟩ := bind_eq_ok.mp h
    obtain rfl := Except.ok.inj h
    rintro vs rfl
    cases value with
    | array items =>
      obtain ⟨vs', hvs, e⟩ := map_eq_ok.mp hpart
      obtain rfl := Option.some.inj e
      exact Reader.forall_of_items hread hvs
    | null | bool | number | string | object =>
      simp [Reader.optional, Reader.list, Except.map] at hpart
  case h_12 =>
    obtain rfl := Except.ok.inj h
    exact hs
  all_goals
    obtain ⟨part, _, h⟩ := bind_eq_ok.mp h
    obtain rfl := Except.ok.inj h
    exact hs

theorem readBack_of_read {j : Json} {s : Schema} (h : readIn beside j = .ok s) :
    s.Everywhere (Lists ReadBack) :=
  everywhere_of_read (P := fun _ => True) nofun
    (fun _ hs hset => lists_of_setPart (fun _ _ _ hv => EnumValue.read_toJson hv) hs hset)
    (Json.everywhere_of_forall (fun _ => trivial) j) h

theorem keys_toEntries (s : Schema) : (Entries.keys s.toEntries).Sublist keys := by
  rw [toEntries_eq]
  iterate 11 refine Json.keys_entry?_append ?_
  exact List.Sublist.slnil

theorem distinct_of_read {j : Json} {s : Schema} (hj : j.WellFormed) (h : readIn beside j = .ok s) :
    s.Distinct := by
  refine (readIn_drawn beside j hj s h).mono fun t ht properties hp => ?_
  obtain ⟨entries, hentries, hkeys⟩ := ht.keys properties hp
  unfold Entries.Distinct
  rw [hkeys]
  exact hentries.distinct entries rfl

theorem wellFormed_values_of_read {j : Json} {s : Schema} (hj : j.WellFormed)
    (h : readIn beside j = .ok s) : s.Everywhere (Lists fun v => v.toJson.WellFormed) := by
  refine everywhere_of_read (P := Json.Proper) nofun (fun hv hs hset => ?_) hj h
  exact lists_of_setPart (fun c hc v hread => EnumValue.wellFormed_toJson (hv.child hc).here hread) hs
    hset

theorem wellFormed_toJson {s : Schema} (hd : s.Distinct)
    (hv : s.Everywhere (Lists fun v => v.toJson.WellFormed)) : s.toJson.WellFormed := by
  induction s using Schema.induction with
  | step s ih =>
    have below (t : Schema) (ht : t ∈ s.children) : t.toJson.WellFormed :=
      ih t ht (hd.child ht) (hv.child ht)
    refine Json.wellFormed_object ((by decide : keys.Nodup).sublist s.keys_toEntries) ?_
    rw [toEntries_eq]
    refine Json.forall_entry?_append (fun r _ => Json.wellFormed_string r) ?_
    refine Json.forall_entry?_append (fun t _ => Json.wellFormed_string t) ?_
    refine Json.forall_entry?_append (fun f _ => Json.wellFormed_string f) ?_
    refine Json.forall_entry?_append (fun d _ => Json.wellFormed_string d) ?_
    refine Json.forall_entry?_append (fun ps hps => Json.wellFormed_object ?_ ?_) ?_
    · simpa [Entries.Distinct, Entries.keys, Function.comp_def] using hd.here ps hps
    · exact List.forall_mem_map.mpr fun p hp => below _ (property_mem_children hps hp)
    refine Json.forall_entry?_append (fun texts _ => Json.wellFormed_ofTexts texts) ?_
    refine Json.forall_entry?_append (fun t ht => below t (items_mem_children ht)) ?_
    refine Json.forall_entry?_append (fun a ha => ?_) ?_
    · cases a with
      | allowed any => exact Json.wellFormed_bool any
      | schema t => exact below t (additional_mem_children ha)
    refine Json.forall_entry?_append (fun vs hvs => Json.wellFormed_array ?_) ?_
    · exact List.forall_mem_map.mpr (hv.here vs hvs)
    refine Json.forall_entry?_append (fun ms hms => Json.wellFormed_array ?_) ?_
    · exact List.forall_mem_map.mpr fun m hm => below m (member_mem_children (by simpa [hms] using hm))
    exact Json.forall_entry?_append (fun d _ => Json.wellFormed_string d) (List.forall_mem_nil _)

end Schema

end SwaggerClient
