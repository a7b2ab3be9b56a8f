import SwaggerClient.Proofs.Model.Termination
import SwaggerClient.Proofs.Reference.Cycle

namespace SwaggerClient.ModelSynthesis

open Document

variable {x : ModelSynthesis} {c c' root : Call} {base full : Schema} {names : List String}

/-- The call itself finds a cycle: among the names under construction, or when it follows references. -/
inductive ReportsCycle (x : ModelSynthesis) (c : Call) : Prop
  | guarded {r : String} (reference : c.schema.reference = some r)
      (mem : x.target.rules.classNameOfReference r ∈ c.building)
  | base {names : List String}
      (fails : x.document.resolve .onlyReferences c.schema = .error (.cycle names))
  | full {names : List String} {base : Schema}
      (resolves : x.document.resolve .onlyReferences c.schema = .ok base)
      (fails : x.document.resolve (.full (superclassReference base)) base = .error (.cycle names))

theorem opens_or_reportsCycle {again : Step}
    (h : ask (x.step again) c = .error (.cycle names)) :
    (∃ base full, x.Opens c base full) ∨ x.ReportsCycle c := by
  cases x.starts c with
  | answered _ _ hgives =>
    rw [hgives] at h
    cases h
  | stopped hr hmem => exact .inr (.guarded hr hmem)
  | unresolved hfails hgives =>
    rw [hgives] at h
    obtain rfl := Except.error.inj h
    rcases hfails with hbase | ⟨base, hbase, hfull⟩
    · exact .inr (.base hbase)
    · exact .inr (.full hbase hfull)
  | @opens base full hopens => exact .inl ⟨base, full, hopens⟩

/-- The run of a call that fails with a cycle comes to a call that finds one. -/
theorem exists_reportsCycle {depth : Nat} (h : x.run depth c = .error (.cycle names)) :
    ∃ c', Relation.ReflTransGen x.Enters c c' ∧ x.ReportsCycle c' := by
  induction depth generalizing c with
  | zero => cases h
  | succ depth ih =>
    rcases opens_or_reportsCycle h with ⟨base, full, hopens⟩ | hreports
    · obtain ⟨before, c', after, hsplit, hbefore, hc'⟩ :=
        exists_of_failure ((run_succ_eq_error_iff hopens id).mp h)
      have henters : x.Enters c c' := by
        refine ⟨base, full, before, after, hopens, hsplit, fun b hb => ?_⟩
        obtain ⟨made, hmade⟩ := hbefore b hb
        exact ⟨made, depth, hmade⟩
      obtain ⟨c'', hreach, hreports⟩ := ih hc'
      exact ⟨c'', .head henters hreach, hreports⟩
    · exact ⟨c, .refl, hreports⟩

/-- The names under construction are those of objects that the run came to on its way. -/
theorem exists_isObject {name : String} (hreach : Relation.ReflTransGen x.Enters root c)
    (hname : name ∈ c.building) :
    name ∈ root.building ∨ ∃ o, Relation.ReflTransGen x.Enters root o ∧
      Relation.TransGen x.Enters o c ∧ x.IsObject o ∧ x.nameOf o = name := by
  induction hreach with
  | refl => exact .inl hname
  | @tail b c hreach henters ih =>
    have hcases : name ∈ b.building ∨ x.IsObject b ∧ x.nameOf b = name := by
      obtain ⟨base, full, hopens, hmem⟩ := henters.needs
      rcases mem_nested_iff.mp hmem with ⟨_, _, rfl⟩ | ⟨_, _, _, _, _, rfl⟩ |
        ⟨properties, hs, ⟨_, _, rfl⟩ | ⟨_, _, rfl⟩⟩
      · exact .inl hname
      · exact .inl hname
      all_goals
        rcases List.mem_cons.mp hname with rfl | hname
        · exact .inr ⟨⟨base, full, properties, hopens, hs⟩, rfl⟩
        · exact .inl hname
    rcases hcases with hold | ⟨hobject, hnew⟩
    · rcases ih hold with hroot | ⟨o, hbefore, hafter, ho⟩
      · exact .inl hroot
      · exact .inr ⟨o, hbefore, hafter.tail henters, ho⟩
    · exact .inr ⟨b, hreach, .single henters, hobject, hnew⟩

theorem referencesHave_of_needs {Q : String → Prop} (hQ : x.document.Closed Q)
    (hreach : Relation.ReflTransGen x.Needs c c') (hc : c.schema.ReferencesHave Q) :
    c'.schema.ReferencesHave Q := by
  induction hreach with
  | refl => exact hc
  | tail _ hneeds ih => exact hneeds.referencesHave hQ ih

/-- Every reference in the run of a call is one that its schema comes to. -/
theorem comesTo_of_enters {r : String} (hreach : Relation.ReflTransGen x.Enters c c')
    (hr : x.document.ComesTo c'.schema r) : x.document.ComesTo c.schema r := by
  have hneeds : Relation.ReflTransGen x.Needs c c' := hreach.lift id fun _ _ h => h.needs
  have hrefs := referencesHave_of_needs (closed_comesTo c.schema) hneeds
    (referencesHave_comesTo .refl)
  exact hr.of_closed (closed_comesTo c.schema) hrefs

theorem cyclic_of_enters (hreach : Relation.ReflTransGen x.Enters c c')
    (h : x.document.Cyclic c'.schema) : x.document.Cyclic c.schema := by
  obtain ⟨r, t, hr, hlook, hback⟩ := h
  exact ⟨r, t, comesTo_of_enters hreach hr, hlook, hback⟩

/-- The references in the run of a call whose schema has one itself come up from what this one leads to, or
from what stands beside it. -/
theorem comesTo_target_or_beside {r r' : String} (hr : c.schema.reference = some r)
    (hreach : Relation.TransGen x.Enters c c') (hr' : c'.schema.reference = some r') :
    ∃ target, x.document.lookupSchema r = .ok target ∧
      (x.document.ComesTo target r' ∨ ∃ m ∈ c.schema.children, x.document.ComesTo m r') := by
  obtain ⟨next, henters, hrest⟩ := Relation.TransGen.head'_iff.mp hreach
  obtain ⟨base, full, hopens, hmem⟩ := henters.needs
  have hfollows : Expansion.onlyReferences.follows? c.schema.reference = some r := by
    rw [hr]
    rfl
  cases expands_of_resolve hopens.resolvesBase with
  | unchanged hf => simp [hfollows] at hf
  | members _ hf => simp [hfollows] at hf
  | @follow _ _ _ target _ r₀ f hf _ hlook _ hbase =>
    obtain rfl : r = r₀ := Option.some.inj (hfollows.symm.trans hf)
    refine ⟨target, hlook, ?_⟩
    -- references are followed alone, so the target is merged with the parts beside the reference
    let Q := fun q => x.document.ComesTo target q ∨ ∃ m ∈ c.schema.children, x.document.ComesTo m q
    have hQ : x.document.Closed Q := by
      rintro q t (hq | ⟨m, hm, hq⟩) hlook
      · exact (closed_comesTo target q t hq hlook).mono fun _ hu p hp => .inl (hu p hp)
      · exact (closed_comesTo m q t hq hlook).mono fun _ hu p hp => .inr ⟨m, hm, hu p hp⟩
    have htarget : target.ReferencesHave Q :=
      (referencesHave_comesTo .refl).mono fun _ hu p hp => .inl (hu p hp)
    have hown : (Expansion.onlyReferences.ownParts c.schema).ReferencesHave Q := by
      refine .intro _ (fun q hq => ?_) fun m hm => ?_
      · rw [ownParts_reference rfl] at hq
        cases hq
      · have hm' := ownParts_children_subset _ _ hm
        exact (referencesHave_comesTo .refl).mono fun _ hu p hp => .inr ⟨m, hm', hu p hp⟩
    have hmerged := Schema.everywhere_merge (mergeable_referenceHas Q).merge htarget hown
    have hnext := hopens.referencesHave hQ (hbase.referencesHave hQ hmerged) hmem
    have hneeds : Relation.ReflTransGen x.Needs next c' := hrest.lift id fun _ _ h => h.needs
    exact (referencesHave_of_needs hQ hneeds hnext).here r' hr'

/-- In the run of a call an object bears the class name of a reference that comes up in its own run, and
neither is that reference its own nor does its own lead to the same schema. -/
def NamesClash (x : ModelSynthesis) (root : Call) : Prop :=
  ∃ c c' r, Relation.ReflTransGen x.Enters root c ∧ Relation.TransGen x.Enters c c' ∧
    x.IsObject c ∧ c'.schema.reference = some r ∧
      x.nameOf c = x.target.rules.classNameOfReference r ∧
        ∀ r', c.schema.reference = some r' →
          x.document.lookupSchema r ≠ x.document.lookupSchema r'

theorem cyclic_or_beside (hreach : Relation.ReflTransGen x.Enters root c)
    (h : x.document.Cyclic c.schema ∨ x.document.Beside c.schema) :
    x.document.Cyclic root.schema ∨
      (∃ c, Relation.ReflTransGen x.Enters root c ∧ x.document.Beside c.schema) ∨
        x.NamesClash root := by
  rcases h with hcyclic | hbeside
  · exact .inl (cyclic_of_enters hreach hcyclic)
  · exact .inr (.inl ⟨c, hreach, hbeside⟩)

/-- A cycle is reported for a reference that leads back to itself, for one beside which something comes to
it again, or because names clash. -/
theorem cycle_report {s : Schema} {name : String} (h : x.fromSchema s name = .error (.cycle names)) :
    x.document.Cyclic s ∨
      (∃ c, Relation.ReflTransGen x.Enters ⟨[], s, name⟩ c ∧ x.document.Beside c.schema) ∨
        x.NamesClash ⟨[], s, name⟩ := by
  obtain ⟨c, hreach, hreports⟩ := exists_reportsCycle (c := ⟨[], s, name⟩) h
  cases hreports with
  | base hfails => exact cyclic_or_beside hreach (resolve_cycle hfails)
  | full hbase hfails => exact cyclic_or_beside hreach (resolve_base_cycle hbase hfails)
  | @guarded r hr hmem =>
    rcases exists_isObject hreach hmem with hroot | ⟨o, hbefore, hafter, hobject, hname⟩
    · cases hroot
    by_cases hsame : ∃ r', o.schema.reference = some r' ∧
        x.document.lookupSchema r = x.document.lookupSchema r'
    · obtain ⟨r', hr', hlook⟩ := hsame
      apply cyclic_or_beside hbefore
      obtain ⟨target, htarget, hback | ⟨m, hm, hback⟩⟩ := comesTo_target_or_beside hr' hafter hr
      · have hcomes : x.document.ComesTo o.schema r :=
          hback.of_leads (.single (.inr ⟨r', hr', htarget⟩))
        exact .inl ⟨r, target, hcomes, hlook.trans htarget, hback⟩
      · exact .inr ⟨o.schema, r', .refl, hr', m, hm, r, hback, hlook⟩
    · refine .inr (.inr ⟨o, c, r, hbefore, hafter, hobject, hr, hname, fun r' hr' hlook => ?_⟩)
      exact hsame ⟨r', hr', hlook⟩

def ownersJson : Json :=
  .object [
    ("paths", .object []),
    ("definitions", .object [
      ("Owner", .object [("properties", .object [
        ("pet", .object [("$ref", .string "#/definitions/Pet")])])]),
      ("Pet", .object [("properties", .object [
        ("owner", .object [("$ref", .string "#/definitions/Owner")])])])])]

/-- A document in which owners have pets, and pets have owners. -/
def owners : Document where
  raw := ownersJson.settle
  contents := {
    definitions := [
      ("Owner", { properties := some [("pet", { reference := some "#/definitions/Pet" })] }),
      ("Pet", { properties := some [("owner", { reference := some "#/definitions/Owner" })] })] }
  reads := rfl
  distinct := ownersJson.settle_distinct

def ownerModels : ModelSynthesis := ⟨owners, Language.swift.target ⟨[]⟩, false⟩

theorem cycle_report_owner :
    let owner : Schema := { reference := some "#/definitions/Owner" }
    ownerModels.fromSchema owner "" = .error (.cycle ["Owner", "Pet", "Owner"]) ∧
      (owners.Cyclic owner ∨
        (∃ c, Relation.ReflTransGen ownerModels.Enters ⟨[], owner, ""⟩ c ∧ owners.Beside c.schema) ∨
          ownerModels.NamesClash ⟨[], owner, ""⟩) :=
  ⟨rfl, cycle_report (x := ownerModels) rfl⟩

def ordersJson : Json :=
  .object [
    ("paths", .object []),
    ("definitions", .object [
      ("Order", .object [("properties", .object [
        ("item", .object [("properties", .object [
          ("maker", .object [("$ref", .string "#/definitions/Maker")])])])])]),
      ("Maker", .object [("properties", .object [
        ("best", .object [("$ref", .string "#/definitions/Item")])])]),
      ("Item", .object [("properties", .object [("id", .object [("type", .string "string")])])])])]

def orderedItem : Schema :=
  { properties := some [("maker", { reference := some "#/definitions/Maker" })] }

def order : Schema := { properties := some [("item", orderedItem)] }

def maker : Schema := { properties := some [("best", { reference := some "#/definitions/Item" })] }

def item : Schema := { properties := some [("id", { type := some "string" })] }

/-- A document in which an order declares its item in place, and another item is defined. -/
def orders : Document where
  raw := ordersJson.settle
  contents := { definitions := [("Order", order), ("Maker", maker), ("Item", item)] }
  reads := rfl
  distinct := ordersJson.settle_distinct

def orderModels : ModelSynthesis := ⟨orders, Language.swift.target ⟨[]⟩, false⟩

def orderRank (r : String) : Nat :=
  if r = "#/definitions/Item" then 0 else if r = "#/definitions/Maker" then 1 else 2

theorem order_not_cyclic : ¬orders.Cyclic { reference := some "#/definitions/Order" } := by
  let Q := fun r => r ∈ ["#/definitions/Order", "#/definitions/Maker", "#/definitions/Item"]
  apply not_cyclic_of_rank (Q := Q) orderRank
  · exact Schema.referencesHave_reference (by decide)
  · intro r t hr hlook
    have hcases : r = "#/definitions/Order" ∨ r = "#/definitions/Maker" ∨ r = "#/definitions/Item" := by
      simpa [Q] using hr
    rcases hcases with rfl | rfl | rfl
    · obtain rfl : order = t := Except.ok.inj hlook
      have hmaker : Q "#/definitions/Maker" ∧
          orderRank "#/definitions/Maker" < orderRank "#/definitions/Order" := by decide
      refine Schema.referencesHave_properties (List.forall_mem_singleton.mpr ?_)
      refine Schema.referencesHave_properties (List.forall_mem_singleton.mpr ?_)
      exact Schema.referencesHave_reference hmaker
    · obtain rfl : maker = t := Except.ok.inj hlook
      have hitem : Q "#/definitions/Item" ∧
          orderRank "#/definitions/Item" < orderRank "#/definitions/Maker" := by decide
      refine Schema.referencesHave_properties (List.forall_mem_singleton.mpr ?_)
      exact Schema.referencesHave_reference hitem
    · obtain rfl : item = t := Except.ok.inj hlook
      refine Schema.referencesHave_properties (List.forall_mem_singleton.mpr ?_)
      exact .intro _ nofun (by simp [Schema.children])

/-- The item of an order has the class name of the item that a maker refers to, and no reference leads back
to itself. -/
theorem cycle_report_order :
    orderModels.fromSchema { reference := some "#/definitions/Order" } "" =
        .error (.cycle ["Item", "Maker", "Item"]) ∧
      ¬orders.Cyclic { reference := some "#/definitions/Order" } :=
  ⟨rfl, order_not_cyclic⟩

end SwaggerClient.ModelSynthesis
