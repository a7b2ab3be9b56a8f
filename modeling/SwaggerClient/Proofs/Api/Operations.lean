import Mathlib.Data.List.Nodup
import SwaggerClient.Language.Builtin
import SwaggerClient.Proofs.Api.Gathering
import SwaggerClient.Proofs.Document.Change

namespace SwaggerClient

variable {α : Type}

theorem filter_mergeSort {le : α → α → Bool} (trans : ∀ a b c, le a b → le b c → le a c)
    (total : ∀ a b, le a b || le b a) {p : α → Bool} (h : ∀ a b, p a → p b → le a b) (list : List α) :
    (list.mergeSort le).filter p = list.filter p := by
  have hsorted : (list.filter p).Pairwise fun a b => le a b := by
    refine List.Pairwise.imp_of_mem (fun ha hb _ => ?_) (List.pairwise_of_forall fun _ _ => trivial)
    exact h _ _ (List.mem_filter.mp ha).2 (List.mem_filter.mp hb).2
  have hsub : (list.filter p).Sublist ((list.mergeSort le).filter p) := by
    have := (List.sublist_mergeSort trans total hsorted List.filter_sublist).filter p
    rwa [List.filter_filter, List.filter_congr fun a _ => Bool.and_self (p a)] at this
  exact (hsub.eq_of_length ((List.mergeSort_perm list le).filter p).length_eq.symm).symm

namespace Document

theorem distinct_of_setPaths {key : String} {value : Json} {contents after : Contents}
    (hv : value.Distinct) (hc : Entries.Distinct contents.paths)
    (h : Contents.record.set key value contents = .ok after) : Entries.Distinct after.paths := by
  simp only [Contents.record] at h
  split at h
  case h_1 =>
    obtain ⟨paths, hpaths, h⟩ := bind_eq_ok.mp h
    obtain rfl := Except.ok.inj h
    cases value with
    | object entries =>
      exact (congrArg List.Nodup (Reader.keys_of_entries hpaths)).mpr (hv.here entries rfl)
    | null | bool | number | string | array => cases hpaths
  case h_5 => exact Except.ok.inj h ▸ hc
  all_goals
    obtain ⟨_, _, h⟩ := bind_eq_ok.mp h
    obtain rfl := Except.ok.inj h
    exact hc

/-- No path of a document has two items. -/
theorem paths_distinct (d : Document) : Entries.Distinct d.contents.paths := by
  refine Record.read_invariant (P := Json.Distinct) (I := fun c => Entries.Distinct c.paths) ?_ ?_ ?_
    d.reads
  · exact fun _ _ _ _ => distinct_of_setPaths
  · exact List.nodup_nil
  · exact fun c hc => d.distinct.child hc

end Document

namespace MethodSynthesis

variable {x : MethodSynthesis} {d : Document}

theorem mem_item_operations {item : PathItem} {method : HttpMethod} {op : Operation} :
    (method, op) ∈ item.operations ↔ item.operation? method = some op := by
  have hall : method ∈ HttpMethod.all := by cases method <;> decide
  simp only [PathItem.operations, List.mem_filterMap, Option.map_eq_some_iff]
  constructor
  · rintro ⟨_, _, _, hop, e⟩
    obtain ⟨rfl, rfl⟩ := Prod.mk.inj e
    exact hop
  · exact fun h => ⟨method, hall, op, h, rfl⟩

theorem mem_operations {path : String} {item : PathItem} {method : HttpMethod} {op : Operation} :
    (path, item, method, op) ∈ operations d ↔
      (path, item) ∈ d.contents.paths ∧ item.operation? method = some op := by
  simp only [operations, List.mem_flatMap, List.mem_map, ← mem_item_operations]
  constructor
  · rintro ⟨_, hpath, _, hop, e⟩
    cases e
    exact ⟨hpath, hop⟩
  · exact fun ⟨hpath, hop⟩ => ⟨(path, item), hpath, (method, op), hop, rfl⟩

/-- The paths with the verbs that each of them declares. -/
def verbs (d : Document) : List (String × HttpMethod) :=
  (operations d).map fun (path, _, method, _) => (path, method)

theorem verbs_of_item_sublist (item : PathItem) :
    (item.operations.map (·.1)).Sublist HttpMethod.all := by
  unfold PathItem.operations
  induction HttpMethod.all with
  | nil => exact .slnil
  | cons method rest ih =>
    cases hop : item.operation? method with
    | none => simpa [hop] using ih.cons method
    | some op => simpa [hop] using ih.cons_cons method

/-- They come in the order of the document and, at one path, in the order of all verbs. -/
theorem verbs_sublist (d : Document) :
    (verbs d).Sublist (Entries.keys d.contents.paths ×ˢ HttpMethod.all) := by
  unfold verbs operations
  induction d.contents.paths with
  | nil => exact .slnil
  | cons entry rest ih =>
    obtain ⟨path, item⟩ := entry
    have hitem := (verbs_of_item_sublist item).map fun method => (path, method)
    rw [List.flatMap_cons, List.map_append]
    refine List.Sublist.append ?_ ih
    simpa [Function.comp_def] using hitem

theorem nodup_verbs (d : Document) : (verbs d).Nodup :=
  (List.Nodup.product d.paths_distinct (by decide)).sublist (verbs_sublist d)

theorem follow_parameter {p : Parameter} (h : p.reference = none) : d.follow .parameter p = .ok p := by
  have hnone : Referable.parameter.reference? p = none := h
  simp only [Document.follow, Document.followWithin, hnone]

/-- The parameter is made from one that is declared, perhaps by a reference. -/
def ParamFor (x : MethodSynthesis) (methodName : String) (declared : Parameter) (param : Param) : Prop :=
  ∃ models, x.declaredParam methodName declared = .ok (param, models)

/-- The method stands for an operation. -/
structure MethodFor (x : MethodSynthesis) (path : String) (item : PathItem) (httpMethod : HttpMethod)
    (op : Operation) (method : Method) : Prop where
  path_eq : method.path = x.methodPath path
  verb_eq : method.httpMethod = httpMethod
  name_eq : method.name = x.methodName path httpMethod op
  params_made : List.Forall₂ (x.ParamFor method.name)
    (item.parameters.getD [] ++ op.parameters.getD []) method.params

/-- The parameter keeps the name, the place and the requirement of the one at the end of the references. -/
theorem ParamFor.kept {methodName : String} {declared : Parameter} {param : Param}
    (h : x.ParamFor methodName declared param) :
    ∃ p, x.document.follow .parameter declared = .ok p ∧ param.serverName = p.name ∧
      param.location = p.location ∧ param.isRequired = p.required := by
  obtain ⟨_, h⟩ := h
  obtain ⟨p, hp, h⟩ := bind_eq_ok.mp h
  obtain ⟨_, _, h⟩ := bind_eq_ok.mp h
  obtain ⟨rfl, _⟩ := Prod.mk.inj (Except.ok.inj h)
  exact ⟨p, hp, rfl, rfl, rfl⟩

/-- Where none of them is a reference, the parameters have the declared names. -/
theorem serverNames_eq {methodName : String} {declared : List Parameter} {params : List Param}
    (h : List.Forall₂ (x.ParamFor methodName) declared params)
    (hplain : ∀ p ∈ declared, p.reference = none) :
    params.map (·.serverName) = declared.map (·.name) := by
  induction h with
  | nil => rfl
  | cons hfirst _ ih =>
    obtain ⟨hreference, hplain⟩ := List.forall_mem_cons.mp hplain
    obtain ⟨p, hp, hname, _⟩ := hfirst.kept
    obtain rfl := Except.ok.inj ((follow_parameter hreference).symm.trans hp)
    rw [List.map_cons, List.map_cons, hname, ih hplain]

theorem params_forall₂ {methodName : String} {declared : List Parameter} {made : List Param × List Model}
    (h : x.params methodName declared = .ok made) :
    List.Forall₂ (x.ParamFor methodName) declared made.1 := by
  rw [params_eq] at h
  obtain ⟨each, heach, rfl⟩ := map_eq_ok.mp h
  refine List.forall₂_map_right_iff.mpr ((mapM_eq_ok.mp heach).imp fun declared made hmade => ?_)
  exact ⟨made.2, hmade⟩

theorem methodFor_of_methodOf {o : String × PathItem × HttpMethod × Operation}
    {made : Method × List Model} (h : x.methodOf o = .ok made) :
    x.MethodFor o.1 o.2.1 o.2.2.1 o.2.2.2 made.1 := by
  obtain ⟨params, declared, response, hparams, _, _, rfl⟩ := method_eq_ok.mp h
  exact ⟨rfl, rfl, rfl, params_forall₂ hparams⟩

theorem methods_forall₂ {operations : List (String × PathItem × HttpMethod × Operation)}
    {made : List Method × List Model} (h : x.methods operations = .ok made) :
    List.Forall₂ (fun o => x.MethodFor o.1 o.2.1 o.2.2.1 o.2.2.2) operations made.1 := by
  rw [methods_eq] at h
  obtain ⟨each, heach, rfl⟩ := map_eq_ok.mp h
  exact List.forall₂_map_right_iff.mpr ((mapM_eq_ok.mp heach).imp fun _ _ => methodFor_of_methodOf)

theorem path_trans (a b c : Method) (hab : decide (a.path ≤ b.path)) (hbc : decide (b.path ≤ c.path)) :
    decide (a.path ≤ c.path) :=
  decide_eq_true (String.le_trans (of_decide_eq_true hab) (of_decide_eq_true hbc))

theorem path_total (a b : Method) : decide (a.path ≤ b.path) || decide (b.path ≤ a.path) := by
  simpa using String.le_total a.path b.path

theorem synthesize_eq_ok {raw : RawApi} (h : x.synthesize = .ok raw) :
    ∃ made, x.methods (operations x.document) = .ok made ∧
      raw.methods = made.1.mergeSort fun a b => a.path ≤ b.path := by
  obtain ⟨made, hmade, h⟩ := bind_eq_ok.mp h
  obtain ⟨_, _, h⟩ := bind_eq_ok.mp h
  obtain rfl := Except.ok.inj h
  exact ⟨made, hmade, rfl⟩

theorem synthesize_sorted {raw : RawApi} (h : x.synthesize = .ok raw) :
    raw.methods.Pairwise fun a b => a.path ≤ b.path := by
  obtain ⟨made, _, hraw⟩ := synthesize_eq_ok h
  rw [hraw]
  exact (List.pairwise_mergeSort path_trans path_total made.1).imp of_decide_eq_true

/-- Every operation of the document has one method, with a parameter for each of those that it declares after
those of its path. The methods are sorted by their paths; those with one path come in the order of the
document and, at one path of it, in the order of all verbs. -/
theorem synthesize_methods {raw : RawApi} (h : x.synthesize = .ok raw) :
    (∀ path item method op, (path, item, method, op) ∈ operations x.document ↔
      (path, item) ∈ x.document.contents.paths ∧ item.operation? method = some op) ∧
    (verbs x.document).Nodup ∧
    (verbs x.document).Sublist (Entries.keys x.document.contents.paths ×ˢ HttpMethod.all) ∧
    ∃ made : List Method,
      List.Forall₂ (fun (path, item, method, op) => x.MethodFor path item method op)
        (operations x.document) made ∧
      raw.methods.Perm made ∧
      raw.methods.Pairwise (fun a b => a.path ≤ b.path) ∧
      ∀ path, raw.methods.filter (fun m => m.path = path) = made.filter (fun m => m.path = path) := by
  obtain ⟨made, hmade, hraw⟩ := synthesize_eq_ok h
  refine ⟨fun _ _ _ _ => mem_operations, nodup_verbs _, verbs_sublist _, made.1, methods_forall₂ hmade,
    ?_, synthesize_sorted h, fun path => ?_⟩
  · rw [hraw]
    exact List.mergeSort_perm made.1 _
  · rw [hraw]
    refine filter_mergeSort path_trans path_total (fun a b ha hb => ?_) made.1
    rw [of_decide_eq_true ha, of_decide_eq_true hb]
    simp

def answersJson : String × Json :=
  ("responses", .object [("200", .object [])])

def queryJson (name : String) : String × Json :=
  ("parameters", .array [.object [("name", .string name), ("in", .string "query"),
    ("type", .string "string")]])

def queryParameter (name : String) : Parameter :=
  { name, location := some .query, beside := { type := some "string" } }

def emptyAnswer : Operation :=
  { responses := [("200", {})] }

/-- A document with paths out of order, two of which are one to a client. -/
def depot : Document where
  raw := (Json.object [
    ("paths", .object [
      ("/vans", .object [("get", .object [answersJson])]),
      ("/loads/", .object [
        queryJson "id",
        ("post", .object [answersJson, queryJson "day"]),
        ("get", .object [answersJson])]),
      ("/loads", .object [("delete", .object [answersJson])])]),
    ("definitions", .object [])]).settle
  contents := {
    paths := [
      ("/vans", PathItem.withOperation {} .get emptyAnswer),
      ("/loads/",
        (PathItem.withOperation { parameters := some [queryParameter "id"] } .post
          (some { emptyAnswer with parameters := some [queryParameter "day"] })).withOperation .get
          emptyAnswer),
      ("/loads", PathItem.withOperation {} .delete emptyAnswer)] }
  reads := rfl
  distinct := Json.settle_distinct _

def depotMethods : MethodSynthesis :=
  ⟨depot, Language.swift.target ⟨[]⟩, {}, none⟩

theorem synthesize_methods_depot :
    ∃ raw, depotMethods.synthesize = .ok raw ∧
      (raw.methods.filter fun m => m.path = "/loads").map
          (fun m => (m.httpMethod, m.params.map (·.serverName))) =
        [(.get, [some "id"]), (.post, [some "id", some "day"]), (.delete, [])] := by
  obtain ⟨raw, hraw⟩ : ∃ raw, depotMethods.synthesize = .ok raw := ⟨_, rfl⟩
  obtain ⟨_, _, _, made, hmade, _, _, hequal⟩ := synthesize_methods hraw
  refine ⟨raw, hraw, ?_⟩
  rw [hequal]
  obtain _ | ⟨hvans, _ | ⟨hget, _ | ⟨hpost, _ | ⟨hdelete, _ | _⟩⟩⟩⟩ := hmade
  have hv : depotMethods.methodPath "/vans" = "/vans" := by decide
  have hl : depotMethods.methodPath "/loads/" = "/loads" := by decide
  have hl' : depotMethods.methodPath "/loads" = "/loads" := by decide
  have hgetNames := serverNames_eq hget.params_made (by decide)
  have hpostNames := serverNames_eq hpost.params_made (by decide)
  have hdeleteNames := serverNames_eq hdelete.params_made (by decide)
  simp [hvans.path_eq, hget.path_eq, hpost.path_eq, hdelete.path_eq, hv, hl, hl', hget.verb_eq,
    hpost.verb_eq, hdelete.verb_eq, hgetNames, hpostNames, hdeleteNames, emptyAnswer, queryParameter,
    PathItem.withOperation]

end MethodSynthesis

end SwaggerClient
