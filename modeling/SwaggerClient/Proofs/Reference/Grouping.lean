import SwaggerClient.Proofs.Reference.Flattening
import SwaggerClient.Proofs.Schema.Associativity

namespace SwaggerClient.Document

open Schema

variable {d : Document} {again : Continuation} {e : Expansion} {chain : List String}

theorem expandMembers_append (target : Schema) (members more : List Schema) :
    d.expandMembers again e chain target (members ++ more) =
      d.expandMembers again e chain target members >>= fun merged =>
        d.expandMembers again e chain merged more := by
  induction members generalizing target with
  | nil => rfl
  | cons member rest ih => simp only [List.cons_append, expandMembers_cons, bind_assoc, ih]

theorem expandMembers_inMembers (target : Schema) (members : List Schema) :
    d.expandMembers again e.inMembers chain target members =
      d.expandMembers again e chain target members := by
  induction members generalizing target with
  | nil => rfl
  | cons member rest ih =>
    rw [expandMembers_cons, expandMembers_cons]
    exact bind_congr fun expanded => ih _

/-- A schema that is nothing but a composition expands to its members, merged in order. -/
theorem expand_group (he : e.allOf = true) (group : List Schema) :
    d.expand again e.inMembers chain { allOf := some group } =
      d.expandMembers again e chain {} group := by
  have hown : e.inMembers.ownParts { allOf := some group } = {} := by
    simp [Expansion.ownParts, Expansion.inMembers, Expansion.keepsReference, Expansion.keepsAllOf, he]
  have hmembers : e.inMembers.members { allOf := some group } = group := by
    simp [Expansion.members, Expansion.inMembers, he]
  have hreplaces : e.inMembers.replaces { allOf := some group } = true := by
    simp [Expansion.replaces, Expansion.inMembers, he]
  have hfollows : e.inMembers.follows? none = none := rfl
  rw [expand_eq, hmembers, hown, hfollows, hreplaces, expandMembers_inMembers]
  simp

/-- Members may be merged with one another before they are merged over what comes before them, if none but the
last gives additional properties by a truth value. -/
theorem expandMembers_merge (target : Schema) {members : List Schema}
    (hd : ∀ m ∈ members, ∀ t, d.expand again e.inMembers chain m = .ok t → t.Distinct)
    (ht : ∀ m ∈ members.dropLast, ∀ t, d.expand again e.inMembers chain m = .ok t → t.NoTruthValues) :
    d.expandMembers again e chain target members =
      d.expandMembers again e chain {} members >>= fun merged => .ok (target.merge merged) := by
  induction members generalizing target with
  | nil => simp [expandMembers, ok_bind]
  | cons member rest ih =>
    have hdrest : ∀ m ∈ rest, ∀ t, d.expand again e.inMembers chain m = .ok t → t.Distinct :=
      fun m hm => hd m (List.mem_cons_of_mem _ hm)
    rw [expandMembers_cons, expandMembers_cons]
    cases hfirst : d.expand again e.inMembers chain member with
    | error error => rfl
    | ok first =>
      have hdistinct := hd member (by simp) first hfirst
      rw [ok_bind, ok_bind, empty_merge hdistinct.here]
      by_cases hrest : rest = []
      · subst hrest
        rfl
      · rw [List.dropLast_cons_of_ne_nil hrest] at ht
        have hvalues := ht member (by simp) first hfirst
        have htrest := fun m hm => ht m (List.mem_cons_of_mem _ hm)
        rw [ih (target.merge first) hdrest htrest, ih first hdrest htrest, bind_assoc]
        cases hmerged : d.expandMembers again e chain {} rest with
        | error error => rfl
        | ok merged =>
          obtain ⟨f, hf, rfl⟩ := of_expandMembers_eq_ok hmerged
          have hlast : ((rest.map f).foldl merge {}).Distinct :=
            everywhere_foldl_merge mergeable_keysDistinct.merge distinct_empty
              (List.forall_mem_map.mpr fun m hm => hdrest m hm _ (hf m hm))
          rw [ok_bind, ok_bind, ok_bind, merge_assoc target hdistinct hvalues hlast]

theorem expandMembers_group (he : e.allOf = true) (target : Schema) (before after : List Schema)
    {group : List Schema}
    (hd : ∀ m ∈ group, ∀ t, d.expand again e.inMembers chain m = .ok t → t.Distinct)
    (ht : ∀ m ∈ group.dropLast, ∀ t, d.expand again e.inMembers chain m = .ok t → t.NoTruthValues) :
    d.expandMembers again e chain target (before ++ { allOf := some group } :: after) =
      d.expandMembers again e chain target (before ++ group ++ after) := by
  simp only [expandMembers_append, expandMembers_cons, expand_group he, bind_assoc]
  refine bind_congr fun merged => ?_
  rw [expandMembers_merge merged hd ht, bind_assoc]
  rfl

theorem Expands.distinct {s t : Schema} (h : d.Expands e chain s t) (hs : s.Distinct) : t.Distinct :=
  h.everywhere mergeable_keysDistinct fun _ _ hu => hu.everywhere hs fun _ _ => lookupSchema_distinct

/-- A group among the members of a composition may be replaced by its members. -/
theorem resolve_group (he : e.allOf = true) {s : Schema} {before group after : List Schema}
    (hall : s.allOf = some (before ++ { allOf := some group } :: after)) (hs : s.Distinct)
    (ht : ∀ m ∈ group.dropLast, ∀ t, d.resolve e.inMembers m = .ok t → t.NoTruthValues) :
    d.resolve e s = d.resolve e { s with allOf := some (before ++ group ++ after) } := by
  have hexpands {room : Nat} {chain : List String} {m t : Schema}
      (h : d.expand (d.beyond room) e.inMembers chain m = .ok t) : d.Expands e.inMembers chain m t :=
    expands_of_resolveWithin (resolveWithin_eq d room ▸ h)
  have hgroup : ({ allOf := some group } : Schema).Distinct := hs.member (by simp [hall])
  refine resolve_congr fun room => ?_
  have hmembers (chain : List String) (target : Schema) :
      d.expandMembers (d.beyond room) e chain target (before ++ { allOf := some group } :: after) =
        d.expandMembers (d.beyond room) e chain target (before ++ group ++ after) := by
    refine expandMembers_group he target before after (fun m hm t h => ?_) fun m hm t h => ?_
    · exact (hexpands h).distinct (hgroup.member hm)
    · exact ht m hm t (resolve_eq_ok_iff.mpr ((hexpands h).mono (List.nil_subset _)))
  rw [resolveWithin_eq, expand_eq, expand_eq]
  simp only [Expansion.members, Expansion.ownParts, Expansion.keepsAllOf, Expansion.replaces, he, hall,
    Option.getD_some, Option.isSome_some, Bool.and_self, Bool.or_true, if_true, hmembers]

/-- Merging schemas is a monoid operation, but for additional properties that a truth value hides. The empty
schema is neutral. Merged from the left, the last of three schemas meets of the first what can be seen through
the one in the middle, so the grouping makes a difference exactly when that one hides something. A group in a
composition may be replaced by its members, as long as none of them but the last expands to a schema that gives
additional properties by a truth value. -/
theorem merge_grouping {a b c : Schema} (ha : a.Distinct) (hb : b.Distinct) (hc : c.Distinct) :
    a.merge {} = a ∧ Schema.merge {} a = a ∧
    (a.merge b).merge c = (a.seenThrough b).merge (b.merge c) ∧
    ((a.merge b).merge c = a.merge (b.merge c) ↔ ¬Hides a b c) ∧
    ∀ (d : Document) (e : Expansion) (before group after : List Schema), e.allOf = true →
      a.allOf = some (before ++ { allOf := some group } :: after) →
      (∀ m ∈ group.dropLast, ∀ t, d.resolve e.inMembers m = .ok t → t.NoTruthValues) →
      d.resolve e a = d.resolve e { a with allOf := some (before ++ group ++ after) } :=
  ⟨merge_empty a, empty_merge ha.here, merge_merge ha hb hc, merge_assoc_iff ha hb hc,
    fun _ _ _ _ _ he hall ht => resolve_group he hall ha ht⟩

def strings : Schema := { additional := some (.schema { type := some "string" }) }

def anything : Schema := { additional := some (.allowed true) }

def emails : Schema := { additional := some (.schema { format := some "email" }) }

def aged : Schema := { properties := some [("age", { type := some "integer" })] }

def label : Schema where
  properties := some [("tags", strings)]
  allOf := some [{ reference := some "#/definitions/Cat" }, { allOf := some [aged, anything] }]

theorem merge_grouping_label :
    (label.Distinct ∧ Schema.Distinct { properties := some [("tags", anything)] } ∧
      Schema.Distinct { properties := some [("tags", emails)] }) ∧
    Schema.merge {} label = label ∧
    (label.merge { properties := some [("tags", anything)] }).merge
        { properties := some [("tags", emails)] } ≠
      label.merge (Schema.merge { properties := some [("tags", anything)] }
        { properties := some [("tags", emails)] }) ∧
    animals.resolve (.full none) label = animals.resolve (.full none)
      { label with allOf := some [{ reference := some "#/definitions/Cat" }, aged, anything] } := by
  have hlabel : label.Distinct := by decide
  have hanything : Schema.Distinct { properties := some [("tags", anything)] } := by decide
  have hemails : Schema.Distinct { properties := some [("tags", emails)] } := by decide
  obtain ⟨-, hneutral, -, hassoc, hgroup⟩ := merge_grouping hlabel hanything hemails
  refine ⟨⟨hlabel, hanything, hemails⟩, hneutral, fun h => ?_, ?_⟩
  · have hides : Hides strings anything emails := .here rfl rfl rfl fun e => by
      cases congrArg Schema.type e
    have htags : label.property? "tags" = some strings := rfl
    exact hassoc.mp h (.property htags rfl rfl hides)
  · refine hgroup animals (.full none) [{ reference := some "#/definitions/Cat" }] [aged, anything] []
      rfl rfl fun m hm t ht => ?_
    obtain rfl : m = aged := by simpa using hm
    obtain rfl : aged = t := Except.ok.inj ht
    decide

/-- With a truth value between two schemas for additional properties the first of these is lost when merged from
the left, so a composition is not expanded as it is with its last two members in a group. -/
theorem merge_not_assoc :
    (strings.Distinct ∧ anything.Distinct ∧ emails.Distinct) ∧
    (strings.merge anything).merge emails ≠ strings.merge (anything.merge emails) ∧
    animals.resolve (.full none) { allOf := some [strings, anything, emails] } = .ok emails ∧
    animals.resolve (.full none) { allOf := some [strings, { allOf := some [anything, emails] }] } =
      .ok { additional := some (.schema { type := some "string", format := some "email" }) } := by
  refine ⟨by decide, fun h => ?_, rfl, rfl⟩
  cases congrArg Schema.additional h

end SwaggerClient.Document
