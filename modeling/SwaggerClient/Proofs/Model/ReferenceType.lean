import SwaggerClient.Proofs.Model.Termination

namespace SwaggerClient.ModelSynthesis

variable {x : ModelSynthesis} {c c' root : Call} {base full : Schema} {again again' : Step}

/-- Only the type of an array depends on a nested call. -/
theorem fromFull_type {building building' : List String} {name specName specName' : String}
    {superclass superclass' : Option String} {made made' : Synthesized}
    (h : x.fromFull again building name specName superclass full = .ok made)
    (h' : x.fromFull again' building' name specName' superclass' full = .ok made')
    (hitems : ∀ items inner inner', full.shape = .array (some items) →
      again building items name = .ok inner → again' building' items name = .ok inner' →
        inner.type = inner'.type) : made.type = made'.type := by
  cases hs : full.shape with
  | enumeration type values =>
    simp only [fromFull, hs] at h h'
    obtain ⟨_, _, h⟩ := bind_eq_ok.mp h
    obtain ⟨_, _, h'⟩ := bind_eq_ok.mp h'
    rw [← Except.ok.inj h, ← Except.ok.inj h']
  | array items =>
    cases items with
    | none => simp [fromFull, hs] at h
    | some items =>
      rw [fromFull_array hs] at h h'
      obtain ⟨inner, hinner, h⟩ := bind_eq_ok.mp h
      obtain ⟨inner', hinner', h'⟩ := bind_eq_ok.mp h'
      have htype := hitems items inner inner' hs hinner hinner'
      obtain ⟨arrayName, harray, h⟩ := bind_eq_ok.mp h
      obtain ⟨arrayName', harray', h'⟩ := bind_eq_ok.mp h'
      rw [htype, harray'] at harray
      obtain rfl := Except.ok.inj harray
      rw [← Except.ok.inj h, ← Except.ok.inj h', htype]
  | object properties =>
    rw [fromFull_properties hs] at h h'
    obtain ⟨_, _, h⟩ := bind_eq_ok.mp h
    obtain ⟨_, _, h'⟩ := bind_eq_ok.mp h'
    rw [← Except.ok.inj h, ← Except.ok.inj h']
  | primitive type format =>
    obtain ⟨_, h⟩ := fromFull_primitive hs h
    obtain ⟨_, h'⟩ := fromFull_primitive hs h'
    obtain ⟨typeName, hname, h⟩ := bind_eq_ok.mp h
    obtain ⟨typeName', hname', h'⟩ := bind_eq_ok.mp h'
    obtain rfl := Except.ok.inj (hname.symm.trans hname')
    rw [← Except.ok.inj h, ← Except.ok.inj h']

/-- A call for the schema makes an array of the items. -/
def HoldsItems (x : ModelSynthesis) (s items : Schema) : Prop :=
  ∃ base full, x.opened s = some (base, full) ∧ full.shape = .array (some items)

/-- The schema, or one that stands in it as the items of arrays, has a reference whose class name is that of
the innermost object under construction, though by itself it stands for another type. -/
def Shadowed (x : ModelSynthesis) (building : List String) (s : Schema) : Prop :=
  ∃ t r other, Relation.ReflTransGen x.HoldsItems s t ∧ t.reference = some r ∧
    building.head? = some (x.target.rules.classNameOfReference r) ∧
      x.Yields ⟨[], t, ""⟩ other ∧ other.type ≠ ⟨x.target.rules.classNameOfReference r, none⟩

/-- A call that yields something is answered by the innermost object under construction, or opens its
schema. -/
theorem Yields.answered_or_opens {made : Synthesized} (h : x.Yields c made) :
    (∃ r, c.schema.reference = some r ∧
        c.building.head? = some (x.target.rules.classNameOfReference r) ∧
          made.type = ⟨x.target.rules.classNameOfReference r, none⟩) ∨
      ∃ base full, x.Opens c base full := by
  obtain ⟨depth, hrun⟩ := h.run_succ
  have hstep : ask (x.step (x.within depth)) c = .ok made := hrun
  cases x.starts c with
  | answered hr hlast hgives =>
    rw [hgives] at hstep
    obtain rfl := Except.ok.inj hstep
    exact .inl ⟨_, hr, hlast, rfl⟩
  | stopped _ _ hgives =>
    rw [hgives] at hstep
    cases hstep
  | unresolved _ hgives =>
    rw [hgives] at hstep
    cases hstep
  | @opens base full hopens => exact .inr ⟨base, full, hopens⟩

theorem Yields.opens_of_nil {s : Schema} {name : String} {made : Synthesized}
    (h : x.Yields ⟨[], s, name⟩ made) : ∃ base full, x.Opens ⟨[], s, name⟩ base full := by
  rcases h.answered_or_opens with ⟨_, _, hlast, _⟩ | hopens
  · cases hlast
  · exact hopens

/-- The types of two calls for one schema and one name, the first with no objects under construction. -/
theorem type_eq_or_shadowed_of_run {depth : Nat} {building : List String} {s : Schema}
    {name : String} {first here : Synthesized} (hfirst : x.run depth ⟨[], s, name⟩ = .ok first)
    (hhere : x.Yields ⟨building, s, name⟩ here) :
    here.type = first.type ∨ x.Shadowed building s := by
  induction depth generalizing s name first here with
  | zero => cases hfirst
  | succ depth ih =>
    have hyields : x.Yields ⟨[], s, name⟩ first := ⟨_, hfirst⟩
    obtain ⟨base, full, hopens⟩ := hyields.opens_of_nil
    rcases hhere.answered_or_opens with ⟨r, hr, hlast, htype⟩ | ⟨base', full', hopens'⟩
    · by_cases hsame : first.type = ⟨x.target.rules.classNameOfReference r, none⟩
      · exact .inl (htype.trans hsame.symm)
      · have hsome : s.reference.isSome := Option.isSome_iff_exists.mpr ⟨r, hr⟩
        exact .inr ⟨s, r, first, .refl, hr, hlast, hyields.of_reference hsome "", hsame⟩
    · obtain rfl := Except.ok.inj (hopens.resolvesBase.symm.trans hopens'.resolvesBase)
      obtain rfl := Except.ok.inj (hopens.resolvesFull.symm.trans hopens'.resolvesFull)
      obtain ⟨depth', hrun⟩ := hhere.run_succ
      rw [run_succ_of_opens hopens] at hfirst
      rw [run_succ_of_opens hopens'] at hrun
      by_cases hshadowed : x.Shadowed building s
      · exact .inr hshadowed
      refine .inl (fromFull_type hrun hfirst fun items inner inner' hs hinner hinner' => ?_)
      -- the items of an array have the type that they have by themselves, or shadow the array
      have hfirst' : x.run depth ⟨[], items, x.modelName s name⟩ = .ok inner' := hinner'
      have hhere' : x.Yields ⟨building, items, x.modelName s name⟩ inner := ⟨depth', hinner⟩
      rcases ih hfirst' hhere' with htype | ⟨t, r, other, hitems, ht⟩
      · exact htype
      · have hhead : x.HoldsItems s items := ⟨base, full, hopens.opened_eq, hs⟩
        exact absurd ⟨t, r, other, .head hhead hitems, ht⟩ hshadowed

/-- In a run that succeeds, a schema with a reference has the type that it has by itself, whatever the
default name, wherever no object under construction shadows it. -/
theorem reference_type {made first : Synthesized} {name : String} (hroot : x.Yields root made)
    (hreach : Relation.ReflTransGen x.Needs root c) (hr : c.schema.reference.isSome)
    (hfirst : x.fromSchema c.schema name = .ok first) :
    ∃ here, x.Yields c here ∧ (here.type = first.type ∨ x.Shadowed c.building c.schema) := by
  obtain ⟨here, hhere, _⟩ := hroot.reaches hreach
  have hcall : x.Yields ⟨c.building, c.schema, c.defaultName⟩ here := hhere
  exact ⟨here, hhere, type_eq_or_shadowed_of_run hfirst (hcall.of_reference hr name)⟩

def taggedJson : Json :=
  .object [
    ("paths", .object []),
    ("definitions", .object [
      ("Tags", .object [
        ("type", .string "array"), ("items", .object [("type", .string "string")])]),
      ("Pet", .object [("properties", .object [
        ("tags", .object [("properties", .object [
          ("all", .object [("$ref", .string "#/definitions/Tags")])])]),
        ("more", .object [("$ref", .string "#/definitions/Tags")])])])])]

def tagList : Schema := { type := some "array", items := some { type := some "string" } }

def tagReference : Schema := { reference := some "#/definitions/Tags" }

def petTags : Schema := { properties := some [("all", tagReference)] }

def taggedPet : Schema := { properties := some [("tags", petTags), ("more", tagReference)] }

/-- A document with a list of tags, and a pet with tags that are an object declared in place. -/
def tagged : Document where
  raw := taggedJson.settle
  contents := { definitions := [("Tags", tagList), ("Pet", taggedPet)] }
  reads := rfl
  distinct := taggedJson.settle_distinct

def tagModels : ModelSynthesis := ⟨tagged, Language.swift.target ⟨[]⟩, false⟩

def petCall : Call := ⟨[], taggedPet, "Pet"⟩

def tagsCall : Call := ⟨["Pet"], petTags, "Tags"⟩

def moreCall : Call := ⟨["Pet"], tagReference, "PetMore"⟩

def allCall : Call := ⟨["Tags", "Pet"], tagReference, "TagsAll"⟩

theorem petCall_opens : tagModels.Opens petCall taggedPet taggedPet :=
  ⟨nofun, rfl, rfl⟩

theorem petCall_needs_tagsCall : tagModels.Needs petCall tagsCall :=
  ⟨taggedPet, taggedPet, petCall_opens, List.mem_cons.mpr (.inl rfl)⟩

theorem petCall_needs_moreCall : tagModels.Needs petCall moreCall :=
  ⟨taggedPet, taggedPet, petCall_opens, List.mem_cons.mpr (.inr (List.mem_singleton.mpr rfl))⟩

theorem tagsCall_needs_allCall : tagModels.Needs tagsCall allCall :=
  ⟨petTags, petTags, ⟨nofun, rfl, rfl⟩, List.mem_singleton.mpr rfl⟩

theorem reference_type_more :
    (∃ made, tagModels.Yields petCall made) ∧
      Relation.ReflTransGen tagModels.Needs petCall moreCall ∧ moreCall.schema.reference.isSome ∧
        tagModels.fromSchema moreCall.schema "" = .ok ⟨⟨"Array<String>", none⟩, []⟩ ∧
          ∃ here, tagModels.Yields moreCall here ∧
            (here.type = ⟨"Array<String>", none⟩ ∨
              tagModels.Shadowed moreCall.building moreCall.schema) := by
  have hpet : ∃ made, tagModels.Yields petCall made := ⟨_, tagModels.depthBound taggedPet, rfl⟩
  obtain ⟨made, hmade⟩ := hpet
  have hreach : Relation.ReflTransGen tagModels.Needs petCall moreCall :=
    .single petCall_needs_moreCall
  have hfirst : tagModels.fromSchema moreCall.schema "" = .ok ⟨⟨"Array<String>", none⟩, []⟩ := rfl
  exact ⟨⟨made, hmade⟩, hreach, rfl, hfirst, reference_type hmade hreach rfl hfirst⟩

/-- All tags of a pet have the type of the object that is built around them, not that of a list. -/
theorem reference_type_all :
    (∃ made, tagModels.fromSchema petCall.schema petCall.defaultName = .ok made) ∧
      Relation.ReflTransGen tagModels.Needs petCall allCall ∧
        allCall.schema = { reference := some "#/definitions/Tags" } ∧
          tagModels.fromSchema allCall.schema allCall.defaultName =
              .ok ⟨⟨"Array<String>", none⟩, []⟩ ∧
            tagModels.Yields allCall ⟨⟨"Tags", none⟩, []⟩ := by
  have hreach : Relation.ReflTransGen tagModels.Needs petCall allCall :=
    .tail (.single petCall_needs_tagsCall) tagsCall_needs_allCall
  exact ⟨⟨_, rfl⟩, hreach, rfl, rfl, 1, rfl⟩

end SwaggerClient.ModelSynthesis
