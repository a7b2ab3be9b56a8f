import SwaggerClient.Proofs.Document.Entries
import SwaggerClient.Proofs.Reference.Extension

namespace SwaggerClient

namespace Reader

variable {α : Type} {read : Reader α} {entries : List (String × Json)} {made : List (String × α)}

theorem entries_eq (read : Reader α) (entries : List (String × Json)) :
    Reader.entries read entries = entries.mapM fun e => (read e.2).map (Prod.mk e.1) := by
  induction entries with
  | nil => rfl
  | cons e rest ih =>
    rw [List.mapM_cons, Reader.entries, ih]
    cases read e.2 <;> rfl

theorem keys_of_entries (h : Reader.entries read entries = .ok made) :
    Entries.keys made = Entries.keys entries := by
  induction entries generalizing made with
  | nil =>
    obtain rfl := Except.ok.inj h
    rfl
  | cons e rest ih =>
    obtain ⟨first, _, h⟩ := bind_eq_ok.mp h
    obtain ⟨more, hmore, h⟩ := bind_eq_ok.mp h
    obtain rfl := Except.ok.inj h
    exact congrArg (e.1 :: ·) (ih hmore)

end Reader

namespace Contents

/-- The values of some fields are related, and those of all others are the same. -/
def ChangesIn (keys : List String) (R : Json → Json → Prop) (key : String) (j j' : Json) : Prop :=
  if key ∈ keys then R j j' else j' = j

section ChangesIn

variable {keys : List String} {R R' : Json → Json → Prop} {key : String} {j j' : Json}

theorem ChangesIn.imp (h : ChangesIn keys R key j j') (hR : R j j' → R' j j') :
    ChangesIn keys R' key j j' := by
  unfold ChangesIn at h ⊢
  split at h
  · next hkey => exact (if_pos hkey).mpr (hR h)
  · next hkey => exact (if_neg hkey).mpr h

theorem ChangesIn.flip (h : ChangesIn keys R key j j') (hR : R j j' → R' j' j) :
    ChangesIn keys R' key j' j := by
  unfold ChangesIn at h ⊢
  split at h
  · next hkey => exact (if_pos hkey).mpr (hR h)
  · next hkey => exact (if_neg hkey).mpr h.symm

theorem ChangesIn.covers (hR : ∀ j j', R j j' → j.Covers j') (key : String) (j j' : Json)
    (h : ChangesIn keys R key j j') : j.Covers j' := by
  unfold ChangesIn at h
  split at h
  · exact hR j j' h
  · exact h ▸ .refl j

end ChangesIn

/-- Two contents with related paths and related definitions, and with the same base path. -/
structure Related (P : List (String × PathItem) → List (String × PathItem) → Prop)
    (Q : List (String × Schema) → List (String × Schema) → Prop) (c c' : Contents) : Prop where
  paths : P c.paths c'.paths
  definitions : Q c.definitions c'.definitions
  basePath : c'.basePath = c.basePath

theorem set_other {key : String} {value : Json} {c s : Contents} (hpaths : key ≠ "paths")
    (hdefinitions : key ≠ "definitions") (hbase : key ≠ "basePath")
    (h : record.set key value c = .ok s) :
    s.paths = c.paths ∧ s.definitions = c.definitions ∧ s.basePath = c.basePath := by
  simp only [record] at h
  split at h
  · exact absurd rfl hpaths
  · exact absurd rfl hdefinitions
  · exact absurd rfl hbase
  · obtain ⟨info, _, h⟩ := bind_eq_ok.mp h
    obtain rfl := Except.ok.inj h
    exact ⟨rfl, rfl, rfl⟩
  · obtain rfl := Except.ok.inj h
    exact ⟨rfl, rfl, rfl⟩

variable {P : List (String × PathItem) → List (String × PathItem) → Prop}
  {Q : List (String × Schema) → List (String × Schema) → Prop} {R : String → Json → Json → Prop}
  (hpaths : ∀ {j j' ps ps'}, R "paths" j j' → Reader.map PathItem.read j = .ok ps →
    Reader.map PathItem.read j' = .ok ps' → P ps ps')
  (hdefinitions : ∀ {j j' ds ds'}, R "definitions" j j' → Reader.map Schema.read j = .ok ds →
    Reader.map Schema.read j' = .ok ds' → Q ds ds')
  (hothers : ∀ {key j j'}, key ≠ "paths" → key ≠ "definitions" → R key j j' → j' = j)

include hpaths hdefinitions hothers

theorem set_related {key : String} {value value' : Json} {c c' s s' : Contents}
    (hvalue : R key value value') (hc : Related P Q c c')
    (hs : record.set key value c = .ok s) (hs' : record.set key value' c' = .ok s') :
    Related P Q s s' := by
  by_cases hkey : key = "paths"
  · subst hkey
    obtain ⟨ps, hps, hs⟩ := bind_eq_ok.mp hs
    obtain ⟨ps', hps', hs'⟩ := bind_eq_ok.mp hs'
    obtain rfl := Except.ok.inj hs
    obtain rfl := Except.ok.inj hs'
    exact ⟨hpaths hvalue hps hps', hc.definitions, hc.basePath⟩
  by_cases hkey' : key = "definitions"
  · subst hkey'
    obtain ⟨ds, hds, hs⟩ := bind_eq_ok.mp hs
    obtain ⟨ds', hds', hs'⟩ := bind_eq_ok.mp hs'
    obtain rfl := Except.ok.inj hs
    obtain rfl := Except.ok.inj hs'
    exact ⟨hc.paths, hdefinitions hvalue hds hds', hc.basePath⟩
  obtain rfl := hothers hkey hkey' hvalue
  by_cases hbase : key = "basePath"
  · subst hbase
    obtain ⟨field, hfield, hs⟩ := bind_eq_ok.mp hs
    obtain ⟨field', hfield', hs'⟩ := bind_eq_ok.mp hs'
    obtain rfl := Except.ok.inj hs
    obtain rfl := Except.ok.inj hs'
    exact ⟨hc.paths, hc.definitions, Except.ok.inj (hfield'.symm.trans hfield)⟩
  obtain ⟨hp, hd, hb⟩ := set_other hkey hkey' hbase hs
  obtain ⟨hp', hd', hb'⟩ := set_other hkey hkey' hbase hs'
  refine ⟨?_, ?_, ?_⟩
  · rw [hp, hp']
    exact hc.paths
  · rw [hd, hd']
    exact hc.definitions
  · rw [hb, hb']
    exact hc.basePath

theorem related_of_alike {d d' : Document} (hP : P [] []) (hQ : Q [] [])
    (h : record.Alike R d.raw d'.raw) : Related P Q d.contents d'.contents :=
  h.read (set_related hpaths hdefinitions hothers) ⟨hP, hQ, rfl⟩ d.reads d'.reads

end Contents

namespace Document

/-- The second document has the value for one path more, the last one. The path is new, since no object of a
document has a key twice. -/
structure AddsPath (d d' : Document) (path : String) (value : Json) : Prop where
  slash : Text.beginsWith '/' path
  raw : Contents.record.Alike (Contents.ChangesIn ["paths"] fun j j' =>
    ∃ entries, j = .object entries ∧ j' = .object (entries ++ [(path, value)])) d.raw d'.raw

section AddsPath

variable {d d' : Document} {path : String} {value : Json}

theorem not_mem_of_slash (h : Text.beginsWith '/' path) {keys : List String}
    (hkeys : ∀ key ∈ keys, ¬Text.beginsWith '/' key) : path ∉ keys :=
  fun hmem => hkeys path hmem h

theorem AddsPath.related (h : d.AddsPath d' path value) {item : PathItem}
    (hitem : PathItem.read value = .ok item) :
    Contents.Related (fun ps ps' => ps' = ps ∨ ps' = ps ++ [(path, item)]) (fun ds ds' => ds' = ds)
      d.contents d'.contents := by
  refine Contents.related_of_alike ?_ ?_ ?_ (.inl rfl) rfl h.raw
  · intro j j' ps ps' hR hps hps'
    obtain ⟨entries, rfl, rfl⟩ := hR
    rw [Reader.map, Reader.entries_eq] at hps hps'
    have hlast : [(path, value)].mapM (fun e => (PathItem.read e.2).map (Prod.mk e.1)) =
        .ok [(path, item)] := by
      simp [hitem, Except.map]
    exact .inr (Except.ok.inj (hps'.symm.trans (mapM_append_eq_ok hps hlast)))
  · intro j j' ds ds' hR hds hds'
    obtain rfl : j' = j := hR
    exact Except.ok.inj (hds'.symm.trans hds)
  · intro key j j' hpaths _ hR
    simpa [Contents.ChangesIn, hpaths] using hR

theorem AddsPath.extends (h : d.AddsPath d' path value) {item : PathItem}
    (hitem : PathItem.read value = .ok item) : d.Extends d' := by
  have hrelated := h.related hitem
  refine extends_of_alike h.raw (Contents.ChangesIn.covers ?_) ?_ hrelated.basePath
  · rintro _ _ ⟨entries, rfl, rfl⟩
    exact Json.covers_append (not_mem_of_slash h.slash (by decide))
      (not_mem_of_slash h.slash (by decide)) (not_mem_of_slash h.slash (by decide)) value
  · intro name
    rw [hrelated.definitions]

end AddsPath

/-- The documents differ in the order of their paths and of their definitions alone. -/
def Reorders (d d' : Document) : Prop :=
  Contents.record.Alike (Contents.ChangesIn ["paths", "definitions"] fun j j' =>
    ∃ entries entries', j = .object entries ∧ j' = .object entries' ∧ entries.Perm entries') d.raw d'.raw

section Reorders

variable {d d' : Document}

theorem Reorders.symm (h : d.Reorders d') : d'.Reorders d := by
  refine Record.Alike.flip h fun hR => hR.flip ?_
  rintro ⟨entries, entries', rfl, rfl, hperm⟩
  exact ⟨entries', entries, rfl, rfl, hperm.symm⟩

/-- Both are objects with the same entries, each key once. -/
def Permutes (j j' : Json) : Prop :=
  ∃ entries entries', j = .object entries ∧ j' = .object entries' ∧ Entries.Distinct entries ∧
    entries.Perm entries'

theorem Reorders.permutes (h : d.Reorders d') :
    Contents.record.Alike (Contents.ChangesIn ["paths", "definitions"] Permutes) d.raw d'.raw := by
  refine Record.Alike.imp h (fun c hc => d.distinct.child hc) fun hj hR => hR.imp ?_
  rintro ⟨entries, entries', rfl, rfl, hperm⟩
  exact ⟨entries, entries', rfl, rfl, hj.here entries rfl, hperm⟩

theorem Permutes.map_perm {α : Type} {read : Reader α} {j j' : Json} {made made' : List (String × α)}
    (h : Permutes j j') (hmade : Reader.map read j = .ok made) (hmade' : Reader.map read j' = .ok made') :
    Entries.Distinct made ∧ made.Perm made' := by
  obtain ⟨entries, entries', rfl, rfl, hdistinct, hperm⟩ := h
  refine ⟨(congrArg List.Nodup (Reader.keys_of_entries hmade)).mpr hdistinct, ?_⟩
  rw [Reader.map, Reader.entries_eq] at hmade hmade'
  obtain ⟨others, hothers, hperm⟩ := mapM_perm hperm hmade
  exact Except.ok.inj (hothers.symm.trans hmade') ▸ hperm

theorem Reorders.related (h : d.Reorders d') :
    Contents.Related (fun ps ps' => ps.Perm ps') (fun ds ds' => Entries.Distinct ds ∧ ds.Perm ds')
      d.contents d'.contents := by
  refine Contents.related_of_alike ?_ ?_ ?_ .nil ⟨List.nodup_nil, .nil⟩ h.permutes
  · intro j j' ps ps' hR hps hps'
    exact (Permutes.map_perm hR hps hps').2
  · intro j j' ds ds' hR hds hds'
    exact Permutes.map_perm hR hds hds'
  · intro key j j' hpaths hdefinitions hR
    simpa [Contents.ChangesIn, hpaths, hdefinitions] using hR

theorem Reorders.extends (h : d.Reorders d') : d.Extends d' := by
  have hrelated := h.related
  refine extends_of_alike h.permutes (Contents.ChangesIn.covers ?_) ?_ hrelated.basePath
  · rintro _ _ ⟨entries, entries', rfl, rfl, hdistinct, hperm⟩
    exact Json.covers_perm hdistinct hperm
  · exact Entries.get?_perm hrelated.definitions.1 hrelated.definitions.2

end Reorders

end Document

end SwaggerClient
