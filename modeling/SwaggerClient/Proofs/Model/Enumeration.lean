import SwaggerClient.Proofs.Model.Call
import SwaggerClient.Proofs.Naming.Identifier

namespace SwaggerClient.ModelSynthesis

open Naming

variable {x : ModelSynthesis} {c : Call} {base full : Schema} {made : Synthesized}

theorem literal_eq_iff (x : ModelSynthesis) (quoted : Bool) (v w : EnumValue) :
    (x.enumCase quoted v).literal = (x.enumCase quoted w).literal ↔ v.text = w.text := by
  cases quoted with
  | false => exact Iff.rfl
  | true => exact (String.append_left_inj "\"").trans (String.append_right_inj "\"")

/-- What a schema with listed values becomes. -/
theorem Yields.enumeration {type : Option String} {values : List EnumValue} (h : x.Yields c made)
    (hopens : x.Opens c base full) (hs : full.shape = .enumeration type values) :
    ∃ m, made = ⟨⟨x.nameOf c, none⟩, [.enumeration m]⟩ ∧ m.name = x.nameOf c ∧
      m.cases = values.map (x.enumCase (type == some "string")) := by
  obtain ⟨depth, hrun⟩ := h.run_succ
  rw [run_succ_of_opens hopens] at hrun
  simp only [fromFull, hs] at hrun
  obtain ⟨m, hm, hrun⟩ := bind_eq_ok.mp hrun
  obtain ⟨_, _, hm⟩ := bind_eq_ok.mp hm
  obtain rfl := Except.ok.inj hm
  exact ⟨_, (Except.ok.inj hrun).symm, rfl, rfl⟩

/-- When the cases of two values have the same literal, the same name in capitals and the same name. -/
structure ToldApart (x : ModelSynthesis) (v w : EnumValue) (first second : EnumCase) : Prop where
  literal : first.literal = second.literal ↔ v.text = w.text
  capitals : first.capitals = second.capitals ↔ upperWords v.text = upperWords w.text
  snake : x.snake → (first.name = second.name ↔ lowerWords v.text = lowerWords w.text)
  camel : ¬x.snake → (first.name = second.name ↔ camelCase v.text = camelCase w.text)
  lettered : Lettered v.text → Lettered w.text →
    (first.name = second.name ↔ lowerWords v.text = lowerWords w.text)

theorem toldApart (x : ModelSynthesis) (quoted : Bool) (v w : EnumValue) :
    x.ToldApart v w (x.enumCase quoted v) (x.enumCase quoted w) := by
  have hsnake := x.target.rules.identifier_snake_eq_iff v.text w.text
  have hcamel := x.target.rules.identifier_camel_eq_iff v.text w.text
  refine ⟨x.literal_eq_iff quoted v w, x.target.rules.caseName_eq_iff v.text w.text, fun h => ?_,
    fun h => ?_, fun hv hw => ?_⟩
  · simpa only [enumCase, h] using hsnake
  · simpa only [enumCase, h] using hcamel
  · cases h : x.snake with
    | true => simpa only [enumCase, h] using hsnake
    | false => simpa only [enumCase, h] using hcamel.trans (camelCase_eq_iff hv hw)

/-- An enumeration has one case for each value, in order. Cases have the same literal exactly if their values have
the same text, and the same names exactly if the texts have the same words: in upper case for the names in capitals, in
lower case for the names in snake case. For the names in camel case it is the camel case of the texts that decides,
which for words of ASCII letters is the same as their lower case. -/
theorem enumeration_cases {type : Option String} {values : List EnumValue} (hmade : x.Yields c made)
    (hopens : x.Opens c base full) (hs : full.shape = .enumeration type values) :
    ∃ m, made.models = [.enumeration m] ∧
      m.cases = values.map (x.enumCase (type == some "string")) ∧
        ∀ v w, x.ToldApart v w (x.enumCase (type == some "string") v)
          (x.enumCase (type == some "string") w) := by
  obtain ⟨m, rfl, _, hcases⟩ := hmade.enumeration hopens hs
  exact ⟨m, rfl, hcases, x.toldApart _⟩

def gaitModels (snake : Bool) : ModelSynthesis :=
  ⟨creatures, Language.swift.target ⟨[]⟩, snake⟩

/-- Texts, of which two have the same words. -/
def gait : Schema :=
  { type := some "string", values := some [.string "fast-walk", .string "fast_walk"] }

/-- Numbers that differ in their signs. -/
def turn : Schema :=
  { type := some "integer", values := some [.integer 1, .integer (-1)] }

theorem enumeration_cases_gait :
    ∃ made m first second, (gaitModels true).Yields ⟨[], gait, "Gait"⟩ made ∧
      made.models = [.enumeration m] ∧ m.cases = [first, second] ∧ first.literal ≠ second.literal ∧
        first.name = second.name := by
  have hopens : (gaitModels true).Opens ⟨[], gait, "Gait"⟩ gait gait := ⟨nofun, rfl, rfl⟩
  obtain ⟨made, hmade⟩ : ∃ made, (gaitModels true).Yields ⟨[], gait, "Gait"⟩ made := ⟨_, 1, rfl⟩
  obtain ⟨m, hm, hcases, hapart⟩ := enumeration_cases hmade hopens rfl
  have hpair := hapart (.string "fast-walk") (.string "fast_walk")
  refine ⟨made, m, _, _, hmade, hm, hcases, fun h => ?_, (hpair.snake rfl).mpr (by decide +kernel)⟩
  exact absurd (hpair.literal.mp h) (by decide)

/-- The schema becomes an enumeration of two cases that only their literals tell apart. -/
def NamesRepeat (x : ModelSynthesis) (s : Schema) (name : String) : Prop :=
  ∃ type m first second, x.fromSchema s name = .ok ⟨type, [.enumeration m]⟩ ∧
    m.cases = [first, second] ∧ first.literal ≠ second.literal ∧
      first.name = second.name ∧ first.capitals = second.capitals

/-- Separators and signs are not in the names, whatever their style. -/
theorem enumeration_names_repeat :
    (gaitModels false).NamesRepeat gait "Gait" ∧ (gaitModels true).NamesRepeat gait "Gait" ∧
      (gaitModels false).NamesRepeat turn "Turn" ∧ (gaitModels true).NamesRepeat turn "Turn" := by
  refine ⟨?_, ?_, ?_, ?_⟩
  · exact ⟨_, _, _, _, rfl, rfl, by decide +kernel, by decide +kernel, by decide +kernel⟩
  · exact ⟨_, _, _, _, rfl, rfl, by decide +kernel, by decide +kernel, by decide +kernel⟩
  · exact ⟨_, _, _, _, rfl, rfl, by decide +kernel, by decide +kernel, by decide +kernel⟩
  · exact ⟨_, _, _, _, rfl, rfl, by decide +kernel, by decide +kernel, by decide +kernel⟩

end SwaggerClient.ModelSynthesis
