import ChildWatch.Proofs.Config.GivenSettings

/-! # Configurations are read back

The text of a configuration is a document of plain lines, one for each setting that is set. Reading
it gives the configuration back, which then has to obey the rules.

* `Config.givenLines` — what the lines of a configuration give; `giving_givenLines` — it is the
  configuration itself.
* `Config.ofText_render` — its text is read as the configuration, `parse_render` — and judged by the
  rules. -/

namespace ChildWatch.Config

open Toml

/-- **What the lines of a configuration give**, in the order of its text. -/
def givenLines (c : Config) : List Given :=
  .wait c.defaultWaitTimeoutMs ::
    (c.terminateGraceMs.toList.map .grace ++ [.stderr c.stderr, .traces c.traces])

/-- They are different settings. -/
theorem nodup_givenLines (c : Config) : (c.givenLines.map (·.line.key)).Nodup := by
  obtain ⟨wait, grace, stderr, traces⟩ := c
  cases grace with
  | none =>
      show [waitKey, stderrKey, tracesKey].Nodup
      decide
  | some ms =>
      show [waitKey, graceKey, stderrKey, tracesKey].Nodup
      decide

/-- **They give the configuration itself**: a grace period that is left out is none. -/
theorem giving_givenLines (c : Config) : giving c.givenLines = c := by
  obtain ⟨wait, grace, stderr, traces⟩ := c
  cases grace with
  | none => rfl
  | some ms => rfl

/-- The text of a configuration is that of its lines. -/
theorem render_eq_join (c : Config) :
    c.render = String.join (c.givenLines.map (·.line.text)) := by
  obtain ⟨wait, grace, stderr, traces⟩ := c
  cases grace with
  | none =>
      simp only [render, givenLines, Option.toList_none, List.map_nil, List.nil_append,
        List.map_cons, String.join, List.foldl_cons, List.foldl_nil, String.empty_append,
        String.append_empty]
      rfl
  | some ms =>
      simp only [render, givenLines, Option.toList_some, List.map_nil, List.map_cons,
        List.cons_append, List.nil_append, String.join, List.foldl_cons, List.foldl_nil,
        String.empty_append]
      rfl

/-- **The text of a configuration is read as the configuration.** -/
theorem ofText_render (c : Config) : ofText c.render = .ok c := by
  have htext : PlainLine.Lined (c.givenLines.map Given.line) c.render.toList := by
    rw [render_eq_join, String.toList_join, List.flatMap_map]
    have hlined := PlainLine.lined_flatMap (c.givenLines.map Given.line)
    rwa [List.flatMap_map] at hlined
  rw [ofText_given c.nodup_givenLines htext, giving_givenLines]

/-- The rules give the configuration back or name the setting that breaks them. -/
theorem validate_cases (c : Config) :
    c.validate = .ok c ∨
      ∃ key reason, c.validate = .error (.configValidationFailed key reason) := by
  unfold validate
  split
  · exact Or.inr ⟨_, _, rfl⟩
  split
  · exact Or.inr ⟨_, _, rfl⟩
  · exact Or.inl rfl

/-- **A configuration survives being written and read.** Whatever its times and its modes, reading its
text comes to what the rules say of it: the configuration itself if it obeys them, and the error of
the rule that it breaks if it does not. -/
theorem parse_render (c : Config) :
    parse c.render = c.validate ∧
      (parse c.render = .ok c ∨
        ∃ key reason, parse c.render = .error (.configValidationFailed key reason)) := by
  have hparse : parse c.render = c.validate := by
    rw [parse, ofText_render]
  refine ⟨hparse, ?_⟩
  rw [hparse]
  exact c.validate_cases

end ChildWatch.Config
