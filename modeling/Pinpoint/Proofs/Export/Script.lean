import Mathlib.Algebra.BigOperators.Group.List.Basic
import Pinpoint.Export.Render
import Pinpoint.Proofs.Snippet.Literal

/-! The lines of a script. The target of a test case stands in a literal and ends no line; the
wording of a step stands in a comment as it is, so each line end in it ends a line of the script. -/

namespace Pinpoint

namespace Snippet

def isOneLine (s : Snippet) : Bool :=
  s.all fun
    | .code text => ! text.toList.any isLineEnd
    | .literal _ => true

end Snippet

namespace Export

open Snippet (isLineEnd)

def lineEnds (s : String) : Nat := s.toList.countP isLineEnd

/-- How many lines a text has if every line end separates two of them. -/
def lineCount (s : String) : Nat := (s.toList.splitOnP isLineEnd).length

theorem length_splitOnP (p : Char → Bool) (cs : List Char) :
    (cs.splitOnP p).length = cs.countP p + 1 := by
  induction cs with
  | nil => rfl
  | cons c cs ih =>
    rw [List.splitOnP_cons_eq_if_modifyHead]
    by_cases hc : p c = true
    · rw [if_pos hc, List.length_cons, ih, List.countP_cons_of_pos hc]
    · rw [if_neg hc, List.length_modifyHead, ih, List.countP_cons_of_neg hc]

theorem lineCount_eq (s : String) : lineCount s = lineEnds s + 1 := length_splitOnP _ _

@[simp] theorem lineEnds_append (s t : String) : lineEnds (s ++ t) = lineEnds s + lineEnds t := by
  rw [lineEnds, String.toList_append, List.countP_append]
  rfl

theorem lineCount_joinLines {lines : List String} (h : lines ≠ []) :
    lineCount (joinLines lines) = (lines.map lineCount).sum := by
  induction lines with
  | nil => exact absurd rfl h
  | cons l rest ih =>
    cases rest with
    | nil => simp [joinLines, lineCount]
    | cons m rest =>
      have hjoin : (joinLines (l :: m :: rest)).toList
          = l.toList ++ "\n".toList ++ (joinLines (m :: rest)).toList := by
        simp [joinLines, String.toList_intercalate]
      have hbreak : "\n".toList.countP isLineEnd = 1 := by decide
      rw [List.map_cons, List.sum_cons, ← ih (List.cons_ne_nil _ _), lineCount_eq, lineCount_eq,
        lineCount_eq, lineEnds, hjoin, List.countP_append, List.countP_append, hbreak]
      simp only [lineEnds]
      omega

theorem lineEnds_eq_zero {s : String} (h : ∀ c ∈ s.toList, isLineEnd c = false) :
    lineEnds s = 0 :=
  List.countP_eq_zero.mpr fun c hc => by simp [h c hc]

theorem lineEnds_render {s : Snippet} (h : s.isOneLine = true) : lineEnds s.render = 0 := by
  refine lineEnds_eq_zero fun c hc => ?_
  rw [Snippet.render, String.toList_join, List.mem_flatMap] at hc
  obtain ⟨text, htext, hc⟩ := hc
  obtain ⟨piece, hpiece, rfl⟩ := List.mem_map.mp htext
  have hone := List.all_eq_true.mp h piece hpiece
  cases piece with
  | code text =>
    simp only [Bool.not_eq_true', List.any_eq_false] at hone
    simpa using hone c hc
  | literal text =>
    simp only [Piece.render, String.toList_append, List.mem_append, or_assoc] at hc
    rcases hc with hc | hc | hc
    · rw [List.mem_singleton.mp hc]
      rfl
    · exact Snippet.isLineEnd_of_mem_quote hc
    · rw [List.mem_singleton.mp hc]
      rfl

/-! One line for each step -/

theorem lineEnds_commented {statement : Snippet} (h : statement.isOneLine = true) {fallback : String}
    (hf : lineEnds fallback = 0) (step : String) :
    lineEnds (commented statement step fallback) = lineEnds step := by
  have hmark : lineEnds " // " = 0 := by decide
  rw [commented, lineEnds_append, lineEnds_append, lineEnds_render h, hmark, Nat.zero_add]
  split
  · rename_i hempty
    rw [hempty, hf]
    rfl
  · rfl

theorem lineEnds_playwrightLine (target step : String) :
    lineEnds (playwrightLine target step) = lineEnds step := by
  unfold playwrightLine
  split
  · exact lineEnds_commented (by decide) (by decide) step
  · cases StepAction.ofStep step <;> exact lineEnds_commented rfl (by decide) step

theorem lineEnds_cypressLine (target step : String) :
    lineEnds (cypressLine target step) = lineEnds step := by
  unfold cypressLine
  split
  · exact lineEnds_commented (by decide) (by decide) step
  · cases StepAction.ofStep step <;> exact lineEnds_commented rfl (by decide) step

def comments (c : TestCase) : List String := if c.steps.isEmpty then [c.heading] else c.steps

theorem sum_lineCount_body {indent : String} (hi : lineEnds indent = 0)
    {line : String → String → String} (hl : ∀ target step, lineEnds (line target step) = lineEnds step)
    (cases : List TestCase) :
    ((body indent line cases).map lineCount).sum
      = ((cases.flatMap comments).map lineCount).sum := by
  have hmark : lineEnds "// " = 0 := by decide
  induction cases with
  | nil => rfl
  | cons c cases ih =>
    have hcase : ((if c.steps.isEmpty then [indent ++ "// " ++ c.heading]
        else c.steps.map (line c.target)).map lineCount) = (comments c).map lineCount := by
      unfold comments
      split
      · simp [lineCount_eq, hi, hmark]
      · simp [lineCount_eq, hl]
    rw [body, List.flatMap_cons, List.map_append, List.sum_append, hcase, List.flatMap_cons,
      List.map_append, List.sum_append]
    exact congrArg (_ + ·) ih

/-- A script has four lines around its body. -/
theorem lineCount_playwright (cases : List TestCase) :
    lineCount (playwright cases) = 4 + ((cases.flatMap comments).map lineCount).sum := by
  have hindent : lineEnds "  " = 0 := by decide
  have hframe : lineCount "import \x7b test, expect \x7d from '@playwright/test';" = 1 ∧
      lineCount "" = 1 ∧ lineCount "test('qa generated cases', async (\x7b page \x7d) => \x7b" = 1 ∧
      lineCount "\x7d);" = 1 := by decide
  rw [playwright, lineCount_joinLines (by simp), List.map_append, List.map_append,
    List.sum_append, List.sum_append, sum_lineCount_body hindent lineEnds_playwrightLine]
  simp only [List.map_cons, List.map_nil, List.sum_cons, List.sum_nil, hframe]
  omega

theorem lineCount_cypress (cases : List TestCase) :
    lineCount (cypress cases) = 4 + ((cases.flatMap comments).map lineCount).sum := by
  have hindent : lineEnds "    " = 0 := by decide
  have hframe : lineCount "describe('qa generated cases', () => \x7b" = 1 ∧
      lineCount "  it('runs generated steps', () => \x7b" = 1 ∧ lineCount "  \x7d);" = 1 ∧
      lineCount "\x7d);" = 1 := by decide
  rw [cypress, lineCount_joinLines (by simp), List.map_append, List.map_append,
    List.sum_append, List.sum_append, sum_lineCount_body hindent lineEnds_cypressLine]
  simp only [List.map_cons, List.map_nil, List.sum_cons, List.sum_nil, hframe]
  omega

end Export

end Pinpoint
