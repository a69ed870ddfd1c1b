import Pinpoint.Export.Render
import Pinpoint.Proofs.Text.Lines

/-! Test cases as prose lose nothing. Every field has lines of its own, and each line is known by
its place or by the mark in front of it, whatever stands in the fields. -/

namespace Pinpoint

/-- Every field has something in it, and each of its texts is one line. A step may be empty. -/
structure TestCase.FillsLines (c : TestCase) : Prop where
  title : c.title ≠ ""
  target : c.target ≠ ""
  steps : c.steps ≠ []
  expected : c.expected ≠ ""
  one_line : ∀ text ∈ c.title :: c.target :: c.expected :: c.steps, '\n' ∉ text.toList

namespace Export

/-! Lines that are joined -/

theorem joinLines_append {lines more : List String} (hl : lines ≠ []) (hm : more ≠ []) :
    joinLines (lines ++ more) = joinLines lines ++ "\n" ++ joinLines more :=
  String.intercalate_append_of_ne_nil hl hm

/-- Lines that were joined before count as the lines they are. -/
theorem joinLines_nested (before : List String) {lines : List String} (hl : lines ≠ [])
    (behind : List String) :
    joinLines (before ++ joinLines lines :: behind) = joinLines (before ++ (lines ++ behind)) := by
  have hjoin : joinLines (joinLines lines :: behind) = joinLines (lines ++ behind) := by
    cases behind with
    | nil => rw [List.append_nil, joinLines, String.intercalate_singleton]
    | cons line rest =>
      rw [joinLines_append hl (List.cons_ne_nil _ _), joinLines, String.intercalate_cons_cons]
      rfl
  cases before with
  | nil => exact hjoin
  | cons line rest =>
    rw [joinLines_append (List.cons_ne_nil _ _) (List.cons_ne_nil _ _), hjoin,
      joinLines_append (List.cons_ne_nil _ _) (List.append_ne_nil_of_left_ne_nil hl _)]

/-- Blocks of lines with an empty line between neighbours are lines again. -/
theorem joinCases_cons {block : List String} (hne : block ≠ []) {more : List (List String)}
    (h : ∀ b ∈ more, b ≠ []) :
    joinCases ((block :: more).map joinLines) = joinLines (block ++ more.flatMap ("" :: ·)) := by
  induction more generalizing block with
  | nil => simp [joinCases]
  | cons other rest ih =>
    have hother := h other List.mem_cons_self
    have hbehind := List.append_ne_nil_of_left_ne_nil hother (rest.flatMap ("" :: ·))
    calc joinCases ((block :: other :: rest).map joinLines)
        = joinLines block ++ "\n\n" ++ joinCases ((other :: rest).map joinLines) := by
          rw [List.map_cons, List.map_cons, joinCases, String.intercalate_cons_cons]
          rfl
      _ = joinLines block ++ "\n" ++ ("\n" ++ joinLines (other ++ rest.flatMap ("" :: ·))) := by
          have hgap : "\n\n" = "\n" ++ "\n" := rfl
          rw [ih hother fun b hb => h b (List.mem_cons_of_mem _ hb), hgap]
          simp only [String.append_assoc]
      _ = joinLines block ++ "\n" ++ joinLines ("" :: (other ++ rest.flatMap ("" :: ·))) := by
          rw [joinLines, joinLines, joinLines, String.intercalate_cons_of_ne_nil hbehind,
            String.empty_append]
      _ = joinLines (block ++ (other :: rest).flatMap ("" :: ·)) := by
          rw [← joinLines_append hne (List.cons_ne_nil _ _)]
          rfl

/-! A layout by its marks -/

/-- A layout that gives every field lines of its own. The marks stand in front of the fields, first
the one that depends on the number of the test case; other lines stand `between` target and steps
and `behind` the steps. What comes behind the steps is not taken for another step. -/
structure FieldLayout where
  heading : Nat → String
  target : String
  between : List String
  first : String
  next : String
  behind : List String
  expected : String
  heading_line : ∀ n, '\n' ∉ (heading n).toList
  one_line : ∀ mark ∈ target :: first :: next :: expected :: (between ++ behind), '\n' ∉ mark.toList
  ends : ∀ outcome after line, (behind ++ (expected ++ outcome) :: after).head? = some line →
    ¬ next.toList <+: line.toList

namespace FieldLayout

variable (l : FieldLayout)

def stepLines : List String → List String
  | [] => []
  | step :: rest => (l.first ++ step) :: rest.map (l.next ++ ·)

def lines (n : Nat) (c : TestCase) : List String :=
  (l.heading n ++ c.title) :: (l.target ++ c.target) ::
    (l.between ++ (l.stepLines c.steps ++ (l.behind ++ [l.expected ++ c.expected])))

def blocks (n : Nat) (cases : List TestCase) : List (List String) :=
  (cases.zipIdx n).map fun (c, i) => l.lines i c

variable {l}

/-- Where the steps end can be seen from the line behind them. -/
theorem eq_of_steps_append {steps steps' after after' : List String}
    (ha : ∀ line, after.head? = some line → ¬ l.next.toList <+: line.toList)
    (ha' : ∀ line, after'.head? = some line → ¬ l.next.toList <+: line.toList)
    (h : steps.map (l.next ++ ·) ++ after = steps'.map (l.next ++ ·) ++ after') :
    steps = steps' ∧ after = after' := by
  have hmarked : ∀ step, l.next.toList <+: (l.next ++ step).toList := fun step => by
    rw [String.toList_append]
    exact List.prefix_append _ _
  induction steps generalizing steps' with
  | nil =>
    cases steps' with
    | nil => exact ⟨rfl, h⟩
    | cons step' rest' => exact absurd (hmarked step') (ha _ (congrArg List.head? h))
  | cons step rest ih =>
    cases steps' with
    | nil => exact absurd (hmarked step) (ha' _ (congrArg List.head? h.symm))
    | cons step' rest' =>
      obtain ⟨hstep, hrest⟩ := List.cons.inj h
      obtain ⟨rfl, hafter⟩ := ih hrest
      rw [String.append_right_inj] at hstep
      exact ⟨by rw [hstep], hafter⟩

/-- The lines of a test case say what it is, whatever follows them. -/
theorem eq_of_lines_append {n : Nat} {c c' : TestCase} (hc : c.steps ≠ []) (hc' : c'.steps ≠ [])
    {after after' : List String} (h : l.lines n c ++ after = l.lines n c' ++ after') :
    c = c' ∧ after = after' := by
  obtain ⟨title, target, steps, expected⟩ := c
  obtain ⟨title', target', steps', expected'⟩ := c'
  obtain ⟨step, rest, rfl⟩ := List.exists_cons_of_ne_nil hc
  obtain ⟨step', rest', rfl⟩ := List.exists_cons_of_ne_nil hc'
  simp only [lines, stepLines, List.cons_append, List.append_assoc, List.cons.injEq,
    List.append_cancel_left_eq, String.append_right_inj] at h
  obtain ⟨rfl, rfl, rfl, hsteps⟩ := h
  obtain ⟨rfl, hclosing⟩ := eq_of_steps_append (l.ends _ _) (l.ends _ _) hsteps
  have hbehind := List.append_cancel_left hclosing
  simp only [List.nil_append, List.cons.injEq, String.append_right_inj] at hbehind
  obtain ⟨rfl, rfl⟩ := hbehind
  exact ⟨rfl, rfl⟩

theorem eq_of_blocks_eq {n : Nat} {cases cases' : List TestCase} (h : ∀ c ∈ cases, c.steps ≠ [])
    (h' : ∀ c ∈ cases', c.steps ≠ [])
    (heq : (l.blocks n cases).flatMap ("" :: ·) = (l.blocks n cases').flatMap ("" :: ·)) :
    cases = cases' := by
  induction cases generalizing n cases' with
  | nil =>
    cases cases' with
    | nil => rfl
    | cons c' rest' => cases heq
  | cons c rest ih =>
    cases cases' with
    | nil => cases heq
    | cons c' rest' =>
      have hlines : l.lines n c ++ (l.blocks (n + 1) rest).flatMap ("" :: ·) =
          l.lines n c' ++ (l.blocks (n + 1) rest').flatMap ("" :: ·) := (List.cons.inj heq).2
      obtain ⟨rfl, hrest⟩ := eq_of_lines_append (h c List.mem_cons_self)
        (h' c' List.mem_cons_self) hlines
      rw [ih (fun c hc => h c (List.mem_cons_of_mem _ hc))
        (fun c hc => h' c (List.mem_cons_of_mem _ hc)) hrest]

/-! Whole documents -/

theorem exists_of_mem_stepLines {steps : List String} {line : String}
    (h : line ∈ l.stepLines steps) :
    ∃ mark step, (mark = l.first ∨ mark = l.next) ∧ step ∈ steps ∧ line = mark ++ step := by
  cases steps with
  | nil => cases h
  | cons step rest =>
    rcases List.mem_cons.mp h with rfl | h
    · exact ⟨l.first, step, .inl rfl, List.mem_cons_self, rfl⟩
    · obtain ⟨other, hother, rfl⟩ := List.mem_map.mp h
      exact ⟨l.next, other, .inr rfl, List.mem_cons_of_mem _ hother, rfl⟩

theorem one_line_of_mem_lines {n : Nat} {c : TestCase} (hc : c.FillsLines) {line : String}
    (h : line ∈ l.lines n c) : '\n' ∉ line.toList := by
  have hjoined : ∀ {mark field : String}, '\n' ∉ mark.toList →
      field ∈ c.title :: c.target :: c.expected :: c.steps → '\n' ∉ (mark ++ field).toList := by
    intro mark field hmark hfield
    rw [String.toList_append, List.mem_append, not_or]
    exact ⟨hmark, hc.one_line field hfield⟩
  have hmarks := l.one_line
  simp only [List.forall_mem_cons, List.forall_mem_append] at hmarks
  obtain ⟨htarget, hfirst, hnext, hexpected, hbetween, hbehind⟩ := hmarks
  simp only [lines, List.mem_cons, List.mem_append, List.not_mem_nil, or_false] at h
  rcases h with rfl | rfl | h | h | h | rfl
  · exact hjoined (l.heading_line n) (by simp)
  · exact hjoined htarget (by simp)
  · exact hbetween line h
  · obtain ⟨mark, step, hmark | hmark, hstep, rfl⟩ := exists_of_mem_stepLines h
    · exact hjoined (hmark ▸ hfirst) (by simp [hstep])
    · exact hjoined (hmark ▸ hnext) (by simp [hstep])
  · exact hbehind line h
  · exact hjoined hexpected (by simp)

/-- What is rendered is the test cases in this layout, numbered from one on. -/
def Writes (l : FieldLayout) (render : List TestCase → String) : Prop :=
  ∀ cases, (∀ c ∈ cases, c.FillsLines) →
    render cases = joinCases ((l.blocks 1 cases).map joinLines)

theorem writes_numbered {render : Nat → TestCase → String}
    (h : ∀ n c, c.FillsLines → render n c = joinLines (l.lines n c)) :
    l.Writes (numbered render) := by
  intro cases hcases
  rw [numbered, blocks, List.map_map, List.zipIdx_succ, List.map_map]
  refine congrArg joinCases (List.map_congr_left fun (c, i) hc => ?_)
  exact h (i + 1) c (hcases c (List.fst_mem_of_mem_zipIdx hc))

theorem exists_of_mem_blocks {n : Nat} {cases : List TestCase} {block : List String}
    (h : block ∈ l.blocks n cases) : ∃ i, ∃ c ∈ cases, block = l.lines i c := by
  obtain ⟨⟨c, i⟩, hc, rfl⟩ := List.mem_map.mp h
  exact ⟨i, c, List.fst_mem_of_mem_zipIdx hc, rfl⟩

/-- The text of one or more test cases has the lines of the first one, and then, behind an empty
line each, those of the others. -/
theorem Writes.split_cons {render : List TestCase → String} (hl : l.Writes render) {c : TestCase}
    {rest : List TestCase} (h : ∀ c' ∈ c :: rest, c'.FillsLines) :
    Text.split '\n' (render (c :: rest)) =
      l.lines 1 c ++ (l.blocks 2 rest).flatMap ("" :: ·) := by
  have hblocks : ∀ block ∈ l.blocks 2 rest, block ≠ [] := by
    intro block hblock
    obtain ⟨i, c', -, rfl⟩ := exists_of_mem_blocks hblock
    exact List.cons_ne_nil _ _
  have hlines : render (c :: rest) =
      joinLines (l.lines 1 c ++ (l.blocks 2 rest).flatMap ("" :: ·)) :=
    (hl (c :: rest) h).trans (joinCases_cons (List.cons_ne_nil _ _) hblocks)
  rw [hlines, joinLines]
  refine Text.split_intercalate (List.cons_ne_nil _ _) fun line hline => ?_
  rcases List.mem_append.mp hline with hline | hline
  · exact one_line_of_mem_lines (h c List.mem_cons_self) hline
  · obtain ⟨block, hblock, hline⟩ := List.mem_flatMap.mp hline
    obtain ⟨i, c', hc', rfl⟩ := exists_of_mem_blocks hblock
    rcases List.mem_cons.mp hline with rfl | hline
    · exact List.not_mem_nil
    · exact one_line_of_mem_lines (h c' (List.mem_cons_of_mem _ hc')) hline

/-- Where there is a test case there is a line with a title. -/
theorem Writes.ne_of_cons {render : List TestCase → String} (hl : l.Writes render) {c : TestCase}
    {rest : List TestCase} (h : ∀ c' ∈ c :: rest, c'.FillsLines) :
    render (c :: rest) ≠ render [] := by
  intro heq
  have hlines := hl.split_cons h
  rw [heq, hl [] nofun] at hlines
  have hheading : "" = l.heading 1 ++ c.title := (List.cons.inj hlines).1
  exact (h c List.mem_cons_self).title (String.append_eq_empty_iff.mp hheading.symm).2

theorem Writes.eq_of_eq {render : List TestCase → String} (hl : l.Writes render)
    {cases cases' : List TestCase} (h : ∀ c ∈ cases, c.FillsLines)
    (h' : ∀ c ∈ cases', c.FillsLines) (heq : render cases = render cases') : cases = cases' := by
  cases cases with
  | nil =>
    cases cases' with
    | nil => rfl
    | cons c' rest' => exact absurd heq.symm (hl.ne_of_cons h')
  | cons c rest =>
    cases cases' with
    | nil => exact absurd heq (hl.ne_of_cons h)
    | cons c' rest' =>
      have hlines := hl.split_cons h
      rw [heq, hl.split_cons h'] at hlines
      have hsteps : ∀ x ∈ c :: rest, x.steps ≠ [] := fun x hx => (h x hx).steps
      have hsteps' : ∀ x ∈ c' :: rest', x.steps ≠ [] := fun x hx => (h' x hx).steps
      obtain ⟨rfl, hrest⟩ := eq_of_lines_append (hsteps' c' List.mem_cons_self)
        (hsteps c List.mem_cons_self) hlines
      rw [eq_of_blocks_eq (fun x hx => hsteps x (List.mem_cons_of_mem _ hx))
        (fun x hx => hsteps' x (List.mem_cons_of_mem _ hx)) hrest.symm]

end FieldLayout

/-! The layouts -/

theorem newline_not_mem_toDigits (n : Nat) : '\n' ∉ Nat.toDigits 10 n := fun h =>
  absurd (Nat.isDigit_of_mem_toDigits (by decide) (by decide) h) (by decide)

def markdownLayout : FieldLayout where
  heading n := "### " ++ toString n ++ ". "
  target := "**Target:** "
  between := ["", "**Steps:**"]
  first := "- "
  next := "- "
  behind := [""]
  expected := "**Expected:** "
  heading_line n := by simp [newline_not_mem_toDigits]
  one_line := by decide
  ends := by
    rintro outcome after line ⟨⟩
    decide

def textLayout : FieldLayout where
  heading n := toString n ++ ". "
  target := "Target: "
  between := ["Steps:"]
  first := "- "
  next := "- "
  behind := []
  expected := "Expected: "
  heading_line n := by simp [newline_not_mem_toDigits]
  one_line := by decide
  ends := by
    rintro outcome after line ⟨⟩
    simp

def jiraLayout : FieldLayout where
  heading _ := "h3. "
  target := "*Target:* "
  between := ["*Steps:*"]
  first := "* "
  next := "* "
  behind := []
  expected := "*Expected:* "
  heading_line n := by decide
  one_line := by decide
  ends := by
    rintro outcome after line ⟨⟩
    simp

def gherkinLayout : FieldLayout where
  heading n := "Scenario: " ++ toString n ++ " - "
  target := "  Given "
  between := []
  first := "  When "
  next := "  And "
  behind := []
  expected := "  Then "
  heading_line n := by simp [newline_not_mem_toDigits]
  one_line := by decide
  ends := by
    rintro outcome after line ⟨⟩
    simp

theorem orDash_of_ne {s : String} (h : s ≠ "") : orDash s = s := if_neg h

theorem heading_of_fillsLines {c : TestCase} (hc : c.FillsLines) : c.heading = c.title :=
  if_neg hc.title

/-- A list of steps is the lines of the steps where all of them have the same mark. -/
theorem joinLines_bullets {l : FieldLayout} {mark : String} (hfirst : l.first = mark ++ " ")
    (hnext : l.next = mark ++ " ") {steps : List String} (h : steps ≠ [])
    (before behind : List String) :
    joinLines (before ++ bullets mark steps :: behind) =
      joinLines (before ++ (l.stepLines steps ++ behind)) := by
  cases steps with
  | nil => exact absurd rfl h
  | cons step rest =>
    have hlines : bullets mark (step :: rest) = joinLines (l.stepLines (step :: rest)) := by
      rw [bullets, FieldLayout.stepLines, hfirst, hnext]
      rfl
    rw [hlines]
    exact joinLines_nested before (List.cons_ne_nil _ _) behind

theorem markdownCase_eq {c : TestCase} (hc : c.FillsLines) (n : Nat) :
    markdownCase n c = joinLines (markdownLayout.lines n c) := by
  rw [markdownCase, heading_of_fillsLines hc, orDash_of_ne hc.target, orDash_of_ne hc.expected]
  exact joinLines_bullets rfl rfl hc.steps [_, _, "", "**Steps:**"] _

theorem textCase_eq {c : TestCase} (hc : c.FillsLines) (n : Nat) :
    textCase n c = joinLines (textLayout.lines n c) := by
  rw [textCase, heading_of_fillsLines hc, orDash_of_ne hc.target, orDash_of_ne hc.expected]
  exact joinLines_bullets rfl rfl hc.steps [_, _, "Steps:"] _

theorem jiraCase_eq {c : TestCase} (hc : c.FillsLines) (n : Nat) :
    jiraCase c = joinLines (jiraLayout.lines n c) := by
  rw [jiraCase, heading_of_fillsLines hc, orDash_of_ne hc.target, orDash_of_ne hc.expected]
  exact joinLines_bullets rfl rfl hc.steps [_, _, "*Steps:*"] _

theorem gherkinCase_eq {c : TestCase} (hc : c.FillsLines) (n : Nat) :
    gherkinCase n c = joinLines (gherkinLayout.lines n c) := by
  have hsteps : gherkinSteps c.steps = gherkinLayout.stepLines c.steps := by
    cases h : c.steps with
    | nil => exact absurd h hc.steps
    | cons step rest => rfl
  rw [gherkinCase, heading_of_fillsLines hc, if_neg hc.target, if_neg hc.expected, hsteps]
  rfl

theorem writes_jira : jiraLayout.Writes jira := by
  have hnumbered : jira = numbered fun _ c => jiraCase c := by
    funext cases
    have hmap : cases.zipIdx.map (jiraCase ∘ Prod.fst) = cases.map jiraCase := by
      rw [← List.map_map, List.zipIdx_map_fst]
    exact (congrArg joinCases hmap).symm
  rw [hnumbered]
  exact FieldLayout.writes_numbered fun n c hc => jiraCase_eq hc n

end Export

open Export Export.FieldLayout in
/-- In each of the four layouts for readers, test cases that fill their lines are written alike only
if they are the same. -/
theorem ExportFormat.render_eq_render_iff {f : ExportFormat}
    (hf : f ∈ [markdown, txt, jira, gherkin]) {cases cases' : List TestCase}
    (h : ∀ c ∈ cases, c.FillsLines) (h' : ∀ c ∈ cases', c.FillsLines) :
    f.render cases = f.render cases' ↔ cases = cases' := by
  refine ⟨fun heq => ?_, congrArg (render · f)⟩
  simp only [List.mem_cons, List.not_mem_nil, or_false] at hf
  rcases hf with rfl | rfl | rfl | rfl
  · exact (writes_numbered fun n _ hc => markdownCase_eq hc n).eq_of_eq h h' heq
  · exact (writes_numbered fun n _ hc => textCase_eq hc n).eq_of_eq h h' heq
  · exact writes_jira.eq_of_eq h h' heq
  · exact (writes_numbered fun n _ hc => gherkinCase_eq hc n).eq_of_eq h h' heq

def lookalike (steps : List String) : TestCase := ⟨"2. Steps:", "**Steps:**", steps, "- - "⟩

/-- A step that reads like the outcome, and one that reads like a step, still count as steps. -/
theorem ExportFormat.render_eq_render_iff_lookalike :
    let short := [lookalike ["", "Expected: - "]]
    let long := [lookalike ["", "Expected: - ", "- "]]
    markdown.render short ≠ markdown.render long ∧ txt.render short ≠ txt.render long ∧
      jira.render short ≠ jira.render long ∧ gherkin.render short ≠ gherkin.render long := by
  intro short long
  have hshort : ∀ c ∈ short, c.FillsLines := List.forall_mem_singleton.mpr
    ⟨by decide, by decide, by decide, by decide, by decide⟩
  have hlong : ∀ c ∈ long, c.FillsLines := List.forall_mem_singleton.mpr
    ⟨by decide, by decide, by decide, by decide, by decide⟩
  have hne : ∀ f ∈ [markdown, txt, jira, gherkin], f.render short ≠ f.render long := fun f hf =>
    mt (render_eq_render_iff hf hshort hlong).mp (by decide)
  simp only [List.forall_mem_cons, List.not_mem_nil, false_implies, implies_true, and_true] at hne
  exact hne

end Pinpoint
