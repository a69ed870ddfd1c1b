import Pinpoint.Export.Format
import Pinpoint.Export.Layout
import Pinpoint.Snippet.Basic
import Pinpoint.Wire.Values

/-! Test cases as test scripts, and in a layout of choice. Every step of a script is a line that
acts on the target as the wording of the step suggests, with the wording as its comment. -/

namespace Pinpoint

inductive StepAction where
  | submit
  | fill
  | select
  | check
  | click
  deriving DecidableEq, Repr

namespace StepAction

/-- The Kelvin sign is the only character outside ASCII with an ASCII letter as its lower case. -/
def foldChar (c : Char) : Char := if c = '\u212A' then 'k' else c.toLower

def mentions (word : List Char) : List Char → Bool
  | [] => word.isEmpty
  | c :: cs => word.isPrefixOf (c :: cs) || mentions word cs

def ofStep (step : String) : StepAction :=
  let cs := step.toList.map foldChar
  let has (word : String) := mentions word.toList cs
  if has "submit" then .submit
  else if has "type" || has "enter" then .fill
  else if has "select" then .select
  else if has "check" then .check
  else .click

end StepAction

namespace Export

/-- A statement with a comment behind it, which is never empty. -/
def commented (statement : Snippet) (step fallback : String) : String :=
  statement.render ++ " // " ++ (if step = "" then fallback else step)

def playwrightCall : StepAction → Snippet
  | .fill => [.code ".fill(", .literal "", .code ");"]
  | .check => [.code ".check();"]
  | .select => [.code ".selectOption(", .literal "", .code ");"]
  | .submit => [.code ".press(", .literal "Enter", .code ");"]
  | .click => [.code ".click();"]

def playwrightWord : StepAction → String
  | .fill => "fill"
  | .check => "check"
  | .select => "select"
  | .submit => "submit"
  | .click => "click"

def cypressCall : StepAction → Snippet
  | .fill => [.code ".type(", .literal "", .code ");"]
  | .check => [.code ".check();"]
  | .select => [.code ".select(", .literal "", .code ");"]
  | .submit => [.code ".type(", .literal "\x7benter\x7d", .code ");"]
  | .click => [.code ".click();"]

def cypressWord : StepAction → String
  | .fill => "type"
  | .check => "check"
  | .select => "select"
  | .submit => "submit"
  | .click => "click"

def playwrightLine (target step : String) : String :=
  if target = "" then commented [.code " "] step "step"
  else
    let action := StepAction.ofStep step
    let start : Snippet := [.code "  await page.locator(", .literal target, .code ")"]
    commented (start ++ playwrightCall action) step (playwrightWord action)

def cypressLine (target step : String) : String :=
  if target = "" then commented [.code "   "] step "step"
  else
    let action := StepAction.ofStep step
    let start : Snippet := [.code "    cy.get(", .literal target, .code ")"]
    commented (start ++ cypressCall action) step (cypressWord action)

def body (indent : String) (line : String → String → String) (cases : List TestCase) :
    List String :=
  cases.flatMap fun c =>
    if c.steps.isEmpty then [indent ++ "// " ++ c.heading] else c.steps.map (line c.target)

def playwright (cases : List TestCase) : String :=
  joinLines <|
    ["import \x7b test, expect \x7d from '@playwright/test';", "",
      "test('qa generated cases', async (\x7b page \x7d) => \x7b"] ++
    body "  " playwrightLine cases ++ ["\x7d);"]

def cypress (cases : List TestCase) : String :=
  joinLines <|
    ["describe('qa generated cases', () => \x7b", "  it('runs generated steps', () => \x7b"] ++
    body "    " cypressLine cases ++ ["  \x7d);", "\x7d);"]

end Export

def ExportFormat.render (cases : List TestCase) : ExportFormat → String
  | .markdown => Export.markdown cases
  | .gherkin => Export.gherkin cases
  | .json => (Wire.ofTestCases cases).pretty
  | .csv => Export.csv cases
  | .txt => Export.text cases
  | .jira => Export.jira cases
  | .playwright => Export.playwright cases
  | .cypress => Export.cypress cases

end Pinpoint
