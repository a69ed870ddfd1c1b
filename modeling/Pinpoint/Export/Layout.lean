import Pinpoint.Json.Printer
import Pinpoint.Scan.Advice

/-! Test cases as prose and as a table. -/

namespace Pinpoint

namespace TestCase

def heading (c : TestCase) : String := if c.title = "" then "Test case" else c.title

end TestCase

namespace Export

def orDash (s : String) : String := if s = "" then "-" else s

def joinLines (lines : List String) : String := "\n".intercalate lines

def joinCases (cases : List String) : String := "\n\n".intercalate cases

def bullets (mark : String) (steps : List String) : String :=
  if steps.isEmpty then "-" else joinLines (steps.map fun step => mark ++ " " ++ step)

def numbered (render : Nat → TestCase → String) (cases : List TestCase) : String :=
  joinCases (cases.zipIdx.map fun (c, i) => render (i + 1) c)

def markdownCase (n : Nat) (c : TestCase) : String :=
  joinLines ["### " ++ toString n ++ ". " ++ c.heading, "**Target:** " ++ orDash c.target, "",
    "**Steps:**", bullets "-" c.steps, "", "**Expected:** " ++ orDash c.expected]

def textCase (n : Nat) (c : TestCase) : String :=
  joinLines [toString n ++ ". " ++ c.heading, "Target: " ++ orDash c.target, "Steps:",
    bullets "-" c.steps, "Expected: " ++ orDash c.expected]

def jiraCase (c : TestCase) : String :=
  joinLines ["h3. " ++ c.heading, "*Target:* " ++ orDash c.target, "*Steps:*",
    bullets "*" c.steps, "*Expected:* " ++ orDash c.expected]

def gherkinSteps : List String → List String
  | [] => ["  When the user interacts"]
  | first :: rest => ("  When " ++ first) :: rest.map ("  And " ++ ·)

def gherkinCase (n : Nat) (c : TestCase) : String :=
  let given := if c.target = "" then "the element" else c.target
  joinLines <|
    ["Scenario: " ++ toString n ++ " - " ++ c.heading, "  Given " ++ given] ++
      gherkinSteps c.steps ++ (if c.expected = "" then [] else ["  Then " ++ c.expected])

def markdown (cases : List TestCase) : String := numbered markdownCase cases

def text (cases : List TestCase) : String := numbered textCase cases

def jira (cases : List TestCase) : String := joinCases (cases.map jiraCase)

def gherkin (cases : List TestCase) : String := numbered gherkinCase cases

def csvRow (c : TestCase) : String :=
  ",".intercalate ([c.heading, c.target, " | ".intercalate c.steps, c.expected].map Json.stringText)

def csv (cases : List TestCase) : String :=
  joinLines ("title,target,steps,expected" :: cases.map csvRow)

end Export

end Pinpoint
