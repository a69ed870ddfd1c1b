import Pinpoint.Text.Letters
import Pinpoint.Text.Lines

/-! The layouts in which test cases are written. -/

namespace Pinpoint

inductive ExportFormat where
  | markdown
  | gherkin
  | json
  | csv
  | txt
  | jira
  | playwright
  | cypress
  deriving DecidableEq, Repr

namespace ExportFormat

def all : List ExportFormat := [markdown, gherkin, json, csv, txt, jira, playwright, cypress]

def name : ExportFormat → String
  | markdown => "markdown"
  | gherkin => "gherkin"
  | json => "json"
  | csv => "csv"
  | txt => "txt"
  | jira => "jira"
  | playwright => "playwright"
  | cypress => "cypress"

def ofName? (s : String) : Option ExportFormat := all.find? (·.name = s)

def longName : String → String
  | "md" => "markdown"
  | "feature" => "gherkin"
  | "text" => "txt"
  | s => s

def parse? (s : String) : Option ExportFormat := ofName? (longName (Text.lower (Text.trim s)))

theorem ofName?_name (f : ExportFormat) : ofName? f.name = some f := by
  cases f <;> decide

end ExportFormat

end Pinpoint
