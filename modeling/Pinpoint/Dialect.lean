import Pinpoint.Text.Letters
import Pinpoint.Text.Lines

/-! Dialects: the automation grammars that snippets are written in. -/

namespace Pinpoint

inductive Dialect where
  | css
  | playwright
  | playwrightTs
  | playwrightRole
  | playwrightLabel
  | playwrightTestId
  | playwrightFrame
  | xpath
  | cypress
  | cypressTs
  | seleniumJs
  | seleniumTs
  | js
  deriving DecidableEq, Repr

inductive Family where
  | raw
  | playwright
  | playwrightSemantic
  | xpath
  | cypress
  | selenium
  | vanillaJs
  deriving DecidableEq, Repr

inductive Backend where
  | playwright
  | cypress
  | selenium
  | browserEvents
  deriving DecidableEq, Repr

namespace Dialect

def all : List Dialect :=
  [css, playwright, playwrightTs, playwrightRole, playwrightLabel, playwrightTestId,
    playwrightFrame, xpath, cypress, cypressTs, seleniumJs, seleniumTs, js]

def actionTargets : List Dialect :=
  [playwright, playwrightTs, cypress, cypressTs, seleniumJs, seleniumTs, js]

def name : Dialect → String
  | css => "css"
  | playwright => "playwright"
  | playwrightTs => "playwright-ts"
  | playwrightRole => "playwright-role"
  | playwrightLabel => "playwright-label"
  | playwrightTestId => "playwright-testid"
  | playwrightFrame => "playwright-frame"
  | xpath => "xpath"
  | cypress => "cypress"
  | cypressTs => "cypress-ts"
  | seleniumJs => "selenium-js"
  | seleniumTs => "selenium-ts"
  | js => "js"

def label : Dialect → String
  | css => "CSS selector"
  | playwright => "Playwright (CSS)"
  | playwrightTs => "Playwright (TypeScript)"
  | playwrightRole => "Playwright (getByRole)"
  | playwrightLabel => "Playwright (getByLabel)"
  | playwrightTestId => "Playwright (getByTestId)"
  | playwrightFrame => "Playwright (iframe)"
  | xpath => "XPath"
  | cypress => "Cypress (CSS)"
  | cypressTs => "Cypress (TypeScript)"
  | seleniumJs => "Selenium (JavaScript)"
  | seleniumTs => "Selenium (TypeScript)"
  | js => "Vanilla JS"

def family : Dialect → Family
  | css => .raw
  | playwright | playwrightTs => .playwright
  | playwrightRole | playwrightLabel | playwrightTestId | playwrightFrame => .playwrightSemantic
  | xpath => .xpath
  | cypress | cypressTs => .cypress
  | seleniumJs | seleniumTs => .selenium
  | js => .vanillaJs

def backend : Dialect → Backend
  | playwright | playwrightTs | playwrightRole | playwrightLabel | playwrightTestId
  | playwrightFrame => .playwright
  | cypress | cypressTs => .cypress
  | seleniumJs | seleniumTs => .selenium
  | css | xpath | js => .browserEvents

def isSemantic (d : Dialect) : Bool := d.family = .playwrightSemantic || d.family = .xpath

def ofName? (s : String) : Option Dialect := all.find? (·.name = s)

def parse? (s : String) : Option Dialect :=
  all.find? fun d => Text.equalIgnoringCase d.name (Text.trim s)

theorem ofName?_name (d : Dialect) : ofName? d.name = some d := by
  cases d <;> decide

end Dialect

end Pinpoint
