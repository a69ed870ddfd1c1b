import Pinpoint.Dialect
import Pinpoint.Document.Basic
import Pinpoint.Locator.Absolute
import Pinpoint.Semantics
import Pinpoint.Snippet.Basic

/-! Snippets that click an element, by its locator alone or by what the element means. -/

namespace Pinpoint

inductive Meaning where
  | role (role name : String)
  | label (name : String)
  | testId (value : String)
  | frame (selector : String)
  | path (xpath : String)
  deriving DecidableEq, Repr

namespace Snippet

def click (locator : String) : Family → Snippet
  | .raw | .xpath => [.code locator]
  | .playwright | .playwrightSemantic =>
    [.code "await page.locator(", .literal locator, .code ").click();"]
  | .cypress => [.code "cy.get(", .literal locator, .code ").click();"]
  | .selenium => [.code "await driver.findElement(By.css(", .literal locator, .code ")).click();"]
  | .vanillaJs => [.code "document.querySelector(", .literal locator, .code ")?.click();"]

def ofMeaning (locator : String) : Meaning → Snippet
  | .role role name =>
    [.code "await page.getByRole(", .literal role, .code ", \x7b name: ", .literal name,
      .code " \x7d).click();"]
  | .label name =>
    [.code "await page.getByLabel(", .literal name, .code ").fill(", .literal "", .code ");"]
  | .testId value => [.code "await page.getByTestId(", .literal value, .code ").click();"]
  | .frame selector =>
    [.code "await page.frameLocator(", .literal selector, .code ").locator(", .literal locator,
      .code ").click();"]
  | .path xpath => [.code xpath]

end Snippet

def passive (locator : String) (dialect : Dialect) : String :=
  if locator = "" then "" else (Snippet.click locator dialect.family).render

def nonEmptyText? (s : String) : Option String := if s = "" then none else some s

/-- The meaning that the dialect asks for. A role counts only together with a name. -/
def Document.meaning? (d : Document) (settings : Settings) (s : Site) : Dialect → Option Meaning
  | .playwrightRole => do
    let role ← s.element.role?
    let name ← nonEmptyText? (d.accessibleName s)
    some (.role role name)
  | .playwrightLabel => (nonEmptyText? (d.accessibleName s)).map .label
  | .playwrightTestId => (settings.testId? s.element).map .testId
  | .playwrightFrame => (nonEmptyText? d.frameLocator).map .frame
  | .xpath => some (.path (d.absolute s).value)
  | _ => none

/-- The snippet made from the meaning of the element, as far as the dialect has a use for it and
the element has that meaning; otherwise the passive one. -/
def Document.strategy (d : Document) (settings : Settings) (site : Option Site)
    (locator : String) (dialect : Dialect) : String :=
  if locator = "" then ""
  else match site.bind fun s => d.meaning? settings s dialect with
    | some meaning => (Snippet.ofMeaning locator meaning).render
    | none => passive locator dialect

structure PreviewEntry where
  dialect : Dialect
  snippet : String
  deriving DecidableEq, Repr

def Document.preview (d : Document) (settings : Settings) (site : Option Site)
    (locator : String) (dialects : List Dialect) : List PreviewEntry :=
  dialects.map fun dialect => ⟨dialect, d.strategy settings site locator dialect⟩

end Pinpoint
