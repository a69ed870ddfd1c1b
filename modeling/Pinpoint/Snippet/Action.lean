import Pinpoint.Dialect
import Pinpoint.Settings
import Pinpoint.Snippet.Basic
import Pinpoint.Verb

/-! Snippets that perform a verb on an element, one table of templates for each back-end. -/

namespace Pinpoint

structure ActionTexts where
  locator : String
  target : String
  file : String

namespace Snippet

def inLines : List Snippet → Snippet
  | [] => []
  | [s] => s
  | s :: rest => s ++ .code "\n" :: inLines rest

def call (name text : String) : Snippet := [.code (name ++ "("), .literal text, .code ")"]

namespace Playwright

def on (t : ActionTexts) (rest : Snippet) : Snippet :=
  .code "await " :: call "page.locator" t.locator ++ .code "." :: rest ++ [.code ";"]

def action (t : ActionTexts) : Verb → Snippet
  | .click => on t [.code "click()"]
  | .doubleClick => on t [.code "dblclick()"]
  | .tripleClick => on t [.code "click(\x7b clickCount: 3 \x7d)"]
  | .hover => on t [.code "hover()"]
  | .rightClick => on t [.code "click(\x7b button: ", .literal "right", .code " \x7d)"]
  | .longPress => on t [.code "click(\x7b delay: 1000 \x7d)"]
  | .swipe | .drag => on t (.code "dragTo(" :: call "page.locator" t.target ++ [.code ")"])
  | .fileUpload =>
    [.code "await page.setInputFiles(", .literal t.locator, .code ", ", .literal t.file,
      .code ");"]
  | .type => on t (call "fill" "")
  | .selectOption => on t (call "selectOption" "")
  | .check => on t [.code "check()"]
  | .uncheck => on t [.code "uncheck()"]
  | .pressEnter => on t (call "press" "Enter")
  | .pressEscape => on t (call "press" "Escape")
  | .pressTab => on t (call "press" "Tab")
  | .scrollIntoView => on t [.code "scrollIntoViewIfNeeded()"]

end Playwright

namespace Cypress

def get (locator : String) (rest : Snippet) : Snippet :=
  call "cy.get" locator ++ .code "." :: rest ++ [.code ";"]

def release (t : ActionTexts) (first second : String) : Snippet :=
  get t.target (call "trigger" first ++ .code "." :: call "trigger" second)

def action (t : ActionTexts) : Verb → Snippet
  | .click => get t.locator [.code "click()"]
  | .doubleClick => get t.locator [.code "dblclick()"]
  | .tripleClick => get t.locator [.code "click().click().click()"]
  | .hover => get t.locator (call "trigger" "mouseover")
  | .rightClick => get t.locator [.code "rightclick()"]
  | .longPress =>
    inLines [get t.locator (call "trigger" "mousedown"), [.code "cy.wait(1000);"],
      get t.locator (call "trigger" "mouseup")]
  | .swipe =>
    inLines [get t.locator (call "trigger" "pointerdown"), release t "pointermove" "pointerup"]
  | .drag => inLines [get t.locator (call "trigger" "mousedown"), release t "mousemove" "mouseup"]
  | .fileUpload => get t.locator (call "selectFile" t.file)
  | .type => get t.locator (call "type" "")
  | .selectOption => get t.locator (call "select" "")
  | .check => get t.locator [.code "check()"]
  | .uncheck => get t.locator [.code "uncheck()"]
  | .pressEnter => get t.locator (call "type" "\x7benter\x7d")
  | .pressEscape => get t.locator (call "type" "\x7besc\x7d")
  | .pressTab => get t.locator (call "type" "\x7btab\x7d")
  | .scrollIntoView => get t.locator [.code "scrollIntoView()"]

end Cypress

namespace Selenium

def find (locator : String) : Snippet :=
  .code "driver.findElement(" :: call "By.css" locator ++ [.code ")"]

def on (t : ActionTexts) (rest : Snippet) : Snippet :=
  .code "await " :: find t.locator ++ .code "." :: rest ++ [.code ";"]

def declare (name locator : String) : Snippet :=
  .code ("const " ++ name ++ " = await ") :: find locator ++ [.code ";"]

def withElement (t : ActionTexts) (rest : List Snippet) : Snippet :=
  inLines (declare "el" t.locator :: rest)

def perform (calls : String) : Snippet :=
  [.code ("await driver.actions()." ++ calls ++ ".perform();")]

def scrollScript : String := "arguments[0].scrollIntoView(\x7bblock: \"center\"\x7d);"

def action (t : ActionTexts) : Verb → Snippet
  | .click | .check | .uncheck => on t [.code "click()"]
  | .doubleClick => withElement t [perform "doubleClick(el)"]
  | .tripleClick => withElement t (List.replicate 3 [.code "await el.click();"])
  | .hover => withElement t [perform "move(\x7b origin: el \x7d)"]
  | .rightClick => withElement t [perform "contextClick(el)"]
  | .longPress => withElement t [perform "clickAndHold(el).pause(1000).release()"]
  | .swipe | .drag => withElement t [declare "target" t.target, perform "dragAndDrop(el, target)"]
  | .fileUpload => on t (call "sendKeys" t.file)
  | .type => on t (call "sendKeys" "")
  | .selectOption => on t (call "sendKeys" "OPTION_VALUE")
  | .pressEnter => on t [.code "sendKeys(Key.ENTER)"]
  | .pressEscape => on t [.code "sendKeys(Key.ESCAPE)"]
  | .pressTab => on t [.code "sendKeys(Key.TAB)"]
  | .scrollIntoView =>
    withElement t [[.code "await driver.executeScript(", .literal scrollScript, .code ", el);"]]

end Selenium

namespace BrowserEvents

def query (t : ActionTexts) : Snippet := call "document.querySelector" t.locator

/-- An event that rises from the element; `details` are further members of its description. -/
def event (interface name : String) (details : Snippet) : Snippet :=
  .code ("new " ++ interface ++ "(") :: .literal name :: .code ", \x7b " :: details ++
    [.code "bubbles: true \x7d)"]

def dispatch (t : ActionTexts) (e : Snippet) : Snippet :=
  query t ++ .code "?.dispatchEvent(" :: e ++ [.code ");"]

def dispatchOnElement (e : Snippet) : Snippet :=
  .code "el.dispatchEvent(" :: e ++ [.code ");"]

/-- Statements about the element under the name `el`, if there is one. -/
def withElement (t : ActionTexts) (body : Snippet) : Snippet :=
  .code "const el = " :: query t ++ .code ";\nif (el) \x7b " :: body ++ [.code " \x7d"]

def key (name : String) : Snippet :=
  event "KeyboardEvent" "keydown" [.code "key: ", .literal name, .code ", "]

def laterRelease : Snippet :=
  .code "\nsetTimeout(() => el.dispatchEvent(" :: event "MouseEvent" "mouseup" [] ++
    [.code "), 1000);"]

def action (t : ActionTexts) : Verb → Snippet
  | .click => query t ++ [.code "?.click();"]
  | .doubleClick => dispatch t (event "MouseEvent" "dblclick" [])
  | .tripleClick => withElement t [.code "el.click(); el.click(); el.click();"]
  | .hover => dispatch t (event "MouseEvent" "mouseover" [])
  | .rightClick => dispatch t (event "MouseEvent" "contextmenu" [])
  | .longPress =>
    withElement t (dispatchOnElement (event "MouseEvent" "mousedown" []) ++ laterRelease)
  | .swipe => withElement t (dispatchOnElement (event "PointerEvent" "pointerdown" []))
  | .drag => withElement t (dispatchOnElement (event "DragEvent" "dragstart" []))
  | .fileUpload => dispatch t (event "Event" "change" [])
  | .type =>
    withElement t (.code "el.focus(); el.value = " :: .literal "" :: .code "; " ::
      dispatchOnElement (event "Event" "input" []))
  | .selectOption =>
    withElement t (.code "el.value = " :: .literal "" :: .code "; " ::
      dispatchOnElement (event "Event" "change" []))
  | .check =>
    withElement t (.code "el.checked = true; " :: dispatchOnElement (event "Event" "change" []))
  | .uncheck =>
    withElement t (.code "el.checked = false; " :: dispatchOnElement (event "Event" "change" []))
  | .pressEnter => dispatch t (key "Enter")
  | .pressEscape => dispatch t (key "Escape")
  | .pressTab => dispatch t (key "Tab")
  | .scrollIntoView =>
    query t ++ [.code "?.scrollIntoView(\x7b behavior: ", .literal "smooth", .code ", block: ",
      .literal "center", .code " \x7d);"]

end BrowserEvents

def ofAction (t : ActionTexts) (verb : Verb) : Backend → Snippet
  | .playwright => Playwright.action t verb
  | .cypress => Cypress.action t verb
  | .selenium => Selenium.action t verb
  | .browserEvents => BrowserEvents.action t verb

end Snippet

/-- The snippet that performs a verb; there is none for the empty locator. -/
def Settings.action (settings : Settings) (locator : String) (dialect : Dialect) (verb : Verb) :
    String :=
  if locator = "" then ""
  else
    let texts := ⟨locator, settings.targetPlaceholder, settings.filePlaceholder⟩
    (Snippet.ofAction texts verb dialect.backend).render

end Pinpoint
