import Pinpoint.Proofs.Snippet.Literal
import Pinpoint.Snippet.Action
import Pinpoint.Snippet.Passive

/-! What stands in the literals of each kind of snippet. The code around the literals belongs to the
kind alone, so no text that a page or a tester supplies can become code. -/

namespace Pinpoint.Snippet

structure Texts where
  locator : String
  settings : Settings
  role : String
  name : String
  testId : String
  frame : String

def Texts.forAction (t : Texts) : ActionTexts :=
  ⟨t.locator, t.settings.targetPlaceholder, t.settings.filePlaceholder⟩

inductive Kind where
  | passive (dialect : Dialect) (quotes : dialect.family ≠ .raw ∧ dialect.family ≠ .xpath)
  | action (dialect : Dialect) (verb : Verb)
  | byRole
  | byLabel
  | byTestId
  | inFrame

inductive Slot where
  | constant (text : String)
  | locator
  | target
  | file
  | role
  | name
  | testId
  | frame
  deriving DecidableEq, Repr

def Slot.text (t : Texts) : Slot → String
  | constant text => text
  | locator => t.locator
  | target => t.settings.targetPlaceholder
  | file => t.settings.filePlaceholder
  | role => t.role
  | name => t.name
  | testId => t.testId
  | frame => t.frame

/-! The literals of an action, in order -/

def Playwright.slots : Verb → List Slot
  | .rightClick => [.locator, .constant "right"]
  | .swipe | .drag => [.locator, .target]
  | .fileUpload => [.locator, .file]
  | .type | .selectOption => [.locator, .constant ""]
  | .pressEnter => [.locator, .constant "Enter"]
  | .pressEscape => [.locator, .constant "Escape"]
  | .pressTab => [.locator, .constant "Tab"]
  | _ => [.locator]

def Cypress.slots : Verb → List Slot
  | .hover => [.locator, .constant "mouseover"]
  | .longPress => [.locator, .constant "mousedown", .locator, .constant "mouseup"]
  | .swipe =>
    [.locator, .constant "pointerdown", .target, .constant "pointermove", .constant "pointerup"]
  | .drag => [.locator, .constant "mousedown", .target, .constant "mousemove", .constant "mouseup"]
  | .fileUpload => [.locator, .file]
  | .type | .selectOption => [.locator, .constant ""]
  | .pressEnter => [.locator, .constant "\x7benter\x7d"]
  | .pressEscape => [.locator, .constant "\x7besc\x7d"]
  | .pressTab => [.locator, .constant "\x7btab\x7d"]
  | _ => [.locator]

def Selenium.slots : Verb → List Slot
  | .swipe | .drag => [.locator, .target]
  | .fileUpload => [.locator, .file]
  | .type => [.locator, .constant ""]
  | .selectOption => [.locator, .constant "OPTION_VALUE"]
  | .scrollIntoView => [.locator, .constant scrollScript]
  | _ => [.locator]

def BrowserEvents.slots : Verb → List Slot
  | .doubleClick => [.locator, .constant "dblclick"]
  | .hover => [.locator, .constant "mouseover"]
  | .rightClick => [.locator, .constant "contextmenu"]
  | .longPress => [.locator, .constant "mousedown", .constant "mouseup"]
  | .swipe => [.locator, .constant "pointerdown"]
  | .drag => [.locator, .constant "dragstart"]
  | .fileUpload | .check | .uncheck => [.locator, .constant "change"]
  | .type => [.locator, .constant "", .constant "input"]
  | .selectOption => [.locator, .constant "", .constant "change"]
  | .pressEnter => [.locator, .constant "keydown", .constant "Enter"]
  | .pressEscape => [.locator, .constant "keydown", .constant "Escape"]
  | .pressTab => [.locator, .constant "keydown", .constant "Tab"]
  | .scrollIntoView => [.locator, .constant "smooth", .constant "center"]
  | _ => [.locator]

def actionSlots (verb : Verb) : Backend → List Slot
  | .playwright => Playwright.slots verb
  | .cypress => Cypress.slots verb
  | .selenium => Selenium.slots verb
  | .browserEvents => BrowserEvents.slots verb

namespace Kind

def slots : Kind → List Slot
  | passive _ _ => [.locator]
  | action dialect verb => actionSlots verb dialect.backend
  | byRole => [.role, .name]
  | byLabel => [.name, .constant ""]
  | byTestId => [.testId]
  | inFrame => [.frame, .locator]

def write (kind : Kind) (t : Texts) : String :=
  match kind with
  | passive dialect _ => Pinpoint.passive t.locator dialect
  | action dialect verb => t.settings.action t.locator dialect verb
  | byRole => (ofMeaning t.locator (.role t.role t.name)).render
  | byLabel => (ofMeaning t.locator (.label t.name)).render
  | byTestId => (ofMeaning t.locator (.testId t.testId)).render
  | inFrame => (ofMeaning t.locator (.frame t.frame)).render

def snippet (kind : Kind) (t : Texts) : Snippet :=
  match kind with
  | passive dialect _ => click t.locator dialect.family
  | action dialect verb => ofAction t.forAction verb dialect.backend
  | byRole => ofMeaning t.locator (.role t.role t.name)
  | byLabel => ofMeaning t.locator (.label t.name)
  | byTestId => ofMeaning t.locator (.testId t.testId)
  | inFrame => ofMeaning t.locator (.frame t.frame)

theorem write_eq_render {t : Texts} (h : t.locator ≠ "") (kind : Kind) :
    kind.write t = (kind.snippet t).render := by
  cases kind with
  | passive dialect quotes => exact if_neg h
  | action dialect verb => exact if_neg h
  | byRole | byLabel | byTestId | inFrame => rfl

end Kind

/-- A template that holds the texts of its slots, and else the same closed code for all texts. -/
structure Fits (template : Texts → Snippet) (slots : List Slot) : Prop where
  closed : ∀ t, (template t).isClosed = true
  blank : ∀ t u, (template t).blank = (template u).blank
  quoted : ∀ t, (template t).quoted = slots.map (Slot.text t)

theorem click_fits {family : Family} (h : family ≠ .raw ∧ family ≠ .xpath) :
    Fits (fun t => click t.locator family) [.locator] := by
  cases family with
  | raw => exact absurd rfl h.1
  | xpath => exact absurd rfl h.2
  | playwright | playwrightSemantic | cypress | selenium | vanillaJs =>
    exact ⟨fun _ => rfl, fun _ _ => rfl, fun _ => rfl⟩

theorem Playwright.fits (verb : Verb) :
    Fits (fun t => Playwright.action t.forAction verb) (Playwright.slots verb) := by
  cases verb <;> exact ⟨fun _ => rfl, fun _ _ => rfl, fun _ => rfl⟩

theorem Cypress.fits (verb : Verb) :
    Fits (fun t => Cypress.action t.forAction verb) (Cypress.slots verb) := by
  cases verb <;> exact ⟨fun _ => rfl, fun _ _ => rfl, fun _ => rfl⟩

theorem Selenium.fits (verb : Verb) :
    Fits (fun t => Selenium.action t.forAction verb) (Selenium.slots verb) := by
  cases verb <;> exact ⟨fun _ => rfl, fun _ _ => rfl, fun _ => rfl⟩

theorem BrowserEvents.fits (verb : Verb) :
    Fits (fun t => BrowserEvents.action t.forAction verb) (BrowserEvents.slots verb) := by
  cases verb <;> exact ⟨fun _ => rfl, fun _ _ => rfl, fun _ => rfl⟩

theorem ofAction_fits (verb : Verb) (backend : Backend) :
    Fits (fun t => ofAction t.forAction verb backend) (actionSlots verb backend) := by
  cases backend with
  | playwright => exact Playwright.fits verb
  | cypress => exact Cypress.fits verb
  | selenium => exact Selenium.fits verb
  | browserEvents => exact BrowserEvents.fits verb

theorem Kind.fits (kind : Kind) : Fits kind.snippet kind.slots := by
  cases kind with
  | passive dialect quotes => exact click_fits quotes
  | action dialect verb => exact ofAction_fits verb dialect.backend
  | byRole | byLabel | byTestId | inFrame => exact ⟨fun _ => rfl, fun _ _ => rfl, fun _ => rfl⟩

theorem isLineEnd_of_mem_raws {s : Snippet} {raw : List Char} (hraw : raw ∈ s.division.raws)
    {c : Char} (hc : c ∈ raw) : isLineEnd c = false := by
  rw [raws_division] at hraw
  obtain ⟨text, -, rfl⟩ := List.mem_map.mp hraw
  exact isLineEnd_of_mem_quote hc

theorem unquote_raws (s : Snippet) :
    s.division.raws.map unquote = s.quoted.map fun text => some text.toList := by
  rw [raws_division, List.map_map]
  exact List.map_congr_left fun text _ => unquote_quote text

/-- Whatever the texts are, a snippet has the same code, and it divides into this code and one
literal for each slot, which keeps to its line and denotes exactly the text of the slot. -/
theorem texts_stay_in_literals (kind : Kind) :
    ∃ codes, ∀ t : Texts, t.locator ≠ "" → ∃ d,
      divide (kind.write t).toList = some d ∧
      d.codes = codes ∧
      (∀ raw ∈ d.raws, ∀ c ∈ raw, isLineEnd c = false) ∧
      d.raws.map unquote = kind.slots.map fun slot => some (slot.text t).toList := by
  have hfits := kind.fits
  -- the code is read off the texts of one fixed element
  refine ⟨(kind.snippet ⟨"", .standard, "", "", "", ""⟩).division.codes, fun t ht => ?_⟩
  refine ⟨(kind.snippet t).division, ?_, ?_, ?_, ?_⟩
  · rw [Kind.write_eq_render ht]
    exact divide_render (hfits.closed t)
  · rw [← codes_division_blank, hfits.blank t, codes_division_blank]
  · exact fun raw hraw c hc => isLineEnd_of_mem_raws hraw hc
  · rw [unquote_raws, hfits.quoted, List.map_map]
    rfl

/-- A drag whose locator ends in a backslash and a quote, to a target that would go on with a call
of its own on a new line. -/
theorem texts_stay_in_literals_drag :
    let drag := Kind.action .cypress .drag
    let plain : Texts := ⟨"a", .standard, "", "", "", ""⟩
    let hostile : Texts :=
      ⟨"a\\'", { Settings.standard with targetPlaceholder := "b\n'); evil('\u2028" }, "", "", "", ""⟩
    (plain.locator ≠ "" ∧ hostile.locator ≠ "") ∧
      ∃ d d', divide (drag.write plain).toList = some d ∧
        divide (drag.write hostile).toList = some d' ∧ d.codes = d'.codes ∧
        d'.raws.map unquote =
          ["a\\'", "mousedown", "b\n'); evil('\u2028", "mousemove", "mouseup"].map
            (some ·.toList) := by
  intro drag plain hostile
  have hplain : plain.locator ≠ "" := by decide
  have hhostile : hostile.locator ≠ "" := by decide
  obtain ⟨codes, h⟩ := texts_stay_in_literals drag
  obtain ⟨d, hd, hcodes, -, -⟩ := h plain hplain
  obtain ⟨d', hd', hcodes', -, hraws⟩ := h hostile hhostile
  exact ⟨⟨hplain, hhostile⟩, d, d', hd, hd', hcodes.trans hcodes'.symm, hraws⟩

end Pinpoint.Snippet
