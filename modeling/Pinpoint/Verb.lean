import Pinpoint.Text.Letters
import Pinpoint.Text.Lines

/-! Verbs: what a tester does to an element. -/

namespace Pinpoint

inductive Verb where
  | click
  | doubleClick
  | tripleClick
  | hover
  | rightClick
  | longPress
  | swipe
  | drag
  | fileUpload
  | type
  | selectOption
  | check
  | uncheck
  | pressEnter
  | pressEscape
  | pressTab
  | scrollIntoView
  deriving DecidableEq, Repr

namespace Verb

def all : List Verb :=
  [click, doubleClick, tripleClick, hover, rightClick, longPress, swipe, drag, fileUpload, type,
    selectOption, check, uncheck, pressEnter, pressEscape, pressTab, scrollIntoView]

def name : Verb → String
  | click => "click"
  | doubleClick => "double"
  | tripleClick => "triple"
  | hover => "hover"
  | rightClick => "right"
  | longPress => "long-press"
  | swipe => "swipe"
  | drag => "drag"
  | fileUpload => "file-upload"
  | type => "type"
  | selectOption => "select"
  | check => "check"
  | uncheck => "uncheck"
  | pressEnter => "key-enter"
  | pressEscape => "key-escape"
  | pressTab => "key-tab"
  | scrollIntoView => "scroll"

def label : Verb → String
  | click => "Click"
  | doubleClick => "Double click"
  | tripleClick => "Triple click"
  | hover => "Hover"
  | rightClick => "Right click"
  | longPress => "Long press"
  | swipe => "Swipe"
  | drag => "Drag & drop"
  | fileUpload => "File upload"
  | type => "Type"
  | selectOption => "Select option"
  | check => "Check"
  | uncheck => "Uncheck"
  | pressEnter => "Press Enter"
  | pressEscape => "Press Escape"
  | pressTab => "Press Tab"
  | scrollIntoView => "Scroll into view"

/-- A second element takes part. -/
def needsTarget (v : Verb) : Bool := v = swipe || v = drag

def ofAlias? : String → Option Verb
  | "double-click" | "dblclick" => some doubleClick
  | "triple-click" => some tripleClick
  | "right-click" | "context-click" => some rightClick
  | "longpress" | "long-click" => some longPress
  | "drag-and-drop" | "drag-drop" => some drag
  | "upload" | "file" => some fileUpload
  | "fill" => some type
  | "select-option" => some selectOption
  | "press-enter" | "enter" => some pressEnter
  | "press-escape" | "escape" | "esc" => some pressEscape
  | "press-tab" | "tab" => some pressTab
  | "scroll-into-view" => some scrollIntoView
  | _ => none

def parse? (s : String) : Option Verb :=
  let s := Text.lower (Text.trim s)
  (all.find? (·.name = s)).or (ofAlias? s)

/-- What cannot be read is a click. -/
def parse (s : String) : Verb := (parse? s).getD click

end Verb

end Pinpoint
