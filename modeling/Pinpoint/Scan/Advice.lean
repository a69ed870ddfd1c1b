/-! Test cases that a tester may carry out by hand, and advice: what to try on one kind of control,
whichever control it is. -/

namespace Pinpoint

structure TestCase where
  title : String
  target : String
  steps : List String
  expected : String
  deriving DecidableEq, Repr

structure Advice where
  title : String
  steps : List String
  expected : String

namespace Advice

def at_ (a : Advice) (target : String) : TestCase := ⟨a.title, target, a.steps, a.expected⟩

def form (n : Nat) : Advice :=
  ⟨"Form " ++ toString n ++ " validation",
    ["Submit with empty required fields", "Verify validation messages",
      "Submit with valid values"],
    "Required errors displayed, valid submission succeeds"⟩

def password : Advice :=
  ⟨"Password field behavior",
    ["Enter weak password", "Enter strong password", "Toggle show/hide if available"],
    "Validation reflects strength rules and visibility toggles work"⟩

def email : Advice :=
  ⟨"Email format validation",
    ["Enter invalid email", "Enter valid email", "Check trimming and normalization"],
    "Invalid formats rejected and valid formats accepted"⟩

def search : Advice :=
  ⟨"Search behavior",
    ["Search with empty query", "Search with special characters", "Search with long query"],
    "Handles empty/special queries and returns results or empty state"⟩

def externalLink : Advice :=
  ⟨"External link safety",
    ["Click external link", "Verify rel=noopener and correct target"],
    "External links open safely without window.opener"⟩

def number : Advice :=
  ⟨"Number field boundaries", ["Enter min-1", "Enter max+1", "Enter decimals"],
    "Invalid ranges rejected, valid numbers accepted"⟩

def date : Advice :=
  ⟨"Date field validation", ["Enter invalid date", "Enter leap day", "Enter valid date"],
    "Invalid dates rejected, valid dates accepted"⟩

def file : Advice :=
  ⟨"File upload validation",
    ["Upload invalid file type", "Upload large file", "Upload valid file"],
    "Only allowed file types and sizes are accepted"⟩

def acceptList : Advice :=
  ⟨"File accept restrictions", ["Upload file outside accept list", "Upload allowed file"],
    "Only accepted file extensions/types are allowed"⟩

def select : Advice :=
  ⟨"Select list validation",
    ["Choose default option", "Select valid option", "Try invalid value"],
    "Selection requires valid option and default behaves as expected"⟩

def multipleSelect : Advice :=
  ⟨"Multi-select list behavior",
    ["Select multiple options", "Deselect option", "Submit form"],
    "Multiple selections are preserved and validated"⟩

def checkbox : Advice :=
  ⟨"Checkbox states", ["Check", "Uncheck", "Submit form"], "Checkbox state saved and validated"⟩

def radio : Advice :=
  ⟨"Radio group selection", ["Select option A", "Select option B", "Submit form"],
    "Only one option selectable at a time"⟩

def blocked : Advice :=
  ⟨"Disabled/readonly field handling", ["Try to focus", "Attempt input", "Submit form"],
    "Disabled or readonly fields block editing and behave consistently"⟩

def autocompleteOff : Advice :=
  ⟨"Autocomplete disabled", ["Focus input", "Attempt browser autofill"],
    "Autocomplete is disabled for sensitive fields"⟩

def requiredField : Advice :=
  ⟨"Required field enforcement", ["Leave field empty", "Submit form"],
    "Required field blocks submission with clear error"⟩

def enterCharacters (count : String) : List String := ["Enter " ++ count ++ " characters", "Submit"]

/-- `count` is one less than the least length. -/
def minLength (count : String) : Advice :=
  ⟨"Min length validation", enterCharacters count, "Input shorter than min length is rejected"⟩

/-- `count` is one more than the greatest length. -/
def maxLength (count : String) : Advice :=
  ⟨"Max length validation", enterCharacters count, "Input longer than max length is rejected"⟩

def pattern : Advice :=
  ⟨"Pattern validation", ["Enter invalid pattern value", "Enter valid pattern value"],
    "Pattern mismatch rejected and valid pattern accepted"⟩

def url : Advice :=
  ⟨"URL input validation", ["Enter invalid URL", "Enter valid URL", "Enter URL with query"],
    "Only valid URL formats are accepted"⟩

def telephone : Advice :=
  ⟨"Telephone input validation",
    ["Enter letters", "Enter intl number", "Enter formatted number"],
    "Only valid phone formats are accepted"⟩

def textarea : Advice :=
  ⟨"Textarea length handling",
    ["Enter long text", "Enter special characters", "Submit form"],
    "Textarea accepts allowed content and respects limits"⟩

def editable : Advice :=
  ⟨"Contenteditable input", ["Enter formatted text", "Paste content", "Submit form"],
    "Editable region stores content safely"⟩

def frame : Advice :=
  ⟨"Embedded iframe content",
    ["Verify iframe loads", "Check permissions/sandbox", "Test interactions inside iframe"],
    "Iframe content loads securely and interactions work"⟩

end Advice

end Pinpoint
