import Pinpoint.Locator.Structural
import Pinpoint.Scan.Advice
import Pinpoint.Text.Letters

/-! Scanning a page: which advice its controls call for. Advice on single controls comes once for
each of them, in document order; the rest comes at most once. -/

namespace Pinpoint

namespace Element

def has (e : Element) (name : String) : Bool := (e.attribute? name).isSome

def isControl (e : Element) : Bool := ["input", "textarea", "select"].contains e.tag

/-- The type of an input as it is compared. -/
def inputType (e : Element) : String :=
  match e.attribute? "type" with
  | some type => Text.lower (Text.trim type)
  | none => "text"

def isInputOfType (e : Element) (type : String) : Bool := e.tag = "input" && e.inputType = type

end Element

/-- A length with something added, as words of 64 bits are added: a sum that is too large wraps
around. What is no number stays as it is. -/
def shiftLength (value : String) (delta : Int64) : String :=
  match Text.signed? (Text.trim value).toList with
  | some n => toString (n + delta)
  | none => value

namespace Advice

def onFile (e : Element) : List Advice :=
  file :: if (e.attributes.nonEmpty? "accept").isSome then [acceptList] else []

def onSelect (e : Element) : List Advice :=
  select :: if e.has "multiple" then [multipleSelect] else []

def isAutocompleteOff (e : Element) : Bool :=
  e.tag = "input" &&
    (e.attribute? "autocomplete").any fun value => Text.equalIgnoringCase (Text.trim value) "off"

def onRestrictions (e : Element) : List Advice :=
  (if e.has "disabled" || e.has "readonly" then [blocked] else []) ++
  (if isAutocompleteOff e then [autocompleteOff] else []) ++
  (if e.has "required" then [requiredField] else []) ++
  ((e.attributes.nonEmpty? "minlength").map fun v => minLength (shiftLength v (-1))).toList ++
  ((e.attributes.nonEmpty? "maxlength").map fun v => maxLength (shiftLength v 1)).toList ++
  (if (e.attributes.nonEmpty? "pattern").isSome then [pattern] else [])

end Advice

def searchSelector : String := "input[type=search], [role=search]"

namespace Document

variable (d : Document) (settings : Settings)

def advise (s : Site) (advice : List Advice) : List TestCase :=
  let target := (d.structural settings s).value
  advice.map (·.at_ target)

def adviseAll (isMeant : Element → Bool) (advice : Element → List Advice) : List TestCase :=
  (d.elements.filter fun s => isMeant s.element).flatMap fun s =>
    d.advise settings s (advice s.element)

def adviseFirst (isMeant : Element → Bool) (advice : Advice) : List TestCase :=
  match d.elements.find? fun s => isMeant s.element with
  | some s => d.advise settings s [advice]
  | none => []

def adviseTyped (type : String) (advice : Advice) : List TestCase :=
  d.adviseAll settings (·.isInputOfType type) fun _ => [advice]

def adviseForms : List TestCase :=
  (d.elements.filter (·.tag = "form")).zipIdx.flatMap fun (s, i) =>
    d.advise settings s [.form (i + 1)]

/-- The suggested test cases. `isExternal` tells of the address of the page, if it has one, and of
the target of a link whether the link leads away. -/
def scan (isExternal : Option String → String → Bool) : List TestCase :=
  let hasExternalLink := d.elements.any fun s =>
    s.tag = "a" && (s.element.attribute? "href").any (isExternal d.url)
  d.adviseForms settings ++
  d.adviseTyped settings "password" .password ++
  d.adviseTyped settings "email" .email ++
  (if 0 < d.matchCount searchSelector then [Advice.search.at_ searchSelector] else []) ++
  (if hasExternalLink then [Advice.externalLink.at_ "a[href]"] else []) ++
  d.adviseTyped settings "number" .number ++
  d.adviseTyped settings "date" .date ++
  d.adviseAll settings (·.isInputOfType "file") Advice.onFile ++
  d.adviseAll settings (·.tag = "select") Advice.onSelect ++
  d.adviseFirst settings (·.isInputOfType "checkbox") .checkbox ++
  d.adviseFirst settings (·.isInputOfType "radio") .radio ++
  d.adviseAll settings Element.isControl Advice.onRestrictions ++
  d.adviseTyped settings "url" .url ++
  d.adviseTyped settings "tel" .telephone ++
  d.adviseAll settings (·.tag = "textarea") (fun _ => [.textarea]) ++
  d.adviseAll settings (·.attribute? "contenteditable" = some "true") (fun _ => [.editable]) ++
  (if d.elements.any (·.tag = "iframe") then [Advice.frame.at_ "iframe"] else [])

end Document

end Pinpoint
