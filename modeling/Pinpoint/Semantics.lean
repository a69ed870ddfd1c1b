import Pinpoint.Document.Basic
import Pinpoint.Locator.Structural
import Pinpoint.Selector.Basic

/-! What an element means to someone who uses the page: its role, its accessible name, its test
identifier, and the frame that shows it. -/

namespace Pinpoint

def inputRole (type : String) : String :=
  match Text.lower type with
  | "checkbox" => "checkbox"
  | "radio" => "radio"
  | "submit" | "button" | "reset" | "image" => "button"
  | _ => "textbox"

def implicitRole? (tag : String) (type : Option String) : Option String :=
  match tag with
  | "button" => some "button"
  | "a" => some "link"
  | "input" => some (inputRole (type.getD "text"))
  | "select" => some "combobox"
  | "textarea" => some "textbox"
  | _ => none

namespace Element

def role? (e : Element) : Option String :=
  (((e.attribute? "role").map Text.trim).filter (· ≠ "")).or
    (implicitRole? e.tag (e.attribute? "type"))

end Element

def visible? (s : String) : Option String := some (Text.trim s) |>.filter (· ≠ "")

namespace Document

def labelledBy? (d : Document) (e : Element) : Option String := do
  let ids ← e.attribute? "aria-labelledby"
  let texts := (Text.words ids).filterMap fun id =>
    (d.firstWithId? id).bind fun s => visible? s.element.text
  visible? (" ".intercalate texts)

def labelFor? (d : Document) (e : Element) : Option String := do
  let id ← e.attributes.nonEmpty? "id"
  let label ← d.elements.find? fun s => s.tag = "label" && s.element.attribute? "for" == some id
  visible? label.element.text

def labelAround? (s : Site) : Option String := do
  let label ← s.closest? "label"
  visible? label.element.text

/-- The first of: the label attribute, the elements that label it, the label made for it, the
label around it. -/
def accessibleName (d : Document) (s : Site) : String :=
  (((s.element.attribute? "aria-label").bind visible?).or <|
    (d.labelledBy? s.element).or <| (d.labelFor? s.element).or <| labelAround? s).getD ""

end Document

def Settings.testId? (settings : Settings) (e : Element) : Option String :=
  (settings.testAttribute? e).map Prod.snd

def frameSelector (host : Attributes) : String :=
  match host.nonEmpty? "id" with
  | some id => "#" ++ Selector.escape id
  | none =>
    let byAttribute := ["name", "title", "src"].findSome? fun name =>
      (host.nonEmpty? name).map fun value => "iframe" ++ Segment.predicate name value
    byAttribute.getD "iframe"

def Document.frameLocator (d : Document) : String := (d.frame.map frameSelector).getD ""

end Pinpoint
