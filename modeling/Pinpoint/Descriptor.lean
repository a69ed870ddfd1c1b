import Pinpoint.Document.Html
import Pinpoint.Locator.Absolute
import Pinpoint.Locator.Structural
import Pinpoint.Semantics
import Pinpoint.Snippet.Passive

/-! Descriptors and findings: everything that identifies an element, as it is at one moment, in the
dialects of choice. -/

namespace Pinpoint

/-- What an element does not have is an empty text. -/
structure Descriptor where
  locator : String
  tag : String
  id : String
  classes : List String
  name : String
  role : String
  ariaLabel : String
  accessibleName : String
  placeholder : String
  type : String
  testId : String
  text : String
  outerHtml : String
  frame : String
  deriving DecidableEq, Repr

def Document.describe (d : Document) (settings : Settings) (s : Site) (locator : String) :
    Descriptor :=
  let valueOf (name : String) := (s.element.attribute? name).getD ""
  { locator
    tag := s.tag
    id := valueOf "id"
    classes := s.element.classes.take settings.maxDescriptorClasses
    name := valueOf "name"
    role := s.element.role?.getD ""
    ariaLabel := valueOf "aria-label"
    accessibleName := d.accessibleName s
    placeholder := valueOf "placeholder"
    type := valueOf "type"
    testId := (settings.testId? s.element).getD ""
    text := Text.take settings.textLimit (Text.trim s.element.text)
    outerHtml := Text.take settings.markupLimit (Html.ofElement s.element)
    frame := d.frameLocator }

structure Finding where
  locator : String
  unique : Bool
  absolute : String
  descriptor : Descriptor
  preview : List PreviewEntry
  deriving DecidableEq, Repr

def Document.finding (d : Document) (settings : Settings) (s : Site) (dialects : List Dialect) :
    Finding :=
  let locator := d.structural settings s
  { locator := locator.value
    unique := locator.isUnique
    absolute := (d.absolute s).value
    descriptor := d.describe settings s locator.value
    preview := d.preview settings (some s) locator.value dialects }

end Pinpoint
