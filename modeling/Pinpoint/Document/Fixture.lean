import Pinpoint.Document.Edit
import Pinpoint.Error
import Pinpoint.Selector.Match

/-! Fixtures: documents as they are written down, with the focus given by a selector. -/

namespace Pinpoint

structure Fixture where
  url : Option String
  frame : Option Attributes
  active : Option String
  root : Markup

/-- The selector of the focus has to mean an element; the first one has the focus. -/
def Document.ofFixture (f : Fixture) : Except Error Document :=
  let d := { Document.ofMarkup f.root with url := f.url, frame := f.frame }
  match f.active with
  | none => .ok d
  | some text =>
    match d.queryFirst text with
    | .error fault => .error (.selector text fault)
    | .ok none => .error (.noActiveElement text)
    | .ok (some s) => .ok (d.focus (some s.id))

end Pinpoint
