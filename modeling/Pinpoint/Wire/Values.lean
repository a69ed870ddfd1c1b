import Pinpoint.Descriptor
import Pinpoint.Json.Decode
import Pinpoint.Locator.Structural
import Pinpoint.Scan.Advice
import Pinpoint.Snippet.Passive
import Pinpoint.Verb

/-! What the engine finds out, as JSON and back. -/

namespace Pinpoint.Wire

open Json

def ofLocatorKind : LocatorKind → Value
  | .structural => .string "structural"
  | .absolute => .string "absolute"

def locatorKind? (v : Value) : Option LocatorKind :=
  match v.name? with
  | some "structural" => some .structural
  | some "absolute" => some .absolute
  | _ => none

def ofResolution : Resolution → Value
  | .unique => .string "unique"
  | .bestEffort => .string "bestEffort"

def resolution? (v : Value) : Option Resolution :=
  match v.name? with
  | some "unique" => some .unique
  | some "bestEffort" => some .bestEffort
  | _ => none

def ofLocator (l : Locator) : Value :=
  .object [("kind", ofLocatorKind l.kind), ("value", .string l.value),
    ("resolution", ofResolution l.resolution)]

def locator? (v : Value) : Option Locator := do
  let members ← v.record? 3 ["kind", "value", "resolution"]
  let kind ← required members "kind" locatorKind?
  let value ← required members "value" Value.text?
  let resolution ← required members "resolution" resolution?
  some ⟨kind, value, resolution⟩

def ofDialect (d : Dialect) : Value := .string d.name

def dialect? (v : Value) : Option Dialect := v.name?.bind Dialect.ofName?

def ofVerb (verb : Verb) : Value := .string verb.name

def verb? (v : Value) : Option Verb := v.text?.map Verb.parse

def ofPreviewEntry (e : PreviewEntry) : Value :=
  .object [("dialect", ofDialect e.dialect), ("snippet", .string e.snippet)]

def previewItem? (dialectAt? : Value → Option Dialect) (v : Value) : Option PreviewEntry := do
  let members ← v.record? 2 ["dialect", "snippet"]
  let dialect ← required members "dialect" dialectAt?
  let snippet ← required members "snippet" Value.text?
  some ⟨dialect, snippet⟩

def ofTestCase (c : TestCase) : Value :=
  .object [("title", .string c.title), ("target", .string c.target), ("steps", .ofTexts c.steps),
    ("expected", .string c.expected)]

def testCase? (v : Value) : Option TestCase := do
  let members ← v.record? 4 ["title", "target", "steps", "expected"]
  let title ← required members "title" Value.text?
  let target ← required members "target" Value.text?
  let steps ← required members "steps" (Value.list? Value.text?)
  let expected ← required members "expected" Value.text?
  some ⟨title, target, steps, expected⟩

def ofTestCases (cases : List TestCase) : Value := .array (cases.map ofTestCase)

def ofDescriptor (d : Descriptor) : Value :=
  .object [("locator", .string d.locator), ("tag", .string d.tag), ("id", .string d.id),
    ("classes", .ofTexts d.classes), ("name", .string d.name), ("role", .string d.role),
    ("ariaLabel", .string d.ariaLabel), ("accessibleName", .string d.accessibleName),
    ("placeholder", .string d.placeholder), ("type", .string d.type),
    ("testId", .string d.testId), ("text", .string d.text), ("outerHTML", .string d.outerHtml),
    ("frame", .string d.frame)]

def descriptor? (v : Value) : Option Descriptor := do
  let members ← v.record? 14
    ["locator", "tag", "id", "classes", "name", "role", "ariaLabel", "accessibleName",
      "placeholder", "type", "testId", "text", "outerHTML", "frame"]
  let text (name : String) := required members name Value.text?
  let locator ← text "locator"
  let tag ← text "tag"
  let id ← text "id"
  let classes ← required members "classes" (Value.list? Value.text?)
  let name ← text "name"
  let role ← text "role"
  let ariaLabel ← text "ariaLabel"
  let accessibleName ← text "accessibleName"
  let placeholder ← text "placeholder"
  let type ← text "type"
  let testId ← text "testId"
  let content ← text "text"
  let outerHtml ← text "outerHTML"
  let frame ← text "frame"
  some ⟨locator, tag, id, classes, name, role, ariaLabel, accessibleName, placeholder, type,
    testId, content, outerHtml, frame⟩

def ofFinding (f : Finding) : Value :=
  .object [("locator", .string f.locator), ("unique", .bool f.unique),
    ("absolute", .string f.absolute), ("descriptor", ofDescriptor f.descriptor),
    ("preview", .array (f.preview.map ofPreviewEntry))]

def ofSnippet (dialect : Dialect) (verb : Option Verb) (snippet : String) : Value :=
  .object [("action", .ofOption ofVerb verb), ("dialect", ofDialect dialect),
    ("snippet", .string snippet)]

def describeDialect (d : Dialect) : Value :=
  .object [("id", .string d.name), ("label", .string d.label), ("semantic", .bool d.isSemantic)]

def describeVerb (v : Verb) : Value :=
  .object [("id", .string v.name), ("label", .string v.label),
    ("needsTarget", .bool v.needsTarget)]

def catalogue : Value :=
  .object [("actions", .array (Verb.all.map describeVerb)),
    ("dialects", .array (Dialect.all.map describeDialect))]

end Pinpoint.Wire
