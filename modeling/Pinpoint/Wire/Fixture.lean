import Pinpoint.Document.Fixture
import Pinpoint.Json.Decode
import Pinpoint.Json.Reader

/-! Fixtures and markup as JSON. A child is a string or an element. -/

namespace Pinpoint.Wire

open Json

def attributes? (v : Value) : Option Attributes := do
  let members ← v.members?
  let entries ← members.mapM fun (name, v) => v.text?.map fun value => (name, value)
  some (Attributes.ofList entries)

structure MarkupParts where
  tag : Option String
  attributes : Option Attributes
  children : Option (List MarkupNode)

namespace MarkupParts

def none : MarkupParts := ⟨.none, .none, .none⟩

def markup? (parts : MarkupParts) : Option Markup :=
  parts.tag.map fun tag => ⟨tag, parts.attributes.getD .empty, parts.children.getD []⟩

end MarkupParts

/-- Puts a member in its place, unless the place is taken or the member cannot be read. -/
def fill? {α : Type} (place found : Option α) : Option (Option α) :=
  if place.isNone && found.isSome then some found else none

mutual

def markup? : Value → Option Markup
  | .object members => (markupParts? members).bind MarkupParts.markup?
  | .array [tag] => do some ⟨← tag.text?, .empty, []⟩
  | .array [tag, attributes] => do some ⟨← tag.text?, ← attributes? attributes, []⟩
  | .array [tag, attributes, children] => do
    some ⟨← tag.text?, ← attributes? attributes, ← children? children⟩
  | _ => none

def markupParts? : List (String × Value) → Option MarkupParts
  | [] => some MarkupParts.none
  | (name, v) :: rest =>
    match markupParts? rest with
    | none => none
    | some parts =>
      if name = "tag" then (fill? parts.tag v.text?).map ({ parts with tag := · })
      else if name = "attrs" then
        (fill? parts.attributes (attributes? v)).map ({ parts with attributes := · })
      else if name = "children" then
        (fill? parts.children (children? v)).map ({ parts with children := · })
      else some parts

def children? : Value → Option (List MarkupNode)
  | .array items => markupNodes? items
  | _ => none

def markupNodes? : List Value → Option (List MarkupNode)
  | [] => some []
  | .string s :: rest => (markupNodes? rest).map (.text s :: ·)
  | v :: rest =>
    match markup? v, markupNodes? rest with
    | some markup, some nodes => some (.element markup :: nodes)
    | _, _ => none

end

def keepsItems (level : Nat) : Value → Bool
  | .array items => items.all fun item => (keep? (level + 1) item).isSome
  | _ => true

def keepsChildren (level : Nat) : Value → Bool
  | .object members => (valuesOf members "children").all (keepsItems (level + 1))
  | .array [_, _, children] => keepsItems (level + 1) children
  | _ => true

def markupAt? (level : Nat) (v : Value) : Option Markup :=
  if keepsChildren level v then markup? v else none

def fixture? (v : Value) : Option Fixture := do
  let members ← v.record? 4 ["url", "frame", "active", "root"]
  let url ← optional members "url" Value.text?
  let frame ← optional members "frame" attributes?
  let active ← optional members "active" Value.text?
  let root ← required members "root" (markupAt? 1)
  some ⟨url, frame, active, root⟩

def ofAttributes (attributes : Attributes) : Value :=
  .object (attributes.entries.map fun (name, value) => (name, .string value))

mutual

def ofMarkup : Markup → Value
  | ⟨tag, attributes, children⟩ =>
    .object [("tag", .string tag), ("attrs", ofAttributes attributes),
      ("children", .array (ofMarkupNodes children))]

def ofMarkupNodes : List MarkupNode → List Value
  | [] => []
  | .text content :: rest => .string content :: ofMarkupNodes rest
  | .element markup :: rest => ofMarkup markup :: ofMarkupNodes rest

end

def ofFixture (f : Fixture) : Value :=
  .object [("url", .ofOption .string f.url), ("frame", .ofOption ofAttributes f.frame),
    ("active", .ofOption .string f.active), ("root", ofMarkup f.root)]

end Pinpoint.Wire

namespace Pinpoint

def Document.ofText (text : String) : Except Error Document :=
  match (Json.parse text).bind Wire.fixture? with
  | none => .error .json
  | some fixture => Document.ofFixture fixture

end Pinpoint
