import Pinpoint.Document.Basic
import Pinpoint.Selector.Basic
import Pinpoint.Selector.Match
import Pinpoint.Settings

/-! Structural locators: the shortest path of segments, from the element upward, that means the
element alone. A segment is what one level of the path says about its element. -/

namespace Pinpoint

inductive LocatorKind where
  | structural
  | absolute
  deriving DecidableEq, Repr

inductive Resolution where
  | unique
  | bestEffort
  deriving DecidableEq, Repr

structure Locator where
  kind : LocatorKind
  value : String
  resolution : Resolution
  deriving DecidableEq, Repr

namespace Locator

def isUnique (l : Locator) : Bool := l.resolution = .unique

end Locator

def Settings.testAttribute? (settings : Settings) (e : Element) : Option (String × String) :=
  settings.testAttributes.findSome? fun name =>
    (e.attributes.nonEmpty? name).map fun value => (name, value)

structure Segment where
  tag : String
  predicates : List String
  position : Option Nat
  fromTestAttribute : Bool
  deriving DecidableEq, Repr

namespace Segment

def text (s : Segment) : String :=
  s.tag ++ String.join s.predicates ++
    match s.position with
    | some n => ":nth-of-type(" ++ toString n ++ ")"
    | none => ""

def predicate (name value : String) : String :=
  "[" ++ name ++ "=\"" ++ Selector.escape value ++ "\"]"

def describingAttributes : List String := ["name", "aria-label", "placeholder"]

/-- A test attribute stands alone. Without one there are the describing attributes and some
classes, and a position where the tag occurs again among the siblings. -/
def ofSite (settings : Settings) (s : Site) : Segment :=
  match settings.testAttribute? s.element with
  | some (name, value) => ⟨s.tag, [predicate name value], none, true⟩
  | none =>
    let attributes := describingAttributes.filterMap fun name =>
      (s.element.attributes.nonEmpty? name).map (predicate name)
    let classes := (s.element.classes.take settings.maxClassPredicates).map fun name =>
      "." ++ Selector.escape name
    let position := if 1 < s.siblingsOfType.length then some s.position else none
    ⟨s.tag, attributes ++ classes, position, false⟩

end Segment

def Segment.join (segments : List String) : String := " > ".intercalate segments

/-- Goes up the given levels and ends at a test attribute or as soon as the path means `target`
alone. `path` holds the segments of the levels passed. -/
def Document.climb (d : Document) (settings : Settings) (target : NodeId) :
    List Site → List String → Locator
  | [], path => ⟨.structural, Segment.join path, .bestEffort⟩
  | level :: rest, path =>
    let segment := Segment.ofSite settings level
    let path := segment.text :: path
    let value := Segment.join path
    let unique := d.resolvesTo value target
    if segment.fromTestAttribute || unique then
      ⟨.structural, value, if unique then .unique else .bestEffort⟩
    else d.climb settings target rest path

/-- The document element is known by its tag, an element with an identifier of its own by that
identifier. Paths never reach the document element. -/
def Document.structural (d : Document) (settings : Settings) (s : Site) : Locator :=
  if s.id = d.root.id then ⟨.structural, "html", .unique⟩
  else match d.uniqueId? s.element with
    | some id => ⟨.structural, "#" ++ Selector.escape id, .unique⟩
    | none => d.climb settings s.id (s.withAncestors.takeWhile (·.id ≠ d.root.id)) []

end Pinpoint
