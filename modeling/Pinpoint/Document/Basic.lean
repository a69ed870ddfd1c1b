import Pinpoint.Document.Markup
import Pinpoint.Text.Lines

/-! Documents: one tree below the document element, and the subtrees that were taken out of it.
Every node keeps its number for ever. Numbers follow the order in which nodes were added, and in
a piece of markup the order in which it is written. -/

namespace Pinpoint

abbrev NodeId := Nat

mutual

structure Element where
  id : NodeId
  tag : String
  attributes : Attributes
  children : List Node

inductive Node where
  | text (id : NodeId) (content : String)
  | element (e : Element)

end

namespace Node

def id : Node → NodeId
  | text id _ => id
  | element e => e.id

def element? : Node → Option Element
  | text _ _ => none
  | element e => some e

end Node

mutual

/-- Gives the nodes of markup their numbers from `next` on; tags and names become lower case. -/
def Markup.number (next : NodeId) : Markup → Element
  | ⟨tag, attributes, children⟩ =>
    ⟨next, Text.lower tag, attributes.lower, MarkupNode.numberAll (next + 1) children⟩

def MarkupNode.numberAll (next : NodeId) : List MarkupNode → List Node
  | [] => []
  | .text content :: rest => .text next content :: MarkupNode.numberAll (next + 1) rest
  | .element markup :: rest =>
    .element (markup.number next) :: MarkupNode.numberAll (next + markup.size) rest

end

mutual

def Element.text : Element → String
  | ⟨_, _, _, children⟩ => Node.textAll children

def Node.textAll : List Node → String
  | [] => ""
  | .text _ content :: rest => content ++ Node.textAll rest
  | .element e :: rest => e.text ++ Node.textAll rest

end

inductive NodeData where
  | text (content : String)
  | element (tag : String) (attributes : Attributes)

namespace Node

def data : Node → NodeData
  | text _ content => .text content
  | element e => .element e.tag e.attributes

def content : Node → String
  | text _ content => content
  | element e => e.text

end Node

namespace Element

def attribute? (e : Element) (name : String) : Option String := e.attributes.get? name

def elementChildren (e : Element) : List Element := e.children.filterMap Node.element?

def classes (e : Element) : List String :=
  match e.attribute? "class" with
  | some value => Text.words value
  | none => []

end Element

structure Place where
  node : Node
  ancestors : List Element

structure Site where
  element : Element
  ancestors : List Element

namespace Site

def id (s : Site) : NodeId := s.element.id

def tag (s : Site) : String := s.element.tag

def parent? (s : Site) : Option Site :=
  match s.ancestors with
  | [] => none
  | p :: rest => some ⟨p, rest⟩

def ofChain : List Element → List Site
  | [] => []
  | e :: rest => ⟨e, rest⟩ :: ofChain rest

def above (s : Site) : List Site := ofChain s.ancestors

def withAncestors (s : Site) : List Site := s :: s.above

def closest? (s : Site) (tag : String) : Option Site :=
  s.withAncestors.find? (·.tag = tag)

def siblingsOfType (s : Site) : List Element :=
  match s.ancestors with
  | [] => [s.element]
  | p :: _ => p.elementChildren.filter (·.tag = s.tag)

def position (s : Site) : Nat := s.siblingsOfType.findIdx (·.id = s.id) + 1

end Site

def Place.site? (p : Place) : Option Site := p.node.element?.map fun e => ⟨e, p.ancestors⟩

def Place.id (p : Place) : NodeId := p.node.id

mutual

def Element.places (ancestors : List Element) : Element → List Place
  | ⟨id, tag, attributes, children⟩ =>
    let e : Element := ⟨id, tag, attributes, children⟩
    ⟨.element e, ancestors⟩ :: Node.placesAll (e :: ancestors) children

def Node.placesAll (ancestors : List Element) : List Node → List Place
  | [] => []
  | .text id content :: rest => ⟨.text id content, ancestors⟩ :: Node.placesAll ancestors rest
  | .element e :: rest => e.places ancestors ++ Node.placesAll ancestors rest

end

/-- `size` is the number of the next node. An outline stays with its element when the element is
taken out of the tree. `active` is the last element that was given the focus, wherever it is. -/
structure Document where
  root : Element
  detached : List Node
  size : Nat
  outline : NodeId → Option String
  url : Option String
  frame : Option Attributes
  active : Option NodeId

namespace Document

def ofMarkup (markup : Markup) : Document where
  root := markup.number 0
  detached := []
  size := markup.size
  outline := fun _ => none
  url := none
  frame := none
  active := none

def attachedPlaces (d : Document) : List Place := d.root.places []

/-- The nodes of the tree, then those of the subtrees that were taken out. -/
def places (d : Document) : List Place := d.attachedPlaces ++ Node.placesAll [] d.detached

def elements (d : Document) : List Site := d.attachedPlaces.filterMap Place.site?

def place? (d : Document) (id : NodeId) : Option Place := d.places.find? (·.id = id)

def site? (d : Document) (id : NodeId) : Option Site := (d.place? id).bind Place.site?

def isElement (d : Document) (id : NodeId) : Bool := (d.site? id).isSome

def isAttached (d : Document) (id : NodeId) : Bool := d.attachedPlaces.any (·.id = id)

def data? (d : Document) (n : NodeId) : Option NodeData := (d.place? n).map fun p => p.node.data

def childIds (d : Document) (n : NodeId) : List NodeId :=
  match d.site? n with
  | some s => s.element.children.map Node.id
  | none => []

def parentId? (d : Document) (n : NodeId) : Option NodeId :=
  (d.place? n).bind fun p => p.ancestors.head?.map Element.id

def ancestorIds (d : Document) (n : NodeId) : List NodeId :=
  match d.place? n with
  | some p => p.ancestors.map Element.id
  | none => []

def body? (d : Document) : Option Element := d.root.elementChildren.find? (·.tag = "body")

def active? (d : Document) : Option NodeId := d.active.filter fun id => d.isAttached id

def withId (d : Document) (value : String) : List Site :=
  d.elements.filter fun s => s.element.attribute? "id" = some value

def firstWithId? (d : Document) (value : String) : Option Site :=
  d.elements.find? fun s => s.element.attribute? "id" = some value

def uniqueId? (d : Document) (e : Element) : Option String :=
  (e.attributes.nonEmpty? "id").filter fun value => (d.withId value).map Site.id = [e.id]

end Document

end Pinpoint
