import Pinpoint.Document.Fixture

/-! Documents as they are stored: a list of cells, each of them a node under its number. A cell
knows the node above it, the nodes below it and whether it is in the tree, and every change has to
keep the three in step. A loop along the links has no answer where a link leads to no cell. -/

namespace Pinpoint

inductive CellData where
  | text (content : String)
  | element (tag : String) (attributes : Attributes) (outline : Option String)

structure Cell where
  parent : Option NodeId
  children : List NodeId
  attached : Bool
  data : CellData

namespace Cell

def isElement (cell : Cell) : Bool :=
  match cell.data with
  | .text _ => false
  | .element .. => true

def setAttribute? (cell : Cell) (name value : String) : Option Cell :=
  match cell.data with
  | .text _ => none
  | .element tag attributes outline =>
    some { cell with data := .element tag (attributes.insert name value) outline }

def setOutline? (cell : Cell) (value : String) : Option Cell :=
  match cell.attached, cell.data with
  | true, .element tag attributes _ =>
    some { cell with data := .element tag attributes (if value = "" then none else some value) }
  | _, _ => none

end Cell

structure Arena where
  cells : List Cell
  root : Option NodeId
  url : Option String
  frame : Option Attributes
  active : Option NodeId

namespace Arena

mutual

/-- Adds a node and what is below it behind the cells, and answers its number. Its children are
written down when they have their numbers. -/
def insert (parent : Option NodeId) (cells : List Cell) : MarkupNode → List Cell × NodeId
  | .text content => (cells ++ [⟨parent, [], true, .text content⟩], cells.length)
  | .element ⟨tag, attributes, children⟩ =>
    let id := cells.length
    let opened := cells ++ [⟨parent, [], true, .element (Text.lower tag) attributes.lower none⟩]
    let (filled, ids) := insertAll (some id) opened children
    (filled.modify id fun cell => { cell with children := ids }, id)

def insertAll (parent : Option NodeId) (cells : List Cell) :
    List MarkupNode → List Cell × List NodeId
  | [] => (cells, [])
  | node :: rest =>
    let (grown, id) := insert parent cells node
    let (filled, ids) := insertAll parent grown rest
    (filled, id :: ids)

end

def modify? (cells : List Cell) (n : NodeId) (f : Cell → Cell) : Option (List Cell) :=
  if n < cells.length then some (cells.modify n f) else none

/-- The node on top of a stack gets the flag, and its children get on top, the last one first. -/
def markStep (flag : Bool) :
    List Cell × List NodeId → Option ((List Cell × List NodeId) ⊕ List Cell)
  | (cells, []) => some (.inr cells)
  | (cells, n :: stack) => do
    let cell ← cells[n]?
    some (.inl (cells.set n { cell with attached := flag }, cell.children.reverse ++ stack))

def mark (flag : Bool) (cells : List Cell) (stack : List NodeId) : Option (List Cell) :=
  repeatM (markStep flag) (cells, stack)

def ofMarkup (markup : Markup) : Arena :=
  let (cells, id) := insert none [] (.element markup)
  ⟨cells, some id, none, none, none⟩

/-- The selector of the focus is asked of the tree. -/
def ofFixture (f : Fixture) : Except Error Arena :=
  (Document.ofFixture f).map fun d =>
    { ofMarkup f.root with url := f.url, frame := f.frame, active := d.active }

variable (a : Arena)

def isElement (n : NodeId) : Bool := a.cells[n]?.any Cell.isElement

def isAttached (n : NodeId) : Bool := a.cells[n]?.any Cell.attached

def parent? (n : NodeId) : Option NodeId := a.cells[n]?.bind Cell.parent

def children (n : NodeId) : List NodeId := (a.cells[n]?.map Cell.children).getD []

def parentElement? (n : NodeId) : Option NodeId := (a.parent? n).filter a.isElement

def elementChildren (n : NodeId) : List NodeId := (a.children n).filter a.isElement

def active? : Option NodeId := a.active.filter a.isAttached

/-- The node on top of a stack is listed, and the elements among its children get on top. -/
def visitStep :
    List NodeId × List NodeId → Option ((List NodeId × List NodeId) ⊕ List NodeId)
  | (listed, []) => some (.inr listed)
  | (listed, n :: stack) => some (.inl (listed ++ [n], a.elementChildren n ++ stack))

def elements? : Option (List NodeId) := repeatM a.visitStep ([], a.root.toList)

def climbStep :
    List NodeId × Option NodeId → Option ((List NodeId × Option NodeId) ⊕ List NodeId)
  | (listed, none) => some (.inr listed)
  | (listed, some p) => some (.inl (listed ++ [p], a.parentElement? p))

def ancestors? (n : NodeId) : Option (List NodeId) :=
  repeatM a.climbStep ([], a.parentElement? n)

def setAttribute (n : NodeId) (name value : String) : Arena × Bool :=
  match a.cells[n]?.bind (·.setAttribute? name value) with
  | some cell => ({ a with cells := a.cells.set n cell }, true)
  | none => (a, false)

/-- Adds markup as the last child of an element and answers its number; any other node refuses it.
What is inserted is marked as its parent is before the parent knows of it. -/
def append (parent : NodeId) (markup : Markup) : Option (Arena × Option NodeId) :=
  if a.isElement parent then do
    let (inserted, id) := insert (some parent) a.cells (.element markup)
    let above ← inserted[parent]?
    let marked ← mark above.attached inserted [id]
    let linked ← modify? marked parent fun cell => { cell with children := cell.children ++ [id] }
    some ({ a with cells := linked }, some id)
  else some (a, none)

/-- Takes a subtree out of its parent. A node without a parent stays where it is. -/
def detach (n : NodeId) : Option Arena :=
  match a.parent? n with
  | none => some a
  | some parent => do
    let forgotten ← modify? a.cells parent fun cell =>
      { cell with children := cell.children.filter (· != n) }
    let freed ← modify? forgotten n fun cell => { cell with parent := none }
    let marked ← mark false freed [n]
    some { a with cells := marked, root := a.root.filter (· != n) }

def focus (n : Option NodeId) : Arena := { a with active := n.filter a.isElement }

def setOutline (n : NodeId) (value : String) : Arena × Bool :=
  match a.cells[n]?.bind (·.setOutline? value) with
  | some cell => ({ a with cells := a.cells.set n cell }, true)
  | none => (a, false)

def perform : Edit → Option Arena
  | .setAttribute n name value => some (a.setAttribute n name value).1
  | .append parent markup => (a.append parent markup).map Prod.fst
  | .detach n => a.detach n
  | .focus n => some (a.focus n)
  | .setOutline n value => some (a.setOutline n value).1
  | .withUrl url => some { a with url := some url }
  | .withFrame host => some { a with frame := some host }

def run (edits : List Edit) : Option Arena := edits.foldlM perform a

end Arena

end Pinpoint
