import Pinpoint.Document.Basic

/-! Changing documents. A change that the document refuses has the answer `none`. -/

namespace Pinpoint

mutual

def Element.update (id : NodeId) (f : Element → Element) : Element → Element
  | ⟨i, tag, attributes, children⟩ =>
    if i = id then f ⟨i, tag, attributes, children⟩
    else ⟨i, tag, attributes, Node.updateAll id f children⟩

def Node.updateAll (id : NodeId) (f : Element → Element) : List Node → List Node
  | [] => []
  | .text i content :: rest => .text i content :: Node.updateAll id f rest
  | .element e :: rest => .element (e.update id f) :: Node.updateAll id f rest

end

mutual

def Element.without (id : NodeId) : Element → Element
  | ⟨i, tag, attributes, children⟩ => ⟨i, tag, attributes, Node.withoutAll id children⟩

def Node.withoutAll (id : NodeId) : List Node → List Node
  | [] => []
  | .text i content :: rest =>
    if i = id then Node.withoutAll id rest else .text i content :: Node.withoutAll id rest
  | .element e :: rest =>
    if e.id = id then Node.withoutAll id rest
    else .element (e.without id) :: Node.withoutAll id rest

end

namespace Document

def update (d : Document) (id : NodeId) (f : Element → Element) : Document :=
  { d with root := d.root.update id f, detached := Node.updateAll id f d.detached }

/-- The name is taken as it is written. -/
def setAttribute? (d : Document) (id : NodeId) (name value : String) : Option Document :=
  if d.isElement id then
    some (d.update id fun e => { e with attributes := e.attributes.insert name value })
  else none

def append? (d : Document) (parent : NodeId) (markup : Markup) : Option Document :=
  if d.isElement parent then
    let child := markup.number d.size
    let grown := d.update parent fun e => { e with children := e.children ++ [.element child] }
    some { grown with size := d.size + markup.size }
  else none

/-- Takes a subtree out of its parent. A node without a parent stays where it is. -/
def detach (d : Document) (id : NodeId) : Document :=
  match d.place? id with
  | some ⟨node, _ :: _⟩ =>
    { d with
      root := d.root.without id
      detached := Node.withoutAll id d.detached ++ [node] }
  | _ => d

def focus (d : Document) (id : Option NodeId) : Document :=
  { d with active := id.filter fun i => d.isElement i }

def setOutline? (d : Document) (id : NodeId) (value : String) : Option Document :=
  if d.isAttached id && d.isElement id then
    let new := if value = "" then none else some value
    some { d with outline := fun i => if i = id then new else d.outline i }
  else none

def outlines (d : Document) : List (NodeId × String) :=
  (List.range d.size).filterMap fun id => (d.outline id).map fun value => (id, value)

def withUrl (d : Document) (url : String) : Document := { d with url := some url }

def withFrame (d : Document) (host : Attributes) : Document := { d with frame := some host }

end Document

inductive Edit where
  | setAttribute (id : NodeId) (name value : String)
  | append (parent : NodeId) (markup : Markup)
  | detach (id : NodeId)
  | focus (id : Option NodeId)
  | setOutline (id : NodeId) (value : String)
  | withUrl (url : String)
  | withFrame (host : Attributes)

/-- A change that the document refuses leaves it as it is. -/
def Document.perform (d : Document) : Edit → Document
  | .setAttribute id name value => (d.setAttribute? id name value).getD d
  | .append parent markup => (d.append? parent markup).getD d
  | .detach id => d.detach id
  | .focus id => d.focus id
  | .setOutline id value => (d.setOutline? id value).getD d
  | .withUrl url => d.withUrl url
  | .withFrame host => d.withFrame host

end Pinpoint
