import Pinpoint.Document.Attributes

/-! Markup: elements and texts as an author writes them, before they have a place in a document. -/

namespace Pinpoint

mutual

structure Markup where
  tag : String
  attributes : Attributes
  children : List MarkupNode

inductive MarkupNode where
  | text (content : String)
  | element (markup : Markup)

end

mutual

def Markup.size : Markup → Nat
  | ⟨_, _, children⟩ => MarkupNode.sizeAll children + 1

def MarkupNode.sizeAll : List MarkupNode → Nat
  | [] => 0
  | .text _ :: rest => MarkupNode.sizeAll rest + 1
  | .element markup :: rest => MarkupNode.sizeAll rest + markup.size

end

inductive MarkupStep where
  | setAttribute (name value : String)
  | addClass (name : String)
  | appendText (content : String)
  | appendElement (markup : Markup)

namespace Markup

def ofTag (tag : String) : Markup := ⟨tag, .empty, []⟩

instance : Inhabited Markup := ⟨ofTag ""⟩

/-- A class goes behind the classes that are already there. -/
def apply (markup : Markup) : MarkupStep → Markup
  | .setAttribute name value => { markup with attributes := markup.attributes.insert name value }
  | .addClass name =>
    let value := match markup.attributes.get? "class" with
      | some classes => classes ++ " " ++ name
      | none => name
    { markup with attributes := markup.attributes.insert "class" value }
  | .appendText content => { markup with children := markup.children ++ [.text content] }
  | .appendElement child => { markup with children := markup.children ++ [.element child] }

end Markup

end Pinpoint
