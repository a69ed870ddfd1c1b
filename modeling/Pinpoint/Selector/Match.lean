import Pinpoint.Document.Basic
import Pinpoint.Selector.Basic
import Pinpoint.Selector.Parser

/-! Which elements of a document a selector means. -/

namespace Pinpoint

namespace Selector

def Condition.holds (e : Element) : Condition → Bool
  | present name => (e.attribute? name).isSome
  | equals name value => e.attribute? name == some value

def Compound.holds (c : Compound) (s : Site) : Bool :=
  c.tag.all (Text.equalIgnoringCase · s.tag) &&
  c.id.all (fun id => s.element.attribute? "id" == some id) &&
  c.classes.all (fun name => s.element.classes.contains name) &&
  c.conditions.all (Condition.holds s.element) &&
  c.nthOfType.all (· == s.position)

/-- The last compound holds at the site, and what stands to its left at the parent or at some
ancestor. -/
def Chain.holds : Chain → Site → Bool
  | single c, s => c.holds s
  | step left .child c, s => c.holds s && s.parent?.any left.holds
  | step left .descendant c, s => c.holds s && s.above.any left.holds

def Group.holds (g : Group) (s : Site) : Bool := g.any fun chain => chain.holds s

end Selector

namespace Document

def select (d : Document) (g : Selector.Group) : List Site := d.elements.filter g.holds

def query (d : Document) (text : String) : Except Selector.Fault (List Site) :=
  (Selector.parse text).map d.select

def queryFirst (d : Document) (text : String) : Except Selector.Fault (Option Site) :=
  (d.query text).map List.head?

/-- The number of elements that a selector means; a text that is no selector means none. -/
def matchCount (d : Document) (text : String) : Nat :=
  match d.query text with
  | .ok sites => sites.length
  | .error _ => 0

def resolvesTo (d : Document) (text : String) (id : NodeId) : Bool :=
  match d.query text with
  | .ok sites => sites.map Site.id = [id]
  | .error _ => false

end Document

end Pinpoint
