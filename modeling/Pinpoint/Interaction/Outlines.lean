import Pinpoint.Document.Edit

/-! The outline registry: which elements were outlined on behalf of the tester, and what outline
each of them had before. -/

namespace Pinpoint

/-- Every node occurs at most once, with the outline it had when it was first touched. -/
structure OutlineRegistry where
  entries : List (NodeId × Option String)

namespace OutlineRegistry

def empty : OutlineRegistry := ⟨[]⟩

def contains (r : OutlineRegistry) (id : NodeId) : Bool := r.entries.any (·.1 = id)

def size (r : OutlineRegistry) : Nat := r.entries.length

def nodes (r : OutlineRegistry) : List NodeId := (r.entries.map Prod.fst).mergeSort (· ≤ ·)

def remember (r : OutlineRegistry) (d : Document) (id : NodeId) : OutlineRegistry :=
  if r.contains id then r else ⟨r.entries ++ [(id, d.outline id)]⟩

/-- Paints an outline; a node that the document refuses is not remembered. -/
def apply (r : OutlineRegistry) (d : Document) (id : NodeId) (style : String) :
    OutlineRegistry × Document × Bool :=
  match d.setOutline? id style with
  | some painted => (r.remember d id, painted, true)
  | none => (r, d, false)

def restore (done : Document × Nat) (entry : NodeId × Option String) : Document × Nat :=
  match done.1.setOutline? entry.1 (entry.2.getD "") with
  | some d => (d, done.2 + 1)
  | none => done

def clear (r : OutlineRegistry) (d : Document) : OutlineRegistry × Document × Nat :=
  (empty, r.entries.foldl restore (d, 0))

end OutlineRegistry

end Pinpoint
