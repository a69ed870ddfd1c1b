import Pinpoint.Proofs.Arena.Representation

/-! Marking a subtree. The loop goes through the cells of a list of nodes and of all that is below
them, in whatever order the stack gives them, and writes the flag to these cells and to no other. -/

namespace Pinpoint.Arena

theorem modify?_eq {cells : List Cell} {n : NodeId} {cell : Cell} (f : Cell → Cell)
    (h : cells[n]? = some cell) : modify? cells n f = some (cells.modify n f) := by
  obtain ⟨hn, -⟩ := List.getElem?_eq_some_iff.mp h
  exact if_pos hn

theorem getElem?_modified (cells : List Cell) (n : NodeId) (f : Cell → Cell) (i : NodeId) :
    (cells.modify n f)[i]? = (cells[i]?).map fun cell => if n = i then f cell else cell :=
  List.getElem?_modify f n cells i

theorem mark_nil (flag : Bool) (cells : List Cell) : mark flag cells [] = some cells := by
  rw [mark, repeatM_eq_of_monadTail]
  rfl

theorem mark_cons (flag : Bool) (cells : List Cell) (n : NodeId) (stack : List NodeId) :
    mark flag cells (n :: stack) = (cells[n]?).bind fun cell =>
      mark flag (cells.set n { cell with attached := flag }) (cell.children.reverse ++ stack) := by
  rw [mark, repeatM_eq_of_monadTail, repeatM.body, markStep]
  cases cells[n]? <;> rfl

def flagged (flag : Bool) (marked : List NodeId) (cells : List Cell) : List Cell :=
  cells.mapIdx fun n cell => if n ∈ marked then { cell with attached := flag } else cell

section Flagged

variable {flag : Bool} {cells : List Cell} {l m : List NodeId} {n : NodeId}

theorem getElem?_flagged :
    (flagged flag l cells)[n]?
      = (cells[n]?).map fun cell => if n ∈ l then { cell with attached := flag } else cell :=
  List.getElem?_mapIdx

theorem flagged_nil : flagged flag [] cells = cells := by
  ext n : 1
  simp [getElem?_flagged]

theorem flagged_flagged : flagged flag l (flagged flag m cells) = flagged flag (m ++ l) cells := by
  ext n : 1
  rw [getElem?_flagged, getElem?_flagged, getElem?_flagged, Option.map_map]
  congr 1
  funext cell
  by_cases hm : n ∈ m <;> by_cases hl : n ∈ l <;> simp [hm, hl]

theorem flagged_congr (h : ∀ n, n ∈ l ↔ n ∈ m) : flagged flag l cells = flagged flag m cells := by
  ext n : 1
  simp only [getElem?_flagged, h]

theorem set_eq_flagged {cell : Cell} (hn : cells[n]? = some cell) :
    cells.set n { cell with attached := flag } = flagged flag [n] cells := by
  ext i : 1
  simp only [List.getElem?_set, getElem?_flagged, List.mem_singleton]
  by_cases hi : n = i
  · subst hi
    obtain ⟨hlt, -⟩ := List.getElem?_eq_some_iff.mp hn
    simp only [if_pos, hlt, hn, Option.map_some]
  · have hne : i ≠ n := fun h => hi h.symm
    simp [hi, hne]

theorem map_children_flagged (flag : Bool) (cells : List Cell) (l : List NodeId) (n : NodeId) :
    ((flagged flag l cells)[n]?).map Cell.children = (cells[n]?).map Cell.children := by
  rw [getElem?_flagged, Option.map_map]
  congr 1
  funext cell
  exact apply_ite Cell.children (n ∈ l) _ _ |>.trans (ite_self _)

end Flagged

variable {flag : Bool} {cells : List Cell}

theorem mark_cons_of_children (flag : Bool) {n : NodeId} {children : List NodeId}
    (h : (cells[n]?).map Cell.children = some children) (stack : List NodeId) :
    mark flag cells (n :: stack)
      = mark flag (flagged flag [n] cells) (children.reverse ++ stack) := by
  obtain ⟨cell, hcell, rfl⟩ := Option.map_eq_some_iff.mp h
  rw [mark_cons, hcell, Option.bind_some, set_eq_flagged hcell]

/-- The cells of the places have the children that stand there. -/
def Holds (cells : List Cell) (places : List Place) : Prop :=
  ∀ p ∈ places, (cells[p.id]?).map Cell.children = some p.node.childIds

theorem Holds.flagged {places : List Place} (h : Holds cells places) (l : List NodeId) :
    Holds (flagged flag l cells) places := by
  intro p hp
  rw [map_children_flagged]
  exact h p hp

/-- The nodes behind a node are marked first, then the node and then what is below it. -/
theorem mark_node {n : NodeId} (below rest : List Node) {stack : List NodeId}
    (hself : (cells[n]?).map Cell.children = some (below.map Node.id))
    (hrest : mark flag cells ((rest.map Node.id).reverse ++ n :: stack)
      = mark flag (flagged flag (Node.ids rest) cells) (n :: stack))
    (hbelow : ∀ cells' : List Cell, cells' = flagged flag (Node.ids rest ++ [n]) cells →
      mark flag cells' ((below.map Node.id).reverse ++ stack)
        = mark flag (flagged flag (Node.ids below) cells') stack) :
    mark flag cells ((n :: rest.map Node.id).reverse ++ stack)
      = mark flag (flagged flag (n :: (Node.ids below ++ Node.ids rest)) cells) stack := by
  have hchildren := (map_children_flagged flag cells (Node.ids rest) n).trans hself
  rw [List.reverse_cons, List.append_assoc, List.singleton_append, hrest,
    mark_cons_of_children flag hchildren, flagged_flagged, hbelow _ rfl, flagged_flagged]
  congr 1
  refine flagged_congr fun i => ?_
  simp only [List.mem_append, List.mem_cons, List.not_mem_nil]
  tauto

/-- Nodes on top of the stack are marked with all below them. -/
theorem mark_placesAll {above : List Element} {l : List Node}
    (h : Holds cells (Node.placesAll above l)) (stack : List NodeId) :
    mark flag cells ((l.map Node.id).reverse ++ stack)
      = mark flag (flagged flag (Node.ids l) cells) stack := by
  induction l using Node.forest_induction generalizing above cells stack with
  | nil => rw [Node.ids_nil, flagged_nil, List.map_nil, List.reverse_nil, List.nil_append]
  | text id content rest ih =>
    rw [Node.placesAll_text] at h
    obtain ⟨hself, hrest⟩ := List.forall_mem_cons.mp h
    rw [Node.ids_text]
    refine mark_node [] rest hself (ih hrest _) fun cells' _ => ?_
    rw [Node.ids_nil, flagged_nil, List.map_nil, List.reverse_nil, List.nil_append]
  | element id tag attributes children rest ihc ihr =>
    rw [Node.placesAll_element] at h
    obtain ⟨hself, hbehind⟩ := List.forall_mem_cons.mp h
    obtain ⟨hchildren, hrest⟩ := List.forall_mem_append.mp hbehind
    rw [Node.ids_element]
    refine mark_node children rest hself (ihr hrest _) fun cells' hcells => ?_
    subst hcells
    exact ihc (Holds.flagged hchildren _) stack

/-- The subtree of a node is marked, and nothing else is. -/
theorem mark_subtree (flag : Bool) {above : List Element} {node : Node}
    (h : Holds cells (Node.placesAll above [node])) :
    mark flag cells [node.id] = some (flagged flag (Node.ids [node]) cells) := by
  rw [← mark_nil flag]
  exact mark_placesAll h []

end Pinpoint.Arena
