import Pinpoint.Document.Arena
import Pinpoint.Proofs.Document.Detachment

/-! Arenas that represent documents. Each cell says what the tree says of the node of that number:
the element above it, its children, whether it is in the tree and what it holds. Loops along the
links then follow the tree. -/

namespace Pinpoint

def Node.childIds : Node → List NodeId
  | text _ _ => []
  | element e => e.children.map Node.id

def NodeData.painted (outline : Option String) : NodeData → CellData
  | text content => .text content
  | element tag attributes => .element tag attributes outline

def Place.cell (p : Place) (attached : Bool) (outline : Option String) : Cell :=
  ⟨p.ancestors.head?.map Element.id, p.node.childIds, attached, p.node.data.painted outline⟩

namespace Document

variable {d d' : Document}

def cell? (d : Document) (n : NodeId) : Option Cell :=
  (d.place? n).map fun p => p.cell (d.isAttached n) (d.outline n)

theorem cell?_eq (d : Document) (n : NodeId) :
    d.cell? n = (d.data? n).map fun data =>
      ⟨d.parentId? n, d.childIds n, d.isAttached n, data.painted (d.outline n)⟩ := by
  rw [cell?, data?, parentId?, childIds, site?]
  cases d.place? n with
  | none => rfl
  | some p =>
    obtain ⟨node, ancestors⟩ := p
    cases node <;> rfl

theorem WellFormed.cell?_of_place (h : d.WellFormed) {p : Place} (hp : p ∈ d.places) :
    d.cell? p.id = some (p.cell (d.isAttached p.id) (d.outline p.id)) := by
  rw [cell?, h.place?_eq hp, Option.map_some]

theorem WellFormed.isAttached_of_place?_none (h : d.WellFormed) {n : NodeId}
    (hn : d.place? n = none) : d.isAttached n = false := by
  rw [Bool.eq_false_iff]
  intro hattached
  obtain ⟨p, hp, rfl⟩ := place_of_isAttached hattached
  rw [h.place?_eq (d.attachedPlaces_subset hp)] at hn
  cases hn

theorem isElement_of_parentId? (h : d.WellFormed) {n p : NodeId} (hp : d.parentId? n = some p) :
    d.isElement p = true :=
  isElement_of_childIds_ne_nil (List.ne_nil_of_mem (h.isChild_iff.mpr hp))

theorem Sound.place?_isSome_iff (h : d.Sound) {n : NodeId} :
    (d.place? n).isSome = true ↔ n < d.size := by
  rw [Document.place?_isSome_iff, h.numbers.mem_iff, List.mem_range]

theorem attached_of_cell? {n : NodeId} {cell : Cell} (h : d.cell? n = some cell) :
    cell.attached = d.isAttached n := by
  rw [cell?_eq, Option.map_eq_some_iff] at h
  obtain ⟨data, -, rfl⟩ := h
  rfl

theorem Sound.cell?_eq_none (h : d.Sound) {n : NodeId} (hn : d.size ≤ n) : d.cell? n = none := by
  have hplace : d.place? n = none := by
    rw [← Option.not_isSome_iff_eq_none, h.place?_isSome_iff]
    exact Nat.not_lt.mpr hn
  rw [cell?, hplace, Option.map_none]

theorem Sound.exists_cell (h : d.Sound) {n : NodeId} (hn : n < d.size) :
    ∃ cell, d.cell? n = some cell := by
  obtain ⟨p, hp⟩ := Option.isSome_iff_exists.mp (h.place?_isSome_iff.mpr hn)
  exact ⟨_, congrArg (Option.map _) hp⟩

end Document

namespace Arena

variable {a : Arena} {d : Document}

/-- What the arena stores is what the document says. -/
structure Represents (a : Arena) (d : Document) : Prop where
  cells : ∀ n, a.cells[n]? = d.cell? n
  root : a.root = some d.root.id
  url : a.url = d.url
  frame : a.frame = d.frame
  active : a.active = d.active

namespace Represents

variable (h : a.Represents d)

include h

theorem parent?_eq (n : NodeId) : a.parent? n = d.parentId? n := by
  rw [parent?, h.cells, Document.cell?, Document.parentId?, Option.bind_map]
  rfl

theorem children_eq (n : NodeId) : a.children n = d.childIds n := by
  rw [children, h.cells, Document.cell?, Document.childIds, Document.site?]
  cases d.place? n with
  | none => rfl
  | some p =>
    obtain ⟨node, ancestors⟩ := p
    cases node <;> rfl

theorem isElement_eq (n : NodeId) : a.isElement n = d.isElement n := by
  rw [isElement, h.cells, Document.cell?, Document.isElement, Document.site?]
  cases d.place? n with
  | none => rfl
  | some p =>
    obtain ⟨node, ancestors⟩ := p
    cases node <;> rfl

theorem elementChildren_eq (n : NodeId) : a.elementChildren n = d.elementChildIds n := by
  rw [elementChildren, Document.elementChildIds, h.children_eq]
  exact List.filter_congr fun c _ => h.isElement_eq c

theorem isAttached_eq (hd : d.WellFormed) (n : NodeId) : a.isAttached n = d.isAttached n := by
  rw [isAttached, h.cells, Document.cell?]
  cases hn : d.place? n with
  | none => rw [hd.isAttached_of_place?_none hn]; rfl
  | some p => rfl

theorem active?_eq (hd : d.WellFormed) : a.active? = d.active? := by
  have hattached : a.isAttached = fun n => d.isAttached n := funext (h.isAttached_eq hd)
  rw [active?, Document.active?, h.active, hattached]

theorem parentElement?_eq (hd : d.WellFormed) (n : NodeId) :
    a.parentElement? n = d.parentId? n := by
  rw [parentElement?, h.parent?_eq]
  cases hp : d.parentId? n with
  | none => rfl
  | some p =>
    have helement := Document.isElement_of_parentId? hd hp
    rw [← h.isElement_eq] at helement
    rw [Option.filter_some, if_pos helement]

theorem length_cells (hd : d.Sound) : a.cells.length = d.size := by
  have hnone : ∀ n, a.cells.length ≤ n ↔ d.size ≤ n := fun n => by
    rw [← List.getElem?_eq_none_iff, h.cells, Document.cell?, Option.map_eq_none_iff, ← Nat.not_lt,
      ← hd.place?_isSome_iff, Option.not_isSome_iff_eq_none]
  exact Nat.le_antisymm ((hnone _).mpr (Nat.le_refl _)) ((hnone _).mp (Nat.le_refl _))

end Represents

section Loops

theorem visit_nil (listed : List NodeId) : repeatM a.visitStep (listed, []) = some listed := by
  rw [repeatM_eq_of_monadTail]
  rfl

theorem visit_cons (listed stack : List NodeId) (n : NodeId) :
    repeatM a.visitStep (listed, n :: stack)
      = repeatM a.visitStep (listed ++ [n], a.elementChildren n ++ stack) := by
  rw [repeatM_eq_of_monadTail]
  rfl

theorem climb_none (listed : List NodeId) : repeatM a.climbStep (listed, none) = some listed := by
  rw [repeatM_eq_of_monadTail]
  rfl

theorem climb_some (listed : List NodeId) (p : NodeId) :
    repeatM a.climbStep (listed, some p)
      = repeatM a.climbStep (listed ++ [p], a.parentElement? p) := by
  rw [repeatM_eq_of_monadTail]
  rfl

theorem climb_of_ascent {n : NodeId} {above : List NodeId} (h : Ascent a.parentElement? n above)
    (listed : List NodeId) :
    repeatM a.climbStep (listed, a.parentElement? n) = some (listed ++ above) := by
  induction h generalizing listed with
  | top hn => rw [hn, climb_none, List.append_nil]
  | up hn _ ih => rw [hn, climb_some, ih, List.append_assoc, List.singleton_append]

/-- The elements of a list of nodes that are on top of the stack are listed with all below them. -/
theorem Represents.visit_placesAll (h : a.Represents d) (hd : d.WellFormed) {above : List Element}
    {l : List Node} (hl : Node.placesAll above l ⊆ d.places) (listed stack : List NodeId) :
    repeatM a.visitStep (listed, (l.filterMap Node.element?).map Element.id ++ stack)
      = repeatM a.visitStep
          (listed ++ ((Node.placesAll above l).filterMap Place.site?).map Site.id, stack) := by
  induction l using Node.forest_induction generalizing above listed stack with
  | nil => simp
  | text id content rest ih =>
    rw [Node.placesAll_text] at hl ⊢
    exact ih (List.cons_subset.mp hl).2 listed stack
  | element id tag attributes children rest ihc ihr =>
    rw [Node.placesAll_element, List.cons_subset, List.append_subset] at hl
    obtain ⟨hself, hchildren, hrest⟩ := hl
    have hbelow : a.elementChildren id = (children.filterMap Node.element?).map Element.id := by
      rw [h.elementChildren_eq, ← hd.filter_isElement hchildren, ← hd.childIds_eq hself]
      rfl
    have hvisit := visit_cons (a := a) listed
      ((rest.filterMap Node.element?).map Element.id ++ stack) id
    rw [hbelow, ihc hchildren, ihr hrest] at hvisit
    rw [Node.placesAll_element, List.filterMap_cons_some (f := Node.element?) rfl,
      List.filterMap_cons_some (f := Place.site?) rfl, List.map_cons, List.cons_append, hvisit,
      List.filterMap_append, List.map_cons, List.map_append]
    simp only [List.append_assoc, List.singleton_append]
    rfl

theorem Represents.elements?_eq (h : a.Represents d) (hd : d.WellFormed) :
    a.elements? = some (d.elements.map Site.id) := by
  have hattached : Node.placesAll [] [.element d.root] ⊆ d.places := by
    rw [← Document.attachedPlaces_eq]
    exact d.attachedPlaces_subset
  have hvisit := h.visit_placesAll hd hattached [] []
  rw [visit_nil, ← Document.attachedPlaces_eq] at hvisit
  rw [elements?, h.root]
  exact hvisit

theorem Represents.ancestors?_eq (h : a.Represents d) (hd : d.WellFormed) (n : NodeId) :
    a.ancestors? n = some (d.ancestorIds n) := by
  have hparent : a.parentElement? = d.parentId? := funext (h.parentElement?_eq hd)
  have hascent := hd.ascent n
  rw [← hparent] at hascent
  exact climb_of_ascent hascent []

end Loops

end Arena

end Pinpoint
