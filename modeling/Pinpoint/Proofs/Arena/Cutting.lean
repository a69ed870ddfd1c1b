import Pinpoint.Proofs.Arena.Marking
import Pinpoint.Proofs.Document.Building

/-! Taking a subtree out of an arena. Its parent forgets it, it forgets its parent, and no cell of
the subtree is in the tree any more. The document says the same of the node and of all below it. -/

namespace Pinpoint

namespace Node

/-- What is added above a list of nodes is above all that stands in it. -/
theorem placesAll_below (above outer : List Element) (l : List Node) :
    placesAll (above ++ outer) l
      = (placesAll above l).map fun p => ⟨p.node, p.ancestors ++ outer⟩ := by
  induction l using Node.forest_induction generalizing above with
  | nil => rfl
  | text id content rest ih => rw [placesAll_text, placesAll_text, ih, List.map_cons]
  | element id tag attributes children rest ihc ihr =>
    have hbranch := ihc (⟨id, tag, attributes, children⟩ :: above)
    rw [List.cons_append] at hbranch
    rw [placesAll_element, placesAll_element, hbranch, ihr, List.map_cons, List.map_append]

theorem placesAll_subset_of_mem {above : List Element} {l : List Node} {n : Node} (hn : n ∈ l) :
    placesAll above [n] ⊆ placesAll above l := by
  obtain ⟨before, behind, rfl⟩ := List.append_of_mem hn
  rw [List.append_cons, placesAll_append, placesAll_append]
  exact List.subset_append_of_subset_left _ (List.subset_append_right _ _)

theorem self_mem_placesAll (above : List Element) (n : Node) :
    ⟨n, above⟩ ∈ placesAll above [n] := by
  cases n with
  | text i content => exact List.mem_cons_self
  | element e =>
    obtain ⟨i, tag, attributes, children⟩ := e
    rw [placesAll_element]
    exact List.mem_cons_self

theorem isBelow_of_mem_placesAll {above : List Element} {n : Node} {p : Place}
    (hp : p ∈ placesAll above [n]) : p.isBelow n.id = true := by
  cases n with
  | text i content =>
    rw [placesAll_text, placesAll_nil, List.mem_singleton] at hp
    simp [Place.isBelow, Place.id, hp, Node.id]
  | element e =>
    obtain ⟨i, tag, attributes, children⟩ := e
    rw [placesAll_element, placesAll_nil, List.append_nil, List.mem_cons] at hp
    rcases hp with rfl | hp
    · simp [Place.isBelow, Place.id]
    · exact Place.isBelow_of_mem_ancestors (above_subset_ancestors hp List.mem_cons_self) rfl

end Node

namespace Document

section Cut

variable {d : Document} {node : Node} {parent : Element} {rest : List Element}

theorem outline_detach (d : Document) (id : NodeId) : (d.detach id).outline = d.outline := by
  unfold Document.detach
  split <;> rfl

theorem placesAll_subset_of_place? {id : NodeId}
    (hplace : d.place? id = some ⟨node, parent :: rest⟩) :
    Node.placesAll (parent :: rest) [node] ⊆ d.places := by
  obtain ⟨hparent, hnode⟩ := parent_mem_places (place_of_place? hplace).1
  rw [places_eq] at hparent ⊢
  exact List.Subset.trans (Node.placesAll_subset_of_mem hnode)
    (Node.placesAll_children_subset hparent)

/-- Each node of the subtree stands in it both before and after the cut. -/
theorem exists_place_of_mem_ids (above : List Element) {i : NodeId}
    (hi : i ∈ Node.ids [node]) : ∃ q ∈ Node.placesAll [] [node], q.id = i ∧
      ⟨q.node, q.ancestors ++ above⟩ ∈ Node.placesAll above [node] := by
  rw [← Node.map_id_placesAll []] at hi
  obtain ⟨q, hq, hid⟩ := List.mem_map.mp hi
  refine ⟨q, hq, hid, ?_⟩
  rw [← List.nil_append above, Node.placesAll_below]
  exact List.mem_map_of_mem hq

theorem WellFormed.placesAll_subset_detach (h : d.WellFormed)
    (hplace : d.place? node.id = some ⟨node, parent :: rest⟩) :
    Node.placesAll [] [node] ⊆ (d.detach node.id).places := by
  rw [places_eq, h.forest_detach hplace, Node.placesAll_append]
  exact List.subset_append_right _ _

/-- All that goes with a node is in the subtree that was taken out. -/
theorem WellFormed.isBelow_eq_false (h : d.WellFormed)
    (hplace : d.place? node.id = some ⟨node, parent :: rest⟩) {i : NodeId}
    (hi : i ∉ Node.ids [node]) : d.isBelow node.id i = false := by
  cases hp : d.place? i with
  | none =>
    have hne : i ≠ node.id := by
      rintro rfl
      rw [hplace] at hp
      cases hp
    simp [isBelow, ancestorIds, hp, hne]
  | some p =>
    obtain ⟨hmem, rfl⟩ := place_of_place? hp
    have hids := ((h.labels_detach node.id).map Prod.fst).mem_iff (a := p.id)
    rw [places_eq] at hmem
    have hforest := hids.mpr (Node.id_mem_ids hmem)
    rw [h.forest_detach hplace, Node.labels_append, List.map_append, List.mem_append] at hforest
    have hstay : p.id ∈ Node.ids (Node.withoutAll node.id d.forest) := hforest.resolve_right hi
    rw [← Node.map_id_placesAll [], Node.placesAll_nil_withoutAll, ← places_eq, List.mem_map]
      at hstay
    obtain ⟨_, hq, hqp⟩ := hstay
    obtain ⟨q, hkept, rfl⟩ := List.mem_map.mp hq
    obtain ⟨hq, hout⟩ := List.mem_filter.mp hkept
    rw [Place.id_without] at hqp
    rw [← hqp, h.isBelow_eq hq]
    simpa using hout

theorem cell_without (id : NodeId) (p : Place) (attached : Bool) (outline : Option String) :
    (p.without id).cell attached outline = { p.cell attached outline with
      children := (p.cell attached outline).children.filter (· != id) } := by
  have hparent : (p.without id).ancestors.head?.map Element.id
      = p.ancestors.head?.map Element.id := by
    rw [← List.head?_map, ← List.head?_map, p.map_id_ancestors_without]
  have hchildren : (p.without id).node.childIds = p.node.childIds.filter (· != id) := by
    obtain ⟨node, ancestors⟩ := p
    cases node with
    | text i content => rfl
    | element e =>
      obtain ⟨i, tag, attributes, children⟩ := e
      exact Node.map_id_withoutAll id children
  rw [Place.cell, hparent, hchildren, p.data_without]
  rfl

theorem WellFormed.parent_not_mem_ids (h : d.WellFormed)
    (hplace : d.place? node.id = some ⟨node, parent :: rest⟩) : parent.id ∉ Node.ids [node] := by
  obtain ⟨hparent, hnode⟩ := parent_mem_places (place_of_place? hplace).1
  rw [places_eq] at hparent
  have hdistinct := h.distinct.sublist (Node.ids_children_sublist hparent)
  intro hmem
  rw [← Node.map_id_placesAll []] at hmem
  obtain ⟨p, hp, hid⟩ := List.mem_map.mp hmem
  have hbelow := Node.id_mem_ids (Node.placesAll_subset_of_mem hnode hp)
  exact (List.nodup_cons.mp hdistinct).1 (hid ▸ hbelow)

theorem WellFormed.childIds_of_place (h : d.WellFormed) {p : Place} (hp : p ∈ d.places) :
    d.childIds p.id = p.node.childIds := by
  obtain ⟨n, ancestors⟩ := p
  cases n with
  | text i content => exact h.childIds_text hp
  | element e => exact h.childIds_eq hp

theorem WellFormed.cell?_detach_of_not_mem (h : d.WellFormed)
    (hplace : d.place? node.id = some ⟨node, parent :: rest⟩) {i : NodeId}
    (hi : i ∉ Node.ids [node]) :
    (d.detach node.id).cell? i = (d.cell? i).map fun cell =>
      if parent.id = i then { cell with children := cell.children.filter (· != node.id) }
      else cell := by
  have hbelow := h.isBelow_eq_false hplace hi
  rw [cell?, cell?, h.place?_detach hplace hbelow, (h.takenOut_of_parent hplace).attached, hbelow,
    Bool.not_false, Bool.and_true, outline_detach, Option.map_map, Option.map_map]
  refine Option.map_congr fun p hp => ?_
  obtain ⟨hmem, rfl⟩ := place_of_place? hp
  rw [Function.comp_apply, Function.comp_apply, cell_without]
  split
  · rfl
  · rename_i hne
    have hstay : ∀ c ∈ p.node.childIds, (c != node.id) = true := by
      intro c hc
      rw [bne_iff_ne]
      rintro rfl
      rw [← h.childIds_of_place hmem] at hc
      have hparent := h.isChild_iff.mp hc
      rw [parentId?, hplace] at hparent
      exact hne (Option.some.inj hparent)
    have hfilter := List.filter_eq_self.mpr hstay
    change p.node.childIds.filter _ = p.node.childIds at hfilter
    exact congrArg (fun l => { p.cell _ _ with children := l }) hfilter

theorem WellFormed.cell?_detach_of_mem (h : d.WellFormed)
    (hplace : d.place? node.id = some ⟨node, parent :: rest⟩) {i : NodeId}
    (hi : i ∈ Node.ids [node]) :
    (d.detach node.id).cell? i = (d.cell? i).map fun cell =>
      { cell with parent := if node.id = i then none else cell.parent, attached := false } := by
  obtain ⟨q, hq, rfl, hold⟩ := exists_place_of_mem_ids (parent :: rest) hi
  have hbelow := Node.isBelow_of_mem_placesAll hold
  have hold := placesAll_subset_of_place? hplace hold
  have hnew := h.placesAll_subset_detach hplace hq
  rw [← h.isBelow_eq hold] at hbelow
  have hattached : (d.detach node.id).isAttached q.id = false := by
    rw [(h.takenOut_of_parent hplace).attached]
    exact Bool.and_eq_false_imp.mpr fun _ => congrArg not hbelow
  have hcell := h.cell?_of_place hold
  change d.cell? q.id = _ at hcell
  rw [(h.detach node.id).cell?_of_place hnew, hcell, hattached, outline_detach, Option.map_some]
  have hparent : q.ancestors.head?.map Element.id = if node.id = q.id then none
      else (q.ancestors ++ parent :: rest).head?.map Element.id := by
    obtain ⟨n, ancestors⟩ := q
    cases ancestors with
    | nil =>
      rcases Node.mem_placesAll_cases hq with ⟨hn, -⟩ | ⟨q, above, heq, -, -⟩
      · obtain rfl := List.mem_singleton.mp hn
        exact (if_pos rfl).symm
      · cases heq
    | cons above more =>
      have htop := h.placesAll_subset_detach hplace (Node.self_mem_placesAll [] node)
      have hne : node.id ≠ Place.id ⟨n, above :: more⟩ := fun hid => by
        cases (h.detach node.id).place_unique htop hnew hid
      exact (if_neg hne).symm
  rw [Place.cell, hparent]
  rfl

end Cut

end Document

namespace Arena

variable {a : Arena} {d : Document}

/-- The cells after the links between a node and its parent are cut, and before they are marked. -/
def unlinked (parent n : NodeId) (cells : List Cell) : List Cell :=
  (cells.modify parent fun cell => { cell with children := cell.children.filter (· != n) }).modify n
    fun cell => { cell with parent := none }

theorem detach_eq {n parent : NodeId} {above cell : Cell} {marked : List Cell}
    (hparent : a.parent? n = some parent) (habove : a.cells[parent]? = some above)
    (hcell : a.cells[n]? = some cell)
    (hmark : mark false (unlinked parent n a.cells) [n] = some marked) :
    a.detach n = some { a with cells := marked, root := a.root.filter (· != n) } := by
  have hforgotten : (a.cells.modify parent fun cell =>
      { cell with children := cell.children.filter (· != n) })[n]?
        = some (if parent = n then { cell with children := cell.children.filter (· != n) }
            else cell) := by
    rw [getElem?_modified, hcell, Option.map_some]
  rw [unlinked] at hmark
  rw [Arena.detach, hparent]
  simp only [modify?_eq _ habove, modify?_eq _ hforgotten, hmark, Option.bind_eq_bind,
    Option.bind_some]

section Cut

variable {node : Node} {parent : Element} {rest : List Element} (h : a.Represents d) (hd : d.Sound)
  (hplace : d.place? node.id = some ⟨node, parent :: rest⟩)

include h hd hplace

theorem Represents.holds_unlinked : Holds (unlinked parent.id node.id a.cells)
    (Node.placesAll (parent :: rest) [node]) := by
  intro p hp
  have hcell := hd.cell?_of_place (Document.placesAll_subset_of_place? hplace hp)
  have hne : parent.id ≠ p.id := fun heq =>
    hd.parent_not_mem_ids hplace (heq ▸ Node.id_mem_ids hp)
  rw [unlinked, getElem?_modified, getElem?_modified, h.cells, hcell, Option.map_some,
    if_neg hne, Option.map_some, Option.map_some]
  split <;> rfl

/-- Inside and outside of the subtree the cells are those that the document has after the cut. -/
theorem Represents.cells_cut (i : NodeId) :
    (flagged false (Node.ids [node]) (unlinked parent.id node.id a.cells))[i]?
      = (d.detach node.id).cell? i := by
  rw [getElem?_flagged, unlinked, getElem?_modified, getElem?_modified, h.cells]
  by_cases hi : i ∈ Node.ids [node]
  · have hne : parent.id ≠ i := fun heq => hd.parent_not_mem_ids hplace (heq ▸ hi)
    rw [hd.cell?_detach_of_mem hplace hi]
    simp only [if_neg hne, Option.map_id', if_pos hi, Option.map_map]
    congr 1
    funext cell
    rw [Function.comp_apply]
    split <;> rfl
  · have hne : node.id ≠ i := by
      rintro rfl
      exact hi (Node.id_mem_ids (Node.self_mem_placesAll [] node))
    rw [hd.cell?_detach_of_not_mem hplace hi]
    simp only [if_neg hne, if_neg hi, Option.map_id']

theorem Represents.detach_of_parent :
    ∃ now, a.detach node.id = some now ∧ now.Represents (d.detach node.id) := by
  have hmem := (Document.place_of_place? hplace).1
  have hparent : a.parent? node.id = some parent.id := by
    rw [h.parent?_eq]
    exact hd.parentId?_eq hmem
  have habove := (h.cells parent.id).trans
    (hd.cell?_of_place (Document.parent_mem_places hmem).1)
  have hself := (h.cells node.id).trans (hd.cell?_of_place hmem)
  have hdetach : d.detach node.id = { d with
      root := d.root.without node.id
      detached := Node.withoutAll node.id d.detached ++ [node] } := by
    rw [Document.detach, hplace]
  refine ⟨_, detach_eq hparent habove hself (mark_subtree false (h.holds_unlinked hd hplace)),
    h.cells_cut hd hplace, ?_, ?_, ?_, ?_⟩
  · have hne : d.root.id ≠ node.id := hd.root_ne_of_parent hplace
    rw [hdetach, h.root, Element.id_without]
    change (some d.root.id).filter (· != node.id) = some d.root.id
    rw [Option.filter_some, if_pos (bne_iff_ne.mpr hne)]
  all_goals rw [hdetach]
  · exact h.url
  · exact h.frame
  · exact h.active

end Cut

/-- A node without a parent stays where it is, in both. -/
theorem Represents.detach (h : a.Represents d) (hd : d.Sound) (n : NodeId) :
    ∃ now, a.detach n = some now ∧ now.Represents (d.detach n) := by
  by_cases hplace : ∃ node parent rest, d.place? n = some ⟨node, parent :: rest⟩
  · obtain ⟨node, parent, rest, hplace⟩ := hplace
    obtain rfl : node.id = n := (Document.place_of_place? hplace).2
    exact h.detach_of_parent hd hplace
  · have hnone := (h.parent?_eq n).trans (Document.parentId?_eq_none hplace)
    rw [Document.detach_eq_self hplace]
    exact ⟨a, by rw [Arena.detach, hnone], h⟩

end Arena

end Pinpoint
