import Pinpoint.Proofs.Document.Links

/-! Taking a subtree out. What is left are the places outside the subtree, in the same order; a node
there keeps all that it holds and its parent, and only the parent of the subtree loses a child. -/

namespace Pinpoint

namespace Node

def without (id : NodeId) : Node → Node
  | text i content => .text i content
  | element e => .element (e.without id)

end Node

namespace Place

def without (id : NodeId) (p : Place) : Place :=
  ⟨p.node.without id, p.ancestors.map (Element.without id)⟩

def isBelow (id : NodeId) (p : Place) : Bool := p.id = id || p.ancestors.any (·.id = id)

theorem id_without (id : NodeId) (p : Place) : (p.without id).id = p.id := by
  obtain ⟨n, ancestors⟩ := p
  cases n with
  | text i content => rfl
  | element e => exact e.id_without id

theorem map_id_ancestors_without (id : NodeId) (p : Place) :
    (p.without id).ancestors.map Element.id = p.ancestors.map Element.id := by
  simp only [without, List.map_map, Function.comp_def, Element.id_without]

theorem data_without (id : NodeId) (p : Place) : (p.without id).node.data = p.node.data := by
  obtain ⟨n, ancestors⟩ := p
  cases n with
  | text i content => rfl
  | element e =>
    cases e
    rw [without, Node.without, Element.without]
    rfl

theorem without_eq_map (id : NodeId) : Place.without id = Place.map (Element.without id) := by
  funext p
  obtain ⟨n, ancestors⟩ := p
  cases n <;> rfl

theorem isBelow_of_mem_ancestors {id : NodeId} {p : Place} {a : Element} (ha : a ∈ p.ancestors)
    (hid : a.id = id) : p.isBelow id = true := by
  rw [isBelow, Bool.or_eq_true, List.any_eq_true]
  exact .inr ⟨a, ha, by simpa using hid⟩

end Place

namespace Node

/-- What stands above a list of nodes stands above every place in it. -/
theorem above_subset_ancestors {above : List Element} {l : List Node} {p : Place}
    (hp : p ∈ placesAll above l) : above ⊆ p.ancestors := by
  induction l using Node.forest_induction generalizing above with
  | nil => simp at hp
  | text id content rest ih =>
    rw [placesAll_text, List.mem_cons] at hp
    rcases hp with rfl | hp
    · exact List.Subset.refl _
    · exact ih hp
  | element id tag attributes children rest ihc ihr =>
    rw [placesAll_element, List.mem_cons, List.mem_append] at hp
    rcases hp with rfl | hp | hp
    · exact List.Subset.refl _
    · exact List.Subset.trans (List.subset_cons_self _ _) (ihc hp)
    · exact ihr hp

/-- Below the node that goes there is nothing that stays. -/
theorem filter_placesAll_below {id : NodeId} {above : List Element} {a : Element} (ha : a ∈ above)
    (hid : a.id = id) (l : List Node) :
    (placesAll above l).filter (fun p => ! p.isBelow id) = [] := by
  rw [List.filter_eq_nil_iff]
  intro p hp
  simp [Place.isBelow_of_mem_ancestors (above_subset_ancestors hp ha) hid]

/-- The places that are left are those outside the subtree, in the same order. -/
theorem placesAll_withoutAll {id : NodeId} {above : List Element} (h : ∀ a ∈ above, a.id ≠ id)
    (l : List Node) :
    placesAll (above.map (Element.without id)) (withoutAll id l)
      = ((placesAll above l).filter fun p => ! p.isBelow id).map (Place.without id) := by
  induction l using Node.forest_induction generalizing above with
  | nil => rw [withoutAll, placesAll_nil, placesAll_nil, List.filter_nil, List.map_nil]
  | text i content rest ih =>
    have habove : above.any (·.id = id) = false := by simpa using h
    by_cases hi : i = id
    · have hbelow : Place.isBelow id ⟨.text i content, above⟩ = true := by
        simp [Place.isBelow, Place.id, Node.id, hi]
      rw [withoutAll, if_pos hi, ih h, placesAll_text, List.filter_cons_of_neg (by simp [hbelow])]
    · have hbelow : Place.isBelow id ⟨.text i content, above⟩ = false := by
        simp [Place.isBelow, Place.id, Node.id, hi, habove]
      rw [withoutAll, if_neg hi, placesAll_text, ih h, placesAll_text,
        List.filter_cons_of_pos (by simp [hbelow]), List.map_cons]
      rfl
  | element i tag attributes children rest ihc ihr =>
    have habove : above.any (·.id = id) = false := by simpa using h
    by_cases hi : i = id
    · have hbelow : Place.isBelow id ⟨.element ⟨i, tag, attributes, children⟩, above⟩ = true := by
        simp [Place.isBelow, Place.id, Node.id, hi]
      have hmem : (⟨i, tag, attributes, children⟩ : Element)
          ∈ (⟨i, tag, attributes, children⟩ : Element) :: above := List.mem_cons_self
      have hchildren := filter_placesAll_below hmem hi children
      rw [withoutAll, if_pos hi, ihr h, placesAll_element,
        List.filter_cons_of_neg (by simp [hbelow]), List.filter_append, hchildren, List.nil_append]
    · have hbelow : Place.isBelow id ⟨.element ⟨i, tag, attributes, children⟩, above⟩ = false := by
        simp [Place.isBelow, Place.id, Node.id, hi, habove]
      have hcons : ∀ a ∈ (⟨i, tag, attributes, children⟩ : Element) :: above, a.id ≠ id :=
        List.forall_mem_cons.mpr ⟨hi, h⟩
      have hbranch := ihc hcons
      rw [List.map_cons, Element.without] at hbranch
      rw [withoutAll, if_neg hi, Element.without, placesAll_element, hbranch, ihr h,
        placesAll_element, List.filter_cons_of_pos (by simp [hbelow]), List.filter_append,
        List.map_cons, List.map_append, Place.without, Node.without, Element.without]

theorem placesAll_nil_withoutAll (id : NodeId) (l : List Node) :
    placesAll [] (withoutAll id l)
      = ((placesAll [] l).filter fun p => ! p.isBelow id).map (Place.without id) := by
  have hnone : ∀ a ∈ ([] : List Element), a.id ≠ id := nofun
  exact placesAll_withoutAll hnone l

end Node

namespace Document

variable {d : Document} {id : NodeId}

def isBelow (d : Document) (id n : NodeId) : Bool := n = id || (d.ancestorIds n).contains id

theorem WellFormed.isBelow_eq (h : d.WellFormed) {p : Place} (hp : p ∈ d.places) (id : NodeId) :
    d.isBelow id p.id = p.isBelow id := by
  have hflip : ∀ a : Element, (id == a.id) = decide (a.id = id) := fun a => by
    rw [Bool.eq_iff_iff, beq_iff_eq, decide_eq_true_eq, eq_comm]
  rw [isBelow, ancestorIds, h.place?_eq hp, Place.isBelow, List.contains_map]
  simp only [hflip]

theorem place?_isSome_iff {n : NodeId} : (d.place? n).isSome = true ↔ n ∈ Node.ids d.forest := by
  rw [place?, List.find?_isSome, places_eq, ← Node.map_id_placesAll [], List.mem_map]
  simp only [decide_eq_true_eq]

/-- What is left of a document when the subtree of `id` is out of the tree: all the rest, as it
was. -/
structure TakenOut (d now : Document) (id : NodeId) : Prop where
  attached : ∀ n, now.isAttached n = (d.isAttached n && ! d.isBelow id n)
  elements : now.elements.map Site.id = (d.elements.map Site.id).filter fun n => ! d.isBelow id n
  data : ∀ n, d.isBelow id n = false → now.data? n = d.data? n
  parent : ∀ n, d.isBelow id n = false → now.parentId? n = d.parentId? n
  children : ∀ n, d.isBelow id n = false → now.childIds n
    = if d.parentId? id = some n then (d.childIds n).erase id else d.childIds n

section Cut

/-! A node that has a parent is cut off from it. -/

variable {node : Node} {parent : Element} {rest : List Element}

theorem WellFormed.attachedPlaces_detach (h : d.WellFormed)
    (hplace : d.place? id = some ⟨node, parent :: rest⟩) :
    (d.detach id).attachedPlaces
      = (d.attachedPlaces.filter fun p => ! p.isBelow id).map (Place.without id) := by
  have hroot : (d.detach id).root = d.root.without id := by
    rw [Document.detach, hplace]
  have hall := Node.placesAll_nil_withoutAll id [.element d.root]
  rw [Node.withoutAll, if_neg (h.root_ne_of_parent hplace), Node.withoutAll] at hall
  rw [attachedPlaces_eq, hroot, hall, attachedPlaces_eq]

theorem WellFormed.elements_detach (h : d.WellFormed)
    (hplace : d.place? id = some ⟨node, parent :: rest⟩) :
    (d.detach id).elements
      = (d.elements.filter fun s => ! d.isBelow id s.id).map (Site.map (Element.without id)) := by
  have hbelow : d.attachedPlaces.filter (fun p => ! p.isBelow id)
      = d.attachedPlaces.filter fun p => ! d.isBelow id p.id :=
    List.filter_congr fun p hp => by rw [h.isBelow_eq (d.attachedPlaces_subset hp)]
  rw [elements, h.attachedPlaces_detach hplace, Place.without_eq_map, Place.sites_map, hbelow,
    ← Place.filter_sites (fun n => ! d.isBelow id n), elements]

/-- A node outside the subtree keeps its place. -/
theorem WellFormed.place?_detach (h : d.WellFormed)
    (hplace : d.place? id = some ⟨node, parent :: rest⟩) {n : NodeId}
    (hn : d.isBelow id n = false) :
    (d.detach id).place? n = (d.place? n).map (Place.without id) := by
  cases hp : d.place? n with
  | none =>
    have hids : (Node.ids (d.detach id).forest).Perm (Node.ids d.forest) :=
      (h.labels_detach id).map Prod.fst
    have hold : ¬ (d.place? n).isSome = true := by simp [hp]
    rw [place?_isSome_iff, ← hids.mem_iff, ← place?_isSome_iff] at hold
    simpa using hold
  | some p =>
    obtain ⟨hmem, rfl⟩ := place_of_place? hp
    rw [h.isBelow_eq hmem] at hn
    have hkept : p.without id ∈ (d.detach id).places := by
      have hall := Node.placesAll_nil_withoutAll id d.forest
      rw [← places_eq] at hall
      rw [places_eq, h.forest_detach hplace, Node.placesAll_append, hall]
      exact List.mem_append_left _
        (List.mem_map_of_mem (List.mem_filter.mpr ⟨hmem, by simp [hn]⟩))
    have hfound := (h.detach id).place?_eq hkept
    rwa [Place.id_without] at hfound

theorem WellFormed.childIds_detach (h : d.WellFormed)
    (hplace : d.place? id = some ⟨node, parent :: rest⟩) {n : NodeId}
    (hn : d.isBelow id n = false) : (d.detach id).childIds n = (d.childIds n).erase id := by
  rw [(h.childIds_nodup n).erase_eq_filter, childIds, childIds, site?, site?,
    h.place?_detach hplace hn]
  cases d.place? n with
  | none => rfl
  | some p =>
    obtain ⟨node, ancestors⟩ := p
    cases node with
    | text i content => rfl
    | element e =>
      obtain ⟨i, tag, attributes, children⟩ := e
      have hstay := Node.map_id_withoutAll id children
      simpa [Place.without, Node.without, Element.without, Place.site?, Node.element?] using hstay

theorem WellFormed.takenOut_of_parent (h : d.WellFormed)
    (hplace : d.place? id = some ⟨node, parent :: rest⟩) : d.TakenOut (d.detach id) id where
  attached n := by
    rw [isAttached, h.attachedPlaces_detach hplace, Bool.eq_iff_iff, Bool.and_eq_true, isAttached]
    simp only [List.any_eq_true, List.mem_map, List.mem_filter]
    constructor
    · rintro ⟨_, ⟨p, ⟨hp, hbelow⟩, rfl⟩, hid⟩
      obtain rfl : p.id = n := by simpa [Place.id_without] using hid
      rw [h.isBelow_eq (d.attachedPlaces_subset hp)]
      exact ⟨⟨p, hp, by simp⟩, hbelow⟩
    · rintro ⟨⟨p, hp, hid⟩, hbelow⟩
      obtain rfl : p.id = n := by simpa using hid
      rw [h.isBelow_eq (d.attachedPlaces_subset hp)] at hbelow
      exact ⟨_, ⟨p, ⟨hp, hbelow⟩, rfl⟩, by simp [Place.id_without]⟩
  elements := by
    rw [h.elements_detach hplace, Site.ids_map _ fun e => e.id_without id, List.filter_map]
    rfl
  data n hn := by
    rw [data?, data?, h.place?_detach hplace hn, Option.map_map]
    congr 1
    funext p
    exact p.data_without id
  parent n hn := by
    rw [parentId?, parentId?, h.place?_detach hplace hn]
    cases d.place? n with
    | none => rfl
    | some p =>
      rw [Option.map_some, Option.bind_some, Option.bind_some, ← List.head?_map, ← List.head?_map,
        p.map_id_ancestors_without]
  children n hn := by
    rw [h.childIds_detach hplace hn]
    split
    · rfl
    · rename_i hparent
      exact List.erase_of_not_mem fun hc => hparent (h.isChild_iff.mp hc)

end Cut

section Kept

/-! A node without a parent stays. Unless it is the document element, the tree has nothing of its
subtree. -/

theorem parentId?_eq_none
    (hnone : ¬ ∃ node parent rest, d.place? id = some ⟨node, parent :: rest⟩) :
    d.parentId? id = none := by
  rw [parentId?]
  cases hp : d.place? id with
  | none => rfl
  | some p =>
    obtain ⟨node, ancestors⟩ := p
    cases ancestors with
    | nil => rfl
    | cons parent rest => exact absurd ⟨node, parent, rest, hp⟩ hnone

theorem isAttached_root (d : Document) : d.isAttached d.root.id = true :=
  isAttached_of_place d.root_mem_attachedPlaces

theorem attached_of_mem_ancestors {p : Place} {a : Element} (hp : p ∈ d.attachedPlaces)
    (ha : a ∈ p.ancestors) : d.isAttached a.id = true := by
  obtain ⟨node, ancestors⟩ := p
  induction ancestors generalizing node with
  | nil => cases ha
  | cons parent rest ih =>
    rw [attachedPlaces_eq] at hp
    obtain ⟨hparent, -⟩ := Node.parent_mem_placesAll hp
    rw [← attachedPlaces_eq] at hparent
    rcases List.mem_cons.mp ha with rfl | ha
    · exact isAttached_of_place hparent
    · exact ih _ hparent ha

theorem WellFormed.not_isBelow_of_attached (h : d.WellFormed) (hparent : d.parentId? id = none)
    (hid : id ≠ d.root.id) {n : NodeId} (hn : d.isAttached n = true) : d.isBelow id n = false := by
  have hout : d.isAttached id = false := by
    rw [Bool.eq_false_iff]
    intro hattached
    rcases (h.isAttached_iff_reachable.mp hattached).cases_tail with heq | ⟨c, -, hchild⟩
    · exact hid heq
    · rw [h.isChild_iff.mp hchild] at hparent
      cases hparent
  obtain ⟨p, hp, rfl⟩ := place_of_isAttached hn
  rw [h.isBelow_eq (d.attachedPlaces_subset hp), Place.isBelow, Bool.or_eq_false_iff]
  constructor
  · rw [decide_eq_false_iff_not]
    rintro rfl
    exact absurd hn (by simp [hout])
  · rw [List.any_eq_false]
    intro a ha heq
    have hattached := attached_of_mem_ancestors hp ha
    rw [of_decide_eq_true heq] at hattached
    exact absurd hattached (by simp [hout])

theorem WellFormed.takenOut_self (h : d.WellFormed) (hparent : d.parentId? id = none)
    (hid : id ≠ d.root.id) : d.TakenOut d id where
  attached n := by
    by_cases hn : d.isAttached n = true
    · rw [hn, h.not_isBelow_of_attached hparent hid hn]
      rfl
    · rw [Bool.not_eq_true] at hn
      rw [hn, Bool.false_and]
  elements := by
    refine (List.filter_eq_self.mpr fun n hn => ?_).symm
    rw [h.not_isBelow_of_attached hparent hid (h.mem_elements_iff.mp hn).1]
    rfl
  data _ _ := rfl
  parent _ _ := rfl
  children n _ := by
    rw [hparent]
    rfl

end Kept

/-- Detaching takes out the subtree of a node and nothing else. The document element alone is an
exception: it has no parent to be taken from, and stays where it is. -/
theorem takenOut_detach_iff (hd : d.Reachable) (id : NodeId) :
    (d.TakenOut (d.detach id) id ↔ id ≠ d.root.id) ∧ d.detach d.root.id = d := by
  have h := hd.wellFormed
  have hroot : d.detach d.root.id = d :=
    detach_eq_self fun ⟨_, _, _, hplace⟩ => h.root_ne_of_parent hplace rfl
  refine ⟨⟨?_, fun hid => ?_⟩, hroot⟩
  · rintro hout rfl
    rw [hroot] at hout
    have hattached := hout.attached d.root.id
    rw [d.isAttached_root, isBelow, decide_eq_true rfl] at hattached
    cases hattached
  · by_cases hplace : ∃ node parent rest, d.place? id = some ⟨node, parent :: rest⟩
    · obtain ⟨node, parent, rest, hplace⟩ := hplace
      exact h.takenOut_of_parent hplace
    · rw [detach_eq_self hplace]
      exact h.takenOut_self (parentId?_eq_none hplace) hid

def letter : Document :=
  ofMarkup ⟨"html", .empty, [.element ⟨"body", .empty,
    [.text "Dear", .element ⟨"p", .empty, [.text "you"]⟩, .element (.ofTag "hr")]⟩]⟩

/-- The text goes out of a paragraph that is no longer in the tree itself. -/
theorem takenOut_detach_letter :
    let cut := (letter.detach 3).detach 1
    cut.TakenOut (cut.detach 4) 4 ∧ cut.childIds 3 = [4] ∧ (cut.detach 4).childIds 3 = [] ∧
      (cut.detach 4).childIds 1 = [2, 5] := by
  intro cut
  have hd : letter.Reachable := .start (.markup _) (by decide)
  have hcut : cut.Reachable := .edit (.detach 1) (.edit (.detach 3) hd (by decide)) (by decide)
  exact ⟨(takenOut_detach_iff hcut 4).1.mpr (by decide), by decide, by decide, by decide⟩

/-- The document element is still in the tree after it was detached. -/
theorem detach_keeps_document_element :
    letter.Reachable ∧ letter.isBelow 0 0 = true ∧ (letter.detach 0).isAttached 0 = true ∧
      ¬ letter.TakenOut (letter.detach 0) 0 := by
  have hd : letter.Reachable := .start (.markup _) (by decide)
  refine ⟨hd, by decide, by decide, ?_⟩
  intro hout
  exact absurd (hout.attached 0) (by decide)

end Document

end Pinpoint
