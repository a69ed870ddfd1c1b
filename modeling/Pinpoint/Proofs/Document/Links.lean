import Pinpoint.Proofs.Document.Ancestry
import Pinpoint.Proofs.Document.Numbering

/-! Documents as links between numbers. Each node has a list of children and a node above it, and
the two kinds of links belong to one forest, of which the tree of the document is what hangs below
the document element. -/

namespace Pinpoint

/-- The numbers that are met when nodes are visited one after the other, each before its children.
-/
inductive InPreorder (children : NodeId → List NodeId) : List NodeId → List NodeId → Prop where
  | nil : InPreorder children [] []
  | cons {n : NodeId} {rest below behind : List NodeId} : InPreorder children (children n) below →
    InPreorder children rest behind → InPreorder children (n :: rest) (n :: (below ++ behind))

theorem InPreorder.unique {children : NodeId → List NodeId} {nodes l m : List NodeId}
    (hl : InPreorder children nodes l) (hm : InPreorder children nodes m) : l = m := by
  induction hl generalizing m with
  | nil =>
    cases hm
    rfl
  | cons _ _ ihb ihr =>
    cases hm with
    | cons hbelow hbehind => rw [ihb hbelow, ihr hbehind]

inductive Ascent (parent? : NodeId → Option NodeId) : NodeId → List NodeId → Prop where
  | top {n : NodeId} : parent? n = none → Ascent parent? n []
  | up {n p : NodeId} {above : List NodeId} : parent? n = some p → Ascent parent? p above →
    Ascent parent? n (p :: above)

/-- What is not at the top is a child of an element with a place of its own, one level up. -/
theorem Node.parent_mem_placesAll {l : List Node} {n : Node} {q : Element} {rest : List Element}
    (hp : ⟨n, q :: rest⟩ ∈ Node.placesAll [] l) :
    ⟨.element q, rest⟩ ∈ Node.placesAll [] l ∧ n ∈ q.children := by
  rcases Node.mem_placesAll_cases hp with ⟨-, ha⟩ | ⟨q', rest', ha, hq, hn⟩
  · cases ha
  · cases ha
    exact ⟨hq, hn⟩

namespace Document

def IsChild (d : Document) (p c : NodeId) : Prop := c ∈ d.childIds p

variable {d : Document}

section Links

theorem WellFormed.site?_eq (h : d.WellFormed) {e : Element} {above : List Element}
    (he : ⟨.element e, above⟩ ∈ d.places) : d.site? e.id = some ⟨e, above⟩ := by
  have hplace := h.place?_eq he
  change d.place? e.id = _ at hplace
  rw [site?, hplace]
  rfl

theorem WellFormed.site?_of_mem (h : d.WellFormed) {s : Site} (hs : s ∈ d.elements) :
    d.site? s.id = some s :=
  h.site?_eq (place_of_mem hs)

theorem place_of_site? {n : NodeId} {s : Site} (h : d.site? n = some s) :
    ⟨.element s.element, s.ancestors⟩ ∈ d.places ∧ s.id = n := by
  obtain ⟨p, hp, hs⟩ := Option.bind_eq_some_iff.mp h
  obtain ⟨hmem, hid⟩ := place_of_place? hp
  rw [eq_element_of_site? hs] at hmem hid
  exact ⟨hmem, hid⟩

theorem child_mem_places {e : Element} {above : List Element}
    (he : ⟨.element e, above⟩ ∈ d.places) {n : Node} (hn : n ∈ e.children) :
    ⟨n, e :: above⟩ ∈ d.places := by
  rw [places_eq] at he ⊢
  exact Node.child_mem_placesAll he hn

theorem parent_mem_places {n : Node} {q : Element} {rest : List Element}
    (hp : ⟨n, q :: rest⟩ ∈ d.places) : ⟨.element q, rest⟩ ∈ d.places ∧ n ∈ q.children := by
  rw [places_eq] at hp ⊢
  exact Node.parent_mem_placesAll hp

theorem WellFormed.parentId?_eq (h : d.WellFormed) {p : Place} (hp : p ∈ d.places) :
    d.parentId? p.id = p.ancestors.head?.map Element.id := by
  rw [parentId?, h.place?_eq hp, Option.bind_some]

theorem WellFormed.childIds_eq (h : d.WellFormed) {e : Element} {above : List Element}
    (he : ⟨.element e, above⟩ ∈ d.places) : d.childIds e.id = e.children.map Node.id := by
  rw [childIds, h.site?_eq he]

theorem WellFormed.isChild_of_place (h : d.WellFormed) {e : Element} {above : List Element}
    (he : ⟨.element e, above⟩ ∈ d.places) {n : Node} (hn : n ∈ e.children) :
    d.IsChild e.id n.id := by
  rw [IsChild, h.childIds_eq he]
  exact List.mem_map_of_mem hn

theorem exists_place_of_child {p c : NodeId} (h : d.IsChild p c) :
    ∃ e above n, ⟨.element e, above⟩ ∈ d.places ∧ e.id = p ∧ n ∈ e.children ∧ n.id = c := by
  unfold IsChild childIds at h
  split at h
  · rename_i s hs
    obtain ⟨hmem, hid⟩ := place_of_site? hs
    obtain ⟨n, hn, hnc⟩ := List.mem_map.mp h
    exact ⟨s.element, s.ancestors, n, hmem, hid, hn, hnc⟩
  · cases h

theorem isElement_of_childIds_ne_nil {p : NodeId} (h : d.childIds p ≠ []) :
    d.isElement p = true := by
  unfold childIds at h
  split at h
  · rename_i s hs
    rw [isElement, hs]
    rfl
  · exact absurd rfl h

/-- The links down and the links up are the same links. -/
theorem WellFormed.isChild_iff (h : d.WellFormed) {p c : NodeId} :
    d.IsChild p c ↔ d.parentId? c = some p := by
  constructor
  · intro hc
    obtain ⟨e, above, n, he, rfl, hn, rfl⟩ := exists_place_of_child hc
    exact h.parentId?_eq (child_mem_places he hn)
  · intro hp
    obtain ⟨⟨n, ancestors⟩, hplace, hhead⟩ := Option.bind_eq_some_iff.mp hp
    obtain ⟨hmem, rfl⟩ := place_of_place? hplace
    cases ancestors with
    | nil => cases hhead
    | cons q rest =>
      cases hhead
      obtain ⟨hq, hn⟩ := parent_mem_places hmem
      exact h.isChild_of_place hq hn

theorem Sound.parent_lt (h : d.Sound) {p c : NodeId} (hc : d.parentId? c = some p) : p < c := by
  obtain ⟨e, above, n, he, rfl, hn, rfl⟩ := exists_place_of_child (h.isChild_iff.mpr hc)
  rw [places_eq] at he
  exact h.rising.child_gt he hn

theorem WellFormed.childIds_nodup (h : d.WellFormed) (p : NodeId) : (d.childIds p).Nodup := by
  unfold childIds
  split
  · rename_i s hs
    have hmem := (place_of_site? hs).1
    rw [places_eq] at hmem
    have hchildren := h.distinct.sublist (Node.ids_children_sublist hmem)
    exact (List.nodup_cons.mp hchildren).2.sublist (Node.map_id_sublist_ids _)
  · exact List.nodup_nil

theorem WellFormed.count_childIds (h : d.WellFormed) (p c : NodeId) :
    (d.childIds p).count c = if d.parentId? c = some p then 1 else 0 := by
  split
  · rename_i hp
    exact List.count_eq_one_of_mem (h.childIds_nodup p) (h.isChild_iff.mpr hp)
  · rename_i hp
    exact List.count_eq_zero.mpr fun hc => hp (h.isChild_iff.mp hc)

end Links

section Tree

theorem isAttached_of_place {p : Place} (hp : p ∈ d.attachedPlaces) : d.isAttached p.id = true :=
  List.any_eq_true.mpr ⟨p, hp, by simp⟩

theorem isAttached_of_mem {s : Site} (hs : s ∈ d.elements) : d.isAttached s.id = true :=
  isAttached_of_place (mem_elements.mp hs)

theorem place_of_isAttached {n : NodeId} (h : d.isAttached n = true) :
    ∃ p ∈ d.attachedPlaces, p.id = n := by
  obtain ⟨p, hp, hid⟩ := List.any_eq_true.mp h
  exact ⟨p, hp, by simpa using hid⟩

theorem WellFormed.reachable_of_place (h : d.WellFormed) {p : Place}
    (hp : p ∈ d.attachedPlaces) : Relation.ReflTransGen d.IsChild d.root.id p.id := by
  obtain ⟨n, ancestors⟩ := p
  induction ancestors generalizing n with
  | nil =>
    rw [attachedPlaces_eq] at hp
    rcases Node.mem_placesAll_cases hp with ⟨hn, -⟩ | ⟨q, rest, ha, -, -⟩
    · have hroot : n = .element d.root := List.mem_singleton.mp hn
      rw [hroot]
      exact .refl
    · cases ha
  | cons q rest ih =>
    rw [attachedPlaces_eq] at hp
    obtain ⟨hq, hn⟩ := Node.parent_mem_placesAll hp
    rw [← attachedPlaces_eq] at hq
    exact (ih _ hq).tail (h.isChild_of_place (d.attachedPlaces_subset hq) hn)

theorem WellFormed.isAttached_child (h : d.WellFormed) {p c : NodeId}
    (hp : d.isAttached p = true) (hc : d.IsChild p c) : d.isAttached c = true := by
  obtain ⟨e, above, n, he, rfl, hn, rfl⟩ := exists_place_of_child hc
  obtain ⟨q, hq, hid⟩ := place_of_isAttached hp
  -- the attached node of this number is the parent itself
  have hsame := h.place_unique (d.attachedPlaces_subset hq) he hid
  rw [hsame, attachedPlaces_eq] at hq
  have hplace := Node.child_mem_placesAll hq hn
  rw [← attachedPlaces_eq] at hplace
  exact isAttached_of_place hplace

theorem WellFormed.isAttached_iff_reachable (h : d.WellFormed) {n : NodeId} :
    d.isAttached n = true ↔ Relation.ReflTransGen d.IsChild d.root.id n := by
  constructor
  · intro hn
    obtain ⟨p, hp, rfl⟩ := place_of_isAttached hn
    exact h.reachable_of_place hp
  · intro hreach
    induction hreach with
    | refl => exact isAttached_of_place d.root_mem_attachedPlaces
    | tail _ hc ih => exact h.isAttached_child ih hc

def elementChildIds (d : Document) (n : NodeId) : List NodeId :=
  (d.childIds n).filter fun c => d.isElement c

theorem WellFormed.isElement_eq (h : d.WellFormed) {p : Place} (hp : p ∈ d.places) :
    d.isElement p.id = p.site?.isSome := by
  rw [isElement, site?, h.place?_eq hp, Option.bind_some]

theorem WellFormed.filter_isElement (h : d.WellFormed) {above : List Element} {l : List Node}
    (hl : Node.placesAll above l ⊆ d.places) :
    (l.map Node.id).filter (fun c => d.isElement c)
      = (l.filterMap Node.element?).map Element.id := by
  induction l with
  | nil => rfl
  | cons n l ih =>
    cases n with
    | text id content =>
      rw [Node.placesAll_text, List.cons_subset] at hl
      have htext : d.isElement id = false := h.isElement_eq hl.1
      rw [List.map_cons, Node.id, List.filter_cons_of_neg (by simp [htext]), ih hl.2]
      rfl
    | element e =>
      obtain ⟨id, tag, attributes, children⟩ := e
      rw [Node.placesAll_element, List.cons_subset, List.append_subset] at hl
      obtain ⟨hself, -, hrest⟩ := hl
      have helement : d.isElement id = true := h.isElement_eq hself
      rw [List.map_cons, Node.id, List.filter_cons_of_pos helement, ih hrest]
      rfl

theorem WellFormed.preorder_placesAll (h : d.WellFormed) {above : List Element} {l : List Node}
    (hl : Node.placesAll above l ⊆ d.places) :
    InPreorder d.elementChildIds ((l.filterMap Node.element?).map Element.id)
      (((Node.placesAll above l).filterMap Place.site?).map Site.id) := by
  induction l using Node.forest_induction generalizing above with
  | nil =>
    rw [Node.placesAll_nil]
    exact .nil
  | text id content rest ih =>
    rw [Node.placesAll_text] at hl ⊢
    exact ih (List.cons_subset.mp hl).2
  | element id tag attributes children rest ihc ihr =>
    rw [Node.placesAll_element, List.cons_subset, List.append_subset] at hl
    obtain ⟨hself, hchildren, hrest⟩ := hl
    have hbelow := ihc hchildren
    rw [← h.filter_isElement hchildren, ← h.childIds_eq hself] at hbelow
    rw [Node.placesAll_element, List.filterMap_cons_some (f := Place.site?) rfl,
      List.filterMap_append, List.map_cons, List.map_append]
    exact .cons hbelow (ihr hrest)

theorem WellFormed.preorder_elements (h : d.WellFormed) :
    InPreorder d.elementChildIds [d.root.id] (d.elements.map Site.id) := by
  have hattached : Node.placesAll [] [.element d.root] ⊆ d.places := by
    rw [← attachedPlaces_eq]
    exact d.attachedPlaces_subset
  have hpre := h.preorder_placesAll hattached
  rwa [← attachedPlaces_eq] at hpre

theorem WellFormed.mem_elements_iff (h : d.WellFormed) {n : NodeId} :
    n ∈ d.elements.map Site.id ↔ d.isAttached n = true ∧ d.isElement n = true := by
  constructor
  · intro hn
    obtain ⟨s, hs, rfl⟩ := List.mem_map.mp hn
    have hplace := mem_elements.mp hs
    exact ⟨isAttached_of_place hplace, h.isElement_eq (d.attachedPlaces_subset hplace)⟩
  · rintro ⟨hattached, helement⟩
    obtain ⟨p, hp, rfl⟩ := place_of_isAttached hattached
    rw [h.isElement_eq (d.attachedPlaces_subset hp)] at helement
    obtain ⟨s, hs⟩ := Option.isSome_iff_exists.mp helement
    have hplace := eq_element_of_site? hs
    rw [hplace] at hp ⊢
    exact List.mem_map.mpr ⟨s, mem_elements.mpr hp, rfl⟩

end Tree

section Ascent

theorem WellFormed.ascent_of_place (h : d.WellFormed) {p : Place} (hp : p ∈ d.places) :
    Ascent d.parentId? p.id (p.ancestors.map Element.id) := by
  obtain ⟨n, ancestors⟩ := p
  have hparent := h.parentId?_eq hp
  induction ancestors generalizing n with
  | nil => exact .top hparent
  | cons q rest ih =>
    have hq := (parent_mem_places hp).1
    exact .up hparent (ih (.element q) hq (h.parentId?_eq hq))

theorem WellFormed.ascent (h : d.WellFormed) (n : NodeId) :
    Ascent d.parentId? n (d.ancestorIds n) := by
  unfold ancestorIds
  split
  · rename_i p hp
    obtain ⟨hmem, rfl⟩ := place_of_place? hp
    exact h.ascent_of_place hmem
  · rename_i hp
    refine .top ?_
    rw [parentId?, hp, Option.bind_none]

end Ascent

end Document

end Pinpoint
