import Pinpoint.Proofs.Document.Reachable

/-! Sites of a document: the elements of the tree with what is above them. In a well-formed
document an element is known by its number, and among the children of its parent by its tag and
its position. -/

namespace Pinpoint

namespace Document

variable {d : Document}

theorem eq_element_of_site? {p : Place} {s : Site} (h : p.site? = some s) :
    p = ⟨.element s.element, s.ancestors⟩ := by
  obtain ⟨node, above⟩ := p
  cases node with
  | text id content => cases h
  | element e =>
    cases h
    rfl

theorem mem_elements {s : Site} :
    s ∈ d.elements ↔ ⟨.element s.element, s.ancestors⟩ ∈ d.attachedPlaces := by
  rw [elements, List.mem_filterMap]
  constructor
  · rintro ⟨p, hp, hs⟩
    exact eq_element_of_site? hs ▸ hp
  · intro h
    exact ⟨_, h, rfl⟩

/-- An element is the document element or a child of an element of the tree. -/
theorem place_of_mem {s : Site} (h : s ∈ d.elements) :
    ⟨.element s.element, s.ancestors⟩ ∈ d.places :=
  d.attachedPlaces_subset (mem_elements.mp h)

theorem elements_cases {s : Site} (h : s ∈ d.elements) :
    s = ⟨d.root, []⟩ ∨ ∃ p rest, s.ancestors = p :: rest ∧ ⟨p, rest⟩ ∈ d.elements ∧
      s.element ∈ p.elementChildren := by
  rw [mem_elements, attachedPlaces_eq] at h
  rcases Node.mem_placesAll_cases h with ⟨hn, ha⟩ | ⟨p, rest, ha, hp, hn⟩
  · left
    have he : s.element = d.root := by simpa using hn
    rw [← he, ← ha]
  · right
    refine ⟨p, rest, ha, ?_, List.mem_filterMap.mpr ⟨_, hn, rfl⟩⟩
    rw [mem_elements, attachedPlaces_eq]
    exact hp

theorem parent_mem_elements {s t : Site} (h : s ∈ d.elements) (hp : s.parent? = some t) :
    t ∈ d.elements ∧ s.element ∈ t.element.elementChildren := by
  rcases elements_cases h with rfl | ⟨p, rest, ha, hmem, hchild⟩
  · cases hp
  · rw [Site.parent?, ha] at hp
    cases hp
    exact ⟨hmem, hchild⟩

theorem WellFormed.elements_nodup (h : d.WellFormed) : d.elements.Nodup := by
  have hn := h.distinct.sublist d.ids_attached_sublist
  refine hn.of_map _ |>.filterMap ?_
  intro p q s hp hq
  rw [eq_element_of_site? hp, eq_element_of_site? hq]

theorem WellFormed.site_unique (h : d.WellFormed) {s t : Site} (hs : s ∈ d.elements)
    (ht : t ∈ d.elements) (hid : s.id = t.id) : s = t := by
  have hp := h.place_unique (place_of_mem hs) (place_of_mem ht) hid
  cases s
  cases t
  cases hp
  rfl

theorem WellFormed.filter_elements (h : d.WellFormed) {p : Site → Bool} {s : Site}
    (hs : s ∈ d.elements) (hp : p s = true) (hunique : ∀ e ∈ d.elements, p e = true → e = s) :
    d.elements.filter p = [s] := by
  apply List.perm_singleton.mp
  rw [List.perm_ext_iff_of_nodup (h.elements_nodup.filter p) (List.nodup_singleton s)]
  intro e
  rw [List.mem_filter, List.mem_singleton]
  constructor
  · rintro ⟨he, hpe⟩
    exact hunique e he hpe
  · rintro rfl
    exact ⟨hs, hp⟩

theorem WellFormed.lower_site_tag (h : d.WellFormed) {s : Site} (hs : s ∈ d.elements) :
    Text.lower s.tag = s.tag := by
  have hp := place_of_mem hs
  rw [places_eq] at hp
  apply h.lower_tag s.id
  rw [← Node.map_label_placesAll []]
  exact List.mem_map_of_mem hp

end Document

theorem Node.length_children_lt {above : List Element} {l : List Node} {e : Element}
    {rest : List Element} (h : ⟨.element e, rest⟩ ∈ Node.placesAll above l) :
    e.children.length < (Node.ids l).length := by
  have hchildren := (Node.map_id_sublist_ids e.children).length_le
  have hself := (Node.ids_children_sublist h).length_le
  rw [List.length_map] at hchildren
  rw [List.length_cons] at hself
  omega

namespace Site

theorem siblingsOfType_of_parent {s t : Site} (h : s.parent? = some t) :
    s.siblingsOfType = t.element.elementChildren.filter (·.tag = s.tag) := by
  unfold Site.parent? at h
  unfold Site.siblingsOfType
  split at h
  · cases h
  · cases h
    rfl

theorem withAncestors_of_parent {s t : Site} (h : s.parent? = some t) :
    s.withAncestors = s :: t.withAncestors := by
  obtain ⟨e, above⟩ := s
  cases above with
  | nil => cases h
  | cons p rest =>
    cases h
    rfl

theorem isChain_withAncestors (e : Element) (above : List Element) :
    (Site.withAncestors ⟨e, above⟩).IsChain fun s t => s.parent? = some t := by
  induction above generalizing e with
  | nil => exact List.isChain_singleton _
  | cons p rest ih => exact List.IsChain.cons_cons rfl (ih p)

theorem position_pos (s : Site) : 0 < s.position := Nat.succ_pos _

theorem position_le {s : Site} (h : s.element ∈ s.siblingsOfType) :
    s.position ≤ s.siblingsOfType.length :=
  List.findIdx_lt_length_of_exists ⟨s.element, h, by simp [Site.id]⟩

end Site

namespace Document

variable {d : Document}

/-- An element of the tree or of what was taken out of it stands alone or has a parent there. -/
theorem places_cases {s : Site} (h : ⟨.element s.element, s.ancestors⟩ ∈ d.places) :
    s.siblingsOfType = [s.element] ∨ ∃ t, s.parent? = some t ∧
      ⟨.element t.element, t.ancestors⟩ ∈ d.places ∧ s.element ∈ t.element.elementChildren := by
  obtain ⟨e, ancestors⟩ := s
  rw [places_eq] at h
  rcases Node.mem_placesAll_cases h with ⟨-, ha⟩ | ⟨p, rest, ha, hp, hchild⟩
  · cases ha
    exact Or.inl rfl
  · cases ha
    rw [places_eq]
    exact Or.inr ⟨⟨p, rest⟩, rfl, hp, List.mem_filterMap.mpr ⟨_, hchild, rfl⟩⟩

theorem mem_siblingsOfType_of_place {s : Site}
    (h : ⟨.element s.element, s.ancestors⟩ ∈ d.places) : s.element ∈ s.siblingsOfType := by
  rcases places_cases h with halone | ⟨t, hp, -, hchild⟩
  · rw [halone]
    exact List.mem_singleton_self _
  · rw [Site.siblingsOfType_of_parent hp]
    exact List.mem_filter.mpr ⟨hchild, by simp [Site.tag]⟩

theorem mem_siblingsOfType {s : Site} (h : s ∈ d.elements) : s.element ∈ s.siblingsOfType :=
  mem_siblingsOfType_of_place (place_of_mem h)

theorem WellFormed.length_ids_le (h : d.WellFormed) : (Node.ids d.forest).length ≤ d.size := by
  have hsub : Node.ids d.forest ⊆ List.range d.size :=
    fun id hid => List.mem_range.mpr (h.below_size id hid)
  simpa using (h.distinct.subperm hsub).length_le

theorem WellFormed.siblingsOfType_length_lt (h : d.WellFormed) {s t : Site}
    (ht : ⟨.element t.element, t.ancestors⟩ ∈ d.places) (hp : s.parent? = some t) :
    s.siblingsOfType.length < d.size := by
  rw [places_eq] at ht
  calc s.siblingsOfType.length
      = (t.element.elementChildren.filter (·.tag = s.tag)).length := by
        rw [Site.siblingsOfType_of_parent hp]
    _ ≤ t.element.elementChildren.length := List.length_filter_le _ _
    _ ≤ t.element.children.length := List.length_filterMap_le _ _
    _ < (Node.ids d.forest).length := Node.length_children_lt ht
    _ ≤ d.size := h.length_ids_le

/-- The position of an element is a 64-bit word, in the tree and outside it. -/
theorem Reachable.position_lt (h : d.Reachable) {s : Site}
    (hs : ⟨.element s.element, s.ancestors⟩ ∈ d.places) : s.position < Text.wordBound := by
  have hle : s.position ≤ s.siblingsOfType.length :=
    Site.position_le (mem_siblingsOfType_of_place hs)
  rcases places_cases hs with halone | ⟨t, hp, ht, -⟩
  · calc s.position ≤ 1 := by rwa [halone] at hle
      _ < Text.wordBound := by decide
  · calc s.position ≤ s.siblingsOfType.length := hle
      _ < d.size := h.wellFormed.siblingsOfType_length_lt ht hp
      _ ≤ Text.wordBound := h.size_le

/-- Tag and position tell the children of an element apart; the tag suffices where it occurs
only once. -/
theorem WellFormed.eq_of_tag_position (h : d.WellFormed) {s t p : Site} (hs : s ∈ d.elements)
    (ht : t ∈ d.elements) (hps : s.parent? = some p) (hpt : t.parent? = some p)
    (htag : s.tag = t.tag) (hpos : 1 < s.siblingsOfType.length → s.position = t.position) :
    s = t := by
  apply h.site_unique hs ht
  have hsib : s.siblingsOfType = t.siblingsOfType := by
    rw [Site.siblingsOfType_of_parent hps, Site.siblingsOfType_of_parent hpt, htag]
  have hms := mem_siblingsOfType hs
  have hmt := mem_siblingsOfType ht
  rw [← hsib] at hmt
  rcases Nat.lt_or_ge 1 s.siblingsOfType.length with hlen | hlen
  · have hidx : s.siblingsOfType.findIdx (·.id = s.id) =
        s.siblingsOfType.findIdx (·.id = t.id) := by
      have heq := hpos hlen
      rw [Site.position, Site.position, ← hsib] at heq
      exact Nat.succ.inj heq
    have hlt : s.siblingsOfType.findIdx (·.id = s.id) < s.siblingsOfType.length :=
      List.findIdx_lt_length_of_exists ⟨_, hms, by simp [Site.id]⟩
    have hfs := List.findIdx_getElem (w := hlt)
    have hft := List.findIdx_getElem (w := hidx ▸ hlt)
    simp only [decide_eq_true_eq] at hfs hft
    rw [← hfs, ← hft]
    simp only [hidx]
  · obtain ⟨e, he⟩ : ∃ e, s.siblingsOfType = [e] := by
      apply List.length_eq_one_iff.mp
      have := List.length_pos_of_mem hms
      omega
    rw [he, List.mem_singleton] at hms hmt
    rw [Site.id, Site.id, hms, hmt]

theorem withAncestors_subset (s : Site) (h : s ∈ d.elements) : s.withAncestors ⊆ d.elements := by
  obtain ⟨e, above⟩ := s
  induction above generalizing e with
  | nil => simpa [Site.withAncestors, Site.above, Site.ofChain] using h
  | cons p rest ih =>
    rw [Site.withAncestors_of_parent (t := ⟨p, rest⟩) rfl]
    exact List.cons_subset.mpr ⟨h, ih p (parent_mem_elements h rfl).1⟩

/-- The levels that a path to a site may speak of: the site and what is above it, up to a child of
the document element. -/
def levels (d : Document) (s : Site) : List Site :=
  s.withAncestors.takeWhile (·.id ≠ d.root.id)

theorem levels_cons {s : Site} (h : s.id ≠ d.root.id) : ∃ above, d.levels s = s :: above := by
  refine ⟨s.above.takeWhile (·.id ≠ d.root.id), ?_⟩
  rw [levels, Site.withAncestors, List.takeWhile_cons_of_pos (by simpa using h)]

theorem isChain_levels (d : Document) (s : Site) :
    (d.levels s).IsChain fun s t => s.parent? = some t := by
  have h := Site.isChain_withAncestors s.element s.ancestors
  rw [← List.takeWhile_append_dropWhile (p := fun l : Site => l.id ≠ d.root.id)
    (l := Site.withAncestors ⟨s.element, s.ancestors⟩)] at h
  exact h.left_of_append

theorem mem_levels {s l : Site} (hs : s ∈ d.elements) (hl : l ∈ d.levels s) :
    l ∈ d.elements ∧ l.id ≠ d.root.id :=
  ⟨withAncestors_subset s hs ((List.takeWhile_sublist _).subset hl), by
    simpa using List.all_eq_true.mp List.all_takeWhile l hl⟩

end Document

/-- Sites are chosen by number where places are. -/
theorem Place.filter_sites (p : NodeId → Bool) (l : List Place) :
    (l.filterMap Place.site?).filter (fun s => p s.id)
      = (l.filter fun q => p q.id).filterMap Place.site? := by
  rw [List.filter_filterMap, List.filterMap_filter]
  refine List.filterMap_congr fun q _ => ?_
  cases hs : q.site? with
  | none => simp
  | some s =>
    have hid : q.id = s.id := by rw [Document.eq_element_of_site? hs]; rfl
    rw [hid]
    rfl

def Node.map (φ : Element → Element) : Node → Node
  | text id content => .text id content
  | element e => .element (φ e)

def Place.map (φ : Element → Element) (p : Place) : Place := ⟨p.node.map φ, p.ancestors.map φ⟩

def Site.map (φ : Element → Element) (s : Site) : Site := ⟨φ s.element, s.ancestors.map φ⟩

section Map

variable (φ : Element → Element)

theorem Place.id_map (hφ : ∀ e, (φ e).id = e.id) (p : Place) : (p.map φ).id = p.id := by
  obtain ⟨n, ancestors⟩ := p
  cases n with
  | text id content => rfl
  | element e => exact hφ e

theorem Place.site?_map (p : Place) : (p.map φ).site? = p.site?.map (Site.map φ) := by
  obtain ⟨n, ancestors⟩ := p
  cases n <;> rfl

/-- The sites of changed places. -/
theorem Place.sites_map (l : List Place) :
    (l.map (Place.map φ)).filterMap Place.site? = (l.filterMap Place.site?).map (Site.map φ) := by
  rw [List.filterMap_map, List.map_filterMap]
  exact List.filterMap_congr fun p _ => p.site?_map φ

theorem Site.id_map (hφ : ∀ e, (φ e).id = e.id) (s : Site) : (s.map φ).id = s.id := hφ s.element

theorem Site.ids_map (hφ : ∀ e, (φ e).id = e.id) (l : List Site) :
    (l.map (Site.map φ)).map Site.id = l.map Site.id := by
  rw [List.map_map]
  exact List.map_congr_left fun s _ => s.id_map φ hφ

theorem Site.parent?_map (s : Site) : (s.map φ).parent? = s.parent?.map (Site.map φ) := by
  obtain ⟨e, ancestors⟩ := s
  cases ancestors <;> rfl

theorem Site.ofChain_map (l : List Element) : ofChain (l.map φ) = (ofChain l).map (Site.map φ) := by
  induction l with
  | nil => rfl
  | cons e rest ih =>
    rw [List.map_cons, ofChain, ih, ofChain, List.map_cons]
    rfl

theorem Site.above_map (s : Site) : (s.map φ).above = s.above.map (Site.map φ) :=
  ofChain_map φ s.ancestors

theorem Site.withAncestors_map (s : Site) :
    (s.map φ).withAncestors = s.withAncestors.map (Site.map φ) := by
  rw [withAncestors, above_map, withAncestors, List.map_cons]

end Map

end Pinpoint
