import Pinpoint.Proofs.Document.Links

/-! Markup and the document that is made of it. Every element of the markup is an element of the
document, under the number that it gets when the markup is read from its beginning to its end. -/

namespace Pinpoint

mutual

def Markup.parts (next : NodeId) : Markup → List (NodeId × Markup)
  | ⟨tag, attributes, children⟩ =>
    (next, ⟨tag, attributes, children⟩) :: MarkupNode.partsAll (next + 1) children

def MarkupNode.partsAll (next : NodeId) : List MarkupNode → List (NodeId × Markup)
  | [] => []
  | .text _ :: rest => MarkupNode.partsAll (next + 1) rest
  | .element markup :: rest => markup.parts next ++ MarkupNode.partsAll (next + markup.size) rest

end

/-- The elements that a list of markup becomes are its parts, in the same order. -/
theorem MarkupNode.elements_numberAll (above : List Element) (next : NodeId)
    (l : List MarkupNode) :
    (Node.placesAll above (numberAll next l)).filterMap (fun p => p.node.element?)
      = (partsAll next l).map fun part => part.2.number part.1 := by
  induction l using MarkupNode.forest_induction generalizing above next with
  | nil => rw [numberAll, partsAll, Node.placesAll_nil, List.filterMap_nil, List.map_nil]
  | text content rest ih =>
    rw [numberAll, partsAll, Node.placesAll_text, List.filterMap_cons_none rfl, ih]
  | element tag attributes children rest ihc ihr =>
    have hself : ∀ (e : Element) (places : List Place),
        (⟨.element e, above⟩ :: places).filterMap (fun p => p.node.element?)
          = e :: places.filterMap (fun p => p.node.element?) :=
      fun e places => List.filterMap_cons_some rfl
    rw [numberAll, partsAll, Markup.parts, List.cons_append, List.map_cons, List.map_append,
      ← ihr above, Markup.number, Node.placesAll_element, hself, List.filterMap_append, ihc]

namespace Document

theorem elements_ofMarkup (markup : Markup) :
    (ofMarkup markup).elements.map Site.element
      = (markup.parts 0).map fun part => part.2.number part.1 := by
  have h := MarkupNode.elements_numberAll [] 0 [.element markup]
  rw [MarkupNode.numberAll, MarkupNode.numberAll, MarkupNode.partsAll, MarkupNode.partsAll,
    List.append_nil] at h
  rw [← h, elements, attachedPlaces_eq, List.map_filterMap]
  refine List.filterMap_congr fun p _ => ?_
  rw [Place.site?, Option.map_map]
  exact Option.map_id'

theorem exists_site_of_part {markup m : Markup} {i : NodeId} (h : (i, m) ∈ markup.parts 0) :
    ∃ s, (ofMarkup markup).site? i = some s ∧ s.element = m.number i := by
  have hmem : m.number i ∈ (ofMarkup markup).elements.map Site.element := by
    rw [elements_ofMarkup]
    exact List.mem_map.mpr ⟨_, h, rfl⟩
  obtain ⟨s, hs, helement⟩ := List.mem_map.mp hmem
  have hid : s.id = i := by rw [Site.id, helement, id_number]
  refine ⟨s, ?_, helement⟩
  rw [← hid]
  exact (wellFormed_ofMarkup markup).site?_of_mem hs

end Document

end Pinpoint
