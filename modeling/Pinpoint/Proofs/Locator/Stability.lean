import Pinpoint.Proofs.Document.Growth
import Pinpoint.Proofs.Locator.Absolute
import Pinpoint.Proofs.Locator.TestAttribute

/-! Absolute locators that stay. A path speaks of identifiers, tags, positions and the document
element. None of these change for the nodes of a document when something new comes behind the
children of one of them, unless it brings an identifier that is already there. -/

namespace Pinpoint

namespace Document

variable {d d' : Document}

theorem place_of_mem_withAncestors {s t : Site} (hs : ⟨.element s.element, s.ancestors⟩ ∈ d.places)
    (ht : t ∈ s.withAncestors) : ⟨.element t.element, t.ancestors⟩ ∈ d.places := by
  obtain ⟨e, ancestors⟩ := s
  induction ancestors generalizing e with
  | nil =>
    rw [List.mem_singleton.mp ht]
    exact hs
  | cons p rest ih =>
    rw [Site.withAncestors_of_parent (t := ⟨p, rest⟩) rfl] at ht
    rcases List.mem_cons.mp ht with rfl | ht
    · exact hs
    · exact ih p (parent_mem_places hs).1 ht

namespace Grown

variable {id : NodeId} {f : Element → Element} {new : List Node}
  (h : d.WellFormed) (g : d.Grown d' id f new)

include h g

/-- The old elements that carry an identifier. -/
theorem filter_withId (hf : ∀ e, (f e).attribute? "id" = e.attribute? "id") (value : String) :
    (d'.withId value).filter (fun s => s.id < d.size)
      = (d.withId value).map (Site.map (Element.update id f)) := by
  have hkept : ∀ s : Site, (s.map (Element.update id f)).element.attribute? "id"
      = s.element.attribute? "id" := fun s => Element.attribute?_update hf s.element
  rw [withId, List.filter_comm, g.filter_elements h, List.filter_map, Function.comp_def]
  simp only [hkept]
  rfl

/-- An identifier is as unique as it was if nothing new brings one that is already there. -/
theorem uniqueId?_update (hf : ∀ e, (f e).attribute? "id" = e.attribute? "id")
    (hnew : ∀ s ∈ d'.elements, d.size ≤ s.id → ∀ value, s.element.attribute? "id" = some value →
      d.withId value = [])
    {s : Site} (hs : ⟨.element s.element, s.ancestors⟩ ∈ d.places) :
    d'.uniqueId? (s.element.update id f) = d.uniqueId? s.element := by
  have hcount : ∀ value, (d'.withId value).map Site.id = [s.element.id] ↔
      (d.withId value).map Site.id = [s.element.id] := by
    intro value
    have hold := congrArg (List.map Site.id) (g.filter_withId h hf value)
    rw [Site.ids_map _ g.change.id_update] at hold
    by_cases hnone : d.withId value = []
    · -- All that carry it now are new, and the element is not.
      rw [hnone, List.map_nil, List.map_eq_nil_iff, List.filter_eq_nil_iff] at hold
      refine iff_of_false (fun hone => ?_) (by simp [hnone])
      obtain ⟨t, ht, hself⟩ : ∃ t ∈ d'.withId value, t.id = s.element.id :=
        List.mem_map.mp (hone ▸ List.mem_singleton_self _)
      have hlt : s.element.id < d.size := by
        rw [places_eq] at hs
        exact h.below_size _ (Node.id_mem_ids hs)
      exact absurd (decide_eq_true (hself ▸ hlt)) (hold t ht)
    · have hall : ∀ t ∈ d'.withId value, decide (t.id < d.size) = true := by
        intro t ht
        obtain ⟨hmem, hvalue⟩ := List.mem_filter.mp ht
        rw [decide_eq_true_eq]
        by_contra hge
        exact hnone (hnew t hmem (Nat.not_lt.mp hge) value (of_decide_eq_true hvalue))
      rw [List.filter_eq_self.mpr hall] at hold
      rw [hold]
  have hvalue : (s.element.update id f).attributes.nonEmpty? "id"
      = s.element.attributes.nonEmpty? "id" :=
    congrArg (Option.filter (· ≠ "")) (Element.attribute?_update hf s.element)
  rw [uniqueId?, uniqueId?, hvalue, g.change.id_update]
  simp only [hcount]

theorem pathTo_map {levels : List Site}
    (hplaces : ∀ l ∈ levels, ⟨.element l.element, l.ancestors⟩ ∈ d.places)
    (hunique : ∀ l ∈ levels, d'.uniqueId? (l.element.update id f) = d.uniqueId? l.element) :
    d'.pathTo (levels.map (Site.map (Element.update id f))) = d.pathTo levels := by
  induction levels with
  | nil => rfl
  | cons l rest ih =>
    obtain ⟨hplace, hrest⟩ := List.forall_mem_cons.mp hplaces
    obtain ⟨hself, habove⟩ := List.forall_mem_cons.mp hunique
    have hid : (l.map (Element.update id f)).id = l.id := g.change.id_update l.element
    have htag : (l.map (Element.update id f)).tag = l.tag := g.change.tag_update l.element
    have helement : (l.map (Element.update id f)).element = l.element.update id f := rfl
    rw [List.map_cons, pathTo, pathTo, ih hrest habove, helement, hself, hid, htag, g.root_id,
      g.position_map h hplace, List.isEmpty_map]

theorem absolute_map {s : Site} (hs : ⟨.element s.element, s.ancestors⟩ ∈ d.places)
    (hunique : ∀ l ∈ s.withAncestors,
      d'.uniqueId? (l.element.update id f) = d.uniqueId? l.element) :
    d'.absolute (s.map (Element.update id f)) = d.absolute s := by
  have hpath := g.pathTo_map h (fun l hl => place_of_mem_withAncestors hs hl) hunique
  rw [absolute, Site.withAncestors_map, hpath, absolute]

end Grown

/-- A new element of the tree is a part of the markup that was added. -/
theorem WellFormed.exists_part_of_new (h : d.WellFormed) {parent : NodeId} {markup : Markup}
    (hd : d.append? parent markup = some d') {s : Site} (hs : s ∈ d'.elements)
    (hnew : d.size ≤ s.id) :
    ∃ part ∈ markup.parts d.size, s.element = part.2.number part.1 := by
  obtain ⟨above, hp⟩ := (grown_append? hd).exists_place_of_new h hs hnew
  have hparts := MarkupNode.elements_numberAll above d.size [.element markup]
  rw [MarkupNode.numberAll, MarkupNode.numberAll, MarkupNode.partsAll, MarkupNode.partsAll,
    List.append_nil] at hparts
  have helement : s.element ∈ (Node.placesAll above [.element (markup.number d.size)]).filterMap
      fun p => p.node.element? := List.mem_filterMap.mpr ⟨_, hp, rfl⟩
  rw [hparts] at helement
  obtain ⟨part, hpart, heq⟩ := List.mem_map.mp helement
  exact ⟨part, hpart, heq.symm⟩

/-- Markup is added anywhere, and no element in it has an identifier that an element of the tree
carries. The absolute locators of all nodes that were there before stay as they are. -/
theorem absolute_append (hd : d.Reachable) {parent : NodeId} {markup : Markup}
    (hfresh : ∀ part ∈ markup.parts d.size, ∀ value,
      part.2.attributes.lower.get? "id" = some value →
      ∀ s ∈ d.elements, s.element.attribute? "id" ≠ some value)
    {node : NodeId} (hnode : node < d.size) :
    let now := d.perform (.append parent markup)
    (now.site? node).map now.absolute = (d.site? node).map d.absolute := by
  intro now
  have h := hd.wellFormed
  cases happend : d.append? parent markup with
  | none =>
    have hsame : now = d := congrArg (Option.getD · d) happend
    rw [hsame]
  | some d' =>
    have hnow : now = d' := congrArg (Option.getD · d) happend
    have g := grown_append? happend
    have hnew : ∀ s ∈ d'.elements, d.size ≤ s.id → ∀ value,
        s.element.attribute? "id" = some value → d.withId value = [] := by
      intro s hs hge value hvalue
      obtain ⟨part, hpart, heq⟩ := h.exists_part_of_new happend hs hge
      rw [heq, Markup.attribute?_number] at hvalue
      rw [withId, List.filter_eq_nil_iff]
      intro t ht
      simpa using hfresh part hpart value hvalue t ht
    rw [hnow, g.site?_eq h hnode, Option.map_map]
    refine Option.map_congr fun s hs => ?_
    have hplace := (place_of_site? hs).1
    exact g.absolute_map h hplace fun l hl =>
      g.uniqueId?_update h (fun _ => rfl) hnew (place_of_mem_withAncestors hplace hl)

/-- The form gets one more field, with an identifier of its own. -/
theorem absolute_append_quotedForm :
    let field : Markup := ⟨"input", .ofList [("ID", "last")], []⟩
    let now := quotedForm.perform (.append 2 field)
    (now.site? 4).map now.absolute = (quotedForm.site? 4).map quotedForm.absolute ∧
      (quotedForm.site? 4).isSome = true ∧ now.childIds 2 = [3, 4, 5] := by
  intro field now
  have hd : quotedForm.Reachable := .start (.markup _) (by decide)
  have hfresh : ∀ part ∈ field.parts quotedForm.size, ∀ value ∈ part.2.attributes.lower.get? "id",
      ∀ s ∈ quotedForm.elements, s.element.attribute? "id" ≠ some value := by decide
  exact ⟨absolute_append hd hfresh (by decide), by decide, by decide⟩

end Document

end Pinpoint
