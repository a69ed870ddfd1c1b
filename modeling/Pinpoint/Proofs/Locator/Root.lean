import Pinpoint.Proofs.Document.Links
import Pinpoint.Proofs.Locator.Structural

/-! The locator of the document element. It is the same for every document and claims to be unique
without a look at the tree, so whether it is depends on the tags that the tree happens to have. -/

namespace Pinpoint

namespace Selector

theorem parse_tag {tag : String} (ht : Text.isPlain tag = true) :
    parse tag = .ok [.single { Compound.any with tag := some tag }] := by
  apply parse_written
  have hwritten : Written (tag.toList ++ [])
      { Compound.any with tag := some (Text.lower tag) } :=
    written_tag (isTagName_of_isPlain ht) (fun _ hr => hr.name)
      fun _ hr => readSimples_of_none (hr.simple _)
  rwa [List.append_nil, Text.lower_of_isPlain ht] at hwritten

end Selector

namespace Document

variable {d : Document}

theorem WellFormed.single_tag_holds_iff (h : d.WellFormed) {tag : String}
    (ht : Text.isPlain tag = true) {s : Site} (hs : s ∈ d.elements) :
    (Selector.Chain.single { Selector.Compound.any with tag := some tag }).holds s = true ↔
      s.tag = tag := by
  have hlow : Text.equalIgnoringCase tag s.tag = true ↔ s.tag = tag := by
    rw [Text.equalIgnoringCase, beq_iff_eq, Text.lower_of_isPlain ht, h.lower_site_tag hs]
    exact eq_comm
  rw [← hlow]
  simp [Selector.Chain.holds, Selector.Compound.holds, Selector.Compound.any]

/-- A tag alone means one element exactly if no other element of the tree has that tag. -/
theorem WellFormed.query_tag_iff (h : d.WellFormed) {tag : String}
    (ht : Text.isPlain tag = true) {s : Site} (hs : s ∈ d.elements) :
    (d.query tag).map (List.map Site.id) = .ok [s.id] ↔
      s.tag = tag ∧ ∀ e ∈ d.elements, e.tag = tag → e.id = s.id := by
  rw [← resolvesTo_iff, h.resolvesTo_iff_of_parse (Selector.parse_tag ht) hs,
    h.single_tag_holds_iff ht hs]
  refine and_congr_right fun _ => forall₂_congr fun e he => ?_
  rw [h.single_tag_holds_iff ht he]
  refine imp_congr_right fun _ => ⟨fun heq => by rw [heq], h.site_unique he hs⟩

/-- The locator of the document element claims to be unique in every document. It means that
element alone exactly if it is an `html` element, and the only one of the tree. -/
theorem structural_root_exact_iff (hd : d.Reachable) (settings : Settings) :
    ∃ s, d.site? d.root.id = some s ∧ (d.structural settings s).resolution = .unique ∧
      ((d.query (d.structural settings s).value).map (List.map Site.id) = .ok [d.root.id] ↔
        d.root.tag = "html" ∧ ∀ e ∈ d.elements, e.tag = "html" → e.id = d.root.id) := by
  have h := hd.wellFormed
  have hroot : ⟨d.root, []⟩ ∈ d.elements := mem_elements.mpr d.root_mem_attachedPlaces
  have hlocator : d.structural settings ⟨d.root, []⟩ = ⟨.structural, "html", .unique⟩ := by
    rw [structural]
    exact if_pos rfl
  refine ⟨⟨d.root, []⟩, h.site?_of_mem hroot, ?_, ?_⟩
  · rw [hlocator]
  · rw [hlocator]
    exact h.query_tag_iff (by decide) hroot

theorem structural_root_exact_iff_twoMenus :
    ∃ s, twoMenus.site? 0 = some s ∧ (twoMenus.structural .standard s).resolution = .unique ∧
      (twoMenus.query (twoMenus.structural .standard s).value).map (List.map Site.id) = .ok [0] := by
  have hd : twoMenus.Reachable := .start (.markup _) (by decide)
  obtain ⟨s, hs, hunique, hexact⟩ := structural_root_exact_iff hd .standard
  exact ⟨s, hs, hunique, hexact.mpr (by decide)⟩

def drawing : Markup := ⟨"svg", .empty, [.element (.ofTag "circle")]⟩

/-- Its locator means no element at all. -/
theorem structural_root_misses_drawing :
    ∃ d s, Document.ofFixture ⟨none, none, none, drawing⟩ = .ok d ∧
      d.site? d.root.id = some s ∧ (d.structural .standard s).resolution = .unique ∧
      (d.query (d.structural .standard s).value).map (List.map Site.id) = .ok [] :=
  ⟨ofMarkup drawing, (ofMarkup drawing).elements.get ⟨0, by decide⟩, rfl, rfl, by decide,
    by decide +kernel⟩

end Document

end Pinpoint
