import Pinpoint.Proofs.Document.Attributes
import Pinpoint.Proofs.Document.Parts
import Pinpoint.Proofs.Locator.Structural
import Pinpoint.Semantics

/-! Test attributes in markup. A document keeps attributes under names in lower case, and a
configured name is looked up as it is written: it is found if it is in lower case itself. -/

namespace Pinpoint

theorem Settings.testAttribute?_isSome_of_mem {settings : Settings} {e : Element}
    {name value : String} (hname : name ∈ settings.testAttributes)
    (hget : e.attribute? name = some value) (hne : value ≠ "") :
    (settings.testAttribute? e).isSome = true := by
  rw [testAttribute?, List.findSome?_isSome_iff]
  refine ⟨name, hname, ?_⟩
  have hnonempty : e.attributes.nonEmpty? name = some value :=
    Option.filter_eq_some_iff.mpr ⟨hget, by simpa using hne⟩
  rw [hnonempty]
  rfl

/-- Attributes of an element that comes from markup. -/
theorem Markup.attribute?_number (m : Markup) (i : NodeId) (name : String) :
    (m.number i).attribute? name = m.attributes.lower.get? name := by
  obtain ⟨tag, attributes, children⟩ := m
  rw [number]
  rfl

namespace Document

variable {settings : Settings}

/-- An element that is written with a configured test attribute has its value under the name in
lower case. If the configured name is in lower case, the attribute is honoured. -/
theorem test_attribute_honoured {markup m : Markup} {i : NodeId} (hpart : (i, m) ∈ markup.parts 0)
    {name value : String} (hname : name ∈ settings.testAttributes)
    (hcarries : m.attributes.CarriesAlone name value) :
    ∃ s, (ofMarkup markup).site? i = some s ∧
      s.element.attribute? (Text.lower name) = some value ∧
      (s.element.attribute? name = some value ↔ Text.lower name = name) ∧
      (Text.lower name = name → (settings.testId? s.element).isSome = true ∧
        (Segment.ofSite settings s).fromTestAttribute = true) := by
  obtain ⟨s, hs, helement⟩ := exists_site_of_part hpart
  have hlower : s.element.attribute? (Text.lower name) = some value := by
    rw [helement, Markup.attribute?_number]
    exact hcarries.get?_lower
  refine ⟨s, hs, hlower, ⟨?_, ?_⟩, ?_⟩
  · intro hfound
    rw [helement, Markup.attribute?_number] at hfound
    exact Attributes.lower_of_get?_lower hfound
  · intro heq
    rwa [heq] at hlower
  · intro heq
    rw [heq] at hlower
    have hfound := Settings.testAttribute?_isSome_of_mem hname hlower hcarries.ne_empty
    rw [Settings.testId?, Option.isSome_map, Segment.fromTestAttribute_ofSite]
    exact ⟨hfound, hfound⟩

def markedButton (name : String) : Markup :=
  ⟨"html", .empty, [.element ⟨"button", .ofList [(name, "save")], [.text "Save"]⟩]⟩

theorem test_attribute_honoured_markedButton :
    let settings := { Settings.standard with testAttributes := ["data-prüf"] }
    ∃ s, (ofMarkup (markedButton "data-prüf")).site? 1 = some s ∧
      (settings.testId? s.element).isSome = true ∧
      (Segment.ofSite settings s).fromTestAttribute = true := by
  intro settings
  have hpart : (1, ⟨"button", .ofList [("data-prüf", "save")], [.text "Save"]⟩) ∈
      (markedButton "data-prüf").parts 0 := List.mem_cons_of_mem _ List.mem_cons_self
  have hname : "data-prüf" ∈ settings.testAttributes := List.mem_cons_self
  obtain ⟨s, hs, -, -, hhonoured⟩ := test_attribute_honoured hpart hname
    (⟨by decide, by decide, by decide⟩ : Attributes.CarriesAlone _ "data-prüf" "save")
  exact ⟨s, hs, hhonoured (by decide)⟩

/-- A configured name with a capital is valid, and it is missed on the element that carries it. -/
theorem test_attribute_missed_markedButton :
    let settings := { Settings.standard with testAttributes := ["data-testId"] }
    let m : Markup := ⟨"button", .ofList [("data-testId", "save")], [.text "Save"]⟩
    settings.fault? = none ∧ (1, m) ∈ (markedButton "data-testId").parts 0 ∧
      m.attributes.CarriesAlone "data-testId" "save" ∧
      ∃ s, (ofMarkup (markedButton "data-testId")).site? 1 = some s ∧
        settings.testId? s.element = none ∧
        (Segment.ofSite settings s).fromTestAttribute = false :=
  ⟨by decide, List.mem_cons_of_mem _ List.mem_cons_self, ⟨by decide, by decide, by decide⟩,
    (ofMarkup (markedButton "data-testId")).elements.get ⟨1, by decide⟩, rfl, by decide,
    by decide⟩

end Document

end Pinpoint
