import Pinpoint.Proofs.Document.Building
import Pinpoint.Proofs.Locator.Segment
import Pinpoint.Semantics

/-! Locators of frames. The document inside a frame writes a locator from the attributes of the
frame as they are spelled; in the page around it the element keeps them under names in lower case.
The locator is a selector there, and it means the frame that was built with these attributes. -/

namespace Pinpoint

structure Element.BuiltAs (e : Element) (markup : Markup) : Prop where
  tag : e.tag = Text.lower markup.tag
  attributes : e.attributes = markup.attributes.lower

theorem Markup.builtAs_number (markup : Markup) (n : NodeId) :
    (markup.number n).BuiltAs markup := by
  obtain ⟨tag, attributes, children⟩ := markup
  rw [number]
  exact ⟨rfl, rfl⟩

namespace FrameLocator

open Selector

/-- The first of the attributes that tell a frame without an identifier, with its value. -/
def mark? (host : Attributes) : Option (String × String) :=
  ["name", "title", "src"].findSome? fun name =>
    (host.nonEmpty? name).map fun value => (name, value)

def compound (host : Attributes) : Compound :=
  match host.nonEmpty? "id" with
  | some id => { Compound.any with id := some (softened id) }
  | none =>
    { Compound.any with
      tag := some "iframe"
      conditions := (mark? host).toList.map fun a => .equals a.1 (softened a.2) }

theorem frameSelector_of_id {host : Attributes} {id : String}
    (h : host.nonEmpty? "id" = some id) : frameSelector host = "#" ++ escape id := by
  rw [frameSelector, h]

theorem frameSelector_of_none {host : Attributes} (h : host.nonEmpty? "id" = none) :
    (frameSelector host).toList = "iframe".toList ++
      ((mark? host).toList.flatMap fun a => (Segment.predicate a.1 a.2).toList) := by
  have hmark : (["name", "title", "src"].findSome? fun name =>
      (host.nonEmpty? name).map fun value => "iframe" ++ Segment.predicate name value)
      = (mark? host).map fun a => "iframe" ++ Segment.predicate a.1 a.2 := by
    rw [mark?, List.map_findSome?]
    simp only [Option.map_map, Function.comp_def]
  rw [frameSelector, h]
  dsimp only
  rw [hmark]
  cases mark? host with
  | none => rfl
  | some a => simp

theorem mark?_eq_some {host : Attributes} {a : String × String} (h : mark? host = some a) :
    Text.isPlain a.1 = true ∧ host.nonEmpty? a.1 = some a.2 := by
  have hplain : ∀ name ∈ ["name", "title", "src"], Text.isPlain name = true := by decide
  obtain ⟨name, hname, hfound⟩ := List.exists_of_findSome?_eq_some h
  obtain ⟨value, hvalue, rfl⟩ := Option.map_eq_some_iff.mp hfound
  exact ⟨hplain name hname, hvalue⟩

theorem parse_frameSelector (host : Attributes) :
    parse (frameSelector host) = .ok [.single (compound host)] := by
  unfold compound
  split
  · rename_i id h
    rw [frameSelector_of_id h]
    exact parse_identifier (by simpa using (Option.filter_eq_some_iff.mp h).2)
  · rename_i h
    apply parse_written
    rw [frameSelector_of_none h]
    have hplain : ∀ a ∈ (mark? host).toList, Text.isPlain a.1 = true := fun a ha =>
      (mark?_eq_some (Option.mem_toList.mp ha)).1
    apply written_tag (by decide)
    · intro rest hr
      cases mark? host with
      | none => exact hr.name
      | some a =>
        rw [Option.toList_some, List.flatMap_singleton, Segment.toList_predicate]
        exact endsName_cons (by decide) (by decide) _
    · intro rest hr
      rw [Segment.readSimples_predicates hplain]
      exact readSimples_of_none (hr.simple _)

theorem attribute?_of_nonEmpty? {e : Element} {frame : Markup} (h : e.BuiltAs frame)
    {name value : String} (hname : Text.lower name = name)
    (hvalue : frame.attributes.nonEmpty? name = some value) :
    e.attribute? name = some value := by
  rw [Element.attribute?, h.attributes]
  exact Attributes.get?_lower_of_get? hname (Option.filter_eq_some_iff.mp hvalue).1

theorem compound_holds {s : Site} {frame : Markup} (hbuilt : s.element.BuiltAs frame)
    (htag : Text.lower frame.tag = "iframe")
    (hnull : ∀ a ∈ frame.attributes.entries, '\x00' ∉ a.2.toList) :
    (compound frame.attributes).holds s = true := by
  have hkept : ∀ {name value : String}, Text.lower name = name →
      frame.attributes.nonEmpty? name = some value →
      s.element.attribute? name = some (softened value) := by
    intro name value hname hvalue
    -- Only null characters are lost between the value and what the selector asks for.
    have hmem := Attributes.mem_of_get?_eq_some (Option.filter_eq_some_iff.mp hvalue).1
    rw [softened_eq_self (hnull _ hmem)]
    exact attribute?_of_nonEmpty? hbuilt hname hvalue
  unfold compound
  split
  · rename_i id h
    simp [Compound.holds, Compound.any, hkept (by decide) h]
  · have hiframe : Text.equalIgnoringCase "iframe" s.tag = true := by
      rw [Site.tag, hbuilt.tag, htag]
      decide
    have hconditions : ∀ a ∈ (mark? frame.attributes).toList,
        Condition.holds s.element (.equals a.1 (softened a.2)) = true := by
      intro a ha
      obtain ⟨hplain, hvalue⟩ := mark?_eq_some (Option.mem_toList.mp ha)
      simp [Condition.holds, hkept (Text.lower_of_isPlain hplain) hvalue]
    simp only [Compound.holds, Compound.any, hiframe, Option.all_some, Option.all_none,
      List.all_nil, List.all_map, Bool.and_true, Bool.true_and, List.all_eq_true]
    exact hconditions

end FrameLocator

open FrameLocator

/-- A document inside a frame leads to the frame: in the page around it, where the frame was built
with these attributes, the locator is a selector and the frame is among the elements it means. -/
theorem frameLocator_finds_frame {frame : Markup} (htag : Text.lower frame.tag = "iframe")
    (hnull : ∀ a ∈ frame.attributes.entries, '\x00' ∉ a.2.toList)
    {page : Document} {s : Site} (hs : s ∈ page.elements) (hbuilt : s.element.BuiltAs frame)
    {inside : Document} (hinside : inside.frame = some frame.attributes) :
    ∃ g, Selector.parse inside.frameLocator = .ok g ∧ s ∈ page.select g := by
  have hlocator : inside.frameLocator = frameSelector frame.attributes := by
    rw [Document.frameLocator, hinside]
    rfl
  refine ⟨[.single (compound frame.attributes)], ?_, ?_⟩
  · rw [hlocator, parse_frameSelector]
  · rw [Document.select, List.mem_filter]
    refine ⟨hs, ?_⟩
    simpa [Selector.Group.holds, Selector.Chain.holds] using compound_holds hbuilt htag hnull

def paymentFrame : Markup :=
  ⟨"IFrame", .ofList [("ID", "x"), ("id", ""), ("SRC", "/old"), ("src", "/pay?to=\"a b\"")], []⟩

theorem frameLocator_finds_paymentFrame :
    let page := (Document.ofMarkup ⟨"html", .empty, [.element (.ofTag "body")]⟩).perform
      (.append 1 paymentFrame)
    let inside := (Document.ofMarkup (.ofTag "html")).withFrame paymentFrame.attributes
    inside.frameLocator = "iframe[src=\"\\/pay\\?to\\=\\\"a\\ b\\\"\"]" ∧
      ∃ g, Selector.parse inside.frameLocator = .ok g ∧ 2 ∈ (page.select g).map Site.id := by
  intro page inside
  have htag : Text.lower paymentFrame.tag = "iframe" := by decide
  have hnull : ∀ a ∈ paymentFrame.attributes.entries, '\x00' ∉ a.2.toList := by decide
  let s : Site := page.elements.get ⟨2, by decide⟩
  have hs : s ∈ page.elements := List.get_mem _ _
  have hbuilt : s.element.BuiltAs paymentFrame := paymentFrame.builtAs_number 2
  have hinside : inside.frame = some paymentFrame.attributes := rfl
  obtain ⟨g, hparse, hmem⟩ := frameLocator_finds_frame htag hnull hs hbuilt hinside
  exact ⟨by decide +kernel, g, hparse, List.mem_map.mpr ⟨s, hmem, by decide⟩⟩

end Pinpoint
