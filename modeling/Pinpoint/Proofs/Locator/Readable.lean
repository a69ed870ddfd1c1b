import Pinpoint.Document.Fixture
import Pinpoint.Proofs.Locator.Structural

/-! Structural locators as texts for the selector reader. Values, classes and identifiers are
escaped, so they may be anything; tags and the names of test attributes are printed as they are, and
the reader takes the locator if these need no escape. -/

namespace Pinpoint

open Selector (isName isTagName isNameChar)

/-- The check of the settings keeps blanks out of names, but no other marks. -/
theorem Settings.isName_of_fault? {settings : Settings} (h : settings.fault? = none)
    {name : String} (hmem : name ∈ settings.testAttributes)
    (hchars : name.toList.all isNameChar = true) : isName name = true := by
  have hname : isAttributeName name = true := by
    unfold fault? at h
    split at h
    · cases h
    · split at h
      · cases h
      · rename_i hfind
        simpa using List.find?_eq_none.mp hfind name hmem
  simp only [isAttributeName, Bool.and_eq_true, decide_eq_true_eq, List.all_eq_true] at hname
  obtain ⟨hne, hblank⟩ := hname
  rw [isName, Bool.and_eq_true]
  refine ⟨?_, hchars⟩
  cases hc : name.toList with
  | nil => exact absurd (String.toList_eq_nil_iff.mp hc) (by simpa using hne)
  | cons c cs => exact hblank c (hc ▸ List.mem_cons_self)

namespace Document

variable {d : Document} {settings : Settings}

/-- Below the document element a structural locator is an identifier or a path that begins at some
level and ends at the element. -/
theorem structural_cases {s : Site} (hroot : s.id ≠ d.root.id) :
    (∃ value, value ≠ "" ∧ (d.structural settings s).value = "#" ++ Selector.escape value) ∨
      ∃ above, (∀ l ∈ s :: above, l ∈ d.levels s) ∧
        (d.structural settings s).value = Segment.pathText settings (s :: above) := by
  cases hu : d.uniqueId? s.element with
  | some value =>
    obtain ⟨-, hne, -⟩ := uniqueId?_eq_some hu
    rw [structural_of_uniqueId hroot hu]
    exact .inl ⟨value, hne, rfl⟩
  | none =>
    right
    obtain ⟨above, hlevels⟩ := levels_cons hroot
    obtain ⟨k, hk⟩ := @climb_value d settings s.id (d.levels s) (by simp [hlevels]) []
    have htake : (d.levels s).take (k + 1) = s :: above.take k := by
      rw [hlevels, List.take_succ_cons]
    rw [List.append_nil, htake] at hk
    refine ⟨above.take k, fun l hl => List.mem_of_mem_take (htake ▸ hl), ?_⟩
    rw [structural_of_climb hroot hu, hk, Segment.pathText]

theorem Reachable.parse_path (hd : d.Reachable)
    (hnames : ∀ n ∈ settings.testAttributes, isName n = true) {s : Site} (hs : s ∈ d.elements)
    (htags : ∀ l ∈ d.levels s, isTagName l.tag = true) {above : List Site}
    (hsub : ∀ l ∈ s :: above, l ∈ d.levels s) :
    ∃ group, Selector.parse (Segment.pathText settings (s :: above)) = .ok group := by
  have hwritten : ∀ l ∈ s :: above, Selector.Written (Segment.ofSite settings l).text.toList
      (Segment.lowerCompound (Segment.compound settings l)) := by
    intro l hl
    have hmem := mem_elements.mp (mem_levels hs (hsub l hl)).1
    exact Segment.written_text_lowered hnames (htags l (hsub l hl))
      (hd.position_lt (d.attachedPlaces_subset hmem))
  exact ⟨_, Segment.parse_chainOf hwritten⟩

/-- The selector reader takes the structural locator of every element, if the tags and the names of
the test attributes hold only characters of names. -/
theorem structural_accepted (hd : d.Reachable) (hvalid : settings.fault? = none)
    (hnames : ∀ n ∈ settings.testAttributes, n.toList.all isNameChar = true) {s : Site}
    (hs : s ∈ d.elements) (htags : ∀ l ∈ d.levels s, isTagName l.tag = true) :
    ∃ group, Selector.parse (d.structural settings s).value = .ok group := by
  by_cases hroot : s.id = d.root.id
  · rw [structural, if_pos hroot]
    exact ⟨[.single { Selector.Compound.any with tag := some "html" }], by decide +kernel⟩
  · rcases @structural_cases d settings s hroot with ⟨value, hne, hvalue⟩ | ⟨above, hsub, hpath⟩
    · rw [hvalue]
      exact ⟨_, Selector.parse_identifier hne⟩
    · rw [hpath]
      exact hd.parse_path (fun n hn => Settings.isName_of_fault? hvalid hn (hnames n hn)) hs htags
        hsub

def markedPage : Markup :=
  let box : Markup := ⟨"x-größe", .ofList [("prüf", "a\"b")], []⟩
  ⟨"html", .empty, [.element box, .element box]⟩

theorem structural_accepted_markedPage :
    let settings := { Settings.standard with testAttributes := ["prüf"] }
    let d := ofMarkup markedPage
    let box := d.elements.get ⟨2, by decide⟩
    settings.testAttribute? box.element = some ("prüf", "a\"b") ∧
      ∃ group, Selector.parse (d.structural settings box).value = .ok group :=
  ⟨by decide, structural_accepted (.start (.markup _) (by decide)) (by decide)
    (by decide) (List.get_mem _ _) (by decide)⟩

def officePage : Markup := ⟨"html", .empty, [.element (.ofTag "o:p")]⟩

/-- The tag is printed as it is, and the reader takes the colon for a pseudo-class. -/
theorem structural_refused_officePage :
    ∃ d, Document.ofFixture ⟨none, none, none, officePage⟩ = .ok d ∧
      Settings.standard.fault? = none ∧
      ∃ s ∈ d.elements, (d.structural .standard s).value = "o:p" ∧
        Selector.parse (d.structural .standard s).value = .error ⟨.unknownPseudoClass "p", 3⟩ :=
  ⟨ofMarkup officePage, rfl, by decide, (ofMarkup officePage).elements.get ⟨1, by decide⟩,
    List.get_mem _ _, by decide +kernel, by decide +kernel⟩

end Document

end Pinpoint
