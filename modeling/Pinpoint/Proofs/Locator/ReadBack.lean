import Pinpoint.Proofs.Document.Links
import Pinpoint.Proofs.Locator.Path
import Pinpoint.Proofs.Selector.Meaning

/-! Segments that are printed and read back. Joined into a path, the segments of any elements read
as one chain with a compound for each of them, and a compound asks for what its segment says. -/

namespace Pinpoint

namespace Segment

open Selector

/-! What a chain that goes down from parent to child is made of -/

theorem compounds_chainOf (c : Site → Compound) (s : Site) (above : List Site) :
    (chainOf c s above).compounds = ((s :: above).map c).reverse := by
  induction above generalizing s with
  | nil => rfl
  | cons t above ih =>
    rw [chainOf, Chain.compounds, ih, List.map_cons, List.map_cons, List.map_cons,
      List.reverse_cons, List.reverse_cons, List.reverse_cons]

theorem combinators_chainOf (c : Site → Compound) (s : Site) (above : List Site) :
    (chainOf c s above).combinators = List.replicate above.length .child := by
  induction above generalizing s with
  | nil => rfl
  | cons t above ih =>
    rw [chainOf, Chain.combinators, ih, List.length_cons, List.replicate_succ']

/-! What a segment says -/

def shownAttributes (settings : Settings) (e : Element) : List (String × String) :=
  match settings.testAttribute? e with
  | some shown => [shown]
  | none => description e

def shownClasses (settings : Settings) (e : Element) : List String :=
  match settings.testAttribute? e with
  | some _ => []
  | none => e.classes.take settings.maxClassPredicates

variable {settings : Settings}

theorem predicates_ofSite (settings : Settings) (s : Site) :
    (ofSite settings s).predicates
      = (shownAttributes settings s.element).map (fun a => predicate a.1 a.2) ++
        (shownClasses settings s.element).map fun name => "." ++ escape name := by
  unfold ofSite shownAttributes shownClasses
  cases settings.testAttribute? s.element with
  | some shown => rfl
  | none =>
    simp only [description, List.map_filterMap, Option.map_map]
    rfl

theorem compound_eq (settings : Settings) (s : Site) :
    compound settings s =
      { tag := some (ofSite settings s).tag
        id := none
        classes := (shownClasses settings s.element).map softened
        conditions := (shownAttributes settings s.element).map fun a => .equals a.1 (softened a.2)
        nthOfType := (ofSite settings s).position } := by
  unfold compound ofSite shownAttributes shownClasses
  cases settings.testAttribute? s.element with
  | some shown => rfl
  | none => rfl

/-- What a segment shows of an element is there. -/
theorem attribute?_of_mem_shownAttributes {e : Element} {a : String × String}
    (h : a ∈ shownAttributes settings e) : e.attribute? a.1 = some a.2 := by
  unfold shownAttributes at h
  split at h
  · rename_i shown ht
    obtain rfl := List.mem_singleton.mp h
    exact (Settings.testAttribute?_eq_some ht).2
  · exact (mem_description h).2

theorem shownClasses_isPrefix (settings : Settings) (e : Element) :
    shownClasses settings e <+: e.classes := by
  unfold shownClasses
  split
  · exact List.nil_prefix
  · exact List.take_prefix _ _

/-- A compound asks for what the segment of an element says, and for nothing else. What the segment
says is there on the element; a null character in it is read as U+FFFD. -/
structure ReadAs (settings : Settings) (s : Site) (c : Compound) : Prop where
  tag : c.tag = some (ofSite settings s).tag
  id : c.id = none
  attributes_there : ∀ a ∈ shownAttributes settings s.element,
    s.element.attribute? a.1 = some a.2
  classes_there : shownClasses settings s.element <+: s.element.classes
  printed : (ofSite settings s).predicates
    = (shownAttributes settings s.element).map (fun a => predicate a.1 a.2) ++
      (shownClasses settings s.element).map fun name => "." ++ escape name
  conditions : c.conditions
    = (shownAttributes settings s.element).map fun a => .equals a.1 (softened a.2)
  classes : c.classes = (shownClasses settings s.element).map softened
  nthOfType : c.nthOfType = (ofSite settings s).position

theorem readAs_compound (settings : Settings) (s : Site) :
    ReadAs settings s (compound settings s) := by
  have hattributes : ∀ a ∈ shownAttributes settings s.element,
      s.element.attribute? a.1 = some a.2 := fun a ha => attribute?_of_mem_shownAttributes ha
  have hclasses := shownClasses_isPrefix settings s.element
  rw [compound_eq]
  exact ⟨rfl, rfl, hattributes, hclasses, predicates_ofSite settings s, rfl, rfl, rfl⟩

def OnPage (s : Site) : Prop := ∃ d : Document, d.Reachable ∧ d.site? s.id = some s

theorem parse_joined_segments (hnames : ∀ n ∈ settings.testAttributes, Text.isPlain n = true)
    {sites : List Site} (hne : sites ≠ []) (hpage : ∀ s ∈ sites, OnPage s)
    (htag : ∀ s ∈ sites, Text.isPlain s.tag = true) :
    ∃ chain, Selector.parse (join (sites.map fun s => (ofSite settings s).text)) = .ok [chain] ∧
      chain.combinators = List.replicate (sites.length - 1) .child ∧
      List.Forall₂ (ReadAs settings) sites chain.compounds := by
  -- Paths are listed upward, segments are printed downward.
  obtain ⟨s, above, hup⟩ : ∃ s above, sites.reverse = s :: above :=
    List.exists_cons_of_ne_nil (by simpa using hne)
  have hsites : sites = (s :: above).reverse := by
    rw [← hup, List.reverse_reverse]
  have hwritten : ∀ t ∈ s :: above,
      Written (ofSite settings t).text.toList (compound settings t) := by
    intro t ht
    have hmem : t ∈ sites := by
      rw [hsites]
      exact List.mem_reverse.mpr ht
    obtain ⟨d, hd, hs⟩ := hpage t hmem
    exact written_text hnames (htag t hmem) (hd.position_lt (Document.place_of_site? hs).1)
  have htext : join (sites.map fun s => (ofSite settings s).text)
      = pathText settings (s :: above) := by
    rw [pathText, hsites, List.map_reverse]
  refine ⟨chainOf (compound settings) s above, ?_, ?_, ?_⟩
  · rw [htext]
    exact parse_chainOf hwritten
  · rw [combinators_chainOf, hsites, List.length_reverse, List.length_cons, Nat.add_sub_cancel]
  · rw [compounds_chainOf, ← List.map_reverse, ← hsites, List.forall₂_map_right_iff]
    exact List.forall₂_same.mpr fun t _ => readAs_compound settings t

def markedPath : Document :=
  let first : Markup := ⟨"div", .ofList [("name", "a\"] > b, c"), ("class", "1a .b")], []⟩
  let second : Markup := ⟨"div", .ofList [("class", "x\x00 y>")], [.element
    ⟨"button", .ofList [("data-testid", "it's")], []⟩]⟩
  .ofMarkup ⟨"html", .empty, [.element ⟨"body", .empty, [.element first, .element second]⟩]⟩

theorem parse_joined_segments_markedPath :
    ∃ chain, Selector.parse (join ["body",
        "div[name=\"a\\\"\\]\\ \\>\\ b\\,\\ c\"].\\31 a.\\.b:nth-of-type(1)",
        "div.x\\0 .y\\>:nth-of-type(2)", "button[data-testid=\"it\\'s\"]"]) = .ok [chain] ∧
      chain.combinators = [.child, .child, .child] ∧
      List.Forall₂ (ReadAs .standard) (markedPath.elements.drop 1) chain.compounds := by
  have hd : markedPath.Reachable := .start (.markup _) (by decide)
  have hnames : ∀ n ∈ Settings.standard.testAttributes, Text.isPlain n = true := by decide
  have hpage : ∀ s ∈ markedPath.elements.drop 1, OnPage s := by
    intro s hs
    exact ⟨markedPath, hd, hd.wellFormed.site?_of_mem (List.mem_of_mem_drop hs)⟩
  obtain ⟨chain, hparse, hchild, hread⟩ :=
    parse_joined_segments hnames (by decide) hpage (by decide)
  exact ⟨chain, hparse, hchild, hread⟩

end Segment

end Pinpoint
