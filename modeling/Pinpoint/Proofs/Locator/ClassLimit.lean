import Pinpoint.Proofs.Locator.ReadBack
import Pinpoint.Proofs.Locator.Suffix

/-! More classes in a segment. A segment with more classes asks for more, so it means fewer elements
and never misses its own; a search that was successful with fewer classes is successful with more,
and it need not go further up. -/

namespace Pinpoint

def Settings.withClassLimit (settings : Settings) (n : Nat) : Settings :=
  { settings with maxClassPredicates := n }

namespace Segment

variable {settings : Settings} {n : Nat}

theorem compound_holds_of_more (hle : settings.maxClassPredicates ≤ n) {s e : Site}
    (h : (compound (settings.withClassLimit n) s).holds e = true) :
    (compound settings s).holds e = true := by
  have hsame : (settings.withClassLimit n).testAttribute? s.element
      = settings.testAttribute? s.element := rfl
  unfold compound at h ⊢
  rw [hsame] at h
  cases ht : settings.testAttribute? s.element with
  | some shown =>
    rw [ht] at h
    exact h
  | none =>
    rw [ht] at h
    simp only [Selector.Compound.holds, Bool.and_eq_true] at h ⊢
    obtain ⟨⟨⟨⟨htag, hid⟩, hclasses⟩, hconditions⟩, hposition⟩ := h
    refine ⟨⟨⟨⟨htag, hid⟩, ?_⟩, hconditions⟩, hposition⟩
    rw [List.all_eq_true] at hclasses ⊢
    intro name hname
    exact hclasses name (List.map_subset _ (List.take_subset_take_left _ hle) hname)

theorem path_holds_of_more (hle : settings.maxClassPredicates ≤ n) {s e : Site}
    {above : List Site} (h : (path (settings.withClassLimit n) s above).holds e = true) :
    (path settings s above).holds e = true := by
  induction above generalizing s e with
  | nil => exact compound_holds_of_more hle h
  | cons t above ih =>
    simp only [path, Selector.Chain.holds, Bool.and_eq_true, Option.any_eq_true] at h ⊢
    obtain ⟨hself, p, hp, habove⟩ := h
    exact ⟨compound_holds_of_more hle hself, p, hp, ih habove⟩

end Segment

namespace Document

variable {d : Document} {settings : Settings} {n : Nat} {s : Site}

structure Legible (d : Document) (settings : Settings) (s : Site) : Prop where
  attached : s ∈ d.elements
  names : ∀ name ∈ settings.testAttributes, Text.isPlain name = true
  tags : ∀ l ∈ d.levels s, Text.isPlain l.tag = true
  values : ∀ l ∈ d.levels s, l.element.NullFree ("id" :: Segment.namesRead settings)

theorem Legible.withClassLimit (h : d.Legible settings s) (n : Nat) :
    d.Legible (settings.withClassLimit n) s :=
  ⟨h.attached, h.names, h.tags, h.values⟩

/-- The path from a level down to the element reads as a chain that holds at the element. -/
theorem Legible.suffix (hd : d.Reachable) (h : d.Legible settings s) (hroot : s.id ≠ d.root.id)
    (k : Nat) :
    ∃ above, (d.levels s).take (k + 1) = s :: above ∧
      Selector.parse (suffix settings (d.levels s) k) = .ok [Segment.path settings s above] ∧
      (Segment.path settings s above).holds s = true := by
  obtain ⟨above, hlevels⟩ := levels_cons hroot
  have htake : (d.levels s).take (k + 1) = s :: above.take k := by
    rw [hlevels, List.take_succ_cons]
  have hsub : ∀ l ∈ s :: above.take k, l ∈ d.levels s :=
    fun l hl => List.mem_of_mem_take (htake ▸ hl)
  have hchain := (d.isChain_levels s).take (k + 1)
  rw [htake] at hchain
  refine ⟨above.take k, htake, ?_, ?_⟩
  · rw [Document.suffix, htake]
    exact Segment.parse_pathText fun l hl =>
      hd.written_level h.names h.attached (hsub l hl) (h.tags l (hsub l hl))
  · exact Segment.path_holds hchain fun l hl name hname =>
      h.values l (hsub l hl) name (List.mem_cons_of_mem _ hname)

theorem Legible.resolvesTo_of_more (hd : d.Reachable) (h : d.Legible settings s)
    (hroot : s.id ≠ d.root.id) (hle : settings.maxClassPredicates ≤ n) {k : Nat}
    (hres : d.resolvesTo (Document.suffix settings (d.levels s) k) s.id = true) :
    d.resolvesTo (Document.suffix (settings.withClassLimit n) (d.levels s) k) s.id = true := by
  obtain ⟨above, htake, hparse, -⟩ := h.suffix hd hroot k
  obtain ⟨above', htake', hparse', hholds⟩ := (h.withClassLimit n).suffix hd hroot k
  obtain rfl : above = above' := (List.cons.inj (htake.symm.trans htake')).2
  rw [hd.wellFormed.resolvesTo_iff_of_parse hparse h.attached] at hres
  rw [hd.wellFormed.resolvesTo_iff_of_parse hparse' h.attached]
  refine ⟨hholds, fun e he hmore => ?_⟩
  exact hres.2 e he (Segment.path_holds_of_more hle hmore)

/-- A test attribute stops both searches alike, and a path that means the element alone does so with
more classes too. -/
theorem Legible.stopsAt_of_more (hd : d.Reachable) (h : d.Legible settings s)
    (hroot : s.id ≠ d.root.id) (hle : settings.maxClassPredicates ≤ n) {k : Nat}
    (hstop : d.StopsAt settings s.id (d.levels s) k) :
    d.StopsAt (settings.withClassLimit n) s.id (d.levels s) k := by
  refine ⟨hstop.within, ?_⟩
  rcases hstop.reason with htest | hres
  · left
    rw [Segment.fromTestAttribute_ofSite] at htest ⊢
    exact htest
  · right
    exact h.resolvesTo_of_more hd hroot hle hres

/-- A successful search stops first at a level from which the path means the element alone. -/
theorem exists_stop_of_unique (hroot : s.id ≠ d.root.id) (hid : d.uniqueId? s.element = none)
    (h : (d.structural settings s).resolution = .unique) :
    ∃ k, d.StopsAt settings s.id (d.levels s) k ∧
      (∀ j < k, ¬ d.StopsAt settings s.id (d.levels s) j) ∧
      d.resolvesTo (Document.suffix settings (d.levels s) k) s.id = true := by
  by_cases hex : ∃ k, d.StopsAt settings s.id (d.levels s) k
  · obtain ⟨k, hk⟩ := hex
    obtain ⟨i, -, hstop, hfirst⟩ := hk.exists_first
    refine ⟨i, hstop, hfirst, ?_⟩
    rw [structural_of_first_stop hroot hid hstop hfirst, found] at h
    by_contra hres
    rw [if_neg hres] at h
    cases h
  · rw [not_exists] at hex
    rw [structural_of_no_stop hroot hid hex] at h
    cases h

/-- More classes stop the search no later, and again with success. -/
theorem Legible.first_stop_of_more (hd : d.Reachable) (h : d.Legible settings s)
    (hroot : s.id ≠ d.root.id) (hle : settings.maxClassPredicates ≤ n) {k : Nat}
    (hstop : d.StopsAt settings s.id (d.levels s) k)
    (hfirst : ∀ j < k, ¬ d.StopsAt settings s.id (d.levels s) j)
    (hres : d.resolvesTo (Document.suffix settings (d.levels s) k) s.id = true) :
    ∃ i ≤ k, d.StopsAt (settings.withClassLimit n) s.id (d.levels s) i ∧
      (∀ j < i, ¬ d.StopsAt (settings.withClassLimit n) s.id (d.levels s) j) ∧
      d.resolvesTo (Document.suffix (settings.withClassLimit n) (d.levels s) i) s.id = true := by
  obtain ⟨i, hi, hstop', hfirst'⟩ := (h.stopsAt_of_more hd hroot hle hstop).exists_first
  refine ⟨i, hi, hstop', hfirst', ?_⟩
  rcases hstop'.reason with htest | hres'
  · -- a test attribute would have stopped the first search here
    have hboth : d.StopsAt settings s.id (d.levels s) i := by
      refine ⟨hstop'.within, .inl ?_⟩
      rw [Segment.fromTestAttribute_ofSite] at htest ⊢
      exact htest
    have hik : i = k := by
      by_contra hne
      exact hfirst i (by omega) hboth
    rw [hik]
    exact h.resolvesTo_of_more hd hroot hle hres
  · exact hres'

theorem Legible.parse_suffix (hd : d.Reachable) (h : d.Legible settings s)
    (hroot : s.id ≠ d.root.id) {k : Nat} (hk : k < (d.levels s).length) :
    ∃ chain, Selector.parse (Document.suffix settings (d.levels s) k) = .ok [chain] ∧
      chain.compounds.length = k + 1 := by
  obtain ⟨above, htake, hparse, -⟩ := h.suffix hd hroot k
  refine ⟨_, hparse, ?_⟩
  rw [Segment.path_eq_chainOf, Segment.compounds_chainOf, List.length_reverse, List.length_map,
    ← htake, List.length_take]
  omega

/-- A locator that is unique stays unique when segments may show more classes, and it does not get
more segments. -/
theorem structural_unique_of_more_classes (hd : d.Reachable) (h : d.Legible settings s)
    (hroot : s.id ≠ d.root.id) (hle : settings.maxClassPredicates ≤ n)
    (hunique : (d.structural settings s).resolution = .unique) :
    (d.structural (settings.withClassLimit n) s).resolution = .unique ∧
      ∃ few many, Selector.parse (d.structural settings s).value = .ok [few] ∧
        Selector.parse (d.structural (settings.withClassLimit n) s).value = .ok [many] ∧
        many.compounds.length ≤ few.compounds.length := by
  cases hid : d.uniqueId? s.element with
  | some value =>
    have hne := (uniqueId?_eq_some hid).2.1
    have hparse := Selector.parse_identifier hne
    rw [structural_of_uniqueId hroot hid, structural_of_uniqueId hroot hid]
    exact ⟨rfl, _, _, hparse, hparse, le_rfl⟩
  | none =>
    obtain ⟨k, hstop, hfirst, hres⟩ := exists_stop_of_unique hroot hid hunique
    obtain ⟨i, hi, hstop', hfirst', hres'⟩ := h.first_stop_of_more hd hroot hle hstop hfirst hres
    obtain ⟨few, hfew, hlen⟩ := h.parse_suffix hd hroot hstop.within
    obtain ⟨many, hmany, hlen'⟩ := (h.withClassLimit n).parse_suffix hd hroot hstop'.within
    rw [structural_of_first_stop hroot hid hstop hfirst,
      structural_of_first_stop hroot hid hstop' hfirst', found, found, if_pos hres']
    refine ⟨rfl, few, many, hfew, hmany, ?_⟩
    omega

def twoCards : Document :=
  let card (classes : String) : MarkupNode :=
    .element ⟨"section", .empty, [.element ⟨"a", .ofList [("class", classes)], []⟩]⟩
  ofMarkup ⟨"html", .empty, [.element ⟨"body", .empty, [card "x y", card "x z"]⟩]⟩

theorem structural_unique_of_more_classes_twoCards :
    let one := Settings.standard.withClassLimit 1
    let s := twoCards.elements.get ⟨3, by decide⟩
    (twoCards.structural one s).value = "section:nth-of-type(1) > a.x" ∧
      (twoCards.structural (one.withClassLimit 2) s).resolution = .unique ∧
      ∃ few many, Selector.parse (twoCards.structural one s).value = .ok [few] ∧
        Selector.parse (twoCards.structural (one.withClassLimit 2) s).value = .ok [many] ∧
        many.compounds.length ≤ few.compounds.length := by
  intro one s
  have hd : twoCards.Reachable := .start (.markup _) (by decide)
  have hlegible : twoCards.Legible one s :=
    ⟨List.get_mem _ _, by decide, show ∀ l ∈ twoCards.levels s, Text.isPlain l.tag = true by decide,
      by decide⟩
  exact ⟨by decide +kernel, structural_unique_of_more_classes hd hlegible (by decide) (by decide)
    (by decide +kernel)⟩

end Document

end Pinpoint
