import Pinpoint.Proofs.Document.Links
import Pinpoint.Proofs.Selector.Spelling
import Pinpoint.Selector.Match

/-! What a compound asks for. All its classes and conditions count, but of its identifiers and of
its positions only the last one stands: the ones in front of it are forgotten when the text is
read. -/

namespace Pinpoint

namespace Selector

def Simple.holds : Simple → Site → Bool
  | identifier value, s => s.element.attribute? "id" == some value
  | className name, s => s.element.classes.contains name
  | condition c, s => c.holds s.element
  | position n, s => n == s.position

/-- A later identifier takes the place of an earlier one, and a later position that of an earlier
one. -/
def Simple.isReplacedBy : Simple → Simple → Bool
  | identifier _, identifier _ => true
  | position _, position _ => true
  | _, _ => false

/-- The simple selectors that no later one replaces. -/
def standing : List Simple → List Simple
  | [] => []
  | x :: xs => if xs.any x.isReplacedBy then standing xs else x :: standing xs

def Phrase.holds (p : Phrase) (s : Site) : Bool :=
  p.tag.all (Text.equalIgnoringCase · s.tag) && p.simples.all (·.holds s)

def Phrase.standing (p : Phrase) : Phrase := { p with simples := Selector.standing p.simples }

def Row.standing : Row → Row
  | single p => .single p.standing
  | step left o p => .step left.standing o p.standing

def Row.NothingTwice : Row → Prop
  | single p => p.simples.Pairwise fun x y => x.isReplacedBy y = false
  | step left _ p =>
    left.NothingTwice ∧ p.simples.Pairwise fun x y => x.isReplacedBy y = false

theorem standing_eq_self {xs : List Simple}
    (h : xs.Pairwise fun x y => x.isReplacedBy y = false) : standing xs = xs := by
  induction h with
  | nil => rfl
  | @cons x xs hx _ ih =>
    have hnone : xs.any x.isReplacedBy = false := by
      rw [List.any_eq_false]
      intro y hy
      rw [hx y hy]
      exact Bool.false_ne_true
    rw [standing, hnone, if_neg Bool.false_ne_true, ih]

theorem Row.standing_of_nothingTwice {row : Row} (h : row.NothingTwice) : row.standing = row := by
  induction row with
  | single p => rw [standing, Phrase.standing, standing_eq_self h]
  | step left o p ih => rw [standing, Phrase.standing, standing_eq_self h.2, ih h.1]

section Compound

def Compound.asked (c : Compound) : List Simple :=
  c.id.toList.map .identifier ++ c.classes.map .className ++ c.conditions.map .condition ++
    c.nthOfType.toList.map .position

theorem Compound.holds_iff {c : Compound} {s : Site} :
    c.holds s = true ↔
      c.tag.all (Text.equalIgnoringCase · s.tag) = true ∧ ∀ x ∈ c.asked, x.holds s = true := by
  obtain ⟨tag, id, classes, conditions, nthOfType⟩ := c
  cases id <;> cases nthOfType <;>
    simp [holds, asked, Simple.holds, or_imp, forall_and, and_assoc]

theorem Compound.mem_asked_add {c : Compound} {x y : Simple} :
    x ∈ (c.add y).asked ↔ x = y ∨ x ∈ c.asked ∧ x.isReplacedBy y = false := by
  cases x <;> cases y <;>
    simp [asked, add, Simple.isReplacedBy, or_comm, eq_comm]

/-- Of the simple selectors that are put together, those are asked for that no later one replaces.
-/
theorem Compound.mem_asked_foldl {xs : List Simple} {c : Compound} {x : Simple} :
    x ∈ (xs.foldl add c).asked ↔
      x ∈ standing xs ∨ x ∈ c.asked ∧ xs.any x.isReplacedBy = false := by
  induction xs generalizing c with
  | nil => simp [standing]
  | cons y xs ih =>
    rw [List.foldl_cons, ih, mem_asked_add, standing, List.any_cons, Bool.or_eq_false_iff]
    by_cases hy : xs.any y.isReplacedBy = true
    · rw [if_pos hy]
      constructor
      · rintro (hx | ⟨rfl | ⟨hc, hxy⟩, hxs⟩)
        · exact .inl hx
        · rw [hy] at hxs
          cases hxs
        · exact .inr ⟨hc, hxy, hxs⟩
      · rintro (hx | ⟨hc, hxy, hxs⟩)
        · exact .inl hx
        · exact .inr ⟨.inr ⟨hc, hxy⟩, hxs⟩
    · rw [Bool.not_eq_true] at hy
      rw [hy, if_neg Bool.false_ne_true, List.mem_cons]
      constructor
      · rintro (hx | ⟨rfl | ⟨hc, hxy⟩, hxs⟩)
        · exact .inl (.inr hx)
        · exact .inl (.inl rfl)
        · exact .inr ⟨hc, hxy, hxs⟩
      · rintro ((rfl | hx) | ⟨hc, hxy, hxs⟩)
        · exact .inr ⟨.inl rfl, hy⟩
        · exact .inl hx
        · exact .inr ⟨.inr ⟨hc, hxy⟩, hxs⟩

theorem Compound.tag_foldl (xs : List Simple) (c : Compound) : (xs.foldl add c).tag = c.tag := by
  induction xs generalizing c with
  | nil => rfl
  | cons x xs ih =>
    rw [List.foldl_cons, ih]
    cases x <;> rfl

theorem Phrase.compound_holds (p : Phrase) (s : Site) : p.compound.holds s = p.standing.holds s := by
  rw [Bool.eq_iff_iff, Compound.holds_iff, compound, Compound.tag_foldl, holds, Bool.and_eq_true,
    List.all_eq_true]
  refine and_congr ?_ ?_
  · rw [standing, Option.all_map]
    simp only [Text.equalIgnoringCase, Text.lower_lower]
  · refine forall_congr' fun x => ?_
    rw [Compound.mem_asked_foldl, standing]
    simp [Compound.asked, Compound.any]

end Compound

def Combinator.Links (d : Document) : Combinator → Site → Site → Prop
  | child, t, s => d.parentId? s.id = some t.id
  | descendant, t, s => t.id ∈ d.ancestorIds s.id

/-- The document has elements for the phrases of a row, in the tree or out of it, each linked to
the next one as the combinator asks, and the last of them is `s`. -/
inductive Row.EndsAt (d : Document) : Row → Site → Prop where
  | single {p : Phrase} {s : Site} : d.site? s.id = some s → p.holds s = true →
    EndsAt d (.single p) s
  | step {left : Row} {o : Combinator} {p : Phrase} {t s : Site} : EndsAt d left t →
    o.Links d t s → d.site? s.id = some s → p.holds s = true → EndsAt d (.step left o p) s

theorem Row.EndsAt.site?_eq {d : Document} {s : Site} {row : Row} (h : row.EndsAt d s) :
    d.site? s.id = some s := by
  cases h with
  | single hs _ => exact hs
  | step _ _ hs _ => exact hs

end Selector

namespace Site

theorem map_id_ofChain (l : List Element) : (ofChain l).map Site.id = l.map Element.id := by
  induction l with
  | nil => rfl
  | cons e rest ih => rw [ofChain, List.map_cons, List.map_cons, ih, Site.id]

end Site

namespace Document

variable {d : Document} {s t : Site}

/-- A site stands on top of another one exactly if the links of the document say so. -/
theorem WellFormed.parent?_eq_some_iff_link (h : d.WellFormed) (hs : d.site? s.id = some s) :
    s.parent? = some t ↔ d.parentId? s.id = some t.id ∧ d.site? t.id = some t := by
  obtain ⟨hplace, -⟩ := place_of_site? hs
  obtain ⟨e, ancestors⟩ := s
  have hparent : d.parentId? e.id = ancestors.head?.map Element.id := h.parentId?_eq hplace
  cases ancestors with
  | nil =>
    refine iff_of_false (by rintro ⟨⟩) ?_
    rintro ⟨hlink, -⟩
    have hnone : some t.id = none := hlink.symm.trans hparent
    cases hnone
  | cons q rest =>
    have hq := h.site?_eq (parent_mem_places hplace).1
    constructor
    · rintro ⟨⟩
      exact ⟨hparent, hq⟩
    · rintro ⟨hlink, ht⟩
      have hid : t.id = q.id := Option.some.inj (hlink.symm.trans hparent)
      rw [hid] at ht
      exact hq.symm.trans ht

theorem WellFormed.site?_of_mem_above (h : d.WellFormed) (hs : d.site? s.id = some s)
    (ht : t ∈ s.above) : d.site? t.id = some t := by
  obtain ⟨hplace, -⟩ := place_of_site? hs
  obtain ⟨e, ancestors⟩ := s
  induction ancestors generalizing e with
  | nil => cases ht
  | cons q rest ih =>
    have hq := (parent_mem_places hplace).1
    rcases List.mem_cons.mp ht with rfl | ht
    · exact h.site?_eq hq
    · exact ih q (h.site?_eq hq) ht hq

theorem WellFormed.mem_above_iff_link (h : d.WellFormed) (hs : d.site? s.id = some s) :
    t ∈ s.above ↔ t.id ∈ d.ancestorIds s.id ∧ d.site? t.id = some t := by
  obtain ⟨hplace, -⟩ := place_of_site? hs
  have habove : d.ancestorIds s.id = s.above.map Site.id := by
    have hfound := h.place?_eq hplace
    change d.place? s.id = _ at hfound
    rw [ancestorIds, hfound]
    exact (Site.map_id_ofChain _).symm
  rw [habove]
  constructor
  · intro ht
    exact ⟨List.mem_map_of_mem ht, h.site?_of_mem_above hs ht⟩
  · rintro ⟨hid, ht⟩
    obtain ⟨u, hu, heq⟩ := List.mem_map.mp hid
    have hsite := h.site?_of_mem_above hs hu
    rw [heq] at hsite
    obtain rfl : u = t := Option.some.inj (hsite.symm.trans ht)
    exact hu

end Document

namespace Selector

variable {d : Document} {s : Site}

/-- The matcher climbs along the links of the document. -/
theorem Chain.step_holds_iff_link (h : d.WellFormed) {left : Chain} {o : Combinator} {c : Compound}
    (hs : d.site? s.id = some s) :
    (step left o c).holds s = true ↔
      c.holds s = true ∧ ∃ t, o.Links d t s ∧ d.site? t.id = some t ∧ left.holds t = true := by
  cases o with
  | child =>
    rw [holds, Bool.and_eq_true, Option.any_eq_true]
    simp only [h.parent?_eq_some_iff_link hs, and_assoc]
    rfl
  | descendant =>
    rw [holds, Bool.and_eq_true, List.any_eq_true]
    simp only [h.mem_above_iff_link hs, and_assoc]
    rfl

/-- The matcher finds the rows that end at an element, with what stands of their phrases. -/
theorem Row.chain_holds_iff (h : d.WellFormed) {row : Row} (hs : d.site? s.id = some s) :
    row.chain.holds s = true ↔ row.standing.EndsAt d s := by
  induction row generalizing s with
  | single p =>
    rw [chain, Chain.holds, p.compound_holds]
    constructor
    · intro hp
      exact .single hs hp
    · rintro (⟨-, hp⟩ | -)
      exact hp
  | step left o p ih =>
    rw [chain, Chain.step_holds_iff_link h hs, p.compound_holds, standing]
    constructor
    · rintro ⟨hp, t, hlink, ht, hleft⟩
      exact .step ((ih ht).mp hleft) hlink hs hp
    · intro hend
      cases hend with
      | step hleft hlink _ hp => exact ⟨hp, _, hlink, hleft.site?_eq, (ih hleft.site?_eq).mpr hleft⟩

/-- A selector text means an element exactly if a row that is written in it ends there, where each
phrase asks for its tag, all its classes and conditions, its last identifier and its last position.
Where no phrase has two of these, that is everything. -/
theorem holds_iff_of_spelling (hd : d.Reachable) {text : String} {g : Group}
    (hparse : parse text = .ok g) (hs : d.site? s.id = some s) :
    (∃ rows, Spelling.Group text.toList rows) ∧
      ∀ rows, Spelling.Group text.toList rows →
        (g.holds s = true ↔ ∃ row ∈ rows, row.standing.EndsAt d s) ∧
        ((∀ row ∈ rows, row.NothingTwice) →
          (g.holds s = true ↔ ∃ row ∈ rows, row.EndsAt d s)) := by
  obtain ⟨rows, hrows, -⟩ := parse_eq_ok_iff.mp hparse
  refine ⟨⟨rows, hrows⟩, fun rows hrows => ?_⟩
  have hg := parse_eq_ok_iff.mpr ⟨rows, hrows, rfl⟩
  obtain rfl : rows.map Row.chain = g := Except.ok.inj (hg.symm.trans hparse)
  have hstanding : Group.holds (rows.map Row.chain) s = true ↔
      ∃ row ∈ rows, row.standing.EndsAt d s := by
    rw [Group.holds, List.any_eq_true]
    simp only [List.mem_map, exists_exists_and_eq_and, Row.chain_holds_iff hd.wellFormed hs]
  refine ⟨hstanding, fun honce => hstanding.trans ?_⟩
  refine exists_congr fun row => and_congr_right fun hrow => ?_
  rw [Row.standing_of_nothingTwice (honce row hrow)]

def labelledPage : Document :=
  let p : Markup := ⟨"p", .ofList [("id", "b"), ("class", "x")], []⟩
  .ofMarkup ⟨"html", .empty, [.element ⟨"div", .ofList [("id", "a")], [.element p]⟩]⟩

/-- Of the two identifiers and the two positions of the paragraph, the last ones hold. -/
theorem holds_iff_of_spelling_labelledPage :
    let s := labelledPage.elements.get ⟨2, by decide⟩
    ∃ rows, Spelling.Group "div#a > .x#c#b:nth-of-type(2):nth-of-type(1)".toList rows ∧
      ∃ row ∈ rows, row.standing.EndsAt labelledPage s := by
  intro s
  let paragraph : Compound := ⟨none, some "b", ["x"], [], some 1⟩
  let g : Group :=
    [.step (.single { Compound.any with tag := some "div", id := some "a" }) .child paragraph]
  have hd : labelledPage.Reachable := .start (.markup _) (by decide)
  have hparse : parse "div#a > .x#c#b:nth-of-type(2):nth-of-type(1)" = .ok g := by decide +kernel
  obtain ⟨⟨rows, hrows⟩, hiff⟩ := holds_iff_of_spelling hd hparse (s := s) rfl
  exact ⟨rows, hrows, (hiff rows hrows).1.mp (by decide)⟩

/-- The text asks for the identifiers `a` and `b`, and it means an element that does not have the
first one. -/
theorem holds_without_first_identifier :
    let s := labelledPage.elements.get ⟨2, by decide⟩
    let row : Row := .single ⟨none, [.identifier "a", .identifier "b"]⟩
    labelledPage.Reachable ∧ labelledPage.site? s.id = some s ∧
      Spelling.Group "#a#b".toList [row] ∧
      (∃ g, parse "#a#b" = .ok g ∧ Group.holds g s = true) ∧ ¬ row.EndsAt labelledPage s := by
  intro s row
  have ha : Grammar.Identifier ['a', '#', 'b'] "a" ['#', 'b'] :=
    readIdentifier_eq_ok_iff.mp (by decide +kernel)
  have hb : Grammar.Identifier ['b'] "b" [] := readIdentifier_eq_ok_iff.mp (by decide +kernel)
  have hrow : Spelling.Row ['#', 'a', '#', 'b'] row [] :=
    .single (.simples (.identifier ha) (.cons (.identifier hb) .done))
  have htext : "#a#b".toList = ['#', 'a', '#', 'b'] := by decide
  have hrows : Spelling.Group "#a#b".toList [row] :=
    htext ▸ .last (spaces_iff.mpr rfl) hrow (spaces_iff.mpr rfl)
  refine ⟨.start (.markup _) (by decide), rfl, hrows, ?_, ?_⟩
  · exact ⟨_, parse_eq_ok_iff.mpr ⟨_, hrows, rfl⟩, by decide⟩
  · intro hend
    unfold row at hend
    cases hend with
    | single _ hp => exact absurd hp (by decide)

end Selector

end Pinpoint
