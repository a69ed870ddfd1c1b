import Pinpoint.Proofs.Document.Detachment
import Pinpoint.Proofs.Selector.Conjunction
import Pinpoint.Proofs.Selector.Reading
import Pinpoint.Selector.Match

/-! Selectors that survive. Where nobody asks for a position, what a selector means among the
elements that stay does not depend on what comes and goes beside them. -/

namespace Pinpoint

namespace Selector

def Simple.isPosition : Simple → Bool
  | position _ => true
  | _ => false

def Row.phrases : Row → List Phrase
  | single p => [p]
  | step left _ p => left.phrases ++ [p]

def Row.asksPosition (row : Row) : Bool := row.phrases.any fun p => p.simples.any Simple.isPosition

theorem Row.compounds_chain (row : Row) :
    row.chain.compounds = row.phrases.map Phrase.compound := by
  induction row with
  | single p => rfl
  | step left o p ih =>
    rw [chain, Chain.compounds, ih, phrases, List.map_append, List.map_singleton]

theorem Compound.nthOfType_foldl {xs : List Simple} (h : xs.any Simple.isPosition = false)
    (c : Compound) : (xs.foldl add c).nthOfType = c.nthOfType := by
  induction xs generalizing c with
  | nil => rfl
  | cons x xs ih =>
    rw [List.any_cons, Bool.or_eq_false_iff] at h
    rw [List.foldl_cons, ih h.2]
    cases x with
    | position n => cases h.1
    | _ => rfl

/-- A change that keeps tags and attributes is not noticed where no position is asked for. -/
theorem Row.chain_holds_map {φ : Element → Element} (htag : ∀ e, (φ e).tag = e.tag)
    (hattribute : ∀ name e, (φ e).attribute? name = e.attribute? name) {row : Row}
    (hrow : row.asksPosition = false) (s : Site) :
    row.chain.holds (s.map φ) = row.chain.holds s := by
  refine Chain.holds_map fun c hc t _ => ?_
  rw [row.compounds_chain] at hc
  obtain ⟨p, hp, rfl⟩ := List.mem_map.mp hc
  have hnone : p.simples.any Simple.isPosition = false := by
    simpa using List.any_eq_false.mp hrow p hp
  exact Compound.holds_congr (htag _) (fun name _ => hattribute name _)
    (.inl (Compound.nthOfType_foldl hnone _))

end Selector

namespace Document

/-- What is in the tree of both documents has its tag and its attributes in both, what is above it
in one of them is above it in the other, and the order is the same. -/
structure Carried (d now : Document) (φ : Element → Element) : Prop where
  id : ∀ e, (φ e).id = e.id
  tag : ∀ e, (φ e).tag = e.tag
  attributes : ∀ name e, (φ e).attribute? name = e.attribute? name
  elements : (now.elements.filter fun s => d.isAttached s.id)
    = (d.elements.filter fun s => now.isAttached s.id).map (Site.map φ)

variable {d now : Document}

theorem WellFormed.lt_of_isAttached (h : d.WellFormed) {n : NodeId} (hn : d.isAttached n = true) :
    n < d.size := by
  obtain ⟨p, hp, rfl⟩ := place_of_isAttached hn
  exact h.below_size _ (d.ids_attached_sublist.subset (List.mem_map_of_mem hp))

theorem carried_of_same (hroot : now.root = d.root) : d.Carried now (fun e => e) where
  id _ := rfl
  tag _ := rfl
  attributes _ _ := rfl
  elements := by
    have hplaces : now.attachedPlaces = d.attachedPlaces := by
      rw [attachedPlaces, hroot, attachedPlaces]
    have hmap : Site.map (fun e => e) = fun s => s := by
      funext s
      rw [Site.map, List.map_id']
    simp only [elements, isAttached, hplaces, hmap, List.map_id']

/-- Nothing goes, and what comes has new numbers. -/
theorem Grown.carried {id : NodeId} {f : Element → Element} {new : List Node} (h : d.WellFormed)
    (g : d.Grown now id f new) (hf : ∀ name e, (f e).attribute? name = e.attribute? name) :
    d.Carried now (Element.update id f) where
  id := g.change.id_update
  tag := g.change.tag_update
  attributes name := Element.attribute?_update (hf name)
  elements := by
    have hkept : ∀ t ∈ d.elements, t.map (Element.update id f) ∈ now.elements := by
      intro t ht
      have hmem := List.mem_map_of_mem (f := Site.map (Element.update id f)) ht
      rw [← g.filter_elements h] at hmem
      exact (List.mem_filter.mp hmem).1
    have hold : ∀ s ∈ now.elements, d.isAttached s.id = decide (s.id < d.size) := by
      intro s hs
      rw [Bool.eq_iff_iff, decide_eq_true_eq]
      refine ⟨h.lt_of_isAttached, fun hlt => ?_⟩
      have hmem : s ∈ now.elements.filter fun s => s.id < d.size :=
        List.mem_filter.mpr ⟨hs, decide_eq_true hlt⟩
      rw [g.filter_elements h] at hmem
      obtain ⟨t, ht, rfl⟩ := List.mem_map.mp hmem
      rw [t.id_map _ g.change.id_update]
      exact isAttached_of_mem ht
    have hstay : ∀ t ∈ d.elements, now.isAttached t.id = true := by
      intro t ht
      have hattached := isAttached_of_mem (hkept t ht)
      rwa [t.id_map _ g.change.id_update] at hattached
    rw [List.filter_congr hold, g.filter_elements h, List.filter_eq_self.mpr hstay]

/-- Nothing comes, and what goes is a subtree. -/
theorem WellFormed.carried_detach (h : d.WellFormed) {id : NodeId} {node : Node} {parent : Element}
    {rest : List Element} (hplace : d.place? id = some ⟨node, parent :: rest⟩) :
    d.Carried (d.detach id) (Element.without id) where
  id e := e.id_without id
  tag e := by
    cases e
    rw [Element.without]
  attributes name e := by
    cases e
    rw [Element.without]
    rfl
  elements := by
    have hout := h.takenOut_of_parent hplace
    have hold : ∀ s ∈ (d.detach id).elements, d.isAttached s.id = true := by
      intro s hs
      have hattached := isAttached_of_mem hs
      rw [hout.attached, Bool.and_eq_true] at hattached
      exact hattached.1
    have hstay : ∀ t ∈ d.elements, (d.detach id).isAttached t.id = ! d.isBelow id t.id := by
      intro t ht
      rw [hout.attached, isAttached_of_mem ht, Bool.true_and]
    rw [List.filter_eq_self.mpr hold, List.filter_congr hstay, h.elements_detach hplace]

theorem Carried.filter_select {φ : Element → Element} (c : d.Carried now φ) {g : Selector.Group}
    (hg : ∀ chain ∈ g, ∀ s : Site, chain.holds (s.map φ) = chain.holds s) :
    ((now.select g).map Site.id).filter (fun n => d.isAttached n)
      = ((d.select g).map Site.id).filter fun n => now.isAttached n := by
  have hholds : ∀ s : Site, g.holds (s.map φ) = g.holds s := by
    intro s
    rw [Selector.Group.holds, Selector.Group.holds, Bool.eq_iff_iff, List.any_eq_true,
      List.any_eq_true]
    refine exists_congr fun chain => and_congr_right fun hchain => ?_
    rw [hg chain hchain]
  calc ((now.select g).map Site.id).filter (fun n => d.isAttached n)
      = ((now.elements.filter fun s => d.isAttached s.id).filter g.holds).map Site.id := by
        rw [List.filter_map, select, List.filter_comm]
        rfl
    _ = ((d.elements.filter fun s => now.isAttached s.id).filter g.holds).map Site.id := by
        rw [c.elements, List.filter_map, Site.ids_map _ c.id, Function.comp_def]
        simp only [hholds]
    _ = ((d.select g).map Site.id).filter fun n => now.isAttached n := by
        rw [List.filter_map, select, List.filter_comm]
        rfl

end Document

def Edit.keepsAttributes : Edit → Bool
  | setAttribute .. => false
  | _ => true

namespace Document

variable {d : Document}

theorem WellFormed.carried_perform (h : d.WellFormed) {e : Edit} (he : e.keepsAttributes = true) :
    ∃ φ, d.Carried (d.perform e) φ := by
  cases e with
  | setAttribute => cases he
  | append parent markup =>
    cases hd : d.append? parent markup with
    | none =>
      rw [Document.perform, hd]
      exact ⟨_, carried_of_same rfl⟩
    | some now =>
      rw [Document.perform, hd]
      exact ⟨_, (grown_append? hd).carried h fun _ _ => rfl⟩
  | detach id =>
    rw [Document.perform]
    by_cases hplace : ∃ node parent rest, d.place? id = some ⟨node, parent :: rest⟩
    · obtain ⟨node, parent, rest, hplace⟩ := hplace
      exact ⟨_, h.carried_detach hplace⟩
    · rw [detach_eq_self hplace]
      exact ⟨_, carried_of_same rfl⟩
  | setOutline id value =>
    refine ⟨_, carried_of_same ?_⟩
    rw [Document.perform, setOutline?]
    split <;> rfl
  | focus => exact ⟨_, carried_of_same rfl⟩
  | withUrl => exact ⟨_, carried_of_same rfl⟩
  | withFrame => exact ⟨_, carried_of_same rfl⟩

/-- Markup is added or a subtree is taken out. What a text without positions means afterwards, as
far as it was in the tree before, is what it meant before and is still in the tree, in the same
order. -/
theorem query_perform_of_not_asksPosition (hd : d.Reachable) {text : String}
    {rows : List Selector.Row} (hrows : Selector.Spelling.Group text.toList rows)
    (hpositions : ∀ row ∈ rows, row.asksPosition = false) {e : Edit}
    (he : e.keepsAttributes = true) :
    ∃ before after, d.query text = .ok before ∧ (d.perform e).query text = .ok after ∧
      (after.map Site.id).filter (fun n => d.isAttached n)
        = (before.map Site.id).filter fun n => (d.perform e).isAttached n := by
  have hparse := Selector.parse_eq_ok_iff.mpr ⟨rows, hrows, rfl⟩
  refine ⟨d.select (rows.map Selector.Row.chain),
    (d.perform e).select (rows.map Selector.Row.chain), ?_, ?_, ?_⟩
  · rw [query, hparse]
    rfl
  · rw [query, hparse]
    rfl
  · obtain ⟨φ, hcarried⟩ := hd.wellFormed.carried_perform he
    refine hcarried.filter_select fun chain hchain s => ?_
    obtain ⟨row, hrow, rfl⟩ := List.mem_map.mp hchain
    exact Selector.Row.chain_holds_map hcarried.tag hcarried.attributes (hpositions row hrow) s

def itemPage : Document :=
  let on : Attributes := .ofList [("class", "on")]
  .ofMarkup ⟨"html", .empty, [.element ⟨"ul", .empty,
    [.element ⟨"li", .empty, [.element ⟨"b", on, []⟩]⟩, .element ⟨"i", on, []⟩]⟩]⟩

/-- The line goes, and the item beside it is still meant. -/
theorem query_detach_itemPage :
    ∃ before after, itemPage.query "ul .on" = .ok before ∧
      (itemPage.detach 2).query "ul .on" = .ok after ∧
      before.map Site.id = [3, 4] ∧ after.map Site.id = [4] ∧
      (after.map Site.id).filter (fun n => itemPage.isAttached n)
        = (before.map Site.id).filter fun n => (itemPage.detach 2).isAttached n := by
  have hd : itemPage.Reachable := .start (.markup _) (by decide)
  have htag : Selector.Grammar.Identifier ['u', 'l', ' ', '.', 'o', 'n'] "ul"
      [' ', '.', 'o', 'n'] :=
    Selector.readIdentifier_eq_ok_iff.mp (by decide +kernel)
  have hclass : Selector.Grammar.Identifier ['o', 'n'] "on" [] :=
    Selector.readIdentifier_eq_ok_iff.mp (by decide +kernel)
  have hspaces : Selector.Grammar.Spaces [' ', '.', 'o', 'n'] ['.', 'o', 'n'] :=
    Selector.spaces_iff.mpr rfl
  let row : Selector.Row := .step (.single ⟨some "ul", []⟩) .descendant ⟨none, [.className "on"]⟩
  have hrow : Selector.Spelling.Row ['u', 'l', ' ', '.', 'o', 'n'] row [] :=
    .step (.single (.tag (by decide) htag .done)) (.descendant hspaces (by decide))
      (.simples (.className hclass) .done)
  have htext : "ul .on".toList = ['u', 'l', ' ', '.', 'o', 'n'] := by decide
  have hrows : Selector.Spelling.Group "ul .on".toList [row] := by
    rw [htext]
    exact .last (Selector.spaces_iff.mpr rfl) hrow (Selector.spaces_iff.mpr rfl)
  obtain ⟨before, after, hbefore, hafter, hkept⟩ :=
    query_perform_of_not_asksPosition hd hrows (by decide) (e := .detach 2) rfl
  have hids : (itemPage.query "ul .on").map (List.map Site.id) = .ok [3, 4] := by decide +kernel
  have hleft : ((itemPage.detach 2).query "ul .on").map (List.map Site.id) = .ok [4] := by
    decide +kernel
  rw [hbefore] at hids
  rw [perform] at hafter
  rw [hafter] at hleft
  exact ⟨before, after, hbefore, hafter, Except.ok.inj hids, Except.ok.inj hleft, hkept⟩

end Document

end Pinpoint
