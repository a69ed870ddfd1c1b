import Mathlib.Data.List.Forall2
import Pinpoint.Proofs.Document.Ancestry
import Pinpoint.Selector.Match
import Pinpoint.Selector.Parser

/-! What a selector means: a chain is a row of compounds, and it means an element if the tree has
a row of elements for it that ends there. The matcher starts at the end and finds exactly these. -/

namespace Pinpoint

namespace Selector

def Chain.compounds : Chain → List Compound
  | single c => [c]
  | step left _ c => left.compounds ++ [c]

def Chain.combinators : Chain → List Combinator
  | single _ => []
  | step left o _ => left.combinators ++ [o]

def Combinator.Relates (d : Document) : Combinator → Site → Site → Prop
  | child => d.ParentOf
  | descendant => d.AncestorOf

def Joined (d : Document) : List Combinator → List Site → Prop
  | [], [_] => True
  | o :: os, s :: t :: sites => o.Relates d s t ∧ Joined d os (t :: sites)
  | _, _ => False

structure Chain.Admits (d : Document) (chain : Chain) (sites : List Site) : Prop where
  holds : List.Forall₂ (fun c s => c.holds s = true) chain.compounds sites
  joined : Joined d chain.combinators sites

variable {d : Document}

theorem joined_concat {os : List Combinator} {o : Combinator} {sites : List Site} {s : Site} :
    Joined d (os ++ [o]) (sites ++ [s]) ↔
      ∃ e, sites.getLast? = some e ∧ Joined d os sites ∧ o.Relates d e s := by
  induction os generalizing sites with
  | nil =>
    match sites with
    | [] => simp [Joined]
    | [e] => simp [Joined]
    | e :: f :: sites => simp [Joined]
  | cons o' os ih =>
    match sites with
    | [] => simp [Joined]
    | [e] =>
      have hshort := @ih []
      simp_all [Joined]
    | e :: f :: sites =>
      have hrest := @ih (f :: sites)
      simp only [List.cons_append, Joined, List.getLast?_cons_cons] at hrest ⊢
      rw [hrest]
      constructor
      · rintro ⟨ho, l, hlast, hjoined, hl⟩
        exact ⟨l, hlast, ⟨ho, hjoined⟩, hl⟩
      · rintro ⟨l, hlast, ⟨ho, hjoined⟩, hl⟩
        exact ⟨ho, l, hlast, hjoined, hl⟩

theorem exists_of_forall₂_concat {α β : Type} {R : α → β → Prop} {xs : List α} {x : α}
    {ys : List β} (h : List.Forall₂ R (xs ++ [x]) ys) :
    ∃ zs z, ys = zs ++ [z] ∧ List.Forall₂ R xs zs ∧ R x z := by
  induction xs generalizing ys with
  | nil =>
    cases h with
    | cons hx hnil =>
      cases hnil
      exact ⟨[], _, rfl, .nil, hx⟩
  | cons y xs ih =>
    cases h with
    | cons hy h =>
      obtain ⟨zs, z, rfl, hzs, hz⟩ := ih h
      exact ⟨_ :: zs, z, rfl, .cons hy hzs, hz⟩

theorem Chain.admits_step {left : Chain} {o : Combinator} {c : Compound} {sites : List Site}
    {s : Site} : (step left o c).Admits d (sites ++ [s]) ↔
      ∃ e, sites.getLast? = some e ∧ left.Admits d sites ∧ o.Relates d e s ∧ c.holds s = true := by
  constructor
  · rintro ⟨hholds, hjoined⟩
    obtain ⟨e, hlast, hjoined, ho⟩ := joined_concat.mp hjoined
    obtain ⟨zs, z, heq, hzs, hz⟩ := exists_of_forall₂_concat hholds
    obtain ⟨rfl, hlist⟩ := List.append_inj' heq rfl
    obtain rfl : s = z := List.singleton_inj.mp hlist
    exact ⟨e, hlast, ⟨hzs, hjoined⟩, ho, hz⟩
  · rintro ⟨e, hlast, ⟨hholds, hjoined⟩, ho, hc⟩
    exact ⟨List.rel_append hholds (.cons hc .nil), joined_concat.mpr ⟨e, hlast, hjoined, ho⟩⟩

theorem Combinator.Relates.left_mem {o : Combinator} {s t : Site} (h : o.Relates d s t) :
    s ∈ d.elements := by
  cases o with
  | child => exact h.parent_mem
  | descendant =>
    obtain ⟨u, hchild, -⟩ := Relation.TransGen.head'_iff.mp h
    exact hchild.parent_mem

/-- To the left of the last compound, the matcher looks at the parent or at the ancestors. -/
theorem Chain.step_holds_iff (h : d.WellFormed) {left : Chain} {o : Combinator} {c : Compound}
    {s : Site} (hs : s ∈ d.elements) :
    (step left o c).holds s = true ↔
      c.holds s = true ∧ ∃ e, o.Relates d e s ∧ left.holds e = true := by
  cases o with
  | child =>
    rw [holds, Bool.and_eq_true, Option.any_eq_true]
    refine and_congr_right fun _ => exists_congr fun e => and_congr_left fun _ => ?_
    exact h.parent?_eq_some_iff hs
  | descendant =>
    rw [holds, Bool.and_eq_true, List.any_eq_true]
    refine and_congr_right fun _ => exists_congr fun e => and_congr_left fun _ => ?_
    exact h.mem_above_iff hs

theorem Chain.holds_iff (h : d.WellFormed) {chain : Chain} {s : Site} (hs : s ∈ d.elements) :
    chain.holds s = true ↔ ∃ sites, chain.Admits d sites ∧ sites.getLast? = some s := by
  induction chain generalizing s with
  | single c =>
    constructor
    · intro hc
      exact ⟨[s], ⟨.cons hc .nil, trivial⟩, rfl⟩
    · rintro ⟨sites, ⟨hholds, -⟩, hlast⟩
      cases hholds with
      | cons hc hnil =>
        cases hnil
        cases hlast
        exact hc
  | step left o c ih =>
    rw [step_holds_iff h hs]
    constructor
    · rintro ⟨hc, e, ho, hleft⟩
      obtain ⟨sites, hadmits, hlast⟩ := (ih ho.left_mem).mp hleft
      exact ⟨sites ++ [s], admits_step.mpr ⟨e, hlast, hadmits, ho, hc⟩, List.getLast?_concat⟩
    · rintro ⟨sites, hadmits, hlast⟩
      obtain ⟨front, rfl⟩ := List.getLast?_eq_some_iff.mp hlast
      obtain ⟨e, hfront, hleft, ho, hc⟩ := admits_step.mp hadmits
      exact ⟨hc, e, ho, (ih ho.left_mem).mpr ⟨front, hleft, hfront⟩⟩

end Selector

namespace Document

variable {d : Document}

/-- A selector means the elements that one of its chains ends at, each of them once and in document
order. -/
theorem select_exact (hd : d.Reachable) (g : Selector.Group) :
    (d.select g).Sublist d.elements ∧ ((d.select g).map Site.id).Nodup ∧
      ∀ s, s ∈ d.select g ↔ s ∈ d.elements ∧
        ∃ chain ∈ g, ∃ sites, chain.Admits d sites ∧ sites.getLast? = some s := by
  have hsub : (d.select g).Sublist d.elements := List.filter_sublist
  refine ⟨hsub, hd.wellFormed.nodup_map_id hsub, fun s => ?_⟩
  rw [select, List.mem_filter, Selector.Group.holds, List.any_eq_true]
  refine and_congr_right fun hs => exists_congr fun chain => and_congr_right fun _ => ?_
  exact Selector.Chain.holds_iff hd.wellFormed hs

def nestedDivs : Document :=
  let inner : Markup := ⟨"div", .empty, [.element (.ofTag "p")]⟩
  .ofMarkup ⟨"html", .empty, [.element ⟨"body", .empty, [.element ⟨"div", .empty,
    [.element inner]⟩]⟩]⟩

theorem select_exact_nestedDivs :
    let compound (tag : String) := { Selector.Compound.any with tag := some tag }
    let left : Selector.Chain := .step (.single (compound "body")) .descendant (compound "div")
    let g : Selector.Group := [.step left .child (compound "p")]
    let s := nestedDivs.elements.get ⟨4, by decide⟩
    Selector.parse "body div > p" = .ok g ∧
      ∃ chain ∈ g, ∃ sites, chain.Admits nestedDivs sites ∧ sites.getLast? = some s := by
  intro compound left g s
  have hmem : s ∈ nestedDivs.select g := List.mem_filter.mpr ⟨List.get_mem _ _, by decide⟩
  have hexact := select_exact (.start (.markup _) (by decide) : nestedDivs.Reachable) g
  exact ⟨by decide +kernel, ((hexact.2.2 s).mp hmem).2⟩

end Document

end Pinpoint
