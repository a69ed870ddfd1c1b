import Pinpoint.Proofs.Document.Growth
import Pinpoint.Proofs.Selector.Meaning

/-! What a selector reads: tags, some attributes, and positions where it asks for them. A change
that keeps these on an element and above it makes no difference to the selector. -/

namespace Pinpoint

theorem any_congr_of_mem {α : Type} {p q : α → Bool} {l : List α} (h : ∀ x ∈ l, p x = q x) :
    l.any p = l.any q := by
  rw [Bool.eq_iff_iff, List.any_eq_true, List.any_eq_true]
  exact exists_congr fun x => and_congr_right fun hx => Bool.eq_iff_iff.mp (h x hx)

namespace Site

theorem withAncestors_subset_of_parent {s t : Site} (h : s.parent? = some t) :
    t.withAncestors ⊆ s.withAncestors := by
  rw [withAncestors_of_parent h]
  exact List.subset_cons_self _ _

theorem withAncestors_subset_of_above {s t : Site} (h : t ∈ s.above) :
    t.withAncestors ⊆ s.withAncestors := by
  obtain ⟨e, ancestors⟩ := s
  induction ancestors generalizing e with
  | nil => cases h
  | cons p rest ih =>
    have hparent := withAncestors_subset_of_parent (s := ⟨e, p :: rest⟩) rfl
    rcases List.mem_cons.mp h with rfl | h
    · exact hparent
    · exact List.Subset.trans (ih p h) hparent

end Site

namespace Selector

def Condition.name : Condition → String
  | present name => name
  | equals name _ => name

def Compound.names (c : Compound) : List String :=
  c.id.toList.map (fun _ => "id") ++ c.classes.map (fun _ => "class") ++
    c.conditions.map Condition.name

theorem Condition.holds_congr {c : Condition} {e e' : Element}
    (h : e'.attribute? c.name = e.attribute? c.name) : c.holds e' = c.holds e := by
  cases c with
  | present name => exact congrArg Option.isSome h
  | equals name value => exact congrArg (· == some value) h

theorem Compound.holds_congr {c : Compound} {s t : Site} (htag : t.tag = s.tag)
    (hnames : ∀ name ∈ c.names, t.element.attribute? name = s.element.attribute? name)
    (hposition : c.nthOfType = none ∨ t.position = s.position) : c.holds t = c.holds s := by
  simp only [names, List.forall_mem_append, List.forall_mem_map] at hnames
  obtain ⟨⟨hid, hclass⟩, hconditions⟩ := hnames
  have hids : c.id.all (fun id => t.element.attribute? "id" == some id)
      = c.id.all fun id => s.element.attribute? "id" == some id := by
    cases hc : c.id with
    | none => rfl
    | some value => rw [hid value (by rw [hc]; exact List.mem_singleton_self _)]
  have hclasses : c.classes.all (fun name => t.element.classes.contains name)
      = c.classes.all fun name => s.element.classes.contains name := by
    rw [Bool.eq_iff_iff, List.all_eq_true, List.all_eq_true]
    refine forall₂_congr fun name hname => ?_
    rw [Element.classes, Element.classes, hclass name hname]
  have hall : c.conditions.all (Condition.holds t.element)
      = c.conditions.all (Condition.holds s.element) := by
    rw [Bool.eq_iff_iff, List.all_eq_true, List.all_eq_true]
    refine forall₂_congr fun condition hc => ?_
    rw [condition.holds_congr (hconditions condition hc)]
  have hplace : c.nthOfType.all (· == t.position) = c.nthOfType.all (· == s.position) := by
    rcases hposition with hnone | hsame
    · rw [hnone]
      rfl
    · rw [hsame]
  rw [holds, holds, htag, hids, hclasses, hall, hplace]

/-- The matcher looks at the element and above it, and nowhere else. -/
theorem Chain.holds_map {φ : Element → Element} {chain : Chain} {s : Site}
    (h : ∀ c ∈ chain.compounds, ∀ t ∈ s.withAncestors, c.holds (t.map φ) = c.holds t) :
    chain.holds (s.map φ) = chain.holds s := by
  induction chain generalizing s with
  | single c => exact h c (List.mem_singleton_self _) s List.mem_cons_self
  | step left o c ih =>
    have hlast := h c (List.mem_append_right _ (List.mem_singleton_self _)) s List.mem_cons_self
    have hleft : ∀ t, t.withAncestors ⊆ s.withAncestors →
        left.holds (t.map φ) = left.holds t := fun t hsub =>
      ih fun c' hc' u hu => h c' (List.mem_append_left _ hc') u (hsub hu)
    cases o with
    | child =>
      rw [holds, holds, hlast, Site.parent?_map]
      cases hparent : s.parent? with
      | none => rfl
      | some t =>
        rw [Option.map_some, Option.any_some, Option.any_some,
          hleft t (Site.withAncestors_subset_of_parent hparent)]
    | descendant =>
      rw [holds, holds, hlast, Site.above_map, List.any_map]
      have habove : s.above.any (left.holds ∘ Site.map φ) = s.above.any left.holds :=
        any_congr_of_mem fun t ht => hleft t (Site.withAncestors_subset_of_above ht)
      rw [habove]

end Selector

end Pinpoint
