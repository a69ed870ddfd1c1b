import Pinpoint.Proofs.Arena.Run

/-! The links of an arena and its marks. Whatever was edited, links down and links up make one
forest, the marks say what hangs below the document element, and every loop along the links ends.
-/

namespace Pinpoint.Arena

def IsChild (a : Arena) (p c : NodeId) : Prop := c ∈ a.children p

/-- The links that are stored belong to one forest, and the marks belong to the links. -/
structure Linked (a : Arena) : Prop where
  links : ∀ p c, (a.children p).count c = if a.parent? c = some p then 1 else 0
  parent_lt : ∀ p c, a.parent? c = some p → p < c
  parent_element : ∀ p, a.children p ≠ [] → a.isElement p = true
  attached : ∀ n, a.isAttached n = true ↔
    ∃ root, a.root = some root ∧ Relation.ReflTransGen a.IsChild root n
  elements : ∃ l, a.elements? = some l ∧ l.Nodup ∧
    (∀ n, n ∈ l ↔ a.isAttached n = true ∧ a.isElement n = true) ∧
    ∀ m, InPreorder a.elementChildren a.root.toList m ↔ m = l
  active : ∀ n, a.active? = some n → a.isAttached n = true ∧ a.isElement n = true
  ancestors : ∀ n, ∃ l, a.ancestors? n = some l ∧ Ascent a.parentElement? n l

variable {a : Arena} {d : Document}

section Represented

variable (h : a.Represents d) (hd : d.Sound)

include h hd

theorem Represents.attached_iff (n : NodeId) : a.isAttached n = true ↔
    ∃ root, a.root = some root ∧ Relation.ReflTransGen a.IsChild root n := by
  have hchild : a.IsChild = d.IsChild := by
    funext p c
    rw [IsChild, h.children_eq]
    rfl
  rw [h.isAttached_eq hd.toWellFormed, hd.isAttached_iff_reachable, h.root, hchild]
  simp

/-- The list of elements is the only one in document order. -/
theorem Represents.listed : ∃ l, a.elements? = some l ∧ l.Nodup ∧
    (∀ n, n ∈ l ↔ a.isAttached n = true ∧ a.isElement n = true) ∧
    ∀ m, InPreorder a.elementChildren a.root.toList m ↔ m = l := by
  have hchildren : a.elementChildren = d.elementChildIds := funext h.elementChildren_eq
  refine ⟨_, h.elements?_eq hd.toWellFormed, hd.nodup_map_id (List.Sublist.refl _), fun n => ?_,
    fun m => ?_⟩
  · rw [h.isAttached_eq hd.toWellFormed, h.isElement_eq]
    exact hd.mem_elements_iff
  · rw [hchildren, h.root, Option.toList_some]
    constructor
    · intro hm
      exact hm.unique hd.preorder_elements
    · rintro rfl
      exact hd.preorder_elements

theorem Represents.linked : a.Linked where
  links p c := by
    rw [h.children_eq, h.parent?_eq]
    exact hd.count_childIds p c
  parent_lt p c := by
    rw [h.parent?_eq]
    exact hd.parent_lt
  parent_element p := by
    rw [h.children_eq, h.isElement_eq]
    exact Document.isElement_of_childIds_ne_nil
  attached := h.attached_iff hd
  elements := h.listed hd
  active n hn := by
    rw [h.active?_eq hd.toWellFormed] at hn
    obtain ⟨hactive, hattached⟩ := Option.filter_eq_some_iff.mp hn
    rw [h.isAttached_eq hd.toWellFormed, h.isElement_eq]
    exact ⟨hattached, hd.focus n hactive⟩
  ancestors n := by
    have hparent : a.parentElement? = d.parentId? := funext (h.parentElement?_eq hd.toWellFormed)
    refine ⟨_, h.ancestors?_eq hd.toWellFormed n, ?_⟩
    rw [hparent]
    exact hd.ascent n

end Represented

/-- Whatever an arena was built from, every sequence of edits can be performed on it, and its links
make one forest then. Its cells stay what they are whatever is edited later, and a new child gets
the next number. -/
theorem linked_of_run (h : a.Initial) (edits : List Edit) :
    ∃ now, a.run edits = some now ∧ now.Linked ∧
      (∀ later, ∃ after, now.run later = some after ∧
        now.cells.map Cell.label <+: after.cells.map Cell.label) ∧
      ∀ parent markup, now.isElement parent = true →
        ∃ grown, now.append parent markup = some (grown, some now.cells.length) := by
  obtain ⟨d, hinitial, hstart⟩ := represents_of_initial h
  have hsound := Document.sound_of_initial hinitial
  obtain ⟨now, hnow, hrepresents⟩ := hstart.run hsound edits
  have hd := hsound.run edits
  refine ⟨now, hnow, hrepresents.linked hd, fun later => ?_, fun parent markup hparent => ?_⟩
  · obtain ⟨after, hafter, -⟩ := hrepresents.run hd later
    exact ⟨after, hafter, hrepresents.labels_run hd hafter⟩
  · rw [hrepresents.isElement_eq] at hparent
    obtain ⟨grown, -, hgrown, -⟩ := hrepresents.append hd markup hparent
    exact ⟨grown, hgrown⟩

/-- The focused paragraph goes out with the body, and then gets a child where it is. -/
theorem linked_of_run_outside :
    let page : Markup := ⟨"html", .empty,
      [.element ⟨"body", .empty, [.text "Hi", .element (.ofTag "p")]⟩]⟩
    let edits : List Edit := [.focus (some 3), .detach 1, .append 3 (.ofTag "b")]
    ∃ now, (ofMarkup page).run edits = some now ∧ now.Linked ∧ now.parent? 4 = some 3 ∧
      now.ancestors? 4 = some [3, 1] ∧ now.isAttached 4 = false ∧ now.active? = none := by
  intro page edits
  obtain ⟨now, hnow, hlinked, -⟩ := linked_of_run (.markup page) edits
  have hsound := Document.sound_of_initial (.markup page)
  have hd := hsound.run edits
  obtain ⟨_, heq, hrepresents⟩ := (represents_ofMarkup page).run hsound edits
  obtain rfl := Option.some.inj (hnow.symm.trans heq)
  refine ⟨now, hnow, hlinked, ?_, ?_, ?_, ?_⟩
  · rw [hrepresents.parent?_eq]
    decide
  · rw [hrepresents.ancestors?_eq hd.toWellFormed]
    decide
  · rw [hrepresents.isAttached_eq hd.toWellFormed]
    decide
  · rw [hrepresents.active?_eq hd.toWellFormed]
    decide

end Pinpoint.Arena
