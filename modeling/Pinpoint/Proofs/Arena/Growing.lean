import Pinpoint.Proofs.Arena.Insertion
import Pinpoint.Proofs.Arena.Marking
import Pinpoint.Proofs.Document.Building

/-! Markup that is added below an element. The cells of the new nodes are marked as the parent is,
and at last the parent gets the first of them as a child; no other cell changes. -/

namespace Pinpoint

namespace Document.Appended

variable {d d' : Document} {parent : NodeId} {markup : Markup} (h : d.Appended d' parent markup)

include h

/-- A node that was there keeps its cell, and the parent has one more child. -/
theorem cell?_old {n : NodeId} (hn : n < d.size) :
    d'.cell? n = (d.cell? n).map fun cell =>
      if parent = n then { cell with children := cell.children ++ [d.size] } else cell := by
  rw [d'.cell?_eq, d.cell?_eq, h.data n hn, h.parents n hn, h.attached n hn, h.outline,
    Option.map_map]
  congr 1
  funext data
  by_cases hparent : parent = n
  · rw [← hparent, h.last]
    exact (if_pos rfl).symm
  · rw [h.children n hn fun heq => hparent heq.symm]
    exact (if_neg hparent).symm

theorem cell?_new (hd : d.Sound) (hd' : d'.WellFormed) {p : Place} (hp : p ∈ d'.places)
    (hid : p.id ∈ List.range' d.size markup.size) :
    d'.cell? p.id = some { p.cell true none with attached := d.isAttached parent } := by
  have hunpainted := (hd.painted p.id).2 (List.mem_range'_1.mp hid).1
  rw [hd'.cell?_of_place hp, h.attached_new p.id hid, h.outline, hunpainted]
  rfl

end Document.Appended

namespace Arena

variable {a : Arena} {d : Document} {parent : NodeId} {markup : Markup}

section Inserted

variable {old new : List Cell} {above : List Element} (h : Inserted old new above markup)

include h

theorem Inserted.mark (flag : Bool) : mark flag new [old.length]
    = some (flagged flag (List.range' old.length markup.size) new) := by
  have hmark := mark_subtree flag fun p hp => congrArg (Option.map Cell.children) (h.added p hp)
  rwa [Node.id, Document.id_number, Document.ids_number] at hmark

theorem Inserted.marked_old (flag : Bool) {n : NodeId} (hn : n < old.length) :
    (flagged flag (List.range' old.length markup.size) new)[n]? = old[n]? := by
  have hnot : n ∉ List.range' old.length markup.size := fun hmem =>
    Nat.not_lt.mpr (List.mem_range'_1.mp hmem).1 hn
  rw [getElem?_flagged, h.kept n hn]
  simp only [hnot, if_false, Option.map_id']

theorem Inserted.marked_new (flag : Bool) {p : Place}
    (hp : p ∈ Node.placesAll above [.element (markup.number old.length)]) :
    (flagged flag (List.range' old.length markup.size) new)[p.id]?
      = some { p.cell true none with attached := flag } := by
  have hmem : p.id ∈ List.range' old.length markup.size := by
    rw [← Document.ids_number]
    exact Node.id_mem_ids hp
  rw [getElem?_flagged, h.added p hp, Option.map_some, if_pos hmem]

end Inserted

/-- The new cells are marked as the parent is, which then gets one child more. -/
theorem append_eq {cell : Cell} (above : List Element) (helement : a.isElement parent = true)
    (hcell : a.cells[parent]? = some cell) (habove : above.head?.map Element.id = some parent) :
    ∃ new, Inserted a.cells new above markup ∧
      a.append parent markup = some ({ a with
        cells := (flagged cell.attached (List.range' a.cells.length markup.size) new).modify parent
          fun cell => { cell with children := cell.children ++ [a.cells.length] } },
        some a.cells.length) := by
  obtain ⟨new, hinsert, hnew⟩ := inserted_insert above a.cells markup
  obtain ⟨hlt, -⟩ := List.getElem?_eq_some_iff.mp hcell
  have hkept := (hnew.kept parent hlt).trans hcell
  have hmarked := (hnew.marked_old cell.attached hlt).trans hcell
  rw [habove] at hinsert
  refine ⟨new, hnew, ?_⟩
  rw [Arena.append, if_pos helement, hinsert]
  simp only [hkept, hnew.mark, modify?_eq _ hmarked, Option.bind_eq_bind, Option.bind_some]

/-- An element gets the new node as a child whatever it is itself, in the tree or not. -/
theorem Represents.append (h : a.Represents d) (hd : d.Sound) (markup : Markup)
    (hparent : d.isElement parent = true) :
    ∃ now d', a.append parent markup = some (now, some a.cells.length) ∧
      d.append? parent markup = some d' ∧ d.Appended d' parent markup ∧ now.Represents d' := by
  obtain ⟨d', hnow, happended⟩ := hd.appended markup hparent
  have hd' : d'.Sound := by
    have hperform := hd.perform (.append parent markup)
    rwa [Document.perform, hnow] at hperform
  have hlt := hd.lt_size_of_isElement hparent
  obtain ⟨cell, hcell⟩ := hd.exists_cell hlt
  obtain ⟨e, above, hid, hplaces⟩ := happended.places
  obtain ⟨new, hnew, happend⟩ := append_eq (e :: above)
    ((h.isElement_eq parent).trans hparent) ((h.cells parent).trans hcell) (congrArg some hid)
  rw [← h.length_cells hd] at hplaces
  refine ⟨_, d', happend, hnow, happended, fun n => ?_, ?_, ?_, ?_, ?_⟩
  · rw [getElem?_modified]
    by_cases hn : n < a.cells.length
    · rw [hnew.marked_old _ hn, h.cells, happended.cell?_old (h.length_cells hd ▸ hn),
        h.length_cells hd]
    · have hne : parent ≠ n := fun heq => hn (heq ▸ h.length_cells hd ▸ hlt)
      simp only [if_neg hne, Option.map_id']
      by_cases hend : n < d'.size
      · have hmem : n ∈ List.range' d.size markup.size :=
          List.mem_range'_1.mpr ⟨Nat.not_lt.mp (h.length_cells hd ▸ hn), happended.size ▸ hend⟩
        have hplace := hmem
        rw [← h.length_cells hd, ← Document.ids_number, ← Node.map_id_placesAll (e :: above)]
          at hplace
        obtain ⟨p, hp, rfl⟩ := List.mem_map.mp hplace
        rw [hnew.marked_new _ hp, happended.cell?_new hd hd'.toWellFormed (hplaces hp) hmem,
          Document.attached_of_cell? hcell]
      · have hle : new.length ≤ n := by
          rw [hnew.length, h.length_cells hd, ← happended.size]
          exact Nat.not_lt.mp hend
        rw [hd'.cell?_eq_none (Nat.not_lt.mp hend), getElem?_flagged,
          List.getElem?_eq_none hle, Option.map_none]
  · exact h.root.trans (congrArg some happended.root.symm)
  · exact h.url.trans happended.page.1.symm
  · exact h.frame.trans happended.page.2.symm
  · exact h.active.trans happended.active.symm

end Arena

end Pinpoint
