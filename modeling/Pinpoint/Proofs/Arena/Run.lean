import Pinpoint.Proofs.Arena.Cutting
import Pinpoint.Proofs.Arena.Editing
import Pinpoint.Proofs.Arena.Growing

/-! Runs of edits. No edit fails, an arena that represents a document goes on representing it, and
each cell stays the node that it was. -/

namespace Pinpoint

/-- What no edit changes: the content of a text and the tag of an element. -/
def Cell.label (cell : Cell) : String ⊕ String :=
  match cell.data with
  | .text content => .inl content
  | .element tag _ _ => .inr tag

theorem Cell.label_of_setAttribute? {cell new : Cell} {name value : String}
    (h : cell.setAttribute? name value = some new) : new.label = cell.label := by
  obtain ⟨parent, children, attached, data⟩ := cell
  cases data with
  | text content => cases h
  | element tag attributes outline =>
    cases h
    rfl

theorem Cell.label_of_setOutline? {cell new : Cell} {value : String}
    (h : cell.setOutline? value = some new) : new.label = cell.label := by
  obtain ⟨parent, children, attached, data⟩ := cell
  cases attached with
  | false => cases h
  | true =>
    cases data with
    | text content => cases h
    | element tag attributes outline =>
      cases h
      rfl

namespace Document

variable {d d' : Document}

theorem label_map {f : Cell → Cell} (hf : ∀ cell, (f cell).label = cell.label)
    (cell : Option Cell) : (cell.map f).map Cell.label = cell.map Cell.label := by
  rw [Option.map_map]
  congr 1
  funext c
  exact hf c

theorem CellChange.label {n : NodeId} {f : Cell → Option Cell} (c : d.CellChange d' n f)
    (hf : ∀ cell new, f cell = some new → new.label = cell.label) {i : NodeId}
    (hi : (d'.cell? i).isSome = true) :
    (d'.cell? i).map Cell.label = (d.cell? i).map Cell.label := by
  have hcell := c.cells i
  split at hcell
  · obtain ⟨new, hnew⟩ := Option.isSome_iff_exists.mp hi
    rw [hnew] at hcell
    obtain ⟨old, hold, hchange⟩ := Option.bind_eq_some_iff.mp hcell.symm
    rw [hnew, hold, Option.map_some, Option.map_some, hf _ _ hchange]
  · rw [hcell]

theorem Sound.label_perform (h : d.Sound) (e : Edit) {n : NodeId} (hn : n < d.size) :
    ((d.perform e).cell? n).map Cell.label = (d.cell? n).map Cell.label := by
  have h' := h.perform e
  have hsize := (h.persists_perform e).size_le
  have hsome : ((d.perform e).cell? n).isSome = true := by
    obtain ⟨cell, hcell⟩ := h'.exists_cell (Nat.lt_of_lt_of_le hn hsize)
    rw [hcell]
    rfl
  cases e with
  | setAttribute id name value =>
    rw [Document.perform] at hsome h' ⊢
    cases hd : d.setAttribute? id name value with
    | none => rfl
    | some d' =>
      rw [hd] at hsome h'
      exact (h.change_setAttribute? h' hd).label (fun _ _ => Cell.label_of_setAttribute?) hsome
  | append parent markup =>
    rw [Document.perform]
    by_cases hparent : d.isElement parent = true
    · obtain ⟨d', hd, happended⟩ := h.appended markup hparent
      rw [hd, Option.getD_some, happended.cell?_old hn]
      exact label_map (fun cell => by split <;> rfl) _
    · rw [append?, if_neg hparent]
      rfl
  | detach id =>
    rw [Document.perform]
    by_cases hplace : ∃ node parent rest, d.place? id = some ⟨node, parent :: rest⟩
    · obtain ⟨node, parent, rest, hplace⟩ := hplace
      obtain rfl : node.id = id := (place_of_place? hplace).2
      by_cases hmem : n ∈ Node.ids [node]
      · rw [h.cell?_detach_of_mem hplace hmem]
        exact label_map (fun _ => by rfl) _
      · rw [h.cell?_detach_of_not_mem hplace hmem]
        exact label_map (fun cell => by split <;> rfl) _
    · rw [detach_eq_self hplace]
  | setOutline id value =>
    rw [Document.perform] at hsome ⊢
    cases hd : d.setOutline? id value with
    | none => rfl
    | some d' =>
      rw [hd] at hsome
      exact (change_setOutline? hd).label (fun _ _ => Cell.label_of_setOutline?) hsome
  | focus id => rfl
  | withUrl url => rfl
  | withFrame host => rfl

end Document

namespace Arena

variable {a : Arena} {d : Document}

theorem Represents.perform (h : a.Represents d) (hd : d.Sound) (e : Edit) :
    ∃ now, a.perform e = some now ∧ now.Represents (d.perform e) := by
  cases e with
  | setAttribute n name value => exact ⟨_, rfl, h.setAttribute hd n name value⟩
  | append parent markup =>
    rw [Arena.perform, Document.perform]
    by_cases hparent : d.isElement parent = true
    · obtain ⟨now, d', hnow, hd', -, hrepresents⟩ := h.append hd markup hparent
      rw [hnow, hd']
      exact ⟨now, rfl, hrepresents⟩
    · have helement : ¬ a.isElement parent = true := by rwa [h.isElement_eq]
      rw [Arena.append, if_neg helement, Document.append?, if_neg hparent]
      exact ⟨a, rfl, h⟩
  | detach n => exact h.detach hd n
  | focus n => exact ⟨_, rfl, h.focus n⟩
  | setOutline n value => exact ⟨_, rfl, h.setOutline hd n value⟩
  | withUrl url => exact ⟨_, rfl, h.cells, h.root, rfl, h.frame, h.active⟩
  | withFrame host => exact ⟨_, rfl, h.cells, h.root, h.url, rfl, h.active⟩

theorem run_cons (e : Edit) (edits : List Edit) :
    a.run (e :: edits) = (a.perform e).bind fun now => now.run edits := rfl

theorem Represents.run (h : a.Represents d) (hd : d.Sound) (edits : List Edit) :
    ∃ now, a.run edits = some now ∧ now.Represents (edits.foldl Document.perform d) := by
  induction edits generalizing a d with
  | nil => exact ⟨a, rfl, h⟩
  | cons e edits ih =>
    obtain ⟨next, hnext, hrepresents⟩ := h.perform hd e
    rw [run_cons, hnext]
    exact ih hrepresents (hd.perform e)

/-- The first cells of an arena keep what they are through an edit. -/
theorem Represents.labels_perform (h : a.Represents d) (hd : d.Sound) {e : Edit} {now : Arena}
    (hnow : a.perform e = some now) : a.cells.map Cell.label <+: now.cells.map Cell.label := by
  obtain ⟨_, heq, hrepresents⟩ := h.perform hd e
  obtain rfl := Option.some.inj (hnow.symm.trans heq)
  rw [List.prefix_iff_getElem?]
  intro n hn
  rw [List.length_map] at hn
  have hlabel := hd.label_perform e (h.length_cells hd ▸ hn)
  rw [← hrepresents.cells, ← h.cells, List.getElem?_eq_getElem hn] at hlabel
  rw [List.getElem?_map, hlabel, Option.map_some, List.getElem_map]

theorem Represents.labels_run (h : a.Represents d) (hd : d.Sound) {edits : List Edit}
    {now : Arena} (hnow : a.run edits = some now) :
    a.cells.map Cell.label <+: now.cells.map Cell.label := by
  induction edits generalizing a d with
  | nil =>
    obtain rfl := Option.some.inj hnow
    exact List.prefix_rfl
  | cons e edits ih =>
    obtain ⟨next, hnext, hrepresents⟩ := h.perform hd e
    rw [run_cons, hnext] at hnow
    exact (h.labels_perform hd hnext).trans (ih hrepresents (hd.perform e) hnow)

inductive Initial : Arena → Prop where
  | markup (markup : Markup) : Initial (ofMarkup markup)
  | fixture {f : Fixture} {a : Arena} : ofFixture f = .ok a → Initial a

theorem represents_of_initial (h : a.Initial) : ∃ d : Document, d.Initial ∧ a.Represents d := by
  cases h with
  | markup markup => exact ⟨_, .markup markup, represents_ofMarkup markup⟩
  | @fixture f a hf =>
    rw [ofFixture] at hf
    cases hd : Document.ofFixture f with
    | error fault =>
      rw [hd] at hf
      cases hf
    | ok d =>
      rw [hd] at hf
      cases hf
      have hmarkup := represents_ofMarkup f.root
      refine ⟨d, .fixture hd, ?_⟩
      obtain ⟨id, rfl⟩ := Document.eq_of_ofFixture hd
      exact ⟨hmarkup.cells, hmarkup.root, rfl, rfl, rfl⟩

end Arena

end Pinpoint
