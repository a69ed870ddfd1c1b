import Pinpoint.Proofs.Arena.Representation
import Pinpoint.Proofs.Document.Building

/-! Changes of what one cell holds. The document says of every other node what it said before, and
the focus leaves all cells alone. -/

namespace Pinpoint

namespace Document

variable {d d' : Document}

/-- What the documents say differs in one cell at most, which is given by `f`. -/
structure CellChange (d d' : Document) (n : NodeId) (f : Cell → Option Cell) : Prop where
  cells : ∀ i, d'.cell? i = if i = n then (d.cell? i).bind f else d.cell? i
  size : d'.size = d.size
  root : d'.root.id = d.root.id
  url : d'.url = d.url
  frame : d'.frame = d.frame
  active : d'.active = d.active

section Attribute

variable {id : NodeId} {name value : String}

/-- A change that leaves numbers and children alone shows in what a node holds and nowhere else. -/
theorem cell_map {φ : Element → Element} (hid : ∀ e, (φ e).id = e.id)
    (hchildren : ∀ e, (φ e).children.map Node.id = e.children.map Node.id) (p : Place)
    (attached : Bool) (outline : Option String) :
    (p.map φ).cell attached outline
      = { p.cell attached outline with data := (p.map φ).node.data.painted outline } := by
  obtain ⟨node, ancestors⟩ := p
  have hparent : (ancestors.map φ).head?.map Element.id = ancestors.head?.map Element.id := by
    cases ancestors with
    | nil => rfl
    | cons q rest => exact congrArg some (hid q)
  cases node with
  | text i content => simp only [Place.cell, Place.map, Node.map, Node.childIds, hparent]
  | element e => simp only [Place.cell, Place.map, Node.map, Node.childIds, hparent, hchildren]

theorem data_map_of_ne {f : Element → Element} {p : Place} (hp : p.id ≠ id) :
    (p.map (Element.update id f)).node.data = p.node.data := by
  obtain ⟨node, ancestors⟩ := p
  cases node with
  | text i content => rfl
  | element e =>
    change Node.data (.element (e.update id f)) = _
    rw [e.update_of_ne f hp]
    rfl

theorem data_map_of_id {f : Element → Element} {e : Element} {ancestors : List Element}
    (he : e.id = id) : (Place.map (Element.update id f) ⟨.element e, ancestors⟩).node.data
      = .element (f e).tag (f e).attributes := by
  change Node.data (.element (e.update id f)) = _
  rw [e.update_of_id f he]
  rfl

theorem isElement_of_setAttribute? (hd : d.setAttribute? id name value = some d') :
    d.isElement id = true := by
  unfold setAttribute? at hd
  split at hd
  · assumption
  · cases hd

theorem WellFormed.cell?_setAttribute? (h : d.WellFormed)
    (hd : d.setAttribute? id name value = some d') {n : NodeId} (hn : n < d.size) :
    d'.cell? n = if n = id then (d.cell? n).bind (·.setAttribute? name value) else d.cell? n := by
  have g := grown_setAttribute? hd
  have hchildren : ∀ e : Element, (e.update id fun e =>
      { e with attributes := e.attributes.insert name value }).children.map Node.id
        = e.children.map Node.id := by
    intro e
    by_cases hid : e.id = id
    · rw [Element.update_of_id _ hid]
    · rw [Element.update_of_ne _ hid]
      exact Node.map_id_updateAll g.change.id e.children
  have houtline : d'.outline = d.outline := by
    rw [eq_update_of_setAttribute? hd]
    rfl
  rw [cell?, cell?, g.place?_eq h hn, g.isAttached_eq h hn, houtline]
  cases hp : d.place? n with
  | none => split <;> rfl
  | some p =>
    obtain ⟨-, rfl⟩ := place_of_place? hp
    rw [Option.map_some, Option.map_some, Option.map_some, cell_map g.change.id_update hchildren]
    split
    · rename_i hid
      have helement := isElement_of_setAttribute? hd
      obtain ⟨node, ancestors⟩ := p
      cases node with
      | text i content =>
        rw [← hid, isElement, site?, hp] at helement
        cases helement
      | element e =>
        rw [data_map_of_id hid]
        rfl
    · rename_i hid
      rw [data_map_of_ne hid]
      rfl

theorem Sound.change_setAttribute? (h : d.Sound) (h' : d'.Sound)
    (hd : d.setAttribute? id name value = some d') :
    d.CellChange d' id (·.setAttribute? name value) where
  cells i := by
    by_cases hi : i < d.size
    · exact h.cell?_setAttribute? hd hi
    · have hle := Nat.not_lt.mp hi
      rw [h.cell?_eq_none hle, h'.cell?_eq_none ((size_setAttribute? hd).symm ▸ hle),
        Option.bind_none, ite_self]
  size := size_setAttribute? hd
  root := (grown_setAttribute? hd).root_id
  url := by rw [eq_update_of_setAttribute? hd, update]
  frame := by rw [eq_update_of_setAttribute? hd, update]
  active := by rw [eq_update_of_setAttribute? hd, update]

theorem bind_setAttribute?_eq_none {n : NodeId} (h : d.isElement n = false) :
    (d.cell? n).bind (·.setAttribute? name value) = none := by
  rw [isElement, site?] at h
  rw [cell?]
  cases hp : d.place? n with
  | none => rfl
  | some p =>
    obtain ⟨node, ancestors⟩ := p
    cases node with
    | text i content => rfl
    | element e =>
      rw [hp] at h
      cases h

end Attribute

section Outline

variable {id : NodeId} {value : String}

theorem bind_setOutline?_eq_none {n : NodeId} (h : (d.isAttached n && d.isElement n) = false) :
    (d.cell? n).bind (·.setOutline? value) = none := by
  rw [isElement, site?] at h
  rw [cell?]
  cases hp : d.place? n with
  | none => rfl
  | some p =>
    obtain ⟨node, ancestors⟩ := p
    cases hattached : d.isAttached n with
    | false => rfl
    | true =>
      cases node with
      | text i content => rfl
      | element e =>
        rw [hp, hattached] at h
        cases h

theorem cell?_of_trees (hroot : d'.root = d.root) (hdetached : d'.detached = d.detached)
    (n : NodeId) :
    d'.cell? n = (d.place? n).map fun p => p.cell (d.isAttached n) (d'.outline n) := by
  have hplace : d'.place? n = d.place? n := by
    rw [place?, place?, places, places, attachedPlaces, attachedPlaces, hroot, hdetached]
  have hattached : d'.isAttached n = d.isAttached n := by
    rw [isAttached, isAttached, attachedPlaces, attachedPlaces, hroot]
  rw [cell?, hplace, hattached]

theorem eq_of_setOutline? (hd : d.setOutline? id value = some d') :
    (d.isAttached id && d.isElement id) = true ∧ d' = { d with
      outline := fun i =>
        if i = id then if value = "" then none else some value else d.outline i } := by
  unfold setOutline? at hd
  split at hd
  · rename_i hpainted
    cases hd
    exact ⟨hpainted, rfl⟩
  · cases hd

theorem change_setOutline? (hd : d.setOutline? id value = some d') :
    d.CellChange d' id (·.setOutline? value) := by
  obtain ⟨hpainted, heq⟩ := eq_of_setOutline? hd
  have hroot : d'.root = d.root := by rw [heq]
  have hdetached : d'.detached = d.detached := by rw [heq]
  refine ⟨fun n => ?_, by rw [heq], by rw [heq], by rw [heq], by rw [heq], by rw [heq]⟩
  rw [cell?_of_trees hroot hdetached, cell?, heq]
  dsimp only
  by_cases hn : n = id
  · subst hn
    rw [Bool.and_eq_true, isElement, site?] at hpainted
    obtain ⟨hattached, helement⟩ := hpainted
    rw [if_pos rfl, if_pos rfl, hattached]
    cases hp : d.place? n with
    | none => rfl
    | some p =>
      obtain ⟨node, ancestors⟩ := p
      cases node with
      | text i content =>
        rw [hp] at helement
        cases helement
      | element e => rfl
  · rw [if_neg hn, if_neg hn]

end Outline

end Document

namespace Arena

variable {a : Arena} {d d' : Document}

theorem Represents.change (h : a.Represents d) (hd' : d'.Sound) {n : NodeId}
    {f : Cell → Option Cell} (c : d.CellChange d' n f) (hn : n < d.size) :
    ∃ cell, (a.cells[n]?).bind f = some cell ∧
      Represents { a with cells := a.cells.set n cell } d' := by
  obtain ⟨cell, hcell⟩ := hd'.exists_cell (c.size.symm ▸ hn)
  have hchanged := c.cells n
  rw [if_pos rfl, hcell, ← h.cells] at hchanged
  refine ⟨cell, hchanged.symm, fun i => ?_, h.root.trans (congrArg some c.root.symm),
    h.url.trans c.url.symm, h.frame.trans c.frame.symm, h.active.trans c.active.symm⟩
  have hlt : n < a.cells.length := by
    obtain ⟨old, hold, -⟩ := Option.bind_eq_some_iff.mp hchanged.symm
    exact (List.getElem?_eq_some_iff.mp hold).1
  dsimp only
  rw [List.getElem?_set]
  by_cases hi : n = i
  · rw [if_pos hi, if_pos hlt, ← hi, hcell]
  · rw [if_neg hi, h.cells, c.cells i, if_neg fun heq => hi heq.symm]

theorem Represents.setAttribute (h : a.Represents d) (hd : d.Sound) (n : NodeId)
    (name value : String) : (a.setAttribute n name value).1.Represents
      (d.perform (.setAttribute n name value)) := by
  have hperform := hd.perform (.setAttribute n name value)
  rw [Arena.setAttribute]
  rw [Document.perform] at hperform ⊢
  cases hset : d.setAttribute? n name value with
  | none =>
    have helement : d.isElement n = false := by
      rw [Bool.eq_false_iff]
      intro helement
      rw [Document.setAttribute?, if_pos helement] at hset
      cases hset
    rw [h.cells, Document.bind_setAttribute?_eq_none helement]
    exact h
  | some d' =>
    rw [hset] at hperform
    have hn := hd.lt_size_of_isElement (Document.isElement_of_setAttribute? hset)
    obtain ⟨cell, hcell, hrepresents⟩ :=
      h.change hperform (hd.change_setAttribute? hperform hset) hn
    rw [hcell]
    exact hrepresents

theorem Represents.setOutline (h : a.Represents d) (hd : d.Sound) (n : NodeId) (value : String) :
    (a.setOutline n value).1.Represents (d.perform (.setOutline n value)) := by
  have hperform := hd.perform (.setOutline n value)
  rw [Arena.setOutline]
  rw [Document.perform] at hperform ⊢
  cases hset : d.setOutline? n value with
  | none =>
    have hpaintable : (d.isAttached n && d.isElement n) = false := by
      rw [Bool.eq_false_iff]
      intro hpaintable
      rw [Document.setOutline?, if_pos hpaintable] at hset
      cases hset
    rw [h.cells, Document.bind_setOutline?_eq_none hpaintable]
    exact h
  | some d' =>
    rw [hset] at hperform
    have hpaintable := (Document.eq_of_setOutline? hset).1
    have hn := hd.lt_size_of_isElement (Bool.and_eq_true_iff.mp hpaintable).2
    obtain ⟨cell, hcell, hrepresents⟩ :=
      h.change hperform (Document.change_setOutline? hset) hn
    rw [hcell]
    exact hrepresents

theorem Represents.focus (h : a.Represents d) (n : Option NodeId) :
    (a.focus n).Represents (d.focus n) where
  cells := h.cells
  root := h.root
  url := h.url
  frame := h.frame
  active := by
    have helement : a.isElement = fun i => d.isElement i := funext h.isElement_eq
    change n.filter a.isElement = n.filter fun i => d.isElement i
    rw [helement]

end Arena

end Pinpoint
