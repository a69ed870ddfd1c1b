import Pinpoint.Proofs.Document.Persistence

/-! Numbers in the order of birth. The nodes of a document have the numbers below its size, each of
them once, and every child came after its parent; no edit changes that, and the focus stays on an
element. -/

namespace Pinpoint

theorem Element.id_without (id : NodeId) (e : Element) : (e.without id).id = e.id := by
  cases e
  rw [without]

namespace Node

inductive Rising : List Node → Prop where
  | nil : Rising []
  | text {id : NodeId} {content : String} {rest : List Node} :
    Rising rest → Rising (.text id content :: rest)
  | element {e : Element} {rest : List Node} :
    (∀ c ∈ e.children, e.id < c.id) → Rising e.children → Rising rest → Rising (.element e :: rest)

theorem Rising.append {l m : List Node} (hl : Rising l) (hm : Rising m) : Rising (l ++ m) := by
  induction hl with
  | nil => exact hm
  | text _ ih => exact .text ih
  | element hbelow hchildren _ _ ih => exact .element hbelow hchildren ih

theorem Rising.at_place {l : List Node} (h : Rising l) {above : List Element} {p : Place}
    (hp : p ∈ placesAll above l) : Rising [p.node] := by
  induction h generalizing above with
  | nil => simp at hp
  | text _ ih =>
    rw [placesAll_text, List.mem_cons] at hp
    rcases hp with rfl | hp
    · exact .text .nil
    · exact ih hp
  | @element e rest hbelow hchildren _ ihc ihr =>
    obtain ⟨id, tag, attributes, children⟩ := e
    rw [placesAll_element, List.mem_cons, List.mem_append] at hp
    rcases hp with rfl | hp | hp
    · exact .element hbelow hchildren .nil
    · exact ihc hp
    · exact ihr hp

theorem Rising.child_gt {l : List Node} (h : Rising l) {above rest : List Element} {e : Element}
    (he : ⟨.element e, rest⟩ ∈ placesAll above l) {c : Node} (hc : c ∈ e.children) :
    e.id < c.id := by
  cases h.at_place he with
  | element hbelow _ _ => exact hbelow c hc

theorem map_id_updateAll {id : NodeId} {f : Element → Element} (hf : ∀ e, (f e).id = e.id)
    (l : List Node) : (updateAll id f l).map Node.id = l.map Node.id := by
  induction l with
  | nil => rw [updateAll]
  | cons n l ih =>
    cases n with
    | text i content => rw [updateAll, List.map_cons, List.map_cons, ih]
    | element e =>
      have hid : (e.update id f).id = e.id := by
        obtain ⟨i, tag, attributes, children⟩ := e
        rw [Element.update]
        split
        · exact hf _
        · rfl
      rw [updateAll, List.map_cons, List.map_cons, ih]
      exact congrArg (· :: _) hid

/-- An update keeps the order if it does so at the element that it is for. -/
theorem Rising.updateAll {id : NodeId} {f : Element → Element} (hid : ∀ e, (f e).id = e.id)
    (hf : ∀ e, e.id = id → Rising [.element e] → Rising [.element (f e)]) {l : List Node}
    (h : Rising l) : Rising (updateAll id f l) := by
  induction h with
  | nil =>
    rw [Node.updateAll]
    exact .nil
  | text _ ih =>
    rw [Node.updateAll]
    exact .text ih
  | @element e rest hbelow hchildren _ ihc ihr =>
    obtain ⟨i, tag, attributes, children⟩ := e
    rw [Node.updateAll, Element.update]
    by_cases hi : i = id
    · rw [if_pos hi]
      exact (hf _ hi (.element hbelow hchildren .nil)).append ihr
    · rw [if_neg hi]
      refine .element (fun c hc => ?_) ihc ihr
      have hc' : c.id ∈ children.map Node.id :=
        map_id_updateAll hid children ▸ List.mem_map_of_mem hc
      obtain ⟨c', hmem, heq⟩ := List.mem_map.mp hc'
      exact heq ▸ hbelow c' hmem

/-- The children that are left are all but the node that goes. -/
theorem map_id_withoutAll (id : NodeId) (l : List Node) :
    (withoutAll id l).map Node.id = (l.map Node.id).filter (· != id) := by
  induction l with
  | nil => rw [withoutAll, List.map_nil, List.filter_nil]
  | cons n l ih =>
    cases n with
    | text i content =>
      by_cases hi : i = id
      · rw [withoutAll, if_pos hi, ih, List.map_cons, Node.id,
          List.filter_cons_of_neg (by simpa using hi)]
      · rw [withoutAll, if_neg hi, List.map_cons, ih, List.map_cons, Node.id,
          List.filter_cons_of_pos (by simpa using hi)]
    | element e =>
      by_cases hi : e.id = id
      · rw [withoutAll, if_pos hi, ih, List.map_cons, Node.id,
          List.filter_cons_of_neg (by simpa using hi)]
      · rw [withoutAll, if_neg hi, List.map_cons, ih, List.map_cons, Node.id, Node.id,
          Element.id_without, List.filter_cons_of_pos (by simpa using hi)]

theorem Rising.withoutAll (id : NodeId) {l : List Node} (h : Rising l) :
    Rising (withoutAll id l) := by
  induction h with
  | nil =>
    rw [Node.withoutAll]
    exact .nil
  | text _ ih =>
    rw [Node.withoutAll]
    split
    · exact ih
    · exact .text ih
  | @element e rest hbelow hchildren _ ihc ihr =>
    obtain ⟨i, tag, attributes, children⟩ := e
    rw [Node.withoutAll]
    split
    · exact ihr
    · rw [Element.without]
      refine .element (fun c hc => ?_) ihc ihr
      have hc' := List.mem_map_of_mem (f := Node.id) hc
      rw [map_id_withoutAll] at hc'
      obtain ⟨c', hmem, heq⟩ := List.mem_map.mp (List.mem_of_mem_filter hc')
      exact heq ▸ hbelow c' hmem

end Node

theorem MarkupNode.rising_numberAll (next : Nat) (l : List MarkupNode) :
    Node.Rising (numberAll next l) := by
  induction l using MarkupNode.forest_induction generalizing next with
  | nil =>
    rw [numberAll]
    exact .nil
  | text content rest ih =>
    rw [numberAll]
    exact .text (ih _)
  | element tag attributes children rest ihc ihr =>
    rw [numberAll, Markup.number]
    refine .element (fun c hc => ?_) (ihc _) (ihr _)
    have hmem := (Node.map_id_sublist_ids _).subset (List.mem_map_of_mem hc)
    rw [ids_numberAll, List.mem_range'_1] at hmem
    exact hmem.1

namespace Document

variable {d : Document}

theorem rising_number (markup : Markup) (next : Nat) :
    Node.Rising [.element (markup.number next)] := by
  have h := MarkupNode.rising_numberAll next [.element markup]
  rwa [MarkupNode.numberAll, MarkupNode.numberAll] at h

theorem id_number (markup : Markup) (next : Nat) : (markup.number next).id = next := by
  obtain ⟨tag, attributes, children⟩ := markup
  rw [Markup.number]

structure Sound (d : Document) : Prop extends WellFormed d where
  numbers : (Node.ids d.forest).Perm (List.range d.size)
  rising : Node.Rising d.forest
  focus : ∀ n, d.active = some n → d.isElement n = true
  painted : d.OutlinesProper

theorem numbers_ofMarkup (markup : Markup) :
    (Node.ids (ofMarkup markup).forest).Perm (List.range (ofMarkup markup).size) := by
  change (Node.ids [.element (markup.number 0)]).Perm (List.range markup.size)
  rw [ids_number, List.range_eq_range']

theorem isElement_of_focus {id : Option NodeId} {n : NodeId}
    (h : (d.focus id).active = some n) : (d.focus id).isElement n = true :=
  (Option.filter_eq_some_iff.mp h).2

theorem sound_of_initial (h : d.Initial) : d.Sound := by
  have hw := wellFormed_of_initial h
  have ho := outlinesProper_of_initial h
  cases h with
  | markup m => exact ⟨hw, numbers_ofMarkup m, rising_number m 0, nofun, ho⟩
  | @fixture f _ h =>
    have hn := numbers_ofMarkup f.root
    have hr := rising_number f.root 0
    obtain ⟨id, rfl⟩ := eq_of_ofFixture h
    exact ⟨hw, hn, hr, fun _ hactive => isElement_of_focus hactive, ho⟩

theorem WellFormed.numbers_perform (h : d.WellFormed)
    (hn : (Node.ids d.forest).Perm (List.range d.size)) (e : Edit) :
    (Node.ids (d.perform e).forest).Perm (List.range (d.perform e).size) := by
  cases d.treeChange_perform e with
  | same hforest _ hsize => rwa [hforest, hsize]
  | rewritten hd => rwa [Node.ids, labels_setAttribute? hd, size_setAttribute? hd]
  | grown hd =>
    rw [size_append? hd, List.range_eq_range', ← List.range'_append_1, ← List.range_eq_range',
      Nat.zero_add]
    exact (h.ids_append? hd).trans (hn.append_right _)
  | cut _ hcut =>
    rw [hcut, size_detach]
    exact ((h.labels_detach _).map Prod.fst).trans hn

theorem WellFormed.rising_append? (h : d.WellFormed) (hr : Node.Rising d.forest)
    {parent : NodeId} {markup : Markup} {d' : Document}
    (hd : d.append? parent markup = some d') : Node.Rising d'.forest := by
  unfold Document.append? at hd
  split at hd
  · rename_i hparent
    cases hd
    change Node.Rising (d.update parent _).forest
    rw [forest_update]
    refine Node.Rising.updateAll (fun _ => ?_) (fun e hid he => ?_) hr
    · rfl
    cases he with
    | element hbelow hchildren hrest =>
      refine .element (fun c hc => ?_) (hchildren.append (rising_number markup d.size)) hrest
      rcases List.mem_append.mp hc with hc | hc
      · exact hbelow c hc
      · -- the new child has the number of the next node
        rw [List.mem_singleton.mp hc, Node.id, id_number]
        exact hid ▸ h.lt_size_of_isElement hparent
  · cases hd

theorem WellFormed.rising_perform (h : d.WellFormed) (hr : Node.Rising d.forest) (e : Edit) :
    Node.Rising (d.perform e).forest := by
  cases d.treeChange_perform e with
  | same hforest _ _ => rwa [hforest]
  | rewritten hd =>
    rw [eq_update_of_setAttribute? hd, forest_update]
    refine Node.Rising.updateAll (fun _ => ?_) (fun e _ he => ?_) hr
    · rfl
    cases he with
    | element hbelow hchildren hrest => exact .element hbelow hchildren hrest
  | grown hd => exact h.rising_append? hr hd
  | cut hplace hcut =>
    have hp := (place_of_place? hplace).1
    rw [places_eq] at hp
    rw [hcut, h.forest_detach hplace]
    exact (hr.withoutAll _).append (hr.at_place hp)

theorem active_perform {e : Edit} (he : ∀ id, e ≠ .focus id) : (d.perform e).active = d.active := by
  cases e with
  | setAttribute id name value =>
    simp only [Document.perform, setAttribute?]
    split <;> rfl
  | append parent markup =>
    simp only [Document.perform, append?]
    split <;> rfl
  | detach id =>
    simp only [Document.perform, detach]
    split <;> rfl
  | focus id => exact absurd rfl (he id)
  | setOutline id value =>
    simp only [Document.perform, setOutline?]
    split <;> rfl
  | withUrl url => rfl
  | withFrame host => rfl

theorem Sound.perform (h : d.Sound) (e : Edit) : (d.perform e).Sound where
  toWellFormed := h.toWellFormed.perform e
  numbers := h.numbers_perform h.numbers e
  rising := h.rising_perform h.rising e
  focus n hn := by
    by_cases he : ∃ id, e = .focus id
    · obtain ⟨id, rfl⟩ := he
      exact isElement_of_focus hn
    · rw [not_exists] at he
      rw [active_perform he] at hn
      exact (h.persists_perform e).isElement h.toWellFormed (h.toWellFormed.perform e)
        (h.focus n hn)
  painted := h.toWellFormed.outlinesProper_perform h.painted e

theorem Sound.run (h : d.Sound) (edits : List Edit) : (edits.foldl Document.perform d).Sound := by
  induction edits generalizing d with
  | nil => exact h
  | cons e edits ih => exact ih (h.perform e)

theorem Reachable.sound (h : d.Reachable) : d.Sound := by
  induction h with
  | start h _ => exact sound_of_initial h
  | edit e _ _ ih => exact ih.perform e

end Document

end Pinpoint
