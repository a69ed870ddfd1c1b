import Pinpoint.Proofs.Arena.Representation

/-! Markup that is inserted into an arena. The cells of its nodes come behind all that is there,
each under the number that the node has in the tree, and each child list is complete in the end. -/

namespace Pinpoint

namespace Arena

theorem insertAll_nil (parent : Option NodeId) (cells : List Cell) :
    insertAll parent cells [] = (cells, []) := by
  rw [insertAll]

theorem insertAll_cons (parent : Option NodeId) (cells : List Cell) (node : MarkupNode)
    (rest : List MarkupNode) :
    insertAll parent cells (node :: rest) =
      let grown := insert parent cells node
      let filled := insertAll parent grown.1 rest
      (filled.1, grown.2 :: filled.2) := by
  rw [insertAll]

theorem insertAll_text (parent : Option NodeId) (cells : List Cell) (content : String)
    (rest : List MarkupNode) :
    insertAll parent cells (.text content :: rest) =
      let filled := insertAll parent (cells ++ [⟨parent, [], true, .text content⟩]) rest
      (filled.1, cells.length :: filled.2) := by
  rw [insertAll_cons, insert]

theorem insertAll_element (parent : Option NodeId) (cells : List Cell) (tag : String)
    (attributes : Attributes) (children rest : List MarkupNode) :
    insertAll parent cells (.element ⟨tag, attributes, children⟩ :: rest) =
      let data := CellData.element (Text.lower tag) attributes.lower none
      let below := insertAll (some cells.length) (cells ++ [⟨parent, [], true, data⟩]) children
      let linked := below.1.modify cells.length fun cell => { cell with children := below.2 }
      let filled := insertAll parent linked rest
      (filled.1, cells.length :: filled.2) := by
  rw [insertAll_cons, insert]

/-- The list of children is put into the cell that was opened for it. -/
theorem modify_opened (cells filled : List Cell) (cell : Cell) (f : Cell → Cell) :
    (cells ++ [cell] ++ filled).modify cells.length f = cells ++ f cell :: filled := by
  induction cells with
  | nil => rfl
  | cons c cells ih => exact congrArg (c :: ·) ih

theorem length_placesAll_numberAll (above : List Element) (next : NodeId) (l : List MarkupNode) :
    (Node.placesAll above (MarkupNode.numberAll next l)).length = MarkupNode.sizeAll l := by
  rw [← List.length_map (f := Place.id), Node.map_id_placesAll, MarkupNode.ids_numberAll,
    List.length_range']

/-- What is inserted are the places of the numbered nodes, in document order. -/
theorem insertAll_eq (above : List Element) (cells : List Cell) (l : List MarkupNode) :
    insertAll (above.head?.map Element.id) cells l =
      let nodes := MarkupNode.numberAll cells.length l
      (cells ++ (Node.placesAll above nodes).map (·.cell true none), nodes.map Node.id) := by
  induction l using MarkupNode.forest_induction generalizing above cells with
  | nil => simp [insertAll_nil, MarkupNode.numberAll]
  | text content rest ih =>
    rw [insertAll_text, MarkupNode.numberAll, ih, List.length_append]
    simp [Place.cell, Node.childIds, Node.data, NodeData.painted, Node.id]
  | element tag attributes children rest ihc ihr =>
    let e : Element := ⟨cells.length, Text.lower tag, attributes.lower,
      MarkupNode.numberAll (cells.length + 1) children⟩
    let opened : Cell :=
      ⟨above.head?.map Element.id, [], true, .element (Text.lower tag) attributes.lower none⟩
    let below := (Node.placesAll (e :: above) e.children).map (·.cell true none)
    have hbelow : insertAll (some cells.length) (cells ++ [opened]) children =
        (cells ++ [opened] ++ below, e.children.map Node.id) := by
      have h := ihc (e :: above) (cells ++ [opened])
      rwa [List.length_append] at h
    have hself : Place.cell ⟨.element e, above⟩ true none = { opened with
        children := e.children.map Node.id } := rfl
    have hlength : (cells ++ Place.cell ⟨.element e, above⟩ true none :: below).length
        = cells.length + Markup.size ⟨tag, attributes, children⟩ := by
      rw [List.length_append, List.length_cons, List.length_map, length_placesAll_numberAll,
        Markup.size]
    have hrest := ihr above (cells ++ Place.cell ⟨.element e, above⟩ true none :: below)
    rw [hlength] at hrest
    rw [insertAll_element]
    dsimp only
    rw [hbelow]
    dsimp only
    rw [modify_opened, ← hself, hrest, MarkupNode.numberAll, Markup.number, Node.placesAll_element]
    simp only [List.map_cons, List.map_append, List.append_assoc, List.cons_append]
    rfl

theorem insert_eq (above : List Element) (cells : List Cell) (markup : Markup) :
    insert (above.head?.map Element.id) cells (.element markup) =
      (cells ++ (Node.placesAll above [.element (markup.number cells.length)]).map
        (·.cell true none), cells.length) := by
  have h := insertAll_eq above cells [.element markup]
  rw [insertAll_cons] at h
  dsimp only at h
  rw [insertAll_nil, MarkupNode.numberAll, MarkupNode.numberAll] at h
  obtain ⟨hcells, hids⟩ := Prod.mk.inj h
  refine Prod.ext hcells ((List.cons.inj hids).1.trans ?_)
  rw [Node.id, Document.id_number]

theorem getElem?_inserted {cells : List Cell} {places : List Place} (f : Place → Cell)
    (hids : places.map Place.id = List.range' cells.length places.length) {p : Place}
    (hp : p ∈ places) : (cells ++ places.map f)[p.id]? = some (f p) := by
  obtain ⟨i, hi, rfl⟩ := List.getElem_of_mem hp
  have hid : (places.map Place.id)[i]? = some (cells.length + i) := by
    rw [hids, List.getElem?_range' hi, Nat.one_mul]
  rw [List.getElem?_map, List.getElem?_eq_getElem hi, Option.map_some, Option.some.injEq] at hid
  rw [hid, List.getElem?_append_right (Nat.le_add_right _ _), Nat.add_sub_cancel_left,
    List.getElem?_map, List.getElem?_eq_getElem hi, Option.map_some]

structure Inserted (old new : List Cell) (above : List Element) (markup : Markup) : Prop where
  length : new.length = old.length + markup.size
  kept : ∀ n < old.length, new[n]? = old[n]?
  added : ∀ p ∈ Node.placesAll above [.element (markup.number old.length)],
    new[p.id]? = some (p.cell true none)

theorem inserted_insert (above : List Element) (cells : List Cell) (markup : Markup) :
    ∃ new, insert (above.head?.map Element.id) cells (.element markup) = (new, cells.length) ∧
      Inserted cells new above markup := by
  have hids : (Node.placesAll above [.element (markup.number cells.length)]).map Place.id
      = List.range' cells.length markup.size := by
    rw [Node.map_id_placesAll, Document.ids_number]
  have hlength : (Node.placesAll above [.element (markup.number cells.length)]).length
      = markup.size := by
    rw [← List.length_map (f := Place.id), hids, List.length_range']
  refine ⟨_, insert_eq above cells markup, ?_, fun n hn => List.getElem?_append_left hn,
    fun p hp => getElem?_inserted _ (hlength ▸ hids) hp⟩
  rw [List.length_append, List.length_map, hlength]

theorem represents_ofMarkup (markup : Markup) :
    (ofMarkup markup).Represents (Document.ofMarkup markup) := by
  have hd := Document.sound_of_initial (.markup markup)
  have hplaces : (Document.ofMarkup markup).places
      = Node.placesAll [] [.element (markup.number 0)] := Document.places_eq _
  have hattached : (Document.ofMarkup markup).attachedPlaces
      = Node.placesAll [] [.element (markup.number 0)] := Document.attachedPlaces_eq _
  have hroot : (Document.ofMarkup markup).root.id = 0 := Document.id_number markup 0
  obtain ⟨cells, hinsert, hlength, -, hadded⟩ := inserted_insert [] [] markup
  rw [List.head?_nil, Option.map_none] at hinsert
  rw [ofMarkup, hinsert]
  refine ⟨fun n => ?_, congrArg some hroot.symm, rfl, rfl, rfl⟩
  cases hp : (Document.ofMarkup markup).place? n with
  | none =>
    have hout : ¬ n < (Document.ofMarkup markup).size := by
      rw [← hd.place?_isSome_iff, hp]
      exact Bool.false_ne_true
    rw [Document.cell?, hp, Option.map_none, List.getElem?_eq_none_iff, hlength, List.length_nil,
      Nat.zero_add]
    exact Nat.not_lt.mp hout
  | some p =>
    obtain ⟨hmem, rfl⟩ := Document.place_of_place? hp
    rw [hd.cell?_of_place hmem, Document.isAttached_of_place (hattached ▸ hplaces ▸ hmem)]
    exact hadded p (hplaces ▸ hmem)

end Arena

end Pinpoint
