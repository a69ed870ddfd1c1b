import Pinpoint.Document.Edit
import Pinpoint.Proofs.Text.Letters

/-! Trees as lists of nodes. The labels of a list of nodes are the numbers and tags of everything
in it, in document order; edits are described by what they do to the labels. -/

namespace Pinpoint

/-- A property of lists of nodes that passes from the children of an element and from the nodes
behind it to the whole list. -/
@[elab_as_elim]
theorem Node.forest_induction {motive : List Node → Prop} (nil : motive [])
    (text : ∀ id content rest, motive rest → motive (.text id content :: rest))
    (element : ∀ id tag attributes children rest, motive children → motive rest →
      motive (.element ⟨id, tag, attributes, children⟩ :: rest)) :
    ∀ l, motive l
  | [] => nil
  | .text id content :: rest =>
    text id content rest (Node.forest_induction nil text element rest)
  | .element ⟨id, tag, attributes, children⟩ :: rest =>
    element id tag attributes children rest (Node.forest_induction nil text element children)
      (Node.forest_induction nil text element rest)
termination_by l => sizeOf l

@[elab_as_elim]
theorem MarkupNode.forest_induction {motive : List MarkupNode → Prop} (nil : motive [])
    (text : ∀ content rest, motive rest → motive (.text content :: rest))
    (element : ∀ tag attributes children rest, motive children → motive rest →
      motive (.element ⟨tag, attributes, children⟩ :: rest)) :
    ∀ l, motive l
  | [] => nil
  | .text content :: rest =>
    text content rest (MarkupNode.forest_induction nil text element rest)
  | .element ⟨tag, attributes, children⟩ :: rest =>
    element tag attributes children rest (MarkupNode.forest_induction nil text element children)
      (MarkupNode.forest_induction nil text element rest)
termination_by l => sizeOf l

def Place.label (p : Place) : NodeId × Option String :=
  (p.id, p.node.element?.map Element.tag)

namespace Node

@[simp] theorem placesAll_nil (above : List Element) : placesAll above [] = [] := by
  rw [placesAll]

@[simp] theorem placesAll_text (above : List Element) (id : NodeId) (content : String)
    (rest : List Node) :
    placesAll above (.text id content :: rest)
      = ⟨.text id content, above⟩ :: placesAll above rest := by
  rw [placesAll]

@[simp] theorem placesAll_element (above : List Element) (id : NodeId) (tag : String)
    (attributes : Attributes) (children rest : List Node) :
    placesAll above (.element ⟨id, tag, attributes, children⟩ :: rest)
      = ⟨.element ⟨id, tag, attributes, children⟩, above⟩ ::
        (placesAll (⟨id, tag, attributes, children⟩ :: above) children ++
          placesAll above rest) := by
  rw [placesAll, Element.places, List.cons_append]

theorem placesAll_append (above : List Element) (l m : List Node) :
    placesAll above (l ++ m) = placesAll above l ++ placesAll above m := by
  induction l with
  | nil => simp
  | cons n l ih =>
    cases n with
    | text id content => simp [ih]
    | element e =>
      obtain ⟨id, tag, attributes, children⟩ := e
      simp [ih]

def labels (l : List Node) : List (NodeId × Option String) := (placesAll [] l).map Place.label

/-- What stands above a list of nodes does not show in its labels. -/
theorem map_label_placesAll (above : List Element) (l : List Node) :
    (placesAll above l).map Place.label = labels l := by
  suffices h : ∀ above above', (placesAll above l).map Place.label
      = (placesAll above' l).map Place.label from h above []
  induction l using Node.forest_induction with
  | nil => simp
  | text id content rest ih =>
    intro above above'
    simp [ih above above', Place.label, Place.id, Node.id, Node.element?]
  | element id tag attributes children rest ihc ihr =>
    intro above above'
    simp only [placesAll_element, List.map_cons, List.map_append, ihr above above',
      ihc (_ :: above) (⟨id, tag, attributes, children⟩ :: above')]
    rfl

@[simp] theorem labels_nil : labels [] = [] := rfl

@[simp] theorem labels_text (id : NodeId) (content : String) (rest : List Node) :
    labels (.text id content :: rest) = (id, none) :: labels rest := by
  simp [labels, Place.label, Place.id, Node.id, Node.element?]

@[simp] theorem labels_element (id : NodeId) (tag : String) (attributes : Attributes)
    (children rest : List Node) :
    labels (.element ⟨id, tag, attributes, children⟩ :: rest)
      = (id, some tag) :: (labels children ++ labels rest) := by
  rw [← map_label_placesAll [⟨id, tag, attributes, children⟩] children]
  simp [labels, Place.label, Place.id, Node.id, Node.element?]

theorem labels_append (l m : List Node) : labels (l ++ m) = labels l ++ labels m := by
  simp [labels, placesAll_append]

def ids (l : List Node) : List NodeId := (labels l).map Prod.fst

@[simp] theorem ids_nil : ids [] = [] := rfl

@[simp] theorem ids_text (id : NodeId) (content : String) (rest : List Node) :
    ids (.text id content :: rest) = id :: ids rest := by
  simp [ids]

@[simp] theorem ids_element (id : NodeId) (tag : String) (attributes : Attributes)
    (children rest : List Node) :
    ids (.element ⟨id, tag, attributes, children⟩ :: rest)
      = id :: (ids children ++ ids rest) := by
  simp [ids]

theorem map_id_placesAll (above : List Element) (l : List Node) :
    (placesAll above l).map Place.id = ids l := by
  rw [ids, ← map_label_placesAll above l, List.map_map]
  rfl

theorem id_mem_ids {above : List Element} {l : List Node} {p : Place}
    (h : p ∈ placesAll above l) : p.id ∈ ids l := by
  rw [← map_id_placesAll above l]
  exact List.mem_map_of_mem h

theorem map_id_sublist_ids (l : List Node) : (l.map Node.id).Sublist (ids l) := by
  induction l with
  | nil => exact .slnil
  | cons n l ih =>
    cases n with
    | text i content =>
      rw [ids_text]
      exact ih.cons_cons i
    | element e =>
      obtain ⟨i, tag, attributes, children⟩ := e
      rw [ids_element]
      exact (ih.trans (List.sublist_append_right _ _)).cons_cons i

/-- The numbers of a subtree are among those of the list, in the same order. -/
theorem ids_sublist_of_place {above : List Element} {l : List Node} {p : Place}
    (hp : p ∈ placesAll above l) : (ids [p.node]).Sublist (ids l) := by
  induction l using Node.forest_induction generalizing above with
  | nil => simp at hp
  | text id content more ih =>
    rw [placesAll_text, List.mem_cons] at hp
    rw [ids_text]
    rcases hp with rfl | hp
    · rw [ids_text, ids_nil]
      exact (List.nil_sublist _).cons_cons id
    · exact (ih hp).cons id
  | element id tag attributes children more ihc ihr =>
    rw [placesAll_element, List.mem_cons, List.mem_append] at hp
    rw [ids_element]
    rcases hp with rfl | hp | hp
    · rw [ids_element, ids_nil, List.append_nil]
      exact (List.sublist_append_left _ _).cons_cons id
    · exact ((ihc hp).trans (List.sublist_append_left _ _)).cons id
    · exact ((ihr hp).trans (List.sublist_append_right _ _)).cons id

theorem ids_children_sublist {above rest : List Element} {l : List Node} {e : Element}
    (he : ⟨.element e, rest⟩ ∈ placesAll above l) : (e.id :: ids e.children).Sublist (ids l) := by
  have h := ids_sublist_of_place he
  obtain ⟨id, tag, attributes, children⟩ := e
  rwa [ids_element, ids_nil, List.append_nil] at h

/-- A place is at the top of the list, or below an element that has a place there itself. -/
theorem mem_placesAll_cases {above : List Element} {l : List Node} {p : Place}
    (h : p ∈ placesAll above l) :
    (p.node ∈ l ∧ p.ancestors = above) ∨
      ∃ q rest, p.ancestors = q :: rest ∧ ⟨.element q, rest⟩ ∈ placesAll above l ∧
        p.node ∈ q.children := by
  induction l using Node.forest_induction generalizing above with
  | nil => simp at h
  | text id content rest ih =>
    rw [placesAll_text] at h ⊢
    rcases List.mem_cons.mp h with rfl | h
    · exact Or.inl ⟨List.mem_cons_self, rfl⟩
    rcases ih h with ⟨hn, ha⟩ | ⟨q, r, ha, hq, hn⟩
    · exact Or.inl ⟨List.mem_cons_of_mem _ hn, ha⟩
    · exact Or.inr ⟨q, r, ha, List.mem_cons_of_mem _ hq, hn⟩
  | element id tag attributes children rest ihc ihr =>
    rw [placesAll_element] at h ⊢
    rcases List.mem_cons.mp h with rfl | h
    · exact Or.inl ⟨List.mem_cons_self, rfl⟩
    rcases List.mem_append.mp h with h | h
    · right
      rcases ihc h with ⟨hn, ha⟩ | ⟨q, r, ha, hq, hn⟩
      · exact ⟨_, above, ha, List.mem_cons_self, hn⟩
      · exact ⟨q, r, ha, List.mem_cons_of_mem _ (List.mem_append_left _ hq), hn⟩
    · rcases ihr h with ⟨hn, ha⟩ | ⟨q, r, ha, hq, hn⟩
      · exact Or.inl ⟨List.mem_cons_of_mem _ hn, ha⟩
      · exact Or.inr ⟨q, r, ha, List.mem_cons_of_mem _ (List.mem_append_right _ hq), hn⟩

/-! Edits -/

theorem updateAll_eq_self {id : NodeId} (f : Element → Element) {l : List Node}
    (h : id ∉ ids l) : updateAll id f l = l := by
  induction l using Node.forest_induction with
  | nil => rw [updateAll]
  | text i content rest ih =>
    rw [ids_text, List.mem_cons, not_or] at h
    rw [updateAll, ih h.2]
  | element i tag attributes children rest ihc ihr =>
    rw [ids_element, List.mem_cons, List.mem_append, not_or, not_or] at h
    rw [updateAll, Element.update, if_neg (Ne.symm h.1), ihc h.2.1, ihr h.2.2]

theorem withoutAll_eq_self {id : NodeId} {l : List Node} (h : id ∉ ids l) :
    withoutAll id l = l := by
  induction l using Node.forest_induction with
  | nil => rw [withoutAll]
  | text i content rest ih =>
    rw [ids_text, List.mem_cons, not_or] at h
    rw [withoutAll, if_neg (Ne.symm h.1), ih h.2]
  | element i tag attributes children rest ihc ihr =>
    rw [ids_element, List.mem_cons, List.mem_append, not_or, not_or] at h
    rw [withoutAll, if_neg (Ne.symm h.1), Element.without, ihc h.2.1, ihr h.2.2]

theorem labels_updateAll_attributes (id : NodeId) (g : Attributes → Attributes)
    (l : List Node) :
    labels (updateAll id (fun e => { e with attributes := g e.attributes }) l) = labels l := by
  induction l using Node.forest_induction with
  | nil => rw [updateAll]
  | text i content rest ih => rw [updateAll, labels_text, labels_text, ih]
  | element i tag attributes children rest ihc ihr =>
    rw [updateAll, Element.update]
    split
    · rw [labels_element, labels_element, ihr]
    · rw [labels_element, labels_element, ihc, ihr]

/-- New children of one element: the labels gain those of the new nodes. -/
theorem labels_updateAll_children {id : NodeId} (new : List Node) {above : List Element}
    {l : List Node} {p : Place} {e : Element} (hl : (ids l).Nodup)
    (hp : p ∈ placesAll above l) (hid : p.id = id) (he : p.node = .element e) :
    (labels (updateAll id (fun e => { e with children := e.children ++ new }) l)).Perm
      (labels l ++ labels new) := by
  induction l using Node.forest_induction generalizing above with
  | nil => simp at hp
  | text i content rest ih =>
    rw [placesAll_text, List.mem_cons] at hp
    rw [ids_text, List.nodup_cons] at hl
    rcases hp with rfl | hp
    · cases he
    rw [updateAll, labels_text, labels_text, List.cons_append]
    exact (ih hl.2 hp).cons _
  | element i tag attributes children rest ihc ihr =>
    rw [placesAll_element, List.mem_cons, List.mem_append] at hp
    rw [ids_element, List.nodup_cons, List.nodup_append, List.mem_append, not_or] at hl
    obtain ⟨⟨hic, hir⟩, hc, hr, hdisjoint⟩ := hl
    rw [updateAll, Element.update, labels_element]
    rcases hp with rfl | hp | hp
    · -- the element itself: nothing else has its number
      have hi : i = id := hid
      subst hi
      rw [if_pos rfl, labels_element, updateAll_eq_self _ hir, labels_append]
      simp only [List.cons_append, List.append_assoc]
      exact (List.perm_append_comm.append_left _).cons _
    · have hmem := hid ▸ id_mem_ids hp
      have hne : i ≠ id := fun h => hic (h ▸ hmem)
      have hrest : id ∉ ids rest := fun h => hdisjoint _ hmem _ h rfl
      rw [if_neg hne, labels_element, updateAll_eq_self _ hrest]
      simp only [List.cons_append, List.append_assoc]
      refine List.Perm.cons _ (((ihc hc hp).append_right _).trans ?_)
      rw [List.append_assoc]
      exact List.perm_append_comm.append_left _
    · have hmem := hid ▸ id_mem_ids hp
      have hne : i ≠ id := fun h => hir (h ▸ hmem)
      have hchildren : id ∉ ids children := fun h => hdisjoint _ h _ hmem rfl
      rw [if_neg hne, labels_element, updateAll_eq_self _ hchildren]
      simp only [List.cons_append, List.append_assoc]
      exact ((ihr hr hp).append_left _).cons _

theorem ids_updateAll_children_subset (id : NodeId) (new l : List Node) :
    ids (updateAll id (fun e => { e with children := e.children ++ new }) l)
      ⊆ ids l ++ ids new := by
  intro j hj
  induction l using Node.forest_induction with
  | nil => simp [updateAll] at hj
  | text i content rest ih =>
    rw [updateAll, ids_text, List.mem_cons] at hj
    rw [ids_text, List.cons_append, List.mem_cons]
    exact hj.imp_right ih
  | element i tag attributes children rest ihc ihr =>
    have happend : ids (children ++ new) = ids children ++ ids new := by
      rw [ids, labels_append, List.map_append, ids, ids]
    rw [updateAll, Element.update] at hj
    rw [ids_element]
    split at hj
    · rw [ids_element, happend] at hj
      simp only [List.mem_cons, List.mem_append] at hj ihr ⊢
      tauto
    · rw [ids_element] at hj
      simp only [List.mem_cons, List.mem_append] at hj ihc ihr ⊢
      tauto

/-- Taking a subtree out: the labels are those of what stays and those of the subtree. -/
theorem labels_withoutAll {id : NodeId} {above : List Element} {l : List Node} {p : Place}
    (hl : (ids l).Nodup) (hp : p ∈ placesAll above l) (hid : p.id = id) :
    (labels (withoutAll id l) ++ labels [p.node]).Perm (labels l) := by
  induction l using Node.forest_induction generalizing above with
  | nil => simp at hp
  | text i content rest ih =>
    rw [placesAll_text, List.mem_cons] at hp
    rw [ids_text, List.nodup_cons] at hl
    rw [withoutAll, labels_text]
    rcases hp with rfl | hp
    · have hi : i = id := hid
      subst hi
      rw [if_pos rfl, withoutAll_eq_self hl.1, labels_text, labels_nil]
      exact List.perm_append_comm
    · have hne : i ≠ id := fun h => hl.1 (h ▸ hid ▸ id_mem_ids hp)
      rw [if_neg hne, labels_text, List.cons_append]
      exact (ih hl.2 hp).cons _
  | element i tag attributes children rest ihc ihr =>
    rw [placesAll_element, List.mem_cons, List.mem_append] at hp
    rw [ids_element, List.nodup_cons, List.nodup_append, List.mem_append, not_or] at hl
    obtain ⟨⟨hic, hir⟩, hc, hr, hdisjoint⟩ := hl
    rw [withoutAll, labels_element]
    rcases hp with rfl | hp | hp
    · have hi : i = id := hid
      subst hi
      rw [if_pos rfl, withoutAll_eq_self hir, labels_element, labels_nil, List.append_nil,
        ← List.cons_append]
      exact List.perm_append_comm
    · have hmem := hid ▸ id_mem_ids hp
      have hne : i ≠ id := fun h => hic (h ▸ hmem)
      have hrest : id ∉ ids rest := fun h => hdisjoint _ hmem _ h rfl
      rw [if_neg hne, Element.without, labels_element, withoutAll_eq_self hrest]
      simp only [List.cons_append, List.append_assoc]
      refine List.Perm.cons _ (.trans ?_ ((ihc hc hp).append_right _))
      rw [List.append_assoc]
      exact List.perm_append_comm.append_left _
    · have hmem := hid ▸ id_mem_ids hp
      have hne : i ≠ id := fun h => hir (h ▸ hmem)
      have hchildren : id ∉ ids children := fun h => hdisjoint _ h _ hmem rfl
      rw [if_neg hne, Element.without, labels_element, withoutAll_eq_self hchildren]
      simp only [List.cons_append, List.append_assoc]
      exact ((ihr hr hp).append_left _).cons _

theorem ids_withoutAll_subset (id : NodeId) (l : List Node) : ids (withoutAll id l) ⊆ ids l := by
  intro j hj
  induction l using Node.forest_induction with
  | nil => simp [withoutAll] at hj
  | text i content rest ih =>
    rw [withoutAll] at hj
    rw [ids_text, List.mem_cons]
    split at hj
    · exact .inr (ih hj)
    · rw [ids_text, List.mem_cons] at hj
      exact hj.imp_right ih
  | element i tag attributes children rest ihc ihr =>
    rw [withoutAll] at hj
    rw [ids_element, List.mem_cons, List.mem_append]
    split at hj
    · exact .inr (.inr (ihr hj))
    · rw [Element.without, ids_element, List.mem_cons, List.mem_append] at hj
      exact hj.imp_right (Or.imp ihc ihr)

theorem ids_without_subset (id : NodeId) (e : Element) :
    ids [.element (e.without id)] ⊆ ids [.element e] := by
  obtain ⟨i, tag, attributes, children⟩ := e
  intro j hj
  rw [Element.without, ids_element, List.mem_cons, List.mem_append] at hj
  rw [ids_element, List.mem_cons, List.mem_append]
  exact hj.imp_right (Or.imp_left fun h => ids_withoutAll_subset id children h)

end Node

namespace MarkupNode

@[simp] theorem sizeAll_nil : sizeAll [] = 0 := by rw [sizeAll]

@[simp] theorem sizeAll_text (content : String) (rest : List MarkupNode) :
    sizeAll (.text content :: rest) = sizeAll rest + 1 := by
  rw [sizeAll]

@[simp] theorem sizeAll_element (tag : String) (attributes : Attributes)
    (children rest : List MarkupNode) :
    sizeAll (.element ⟨tag, attributes, children⟩ :: rest)
      = sizeAll rest + (sizeAll children + 1) := by
  rw [sizeAll, Markup.size]

/-- Markup takes consecutive numbers. -/
theorem ids_numberAll (next : Nat) (l : List MarkupNode) :
    Node.ids (numberAll next l) = List.range' next (sizeAll l) := by
  induction l using MarkupNode.forest_induction generalizing next with
  | nil => rw [numberAll, sizeAll_nil, Node.ids_nil, List.range'_zero]
  | text content rest ih =>
    rw [numberAll, Node.ids_text, ih, sizeAll_text, List.range'_succ]
  | element tag attributes children rest ihc ihr =>
    rw [numberAll, Markup.number, Node.ids_element, ihc, ihr, sizeAll_element, Markup.size,
      show next + (sizeAll children + 1) = next + 1 + sizeAll children by omega,
      List.range'_append_1, ← List.range'_succ,
      show sizeAll children + sizeAll rest + 1 = sizeAll rest + (sizeAll children + 1) by omega]

theorem lower_of_mem_labels_numberAll {next : NodeId} {l : List MarkupNode} {id : NodeId}
    {tag : String} (h : (id, some tag) ∈ Node.labels (numberAll next l)) :
    Text.lower tag = tag := by
  induction l using MarkupNode.forest_induction generalizing next with
  | nil => simp [numberAll] at h
  | text content rest ih =>
    rw [numberAll, Node.labels_text, List.mem_cons] at h
    rcases h with h | h
    · cases h
    · exact ih h
  | element tag attributes children rest ihc ihr =>
    rw [numberAll, Markup.number, Node.labels_element, List.mem_cons, List.mem_append] at h
    rcases h with h | h | h
    · cases h
      exact Text.lower_lower _
    · exact ihc h
    · exact ihr h

end MarkupNode

end Pinpoint
