import Pinpoint.Document.Fixture
import Pinpoint.Proofs.Document.Tree

/-! Documents as they come about: built from markup or a fixture, and then edited. Whatever the
edits, no two nodes have the same number and every tag is in lower case. -/

namespace Pinpoint

namespace Document

inductive Initial : Document → Prop where
  | markup (markup : Markup) : Initial (ofMarkup markup)
  | fixture {f : Fixture} {d : Document} : ofFixture f = .ok d → Initial d

/-- The number of a node is a 64-bit word, so no document grows beyond `wordBound` nodes. -/
inductive Reachable : Document → Prop where
  | start {d : Document} : Initial d → d.size ≤ Text.wordBound → Reachable d
  | edit {d : Document} (e : Edit) : Reachable d → (d.perform e).size ≤ Text.wordBound →
    Reachable (d.perform e)

def forest (d : Document) : List Node := .element d.root :: d.detached

structure WellFormed (d : Document) : Prop where
  distinct : (Node.ids d.forest).Nodup
  below_size : ∀ id ∈ Node.ids d.forest, id < d.size
  lower_tag : ∀ id tag, (id, some tag) ∈ Node.labels d.forest → Text.lower tag = tag

theorem places_eq (d : Document) : d.places = Node.placesAll [] d.forest := by
  rw [places, attachedPlaces, forest, Node.placesAll]

theorem attachedPlaces_subset (d : Document) : d.attachedPlaces ⊆ d.places :=
  List.subset_append_left _ _

theorem attachedPlaces_eq (d : Document) :
    d.attachedPlaces = Node.placesAll [] [.element d.root] := by
  rw [attachedPlaces, Node.placesAll, Node.placesAll_nil, List.append_nil]

theorem ids_attached_sublist (d : Document) :
    (d.attachedPlaces.map Place.id).Sublist (Node.ids d.forest) := by
  rw [← Node.map_id_placesAll [], ← places_eq]
  exact (List.sublist_append_left _ _).map _

section WellFormed

variable {d : Document}

theorem WellFormed.place_unique (h : d.WellFormed) {p q : Place} (hp : p ∈ d.places)
    (hq : q ∈ d.places) (hid : p.id = q.id) : p = q := by
  have hn := h.distinct
  rw [← Node.map_id_placesAll [], ← places_eq] at hn
  exact List.inj_on_of_nodup_map hn hp hq hid

theorem root_mem_attachedPlaces (d : Document) : ⟨.element d.root, []⟩ ∈ d.attachedPlaces := by
  rw [attachedPlaces]
  cases d.root
  rw [Element.places]
  exact List.mem_cons_self

theorem WellFormed.of_labels (h : d.WellFormed) {d' : Document}
    (hl : Node.labels d'.forest = Node.labels d.forest) (hs : d'.size = d.size) :
    d'.WellFormed := by
  obtain ⟨hn, hb, ht⟩ := h
  rw [← hs] at hb
  simp only [Node.ids, ← hl] at hn hb ht
  exact ⟨hn, hb, ht⟩

theorem forest_update (d : Document) (id : NodeId) (f : Element → Element) :
    (d.update id f).forest = Node.updateAll id f d.forest := by
  rw [forest, forest, Node.updateAll]
  rfl

theorem eq_update_of_setAttribute? {id : NodeId} {name value : String} {d' : Document}
    (hd : d.setAttribute? id name value = some d') :
    d' = d.update id fun e => { e with attributes := e.attributes.insert name value } := by
  unfold Document.setAttribute? at hd
  split at hd
  · cases hd
    rfl
  · cases hd

theorem labels_setAttribute? {id : NodeId} {name value : String} {d' : Document}
    (hd : d.setAttribute? id name value = some d') :
    Node.labels d'.forest = Node.labels d.forest := by
  rw [eq_update_of_setAttribute? hd, forest_update]
  exact Node.labels_updateAll_attributes id (fun a => a.insert name value) d.forest

theorem size_setAttribute? {id : NodeId} {name value : String} {d' : Document}
    (hd : d.setAttribute? id name value = some d') : d'.size = d.size := by
  rw [eq_update_of_setAttribute? hd]
  rfl

theorem WellFormed.setAttribute? (h : d.WellFormed) {id : NodeId} {name value : String}
    {d' : Document} (hd : d.setAttribute? id name value = some d') : d'.WellFormed :=
  h.of_labels (labels_setAttribute? hd) (size_setAttribute? hd)

theorem exists_element_place {id : NodeId} (h : d.isElement id = true) :
    ∃ p e, p ∈ d.places ∧ p.id = id ∧ p.node = .element e := by
  rw [isElement, Option.isSome_iff_exists] at h
  obtain ⟨s, hs⟩ := h
  obtain ⟨p, hp, hps⟩ := Option.bind_eq_some_iff.mp hs
  have hid : p.id = id := by simpa using List.find?_some hp
  refine ⟨p, s.element, List.mem_of_find?_eq_some hp, hid, ?_⟩
  unfold Place.site? at hps
  cases hn : p.node with
  | text i content => simp [hn, Node.element?] at hps
  | element e =>
    simp only [hn, Node.element?, Option.map_some, Option.some.injEq] at hps
    rw [← hps]

theorem ids_number (markup : Markup) (next : Nat) :
    Node.ids [.element (markup.number next)] = List.range' next markup.size := by
  have h := MarkupNode.ids_numberAll next [.element markup]
  rw [MarkupNode.numberAll, MarkupNode.numberAll, MarkupNode.sizeAll, MarkupNode.sizeAll,
    Nat.zero_add] at h
  exact h

theorem lower_of_mem_labels_number {markup : Markup} {next id : NodeId} {tag : String}
    (h : (id, some tag) ∈ Node.labels [.element (markup.number next)]) :
    Text.lower tag = tag := by
  have hl : MarkupNode.numberAll next [.element markup] = [.element (markup.number next)] := by
    rw [MarkupNode.numberAll, MarkupNode.numberAll]
  rw [← hl] at h
  exact MarkupNode.lower_of_mem_labels_numberAll h

/-- The labels gain those of the new nodes. -/
theorem WellFormed.labels_append? (h : d.WellFormed) {parent : NodeId} {markup : Markup}
    {d' : Document} (hd : d.append? parent markup = some d') :
    (Node.labels d'.forest).Perm
      (Node.labels d.forest ++ Node.labels [.element (markup.number d.size)]) := by
  unfold Document.append? at hd
  split at hd
  · rename_i hparent
    cases hd
    obtain ⟨p, e, hp, hid, he⟩ := exists_element_place hparent
    rw [places_eq] at hp
    have hlabels := Node.labels_updateAll_children [.element (markup.number d.size)]
      h.distinct hp hid he
    rwa [← forest_update] at hlabels
  · cases hd

/-- The new nodes get the numbers from the size on. -/
theorem WellFormed.ids_append? (h : d.WellFormed) {parent : NodeId} {markup : Markup}
    {d' : Document} (hd : d.append? parent markup = some d') :
    (Node.ids d'.forest).Perm (Node.ids d.forest ++ List.range' d.size markup.size) := by
  have hids := (h.labels_append? hd).map Prod.fst
  rw [List.map_append] at hids
  change (Node.ids _).Perm (Node.ids d.forest ++ Node.ids _) at hids
  rwa [ids_number] at hids

theorem size_append? {parent : NodeId} {markup : Markup} {d' : Document}
    (hd : d.append? parent markup = some d') : d'.size = d.size + markup.size := by
  unfold Document.append? at hd
  split at hd
  · cases hd
    rfl
  · cases hd

theorem WellFormed.append? (h : d.WellFormed) {parent : NodeId} {markup : Markup}
    {d' : Document} (hd : d.append? parent markup = some d') : d'.WellFormed := by
  have hlabels := h.labels_append? hd
  have hids := h.ids_append? hd
  refine ⟨?_, ?_, ?_⟩
  · refine hids.nodup_iff.mpr (List.nodup_append.mpr ⟨h.distinct, List.nodup_range', ?_⟩)
    rintro a ha b hb rfl
    exact absurd (h.below_size a ha) (Nat.not_lt.mpr (List.mem_range'_1.mp hb).1)
  · intro i hi
    rw [size_append? hd]
    rcases List.mem_append.mp (hids.mem_iff.mp hi) with hi | hi
    · exact Nat.lt_add_right _ (h.below_size i hi)
    · exact (List.mem_range'_1.mp hi).2
  · intro i tag hi
    rcases List.mem_append.mp (hlabels.mem_iff.mp hi) with hi | hi
    · exact h.lower_tag i tag hi
    · exact lower_of_mem_labels_number hi

theorem place_of_place? {id : NodeId} {p : Place} (h : d.place? id = some p) :
    p ∈ d.places ∧ p.id = id :=
  ⟨List.mem_of_find?_eq_some h, by simpa using List.find?_some h⟩

theorem WellFormed.root_ne_of_parent (h : d.WellFormed) {id : NodeId} {node : Node}
    {parent : Element} {rest : List Element}
    (hplace : d.place? id = some ⟨node, parent :: rest⟩) : d.root.id ≠ id := by
  intro hr
  obtain ⟨hp, hid⟩ := place_of_place? hplace
  have heq := h.place_unique hp (d.attachedPlaces_subset d.root_mem_attachedPlaces)
    (hid.trans hr.symm)
  cases heq

/-- The root has no parent, so it is never the node that goes. -/
theorem WellFormed.forest_detach (h : d.WellFormed) {id : NodeId} {node : Node} {parent : Element}
    {rest : List Element} (hplace : d.place? id = some ⟨node, parent :: rest⟩) :
    (d.detach id).forest = Node.withoutAll id d.forest ++ [node] := by
  rw [Document.detach, hplace, forest, forest, Node.withoutAll,
    if_neg (h.root_ne_of_parent hplace), List.cons_append]

theorem detach_eq_self {id : NodeId}
    (h : ¬ ∃ node parent rest, d.place? id = some ⟨node, parent :: rest⟩) : d.detach id = d := by
  unfold Document.detach
  split
  · rename_i node parent rest hplace
    exact absurd ⟨node, parent, rest, hplace⟩ h
  · rfl

/-- A node that is taken out of the tree keeps its label. -/
theorem WellFormed.labels_detach (h : d.WellFormed) (id : NodeId) :
    (Node.labels (d.detach id).forest).Perm (Node.labels d.forest) := by
  by_cases hplace : ∃ node parent rest, d.place? id = some ⟨node, parent :: rest⟩
  · obtain ⟨node, parent, rest, hplace⟩ := hplace
    obtain ⟨hp, hid⟩ := place_of_place? hplace
    rw [places_eq] at hp
    rw [h.forest_detach hplace, Node.labels_append]
    exact Node.labels_withoutAll h.distinct hp hid
  · rw [detach_eq_self hplace]

theorem size_detach (d : Document) (id : NodeId) : (d.detach id).size = d.size := by
  unfold Document.detach
  split <;> rfl

theorem WellFormed.detach (h : d.WellFormed) (id : NodeId) : (d.detach id).WellFormed := by
  have hlabels := h.labels_detach id
  have hids := hlabels.map Prod.fst
  refine ⟨hids.nodup_iff.mpr h.distinct, ?_, ?_⟩
  · intro i hi
    rw [size_detach]
    exact h.below_size i (hids.mem_iff.mp hi)
  · intro i tag hi
    exact h.lower_tag i tag (hlabels.mem_iff.mp hi)

theorem wellFormed_ofMarkup (markup : Markup) : (ofMarkup markup).WellFormed where
  distinct := by
    change (Node.ids [.element (markup.number 0)]).Nodup
    rw [ids_number]
    exact List.nodup_range'
  below_size id hid := by
    change id ∈ Node.ids [.element (markup.number 0)] at hid
    rw [ids_number, List.mem_range'_1, Nat.zero_add] at hid
    exact hid.2
  lower_tag id tag hid := lower_of_mem_labels_number hid

/-- A document from a fixture is the one from its markup, on its page and with the focus given. -/
theorem eq_of_ofFixture {f : Fixture} (h : ofFixture f = .ok d) :
    ∃ id, d = focus { ofMarkup f.root with url := f.url, frame := f.frame } id := by
  unfold ofFixture at h
  split at h
  · cases h
    exact ⟨none, rfl⟩
  · dsimp only at h
    split at h
    · cases h
    · cases h
    · cases h
      exact ⟨_, rfl⟩

theorem wellFormed_of_initial (h : d.Initial) : d.WellFormed := by
  cases h with
  | markup m => exact wellFormed_ofMarkup m
  | @fixture f _ h =>
    obtain ⟨id, rfl⟩ := eq_of_ofFixture h
    exact (wellFormed_ofMarkup f.root).of_labels rfl rfl

inductive TreeChange (d : Document) : Document → Prop where
  | same {d' : Document} : d'.forest = d.forest → d'.root = d.root → d'.size = d.size →
    TreeChange d d'
  | rewritten {id : NodeId} {name value : String} {d' : Document} :
    d.setAttribute? id name value = some d' → TreeChange d d'
  | grown {parent : NodeId} {markup : Markup} {d' : Document} :
    d.append? parent markup = some d' → TreeChange d d'
  | cut {id : NodeId} {node : Node} {parent : Element} {rest : List Element} {d' : Document} :
    d.place? id = some ⟨node, parent :: rest⟩ → d' = d.detach id → TreeChange d d'

theorem treeChange_perform (d : Document) (e : Edit) : d.TreeChange (d.perform e) := by
  have hself : d.TreeChange d := .same rfl rfl rfl
  cases e with
  | setAttribute id name value =>
    change d.TreeChange ((d.setAttribute? id name value).getD d)
    cases hd : d.setAttribute? id name value with
    | none => exact hself
    | some d' => exact .rewritten hd
  | append parent markup =>
    change d.TreeChange ((d.append? parent markup).getD d)
    cases hd : d.append? parent markup with
    | none => exact hself
    | some d' => exact .grown hd
  | detach id =>
    change d.TreeChange (d.detach id)
    by_cases hplace : ∃ node parent rest, d.place? id = some ⟨node, parent :: rest⟩
    · obtain ⟨node, parent, rest, hplace⟩ := hplace
      exact .cut hplace rfl
    · rw [detach_eq_self hplace]
      exact hself
  | focus id => exact .same rfl rfl rfl
  | setOutline id value =>
    simp only [Document.perform, setOutline?]
    split
    · exact .same rfl rfl rfl
    · exact hself
  | withUrl url => exact .same rfl rfl rfl
  | withFrame host => exact .same rfl rfl rfl

theorem WellFormed.perform (h : d.WellFormed) (e : Edit) : (d.perform e).WellFormed := by
  cases d.treeChange_perform e with
  | same hforest _ hsize => exact h.of_labels (by rw [hforest]) hsize
  | rewritten hd => exact h.setAttribute? hd
  | grown hd => exact h.append? hd
  | cut _ hcut => exact hcut ▸ h.detach _

theorem Reachable.wellFormed (h : d.Reachable) : d.WellFormed := by
  induction h with
  | start h _ => exact wellFormed_of_initial h
  | edit e _ _ ih => exact ih.perform e

theorem Reachable.size_le (h : d.Reachable) : d.size ≤ Text.wordBound := by
  cases h with
  | start _ h => exact h
  | edit _ _ h => exact h

end WellFormed

end Document

end Pinpoint
