import Pinpoint.Proofs.Document.Site

/-! What edits leave alone. Elements stay elements, a node that is out of the tree never comes back
into it, and only painting touches an outline. -/

namespace Pinpoint

namespace Document

variable {d : Document}

theorem WellFormed.place?_eq (h : d.WellFormed) {p : Place} (hp : p ∈ d.places) :
    d.place? p.id = some p := by
  have hsome : (d.place? p.id).isSome = true := by
    rw [place?, List.find?_isSome]
    exact ⟨p, hp, by simp⟩
  obtain ⟨q, hq⟩ := Option.isSome_iff_exists.mp hsome
  have hid : q.id = p.id := by simpa using List.find?_some hq
  rw [hq, h.place_unique (List.mem_of_find?_eq_some hq) hp hid]

theorem WellFormed.isElement_iff (h : d.WellFormed) {id : NodeId} :
    d.isElement id = true ↔ ∃ tag, (id, some tag) ∈ Node.labels d.forest := by
  rw [← Node.map_label_placesAll [], ← places_eq]
  constructor
  · intro he
    obtain ⟨p, e, hp, hid, hn⟩ := exists_element_place he
    refine ⟨e.tag, List.mem_map.mpr ⟨p, hp, ?_⟩⟩
    rw [Place.label, hid, hn]
    rfl
  · rintro ⟨tag, ht⟩
    obtain ⟨p, hp, hlabel⟩ := List.mem_map.mp ht
    obtain ⟨hid, htag⟩ := Prod.mk.inj hlabel
    obtain ⟨e, he, -⟩ := Option.map_eq_some_iff.mp htag
    rw [isElement, site?, ← hid, h.place?_eq hp, Option.bind_some, Place.site?, he]
    rfl

theorem isAttached_iff {id : NodeId} :
    d.isAttached id = true ↔ id ∈ Node.ids [.element d.root] := by
  rw [isAttached, List.any_eq_true, attachedPlaces_eq, ← Node.map_id_placesAll [], List.mem_map]
  simp only [decide_eq_true_eq]

theorem WellFormed.lt_size_of_isElement (h : d.WellFormed) {id : NodeId}
    (he : d.isElement id = true) : id < d.size := by
  obtain ⟨tag, ht⟩ := h.isElement_iff.mp he
  exact h.below_size id (List.mem_map.mpr ⟨_, ht, rfl⟩)

/-- What every edit keeps. Numbers from `size` on belong to nodes that are still to come. -/
structure Persists (d d' : Document) : Prop where
  size_le : d.size ≤ d'.size
  labels : Node.labels d.forest ⊆ Node.labels d'.forest
  attached : ∀ id, d'.isAttached id = true → d.isAttached id = true ∨ d.size ≤ id

theorem Persists.of_trees {d' : Document} (hf : d'.forest = d.forest) (hr : d'.root = d.root)
    (hs : d'.size = d.size) : d.Persists d' where
  size_le := hs.ge
  labels := by
    rw [hf]
    exact List.Subset.refl _
  attached id ha := by
    rw [isAttached_iff, hr] at ha
    exact .inl (isAttached_iff.mpr ha)

theorem persists_setAttribute? {id : NodeId} {name value : String} {d' : Document}
    (hd : d.setAttribute? id name value = some d') : d.Persists d' where
  size_le := (size_setAttribute? hd).ge
  labels := by
    rw [labels_setAttribute? hd]
    exact List.Subset.refl _
  attached other ha := by
    have hroot := Node.labels_updateAll_attributes id (fun a => a.insert name value)
      [.element d.root]
    rw [Node.updateAll, Node.updateAll] at hroot
    rw [eq_update_of_setAttribute? hd, isAttached_iff, Node.ids] at ha
    rw [isAttached_iff, Node.ids, ← hroot]
    exact .inl ha

theorem WellFormed.persists_append? (h : d.WellFormed) {parent : NodeId} {markup : Markup}
    {d' : Document} (hd : d.append? parent markup = some d') : d.Persists d' where
  size_le := by
    rw [size_append? hd]
    exact Nat.le_add_right _ _
  labels := fun _ hl => (h.labels_append? hd).mem_iff.mpr (List.mem_append_left _ hl)
  attached id ha := by
    unfold Document.append? at hd
    split at hd
    · cases hd
      have hsub := Node.ids_updateAll_children_subset parent [.element (markup.number d.size)]
        [.element d.root]
      rw [Node.updateAll, Node.updateAll, ids_number] at hsub
      rw [isAttached_iff] at ha ⊢
      exact (List.mem_append.mp (hsub ha)).imp_right fun hn => (List.mem_range'_1.mp hn).1
    · cases hd

theorem WellFormed.persists_detach (h : d.WellFormed) (id : NodeId) : d.Persists (d.detach id) where
  size_le := (d.size_detach id).ge
  labels := fun _ hl => (h.labels_detach id).mem_iff.mpr hl
  attached other ha := by
    left
    unfold Document.detach at ha
    split at ha
    · rw [isAttached_iff] at ha ⊢
      exact Node.ids_without_subset id d.root ha
    · exact ha

theorem WellFormed.persists_perform (h : d.WellFormed) (e : Edit) : d.Persists (d.perform e) := by
  cases d.treeChange_perform e with
  | same hforest hroot hsize => exact .of_trees hforest hroot hsize
  | rewritten hd => exact persists_setAttribute? hd
  | grown hd => exact h.persists_append? hd
  | cut _ hcut => exact hcut ▸ h.persists_detach _

theorem Persists.isElement {d' : Document} (hp : d.Persists d') (h : d.WellFormed)
    (h' : d'.WellFormed) {id : NodeId} (he : d.isElement id = true) : d'.isElement id = true := by
  obtain ⟨tag, ht⟩ := h.isElement_iff.mp he
  exact h'.isElement_iff.mpr ⟨tag, hp.labels ht⟩

theorem outline_of_initial (h : d.Initial) : d.outline = fun _ => none := by
  cases h with
  | markup m => rfl
  | fixture h =>
    obtain ⟨id, rfl⟩ := eq_of_ofFixture h
    rfl

/-- An edit that is no painting leaves every outline as it is. -/
theorem outline_perform {e : Edit} (he : ∀ id value, e ≠ .setOutline id value) :
    (d.perform e).outline = d.outline := by
  cases e with
  | setAttribute id name value =>
    simp only [Document.perform, setAttribute?]
    split <;> rfl
  | append parent markup =>
    simp only [Document.perform, append?]
    split <;> rfl
  | detach id =>
    simp only [Document.perform, detach]
    split <;> rfl
  | focus id => rfl
  | setOutline id value => exact absurd rfl (he id value)
  | withUrl url => rfl
  | withFrame host => rfl

/-- No outline is empty, and nodes that are still to come have none. -/
def OutlinesProper (d : Document) : Prop :=
  ∀ n, d.outline n ≠ some "" ∧ (d.size ≤ n → d.outline n = none)

theorem outlinesProper_of_initial (h : d.Initial) : d.OutlinesProper := by
  intro n
  rw [outline_of_initial h]
  constructor
  · intro hpainted
    cases hpainted
  · intro _
    rfl

theorem WellFormed.outlinesProper_perform (h : d.WellFormed) (ho : d.OutlinesProper) (e : Edit) :
    (d.perform e).OutlinesProper := by
  intro n
  by_cases he : ∀ i value, e ≠ .setOutline i value
  · rw [outline_perform he]
    exact ⟨(ho n).1, fun hn => (ho n).2 ((h.persists_perform e).size_le.trans hn)⟩
  · push Not at he
    obtain ⟨i, value, rfl⟩ := he
    rw [Document.perform, setOutline?]
    by_cases hp : (d.isAttached i && d.isElement i) = true
    · rw [if_pos hp, Option.getD_some]
      dsimp only
      by_cases hi : n = i
      · have hlt := h.lt_size_of_isElement (Bool.and_eq_true_iff.mp hp).2
        rw [if_pos hi]
        refine ⟨?_, fun hn => absurd (hi ▸ hlt) (Nat.not_lt.mpr hn)⟩
        by_cases hvalue : value = ""
        · rw [if_pos hvalue]
          intro hpainted
          cases hpainted
        · rw [if_neg hvalue]
          exact fun h => hvalue (Option.some.inj h)
      · rw [if_neg hi]
        exact ho n
    · rw [if_neg hp, Option.getD_none]
      exact ho n

end Document

end Pinpoint
