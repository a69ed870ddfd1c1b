import Pinpoint.Proofs.Document.Site

/-! Parents and ancestors as the lists of children have them. The elements that a site carries with
it are those that the tree has above it. -/

namespace Pinpoint

theorem Node.child_mem_placesAll {above rest : List Element} {l : List Node} {e : Element}
    (h : ⟨.element e, rest⟩ ∈ Node.placesAll above l) {n : Node} (hn : n ∈ e.children) :
    ⟨n, e :: rest⟩ ∈ Node.placesAll above l := by
  induction l using Node.forest_induction generalizing above with
  | nil => simp at h
  | text id content more ih =>
    rw [placesAll_text, List.mem_cons] at h ⊢
    rcases h with h | h
    · cases h
    · exact .inr (ih h)
  | element id tag attributes children more ihc ihr =>
    rw [placesAll_element, List.mem_cons, List.mem_append] at h ⊢
    rcases h with h | h | h
    · cases h
      refine .inr (.inl ?_)
      obtain ⟨front, back, rfl⟩ := List.append_of_mem hn
      rw [placesAll_append, List.mem_append]
      right
      cases n with
      | text i content => exact List.mem_cons_self
      | element c =>
        cases c
        rw [placesAll_element]
        exact List.mem_cons_self
    · exact .inr (.inl (ihc h))
    · exact .inr (.inr (ihr h))

namespace Document

variable {d : Document} {s t : Site}

theorem child_mem_elements (ht : t ∈ d.elements) {e : Element}
    (he : e ∈ t.element.elementChildren) : ⟨e, t.element :: t.ancestors⟩ ∈ d.elements := by
  rw [mem_elements, attachedPlaces_eq] at ht ⊢
  obtain ⟨n, hn, hne⟩ := List.mem_filterMap.mp he
  have hplace := Node.child_mem_placesAll ht hn
  cases n with
  | text id content => cases hne
  | element c =>
    cases hne
    exact hplace

structure ParentOf (d : Document) (t s : Site) : Prop where
  parent_mem : t ∈ d.elements
  child_mem : s ∈ d.elements
  child : s.element ∈ t.element.elementChildren

def AncestorOf (d : Document) : Site → Site → Prop := Relation.TransGen d.ParentOf

theorem WellFormed.parent?_eq_some_iff (h : d.WellFormed) (hs : s ∈ d.elements) :
    s.parent? = some t ↔ d.ParentOf t s := by
  constructor
  · intro hp
    obtain ⟨ht, hchild⟩ := parent_mem_elements hs hp
    exact ⟨ht, hs, hchild⟩
  · rintro ⟨ht, -, hchild⟩
    -- the child of `t` has a place below `t`, and no other place has its number
    have hsame : s = ⟨s.element, t.element :: t.ancestors⟩ :=
      h.site_unique hs (child_mem_elements ht hchild) rfl
    rw [hsame]
    rfl

theorem above_of_parent (hp : s.parent? = some t) : s.above = t :: t.above :=
  (List.cons.inj (Site.withAncestors_of_parent hp)).2

theorem WellFormed.mem_above_iff (h : d.WellFormed) (hs : s ∈ d.elements) :
    t ∈ s.above ↔ d.AncestorOf t s := by
  constructor
  · obtain ⟨e, ancestors⟩ := s
    induction ancestors generalizing e with
    | nil => rintro ⟨⟩
    | cons p rest ih =>
      intro ht
      have hparent : d.ParentOf ⟨p, rest⟩ ⟨e, p :: rest⟩ := (h.parent?_eq_some_iff hs).mp rfl
      rcases List.mem_cons.mp ht with rfl | ht
      · exact .single hparent
      · exact .tail (ih p hparent.parent_mem ht) hparent
  · intro hanc
    induction hanc with
    | single hp =>
      rw [above_of_parent ((h.parent?_eq_some_iff hp.child_mem).mpr hp)]
      exact List.mem_cons_self
    | tail _ hp ih =>
      rw [above_of_parent ((h.parent?_eq_some_iff hp.child_mem).mpr hp)]
      exact List.mem_cons_of_mem _ (ih hp.parent_mem)

theorem WellFormed.nodup_map_id (h : d.WellFormed) {sites : List Site}
    (hsub : sites.Sublist d.elements) : (sites.map Site.id).Nodup := by
  refine List.Nodup.map_on ?_ (h.elements_nodup.sublist hsub)
  intro s hs t ht hid
  exact h.site_unique (hsub.subset hs) (hsub.subset ht) hid

end Document

end Pinpoint
