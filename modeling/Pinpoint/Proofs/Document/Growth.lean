import Pinpoint.Proofs.Document.Links

/-! Elements that change where they stand. A change that keeps numbers and tags and adds nodes only
behind the children moves nothing: what was there before keeps its place, and every element its
position among its siblings. -/

namespace Pinpoint

/-- Numbers and tags stay, and `new` comes behind the children. -/
structure Element.Extends (new : List Node) (f : Element → Element) : Prop where
  id : ∀ e, (f e).id = e.id
  tag : ∀ e, (f e).tag = e.tag
  children : ∀ e, (f e).children = e.children ++ new

namespace Element

variable {id : NodeId} {f : Element → Element} {new : List Node}

theorem update_of_id (f : Element → Element) {e : Element} (h : e.id = id) :
    e.update id f = f e := by
  cases e
  exact if_pos h

theorem update_of_ne (f : Element → Element) {e : Element} (h : e.id ≠ id) :
    e.update id f = { e with children := Node.updateAll id f e.children } := by
  cases e
  exact if_neg h

theorem Extends.id_update (hf : Extends new f) (e : Element) : (e.update id f).id = e.id := by
  obtain ⟨i, tag, attributes, children⟩ := e
  rw [update]
  split
  · exact hf.id _
  · rfl

theorem Extends.tag_update (hf : Extends new f) (e : Element) : (e.update id f).tag = e.tag := by
  obtain ⟨i, tag, attributes, children⟩ := e
  rw [update]
  split
  · exact hf.tag _
  · rfl

/-- An attribute that the change keeps is kept on every element. -/
theorem attribute?_update {name : String} (hf : ∀ e, (f e).attribute? name = e.attribute? name)
    (e : Element) : (e.update id f).attribute? name = e.attribute? name := by
  obtain ⟨i, tag, attributes, children⟩ := e
  rw [update]
  split
  · exact hf _
  · rfl

def added (id : NodeId) (new : List Node) (e : Element) : List Node := if e.id = id then new else []

theorem Extends.children_update (hf : Extends new f) {e : Element}
    (h : e.id ∉ Node.ids e.children) :
    (e.update id f).children = Node.updateAll id f e.children ++ e.added id new := by
  obtain ⟨i, tag, attributes, children⟩ := e
  rw [update, added]
  split
  · rename_i hi
    subst hi
    rw [Node.updateAll_eq_self f h, hf.children]
  · rw [List.append_nil]

end Element

namespace Node

variable {id : NodeId} {f : Element → Element} {new : List Node} {next : Nat}

theorem placesAll_cons_element (above : List Element) (e : Element) (rest : List Node) :
    placesAll above (.element e :: rest)
      = ⟨.element e, above⟩ :: (placesAll (e :: above) e.children ++ placesAll above rest) := by
  cases e
  exact placesAll_element ..

theorem filterMap_element?_updateAll (l : List Node) :
    (updateAll id f l).filterMap element? = (l.filterMap element?).map (Element.update id f) := by
  induction l with
  | nil => rw [updateAll, List.filterMap_nil, List.map_nil]
  | cons n l ih =>
    cases n with
    | text i content =>
      rw [updateAll, List.filterMap_cons_none rfl, ih, List.filterMap_cons_none rfl]
    | element e =>
      rw [updateAll, List.filterMap_cons_some (f := element?) rfl, ih,
        List.filterMap_cons_some (f := element?) rfl, List.map_cons]

theorem filter_placesAll_eq_nil (hnew : ∀ i ∈ ids new, next ≤ i) (above : List Element) :
    (placesAll above new).filter (fun p => p.id < next) = [] := by
  rw [List.filter_eq_nil_iff]
  intro p hp
  have hle := hnew _ (id_mem_ids hp)
  simpa using hle

theorem ids_added (hnew : ∀ i ∈ ids new, next ≤ i) (e : Element) :
    ∀ i ∈ ids (e.added id new), next ≤ i := by
  unfold Element.added
  split
  · exact hnew
  · intro i hi
    cases hi

/-- The places with old numbers are those from before, in the same order. -/
theorem filter_placesAll_updateAll (hf : Element.Extends new f) (hnew : ∀ i ∈ ids new, next ≤ i)
    (above : List Element) {l : List Node} (hl : (ids l).Nodup) (hold : ∀ i ∈ ids l, i < next) :
    (placesAll (above.map (Element.update id f)) (updateAll id f l)).filter (fun p => p.id < next)
      = (placesAll above l).map (Place.map (Element.update id f)) := by
  induction l using Node.forest_induction generalizing above with
  | nil => rw [updateAll, placesAll_nil, placesAll_nil, List.filter_nil, List.map_nil]
  | text i content rest ih =>
    rw [ids_text] at hl hold
    obtain ⟨hi, hrest⟩ := List.forall_mem_cons.mp hold
    have hself : Place.id ⟨.text i content, above.map (Element.update id f)⟩ < next := hi
    have htail := ih above (List.nodup_cons.mp hl).2 hrest
    rw [updateAll, placesAll_text, List.filter_cons, if_pos (decide_eq_true hself), htail,
      placesAll_text, List.map_cons]
    rfl
  | element i tag attributes children rest ihc ihr =>
    rw [ids_element, List.nodup_cons, List.nodup_append, List.mem_append, not_or] at hl
    obtain ⟨⟨hic, -⟩, hc, hr, -⟩ := hl
    rw [ids_element, List.forall_mem_cons, List.forall_mem_append] at hold
    obtain ⟨hi, hbelow, hbehind⟩ := hold
    -- What the change makes of the element is known by its parts only.
    generalize he : (⟨i, tag, attributes, children⟩ : Element) = e
    have hid : e.id = i := by rw [← he]
    have hchildren : e.children = children := by rw [← he]
    have hself : Place.id ⟨.element (e.update id f), above.map (Element.update id f)⟩ < next := by
      change (e.update id f).id < next
      rw [hf.id_update, hid]
      exact hi
    have hnot : e.id ∉ ids e.children := by rwa [hid, hchildren]
    have hbranch := ihc (e :: above) hc hbelow
    have htail := ihr above hr hbehind
    rw [List.map_cons] at hbranch
    rw [updateAll, placesAll_cons_element, List.filter_cons, if_pos (decide_eq_true hself),
      List.filter_append, hf.children_update hnot, placesAll_append, List.filter_append,
      filter_placesAll_eq_nil (ids_added hnew e), List.append_nil, hchildren, hbranch, htail,
      placesAll_cons_element, hchildren, List.map_cons, List.map_append]
    rfl

/-- A place with a new number is in what was added. -/
theorem exists_place_of_updateAll (hf : Element.Extends new f) {above : List Element}
    {l : List Node} (hl : (ids l).Nodup) (hold : ∀ i ∈ ids l, i < next) {p : Place}
    (hp : p ∈ placesAll above (updateAll id f l)) (hnext : next ≤ p.id) :
    ∃ above', p ∈ placesAll above' new := by
  induction l using Node.forest_induction generalizing above with
  | nil => simp [updateAll] at hp
  | text i content rest ih =>
    rw [ids_text] at hl hold
    obtain ⟨hi, hrest⟩ := List.forall_mem_cons.mp hold
    rw [updateAll, placesAll_text, List.mem_cons] at hp
    rcases hp with rfl | hp
    · exact absurd hi (Nat.not_lt.mpr hnext)
    · exact ih (List.nodup_cons.mp hl).2 hrest hp
  | element i tag attributes children rest ihc ihr =>
    rw [ids_element, List.nodup_cons, List.nodup_append, List.mem_append, not_or] at hl
    obtain ⟨⟨hic, -⟩, hc, hr, -⟩ := hl
    rw [ids_element, List.forall_mem_cons, List.forall_mem_append] at hold
    obtain ⟨hi, hbelow, hbehind⟩ := hold
    rw [updateAll, placesAll_cons_element, hf.children_update hic, placesAll_append, List.mem_cons,
      List.mem_append, List.mem_append] at hp
    rcases hp with rfl | (hp | hp) | hp
    · have hid : (Element.update id f ⟨i, tag, attributes, children⟩).id = i := hf.id_update _
      change next ≤ (Element.update id f ⟨i, tag, attributes, children⟩).id at hnext
      rw [hid] at hnext
      exact absurd hi (Nat.not_lt.mpr hnext)
    · exact ihc hc hbelow hp
    · unfold Element.added at hp
      split at hp
      · exact ⟨_, hp⟩
      · simp at hp
    · exact ihr hr hbehind hp

end Node

namespace Document

variable {d d' : Document} {id : NodeId} {f : Element → Element} {new : List Node}

structure Grown (d d' : Document) (id : NodeId) (f : Element → Element) (new : List Node) :
    Prop where
  change : Element.Extends new f
  root : d'.root = d.root.update id f
  detached : d'.detached = Node.updateAll id f d.detached
  fresh : ∀ i ∈ Node.ids new, d.size ≤ i

theorem grown_setAttribute? {name value : String} (hd : d.setAttribute? id name value = some d') :
    d.Grown d' id (fun e => { e with attributes := e.attributes.insert name value }) [] := by
  rw [eq_update_of_setAttribute? hd]
  exact ⟨⟨fun _ => rfl, fun _ => rfl, fun _ => (List.append_nil _).symm⟩, rfl, rfl, nofun⟩

theorem grown_append? {parent : NodeId} {markup : Markup} (hd : d.append? parent markup = some d') :
    d.Grown d' parent
      (fun e => { e with children := e.children ++ [.element (markup.number d.size)] })
      [.element (markup.number d.size)] := by
  unfold Document.append? at hd
  split at hd
  · cases hd
    refine ⟨⟨fun _ => rfl, fun _ => rfl, fun _ => rfl⟩, rfl, rfl, fun i hi => ?_⟩
    rw [ids_number, List.mem_range'_1] at hi
    exact hi.1
  · cases hd

namespace Grown

variable (h : d.WellFormed) (g : d.Grown d' id f new)

include g

theorem forest_eq : d'.forest = Node.updateAll id f d.forest := by
  rw [forest, forest, Node.updateAll, g.root, g.detached]

theorem root_id : d'.root.id = d.root.id := by
  rw [g.root, g.change.id_update]

include h

theorem filter_places :
    d'.places.filter (fun p => p.id < d.size) = d.places.map (Place.map (Element.update id f)) := by
  rw [places_eq, places_eq, g.forest_eq]
  exact Node.filter_placesAll_updateAll g.change g.fresh [] h.distinct h.below_size

theorem filter_attachedPlaces :
    d'.attachedPlaces.filter (fun p => p.id < d.size)
      = d.attachedPlaces.map (Place.map (Element.update id f)) := by
  have hsub : (Node.ids [.element d.root]).Sublist (Node.ids d.forest) := by
    rw [← Node.map_id_placesAll [], ← attachedPlaces_eq]
    exact d.ids_attached_sublist
  have hroot : Node.updateAll id f [.element d.root] = [.element d'.root] := by
    rw [Node.updateAll, Node.updateAll, g.root]
  rw [attachedPlaces_eq, attachedPlaces_eq, ← hroot]
  exact Node.filter_placesAll_updateAll g.change g.fresh [] (h.distinct.sublist hsub)
    fun i hi => h.below_size i (hsub.subset hi)

theorem filter_elements :
    d'.elements.filter (fun s => s.id < d.size)
      = d.elements.map (Site.map (Element.update id f)) := by
  rw [elements, Place.filter_sites (· < d.size), g.filter_attachedPlaces h, Place.sites_map,
    elements]

/-- Each old node is found where it was. -/
theorem place?_eq {n : NodeId} (hn : n < d.size) :
    d'.place? n = (d.place? n).map (Place.map (Element.update id f)) := by
  have hold : ∀ p : Place, p.id < d.size ∧ p.id = n ↔ p.id = n := fun p =>
    ⟨And.right, fun hp => ⟨hp ▸ hn, hp⟩⟩
  have hfind : (d'.places.filter fun p => p.id < d.size).find? (·.id = n) = d'.place? n := by
    rw [List.find?_filter]
    simp only [decide_eq_true_eq, hold]
    rfl
  rw [← hfind, g.filter_places h, List.find?_map, Function.comp_def]
  simp only [Place.id_map _ g.change.id_update]
  rfl

theorem site?_eq {n : NodeId} (hn : n < d.size) :
    d'.site? n = (d.site? n).map (Site.map (Element.update id f)) := by
  rw [site?, site?, g.place?_eq h hn, Option.map_bind, Option.bind_map]
  congr 1
  funext p
  exact p.site?_map _

/-- An element of the tree with a new number is in what was added. -/
theorem exists_place_of_new {s : Site} (hs : s ∈ d'.elements) (hnew : d.size ≤ s.id) :
    ∃ above, ⟨.element s.element, s.ancestors⟩ ∈ Node.placesAll above new := by
  have hp := place_of_mem hs
  rw [places_eq, g.forest_eq] at hp
  exact Node.exists_place_of_updateAll g.change h.distinct h.below_size hp hnew

theorem elementChildren_update {e : Element} {above : List Element}
    (he : ⟨.element e, above⟩ ∈ d.places) :
    (e.update id f).elementChildren
      = e.elementChildren.map (Element.update id f)
        ++ (e.added id new).filterMap Node.element? := by
  rw [places_eq] at he
  have hself := h.distinct.sublist (Node.ids_children_sublist he)
  rw [Element.elementChildren, g.change.children_update (List.nodup_cons.mp hself).1,
    List.filterMap_append, Node.filterMap_element?_updateAll]
  rfl

/-- The siblings of the same tag are those from before, and perhaps some behind them. -/
theorem siblingsOfType_map {s : Site} (hs : ⟨.element s.element, s.ancestors⟩ ∈ d.places) :
    ∃ more, (s.map (Element.update id f)).siblingsOfType
      = s.siblingsOfType.map (Element.update id f) ++ more ∧ (new = [] → more = []) := by
  obtain ⟨e, ancestors⟩ := s
  cases ancestors with
  | nil => exact ⟨[], rfl, fun _ => rfl⟩
  | cons p rest =>
    have hp := (parent_mem_places hs).1
    refine ⟨((p.added id new).filterMap Node.element?).filter (·.tag = e.tag), ?_, ?_⟩
    · change (p.update id f).elementChildren.filter (·.tag = (e.update id f).tag) = _
      rw [g.elementChildren_update h hp, List.filter_append, List.filter_map, g.change.tag_update]
      simp only [Function.comp_def, g.change.tag_update]
      rfl
    · rintro rfl
      unfold Element.added
      split <;> rfl

theorem position_map {s : Site} (hs : ⟨.element s.element, s.ancestors⟩ ∈ d.places) :
    (s.map (Element.update id f)).position = s.position := by
  obtain ⟨more, hmore, -⟩ := g.siblingsOfType_map h hs
  have hmem := mem_siblingsOfType_of_place hs
  have hfound : s.siblingsOfType.findIdx (·.id = s.id) < s.siblingsOfType.length :=
    List.findIdx_lt_length_of_exists ⟨_, hmem, by simp [Site.id]⟩
  rw [Site.position, Site.position, hmore, s.id_map _ g.change.id_update, List.findIdx_append,
    List.findIdx_map, Function.comp_def, List.length_map]
  simp only [g.change.id_update]
  rw [if_pos hfound]

end Grown

end Document

end Pinpoint
