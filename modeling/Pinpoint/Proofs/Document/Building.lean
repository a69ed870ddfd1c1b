import Pinpoint.Proofs.Document.Attributes
import Pinpoint.Proofs.Document.Detachment
import Pinpoint.Proofs.Document.Growth

/-! Markup that becomes part of a document. Its nodes get consecutive numbers in the order in which
they are written, and following the lists of children from the first of them leads back to the
markup, in lower case. Markup that is added to a document changes nothing else in it. -/

namespace Pinpoint

mutual

def Markup.lowered : Markup → Markup
  | ⟨tag, attributes, children⟩ =>
    ⟨Text.lower tag, attributes.lower, MarkupNode.loweredAll children⟩

def MarkupNode.loweredAll : List MarkupNode → List MarkupNode
  | [] => []
  | .text content :: rest => .text content :: MarkupNode.loweredAll rest
  | .element markup :: rest => .element markup.lowered :: MarkupNode.loweredAll rest

end

mutual

def Element.markup : Element → Markup
  | ⟨_, tag, attributes, children⟩ => ⟨tag, attributes, Node.markupAll children⟩

def Node.markupAll : List Node → List MarkupNode
  | [] => []
  | .text _ content :: rest => .text content :: Node.markupAll rest
  | .element e :: rest => .element e.markup :: Node.markupAll rest

end

theorem MarkupNode.markupAll_numberAll (next : NodeId) (l : List MarkupNode) :
    Node.markupAll (numberAll next l) = loweredAll l := by
  induction l using MarkupNode.forest_induction generalizing next with
  | nil => rw [numberAll, Node.markupAll, loweredAll]
  | text content rest ih => rw [numberAll, Node.markupAll, ih, loweredAll]
  | element tag attributes children rest ihc ihr =>
    rw [numberAll, Markup.number, Node.markupAll, Element.markup, ihc, ihr, loweredAll,
      Markup.lowered]

/-- Names that meet in lower case: the greatest of them gives the value. -/
theorem Attributes.get?_lower_eq_some_iff {attributes : Attributes} {name value : String} :
    attributes.lower.get? name = some value ↔
      ∃ e ∈ attributes.entries, Text.lower e.1 = name ∧ e.2 = value ∧
        ∀ f ∈ attributes.entries, Text.lower f.1 = name → f.1 ≤ e.1 := by
  have hincreasing := attributes.increasing
  rw [get?_lower]
  generalize attributes.entries = entries at hincreasing ⊢
  induction entries using List.reverseRecOn with
  | nil => simp
  | append_singleton entries last ih =>
    obtain ⟨hfront, -, hlast⟩ := List.pairwise_append.mp hincreasing
    have hbelow : ∀ f ∈ entries, f.1 < last.1 := fun f hf =>
      hlast f hf last (List.mem_singleton_self last)
    rw [List.reverse_append, List.reverse_singleton, List.singleton_append, List.find?_cons]
    by_cases hname : Text.lower last.1 = name
    · simp only [hname, decide_true, Option.map_some, Option.some.injEq]
      constructor
      · rintro rfl
        refine ⟨last, by simp, hname, rfl, fun f hf _ => ?_⟩
        rcases List.mem_append.mp hf with hf | hf
        · exact (hbelow f hf).le
        · rw [List.mem_singleton.mp hf]
      · rintro ⟨e, he, -, rfl, hgreatest⟩
        have hle := hgreatest last (by simp) hname
        rcases List.mem_append.mp he with he | he
        · exact absurd (hbelow e he) hle
        · rw [List.mem_singleton.mp he]
    · simp only [hname, decide_false]
      refine (ih hfront).trans ⟨?_, ?_⟩
      · rintro ⟨e, he, hlower, hvalue, hgreatest⟩
        refine ⟨e, List.mem_append_left _ he, hlower, hvalue, fun f hf hf' => ?_⟩
        rcases List.mem_append.mp hf with hf | hf
        · exact hgreatest f hf hf'
        · rw [List.mem_singleton.mp hf] at hf'
          exact absurd hf' hname
      · rintro ⟨e, he, hlower, hvalue, hgreatest⟩
        rcases List.mem_append.mp he with he | he
        · exact ⟨e, he, hlower, hvalue, fun f hf => hgreatest f (List.mem_append_left _ hf)⟩
        · rw [List.mem_singleton.mp he] at hlower
          exact absurd hlower hname

/-- A name in lower case is the greatest of the names that become it. -/
theorem Attributes.get?_lower_of_get? {attributes : Attributes} {name value : String}
    (hname : Text.lower name = name) (h : attributes.get? name = some value) :
    attributes.lower.get? name = some value := by
  rw [get?_lower_eq_some_iff]
  refine ⟨(name, value), mem_of_get?_eq_some h, hname, rfl, fun f _ hf => ?_⟩
  calc f.1 ≤ Text.lower f.1 := Text.le_lower f.1
    _ = name := hf

/-- What stands below an element of a list stands in the list. -/
theorem Node.placesAll_children_subset {above rest : List Element} {l : List Node} {e : Element}
    (he : ⟨.element e, rest⟩ ∈ placesAll above l) :
    placesAll (e :: rest) e.children ⊆ placesAll above l := by
  induction l using Node.forest_induction generalizing above with
  | nil => simp at he
  | text id content more ih =>
    rw [placesAll_text, List.mem_cons] at he
    rw [placesAll_text]
    rcases he with he | he
    · cases he
    · exact List.subset_cons_of_subset _ (ih he)
  | element id tag attributes children more ihc ihr =>
    rw [placesAll_element, List.mem_cons, List.mem_append] at he
    rw [placesAll_element]
    apply List.subset_cons_of_subset
    rcases he with he | he | he
    · cases he
      exact List.subset_append_left _ _
    · exact List.subset_append_of_subset_left _ (ihc he)
    · exact List.subset_append_of_subset_right _ (ihr he)

/-- What is read when the lists of children are followed from node to node. -/
inductive Reads (data? : NodeId → Option NodeData) (children : NodeId → List NodeId) :
    List NodeId → List MarkupNode → Prop where
  | nil : Reads data? children [] []
  | text {n : NodeId} {rest : List NodeId} {content : String} {behind : List MarkupNode} :
    data? n = some (.text content) → Reads data? children rest behind →
    Reads data? children (n :: rest) (.text content :: behind)
  | element {n : NodeId} {rest : List NodeId} {tag : String} {attributes : Attributes}
    {below behind : List MarkupNode} :
    data? n = some (.element tag attributes) → Reads data? children (children n) below →
    Reads data? children rest behind →
    Reads data? children (n :: rest) (.element ⟨tag, attributes, below⟩ :: behind)

theorem Reads.unique {data? : NodeId → Option NodeData} {children : NodeId → List NodeId}
    {nodes : List NodeId} {l m : List MarkupNode} (hl : Reads data? children nodes l)
    (hm : Reads data? children nodes m) : l = m := by
  induction hl generalizing m with
  | nil =>
    cases hm
    rfl
  | text hdata _ ih =>
    cases hm with
    | text hdata' hrest =>
      rw [hdata] at hdata'
      cases hdata'
      rw [ih hrest]
    | element hdata' _ _ =>
      rw [hdata] at hdata'
      cases hdata'
  | element hdata _ _ ihb ihr =>
    cases hm with
    | text hdata' _ =>
      rw [hdata] at hdata'
      cases hdata'
    | element hdata' hbelow hrest =>
      rw [hdata] at hdata'
      cases hdata'
      rw [ihb hbelow, ihr hrest]

namespace Document

variable {d : Document}

structure Built (d : Document) (first : NodeId) (markup : Markup) : Prop where
  numbers : ∀ l, InPreorder d.childIds [first] l ↔ l = List.range' first markup.size
  reads : ∀ l, Reads d.data? d.childIds [first] l ↔ l = [.element markup.lowered]
  unpainted : ∀ n ∈ List.range' first markup.size, d.outline n = none

theorem WellFormed.data?_eq (h : d.WellFormed) {p : Place} (hp : p ∈ d.places) :
    d.data? p.id = some p.node.data := by
  rw [data?, h.place?_eq hp, Option.map_some]

theorem WellFormed.childIds_text (h : d.WellFormed) {n : NodeId} {content : String}
    {above : List Element} (hp : ⟨.text n content, above⟩ ∈ d.places) : d.childIds n = [] := by
  have hplace : d.place? n = some ⟨.text n content, above⟩ := h.place?_eq hp
  rw [childIds, site?, hplace]
  rfl

theorem WellFormed.reads_placesAll (h : d.WellFormed) {above : List Element} {l : List Node}
    (hl : Node.placesAll above l ⊆ d.places) :
    Reads d.data? d.childIds (l.map Node.id) (Node.markupAll l) := by
  induction l using Node.forest_induction generalizing above with
  | nil =>
    rw [Node.markupAll]
    exact .nil
  | text id content rest ih =>
    rw [Node.placesAll_text, List.cons_subset] at hl
    rw [Node.markupAll]
    exact .text (h.data?_eq hl.1) (ih hl.2)
  | element id tag attributes children rest ihc ihr =>
    rw [Node.placesAll_element, List.cons_subset, List.append_subset] at hl
    obtain ⟨hself, hchildren, hrest⟩ := hl
    have hbelow := ihc hchildren
    rw [← h.childIds_eq hself] at hbelow
    rw [Node.markupAll, Element.markup]
    exact .element (h.data?_eq hself) hbelow (ihr hrest)

theorem WellFormed.preorder_ids (h : d.WellFormed) {above : List Element} {l : List Node}
    (hl : Node.placesAll above l ⊆ d.places) :
    InPreorder d.childIds (l.map Node.id) (Node.ids l) := by
  induction l using Node.forest_induction generalizing above with
  | nil => exact .nil
  | text id content rest ih =>
    rw [Node.placesAll_text, List.cons_subset] at hl
    have hbelow : InPreorder d.childIds (d.childIds id) [] := by
      rw [h.childIds_text hl.1]
      exact .nil
    rw [Node.ids_text]
    exact .cons hbelow (ih hl.2)
  | element id tag attributes children rest ihc ihr =>
    rw [Node.placesAll_element, List.cons_subset, List.append_subset] at hl
    obtain ⟨hself, hchildren, hrest⟩ := hl
    have hbelow := ihc hchildren
    rw [← h.childIds_eq hself] at hbelow
    rw [Node.ids_element]
    exact .cons hbelow (ihr hrest)

/-- Markup is built where its numbered nodes have their places. -/
theorem WellFormed.built (h : d.WellFormed) {first : NodeId} {markup : Markup}
    {above : List Element}
    (hplaces : Node.placesAll above [.element (markup.number first)] ⊆ d.places)
    (hunpainted : ∀ n ∈ List.range' first markup.size, d.outline n = none) :
    d.Built first markup := by
  have hreads := h.reads_placesAll hplaces
  have hnumbers := h.preorder_ids hplaces
  have hlowered : Node.markupAll [.element (markup.number first)] = [.element markup.lowered] := by
    have hall := MarkupNode.markupAll_numberAll first [.element markup]
    rwa [MarkupNode.numberAll, MarkupNode.numberAll, MarkupNode.loweredAll,
      MarkupNode.loweredAll] at hall
  rw [hlowered] at hreads
  rw [ids_number] at hnumbers
  simp only [List.map_cons, List.map_nil, Node.id, id_number] at hreads hnumbers
  refine ⟨fun l => ?_, fun l => ?_, hunpainted⟩
  · constructor
    · intro hl
      exact hl.unique hnumbers
    · rintro rfl
      exact hnumbers
  · constructor
    · intro hl
      exact hl.unique hreads
    · rintro rfl
      exact hreads

theorem built_ofMarkup (markup : Markup) : (ofMarkup markup).Built 0 markup := by
  have hplaces : Node.placesAll [] [.element (markup.number 0)] ⊆ (ofMarkup markup).places := by
    rw [places_eq]
    exact List.Subset.refl _
  apply (wellFormed_ofMarkup markup).built hplaces
  intro n _
  rfl

namespace Grown

variable {d' : Document} {id : NodeId} {f : Element → Element} {new : List Node}
  (h : d.WellFormed) (g : d.Grown d' id f new)

include h g

theorem data?_eq (hf : ∀ e, (f e).attributes = e.attributes) {n : NodeId} (hn : n < d.size) :
    d'.data? n = d.data? n := by
  have hattributes : ∀ e : Element, (e.update id f).attributes = e.attributes := by
    intro e
    obtain ⟨i, tag, attributes, children⟩ := e
    rw [Element.update]
    split
    · exact hf _
    · rfl
  rw [data?, data?, g.place?_eq h hn, Option.map_map]
  congr 1
  funext p
  obtain ⟨node, ancestors⟩ := p
  cases node with
  | text i content => rfl
  | element e =>
    have hdata : NodeData.element (e.update id f).tag (e.update id f).attributes
        = .element e.tag e.attributes := by rw [g.change.tag_update, hattributes]
    exact hdata

theorem parentId?_eq {n : NodeId} (hn : n < d.size) : d'.parentId? n = d.parentId? n := by
  rw [parentId?, parentId?, g.place?_eq h hn]
  cases d.place? n with
  | none => rfl
  | some p =>
    obtain ⟨node, ancestors⟩ := p
    cases ancestors with
    | nil => rfl
    | cons q rest => exact congrArg some (g.change.id_update q)

theorem isAttached_eq {n : NodeId} (hn : n < d.size) : d'.isAttached n = d.isAttached n := by
  have hold : ∀ p : Place, p.id < d.size ∧ p.id = n ↔ p.id = n := fun p =>
    ⟨And.right, fun hp => ⟨hp ▸ hn, hp⟩⟩
  have hany : (d'.attachedPlaces.filter fun p => p.id < d.size).any (·.id = n)
      = d'.isAttached n := by
    rw [List.any_filter]
    simp only [← Bool.decide_and, hold]
    rfl
  rw [← hany, g.filter_attachedPlaces h, List.any_map, Function.comp_def]
  simp only [Place.id_map _ g.change.id_update]
  rfl

/-- The children that an element had come first. -/
theorem childIds_eq {n : NodeId} {s : Site} (hs : d.site? n = some s) :
    d'.childIds n = d.childIds n ++ (s.element.added id new).map Node.id := by
  obtain ⟨hplace, hid⟩ := place_of_site? hs
  have hn : n < d.size := by
    rw [places_eq] at hplace
    exact hid ▸ h.below_size _ (Node.id_mem_ids hplace)
  rw [places_eq] at hplace
  have hself := h.distinct.sublist (Node.ids_children_sublist hplace)
  rw [childIds, childIds, g.site?_eq h hn, hs, Option.map_some]
  dsimp only [Site.map]
  rw [g.change.children_update (List.nodup_cons.mp hself).1, List.map_append,
    Node.map_id_updateAll g.change.id]

/-- What was added has its places below the element that it was added to. -/
theorem placesAll_new_subset {s : Site} (hs : d.site? id = some s) :
    ∃ e above, e.id = id ∧ ⟨.element e, above⟩ ∈ d'.places ∧ new ⊆ e.children ∧
      Node.placesAll (e :: above) new ⊆ Node.placesAll (e :: above) e.children := by
  obtain ⟨hplace, hid⟩ := place_of_site? hs
  rw [places_eq] at hplace
  have hn : id < d.size := hid ▸ h.below_size _ (Node.id_mem_ids hplace)
  have hself := h.distinct.sublist (Node.ids_children_sublist hplace)
  have hsite : d'.site? id = some (s.map (Element.update id f)) := by
    rw [g.site?_eq h hn, hs, Option.map_some]
  have hchildren : (s.element.update id f).children
      = Node.updateAll id f s.element.children ++ new := by
    have hadded : s.element.added id new = new := if_pos hid
    rw [g.change.children_update (List.nodup_cons.mp hself).1, hadded]
  obtain ⟨hplace', hid'⟩ := place_of_site? hsite
  refine ⟨s.element.update id f, s.ancestors.map (Element.update id f), hid', hplace', ?_, ?_⟩
  · rw [hchildren]
    exact List.subset_append_right _ _
  · rw [hchildren, Node.placesAll_append]
    exact List.subset_append_right _ _

end Grown

structure Appended (d now : Document) (parent : NodeId) (markup : Markup) : Prop where
  size : now.size = d.size + markup.size
  places : ∃ e above, e.id = parent ∧
    Node.placesAll (e :: above) [.element (markup.number d.size)] ⊆ now.places
  built : now.Built d.size markup
  last : now.childIds parent = d.childIds parent ++ [d.size]
  below : now.parentId? d.size = some parent
  attached_new : ∀ n ∈ List.range' d.size markup.size, now.isAttached n = d.isAttached parent
  data : ∀ n < d.size, now.data? n = d.data? n
  parents : ∀ n < d.size, now.parentId? n = d.parentId? n
  children : ∀ n < d.size, n ≠ parent → now.childIds n = d.childIds n
  attached : ∀ n < d.size, now.isAttached n = d.isAttached n
  outline : now.outline = d.outline
  root : now.root.id = d.root.id
  active : now.active = d.active
  page : now.url = d.url ∧ now.frame = d.frame

/-- New nodes are in the tree if the element is that they were added to. -/
theorem WellFormed.isAttached_below (h : d.WellFormed) {e : Element} {above : List Element}
    (he : ⟨.element e, above⟩ ∈ d.places) {q : Place}
    (hq : q ∈ Node.placesAll (e :: above) e.children) : d.isAttached q.id = d.isAttached e.id := by
  have hqplace : q ∈ d.places := by
    rw [places_eq] at he ⊢
    exact Node.placesAll_children_subset he hq
  rw [Bool.eq_iff_iff]
  constructor
  · intro hattached
    obtain ⟨q', hq', hid⟩ := place_of_isAttached hattached
    obtain rfl := h.place_unique (d.attachedPlaces_subset hq') hqplace hid
    exact attached_of_mem_ancestors hq' (Node.above_subset_ancestors hq List.mem_cons_self)
  · intro hattached
    obtain ⟨p, hp, hid⟩ := place_of_isAttached hattached
    have hsame := h.place_unique (d.attachedPlaces_subset hp) he hid
    rw [hsame, attachedPlaces_eq] at hp
    have hmem := Node.placesAll_children_subset hp hq
    rw [← attachedPlaces_eq] at hmem
    exact isAttached_of_place hmem

theorem Sound.appended (hd : d.Sound) {parent : NodeId} (markup : Markup)
    (hparent : d.isElement parent = true) :
    ∃ now, d.append? parent markup = some now ∧ d.Appended now parent markup := by
  obtain ⟨now, hnow⟩ : ∃ now, d.append? parent markup = some now := by
    rw [append?, if_pos hparent]
    exact ⟨_, rfl⟩
  have h := hd.toWellFormed
  have g := grown_append? hnow
  have hlt := h.lt_size_of_isElement hparent
  obtain ⟨s, hs⟩ := Option.isSome_iff_exists.mp hparent
  obtain ⟨e, above, hid, he, hnew, hsub⟩ := g.placesAll_new_subset h hs
  have hrest : now.outline = d.outline ∧ now.active = d.active ∧ now.url = d.url
      ∧ now.frame = d.frame := by
    rw [append?, if_pos hparent] at hnow
    cases hnow
    exact ⟨rfl, rfl, rfl, rfl⟩
  refine ⟨now, hnow, ?_⟩
  have h' := h.append? hnow
  have hplaces : Node.placesAll (e :: above) [.element (markup.number d.size)] ⊆ now.places := by
    rw [places_eq] at he ⊢
    exact List.Subset.trans hsub (Node.placesAll_children_subset he)
  exact {
    size := size_append? hnow
    places := ⟨e, above, hid, hplaces⟩
    built := h'.built hplaces fun n hn => by
      rw [hrest.1]
      exact (hd.painted n).2 (List.mem_range'_1.mp hn).1
    last := by
      have hadded : s.element.added parent [.element (markup.number d.size)]
          = [.element (markup.number d.size)] := if_pos (place_of_site? hs).2
      rw [g.childIds_eq h hs, hadded, List.map_singleton, Node.id, id_number]
    below := by
      have hchild := h'.isChild_of_place he (hnew (List.mem_singleton_self _))
      rw [Node.id, id_number, hid] at hchild
      exact h'.isChild_iff.mp hchild
    attached_new := by
      intro n hn
      rw [← ids_number, ← Node.map_id_placesAll (e :: above), List.mem_map] at hn
      obtain ⟨q, hq, rfl⟩ := hn
      rw [h'.isAttached_below he (hsub hq), hid, g.isAttached_eq h hlt]
    data := fun n hn => g.data?_eq h (fun _ => rfl) hn
    parents := fun n hn => g.parentId?_eq h hn
    children := by
      intro n hn hne
      cases hsite : d.site? n with
      | none => rw [childIds, childIds, g.site?_eq h hn, hsite, Option.map_none]
      | some t =>
        have hadded : t.element.added parent [.element (markup.number d.size)] = [] := by
          apply if_neg
          rw [← Site.id, (place_of_site? hsite).2]
          exact hne
        rw [g.childIds_eq h hsite, hadded, List.map_nil, List.append_nil]
    attached := fun n hn => g.isAttached_eq h hn
    outline := hrest.1
    root := g.root_id
    active := hrest.2.1
    page := hrest.2.2 }

end Document

end Pinpoint
