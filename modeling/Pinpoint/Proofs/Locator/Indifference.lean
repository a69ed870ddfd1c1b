import Pinpoint.Proofs.Document.Content
import Pinpoint.Proofs.Locator.ReadBack
import Pinpoint.Proofs.Locator.Stability
import Pinpoint.Proofs.Locator.Suffix
import Pinpoint.Proofs.Selector.Reading

/-! What locators do not name. They speak of identifiers, names, labels, placeholders, classes and
test attributes, and so do the selectors that are tried while one is searched. Whatever else is
changed about a page, the locators of its elements stay the same. -/

namespace Pinpoint

namespace Segment

variable {settings : Settings}

theorem ofSite_congr {s t : Site} (htag : t.tag = s.tag)
    (hnames : ∀ name ∈ namesRead settings, t.element.attribute? name = s.element.attribute? name)
    (hposition : t.position = s.position)
    (hcount : t.siblingsOfType.length = s.siblingsOfType.length) :
    ofSite settings t = ofSite settings s := by
  have hvalues : ∀ name ∈ namesRead settings,
      t.element.attributes.nonEmpty? name = s.element.attributes.nonEmpty? name := fun name hname =>
    congrArg (Option.filter (· ≠ "")) (hnames name hname)
  have htest : settings.testAttribute? t.element = settings.testAttribute? s.element := by
    rw [Settings.testAttribute?, Settings.testAttribute?, ← List.head?_filterMap,
      ← List.head?_filterMap]
    refine congrArg List.head? (List.filterMap_congr fun name hname => ?_)
    rw [hvalues name (List.mem_append_right _ hname)]
  have hdescribing : describingAttributes.filterMap
        (fun name => (t.element.attributes.nonEmpty? name).map (predicate name))
      = describingAttributes.filterMap
        fun name => (s.element.attributes.nonEmpty? name).map (predicate name) := by
    refine List.filterMap_congr fun name hname => ?_
    rw [hvalues name (List.mem_append_left _ (List.mem_cons_of_mem _ hname))]
  have hclasses : t.element.classes = s.element.classes := by
    rw [Element.classes, Element.classes, hnames "class" List.mem_cons_self]
  rw [ofSite, ofSite, htest, htag, hdescribing, hclasses, hposition, hcount]

/-- What a segment asks for is asked of the attributes that segments speak of. -/
theorem names_compound (settings : Settings) (s : Site) :
    (compound settings s).names ⊆ namesRead settings := by
  have hshown : ∀ a ∈ shownAttributes settings s.element, a.1 ∈ namesRead settings := by
    intro a ha
    unfold shownAttributes at ha
    split at ha
    · rename_i shown ht
      rw [List.mem_singleton.mp ha]
      exact List.mem_append_right _ (Settings.testAttribute?_eq_some ht).1
    · exact List.mem_append_left _ (List.mem_cons_of_mem _ (mem_description ha).1)
  intro name hname
  rw [compound_eq, Selector.Compound.names, List.map_map, List.map_map] at hname
  rcases List.mem_append.mp hname with hclass | hcondition
  · obtain ⟨-, -, rfl⟩ := List.mem_map.mp hclass
    exact List.mem_append_left _ List.mem_cons_self
  · obtain ⟨a, ha, rfl⟩ := List.mem_map.mp hcondition
    exact hshown a ha

end Segment

/-- No compound of the selector asks for the attribute. A text that is no selector asks for
nothing. -/
def Selector.Avoids (text name : String) : Prop :=
  ∀ g, parse text = .ok g → ∀ chain ∈ g, ∀ c ∈ chain.compounds, name ∉ c.names

namespace Document

def HasPlainTags (d : Document) : Prop := ∀ p ∈ d.places, ∀ s ∈ p.site?, Text.isPlain s.tag = true

instance (d : Document) : Decidable d.HasPlainTags :=
  inferInstanceAs (Decidable (∀ p ∈ d.places, ∀ s ∈ p.site?, Text.isPlain s.tag = true))

variable {d d' : Document} {settings : Settings}

theorem WellFormed.site?_eq_none (h : d.WellFormed) {node : NodeId} (hnode : d.size ≤ node) :
    d.site? node = none := by
  have hplace : d.place? node = none := by
    rw [place?, List.find?_eq_none]
    intro p hp
    rw [places_eq] at hp
    have hlt := h.below_size _ (Node.id_mem_ids hp)
    simpa using (hlt.trans_le hnode).ne
  rw [site?, hplace, Option.bind_none]

/-- Tags, numbers and all other attributes stay, and nothing comes or goes. -/
structure Rewritten (d d' : Document) (name : String) (id : NodeId) (f : Element → Element) :
    Prop where
  grown : d.Grown d' id f []
  size : d'.size = d.size
  wellFormed : d'.WellFormed
  keeps : ∀ other ≠ name, ∀ e, (f e).attribute? other = e.attribute? other

theorem rewritten_setAttribute? (h : d.WellFormed) {id : NodeId} {name value : String}
    (hd : d.setAttribute? id name value = some d') :
    d.Rewritten d' name id (fun e => { e with attributes := e.attributes.insert name value }) where
  grown := grown_setAttribute? hd
  size := size_setAttribute? hd
  wellFormed := h.setAttribute? hd
  keeps _ hother e := Attributes.lookup_insertEntry_of_ne hother value e.attributes.entries

namespace Rewritten

variable {name : String} {id : NodeId} {f : Element → Element} (h : d.WellFormed)
  (r : d.Rewritten d' name id f)

include h r

theorem places_eq : d'.places = d.places.map (Place.map (Element.update id f)) := by
  have hall : ∀ p ∈ d'.places, decide (p.id < d.size) = true := by
    intro p hp
    rw [Document.places_eq] at hp
    exact decide_eq_true (r.size ▸ r.wellFormed.below_size _ (Node.id_mem_ids hp))
  rw [← r.grown.filter_places h, List.filter_eq_self.mpr hall]

theorem not_new {s : Site} (hs : s ∈ d'.elements) : ¬ d.size ≤ s.id := by
  intro hnew
  obtain ⟨above, hplace⟩ := r.grown.exists_place_of_new h hs hnew
  cases hplace

theorem elements_eq : d'.elements = d.elements.map (Site.map (Element.update id f)) := by
  have hall : ∀ s ∈ d'.elements, decide (s.id < d.size) = true := fun s hs =>
    decide_eq_true (Nat.not_le.mp (r.not_new h hs))
  rw [← r.grown.filter_elements h, List.filter_eq_self.mpr hall]

theorem site?_eq (node : NodeId) :
    d'.site? node = (d.site? node).map (Site.map (Element.update id f)) := by
  rcases Nat.lt_or_ge node d.size with hlt | hge
  · exact r.grown.site?_eq h hlt
  · rw [h.site?_eq_none hge, r.wellFormed.site?_eq_none (r.size.trans_le hge), Option.map_none]

theorem hasPlainTags (htags : d.HasPlainTags) : d'.HasPlainTags := by
  intro q hq s hs
  rw [r.places_eq h] at hq
  obtain ⟨p, hp, rfl⟩ := List.mem_map.mp hq
  rw [Place.site?_map] at hs
  obtain ⟨t, ht, rfl⟩ := Option.map_eq_some_iff.mp hs
  have htag : (t.map (Element.update id f)).tag = t.tag := r.grown.change.tag_update t.element
  rw [htag]
  exact htags p hp t ht

theorem uniqueId?_update (hid : name ≠ "id") {s : Site}
    (hs : ⟨.element s.element, s.ancestors⟩ ∈ d.places) :
    d'.uniqueId? (s.element.update id f) = d.uniqueId? s.element :=
  r.grown.uniqueId?_update h (r.keeps "id" hid.symm)
    (fun _ ht hnew => absurd hnew (r.not_new h ht)) hs

theorem ofSite_map (hname : name ∉ Segment.namesRead settings) {s : Site}
    (hs : ⟨.element s.element, s.ancestors⟩ ∈ d.places) :
    Segment.ofSite settings (s.map (Element.update id f)) = Segment.ofSite settings s := by
  obtain ⟨more, hsiblings, hmore⟩ := r.grown.siblingsOfType_map h hs
  refine Segment.ofSite_congr (r.grown.change.tag_update _)
    (fun other hother => Element.attribute?_update
      (r.keeps other (ne_of_mem_of_not_mem hother hname)) _)
    (r.grown.position_map h hs) ?_
  rw [hsiblings, hmore rfl, List.append_nil, List.length_map]

theorem compound_holds_map {c : Selector.Compound} (hc : name ∉ c.names) {s : Site}
    (hs : ⟨.element s.element, s.ancestors⟩ ∈ d.places) :
    c.holds (s.map (Element.update id f)) = c.holds s :=
  Selector.Compound.holds_congr (r.grown.change.tag_update _)
    (fun other hother => Element.attribute?_update
      (r.keeps other (ne_of_mem_of_not_mem hother hc)) _)
    (.inr (r.grown.position_map h hs))

/-- A selector that does not ask for the attribute means the same elements as before. -/
theorem resolvesTo_eq {text : String} (havoids : Selector.Avoids text name) (target : NodeId) :
    d'.resolvesTo text target = d.resolvesTo text target := by
  rw [resolvesTo, resolvesTo, query, query]
  cases hparse : Selector.parse text with
  | error fault => rfl
  | ok g =>
    have hholds : ∀ s ∈ d.elements,
        (g.holds ∘ Site.map (Element.update id f)) s = g.holds s := by
      intro s hs
      have hplace := place_of_mem hs
      refine any_congr_of_mem fun chain hchain => Selector.Chain.holds_map fun c hc t ht => ?_
      exact r.compound_holds_map h (havoids g hparse chain hchain c hc)
        (place_of_mem_withAncestors hplace ht)
    have hselect : d'.select g = (d.select g).map (Site.map (Element.update id f)) := by
      rw [select, select, r.elements_eq h, List.filter_map, List.filter_congr hholds]
    simp only [Except.map, hselect, Site.ids_map _ r.grown.change.id_update]

/-- One level after the other, the search does what it did before. -/
theorem climb_map (hname : name ∉ Segment.namesRead settings) (target : NodeId)
    (passed levels : List Site)
    (hplaces : ∀ l ∈ passed ++ levels, ⟨.element l.element, l.ancestors⟩ ∈ d.places)
    (havoids : ∀ path ≠ [], path <+: passed ++ levels →
      Selector.Avoids (Segment.pathText settings path) name) :
    d'.climb settings target (levels.map (Site.map (Element.update id f)))
        (Segment.passedTexts settings passed)
      = d.climb settings target levels (Segment.passedTexts settings passed) := by
  induction levels generalizing passed with
  | nil => rfl
  | cons l above ih =>
    have hsplit : passed ++ l :: above = (passed ++ [l]) ++ above := by simp
    rw [hsplit] at hplaces havoids
    have hself := hplaces l (List.mem_append_left _ List.mem_concat_self)
    have hne : passed ++ [l] ≠ [] := List.append_ne_nil_of_right_ne_nil _ (List.cons_ne_nil l [])
    have hresolves := r.resolvesTo_eq h (havoids _ hne (List.prefix_append _ _)) target
    have hpath : Segment.pathText settings (passed ++ [l])
        = Segment.join (Segment.passedTexts settings (passed ++ [l])) := rfl
    rw [hpath] at hresolves
    rw [List.map_cons, climb, climb, r.ofSite_map h hname hself,
      ← Segment.passedTexts_concat, hresolves, ih _ hplaces havoids]

/-- The structural locator stays if no path that is tried for it asks for the attribute. -/
theorem structural_map (hid : name ≠ "id") (hname : name ∉ Segment.namesRead settings) {s : Site}
    (hs : ⟨.element s.element, s.ancestors⟩ ∈ d.places)
    (havoids : ∀ path ≠ [], path <+: d.levels s →
      Selector.Avoids (Segment.pathText settings path) name) :
    d'.structural settings (s.map (Element.update id f)) = d.structural settings s := by
  have hmap : ∀ t : Site, (t.map (Element.update id f)).id = t.id :=
    Site.id_map _ r.grown.change.id_update
  have hunique : d'.uniqueId? (s.map (Element.update id f)).element = d.uniqueId? s.element :=
    r.uniqueId?_update h hid hs
  have hclimb : d'.climb settings s.id
        ((s.map (Element.update id f)).withAncestors.takeWhile (·.id ≠ d.root.id)) []
      = d.climb settings s.id (s.withAncestors.takeWhile (·.id ≠ d.root.id)) [] := by
    rw [Site.withAncestors_map, List.takeWhile_map, Function.comp_def]
    simp only [hmap]
    refine r.climb_map h hname s.id [] _ (fun l hl => ?_) havoids
    rw [List.nil_append] at hl
    exact place_of_mem_withAncestors hs ((List.takeWhile_sublist _).subset hl)
  rw [structural, structural, hmap, r.grown.root_id, hunique, hclimb]

end Rewritten

/-- The path through levels that stand somewhere on the page is a selector with a compound for each
of them. -/
theorem Reachable.parse_pathText (hd : d.Reachable)
    (hplain : ∀ n ∈ settings.testAttributes, Text.isPlain n = true) (htags : d.HasPlainTags)
    {levels : List Site} (hne : levels ≠ [])
    (hplaces : ∀ l ∈ levels, ⟨.element l.element, l.ancestors⟩ ∈ d.places) :
    ∃ chain, Selector.parse (Segment.pathText settings levels) = .ok [chain] ∧
      ∀ c ∈ chain.compounds, ∃ l ∈ levels, c = Segment.compound settings l := by
  obtain ⟨s, above, rfl⟩ := List.exists_cons_of_ne_nil hne
  refine ⟨_, Segment.parse_pathText fun l hl => ?_, fun c hc => ?_⟩
  · have hplace := hplaces l hl
    exact Segment.written_text hplain (htags _ hplace l rfl) (hd.position_lt hplace)
  · rw [Segment.path_eq_chainOf, Segment.compounds_chainOf, List.mem_reverse] at hc
    obtain ⟨l, hl, rfl⟩ := List.mem_map.mp hc
    exact ⟨l, hl, rfl⟩

/-- With plain names, the paths of an element ask for the attributes that segments speak of, and for
no others. -/
theorem Reachable.avoids_pathText (hd : d.Reachable)
    (hplain : ∀ n ∈ settings.testAttributes, Text.isPlain n = true) (htags : d.HasPlainTags)
    {name : String} (hname : name ∉ Segment.namesRead settings) {s : Site}
    (hs : ⟨.element s.element, s.ancestors⟩ ∈ d.places) {path : List Site} (hne : path ≠ [])
    (hpath : path <+: d.levels s) : Selector.Avoids (Segment.pathText settings path) name := by
  intro g hparse chain hchain c hc hmem
  have hplaces : ∀ l ∈ path, ⟨.element l.element, l.ancestors⟩ ∈ d.places := fun l hl =>
    place_of_mem_withAncestors hs ((List.takeWhile_sublist _).subset (hpath.subset hl))
  obtain ⟨only, honly, hcompounds⟩ := hd.parse_pathText hplain htags hne hplaces
  rw [honly] at hparse
  obtain rfl : [only] = g := Except.ok.inj hparse
  rw [List.mem_singleton.mp hchain] at hc
  obtain ⟨l, -, rfl⟩ := hcompounds c hc
  exact hname (Segment.names_compound settings l hmem)

structure SameLocators (settings : Settings) (d now : Document) : Prop where
  structural : ∀ node,
    (now.site? node).map (now.structural settings) = (d.site? node).map (d.structural settings)
  absolute : ∀ node, (now.site? node).map now.absolute = (d.site? node).map d.absolute

theorem SameLocators.refl (settings : Settings) (d : Document) : d.SameLocators settings d :=
  ⟨fun _ => rfl, fun _ => rfl⟩

theorem SameLocators.trans {e : Document} (h : d.SameLocators settings d')
    (k : d'.SameLocators settings e) : d.SameLocators settings e :=
  ⟨fun node => (k.structural node).trans (h.structural node),
    fun node => (k.absolute node).trans (h.absolute node)⟩

theorem sameLocators_of_forest (hforest : d'.forest = d.forest) (hroot : d'.root = d.root) :
    d.SameLocators settings d' := by
  have hsite : d'.site? = d.site? := by
    funext node
    rw [site?, site?, place?, place?, places_eq, places_eq, hforest]
  constructor
  · intro node
    rw [hsite]
    exact Option.map_congr fun s _ => structural_congr hroot settings s
  · intro node
    rw [hsite]
    exact Option.map_congr fun s _ => absolute_congr hroot s

theorem Rewritten.sameLocators {name : String} {id : NodeId} {f : Element → Element}
    (hd : d.Reachable) (r : d.Rewritten d' name id f)
    (hname : name ∉ "id" :: Segment.namesRead settings)
    (hplain : ∀ n ∈ settings.testAttributes, Text.isPlain n = true) (htags : d.HasPlainTags) :
    d.SameLocators settings d' := by
  have h := hd.wellFormed
  obtain ⟨hid, hnames⟩ := List.ne_and_not_mem_of_not_mem_cons hname
  constructor
  · intro node
    rw [r.site?_eq h, Option.map_map]
    refine Option.map_congr fun s hs => ?_
    have hplace := (place_of_site? hs).1
    exact r.structural_map h hid hnames hplace fun _ hne hpath =>
      hd.avoids_pathText hplain htags hnames hplace hne hpath
  · intro node
    rw [r.site?_eq h, Option.map_map]
    refine Option.map_congr fun s hs => ?_
    have hplace := (place_of_site? hs).1
    exact r.grown.absolute_map h hplace fun l hl =>
      r.uniqueId?_update h hid (place_of_mem_withAncestors hplace hl)

end Document

/-- The edit moves nothing, and it sets no attribute that a locator names. -/
def Edit.isQuiet (settings : Settings) : Edit → Bool
  | setAttribute _ name _ => ! ("id" :: Segment.namesRead settings).contains name
  | append .. => false
  | detach _ => false
  | _ => true

namespace Document

variable {d : Document} {settings : Settings}

/-- One quiet edit. -/
theorem sameLocators_perform (hd : d.Reachable)
    (hplain : ∀ n ∈ settings.testAttributes, Text.isPlain n = true) (htags : d.HasPlainTags)
    {e : Edit} (he : e.isQuiet settings = true) :
    d.SameLocators settings (d.perform e) ∧ (d.perform e).HasPlainTags ∧
      (d.perform e).size = d.size := by
  have hsame : ∀ {now : Document}, now.root = d.root → now.detached = d.detached →
      now.size = d.size → d.SameLocators settings now ∧ now.HasPlainTags ∧ now.size = d.size := by
    intro now hroot hdetached hsize
    have hforest : now.forest = d.forest := by rw [forest, forest, hroot, hdetached]
    refine ⟨sameLocators_of_forest hforest hroot, ?_, hsize⟩
    rw [HasPlainTags, places_eq, hforest, ← places_eq]
    exact htags
  cases e with
  | append => cases he
  | detach => cases he
  | focus id => exact hsame rfl rfl rfl
  | withUrl url => exact hsame rfl rfl rfl
  | withFrame host => exact hsame rfl rfl rfl
  | setOutline id value =>
    rw [perform, setOutline?]
    split
    · exact hsame rfl rfl rfl
    · exact hsame rfl rfl rfl
  | setAttribute id name value =>
    rw [perform]
    cases hset : d.setAttribute? id name value with
    | none => exact hsame rfl rfl rfl
    | some now =>
      have hname : name ∉ "id" :: Segment.namesRead settings := by
        simpa [Edit.isQuiet] using he
      have r := rewritten_setAttribute? hd.wellFormed hset
      exact ⟨r.sameLocators hd hname hplain htags, r.hasPlainTags hd.wellFormed htags, r.size⟩

/-- Outlines, focus, address and frame are changed at will, and so are the attributes that locators
do not name. All locators stay as they are. -/
theorem sameLocators_run (hd : d.Reachable)
    (hplain : ∀ n ∈ settings.testAttributes, Text.isPlain n = true) (htags : d.HasPlainTags)
    {edits : List Edit} (hquiet : ∀ e ∈ edits, e.isQuiet settings = true) :
    d.SameLocators settings (edits.foldl perform d) := by
  induction edits generalizing d with
  | nil => exact .refl settings d
  | cons e edits ih =>
    obtain ⟨he, hedits⟩ := List.forall_mem_cons.mp hquiet
    obtain ⟨hstep, hkept, hsize⟩ := sameLocators_perform hd hplain htags he
    exact hstep.trans (ih (.edit e hd (hsize.trans_le hd.size_le)) hkept hedits)

/-- The second link, which is found by its place, gets a title, and the menu a role. -/
theorem sameLocators_run_twoMenus :
    let edits : List Edit := [.setAttribute 6 "title" "x", .setOutline 3 "red", .focus (some 6),
      .setAttribute 2 "role" "menu", .withFrame .empty]
    let now := edits.foldl perform twoMenus
    twoMenus.SameLocators .standard now ∧
      (now.site? 6).map (fun s => s.element.attribute? "title") = some (some "x") ∧
      (now.site? 6).map (fun s => (now.structural .standard s).value)
        = some "nav:nth-of-type(2) > a.\\31 st" := by
  intro edits now
  have hd : twoMenus.Reachable := .start (.markup _) (by decide)
  have hsame : twoMenus.SameLocators .standard now :=
    sameLocators_run hd (by decide) (by decide) (by decide)
  exact ⟨hsame, by decide, by decide +kernel⟩

end Document

end Pinpoint
