import Pinpoint.Interaction.Session
import Pinpoint.Proofs.Document.Building
import Pinpoint.Proofs.Locator.Indifference
import Pinpoint.Proofs.Scan.Coverage

/-! Letter case in the types of inputs. The rules for elements, checkboxes and radio buttons compare
types in lower case. The rule for searching asks a selector, and a selector compares values as they
are written. So it alone can tell two spellings of a type apart. -/

namespace Pinpoint

structure Element.LooksLike (e' e : Element) : Prop where
  tag : e'.tag = e.tag
  attribute? : ∀ name ≠ "type", e'.attribute? name = e.attribute? name
  hasType : ∀ type, e'.hasType type = e.hasType type

namespace Element.LooksLike

variable {e e' : Element} (h : e'.LooksLike e)

include h

theorem has_eq {name : String} (hname : name ≠ "type") : e'.has name = e.has name := by
  rw [has, has, h.attribute? name hname]

theorem hasSome_eq {name : String} (hname : name ≠ "type") : e'.hasSome name = e.hasSome name :=
  congrArg (fun value => (Option.filter (· ≠ "") value).isSome) (h.attribute? name hname)

theorem isControl_eq : e'.isControl = e.isControl := by
  rw [isControl, isControl, h.tag]

theorem applies_eq (r : ElementRule) : r.applies e' = r.applies e := by
  cases r with
  | typed type => exact h.hasType type.name
  | _ =>
    simp (disch := decide) only [ElementRule.applies, h.isControl_eq, h.tag, h.hasType, h.has_eq,
      h.hasSome_eq, h.attribute?]

theorem advice_eq (r : ElementRule) (n : Nat) : r.advice n e' = r.advice n e := by
  cases r with
  | minLength => rw [ElementRule.advice, ElementRule.advice, h.attribute? _ (by decide)]
  | maxLength => rw [ElementRule.advice, ElementRule.advice, h.attribute? _ (by decide)]
  | _ => rfl

end Element.LooksLike

namespace Element

variable {id : NodeId}

theorem attribute?_update_of_ne (f : Element → Element) {e : Element} (h : e.id ≠ id)
    (name : String) : (e.update id f).attribute? name = e.attribute? name := by
  cases e
  rw [update, if_neg h]
  rfl

def retyped (type : String) (e : Element) : Element :=
  { e with attributes := e.attributes.insert "type" type }

theorem attribute?_retyped (type : String) (e : Element) :
    (e.retyped type).attribute? "type" = some type :=
  Attributes.lookup_insertEntry_self "type" type e.attributes.entries

theorem hasType_retyped {e : Element} {value new : String}
    (hvalue : e.attribute? "type" = some value) (hcase : Text.equalIgnoringCase new value = true)
    (type : String) :
    (e.retyped new).hasType type = e.hasType type := by
  have htrim : Text.lower (Text.trim new) = Text.lower (Text.trim value) := by
    rw [Text.lower_trim, Text.lower_trim, eq_of_beq hcase]
  have htag : (e.retyped new).tag = e.tag := rfl
  rw [hasType, hasType, htag, attribute?_retyped, hvalue, Option.any_some, Option.any_some, htrim]

end Element

namespace Document

variable {d d' : Document} {settings : Settings} {isExternal : Option String → String → Bool}

/-- For the rules of the scan the elements are what they were, and their locators stay. -/
structure LooksLike (d' d : Document) (settings : Settings) (φ : Element → Element) : Prop where
  elements : d'.elements = d.elements.map (Site.map φ)
  url : d'.url = d.url
  element : ∀ s ∈ d.elements, (φ s.element).LooksLike s.element
  structural : ∀ s ∈ d.elements, d'.structural settings (s.map φ) = d.structural settings s

namespace LooksLike

variable {φ : Element → Element} (h : d'.LooksLike d settings φ)

include h

theorem any_eq {p : Element → Bool} (hp : ∀ s ∈ d.elements, p (φ s.element) = p s.element) :
    d'.elements.any (fun s => p s.element) = d.elements.any fun s => p s.element := by
  rw [h.elements, List.any_map]
  exact any_congr_of_mem hp

theorem find?_hasType_eq (type : String) :
    (d'.elements.find? (·.element.hasType type)).map (fun s => (d'.structural settings s).value)
      = (d.elements.find? (·.element.hasType type)).map fun s =>
          (d.structural settings s).value := by
  have hfind : d.elements.find? ((·.element.hasType type) ∘ Site.map φ)
      = d.elements.find? (·.element.hasType type) :=
    List.find?_congr fun s hs => (h.element s hs).hasType type
  rw [h.elements, List.find?_map, hfind, Option.map_map]
  refine Option.map_congr fun s hs => ?_
  rw [Function.comp_apply, h.structural s (List.mem_of_find?_eq_some hs)]

theorem target?_eq {r : PageRule} (hr : r ≠ .search) :
    r.target? d' settings isExternal = r.target? d settings isExternal := by
  cases r with
  | search => exact absurd rfl hr
  | externalLink =>
    have hany := h.any_eq (p := fun e =>
      e.tag = "a" && (e.attribute? "href").any (isExternal d.url)) fun s hs => by
        rw [(h.element s hs).tag, (h.element s hs).attribute? "href" (by decide)]
    rw [PageRule.target?, PageRule.target?, h.url]
    exact congrArg (fun found : Bool => if found then some "a[href]" else none) hany
  | checkbox => exact h.find?_hasType_eq "checkbox"
  | radio => exact h.find?_hasType_eq "radio"
  | frame =>
    have hany := h.any_eq (p := fun e => e.tag = "iframe") fun s hs => by
      rw [(h.element s hs).tag]
    exact congrArg (fun found : Bool => if found then some "iframe" else none) hany

theorem cases_element_eq (r : ElementRule) :
    (ScanRule.element r).cases d' settings isExternal
      = (ScanRule.element r).cases d settings isExternal := by
  have hfilter : d.elements.filter ((fun s => r.applies s.element) ∘ Site.map φ)
      = d.elements.filter fun s => r.applies s.element :=
    List.filter_congr fun s hs => (h.element s hs).applies_eq r
  rw [ScanRule.cases, ScanRule.cases, h.elements, List.filter_map, hfilter, List.zipIdx_map,
    List.map_map]
  apply List.map_congr_left
  rintro ⟨s, n⟩ hs
  have hmem : s ∈ d.elements := List.mem_of_mem_filter (List.fst_mem_of_mem_zipIdx hs)
  have hadvice := (h.element s hmem).advice_eq r n
  simp only [Function.comp_apply, Prod.map_apply, id_eq, h.structural s hmem]
  exact congrArg (Advice.at_ · _) hadvice

/-- Only the rule for searching may find something else. -/
theorem cases_eq {p : ScanPart} (hp : p ≠ .once .search) :
    p.cases d' settings isExternal = p.cases d settings isExternal := by
  cases p with
  | forms =>
    rw [ScanPart.cases, ScanPart.cases, adviseForms_eq isExternal, adviseForms_eq isExternal]
    exact h.cases_element_eq .form
  | each rs =>
    rw [ScanPart.cases, ScanPart.cases, h.elements, List.flatMap_map]
    refine List.flatMap_congr fun s hs => ?_
    have helement : (s.map φ).element.LooksLike s.element := h.element s hs
    rw [advise, advise, h.structural s hs]
    simp only [helement.applies_eq, helement.advice_eq]
  | once r =>
    have hr : r ≠ .search := fun heq => hp (congrArg _ heq)
    rw [ScanPart.cases, ScanPart.cases, ScanRule.cases, ScanRule.cases, h.target?_eq hr]

theorem filter_scan_eq :
    (d'.scan settings isExternal).filter (·.rule? ≠ some (.page .search))
      = (d.scan settings isExternal).filter (·.rule? ≠ some (.page .search)) := by
  rw [scan_eq, scan_eq, List.filter_flatMap, List.filter_flatMap]
  refine List.flatMap_congr fun p _ => ?_
  by_cases hp : p = .once .search
  · subst hp
    have hnone : ∀ d : Document, (ScanPart.cases d settings isExternal (.once .search)).filter
        (·.rule? ≠ some (.page .search)) = [] := by
      intro d
      rw [List.filter_eq_nil_iff]
      intro c hc hrule
      exact of_decide_eq_true hrule (rule?_cases hc)
    rw [hnone, hnone]
  · rw [h.cases_eq hp]

theorem scan_eq_iff : d'.scan settings isExternal = d.scan settings isExternal ↔
    (0 < d'.matchCount searchSelector ↔ 0 < d.matchCount searchSelector) := by
  constructor
  · intro hscan
    have hcases := congrArg (List.filter (·.rule? = some (.page .search))) hscan
    rw [filter_scan, filter_scan, ScanRule.cases, ScanRule.cases, PageRule.target?,
      PageRule.target?, map_toList_ite, map_toList_ite] at hcases
    constructor
    · intro hnow
      by_contra hbefore
      rw [if_pos hnow, if_neg hbefore] at hcases
      cases hcases
    · intro hbefore
      by_contra hnow
      rw [if_neg hnow, if_pos hbefore] at hcases
      cases hcases
  · intro hcount
    rw [scan_eq, scan_eq]
    refine List.flatMap_congr fun p _ => ?_
    by_cases hp : p = .once .search
    · subst hp
      simp only [ScanPart.cases, ScanRule.cases, PageRule.target?, hcount]
    · exact h.cases_eq hp

end LooksLike

/-! The rule for searching -/

/-- The page has a search field, whatever the type of the given element is. -/
def HasSearchFieldApart (d : Document) (id : NodeId) : Prop :=
  ∃ t ∈ d.elements, t.element.attribute? "role" = some "search" ∨
    (t.id ≠ id ∧ t.tag = "input" ∧ t.element.attribute? "type" = some "search")

theorem WellFormed.matchCount_searchSelector_pos (h : d.WellFormed) :
    0 < d.matchCount searchSelector ↔ ∃ t ∈ d.elements,
      t.element.attribute? "role" = some "search" ∨
        (t.tag = "input" ∧ t.element.attribute? "type" = some "search") := by
  let field : Selector.Compound :=
    { Selector.Compound.any with tag := some "input", conditions := [.equals "type" "search"] }
  let marked : Selector.Compound :=
    { Selector.Compound.any with conditions := [.equals "role" "search"] }
  have hparse : Selector.parse searchSelector = .ok [.single field, .single marked] := by
    decide +kernel
  have hcount : d.matchCount searchSelector
      = (d.select [.single field, .single marked]).length := by
    rw [matchCount, query, hparse]
    rfl
  have hinput : Text.lower "input" = "input" := by decide
  rw [hcount, List.length_pos_iff_exists_mem]
  refine exists_congr fun t => ?_
  rw [select, List.mem_filter]
  refine and_congr_right fun ht => ?_
  simp [Selector.Group.holds, Selector.Chain.holds, Selector.Compound.holds, field, marked,
    Selector.Compound.any, Selector.Condition.holds, Text.equalIgnoringCase, hinput,
    h.lower_site_tag ht, or_comm, eq_comm (a := "input")]

theorem WellFormed.eq_of_site? (h : d.WellFormed) {s t : Site} (ht : t ∈ d.elements)
    (hs : d.site? t.id = some s) : t = s := by
  rw [h.site?_of_mem ht] at hs
  exact Option.some.inj hs

theorem WellFormed.mem_elements_of_isAttached (h : d.WellFormed) {id : NodeId} {s : Site}
    (hs : d.site? id = some s) (hattached : d.isAttached id = true) : s ∈ d.elements := by
  have helement : d.isElement id = true := by rw [isElement, hs, Option.isSome_some]
  obtain ⟨t, ht, rfl⟩ := List.mem_map.mp (h.mem_elements_iff.mpr ⟨hattached, helement⟩)
  rwa [← h.eq_of_site? ht hs]

/-- The page can be searched because of something else, or because the input is in the tree and its
type is `search` letter by letter. -/
theorem WellFormed.searchable_iff (h : d.WellFormed) {id : NodeId} {s : Site}
    (hs : d.site? id = some s) (htag : s.tag = "input") {value : String}
    (hvalue : s.element.attribute? "type" = some value) :
    0 < d.matchCount searchSelector ↔
      d.HasSearchFieldApart id ∨ (d.isAttached id = true ∧ value = "search") := by
  rw [h.matchCount_searchSelector_pos]
  constructor
  · rintro ⟨t, ht, hrole | ⟨hinput, htype⟩⟩
    · exact .inl ⟨t, ht, .inl hrole⟩
    · by_cases hid : t.id = id
      · subst hid
        rw [← h.eq_of_site? ht hs, htype] at hvalue
        exact .inr ⟨isAttached_of_mem ht, (Option.some.inj hvalue).symm⟩
      · exact .inl ⟨t, ht, .inr ⟨hid, hinput, htype⟩⟩
  · rintro (⟨t, ht, hrole | ⟨-, hinput, htype⟩⟩ | ⟨hattached, rfl⟩)
    · exact ⟨t, ht, .inl hrole⟩
    · exact ⟨t, ht, .inr ⟨hinput, htype⟩⟩
    · exact ⟨s, h.mem_elements_of_isAttached hs hattached, .inr ⟨htag, hvalue⟩⟩

/-! Another spelling of a type -/

def PathsAvoid (d : Document) (settings : Settings) (name : String) : Prop :=
  ∀ s ∈ d.elements, ∀ path ≠ [], path <+: d.levels s →
    Selector.Avoids (Segment.pathText settings path) name

theorem Reachable.pathsAvoid (hd : d.Reachable)
    (hplain : ∀ n ∈ settings.testAttributes, Text.isPlain n = true) (htags : d.HasPlainTags)
    {name : String} (hname : name ∉ Segment.namesRead settings) : d.PathsAvoid settings name :=
  fun _ hs _ hne hpath => hd.avoids_pathText hplain htags hname
    (place_of_mem hs) hne hpath

namespace Rewritten

variable {id : NodeId} {value new : String} (h : d.WellFormed)
  (r : d.Rewritten d' "type" id (Element.retyped new)) {s : Site} (hs : d.site? id = some s)
  (hvalue : s.element.attribute? "type" = some value)

include h r

theorem hasSearchFieldApart_iff : d'.HasSearchFieldApart id ↔ d.HasSearchFieldApart id := by
  have hrole : ∀ t : Site, (t.map (Element.update id (Element.retyped new))).element.attribute?
      "role" = t.element.attribute? "role" := fun t =>
    Element.attribute?_update (r.keeps "role" (by decide)) t.element
  have htag : ∀ t : Site, (t.map (Element.update id (Element.retyped new))).tag = t.tag := fun t =>
    r.grown.change.tag_update t.element
  have hid : ∀ t : Site, (t.map (Element.update id (Element.retyped new))).id = t.id := fun t =>
    r.grown.change.id_update t.element
  rw [HasSearchFieldApart, HasSearchFieldApart, r.elements_eq h]
  simp only [List.mem_map, exists_exists_and_eq_and, hrole, htag, hid]
  refine exists_congr fun t => and_congr_right fun _ => or_congr_right ?_
  refine and_congr_right fun hne => and_congr_right fun _ => ?_
  have htype : (t.map (Element.update id (Element.retyped new))).element.attribute? "type"
      = t.element.attribute? "type" := Element.attribute?_update_of_ne _ hne _
  rw [htype]

include hs

/-- The new type decides, if nothing else does, whether the page can be searched. -/
theorem searchable_iff (htag : s.tag = "input") :
    0 < d'.matchCount searchSelector ↔
      d.HasSearchFieldApart id ∨ (d.isAttached id = true ∧ new = "search") := by
  obtain ⟨hplace, hid⟩ := place_of_site? hs
  have hlt : id < d.size := by
    rw [Document.places_eq] at hplace
    exact hid ▸ h.below_size _ (Node.id_mem_ids hplace)
  have hsite : d'.site? id = some (s.map (Element.update id (Element.retyped new))) := by
    rw [r.site?_eq h, hs, Option.map_some]
  have hinput : (s.map (Element.update id (Element.retyped new))).tag = "input" :=
    (r.grown.change.tag_update s.element).trans htag
  have htype : (s.map (Element.update id (Element.retyped new))).element.attribute? "type"
      = some new := by
    rw [Site.map, Element.update_of_id _ hid]
    exact Element.attribute?_retyped new s.element
  rw [r.wellFormed.searchable_iff hsite hinput htype, r.hasSearchFieldApart_iff h,
    r.grown.isAttached_eq h hlt]

include hvalue

/-- A type in other letter case makes no difference to the rules for elements. -/
theorem looksLike (hcase : Text.equalIgnoringCase new value = true) (hurl : d'.url = d.url)
    (hname : "type" ∉ settings.testAttributes) (hpaths : d.PathsAvoid settings "type") :
    d'.LooksLike d settings (Element.update id (Element.retyped new)) where
  elements := r.elements_eq h
  url := hurl
  element t ht := by
    have htag : (t.element.update id (Element.retyped new)).tag = t.element.tag :=
      r.grown.change.tag_update t.element
    refine ⟨htag, fun name hname => ?_, fun type => ?_⟩
    · exact Element.attribute?_update (r.keeps name hname) t.element
    · by_cases hid : t.id = id
      · have hts : t = s := h.eq_of_site? ht (hid ▸ hs)
        rw [Element.update_of_id _ hid, hts, Element.hasType_retyped hvalue hcase]
      · rw [Element.hasType, Element.hasType, htag, Element.attribute?_update_of_ne _ hid]
  structural t ht := by
    have hread : "type" ∉ Segment.namesRead settings := by
      rw [Segment.namesRead, List.mem_append, not_or]
      exact ⟨by decide, hname⟩
    exact r.structural_map h (by decide) hread (place_of_mem ht) (hpaths t ht)

end Rewritten

/-- The type of an input is written anew, in other letter case, and no path asks for the type. Apart
from the rule for searching, the scan finds what it found. That rule knows its type in small letters
only: what it says changes with them, unless the input is out of the tree or the page can be
searched because of something else. -/
theorem scan_setAttribute_type (isExternal : Option String → String → Bool) (hd : d.Reachable)
    {id : NodeId} {s : Site} (hs : d.site? id = some s) (htag : s.tag = "input")
    {value new : String} (hvalue : s.element.attribute? "type" = some value)
    (hcase : Text.equalIgnoringCase new value = true) (hname : "type" ∉ settings.testAttributes)
    (hpaths : d.PathsAvoid settings "type") :
    ∃ now, d.setAttribute? id "type" new = some now ∧
      (now.scan settings isExternal).filter (·.rule? ≠ some (.page .search))
        = (d.scan settings isExternal).filter (·.rule? ≠ some (.page .search)) ∧
      (now.scan settings isExternal = d.scan settings isExternal ↔
        (new = "search" ↔ value = "search") ∨ d.isAttached id = false ∨
          d.HasSearchFieldApart id) := by
  have h := hd.wellFormed
  have helement : d.isElement id = true := by rw [isElement, hs, Option.isSome_some]
  obtain ⟨now, hnow⟩ : ∃ now, d.setAttribute? id "type" new = some now := ⟨_, if_pos helement⟩
  have r : d.Rewritten now "type" id (Element.retyped new) := rewritten_setAttribute? h hnow
  have hurl : now.url = d.url := by
    rw [eq_update_of_setAttribute? hnow]
    rfl
  have hlooks := r.looksLike h hs hvalue hcase hurl hname hpaths
  have hiff : now.scan settings isExternal = d.scan settings isExternal ↔ _ := hlooks.scan_eq_iff
  rw [r.searchable_iff h hs htag, h.searchable_iff hs htag hvalue] at hiff
  refine ⟨now, hnow, hlooks.filter_scan_eq, hiff.trans ?_⟩
  cases d.isAttached id with
  | false => simp
  | true =>
    by_cases hapart : d.HasSearchFieldApart id
    · simp [hapart]
    · simp [hapart]

def inputPage (type : String) : Document :=
  .ofMarkup ⟨"html", .empty, [.element ⟨"input", .ofList [("type", type)], []⟩]⟩

theorem scan_setAttribute_type_password :
    ∃ now, (inputPage "password").setAttribute? 1 "type" "PassWord" = some now ∧
      now.testCases .standard = (inputPage "password").testCases .standard ∧
      ((inputPage "password").testCases .standard).map TestCase.title
        = ["Password field behavior"] := by
  have hd : (inputPage "password").Reachable := .start (.markup _) (by decide)
  have hpaths : (inputPage "password").PathsAvoid .standard "type" :=
    hd.pathsAvoid (by decide) (by decide) (by decide)
  have hs : (inputPage "password").site? 1
      = some ((inputPage "password").elements.get ⟨1, by decide⟩) := rfl
  have hcase : Text.equalIgnoringCase "PassWord" "password" = true := by decide
  obtain ⟨now, hnow, -, hsame⟩ := scan_setAttribute_type Url.isExternal hd hs (by decide)
    (by decide) hcase (by decide) hpaths
  exact ⟨now, hnow, hsame.mpr (.inl (by decide)), by decide +kernel⟩

/-- In capitals the type of a search field is not recognized. -/
theorem scan_setAttribute_type_search :
    ∃ s now, (inputPage "search").site? 1 = some s ∧ s.tag = "input" ∧
      s.element.attribute? "type" = some "search" ∧
      Text.equalIgnoringCase "SEARCH" "search" = true ∧
      "type" ∉ Settings.standard.testAttributes ∧
      (inputPage "search").setAttribute? 1 "type" "SEARCH" = some now ∧
      ((inputPage "search").testCases .standard).map TestCase.title = ["Search behavior"] ∧
      now.testCases .standard = [] :=
  ⟨(inputPage "search").elements.get ⟨1, by decide⟩, _, rfl, by decide, by decide, by decide,
    by decide, rfl, by decide +kernel, by decide +kernel⟩

end Document

end Pinpoint
