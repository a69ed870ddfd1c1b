import Pinpoint.Locator.Absolute
import Pinpoint.Proofs.Document.Ancestry
import Pinpoint.Proofs.Document.Persistence
import Pinpoint.Proofs.Locator.Literal
import Pinpoint.Proofs.Locator.Structural

/-! Absolute locators. The steps that they are written from lead from the document to their element
and to nothing else, and they are said to be unique exactly for the elements of the tree. -/

namespace Pinpoint

namespace XPath

inductive Start where
  | top (tag : String)
  | identified (literal : String)

def Start.text : Start → String
  | top tag => "/" ++ tag
  | identified literal => "//*[@id=" ++ literal ++ "]"

structure Step where
  tag : String
  position : Nat

def Step.text (step : Step) : String :=
  "/" ++ step.tag ++ "[" ++ toString step.position ++ "]"

structure Path where
  start : Start
  steps : List Step

namespace Path

def text (p : Path) : String := p.start.text ++ String.join (p.steps.map Step.text)

def child (p : Path) (step : Step) : Path := { p with steps := p.steps ++ [step] }

theorem text_child (p : Path) (step : Step) : (p.child step).text = p.text ++ step.text := by
  simp [text, child, String.append_assoc]

end Path

def Start.select (d : Document) : Start → List Site
  | top tag => if d.root.tag = tag then [⟨d.root, []⟩] else []
  | identified literal => d.elements.filter fun s =>
    (value? literal).any fun value => s.element.attribute? "id" = some value

def Step.select (step : Step) (s : Site) : Option Site :=
  match step.position with
  | 0 => none
  | n + 1 => (s.element.elementChildren.filter (·.tag = step.tag))[n]?.map fun e =>
    ⟨e, s.element :: s.ancestors⟩

def Path.evaluate (d : Document) (p : Path) : List Site :=
  p.steps.foldl (fun sites step => sites.filterMap step.select) (p.start.select d)

theorem Path.evaluate_child (d : Document) (p : Path) (step : Step) :
    (p.child step).evaluate d = (p.evaluate d).filterMap step.select := by
  simp [evaluate, child]

end XPath

namespace Document

open XPath

variable {d : Document}

/-- The steps of the path to a level, given the levels above it. -/
def stepsTo (d : Document) (level : Site) (above : List Site) : Path :=
  match d.uniqueId? level.element with
  | some id => ⟨.identified (Locator.literal id), []⟩
  | none =>
    match above with
    | [] => ⟨.top level.tag, []⟩
    | parent :: above => (d.stepsTo parent above).child ⟨level.tag, level.position⟩

theorem stepsTo_of_uniqueId {level : Site} {id : String} (h : d.uniqueId? level.element = some id)
    (above : List Site) :
    d.stepsTo level above = ⟨.identified (Locator.literal id), []⟩ := by
  unfold stepsTo
  rw [h]

theorem stepsTo_nil {level : Site} (h : d.uniqueId? level.element = none) :
    d.stepsTo level [] = ⟨.top level.tag, []⟩ := by
  unfold stepsTo
  rw [h]

theorem stepsTo_cons {level : Site} (h : d.uniqueId? level.element = none) (parent : Site)
    (above : List Site) :
    d.stepsTo level (parent :: above)
      = (d.stepsTo parent above).child ⟨level.tag, level.position⟩ := by
  conv_lhs => unfold stepsTo
  rw [h]

theorem pathTo_fst (level : Site) (above : List Site) :
    (d.pathTo (level :: above)).1 = (d.stepsTo level above).text := by
  induction above generalizing level with
  | nil =>
    cases h : d.uniqueId? level.element with
    | some id =>
      rw [stepsTo_of_uniqueId h, pathTo, h]
      simp [Path.text, Start.text]
    | none =>
      rw [stepsTo_nil h, pathTo, h]
      simp [Path.text, Start.text]
  | cons parent above ih =>
    cases h : d.uniqueId? level.element with
    | some id =>
      rw [stepsTo_of_uniqueId h, pathTo, h]
      simp [Path.text, Start.text]
    | none =>
      rw [stepsTo_cons h, Path.text_child, ← ih, pathTo, h]
      simp [Step.text, String.append_assoc]

/-- A path is anchored at an identifier, or because it begins at the document element. -/
theorem pathTo_snd {levels : List Site} :
    (d.pathTo levels).2 = true ↔ (∃ l ∈ levels, (d.uniqueId? l.element).isSome = true) ∨
      ∃ l, levels.getLast? = some l ∧ l.id = d.root.id := by
  induction levels with
  | nil => simp [pathTo]
  | cons level rest ih =>
    rw [pathTo]
    cases h : d.uniqueId? level.element with
    | some id => simp [h]
    | none =>
      cases rest with
      | nil => simp [h]
      | cons parent rest =>
        rw [List.getLast?_cons_cons]
        simp only [List.isEmpty_cons, Bool.false_eq_true, if_false]
        rw [ih, List.exists_mem_cons_iff _ level, h]
        simp

theorem WellFormed.identified_select (h : d.WellFormed) {s : Site} (hs : s ∈ d.elements)
    {id : String} (hid : d.uniqueId? s.element = some id) :
    (Start.identified (Locator.literal id)).select d = [s] := by
  obtain ⟨hvalue, -, hunique⟩ := uniqueId?_eq_some hid
  rw [Start.select, Locator.value?_literal]
  refine h.filter_elements hs (by simpa using hvalue) fun e he hsame => ?_
  have hmem : e ∈ d.withId id := List.mem_filter.mpr ⟨he, by simpa using hsame⟩
  have heq : e.id ∈ [s.id] := by
    rw [Site.id, ← hunique]
    exact List.mem_map_of_mem hmem
  exact h.site_unique he hs (List.mem_singleton.mp heq)

/-- The step to an element selects it among the children of its parent. -/
theorem WellFormed.step_select (h : d.WellFormed) {s t : Site} (hs : s ∈ d.elements)
    (hp : s.parent? = some t) : Step.select ⟨s.tag, s.position⟩ t = some s := by
  have hsib := Site.siblingsOfType_of_parent hp
  have hlt : s.siblingsOfType.findIdx (·.id = s.id) < s.siblingsOfType.length :=
    List.findIdx_lt_length_of_exists ⟨_, mem_siblingsOfType hs, by simp [Site.id]⟩
  have hfound := List.findIdx_getElem (w := hlt)
  rw [decide_eq_true_eq] at hfound
  have hmem := List.getElem_mem hlt
  change ((t.element.elementChildren.filter (·.tag = s.tag))[s.siblingsOfType.findIdx
    (·.id = s.id)]?).map _ = some s
  rw [← hsib, List.getElem?_eq_getElem hlt, Option.map_some]
  generalize s.siblingsOfType[s.siblingsOfType.findIdx (·.id = s.id)] = e at hfound hmem ⊢
  rw [hsib] at hmem
  have hchild := child_mem_elements (parent_mem_elements hs hp).1 (List.mem_filter.mp hmem).1
  rw [h.site_unique hchild hs hfound]

theorem WellFormed.stepsTo_evaluate (h : d.WellFormed) {s : Site} (hs : s ∈ d.elements) :
    (d.stepsTo s s.above).evaluate d = [s] := by
  -- on the ancestors: the steps so far lead to the parent alone, and one more to its child
  obtain ⟨e, ancestors⟩ := s
  induction ancestors generalizing e with
  | nil =>
    cases hid : d.uniqueId? e with
    | some id =>
      rw [stepsTo_of_uniqueId hid]
      exact h.identified_select hs hid
    | none =>
      rcases elements_cases hs with hroot | ⟨p, rest, ⟨⟩, -⟩
      cases hroot
      rw [Site.above, Site.ofChain, stepsTo_nil hid]
      exact if_pos rfl
  | cons p rest ih =>
    cases hid : d.uniqueId? e with
    | some id =>
      rw [stepsTo_of_uniqueId hid]
      exact h.identified_select hs hid
    | none =>
      have hparent : Site.parent? ⟨e, p :: rest⟩ = some ⟨p, rest⟩ := rfl
      have hp := (parent_mem_elements hs hparent).1
      rw [above_of_parent hparent, stepsTo_cons hid, Path.evaluate_child, ih p hp,
        List.filterMap_cons, h.step_select hs hparent]
      rfl

theorem getLast?_withAncestors {s : Site} (hs : s ∈ d.elements) :
    s.withAncestors.getLast? = some ⟨d.root, []⟩ := by
  obtain ⟨e, ancestors⟩ := s
  induction ancestors generalizing e with
  | nil =>
    rcases elements_cases hs with hroot | ⟨p, rest, ⟨⟩, -⟩
    rw [hroot]
    rfl
  | cons p rest ih =>
    have hparent : Site.parent? ⟨e, p :: rest⟩ = some ⟨p, rest⟩ := rfl
    rw [Site.withAncestors_of_parent hparent, Site.withAncestors, List.getLast?_cons_cons]
    exact ih p (parent_mem_elements hs hparent).1

/-- What is above a node that was taken out of the tree was taken out with it. -/
theorem withAncestors_detached {s : Site}
    (hs : ⟨.element s.element, s.ancestors⟩ ∈ Node.placesAll [] d.detached) :
    ∀ l ∈ s.withAncestors, l.id ∈ Node.ids d.detached := by
  obtain ⟨e, ancestors⟩ := s
  induction ancestors generalizing e with
  | nil =>
    intro l hl
    rw [List.mem_singleton.mp hl]
    exact Node.id_mem_ids hs
  | cons p rest ih =>
    intro l hl
    rw [Site.withAncestors_of_parent (t := ⟨p, rest⟩) rfl] at hl
    rcases List.mem_cons.mp hl with rfl | hl
    · exact Node.id_mem_ids hs
    · rcases Node.mem_placesAll_cases hs with ⟨-, ⟨⟩⟩ | ⟨q, above, ⟨⟩, hq, -⟩
      exact ih p hq l hl

/-- A number occurs either in the tree or in what was taken out of it. -/
theorem WellFormed.not_mem_ids_root (h : d.WellFormed) {id : NodeId}
    (hid : id ∈ Node.ids d.detached) : id ∉ Node.ids [.element d.root] := by
  have hn := h.distinct
  rw [forest, ← List.singleton_append, Node.ids, Node.labels_append, List.map_append] at hn
  intro hroot
  exact List.disjoint_of_nodup_append hn hroot hid

theorem id_mem_ids_root {s : Site} (hs : s ∈ d.elements) : s.id ∈ Node.ids [.element d.root] := by
  rw [mem_elements, attachedPlaces_eq] at hs
  exact Node.id_mem_ids hs

theorem WellFormed.uniqueId?_eq_none (h : d.WellFormed) {e : Element}
    (hid : e.id ∈ Node.ids d.detached) : d.uniqueId? e = none := by
  cases hu : d.uniqueId? e with
  | none => rfl
  | some value =>
    obtain ⟨-, -, hunique⟩ := uniqueId?_eq_some hu
    obtain ⟨s, hs, heq⟩ : ∃ s ∈ d.withId value, s.id = e.id :=
      List.mem_map.mp (hunique ▸ List.mem_singleton_self _)
    have hroot := id_mem_ids_root (List.mem_filter.mp hs).1
    rw [heq] at hroot
    exact absurd hroot (h.not_mem_ids_root hid)

theorem site?_cases {node : NodeId} {s : Site} (hs : d.site? node = some s) :
    s.id = node ∧ (s ∈ d.elements ∨
      ⟨.element s.element, s.ancestors⟩ ∈ Node.placesAll [] d.detached) := by
  obtain ⟨p, hp, hps⟩ := Option.bind_eq_some_iff.mp hs
  have hid : p.id = node := by simpa using List.find?_some hp
  have hmem := List.mem_of_find?_eq_some hp
  rw [eq_element_of_site? hps] at hid hmem
  exact ⟨hid, (List.mem_append.mp hmem).imp_left mem_elements.mpr⟩

theorem absolute_resolution {s : Site} :
    (d.absolute s).resolution = .unique ↔ (d.pathTo s.withAncestors).2 = true := by
  rw [absolute]
  generalize d.pathTo s.withAncestors = path
  obtain ⟨value, anchored⟩ := path
  cases anchored <;> simp

theorem WellFormed.absolute_unique_iff (h : d.WellFormed) {node : NodeId} {s : Site}
    (hs : d.site? node = some s) :
    (d.absolute s).resolution = .unique ↔ d.isAttached node = true := by
  obtain ⟨rfl, hmem⟩ := site?_cases hs
  rw [absolute_resolution, isAttached_iff, pathTo_snd]
  rcases hmem with hs | hs
  · exact iff_of_true (.inr ⟨_, getLast?_withAncestors hs, rfl⟩) (id_mem_ids_root hs)
  · have hout := withAncestors_detached hs
    refine iff_of_false ?_ (h.not_mem_ids_root (hout s List.mem_cons_self))
    rintro (⟨l, hl, hu⟩ | ⟨l, hl, hroot⟩)
    · rw [h.uniqueId?_eq_none (hout l hl)] at hu
      cases hu
    · have hid := hout l (List.mem_of_getLast? hl)
      rw [hroot] at hid
      have hmem : ⟨d.root, []⟩ ∈ d.elements := mem_elements.mpr d.root_mem_attachedPlaces
      exact h.not_mem_ids_root hid (id_mem_ids_root hmem)

/-- Every element has an absolute locator. It is unique for the elements of the tree, and there its
steps lead to the element alone. -/
theorem absolute_exact (hd : d.Reachable) {node : NodeId} (hnode : d.isElement node = true) :
    ∃ s, d.site? node = some s ∧
      ((d.absolute s).resolution = .unique ↔ d.isAttached node = true) ∧
      (d.absolute s).value = (d.stepsTo s s.above).text ∧
      (d.isAttached node = true →
        ((d.stepsTo s s.above).evaluate d).map Site.id = [node]) := by
  have h := hd.wellFormed
  obtain ⟨s, hs⟩ := Option.isSome_iff_exists.mp hnode
  obtain ⟨hid, hmem⟩ := site?_cases hs
  refine ⟨s, hs, h.absolute_unique_iff hs, pathTo_fst s s.above, fun hattached => ?_⟩
  rcases hmem with hmem | hmem
  · rw [h.stepsTo_evaluate hmem, List.map_singleton, hid]
  · have hout := withAncestors_detached hmem s List.mem_cons_self
    rw [hid] at hout
    exact absurd (isAttached_iff.mp hattached) (h.not_mem_ids_root hout)

def quotedForm : Document :=
  let form : Markup := ⟨"form", .ofList [("id", "5'2\"")], [.element (.ofTag "input"),
    .element (.ofTag "input")]⟩
  .ofMarkup ⟨"html", .empty, [.element ⟨"body", .empty, [.element form]⟩]⟩

theorem absolute_exact_quotedForm :
    ∃ s, quotedForm.site? 4 = some s ∧ (quotedForm.absolute s).resolution = .unique ∧
      (quotedForm.absolute s).value = "//*[@id=concat(\"5'2\", '\"', \"\")]/input[2]" ∧
      ((quotedForm.stepsTo s s.above).evaluate quotedForm).map Site.id = [4] := by
  have hd : quotedForm.Reachable := .start (.markup _) (by decide)
  have hnode : quotedForm.isElement 4 = true := by decide
  obtain ⟨s, hs, hunique, -, heval⟩ := absolute_exact hd hnode
  have hvalue : (quotedForm.site? 4).map (fun s => (quotedForm.absolute s).value)
      = some "//*[@id=concat(\"5'2\", '\"', \"\")]/input[2]" := by
    decide +kernel
  rw [hs] at hvalue
  exact ⟨s, hs, hunique.mpr (by decide), Option.some.inj hvalue, heval (by decide)⟩

end Document

end Pinpoint
