import Pinpoint.Locator.Structural
import Pinpoint.Proofs.Document.Site
import Pinpoint.Proofs.Selector.Written
import Pinpoint.Selector.Match

/-! Segments as selectors. The text of a segment reads as one compound; the element of the segment
satisfies it, and so does no other child of the same parent. -/

namespace Pinpoint

def Element.NullFree (e : Element) (names : List String) : Prop :=
  ∀ name ∈ names, ∀ value, e.attribute? name = some value → '\x00' ∉ value.toList

instance (e : Element) (names : List String) : Decidable (e.NullFree names) :=
  inferInstanceAs (Decidable (∀ name ∈ names, ∀ value ∈ e.attribute? name, '\x00' ∉ value.toList))

theorem nonEmpty?_eq_some {e : Element} {name value : String}
    (h : e.attributes.nonEmpty? name = some value) : e.attribute? name = some value :=
  (Option.filter_eq_some_iff.mp h).1

theorem Settings.testAttribute?_eq_some {settings : Settings} {e : Element}
    {name value : String} (h : settings.testAttribute? e = some (name, value)) :
    name ∈ settings.testAttributes ∧ e.attribute? name = some value := by
  obtain ⟨n, hn, hv⟩ := List.exists_of_findSome?_eq_some h
  obtain ⟨v, hv, heq⟩ := Option.map_eq_some_iff.mp hv
  cases heq
  exact ⟨hn, nonEmpty?_eq_some hv⟩

theorem not_mem_of_mem_classes {e : Element} {names : List String} (h : e.NullFree names)
    (hclass : "class" ∈ names) {c : String} (hc : c ∈ e.classes) : '\x00' ∉ c.toList := by
  unfold Element.classes at hc
  split at hc
  · rename_i value hv
    exact fun hz => h _ hclass _ hv (Text.mem_of_mem_words hc hz)
  · simp at hc

namespace Segment

open Selector

def description (e : Element) : List (String × String) :=
  describingAttributes.filterMap fun name =>
    (e.attributes.nonEmpty? name).map fun value => (name, value)

def position? (s : Site) : Option Nat :=
  if 1 < s.siblingsOfType.length then some s.position else none

/-- A condition as it is read. -/
def lowerCondition : Condition → Condition
  | .present name => .present (Text.lower name)
  | .equals name value => .equals (Text.lower name) value

def lowerCompound (c : Compound) : Compound :=
  { c with tag := c.tag.map Text.lower, conditions := c.conditions.map lowerCondition }

def compound (settings : Settings) (s : Site) : Compound :=
  match settings.testAttribute? s.element with
  | some (name, value) =>
    { Compound.any with tag := some s.tag, conditions := [.equals name (softened value)] }
  | none =>
    { tag := some s.tag
      id := none
      classes := (s.element.classes.take settings.maxClassPredicates).map softened
      conditions := (description s.element).map fun a => .equals a.1 (softened a.2)
      nthOfType := position? s }

def namesRead (settings : Settings) : List String :=
  "class" :: describingAttributes ++ settings.testAttributes

theorem mem_description {e : Element} {a : String × String} (h : a ∈ description e) :
    a.1 ∈ describingAttributes ∧ e.attribute? a.1 = some a.2 := by
  obtain ⟨name, hn, hmap⟩ := List.mem_filterMap.mp h
  obtain ⟨value, hv, rfl⟩ := Option.map_eq_some_iff.mp hmap
  exact ⟨hn, nonEmpty?_eq_some hv⟩

theorem isPlain_of_mem_describingAttributes {name : String} (h : name ∈ describingAttributes) :
    Text.isPlain name = true := by
  have hall : ∀ n ∈ describingAttributes, Text.isPlain n = true := by decide
  exact hall name h

/-- The describing attributes are in lower case already. -/
theorem lowerCondition_description (e : Element) :
    ((description e).map fun a => Condition.equals a.1 (softened a.2)).map lowerCondition
      = (description e).map fun a => Condition.equals a.1 (softened a.2) := by
  rw [List.map_map]
  refine List.map_congr_left fun a ha => ?_
  have hname := isPlain_of_mem_describingAttributes (mem_description ha).1
  simp [lowerCondition, Text.lower_of_isPlain hname]

/-! Reading a segment back -/

theorem toList_predicate (name value : String) (rest : List Char) :
    (predicate name value).toList ++ rest = '[' :: (name.toList ++ '=' :: '"' ::
      ((escape value).toList ++ '"' :: ']' :: rest)) := by
  simp [predicate]

theorem readSimples_predicates {attributes : List (String × String)}
    (h : ∀ a ∈ attributes, Text.isPlain a.1 = true) (c : Compound) (rest : List Char) :
    readSimples c (attributes.flatMap (fun a => (predicate a.1 a.2).toList) ++ rest)
      = readSimples { c with
          conditions := c.conditions ++ attributes.map fun a => .equals a.1 (softened a.2) }
        rest := by
  induction attributes generalizing c with
  | nil => simp
  | cons a attributes ih =>
    have ha := h a List.mem_cons_self
    rw [List.flatMap_cons, List.append_assoc, toList_predicate,
      readSimples_condition (isName_of_isPlain ha), Text.lower_of_isPlain ha,
      ih fun b hb => h b (List.mem_cons_of_mem _ hb)]
    simp

theorem endsName_classes (names : List String) {rest : List Char} (hr : EndsName rest) :
    EndsName (names.flatMap (fun n => '.' :: (escape n).toList) ++ rest) := by
  cases names with
  | nil => exact hr
  | cons n names => exact endsName_cons (by decide) (by decide) _

theorem readSimples_classes {names : List String} (h : ∀ n ∈ names, n ≠ "") (c : Compound)
    {rest : List Char} (hr : EndsName rest) :
    readSimples c (names.flatMap (fun n => '.' :: (escape n).toList) ++ rest)
      = readSimples { c with classes := c.classes ++ names.map softened } rest := by
  induction names generalizing c with
  | nil => simp
  | cons n names ih =>
    rw [List.flatMap_cons, List.append_assoc, List.cons_append,
      readSimples_class (h n List.mem_cons_self) c (endsName_classes names hr),
      ih fun m hm => h m (List.mem_cons_of_mem _ hm)]
    simp

def positionText : Option Nat → List Char
  | some n => ':' :: ("nth-of-type".toList ++ '(' :: (Nat.toDigits 10 n ++ [')']))
  | none => []

theorem endsName_positionText (position : Option Nat) {rest : List Char} (hr : EndsName rest) :
    EndsName (positionText position ++ rest) := by
  cases position with
  | none => exact hr
  | some n => exact endsName_cons (by decide) (by decide) _

theorem readSimples_positionText {position : Option Nat}
    (h : ∀ n, position = some n → 0 < n ∧ n < Text.wordBound) {c : Compound}
    (hc : c.nthOfType = none) {rest : List Char} (hr : EndsCompound rest) :
    readSimples c (positionText position ++ rest)
      = .ok ({ c with nthOfType := position }, rest) := by
  cases position with
  | none =>
    have hnone : { c with nthOfType := none } = c := by rw [← hc]
    rw [hnone]
    exact readSimples_of_none (hr.simple c)
  | some n =>
    obtain ⟨h0, hn⟩ := h n rfl
    have hp := readSimples_position h0 hn c rest
    have ht : positionText (some n) ++ rest = ':' :: ("nth-of-type".toList ++
        '(' :: (Nat.toDigits 10 n ++ ')' :: rest)) := by
      simp [positionText]
    rw [ht, hp]
    exact readSimples_of_none (hr.simple _)

theorem toList_text_of_test {settings : Settings} {s : Site} {name value : String}
    (h : settings.testAttribute? s.element = some (name, value)) :
    (ofSite settings s).text.toList = s.tag.toList ++ (predicate name value).toList := by
  simp [ofSite, h, text]

theorem toList_text_of_none {settings : Settings} {s : Site}
    (h : settings.testAttribute? s.element = none) :
    (ofSite settings s).text.toList = s.tag.toList ++
      ((description s.element).flatMap (fun a => (predicate a.1 a.2).toList) ++
        ((s.element.classes.take settings.maxClassPredicates).flatMap
          (fun n => '.' :: (escape n).toList) ++ positionText (position? s))) := by
  have hd : (describingAttributes.filterMap fun name =>
      (s.element.attributes.nonEmpty? name).map (predicate name))
      = (description s.element).map fun a => predicate a.1 a.2 := by
    simp only [description, List.map_filterMap, Option.map_map]
    rfl
  simp only [ofSite, h, text, hd, String.toList_append, String.toList_join, List.flatMap_append,
    List.flatMap_map, List.append_assoc, position?]
  congr 3
  cases (if 1 < s.siblingsOfType.length then some s.position else none) with
  | none => rfl
  | some n => simp [positionText]

/-- Where the settings and the page use names that need no escape, a segment reads back as what it
asks for. Its position has to be a 64-bit word, as every number of children is. -/
theorem written_text_lowered {settings : Settings} {s : Site}
    (hnames : ∀ n ∈ settings.testAttributes, isName n = true)
    (htag : isTagName s.tag = true) (hpos : s.position < Text.wordBound) :
    Written (ofSite settings s).text.toList (lowerCompound (compound settings s)) := by
  unfold compound
  split
  · rename_i name value h
    rw [toList_text_of_test h]
    apply written_tag htag
    · intro rest _
      rw [toList_predicate]
      exact endsName_cons (by decide) (by decide) _
    · intro rest hr
      rw [toList_predicate,
        readSimples_condition (hnames name (Settings.testAttribute?_eq_some h).1)]
      exact readSimples_of_none (hr.simple _)
  · rename_i h
    rw [toList_text_of_none h]
    have hplain : ∀ a ∈ description s.element, Text.isPlain a.1 = true :=
      fun a ha => isPlain_of_mem_describingAttributes (mem_description ha).1
    have hclasses : ∀ n ∈ s.element.classes.take settings.maxClassPredicates, n ≠ "" := by
      intro n hn
      have hmem := List.mem_of_mem_take hn
      unfold Element.classes at hmem
      split at hmem
      · exact Text.ne_empty_of_mem_words hmem
      · simp at hmem
    have hposition : ∀ n, position? s = some n → 0 < n ∧ n < Text.wordBound := by
      intro n hn
      unfold position? at hn
      split at hn
      · cases hn
        exact ⟨s.position_pos, hpos⟩
      · cases hn
    apply written_tag htag
    · intro rest hr
      rw [List.append_assoc, List.append_assoc]
      have hend := endsName_classes (s.element.classes.take settings.maxClassPredicates)
        (endsName_positionText (position? s) hr.name)
      cases hd : description s.element with
      | nil => exact hend
      | cons a attributes =>
        rw [List.flatMap_cons, List.append_assoc, toList_predicate]
        exact endsName_cons (by decide) (by decide) _
    · intro rest hr
      rw [List.append_assoc, List.append_assoc, readSimples_predicates hplain,
        readSimples_classes hclasses _ (endsName_positionText _ hr.name),
        readSimples_positionText hposition rfl hr]
      simp only [Compound.any, lowerCompound, lowerCondition_description, List.nil_append,
        Option.map_some]

/-- A segment with a plain tag and plain names is in lower case as it stands. -/
theorem lowerCompound_compound {settings : Settings} {s : Site}
    (hnames : ∀ n ∈ settings.testAttributes, Text.isPlain n = true)
    (htag : Text.isPlain s.tag = true) :
    lowerCompound (compound settings s) = compound settings s := by
  unfold compound
  split
  · rename_i name value h
    have hname := hnames name (Settings.testAttribute?_eq_some h).1
    simp [lowerCompound, lowerCondition, Text.lower_of_isPlain htag, Text.lower_of_isPlain hname]
  · simp only [lowerCompound, lowerCondition_description, Option.map_some,
      Text.lower_of_isPlain htag]

theorem written_text {settings : Settings} {s : Site}
    (hnames : ∀ n ∈ settings.testAttributes, Text.isPlain n = true)
    (htag : Text.isPlain s.tag = true) (hpos : s.position < Text.wordBound) :
    Written (ofSite settings s).text.toList (compound settings s) := by
  have h := written_text_lowered (fun n hn => isName_of_isPlain (hnames n hn))
    (isTagName_of_isPlain htag) hpos
  rwa [lowerCompound_compound hnames htag] at h

/-! Matching a segment -/

theorem compound_holds {settings : Settings} {s : Site}
    (h : s.element.NullFree (namesRead settings)) : (compound settings s).holds s = true := by
  have hsoft : ∀ name value, name ∈ namesRead settings → s.element.attribute? name = some value →
      softened value = value :=
    fun name value hn hv => softened_eq_self (h name hn value hv)
  have htag : Text.equalIgnoringCase s.tag s.tag = true := by simp [Text.equalIgnoringCase]
  unfold compound
  split
  · rename_i name value ht
    obtain ⟨hn, hv⟩ := Settings.testAttribute?_eq_some ht
    rw [hsoft name value (List.mem_append_right _ hn) hv]
    simp [Compound.holds, Compound.any, htag, Condition.holds, hv]
  · have hclass : "class" ∈ namesRead settings := List.mem_cons_self
    have hclasses : ((s.element.classes.take settings.maxClassPredicates).map softened).all
        (fun n => s.element.classes.contains n) = true := by
      simp only [List.all_map, List.all_eq_true, Function.comp]
      intro n hn
      have hmem := List.mem_of_mem_take hn
      rw [softened_eq_self (not_mem_of_mem_classes h hclass hmem)]
      exact List.contains_iff_mem.mpr hmem
    have hconditions : ((description s.element).map fun a =>
        Condition.equals a.1 (softened a.2)).all (Condition.holds s.element) = true := by
      simp only [List.all_map, List.all_eq_true, Function.comp]
      intro a ha
      obtain ⟨hn, hv⟩ := mem_description ha
      have hread : a.1 ∈ namesRead settings :=
        List.mem_append_left _ (List.mem_cons_of_mem _ hn)
      simp [Condition.holds, hsoft a.1 a.2 hread hv, hv]
    have hposition : (position? s).all (· == s.position) = true := by
      unfold position?
      split <;> simp
    simp only [Compound.holds, Option.all_some, Option.all_none, htag, hclasses, hconditions,
      hposition, Bool.and_true]

/-- A segment without a test attribute means one child of its parent only. -/
theorem eq_of_compound_holds {d : Document} (hd : d.WellFormed) {settings : Settings}
    {s t p : Site} (hs : s ∈ d.elements) (ht : t ∈ d.elements) (hps : s.parent? = some p)
    (hpt : t.parent? = some p) (htest : settings.testAttribute? s.element = none)
    (hh : (compound settings s).holds t = true) : t = s := by
  unfold compound at hh
  rw [htest] at hh
  simp only [Compound.holds, Bool.and_eq_true, Option.all_some] at hh
  obtain ⟨⟨⟨⟨htag, -⟩, -⟩, -⟩, hpos⟩ := hh
  have heq : s.tag = t.tag := by
    have hlow : Text.lower s.tag = Text.lower t.tag := by
      simpa [Text.equalIgnoringCase] using htag
    rwa [hd.lower_site_tag hs, hd.lower_site_tag ht] at hlow
  refine (hd.eq_of_tag_position hs ht hps hpt heq ?_).symm
  intro hlen
  simpa [position?, hlen] using hpos

end Segment

end Pinpoint
