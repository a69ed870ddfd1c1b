import Mathlib.Data.List.Nodup
import Pinpoint.Scan.Page
import Pinpoint.Text.Lines

/-! What a scan finds, rule by rule. A rule for elements gives one test case for each element of the
tree that it applies to, in document order, and a rule for pages at most one. The title of a test
case tells its rule. -/

namespace Pinpoint

inductive TypedInput where
  | password
  | email
  | number
  | date
  | file
  | url
  | telephone
  deriving DecidableEq, Repr

inductive ElementRule where
  | form
  | typed (type : TypedInput)
  | acceptList
  | select
  | multipleSelect
  | blocked
  | autocompleteOff
  | requiredField
  | minLength
  | maxLength
  | pattern
  | textarea
  | editable
  deriving DecidableEq, Repr

inductive PageRule where
  | search
  | externalLink
  | checkbox
  | radio
  | frame
  deriving DecidableEq, Repr

inductive ScanRule where
  | element (r : ElementRule)
  | page (r : PageRule)
  deriving DecidableEq, Repr

/-- An input of the given type, whatever the letter case of the type and the blanks around it. -/
def Element.hasType (e : Element) (type : String) : Bool :=
  e.tag = "input" && (e.attribute? "type").any fun value => Text.lower (Text.trim value) = type

def Element.hasSome (e : Element) (name : String) : Bool := (e.attributes.nonEmpty? name).isSome

namespace TypedInput

def name : TypedInput → String
  | password => "password"
  | email => "email"
  | number => "number"
  | date => "date"
  | file => "file"
  | url => "url"
  | telephone => "tel"

def advice : TypedInput → Advice
  | password => .password
  | email => .email
  | number => .number
  | date => .date
  | file => .file
  | url => .url
  | telephone => .telephone

end TypedInput

namespace ElementRule

def applies (e : Element) : ElementRule → Bool
  | form => e.tag = "form"
  | typed type => e.hasType type.name
  | acceptList => e.hasType "file" && e.hasSome "accept"
  | select => e.tag = "select"
  | multipleSelect => e.tag = "select" && e.has "multiple"
  | blocked => e.isControl && (e.has "disabled" || e.has "readonly")
  | autocompleteOff =>
    e.tag = "input" &&
      (e.attribute? "autocomplete").any fun value => Text.lower (Text.trim value) = "off"
  | requiredField => e.isControl && e.has "required"
  | minLength => e.isControl && e.hasSome "minlength"
  | maxLength => e.isControl && e.hasSome "maxlength"
  | pattern => e.isControl && e.hasSome "pattern"
  | textarea => e.tag = "textarea"
  | editable => e.attribute? "contenteditable" = some "true"

def advice (n : Nat) (e : Element) : ElementRule → Advice
  | form => .form n
  | typed type => type.advice
  | acceptList => .acceptList
  | select => .select
  | multipleSelect => .multipleSelect
  | blocked => .blocked
  | autocompleteOff => .autocompleteOff
  | requiredField => .requiredField
  | minLength => .minLength (shiftLength ((e.attribute? "minlength").getD "") (-1))
  | maxLength => .maxLength (shiftLength ((e.attribute? "maxlength").getD "") 1)
  | pattern => .pattern
  | textarea => .textarea
  | editable => .editable

end ElementRule

/-- The rule behind a title. Only forms have titles with a number in them. -/
def ScanRule.ofTitle? (title : String) : Option ScanRule :=
  if Text.startsWith "Form " title then some (.element .form)
  else match title with
    | "Password field behavior" => some (.element (.typed .password))
    | "Email format validation" => some (.element (.typed .email))
    | "Number field boundaries" => some (.element (.typed .number))
    | "Date field validation" => some (.element (.typed .date))
    | "File upload validation" => some (.element (.typed .file))
    | "URL input validation" => some (.element (.typed .url))
    | "Telephone input validation" => some (.element (.typed .telephone))
    | "File accept restrictions" => some (.element .acceptList)
    | "Select list validation" => some (.element .select)
    | "Multi-select list behavior" => some (.element .multipleSelect)
    | "Disabled/readonly field handling" => some (.element .blocked)
    | "Autocomplete disabled" => some (.element .autocompleteOff)
    | "Required field enforcement" => some (.element .requiredField)
    | "Min length validation" => some (.element .minLength)
    | "Max length validation" => some (.element .maxLength)
    | "Pattern validation" => some (.element .pattern)
    | "Textarea length handling" => some (.element .textarea)
    | "Contenteditable input" => some (.element .editable)
    | "Search behavior" => some (.page .search)
    | "External link safety" => some (.page .externalLink)
    | "Checkbox states" => some (.page .checkbox)
    | "Radio group selection" => some (.page .radio)
    | "Embedded iframe content" => some (.page .frame)
    | _ => none

def TestCase.rule? (c : TestCase) : Option ScanRule := ScanRule.ofTitle? c.title

namespace PageRule

def advice : PageRule → Advice
  | search => .search
  | externalLink => .externalLink
  | checkbox => .checkbox
  | radio => .radio
  | frame => .frame

end PageRule

section Titles

variable {r : ElementRule}

def ElementRule.title (r : ElementRule) : String := (r.advice 0 ⟨0, "", .empty, []⟩).title

theorem ElementRule.advice_zero (hr : r ≠ .form) (n : Nat) (e : Element) :
    r.advice n e = r.advice 0 e := by
  cases r <;> first | rfl | exact absurd rfl hr

theorem ElementRule.title_advice (hr : r ≠ .form) (n : Nat) (e : Element) :
    (r.advice n e).title = r.title := by
  cases r with
  | form => exact absurd rfl hr
  -- Their titles are compared as texts: the lengths in the steps are not to be looked at.
  | minLength => simp only [title, advice, Advice.minLength]
  | maxLength => simp only [title, advice, Advice.maxLength]
  | _ => rfl

theorem ofTitle?_title (hr : r ≠ .form) : ScanRule.ofTitle? r.title = some (.element r) := by
  cases r with
  | form => exact absurd rfl hr
  | typed type => cases type <;> decide
  | _ => decide

theorem ofTitle?_form (n : Nat) :
    ScanRule.ofTitle? (Advice.form n).title = some (.element .form) := by
  have hfront : Text.startsWith "Form " ("Form " ++ toString n ++ " validation") = true := by
    simp [Text.startsWith, String.toList_append]
  exact if_pos hfront

theorem rule?_advice_element (r : ElementRule) (n : Nat) (e : Element) (target : String) :
    ((r.advice n e).at_ target).rule? = some (.element r) := by
  by_cases hr : r = .form
  · subst hr
    exact ofTitle?_form n
  · have htitle := ElementRule.title_advice hr n e
    rw [← ofTitle?_title hr, ← htitle]
    rfl

theorem rule?_advice_page (r : PageRule) (target : String) :
    (r.advice.at_ target).rule? = some (.page r) := by
  have htitle : ScanRule.ofTitle? r.advice.title = some (.page r) := by cases r <;> decide
  exact htitle

end Titles

section Expected

variable (d : Document) (settings : Settings) (isExternal : Option String → String → Bool)

def PageRule.target? : PageRule → Option String
  | search => if 0 < d.matchCount searchSelector then some searchSelector else none
  | externalLink =>
    if d.elements.any fun s =>
        s.tag = "a" && (s.element.attribute? "href").any (isExternal d.url) then
      some "a[href]"
    else none
  | checkbox =>
    (d.elements.find? (·.element.hasType "checkbox")).map fun s => (d.structural settings s).value
  | radio =>
    (d.elements.find? (·.element.hasType "radio")).map fun s => (d.structural settings s).value
  | frame => if d.elements.any (·.tag = "iframe") then some "iframe" else none

/-- The test cases that a rule calls for: for each element it applies to one, in document order and
counted from 1, or one for the page. -/
def ScanRule.cases : ScanRule → List TestCase
  | element r =>
    ((d.elements.filter fun s => r.applies s.element).zipIdx 1).map fun (s, n) =>
      (r.advice n s.element).at_ (d.structural settings s).value
  | page r => (r.target? d settings isExternal).toList.map r.advice.at_

/-- A stretch of the scan: all forms, then the elements in document order with what each of them
calls for, or a rule for the page. -/
inductive ScanPart where
  | forms
  | each (rules : List ElementRule)
  | once (rule : PageRule)

namespace ScanPart

def rules : ScanPart → List ScanRule
  | forms => [.element .form]
  | each rs => rs.map .element
  | once r => [.page r]

def Sound : ScanPart → Prop
  | each rs => rs.Nodup ∧ .form ∉ rs
  | _ => True

instance : DecidablePred Sound
  | forms => .isTrue trivial
  | each rs => inferInstanceAs (Decidable (rs.Nodup ∧ .form ∉ rs))
  | once _ => .isTrue trivial

def cases : ScanPart → List TestCase
  | forms => d.adviseForms settings
  | each rs => d.elements.flatMap fun s =>
      d.advise settings s ((rs.filter (·.applies s.element)).map (·.advice 0 s.element))
  | once r => (ScanRule.page r).cases d settings isExternal

end ScanPart

def scanParts : List ScanPart :=
  [.forms, .each [.typed .password], .each [.typed .email], .once .search, .once .externalLink,
    .each [.typed .number], .each [.typed .date], .each [.typed .file, .acceptList],
    .each [.select, .multipleSelect], .once .checkbox, .once .radio,
    .each [.blocked, .autocompleteOff, .requiredField, .minLength, .maxLength, .pattern],
    .each [.typed .url], .each [.typed .telephone], .each [.textarea], .each [.editable],
    .once .frame]

theorem sound_scanParts : ∀ p ∈ scanParts, p.Sound := by decide

/-- Every rule has its place in one stretch of the scan and in no other. -/
theorem filter_scanParts (r : ScanRule) : ∃ p, scanParts.filter (r ∈ ·.rules) = [p] := by
  cases r with
  | element r =>
    cases r with
    | typed type => cases type <;> exact ⟨_, rfl⟩
    | _ => exact ⟨_, rfl⟩
  | page r => cases r <;> exact ⟨_, rfl⟩

end Expected

section Stretches

variable {d : Document} {settings : Settings} {isExternal : Option String → String → Bool}

theorem flatMap_filter {α β : Type} (p : α → Bool) (f : α → List β) (l : List α) :
    (l.filter p).flatMap f = l.flatMap fun x => if p x then f x else [] := by
  induction l with
  | nil => rfl
  | cons x l ih => by_cases h : p x <;> simp [h, ih]

theorem filter_eq_of_nodup {α : Type} [DecidableEq α] {l : List α} (h : l.Nodup) (a : α) :
    l.filter (· = a) = if a ∈ l then [a] else [] := by
  rw [List.filter_eq, h.count]
  split <;> rfl

theorem rule?_cases {r : ScanRule} {c : TestCase} (h : c ∈ r.cases d settings isExternal) :
    c.rule? = some r := by
  cases r with
  | element r =>
    obtain ⟨⟨s, n⟩, -, rfl⟩ := List.mem_map.mp h
    exact rule?_advice_element r n s.element _
  | page r =>
    obtain ⟨target, -, rfl⟩ := List.mem_map.mp h
    exact rule?_advice_page r target

theorem adviseForms_eq (isExternal : Option String → String → Bool) :
    d.adviseForms settings = (ScanRule.element .form).cases d settings isExternal := by
  rw [Document.adviseForms, ScanRule.cases, List.zipIdx_succ, List.map_map, List.map_eq_flatMap]
  rfl

theorem cases_unnumbered {r : ElementRule} (hr : r ≠ .form) :
    (ScanRule.element r).cases d settings isExternal =
      (d.elements.filter fun s => r.applies s.element).flatMap fun s =>
        d.advise settings s [r.advice 0 s.element] := by
  let f : Site → TestCase := fun s => (r.advice 0 s.element).at_ (d.structural settings s).value
  calc (ScanRule.element r).cases d settings isExternal
    _ = ((d.elements.filter fun s => r.applies s.element).zipIdx 1).map (f ∘ Prod.fst) :=
        List.map_congr_left fun (s, n) _ =>
          congrArg (Advice.at_ · _) (r.advice_zero hr n s.element)
    _ = (d.elements.filter fun s => r.applies s.element).map f := by
        rw [← List.map_map, List.zipIdx_map_fst]
    _ = _ := List.map_eq_flatMap

theorem exists_rule {p : ScanPart} {c : TestCase} (h : c ∈ p.cases d settings isExternal) :
    ∃ r ∈ p.rules, c.rule? = some r := by
  cases p with
  | forms =>
    rw [ScanPart.cases, adviseForms_eq isExternal] at h
    exact ⟨_, List.mem_singleton_self _, rule?_cases h⟩
  | once r => exact ⟨_, List.mem_singleton_self _, rule?_cases h⟩
  | each rs =>
    obtain ⟨s, -, hs⟩ := List.mem_flatMap.mp h
    obtain ⟨a, ha, rfl⟩ := List.mem_map.mp hs
    obtain ⟨r, hr, rfl⟩ := List.mem_map.mp ha
    exact ⟨_, List.mem_map_of_mem (List.mem_of_mem_filter hr), rule?_advice_element r 0 _ _⟩

/-- Among all that one element calls for, each rule is found once. -/
theorem filter_advise {rs : List ElementRule} (h : rs.Nodup) {r : ElementRule} (hr : r ∈ rs)
    (s : Site) :
    (d.advise settings s ((rs.filter (·.applies s.element)).map (·.advice 0 s.element))).filter
        (·.rule? = some (.element r)) =
      if r.applies s.element then d.advise settings s [r.advice 0 s.element] else [] := by
  have hrule : (fun c : TestCase => decide (c.rule? = some (.element r))) ∘
      ((·.at_ (d.structural settings s).value) ∘ (·.advice 0 s.element)) =
      fun q : ElementRule => decide (q = r) := by
    funext q
    simp [rule?_advice_element]
  have hmem : r ∈ rs.filter (·.applies s.element) ↔ r.applies s.element := by
    simp [hr]
  rw [Document.advise, List.map_map, List.filter_map, hrule, filter_eq_of_nodup (h.filter _)]
  simp only [hmem]
  split <;> rfl

theorem filter_cases {p : ScanPart} (hp : p.Sound) (r : ScanRule) :
    (p.cases d settings isExternal).filter (·.rule? = some r) =
      if r ∈ p.rules then r.cases d settings isExternal else [] := by
  by_cases hr : r ∈ p.rules
  · rw [if_pos hr]
    cases p with
    | forms =>
      rw [List.mem_singleton.mp hr, ScanPart.cases, adviseForms_eq, List.filter_eq_self]
      exact fun c hc => decide_eq_true (rule?_cases hc)
    | once q =>
      rw [List.mem_singleton.mp hr, ScanPart.cases, List.filter_eq_self]
      exact fun c hc => decide_eq_true (rule?_cases hc)
    | each rs =>
      obtain ⟨hnodup, hform⟩ := hp
      obtain ⟨q, hq, rfl⟩ := List.mem_map.mp hr
      have hnumber : q ≠ .form := fun h => hform (h ▸ hq)
      rw [ScanPart.cases, List.filter_flatMap, cases_unnumbered hnumber, flatMap_filter]
      exact List.flatMap_congr fun s _ => filter_advise hnodup hq s
  · rw [if_neg hr, List.filter_eq_nil_iff]
    intro c hc hrule
    obtain ⟨q, hq, hqc⟩ := exists_rule hc
    rw [hqc] at hrule
    exact hr (Option.some.inj (of_decide_eq_true hrule) ▸ hq)

theorem adviseAll_eq {isMeant : Element → Bool} {advice : Element → List Advice}
    {rs : List ElementRule} (h : ∀ e, (if isMeant e then advice e else []) =
      rs.flatMap fun r => if r.applies e then [r.advice 0 e] else []) :
    d.adviseAll settings isMeant advice = (ScanPart.each rs).cases d settings isExternal := by
  rw [Document.adviseAll, flatMap_filter, ScanPart.cases]
  refine List.flatMap_congr fun s _ => ?_
  rw [List.map_eq_flatMap, flatMap_filter, ← h s.element]
  split <;> rfl

theorem adviseOne_eq {isMeant : Element → Bool} {advice : Element → List Advice} {r : ElementRule}
    (hmeant : ∀ e, isMeant e = r.applies e) (hadvice : ∀ e, advice e = [r.advice 0 e]) :
    d.adviseAll settings isMeant advice = (ScanPart.each [r]).cases d settings isExternal := by
  refine adviseAll_eq fun e => ?_
  rw [hmeant, hadvice, List.flatMap_singleton]

theorem isInputOfType_eq (e : Element) {type : String} (h : type ≠ "text") :
    e.isInputOfType type = e.hasType type := by
  unfold Element.isInputOfType Element.hasType Element.inputType
  cases e.attribute? "type" with
  | none => simp [h.symm]
  | some value => simp only [Option.any_some]

theorem adviseTyped_eq (type : TypedInput) :
    d.adviseTyped settings type.name type.advice =
      (ScanPart.each [.typed type]).cases d settings isExternal := by
  have htype : type.name ≠ "text" := by cases type <;> decide
  exact adviseOne_eq (fun e => isInputOfType_eq e htype) fun _ => rfl

theorem adviseFile_eq :
    d.adviseAll settings (·.isInputOfType "file") Advice.onFile =
      (ScanPart.each [.typed .file, .acceptList]).cases d settings isExternal := by
  refine adviseAll_eq fun e => ?_
  have hfile : ElementRule.applies e (.typed .file) = e.hasType "file" := rfl
  rw [isInputOfType_eq e (by decide : "file" ≠ "text"), List.flatMap_cons, List.flatMap_singleton,
    hfile]
  by_cases h : e.hasType "file"
  · simp only [h, if_true, ElementRule.applies, Bool.true_and]
    rfl
  · simp [h, ElementRule.applies]

theorem adviseSelect_eq :
    d.adviseAll settings (·.tag = "select") Advice.onSelect =
      (ScanPart.each [.select, .multipleSelect]).cases d settings isExternal := by
  refine adviseAll_eq fun e => ?_
  rw [List.flatMap_cons, List.flatMap_singleton]
  by_cases h : e.tag = "select"
  · simp only [h, decide_true, if_true, ElementRule.applies, Bool.true_and]
    rfl
  · simp [h, ElementRule.applies]

theorem toList_map_nonEmpty (e : Element) (name : String) (f : String → Advice) :
    ((e.attributes.nonEmpty? name).map f).toList =
      if e.hasSome name then [f ((e.attribute? name).getD "")] else [] := by
  unfold Element.hasSome Element.attribute? Attributes.nonEmpty?
  cases e.attributes.get? name with
  | none => rfl
  | some value => by_cases h : value = "" <;> simp [h, Option.filter]

theorem isAutocompleteOff_eq (e : Element) :
    Advice.isAutocompleteOff e = ElementRule.autocompleteOff.applies e := by
  have hlower : Text.lower "off" = "off" := by decide
  simp only [Advice.isAutocompleteOff, Text.equalIgnoringCase, hlower, ElementRule.applies]
  rfl

theorem adviseRestrictions_eq :
    d.adviseAll settings Element.isControl Advice.onRestrictions =
      (ScanPart.each [.blocked, .autocompleteOff, .requiredField, .minLength, .maxLength,
        .pattern]).cases d settings isExternal := by
  refine adviseAll_eq fun e => ?_
  simp only [List.flatMap_cons, List.flatMap_nil, List.append_nil]
  by_cases h : e.isControl
  · simp only [h, if_true, Advice.onRestrictions, toList_map_nonEmpty, isAutocompleteOff_eq,
      ElementRule.applies, Bool.true_and, List.append_assoc]
    rfl
  · have hinput : e.tag ≠ "input" := fun htag => h (by rw [Element.isControl, htag]; decide)
    simp [h, hinput, ElementRule.applies]

theorem adviseFirst_eq {type : String} (h : type ≠ "text") (advice : Advice) :
    d.adviseFirst settings (·.isInputOfType type) advice =
      ((d.elements.find? (·.element.hasType type)).map fun s =>
        (d.structural settings s).value).toList.map advice.at_ := by
  rw [Document.adviseFirst]
  simp only [isInputOfType_eq _ h]
  cases d.elements.find? (·.element.hasType type) <;> rfl

theorem map_toList_ite (p : Prop) [Decidable p] (target : String) (advice : Advice) :
    (if p then some target else none).toList.map advice.at_ =
      if p then [advice.at_ target] else [] := by
  split <;> rfl

theorem scan_eq :
    d.scan settings isExternal = scanParts.flatMap fun p => p.cases d settings isExternal := by
  have hcheckbox := @adviseFirst_eq d settings "checkbox" (by decide) .checkbox
  have hradio := @adviseFirst_eq d settings "radio" (by decide) .radio
  have hforms : (ScanPart.forms).cases d settings isExternal = d.adviseForms settings := rfl
  have htextarea : d.adviseAll settings (·.tag = "textarea") (fun _ => [.textarea]) =
      (ScanPart.each [.textarea]).cases d settings isExternal :=
    adviseOne_eq (fun _ => rfl) fun _ => rfl
  have heditable : d.adviseAll settings (·.attribute? "contenteditable" = some "true")
      (fun _ => [.editable]) = (ScanPart.each [.editable]).cases d settings isExternal :=
    adviseOne_eq (fun _ => rfl) fun _ => rfl
  have hsearch : (ScanPart.once .search).cases d settings isExternal = _ := map_toList_ite _ _ _
  have hlink : (ScanPart.once .externalLink).cases d settings isExternal = _ := map_toList_ite _ _ _
  have hframe : (ScanPart.once .frame).cases d settings isExternal = _ := map_toList_ite _ _ _
  simp only [scanParts, List.flatMap_cons, List.flatMap_nil, List.append_nil, ← adviseTyped_eq,
    ← adviseFile_eq, ← adviseSelect_eq, ← adviseRestrictions_eq, ← htextarea, ← heditable, hforms,
    hsearch, hlink, hframe, Document.scan, hcheckbox, hradio, List.append_assoc]
  rfl

theorem filter_scan (r : ScanRule) :
    (d.scan settings isExternal).filter (·.rule? = some r) = r.cases d settings isExternal := by
  obtain ⟨p, hfilter⟩ := filter_scanParts r
  calc (d.scan settings isExternal).filter (·.rule? = some r)
    _ = scanParts.flatMap fun p =>
          (p.cases d settings isExternal).filter (·.rule? = some r) := by
        rw [scan_eq, List.filter_flatMap]
    _ = scanParts.flatMap fun p =>
          if r ∈ p.rules then r.cases d settings isExternal else [] :=
        List.flatMap_congr fun p hp => filter_cases (sound_scanParts p hp) r
    _ = [p].flatMap fun _ => r.cases d settings isExternal := by
        rw [← hfilter, flatMap_filter]
        simp only [decide_eq_true_eq]
    _ = r.cases d settings isExternal := List.flatMap_singleton _ p

end Stretches

/-- The test cases of a rule for elements are one for each element it applies to, in document order
and aimed at the structural locator of the element; of those for forms the `n`-th has the number
`n`. The test cases of a rule for pages are at most one. There are no other test cases. -/
theorem Document.scan_covers (d : Document) (settings : Settings)
    (isExternal : Option String → String → Bool) :
    (∀ r : ElementRule,
      (d.scan settings isExternal).filter (·.rule? = some (.element r)) =
        ((d.elements.filter fun s => r.applies s.element).zipIdx 1).map fun (s, n) =>
          (r.advice n s.element).at_ (d.structural settings s).value) ∧
    (∀ r : PageRule,
      (d.scan settings isExternal).filter (·.rule? = some (.page r)) =
        (r.target? d settings isExternal).toList.map r.advice.at_) ∧
    ∀ c ∈ d.scan settings isExternal, ∃ r, c.rule? = some r := by
  refine ⟨fun r => filter_scan (.element r), fun r => filter_scan (.page r), fun c hc => ?_⟩
  rw [scan_eq] at hc
  obtain ⟨p, -, hp⟩ := List.mem_flatMap.mp hc
  obtain ⟨r, -, hr⟩ := exists_rule hp
  exact ⟨r, hr⟩

end Pinpoint
