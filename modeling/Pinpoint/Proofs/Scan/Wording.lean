import Pinpoint.Interaction.Session
import Pinpoint.Proofs.Export.Script

/-! The wording of the steps that a scan suggests. It is fixed but for the lengths of controls: a
length that is no number stands in a step as the page has it, and so do the line ends in it. -/

namespace Pinpoint

open Export (lineEnds lineCount)

/-- The steps of several test cases, none of them without steps, with `n` line ends in all. -/
structure Worded (wordings : List (List String)) (n : Nat) : Prop where
  some_step : ∀ steps ∈ wordings, steps ≠ []
  ends : (wordings.flatten.map lineEnds).sum = n

instance (wordings : List (List String)) (n : Nat) : Decidable (Worded wordings n) :=
  decidable_of_iff ((∀ steps ∈ wordings, steps ≠ []) ∧ (wordings.flatten.map lineEnds).sum = n)
    ⟨fun h => ⟨h.1, h.2⟩, fun h => ⟨h.1, h.2⟩⟩

namespace Worded

variable {v w : List (List String)} {m n : Nat}

theorem nil : Worded [] 0 := ⟨nofun, rfl⟩

theorem append (hv : Worded v m) (hw : Worded w n) : Worded (v ++ w) (m + n) where
  some_step steps h := (List.mem_append.mp h).elim (hv.some_step steps) (hw.some_step steps)
  ends := by
    rw [List.flatten_append, List.map_append, List.sum_append, hv.ends, hw.ends]

theorem append_fixed (hv : Worded v n) (hw : Worded w 0) : Worded (v ++ w) n := hv.append hw

theorem fixed_append (hv : Worded v 0) (hw : Worded w n) : Worded (v ++ w) n := by
  have h := hv.append hw
  rwa [Nat.zero_add] at h

theorem flatMap {α : Type} {l : List α} {f : α → List (List String)} {g : α → Nat}
    (h : ∀ x ∈ l, Worded (f x) (g x)) : Worded (l.flatMap f) (l.map g).sum := by
  induction l with
  | nil => exact nil
  | cons x l ih =>
    rw [List.flatMap_cons, List.map_cons, List.sum_cons]
    exact (h x List.mem_cons_self).append (ih fun y hy => h y (List.mem_cons_of_mem x hy))

theorem flatMap_zero {α : Type} {l : List α} {f : α → List (List String)}
    (h : ∀ x ∈ l, Worded (f x) 0) : Worded (l.flatMap f) 0 := by
  have hall := flatMap h
  rwa [List.sum_map_zero] at hall

theorem sum_lineCount (h : Worded w n) :
    (w.flatten.map lineCount).sum = w.flatten.length + n := by
  rw [← h.ends]
  clear h
  induction w.flatten with
  | nil => rfl
  | cons step steps ih =>
    rw [List.map_cons, List.sum_cons, ih, Export.lineCount_eq, List.length_cons, List.map_cons,
      List.sum_cons]
    omega

end Worded

section Lengths

theorem lineEnds_toString (i : Int) : lineEnds (toString i) = 0 := by
  have hdigits : ∀ n : Nat, lineEnds n.repr = 0 := fun n => by
    refine Export.lineEnds_eq_zero fun c hc => ?_
    rw [Nat.toList_repr] at hc
    exact Snippet.isLineEnd_of_isDigit (Nat.isDigit_of_mem_toDigits (by decide) (by decide) hc)
  cases i with
  | ofNat n => exact hdigits n
  | negSucc n =>
    have hsign : lineEnds "-" = 0 := by decide
    have hneg : toString (Int.negSucc n) = "-" ++ (n + 1).repr := rfl
    rw [hneg, Export.lineEnds_append, hsign, hdigits]

def lengthEnds (value : String) : Nat :=
  if (Text.signed? (Text.trim value).toList).isSome then 0 else lineEnds value

theorem lineEnds_shiftLength (value : String) (delta : Int64) :
    lineEnds (shiftLength value delta) = lengthEnds value := by
  unfold shiftLength lengthEnds
  cases Text.signed? (Text.trim value).toList with
  | none => rfl
  | some n => exact lineEnds_toString (n + delta).toInt

/-- A length is shifted by plain addition as long as the sum is a word too. -/
theorem shiftLength_of_signed? {value : String} {n delta : Int64}
    (hvalue : Text.signed? (Text.trim value).toList = some n)
    (hlow : -(2 ^ 63) ≤ n.toInt + delta.toInt) (hhigh : n.toInt + delta.toInt < 2 ^ 63) :
    shiftLength value delta = toString (n.toInt + delta.toInt) := by
  have hsum : (n + delta).toInt = n.toInt + delta.toInt := by
    rw [Int64.toInt_add]
    exact Int.bmod_eq_of_le (by omega) (by omega)
  rw [shiftLength, hvalue]
  exact congrArg toString hsum

example : shiftLength "9223372036854775807" 1 = "-9223372036854775808" := by decide +kernel

def Element.lengthEnds (e : Element) : Nat :=
  ((e.attributes.nonEmpty? "minlength").map Pinpoint.lengthEnds).getD 0 +
    ((e.attributes.nonEmpty? "maxlength").map Pinpoint.lengthEnds).getD 0

def Document.lengthEnds (d : Document) : Nat :=
  ((d.elements.filter fun s => s.element.isControl).map fun s => s.element.lengthEnds).sum

end Lengths

namespace Advice

def wordings (advice : List Advice) : List (List String) := advice.map Advice.steps

theorem wordings_append (a b : List Advice) : wordings (a ++ b) = wordings a ++ wordings b :=
  List.map_append

theorem worded_enterCharacters (value : String) (delta : Int64) :
    Worded [enterCharacters (shiftLength value delta)] (lengthEnds value) where
  some_step := by simp [enterCharacters]
  ends := by
    have hfront : lineEnds "Enter " = 0 := by decide
    have hback : lineEnds " characters" = 0 := by decide
    have hsubmit : lineEnds "Submit" = 0 := by decide
    simp [enterCharacters, lineEnds_shiftLength, hfront, hback, hsubmit]

theorem worded_length (length : Option String) (delta : Int64) (f : String → Advice)
    (hf : ∀ count, (f count).steps = enterCharacters count) :
    Worded (wordings (length.map fun v => f (shiftLength v delta)).toList)
      ((length.map lengthEnds).getD 0) := by
  cases length with
  | none => exact .nil
  | some value =>
    simp only [Option.map_some, Option.toList_some, Option.getD_some, wordings, List.map_cons,
      List.map_nil, hf]
    exact worded_enterCharacters value delta

theorem worded_if {p : Prop} [Decidable p] {a : Advice} (h : Worded [a.steps] 0) :
    Worded (wordings (if p then [a] else [])) 0 := by
  split
  · exact h
  · exact .nil

theorem worded_onRestrictions (e : Element) :
    Worded (wordings (onRestrictions e)) e.lengthEnds := by
  have hlower := worded_length (e.attributes.nonEmpty? "minlength") (-1) minLength fun _ => rfl
  have hupper := worded_length (e.attributes.nonEmpty? "maxlength") 1 maxLength fun _ => rfl
  simp only [onRestrictions, wordings_append]
  exact (worded_if (by decide))
    |>.append_fixed (worded_if (by decide))
    |>.append_fixed (worded_if (by decide))
    |>.fixed_append hlower
    |>.append hupper
    |>.append_fixed (worded_if (by decide))

theorem worded_onFile (e : Element) : Worded (wordings (onFile e)) 0 := by
  unfold onFile
  split <;> decide

theorem worded_onSelect (e : Element) : Worded (wordings (onSelect e)) 0 := by
  unfold onSelect
  split <;> decide

end Advice

namespace Document

variable (d : Document) (settings : Settings)

def wordingsOf (cases : List TestCase) : List (List String) := cases.map TestCase.steps

theorem wordingsOf_append (l m : List TestCase) :
    wordingsOf (l ++ m) = wordingsOf l ++ wordingsOf m := List.map_append

theorem wordingsOf_advise (s : Site) (advice : List Advice) :
    wordingsOf (d.advise settings s advice) = Advice.wordings advice := by
  rw [wordingsOf, advise, List.map_map]
  rfl

theorem worded_adviseAll (isMeant : Element → Bool) {advice : Element → List Advice}
    {g : Element → Nat} (h : ∀ e, Worded (Advice.wordings (advice e)) (g e)) :
    Worded (wordingsOf (d.adviseAll settings isMeant advice))
      ((d.elements.filter fun s => isMeant s.element).map fun s => g s.element).sum := by
  rw [adviseAll, wordingsOf, List.map_flatMap]
  refine .flatMap fun s _ => ?_
  have hs := h s.element
  rwa [← d.wordingsOf_advise settings s] at hs

theorem worded_adviseAll_zero (isMeant : Element → Bool) {advice : Element → List Advice}
    (h : ∀ e, Worded (Advice.wordings (advice e)) 0) :
    Worded (wordingsOf (d.adviseAll settings isMeant advice)) 0 := by
  have hall := d.worded_adviseAll settings isMeant h
  rwa [List.sum_map_zero] at hall

theorem worded_adviseTyped (type : String) {a : Advice} (h : Worded (Advice.wordings [a]) 0) :
    Worded (wordingsOf (d.adviseTyped settings type a)) 0 :=
  d.worded_adviseAll_zero settings _ fun _ => h

theorem worded_adviseFirst (isMeant : Element → Bool) {a : Advice}
    (h : Worded (Advice.wordings [a]) 0) :
    Worded (wordingsOf (d.adviseFirst settings isMeant a)) 0 := by
  unfold adviseFirst
  split
  · rwa [wordingsOf_advise]
  · exact .nil

theorem worded_adviseForms : Worded (wordingsOf (d.adviseForms settings)) 0 := by
  have hform : ∀ n, Worded (Advice.wordings [.form n]) 0 := fun n =>
    (by decide : Worded [(Advice.form 0).steps] 0)
  rw [adviseForms, wordingsOf, List.map_flatMap]
  refine .flatMap_zero fun s _ => ?_
  have hs := hform (s.2 + 1)
  rwa [← d.wordingsOf_advise settings s.1] at hs

theorem worded_if {p : Prop} [Decidable p] {c : TestCase} (h : Worded [c.steps] 0) :
    Worded (wordingsOf (if p then [c] else [])) 0 := by
  split
  · exact h
  · exact .nil

theorem worded_scan (isExternal : Option String → String → Bool) :
    Worded (wordingsOf (d.scan settings isExternal)) d.lengthEnds := by
  have hrestrictions := d.worded_adviseAll settings Element.isControl Advice.worded_onRestrictions
  simp only [scan, wordingsOf_append]
  exact (d.worded_adviseForms settings)
    |>.append_fixed (d.worded_adviseTyped settings _ (by decide))
    |>.append_fixed (d.worded_adviseTyped settings _ (by decide))
    |>.append_fixed (worded_if (by decide))
    |>.append_fixed (worded_if (by decide))
    |>.append_fixed (d.worded_adviseTyped settings _ (by decide))
    |>.append_fixed (d.worded_adviseTyped settings _ (by decide))
    |>.append_fixed (d.worded_adviseAll_zero settings _ Advice.worded_onFile)
    |>.append_fixed (d.worded_adviseAll_zero settings _ Advice.worded_onSelect)
    |>.append_fixed (d.worded_adviseFirst settings _ (by decide))
    |>.append_fixed (d.worded_adviseFirst settings _ (by decide))
    |>.fixed_append hrestrictions
    |>.append_fixed (d.worded_adviseTyped settings _ (by decide))
    |>.append_fixed (d.worded_adviseTyped settings _ (by decide))
    |>.append_fixed (d.worded_adviseAll_zero settings _ fun _ => by decide)
    |>.append_fixed (d.worded_adviseAll_zero settings _ fun _ => by decide)
    |>.append_fixed (worded_if (by decide))

theorem flatMap_comments {cases : List TestCase} (h : ∀ c ∈ cases, c.steps ≠ []) :
    cases.flatMap Export.comments = cases.flatMap TestCase.steps :=
  List.flatMap_congr fun c hc => if_neg (by simpa using h c hc)

theorem sum_lineCount_comments (isExternal : Option String → String → Bool) :
    (((d.scan settings isExternal).flatMap Export.comments).map lineCount).sum
      = ((d.scan settings isExternal).flatMap TestCase.steps).length + d.lengthEnds := by
  have h := d.worded_scan settings isExternal
  rw [flatMap_comments fun c hc => h.some_step _ (List.mem_map_of_mem hc)]
  have hsum := h.sum_lineCount
  rwa [wordingsOf, ← List.flatMap_def] at hsum

/-- A script for a scanned page has four lines and one for each step, and one more for each line
end in a length of the page that is no number. -/
theorem script_lines_of_scan (isExternal : Option String → String → Bool) :
    let cases := d.scan settings isExternal
    let steps := (cases.flatMap TestCase.steps).length
    lineCount (Export.playwright cases) = 4 + steps + d.lengthEnds ∧
      lineCount (Export.cypress cases) = 4 + steps + d.lengthEnds := by
  intro cases steps
  rw [Export.lineCount_playwright, Export.lineCount_cypress, sum_lineCount_comments, Nat.add_assoc]
  exact ⟨rfl, rfl⟩

def brokenLength : Document :=
  ofMarkup ⟨"html", .empty,
    [.element ⟨"input", .ofList [("minlength", "a\nalert(1)//")], []⟩]⟩

/-- The line feed gives a script a line that is not the line of a step. -/
theorem script_lines_brokenLength :
    let cases := brokenLength.testCases .standard
    let steps := (cases.flatMap TestCase.steps).length
    lineCount (Export.playwright cases) ≠ 4 + steps ∧
      lineCount (Export.cypress cases) ≠ 4 + steps := by
  intro cases steps
  have hends : brokenLength.lengthEnds = 1 := by decide
  have hsum : ((cases.flatMap Export.comments).map lineCount).sum = steps + 1 := by
    rw [← hends]
    exact brokenLength.sum_lineCount_comments .standard Url.isExternal
  rw [Export.lineCount_playwright, Export.lineCount_cypress, hsum]
  omega

end Document

end Pinpoint
