import Pinpoint.Selector.Basic
import Pinpoint.Text.Letters
import Pinpoint.Text.Lines

/-! Reading selectors. Every reader answers what it read and the characters that are left, or the
problem and the characters left when it was noticed; each successful reader consumes something,
which is why the repetitions end. -/

namespace Pinpoint.Selector

structure Stop where
  problem : Problem
  rest : List Char
  deriving DecidableEq, Repr

abbrev Reading (α : Type) := Except Stop (α × List Char)

theorem eq_ok_of_map_eq_ok {ε α β : Type} {f : α → β} {r : Except ε α} {b : β}
    (h : r.map f = .ok b) : ∃ a, r = .ok a ∧ f a = b := by
  cases r with
  | error e => simp [Except.map] at h
  | ok a => exact ⟨a, rfl, by simpa [Except.map] using h⟩

theorem length_trimStart (cs : List Char) : (Text.trimStart cs).length ≤ cs.length :=
  (List.dropWhile_suffix _).length_le

def isNameChar (c : Char) : Bool := c.isAlphanum || c = '_' || c = '-' || ! Text.isAscii c

def isNameStart (c : Char) : Bool :=
  c.isAlpha || c = '_' || c = '-' || c = '\\' || ! Text.isAscii c

/-- A code that is no character, and the code 0, stand for U+FFFD. -/
def charOfEscape (digits : List Char) : Char :=
  match Text.charOfCode? (Text.digitsValue 16 digits) with
  | some c => if c = '\x00' then '\uFFFD' else c
  | none => '\uFFFD'

def leadingHexDigits : Nat → List Char → List Char
  | n + 1, c :: cs => if Text.isHexDigit c then c :: leadingHexDigits n cs else []
  | _, _ => []

def dropOneBlank : List Char → List Char
  | [] => []
  | c :: cs => if Text.isBlank c then cs else c :: cs

theorem length_dropOneBlank (cs : List Char) : (dropOneBlank cs).length ≤ cs.length := by
  cases cs with
  | nil => exact Nat.le_refl _
  | cons c cs => simp only [dropOneBlank]; split <;> simp

/-- What follows a backslash: one to six hexadecimal digits and an optional blank, or any other
character, which then stands for itself. -/
def readEscape : List Char → Reading Char
  | [] => .error ⟨.danglingEscape, []⟩
  | c :: cs =>
    if Text.isHexDigit c then
      let digits := leadingHexDigits 5 cs
      .ok (charOfEscape (c :: digits), dropOneBlank (cs.drop digits.length))
    else .ok (c, cs)

theorem readEscape_shorter {cs rest : List Char} {c : Char} (h : readEscape cs = .ok (c, rest)) :
    rest.length < cs.length := by
  cases cs with
  | nil => simp [readEscape] at h
  | cons d ds =>
    simp only [readEscape] at h
    split at h
    · injection h with h
      obtain ⟨-, rfl⟩ := Prod.mk.inj h
      have := length_dropOneBlank (ds.drop (leadingHexDigits 5 ds).length)
      simp only [List.length_drop] at this
      simp only [List.length_cons]
      omega
    · injection h with h
      obtain ⟨-, rfl⟩ := Prod.mk.inj h
      simp

def readName : List Char → Reading (List Char)
  | [] => .ok ([], [])
  | c :: cs =>
    if c = '\\' then
      match h : readEscape cs with
      | .error e => .error e
      | .ok (x, rest) =>
        have : rest.length < cs.length + 1 := Nat.lt_succ_of_lt (readEscape_shorter h)
        (readName rest).map fun (xs, rest) => (x :: xs, rest)
    else if isNameChar c then (readName cs).map fun (xs, rest) => (c :: xs, rest)
    else .ok ([], c :: cs)
termination_by cs => cs.length

theorem readName_length {cs xs rest : List Char} (h : readName cs = .ok (xs, rest)) :
    rest.length + xs.length ≤ cs.length := by
  fun_induction readName cs generalizing xs rest with
  | case1 => simp_all
  | case2 => simp at h
  | case3 cs x r hr hlt ih =>
    obtain ⟨⟨ys, s⟩, hs, he⟩ := eq_ok_of_map_eq_ok h
    obtain ⟨rfl, rfl⟩ := Prod.mk.inj he
    have := ih hs
    have := readEscape_shorter hr
    simp only [List.length_cons]
    omega
  | case4 c cs _ _ ih =>
    obtain ⟨⟨ys, s⟩, hs, he⟩ := eq_ok_of_map_eq_ok h
    obtain ⟨rfl, rfl⟩ := Prod.mk.inj he
    have := ih hs
    simp only [List.length_cons]
    omega
  | case5 =>
    injection h with h
    obtain ⟨rfl, rfl⟩ := Prod.mk.inj h
    simp

def readIdentifier (cs : List Char) : Reading String :=
  match readName cs with
  | .error e => .error e
  | .ok ([], rest) => .error ⟨.noIdentifier, rest⟩
  | .ok (xs, rest) => .ok (String.ofList xs, rest)

theorem readIdentifier_shorter {cs rest : List Char} {name : String}
    (h : readIdentifier cs = .ok (name, rest)) : rest.length < cs.length := by
  simp only [readIdentifier] at h
  split at h
  · simp at h
  · simp at h
  · next xs r hne hr =>
    injection h with h
    obtain ⟨-, rfl⟩ := Prod.mk.inj h
    have := readName_length hr
    cases xs with
    | nil => exact absurd rfl hne
    | cons x xs => simp only [List.length_cons] at this; omega

def readQuoted (quote : Char) : List Char → Reading (List Char)
  | [] => .error ⟨.unterminatedString, []⟩
  | c :: cs =>
    if c = quote then .ok ([], cs)
    else if c = '\\' then
      match h : readEscape cs with
      | .error e => .error e
      | .ok (x, rest) =>
        have : rest.length < cs.length + 1 := Nat.lt_succ_of_lt (readEscape_shorter h)
        (readQuoted quote rest).map fun (xs, rest) => (x :: xs, rest)
    else (readQuoted quote cs).map fun (xs, rest) => (c :: xs, rest)
termination_by cs => cs.length

theorem readQuoted_shorter {quote : Char} {cs xs rest : List Char}
    (h : readQuoted quote cs = .ok (xs, rest)) : rest.length < cs.length := by
  fun_induction readQuoted quote cs generalizing xs rest with
  | case1 => simp at h
  | case2 => simp_all
  | case3 => simp at h
  | case4 cs x r hr _ _ ih =>
    obtain ⟨⟨ys, s⟩, hs, he⟩ := eq_ok_of_map_eq_ok h
    obtain ⟨rfl, rfl⟩ := Prod.mk.inj he
    have := ih hs
    have := readEscape_shorter hr
    simp only [List.length_cons]
    omega
  | case5 c cs _ _ ih =>
    obtain ⟨⟨ys, s⟩, hs, he⟩ := eq_ok_of_map_eq_ok h
    obtain ⟨rfl, rfl⟩ := Prod.mk.inj he
    have := ih hs
    simp only [List.length_cons]
    omega

def readValue (cs : List Char) : Reading String :=
  match cs with
  | '"' :: rest => (readQuoted '"' rest).map fun (xs, rest) => (String.ofList xs, rest)
  | '\'' :: rest => (readQuoted '\'' rest).map fun (xs, rest) => (String.ofList xs, rest)
  | _ => readIdentifier cs

theorem readValue_shorter {cs rest : List Char} {value : String}
    (h : readValue cs = .ok (value, rest)) : rest.length < cs.length := by
  unfold readValue at h
  split at h
  · obtain ⟨⟨xs, r⟩, hr, he⟩ := eq_ok_of_map_eq_ok h
    obtain ⟨-, rfl⟩ := Prod.mk.inj he
    exact Nat.lt_succ_of_lt (readQuoted_shorter hr)
  · obtain ⟨⟨xs, r⟩, hr, he⟩ := eq_ok_of_map_eq_ok h
    obtain ⟨-, rfl⟩ := Prod.mk.inj he
    exact Nat.lt_succ_of_lt (readQuoted_shorter hr)
  · exact readIdentifier_shorter h

def readCondition (cs : List Char) : Except Stop (Condition × List Char) := do
  let (name, rest) ← readIdentifier (Text.trimStart cs)
  let name := Text.lower name
  match Text.trimStart rest with
  | ']' :: rest => .ok (.present name, rest)
  | '=' :: rest =>
    let (value, rest) ← readValue (Text.trimStart rest)
    match Text.trimStart rest with
    | ']' :: rest => .ok (.equals name value, rest)
    | rest => .error ⟨.missingBracket, rest.tail⟩
  | rest => .error ⟨.unknownOperator, rest.tail⟩

theorem readCondition_shorter {cs rest : List Char} {condition : Condition}
    (h : readCondition cs = .ok (condition, rest)) : rest.length < cs.length := by
  simp only [readCondition, bind, Except.bind] at h
  split at h
  · simp at h
  · next nameRest hn =>
    have hname := readIdentifier_shorter hn
    have hcs := length_trimStart cs
    have hrest := length_trimStart nameRest.2
    split at h
    · next heq =>
      injection h with h
      obtain ⟨-, rfl⟩ := Prod.mk.inj h
      simp only [heq, List.length_cons] at hrest
      omega
    · next more heq =>
      simp only [heq, List.length_cons] at hrest
      split at h
      · simp at h
      · next valueRest hv =>
        have hvalue := readValue_shorter hv
        have hmore := length_trimStart more
        have hlast := length_trimStart valueRest.2
        split at h
        · next heq =>
          injection h with h
          obtain ⟨-, rfl⟩ := Prod.mk.inj h
          simp only [heq, List.length_cons] at hlast
          omega
        · simp at h
    · simp at h

def readPosition (cs : List Char) : Reading Nat :=
  let cs := Text.trimStart cs
  let digits := cs.takeWhile Char.isDigit
  match Text.trimStart (cs.dropWhile Char.isDigit) with
  | ')' :: rest =>
    let n := Text.digitsValue 10 digits
    if 0 < n ∧ n < Text.wordBound then .ok (n, rest) else .error ⟨.badPosition, rest⟩
  | rest => .error ⟨.missingParenthesis, rest.tail⟩

theorem readPosition_shorter {cs rest : List Char} {n : Nat}
    (h : readPosition cs = .ok (n, rest)) : rest.length < cs.length := by
  simp only [readPosition] at h
  have hcs := length_trimStart cs
  have hdigits := (List.dropWhile_suffix (l := Text.trimStart cs) Char.isDigit).length_le
  have hlast := length_trimStart ((Text.trimStart cs).dropWhile Char.isDigit)
  split at h
  · next heq =>
    split at h
    · injection h with h
      obtain ⟨-, rfl⟩ := Prod.mk.inj h
      simp only [heq, List.length_cons] at hlast
      omega
    · simp at h
  · simp at h

/-- The only pseudo-class is `nth-of-type`; its parenthesis follows without a blank. -/
def readPseudoClass (cs : List Char) : Except Stop (Nat × List Char) := do
  let (name, rest) ← readIdentifier cs
  let name := Text.lower name
  if name = "nth-of-type" then
    match rest with
    | '(' :: rest => readPosition rest
    | rest => .error ⟨.unknownPseudoClass name, rest.tail⟩
  else .error ⟨.unknownPseudoClass name, rest⟩

theorem readPseudoClass_shorter {cs rest : List Char} {n : Nat}
    (h : readPseudoClass cs = .ok (n, rest)) : rest.length < cs.length := by
  simp only [readPseudoClass, bind, Except.bind] at h
  split at h
  · simp at h
  · next nameRest hn =>
    have hname := readIdentifier_shorter hn
    split at h
    · split at h
      · next heq =>
        have := readPosition_shorter h
        simp only [heq, List.length_cons] at hname
        omega
      · simp at h
    · simp at h

def readSimple? (compound : Compound) : List Char → Option (Reading Compound)
  | '#' :: cs =>
    some ((readIdentifier cs).map fun (id, rest) => ({ compound with id := some id }, rest))
  | '.' :: cs =>
    some ((readIdentifier cs).map fun (name, rest) =>
      ({ compound with classes := compound.classes ++ [name] }, rest))
  | '[' :: cs =>
    some ((readCondition cs).map fun (condition, rest) =>
      ({ compound with conditions := compound.conditions ++ [condition] }, rest))
  | ':' :: cs =>
    some ((readPseudoClass cs).map fun (n, rest) => ({ compound with nthOfType := some n }, rest))
  | _ => none

theorem readSimple?_shorter {compound new : Compound} {cs rest : List Char}
    (h : readSimple? compound cs = some (.ok (new, rest))) : rest.length < cs.length := by
  unfold readSimple? at h
  split at h
  · obtain ⟨⟨x, r⟩, hr, he⟩ := eq_ok_of_map_eq_ok (Option.some.inj h)
    obtain ⟨-, rfl⟩ := Prod.mk.inj he
    exact Nat.lt_succ_of_lt (readIdentifier_shorter hr)
  · obtain ⟨⟨x, r⟩, hr, he⟩ := eq_ok_of_map_eq_ok (Option.some.inj h)
    obtain ⟨-, rfl⟩ := Prod.mk.inj he
    exact Nat.lt_succ_of_lt (readIdentifier_shorter hr)
  · obtain ⟨⟨x, r⟩, hr, he⟩ := eq_ok_of_map_eq_ok (Option.some.inj h)
    obtain ⟨-, rfl⟩ := Prod.mk.inj he
    exact Nat.lt_succ_of_lt (readCondition_shorter hr)
  · obtain ⟨⟨x, r⟩, hr, he⟩ := eq_ok_of_map_eq_ok (Option.some.inj h)
    obtain ⟨-, rfl⟩ := Prod.mk.inj he
    exact Nat.lt_succ_of_lt (readPseudoClass_shorter hr)
  · simp at h

def readSimples (compound : Compound) (cs : List Char) : Reading Compound :=
  match h : readSimple? compound cs with
  | none => .ok (compound, cs)
  | some (.error e) => .error e
  | some (.ok (new, rest)) =>
    have := readSimple?_shorter h
    readSimples new rest
termination_by cs.length

theorem readSimples_length {compound new : Compound} {cs rest : List Char}
    (h : readSimples compound cs = .ok (new, rest)) : rest.length ≤ cs.length := by
  fun_induction readSimples compound cs with
  | case1 =>
    injection h with h
    obtain ⟨-, rfl⟩ := Prod.mk.inj h
    exact Nat.le_refl _
  | case2 => simp at h
  | case3 compound cs x r hr hlt ih =>
    have := ih h
    omega

def readTag? : List Char → Option (Reading Compound)
  | [] => none
  | c :: cs =>
    if c = '*' then some (.ok (.any, cs))
    else if isNameStart c then
      some ((readIdentifier (c :: cs)).map fun (tag, rest) =>
        ({ Compound.any with tag := some (Text.lower tag) }, rest))
    else none

theorem readTag?_shorter {compound : Compound} {cs rest : List Char}
    (h : readTag? cs = some (.ok (compound, rest))) : rest.length < cs.length := by
  unfold readTag? at h
  split at h
  · simp at h
  · split at h
    · injection h with h
      injection h with h
      obtain ⟨-, rfl⟩ := Prod.mk.inj h
      simp
    · split at h
      · obtain ⟨⟨x, r⟩, hr, he⟩ := eq_ok_of_map_eq_ok (Option.some.inj h)
        obtain ⟨-, rfl⟩ := Prod.mk.inj he
        exact readIdentifier_shorter hr
      · simp at h

def readCompound (cs : List Char) : Reading Compound :=
  match (readTag? cs).or (readSimple? .any cs) with
  | none => .error ⟨.noSimpleSelector, cs⟩
  | some (.error e) => .error e
  | some (.ok (compound, rest)) => readSimples compound rest

theorem readCompound_shorter {cs rest : List Char} {compound : Compound}
    (h : readCompound cs = .ok (compound, rest)) : rest.length < cs.length := by
  simp only [readCompound] at h
  split at h
  · simp at h
  · simp at h
  · next first more hfirst =>
    have := readSimples_length h
    rcases Option.or_eq_some_iff.1 hfirst with ht | ⟨-, hs⟩
    · have := readTag?_shorter ht
      omega
    · have := readSimple?_shorter hs
      omega

def extend (left : Option Chain) (afterChild : Bool) (compound : Compound) : Chain :=
  match left with
  | none => .single compound
  | some left => .step left (if afterChild then .child else .descendant) compound

/-- The end of a chain; something has to stand to its left, and no `>` may be left over. -/
def finishChain (left : Option Chain) (afterChild : Bool) (rest : List Char) : Reading Chain :=
  match left with
  | none => .error ⟨.noSelector, rest⟩
  | some chain => if afterChild then .error ⟨.danglingCombinator, rest⟩ else .ok (chain, rest)

theorem finishChain_rest {left : Option Chain} {afterChild : Bool} {cs rest : List Char}
    {chain : Chain} (h : finishChain left afterChild cs = .ok (chain, rest)) : rest = cs := by
  unfold finishChain at h
  split at h
  · simp at h
  · split at h
    · simp at h
    · injection h with h
      exact (Prod.mk.inj h).2.symm

/-- The rest of a chain, given what stands to the left and whether a `>` was read since. The
chain ends at a comma or at the end of the text. -/
def readSteps (left : Option Chain) (afterChild : Bool) (cs : List Char) : Reading Chain :=
  match h : Text.trimStart cs with
  | [] => finishChain left afterChild []
  | c :: more =>
    if c = ',' then finishChain left afterChild (c :: more)
    else if c = '>' then
      if left.isNone || afterChild then .error ⟨.misplacedChild, c :: more⟩
      else
        have : more.length < cs.length := by
          have := length_trimStart cs
          simp only [h, List.length_cons] at this
          omega
        readSteps left true more
    else if left.isSome && ! afterChild && (c :: more).length = cs.length then
      .error ⟨.missingCombinator, c :: more⟩
    else match hc : readCompound (c :: more) with
      | .error e => .error e
      | .ok (compound, rest) =>
        have : rest.length < cs.length := by
          have := readCompound_shorter hc
          rw [← h] at this
          exact Nat.lt_of_lt_of_le this (length_trimStart cs)
        readSteps (some (extend left afterChild compound)) false rest
termination_by cs.length

theorem readSteps_length {left : Option Chain} {afterChild : Bool} {cs rest : List Char}
    {chain : Chain} (h : readSteps left afterChild cs = .ok (chain, rest)) :
    rest.length ≤ cs.length := by
  fun_induction readSteps left afterChild cs with
  | case1 => simp [finishChain_rest h]
  | case2 left afterChild cs more hcs =>
    rw [finishChain_rest h, ← hcs]
    exact length_trimStart cs
  | case3 => simp at h
  | case4 left afterChild cs more hcs hc hl hlt ih =>
    have := ih h
    omega
  | case5 => simp at h
  | case6 => simp at h
  | case7 left afterChild cs c more hcs _ _ _ compound r hc hlt ih =>
    have := ih h
    omega

def readChains (cs : List Char) : Except Stop Group :=
  match h : readSteps none false cs with
  | .error e => .error e
  | .ok (chain, ',' :: rest) =>
    have : rest.length < cs.length := readSteps_length h
    (readChains rest).map (chain :: ·)
  | .ok (chain, _) => .ok [chain]
termination_by cs.length

def parse (text : String) : Except Fault Group :=
  let cs := text.toList
  (readChains cs).mapError fun stop => ⟨stop.problem, cs.length - stop.rest.length⟩

end Pinpoint.Selector
