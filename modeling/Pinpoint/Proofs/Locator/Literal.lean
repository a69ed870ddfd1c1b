import Pinpoint.Locator.Absolute
import Pinpoint.Proofs.Text.Lines

/-! The strings that XPath expressions stand for. A string is written as a literal, which ends at
the next quote of its kind, or as a call of `concat` with literals. -/

namespace Pinpoint

namespace XPath

def literal? : List Char → Option (List Char × List Char)
  | [] => none
  | quote :: cs =>
    if quote = '"' ∨ quote = '\'' then
      match cs.dropWhile (· ≠ quote) with
      | [] => none
      | _ :: rest => some (cs.takeWhile (· ≠ quote), rest)
    else none

theorem literal?_shorter {cs value rest : List Char} (h : literal? cs = some (value, rest)) :
    rest.length < cs.length := by
  cases cs with
  | nil => cases h
  | cons quote cs =>
    rw [literal?] at h
    split at h
    · have hlen := (List.dropWhile_suffix (l := cs) (· ≠ quote)).length_le
      split at h
      · cases h
      · rename_i heq
        cases h
        rw [heq, List.length_cons] at hlen
        rw [List.length_cons]
        omega
    · cases h

def skipSpaces (cs : List Char) : List Char :=
  cs.dropWhile fun c => c = ' ' || c = '\t' || c = '\r' || c = '\n'

theorem length_skipSpaces (cs : List Char) : (skipSpaces cs).length ≤ cs.length :=
  (List.dropWhile_suffix _).length_le

def arguments? (cs : List Char) : Option (List (List Char)) :=
  match h : literal? (skipSpaces cs) with
  | none => none
  | some (value, rest) =>
    match hrest : skipSpaces rest with
    | [')'] => some [value]
    | ',' :: more =>
      have : more.length < cs.length := by
        have hcs := length_skipSpaces cs
        have hvalue := literal?_shorter h
        have hlast := length_skipSpaces rest
        rw [hrest, List.length_cons] at hlast
        omega
      (arguments? more).map (value :: ·)
    | _ => none
termination_by cs.length

/-- The string that an expression stands for. A call has two arguments at least. -/
def value? (text : String) : Option String :=
  let cs := text.toList
  if "concat(".toList.isPrefixOf cs then
    ((arguments? (cs.drop 7)).filter (2 ≤ ·.length)).map fun values => String.ofList values.flatten
  else (literal? cs).bind fun (value, rest) =>
    if rest.isEmpty then some (String.ofList value) else none

theorem literal?_of_not_mem {quote : Char} (hquote : quote = '"' ∨ quote = '\'') {value : List Char}
    (h : quote ∉ value) (rest : List Char) :
    literal? (quote :: (value ++ quote :: rest)) = some (value, rest) := by
  have hvalue : ∀ c ∈ value, decide (c ≠ quote) = true := by
    intro c hc
    rw [decide_eq_true_eq]
    rintro rfl
    exact h hc
  have htake : (value ++ quote :: rest).takeWhile (· ≠ quote) = value := by
    rw [List.takeWhile_append_of_pos hvalue, List.takeWhile_cons_of_neg (by simp), List.append_nil]
  have hdrop : (value ++ quote :: rest).dropWhile (· ≠ quote) = quote :: rest := by
    rw [List.dropWhile_append_of_pos hvalue, List.dropWhile_cons_of_neg (by simp)]
  rw [literal?, if_pos hquote, htake, hdrop]

theorem arguments?_space (cs : List Char) : arguments? (' ' :: cs) = arguments? cs := by
  rw [arguments?, arguments?]
  rfl

theorem arguments?_last {cs value rest : List Char}
    (h : literal? (skipSpaces cs) = some (value, rest)) (hrest : skipSpaces rest = [')']) :
    arguments? cs = some [value] := by
  rw [arguments?]
  split
  · rename_i heq
    rw [h] at heq
    cases heq
  · rename_i heq
    rw [h] at heq
    cases heq
    split
    · rfl
    · rename_i heq
      rw [hrest] at heq
      cases heq
    · rename_i hno _
      exact absurd hrest hno

theorem arguments?_cons {cs value rest more : List Char}
    (h : literal? (skipSpaces cs) = some (value, rest)) (hrest : skipSpaces rest = ',' :: more) :
    arguments? cs = (arguments? more).map (value :: ·) := by
  rw [arguments?]
  split
  · rename_i heq
    rw [h] at heq
    cases heq
  · rename_i heq
    rw [h] at heq
    cases heq
    split
    · rename_i heq
      rw [hrest] at heq
      cases heq
    · rename_i heq
      rw [hrest] at heq
      cases heq
      rfl
    · rename_i hno
      exact absurd hrest (hno more)

/-- A text between two quotes of one kind, which does not occur in it. -/
def IsLiteral (text value : String) : Prop :=
  ∃ quote : Char, (quote = '"' ∨ quote = '\'') ∧ quote ∉ value.toList ∧
    text.toList = quote :: (value.toList ++ [quote])

def IsCall (text value : String) : Prop :=
  ∃ arguments : List (String × String), 2 ≤ arguments.length ∧
    (∀ a ∈ arguments, IsLiteral a.1 a.2) ∧
    text = "concat(" ++ ", ".intercalate (arguments.map Prod.fst) ++ ")" ∧
    value = String.join (arguments.map Prod.snd)

inductive Denotes (text value : String) : Prop where
  | literal : IsLiteral text value → Denotes text value
  | call : IsCall text value → Denotes text value

theorem IsLiteral.literal?_append {text value : String} (h : IsLiteral text value)
    (rest : List Char) :
    literal? (skipSpaces (text.toList ++ rest)) = some (value.toList, rest) := by
  obtain ⟨quote, hquote, hvalue, htext⟩ := h
  have hcons : text.toList ++ rest = quote :: (value.toList ++ quote :: rest) := by
    rw [htext, List.cons_append, List.append_assoc]
    rfl
  have hskip : skipSpaces (quote :: (value.toList ++ quote :: rest))
      = quote :: (value.toList ++ quote :: rest) := by
    rcases hquote with rfl | rfl <;> rfl
  rw [hcons, hskip, literal?_of_not_mem hquote hvalue]

/-- Literals with commas between them are read as the arguments of a call. -/
theorem arguments?_intercalate {arguments : List (String × String)} (hne : arguments ≠ [])
    (h : ∀ a ∈ arguments, IsLiteral a.1 a.2) :
    arguments? ((", ".intercalate (arguments.map Prod.fst)).toList ++ [')'])
      = some (arguments.map fun a => a.2.toList) := by
  induction arguments with
  | nil => exact absurd rfl hne
  | cons a arguments ih =>
    have ha := h a List.mem_cons_self
    cases arguments with
    | nil =>
      rw [List.map_singleton, String.intercalate_singleton]
      exact arguments?_last (ha.literal?_append [')']) rfl
    | cons b arguments =>
      have hrest := ih (List.cons_ne_nil _ _) fun c hc => h c (List.mem_cons_of_mem _ hc)
      have htext : (", ".intercalate ((a :: b :: arguments).map Prod.fst)).toList ++ [')']
          = a.1.toList ++ ',' :: ' ' ::
            ((", ".intercalate ((b :: arguments).map Prod.fst)).toList ++ [')']) := by
        simp [List.map_cons, String.intercalate_cons_cons]
      rw [htext, arguments?_cons (ha.literal?_append _) rfl, arguments?_space, hrest]
      rfl

theorem IsLiteral.value?_eq {text value : String} (h : IsLiteral text value) :
    value? text = some value := by
  obtain ⟨quote, hquote, hvalue, htext⟩ := h
  have hcall : "concat(".toList.isPrefixOf text.toList = false := by
    rw [htext]
    rcases hquote with rfl | rfl <;> rfl
  rw [value?, hcall, if_neg Bool.false_ne_true, htext, literal?_of_not_mem hquote hvalue]
  simp

theorem IsCall.value?_eq {text value : String} (h : IsCall text value) :
    value? text = some value := by
  obtain ⟨arguments, hlen, hliterals, rfl, rfl⟩ := h
  have htext : ("concat(" ++ ", ".intercalate (arguments.map Prod.fst) ++ ")").toList
      = "concat(".toList ++ ((", ".intercalate (arguments.map Prod.fst)).toList ++ [')']) := by
    rw [String.toList_append, String.toList_append, List.append_assoc]
    rfl
  have hne : arguments ≠ [] := by
    rintro rfl
    simp at hlen
  have hprefix : "concat(".toList.isPrefixOf ("concat(".toList ++
      ((", ".intercalate (arguments.map Prod.fst)).toList ++ [')'])) = true := by
    rw [List.isPrefixOf_iff_prefix]
    exact List.prefix_append _ _
  have hdrop : ("concat(".toList ++ ((", ".intercalate (arguments.map Prod.fst)).toList ++
      [')'])).drop 7 = (", ".intercalate (arguments.map Prod.fst)).toList ++ [')'] := rfl
  have hread := arguments?_intercalate hne hliterals
  rw [value?, htext, if_pos hprefix, hdrop, hread, Option.filter_some,
    if_pos (by simpa using hlen), Option.map_some, ← List.flatMap_def, Option.some.injEq,
    ← String.toList_inj, String.toList_ofList, String.toList_join, List.flatMap_map]

/-- An expression is read as what it denotes, so it denotes one string only. -/
theorem Denotes.value?_eq {text value : String} (h : Denotes text value) :
    value? text = some value := by
  cases h with
  | literal h => exact h.value?_eq
  | call h => exact h.value?_eq

end XPath

namespace Locator

open XPath

def concatArguments : List String → List (String × String)
  | [] => []
  | [piece] => [(quoted piece, piece)]
  | piece :: next :: pieces =>
    (quoted piece, piece) :: ("'\"'", "\"") :: concatArguments (next :: pieces)

theorem isLiteral_quoted {piece : String} (h : '"' ∉ piece.toList) :
    IsLiteral (quoted piece) piece :=
  ⟨'"', .inl rfl, h, by simp [quoted]⟩

theorem isLiteral_of_mem_concatArguments {pieces : List String}
    (h : ∀ piece ∈ pieces, '"' ∉ piece.toList) :
    ∀ a ∈ concatArguments pieces, IsLiteral a.1 a.2 := by
  fun_induction concatArguments pieces with
  | case1 => exact nofun
  | case2 piece =>
    rw [List.forall_mem_singleton] at h ⊢
    exact isLiteral_quoted h
  | case3 piece next pieces ih =>
    rw [List.forall_mem_cons] at h
    rw [List.forall_mem_cons, List.forall_mem_cons]
    exact ⟨isLiteral_quoted h.1, ⟨'\'', .inr rfl, by decide, by decide⟩, ih h.2⟩

theorem intercalate_concatArguments (pieces : List String) :
    ", ".intercalate ((concatArguments pieces).map Prod.fst)
      = ", '\"', ".intercalate (pieces.map quoted) := by
  fun_induction concatArguments pieces with
  | case1 => rfl
  | case2 piece => rfl
  | case3 piece next pieces ih =>
    obtain ⟨a, rest, hrest⟩ : ∃ a rest, concatArguments (next :: pieces) = a :: rest := by
      cases pieces <;> exact ⟨_, _, rfl⟩
    rw [hrest] at ih ⊢
    have hseparator : ", '\"', " = ", " ++ "'\"'" ++ ", " := by decide
    calc ", ".intercalate (quoted piece :: "'\"'" :: (a :: rest).map Prod.fst)
        = quoted piece ++ ", " ++ ("'\"'" ++ ", " ++ ", ".intercalate ((a :: rest).map Prod.fst)) :=
          by rw [String.intercalate_cons_cons, List.map_cons, String.intercalate_cons_cons]
      _ = quoted piece ++ ", '\"', " ++ ", '\"', ".intercalate ((next :: pieces).map quoted) := by
          simp only [ih, hseparator, String.append_assoc]
      _ = ", '\"', ".intercalate ((piece :: next :: pieces).map quoted) :=
          String.intercalate_cons_cons.symm

theorem join_concatArguments (pieces : List String) :
    String.join ((concatArguments pieces).map Prod.snd) = "\"".intercalate pieces := by
  fun_induction concatArguments pieces with
  | case1 => rfl
  | case2 piece => simp
  | case3 piece next pieces ih =>
    rw [String.intercalate_cons_cons, ← ih]
    simp [String.append_assoc]

theorem two_le_length_concatArguments {pieces : List String} (h : 2 ≤ pieces.length) :
    2 ≤ (concatArguments pieces).length := by
  fun_cases concatArguments pieces with
  | case1 => exact h
  | case2 piece => simp at h
  | case3 piece next pieces =>
    rw [List.length_cons, List.length_cons]
    omega

theorem isCall_literal {s : String} (hdouble : '"' ∈ s.toList) (hsingle : '\'' ∈ s.toList) :
    IsCall (literal s) s := by
  have hpieces : ∀ piece ∈ Text.split '"' s, '"' ∉ piece.toList := by
    intro piece hpiece
    obtain ⟨cs, hcs, rfl⟩ := List.mem_map.mp hpiece
    rw [String.toList_ofList]
    exact Text.not_mem_of_mem_splitAtChar hcs
  have htwo : 2 ≤ (Text.split '"' s).length := by
    rw [Text.split, List.length_map]
    exact Text.two_le_length_splitAtChar hdouble
  have hjoin : "\"".intercalate (Text.split '"' s) = s := by
    have hcut : ['"'].intercalate (Text.splitAtChar '"' s.toList) = s.toList :=
      Text.intercalate_splitAtChar s.toList
    rw [← String.toList_inj, String.toList_intercalate, Text.split, List.map_map]
    simpa [Function.comp_def] using hcut
  refine ⟨concatArguments (Text.split '"' s), two_le_length_concatArguments htwo,
    isLiteral_of_mem_concatArguments hpieces, ?_, ?_⟩
  · simp [literal, hdouble, hsingle, intercalate_concatArguments]
  · rw [join_concatArguments, hjoin]

/-- A literal denotes the text that it is written for. -/
theorem denotes_literal (s : String) : Denotes (literal s) s := by
  by_cases hdouble : '"' ∈ s.toList
  · by_cases hsingle : '\'' ∈ s.toList
    · exact .call (isCall_literal hdouble hsingle)
    · exact .literal ⟨'\'', .inr rfl, hsingle, by simp [literal, hdouble, hsingle]⟩
  · exact .literal ⟨'"', .inl rfl, hdouble, by simp [literal, hdouble, quoted]⟩

/-- A literal is read as the text that it is written for. -/
theorem value?_literal (s : String) : value? (literal s) = some s :=
  (denotes_literal s).value?_eq

/-- A text is written as one literal or as a call of `concat` with literals, which denotes the text
and nothing else. -/
theorem denotes_literal_iff {s value : String} : Denotes (literal s) value ↔ value = s := by
  constructor
  · intro h
    have hvalue := h.value?_eq
    rw [value?_literal] at hvalue
    exact (Option.some.inj hvalue).symm
  · rintro rfl
    exact denotes_literal value

example : literal "it's \"x\"" = "concat(\"it's \", '\"', \"x\", '\"', \"\")" := by decide +kernel

end Locator

end Pinpoint
