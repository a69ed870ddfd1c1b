import Mathlib.Data.List.Basic
import Pinpoint.Proofs.Text.Letters
import Pinpoint.Snippet.Basic

/-! Snippets as a reader of JavaScript divides them. A single quote in code begins a literal, and
the next single quote without a backslash in front of it ends the literal. Whatever text a snippet
quotes, its literals hold exactly that text and its code holds nothing of it. -/

namespace Pinpoint.Snippet

/-- The code in front of the first literal, and each literal, as it is written, with the code
behind it. -/
structure Division where
  code : List Char
  literals : List (List Char × List Char)
  deriving DecidableEq, Repr

namespace Division

def codes (d : Division) : List (List Char) := d.code :: d.literals.map Prod.snd

def raws (d : Division) : List (List Char) := d.literals.map Prod.fst

def pushCode (cs : List Char) (d : Division) : Division := ⟨cs ++ d.code, d.literals⟩

def pushLiteral (raw : List Char) (d : Division) : Division := ⟨[], (raw, d.code) :: d.literals⟩

end Division

mutual

def divide : List Char → Option Division
  | [] => some ⟨[], []⟩
  | c :: cs =>
    if c = '\'' then (divideLiteral cs).map fun r => r.2.pushLiteral r.1
    else (divide cs).map (·.pushCode [c])

def divideLiteral : List Char → Option (List Char × Division)
  | [] => none
  | '\'' :: cs => (divide cs).map fun d => ([], d)
  | '\\' :: c :: cs => (divideLiteral cs).map fun r => ('\\' :: c :: r.1, r.2)
  | c :: cs => (divideLiteral cs).map fun r => (c :: r.1, r.2)

end

def unquote : List Char → Option (List Char)
  | [] => some []
  | '\\' :: '\\' :: cs => (unquote cs).map ('\\' :: ·)
  | '\\' :: '\'' :: cs => (unquote cs).map ('\'' :: ·)
  | '\\' :: 'n' :: cs => (unquote cs).map ('\n' :: ·)
  | '\\' :: 'r' :: cs => (unquote cs).map ('\r' :: ·)
  | '\\' :: 'u' :: a :: b :: c :: d :: cs =>
    if [a, b, c, d].all Text.isHexDigit then
      (Text.charOfCode? (Text.digitsValue 16 [a, b, c, d])).bind fun x =>
        (unquote cs).map (x :: ·)
    else none
  | '\\' :: _ => none
  | c :: cs => (unquote cs).map (c :: ·)

def isLineEnd (c : Char) : Bool := c = '\n' || c = '\r' || c = '\u2028' || c = '\u2029'

theorem divideLiteral_cons {c : Char} (hq : c ≠ '\'') (hb : c ≠ '\\') (cs : List Char) :
    divideLiteral (c :: cs) = (divideLiteral cs).map fun r => (c :: r.1, r.2) := by
  rw [divideLiteral]
  · exact hq
  · rintro d rest rfl
    exact absurd rfl hb

theorem unquote_cons {c : Char} (h : c ≠ '\\') (cs : List Char) :
    unquote (c :: cs) = (unquote cs).map (c :: ·) := by
  rw [unquote]
  all_goals
    intros
    exact absurd ‹c = '\\'› h

section Quoting

/-- What is written for a character: the character itself, or an escape. -/
theorem quoteChar_cases (c : Char) :
    (quoteChar c = [c] ∧ c ≠ '\'' ∧ c ≠ '\\' ∧ isLineEnd c = false) ∨
      ∃ x digits, quoteChar c = '\\' :: x :: digits ∧ isLineEnd x = false ∧
        ∀ d ∈ digits, d.isDigit = true := by
  unfold quoteChar
  split_ifs with hb hq hn hr hl hp
  · exact .inr ⟨'\\', [], rfl, rfl, by simp⟩
  · exact .inr ⟨'\'', [], rfl, rfl, by simp⟩
  · exact .inr ⟨'n', [], rfl, rfl, by simp⟩
  · exact .inr ⟨'r', [], rfl, rfl, by simp⟩
  · exact .inr ⟨'u', ['2', '0', '2', '8'], rfl, rfl, by simp⟩
  · exact .inr ⟨'u', ['2', '0', '2', '9'], rfl, rfl, by simp⟩
  · exact .inl ⟨rfl, hq, hb, by simp [isLineEnd, hn, hr, hl, hp]⟩

theorem divideLiteral_digits {digits : List Char} (h : ∀ d ∈ digits, d.isDigit = true)
    (rest : List Char) :
    divideLiteral (digits ++ rest) = (divideLiteral rest).map fun r => (digits ++ r.1, r.2) := by
  induction digits with
  | nil => simp
  | cons d digits ih =>
    have hd := h d List.mem_cons_self
    have hq : d ≠ '\'' := by rintro rfl; exact absurd hd (by decide)
    have hb : d ≠ '\\' := by rintro rfl; exact absurd hd (by decide)
    rw [List.cons_append, divideLiteral_cons hq hb,
      ih fun e he => h e (List.mem_cons_of_mem _ he), Option.map_map]
    rfl

theorem divideLiteral_quoteChar (c : Char) (cs : List Char) :
    divideLiteral (quoteChar c ++ cs)
      = (divideLiteral cs).map fun r => (quoteChar c ++ r.1, r.2) := by
  rcases quoteChar_cases c with ⟨heq, hq, hb, -⟩ | ⟨x, digits, heq, -, hdigits⟩
  · rw [heq]
    exact divideLiteral_cons hq hb cs
  · rw [heq, List.cons_append, List.cons_append, divideLiteral, divideLiteral_digits hdigits,
      Option.map_map]
    rfl

theorem unquote_quoteChar (c : Char) (cs : List Char) :
    unquote (quoteChar c ++ cs) = (unquote cs).map (c :: ·) := by
  unfold quoteChar
  split_ifs with hb hq hn hr hl hp
  · rw [hb]; rfl
  · rw [hq]; rfl
  · rw [hn]; rfl
  · rw [hr]; rfl
  · rw [hl]; rfl
  · rw [hp]; rfl
  · exact unquote_cons hb cs

theorem isLineEnd_of_isDigit {c : Char} (h : c.isDigit = true) : isLineEnd c = false := by
  by_contra hend
  simp only [isLineEnd, Bool.not_eq_false, Bool.or_eq_true, decide_eq_true_eq, or_assoc] at hend
  rcases hend with rfl | rfl | rfl | rfl <;> exact absurd h (by decide)

theorem isLineEnd_of_mem_quoteChar {c x : Char} (h : x ∈ quoteChar c) : isLineEnd x = false := by
  rcases quoteChar_cases c with ⟨heq, -, -, hc⟩ | ⟨e, digits, heq, he, hdigits⟩
  · rw [heq, List.mem_singleton] at h
    rw [h, hc]
  · rw [heq, List.mem_cons, List.mem_cons] at h
    rcases h with rfl | rfl | h
    · rfl
    · exact he
    · exact isLineEnd_of_isDigit (hdigits x h)

theorem toList_quote (s : String) : (quote s).toList = s.toList.flatMap quoteChar := by
  rw [quote, Text.expand, String.toList_ofList]

theorem unquote_quote (s : String) : unquote (quote s).toList = some s.toList := by
  rw [toList_quote]
  induction s.toList with
  | nil => rfl
  | cons c cs ih => rw [List.flatMap_cons, unquote_quoteChar, ih, Option.map_some]

theorem isLineEnd_of_mem_quote {s : String} {c : Char} (h : c ∈ (quote s).toList) :
    isLineEnd c = false := by
  rw [toList_quote] at h
  obtain ⟨x, -, hc⟩ := List.mem_flatMap.mp h
  exact isLineEnd_of_mem_quoteChar hc

/-- A quoted text fills its literal up to the closing quote. -/
theorem divideLiteral_quote (s : String) (rest : List Char) :
    divideLiteral ((quote s).toList ++ '\'' :: rest)
      = (divide rest).map fun d => ((quote s).toList, d) := by
  rw [toList_quote]
  induction s.toList with
  | nil => rw [List.flatMap_nil, List.nil_append, divideLiteral]
  | cons c cs ih =>
    rw [List.flatMap_cons, List.append_assoc, divideLiteral_quoteChar, ih, Option.map_map]
    rfl

end Quoting

theorem divide_code {cs : List Char} (h : '\'' ∉ cs) (rest : List Char) :
    divide (cs ++ rest) = (divide rest).map (·.pushCode cs) := by
  induction cs with
  | nil =>
    have hnil : (fun d : Division => d.pushCode []) = id := rfl
    rw [List.nil_append, hnil, Option.map_id, id]
  | cons c cs ih =>
    rw [List.mem_cons, not_or] at h
    rw [List.cons_append, divide, if_neg (Ne.symm h.1), ih h.2, Option.map_map]
    rfl

def division : Snippet → Division
  | [] => ⟨[], []⟩
  | .code text :: s => (division s).pushCode text.toList
  | .literal text :: s => (division s).pushLiteral (quote text).toList

def quoted (s : Snippet) : List String :=
  s.filterMap fun
    | .code _ => none
    | .literal text => some text

/-- The code of a snippet begins no literal. -/
def isClosed (s : Snippet) : Bool :=
  s.all fun
    | .code text => ! text.toList.contains '\''
    | .literal _ => true

theorem toList_render_cons (p : Piece) (s : Snippet) :
    (render (p :: s)).toList = p.render.toList ++ (render s).toList := by
  simp [render]

theorem divide_render {s : Snippet} (h : s.isClosed = true) :
    divide s.render.toList = some s.division := by
  induction s with
  | nil => rfl
  | cons p s ih =>
    rw [isClosed, List.all_cons, Bool.and_eq_true] at h
    rw [toList_render_cons]
    cases p with
    | code text =>
      have hcode : '\'' ∉ text.toList := by simpa using h.1
      rw [Piece.render, divide_code hcode, ih h.2]
      rfl
    | literal text =>
      have hopen : (Piece.literal text).render.toList
          = '\'' :: ((quote text).toList ++ ['\'']) := by
        simp [Piece.render]
      rw [hopen, List.cons_append, List.append_assoc, divide, if_pos rfl, List.singleton_append,
        divideLiteral_quote, ih h.2]
      rfl

theorem raws_division (s : Snippet) :
    s.division.raws = s.quoted.map fun text => (quote text).toList := by
  induction s with
  | nil => rfl
  | cons p s ih =>
    cases p with
    | code text => exact ih
    | literal text => exact congrArg (_ :: ·) ih

/-- A snippet without the texts that it quotes. -/
def blank (s : Snippet) : Snippet :=
  s.map fun
    | .code text => .code text
    | .literal _ => .literal ""

theorem Division.codes_pushCode {d d' : Division} (h : d.codes = d'.codes) (cs : List Char) :
    (d.pushCode cs).codes = (d'.pushCode cs).codes := by
  obtain ⟨hcode, hmore⟩ := List.cons.inj h
  exact congrArg₂ List.cons (congrArg (cs ++ ·) hcode) hmore

theorem Division.codes_pushLiteral {d d' : Division} (h : d.codes = d'.codes)
    (raw raw' : List Char) : (d.pushLiteral raw).codes = (d'.pushLiteral raw').codes :=
  congrArg ([] :: ·) h

theorem codes_division_blank (s : Snippet) : s.blank.division.codes = s.division.codes := by
  induction s with
  | nil => rfl
  | cons p s ih =>
    cases p with
    | code text => exact Division.codes_pushCode ih _
    | literal text => exact Division.codes_pushLiteral ih _ _

end Pinpoint.Snippet
