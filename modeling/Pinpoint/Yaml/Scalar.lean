import Pinpoint.Text.Letters
import Pinpoint.Yaml.Glyph

/-! Scalars of YAML in all their styles. Every reader answers the text and the characters that are
left. -/

namespace Pinpoint.Yaml

inductive Style where
  | plain
  | literal
  | other
  deriving DecidableEq, Repr

/-- What line ends between two words come to: one is a space, of more the first goes. The two
Unicode separators stay. -/
def foldBreaks : List Char → List Char
  | ['\n'] => [' ']
  | '\n' :: rest => rest
  | breaks => breaks

def between (blanks breaks : List Char) : List Char :=
  if breaks.isEmpty then blanks else foldBreaks breaks

structure PlainText where
  text : List Char
  /-- Line ends follow the text. -/
  endsLine : Bool
  rest : List Glyph

def isFlowMark (c : Char) : Bool :=
  c = ',' || c = '[' || c = ']' || c = '\x7b' || c = '\x7d'

/-- A scalar without quotes, given the blanks and the line ends since its last word. Lines that
belong to it have at least the given indentation, except inside brackets. -/
def readPlain (flow : Bool) (indent : Nat) (blanks breaks : List Char) :
    List Glyph → Option PlainText
  | [] => some ⟨[], ! breaks.isEmpty, []⟩
  | g :: gs =>
    let c := g.char
    let next := charAt 0 gs
    if isBlank c then
      if breaks.isEmpty then readPlain flow indent (blanks ++ [c]) [] gs
      else if c = '\t' && g.column < indent then none
      else readPlain flow indent [] breaks gs
    else if isBreak c then readPlain flow indent [] (breaks ++ [c]) gs
    else
      let fresh := ! blanks.isEmpty || ! breaks.isEmpty
      let ends := c = endChar ||
        (fresh && ((! flow && g.column < indent) || isAnyDocumentMark (g :: gs) || c = '#'))
      if ends then some ⟨[], ! breaks.isEmpty, g :: gs⟩
      else if flow && c = ':' && (isFlowMark next || next = '?') then none
      else if (c = ':' && ! isSolid next) || (flow && isFlowMark c) then
        some ⟨[], ! breaks.isEmpty, g :: gs⟩
      else (readPlain flow indent [] [] gs).map fun p =>
        { p with text := between blanks breaks ++ c :: p.text }

def escaped? : Char → Option Char
  | '0' => some '\x00'
  | 'a' => some '\x07'
  | 'b' => some '\x08'
  | 't' => some '\t'
  | '\t' => some '\t'
  | 'n' => some '\n'
  | 'v' => some '\x0b'
  | 'f' => some '\x0c'
  | 'r' => some '\r'
  | 'e' => some '\x1b'
  | ' ' => some ' '
  | '"' => some '"'
  | '/' => some '/'
  | '\\' => some '\\'
  | 'N' => some '\x85'
  | '_' => some '\xa0'
  | 'L' => some '\u2028'
  | 'P' => some '\u2029'
  | _ => none

def escapeDigits : Char → Nat
  | 'x' => 2
  | 'u' => 4
  | 'U' => 8
  | _ => 0

def readEscape? (gs : List Glyph) : Option (Char × Nat) :=
  let letter := charAt 0 gs
  match escapeDigits letter with
  | 0 => (escaped? letter).map fun c => (c, 1)
  | n =>
    let digits := (gs.tail.take n).map Glyph.char
    if digits.length = n && digits.all Text.isHexDigit then
      (Text.charOfCode? (Text.digitsValue 16 digits)).map fun c => (c, n + 1)
    else none

inductive Gap where
  | none
  /-- The first line end was written after a backslash and does not count. -/
  | joined (breaks : List Char)
  | broken (breaks : List Char)

def Gap.add (c : Char) : Gap → Gap
  | .none => .broken [c]
  | .joined breaks => .joined (breaks ++ [c])
  | .broken breaks => .broken (breaks ++ [c])

def Gap.text (blanks : List Char) : Gap → List Char
  | .none => blanks
  | .joined breaks => breaks
  | .broken breaks => foldBreaks breaks

def readQuoted (quote : Char) (blanks : List Char) (gap : Gap) :
    List Glyph → Option (List Char × List Glyph)
  | [] => none
  | g :: gs =>
    let c := g.char
    let before := gap.text blanks
    if isBlank c then
      match gap with
      | .none => readQuoted quote (blanks ++ [c]) .none gs
      | gap => readQuoted quote [] gap gs
    else if isBreak c then readQuoted quote [] (gap.add c) gs
    else if c = endChar || isAnyDocumentMark (g :: gs) then none
    else if c = quote then
      if quote = '\'' && charAt 0 gs = '\'' then
        (readQuoted quote [] .none gs.tail).map fun (text, rest) => (before ++ '\'' :: text, rest)
      else some (before, gs)
    else if c = '\\' && quote = '"' then
      if isBreak (charAt 0 gs) then
        (readQuoted quote [] (.joined []) gs.tail).map fun (text, rest) => (before ++ text, rest)
      else
        match readEscape? gs with
        | some (x, n) =>
          (readQuoted quote [] .none (gs.drop n)).map fun (text, rest) =>
            (before ++ x :: text, rest)
        | .none => none
    else (readQuoted quote [] .none gs).map fun (text, rest) => (before ++ c :: text, rest)
termination_by gs => gs.length
decreasing_by all_goals (simp only [List.length_cons, List.length_tail, List.length_drop]; omega)

inductive Chomping where
  | strip
  | clip
  | keep
  deriving DecidableEq, Repr

/-- The marks behind the sign of a block scalar: chomping and indentation in either order. -/
def readHeader (gs : List Glyph) : Option (Chomping × Nat × List Glyph) :=
  let chomping? (c : Char) : Option Chomping :=
    if c = '+' then some .keep else if c = '-' then some .strip else none
  let digit (c : Char) : Nat := if c.isDigit then c.toNat - 48 else 0
  let first := charAt 0 gs
  let second := charAt 1 gs
  match chomping? first with
  | some chomping =>
    if second = '0' then none
    else if second.isDigit then some (chomping, digit second, gs.drop 2)
    else some (chomping, 0, gs.drop 1)
  | none =>
    if first = '0' then none
    else if first.isDigit then
      match chomping? second with
      | some chomping => some (chomping, digit first, gs.drop 2)
      | none => some (.clip, digit first, gs.drop 1)
    else some (.clip, 0, gs)

def skipComment (gs : List Glyph) : List Glyph :=
  let gs := gs.dropWhile (isBlank ·.char)
  if charAt 0 gs = '#' then gs.dropWhile fun g => ! isBreak g.char && g.char ≠ endChar else gs

def endLine? (gs : List Glyph) : Option (List Glyph) :=
  match skipComment gs with
  | [] => some []
  | g :: rest =>
    if isBreak g.char then some rest else if g.char = endChar then some (g :: rest) else none

/-- Empty lines and the indentation of the next line; the indentation 0 is one that is not known
yet. Answers the line ends, the greatest column and what is left. -/
def readEmptyLines (indent : Nat) : List Glyph → Option (List Char × Nat × List Glyph)
  | [] => some ([], 0, [])
  | g :: gs =>
    let isIndentation := indent = 0 || g.column < indent
    if g.char = ' ' && isIndentation then readEmptyLines indent gs
    else if g.char = '\t' && isIndentation then none
    else if isBreak g.char then
      (readEmptyLines indent gs).map fun (breaks, column, rest) =>
        (g.char :: breaks, max g.column column, rest)
    else some ([], g.column, g :: gs)

/-- The lines of a block scalar. `first` is the line end before the current line, `more` are those
of the empty lines behind it, and `blank` says that the line before began with a blank. Answers
the text without the last line ends, and these. -/
def readLines (literal : Bool) (indent : Nat) (first more : List Char) (blank : Bool) :
    Nat → List Glyph → Option (List Char × List Char × List Char × List Glyph)
  | 0, gs => some ([], first, more, gs)
  | fuel + 1, gs =>
    match gs with
    | [] => some ([], first, more, [])
    | g :: _ =>
      if g.column = indent && g.char ≠ endChar then
        let isText (g : Glyph) : Bool := ! isBreak g.char && g.char ≠ endChar
        let line := (gs.takeWhile isText).map Glyph.char
        let rest := gs.dropWhile isText
        let newFirst := ((rest.head?.map Glyph.char).filter isBreak).toList
        let folds := ! literal && first = ['\n'] && ! blank && ! isBlank g.char
        let gap := if folds then (if more.isEmpty then [' '] else more) else first ++ more
        match readEmptyLines indent (rest.drop newFirst.length) with
        | none => none
        | some (newMore, _, rest) =>
          (readLines literal indent newFirst newMore (isBlank g.char) fuel rest).map
            fun (text, tail) => (gap ++ line ++ text, tail)
      else some ([], first, more, gs)

/-- A block scalar from behind its sign; `outer` is the indentation around it and one more. -/
def readBlock (literal : Bool) (outer : Nat) (gs : List Glyph) :
    Option (List Char × List Glyph) := do
  let (chomping, increment, gs) ← readHeader gs
  let gs ← endLine? gs
  let given := if increment = 0 then 0 else outer - 1 + increment
  let (more, column, gs) ← readEmptyLines given gs
  let indent := if given = 0 then max 1 (max outer column) else given
  let (text, first, more, rest) ← readLines literal indent [] more false gs.length gs
  let tail := match chomping with
    | .strip => []
    | .clip => first
    | .keep => first ++ more
  some (text ++ tail, rest)

end Pinpoint.Yaml
