/-! The characters of a YAML text, each with its place. Indentation and the extent of keys depend
on places. -/

namespace Pinpoint.Yaml

structure Glyph where
  char : Char
  offset : Nat
  line : Nat
  column : Nat
  deriving DecidableEq, Repr

/-- Stands behind the last character. No text holds it. -/
def endChar : Char := '\x00'

def isPrintable (c : Char) : Bool :=
  let n := c.toNat
  n = 9 || n = 10 || n = 13 || (32 ≤ n && n ≤ 126) || n = 0x85 || (0xA0 ≤ n && n ≤ 0xFFFD) ||
    0x10000 ≤ n

/-- Writes every line end but the two Unicode separators as a line feed. -/
def unifyBreaks : List Char → List Char
  | [] => []
  | '\r' :: '\n' :: cs => '\n' :: unifyBreaks cs
  | c :: cs => (if c = '\r' || c = '\x85' then '\n' else c) :: unifyBreaks cs

def isBreak (c : Char) : Bool := c = '\n' || c = '\u2028' || c = '\u2029'

def isBlank (c : Char) : Bool := c = ' ' || c = '\t'

/-- Neither blank nor line end nor the end of the text. -/
def isSolid (c : Char) : Bool := ! isBlank c && ! isBreak c && c ≠ endChar

def placeFrom (offset line column : Nat) : List Char → List Glyph
  | [] => [⟨endChar, offset, line, column⟩]
  | c :: cs =>
    ⟨c, offset, line, column⟩ ::
      if isBreak c then placeFrom (offset + c.utf8Size) (line + 1) 0 cs
      else placeFrom (offset + c.utf8Size) line (column + 1) cs

def glyphs? (s : String) : Option (List Glyph) :=
  if s.toList.all isPrintable then some (placeFrom 0 0 0 (unifyBreaks s.toList)) else none

def charAt (n : Nat) (gs : List Glyph) : Char := ((gs[n]?).map Glyph.char).getD endChar

/-- Three hyphens or three dots at the beginning of a line, with nothing solid behind them. -/
def isDocumentMark (mark : Char) (gs : List Glyph) : Bool :=
  (gs.head?.map Glyph.column) = some 0 && charAt 0 gs = mark && charAt 1 gs = mark &&
    charAt 2 gs = mark && ! isSolid (charAt 3 gs)

def isAnyDocumentMark (gs : List Glyph) : Bool := isDocumentMark '-' gs || isDocumentMark '.' gs

end Pinpoint.Yaml
