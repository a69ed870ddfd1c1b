import Pinpoint.Yaml.Scalar
import Pinpoint.Yaml.Tag

/-! Tokens of YAML, and the readers of those that are words: directives, anchors and tags. -/

namespace Pinpoint.Yaml

inductive Token where
  | version (major minor : Nat)
  | tagHandle (handle : String) (replacement : Tag)
  | documentStart
  | documentEnd
  | blockSequenceStart
  | blockMappingStart
  | blockEnd
  | flowSequenceStart
  | flowSequenceEnd
  | flowMappingStart
  | flowMappingEnd
  | blockEntry
  | flowEntry
  | key
  | value
  | alias_ (name : String)
  | anchor (name : String)
  | tag (handle : String) (suffix : Tag)
  | scalar (text : String) (style : Style)
  deriving DecidableEq, Repr

def span (p : Char → Bool) (gs : List Glyph) : String × List Glyph :=
  (String.ofList ((gs.takeWhile (p ·.char)).map Glyph.char), gs.dropWhile (p ·.char))

def readName? (gs : List Glyph) : Option (String × List Glyph) :=
  let (name, rest) := span isWordChar gs
  let next := charAt 0 rest
  if name ≠ "" && (! isSolid next || "?:,]\x7d%@\x60".toList.contains next) then some (name, rest)
  else none

/-- A handle begins with an exclamation mark, and ends with one if it has a name. -/
def readHandle? (gs : List Glyph) : Option (String × List Glyph) :=
  if charAt 0 gs = '!' then
    let (word, rest) := span isWordChar gs.tail
    if charAt 0 rest = '!' then some ("!" ++ word ++ "!", rest.tail) else some ("!" ++ word, rest)
  else none

/-- A handle with a name or with a second exclamation mark. -/
def isLongHandle (handle : String) : Bool :=
  1 < handle.length && handle.toList.getLast? = some '!'

/-- A tag from its exclamation mark on. The handle of a complete tag is empty, and so is that of
the tag `!`. -/
def readTag? (gs : List Glyph) : Option (String × Tag × List Glyph) :=
  if charAt 1 gs = '<' then do
    let (bytes, rest) ← readTagBytes true 0 (gs.drop 2)
    if bytes ≠ [] && charAt 0 rest = '>' then some ("", Tag.ofBytes bytes, rest.tail) else none
  else do
    let (handle, rest) ← readHandle? gs
    let (bytes, rest) ← readTagBytes false 0 rest
    if isLongHandle handle then
      if bytes = [] then none else some (handle, Tag.ofBytes bytes, rest)
    else
      let suffix := Tag.ofText (String.ofList handle.toList.tail) ++ Tag.ofBytes bytes
      if suffix = [] then some ("", .unspecific, rest) else some ("!", suffix, rest)

def skipBlanks (gs : List Glyph) : List Glyph := gs.dropWhile (isBlank ·.char)

def readVersionNumber? (gs : List Glyph) : Option (Nat × List Glyph) :=
  let (digits, rest) := span Char.isDigit gs
  if digits = "" || 9 < digits.length then none
  else some (Text.digitsValue 10 digits.toList, rest)

def readDirective? (gs : List Glyph) : Option (Token × List Glyph) := do
  let (name, rest) := span isWordChar gs
  if isSolid (charAt 0 rest) then none
  let (token, rest) ← match name with
    | "YAML" => do
      let (major, rest) ← readVersionNumber? (skipBlanks rest)
      if charAt 0 rest ≠ '.' then none
      let (minor, rest) ← readVersionNumber? rest.tail
      some (Token.version major minor, rest)
    | "TAG" => do
      let (handle, rest) ← readHandle? (skipBlanks rest)
      if handle ≠ "!" && ! isLongHandle handle then none
      if ! isBlank (charAt 0 rest) then none
      let (bytes, rest) ← readTagBytes true 0 (skipBlanks rest)
      if bytes = [] || isSolid (charAt 0 rest) then none
      some (Token.tagHandle handle (Tag.ofBytes bytes), rest)
    | _ => none
  some (token, ← endLine? rest)

end Pinpoint.Yaml
