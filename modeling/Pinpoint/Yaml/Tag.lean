import Pinpoint.Text.Letters
import Pinpoint.Yaml.Glyph

/-! Tags of YAML. Percent signs can spell any bytes in them, so that a tag need not be a text. -/

namespace Pinpoint.Yaml

abbrev Tag := List UInt8

namespace Tag

def ofBytes (bytes : List UInt8) : Tag := bytes.takeWhile (· ≠ 0)

def ofText (s : String) : Tag := s.toUTF8.toList

def unspecific : Tag := ofText "!"

def standard : Tag := ofText "tag:yaml.org,2002:"

def name? : Tag → Option String
  | mark :: name =>
    if mark = 33 then String.fromUTF8? (ByteArray.mk name.toArray) else none
  | [] => none

end Tag

def isWordChar (c : Char) : Bool := c.isAlphanum || c = '_' || c = '-'

/-- A character that stands for itself in a tag; brackets and commas do in complete tags only. -/
def isTagChar (complete : Bool) (c : Char) : Bool :=
  isWordChar c || ";/?:@&=+$.!~*'()".toList.contains c ||
    (complete && (c = ',' || c = '[' || c = ']'))

/-- How many more bytes belong to the character that a byte is part of, where `pending` were
expected before it. Only the sizes of the parts are looked at. -/
def pendingAfter? (pending byte : Nat) : Option Nat :=
  if pending ≠ 0 then (if 0x80 ≤ byte && byte < 0xC0 then some (pending - 1) else none)
  else if byte < 0x80 then some 0
  else if byte < 0xC0 then none
  else if byte < 0xE0 then some 1
  else if byte < 0xF0 then some 2
  else if byte < 0xF8 then some 3
  else none

/-- The bytes of a tag; a percent sign and two digits stand for a byte. The bytes of a character
that is spelled so have to stand together. -/
def readTagBytes (complete : Bool) (pending : Nat) :
    List Glyph → Option (List UInt8 × List Glyph)
  | [] => if pending = 0 then some ([], []) else none
  | g :: gs =>
    if g.char = '%' then
      match gs with
      | a :: b :: rest =>
        if Text.isHexDigit a.char && Text.isHexDigit b.char then
          let byte := Text.digitsValue 16 [a.char, b.char]
          match pendingAfter? pending byte with
          | some pending =>
            (readTagBytes complete pending rest).map fun (bytes, rest) =>
              (UInt8.ofNat byte :: bytes, rest)
          | none => none
        else none
      | _ => none
    else if pending ≠ 0 then none
    else if isTagChar complete g.char then
      (readTagBytes complete 0 gs).map fun (bytes, rest) =>
        (UInt8.ofNat g.char.toNat :: bytes, rest)
    else some ([], g :: gs)

end Pinpoint.Yaml
