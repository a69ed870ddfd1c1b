import Pinpoint.Text.Letters
import Pinpoint.Text.Lines
import Pinpoint.Url.Composition
import Pinpoint.Url.Direction
import Pinpoint.Url.Joining
import Pinpoint.Url.Punycode

/-! Hosts of addresses: domain names and the numeric addresses of both versions. Labels of domain
names that begin with `xn--` spell characters beyond ASCII. -/

namespace Pinpoint.Url

/-- Plain text that a label may spell: composed, and with no mark as its first character. -/
def isSpellable (cs : List Char) : Bool :=
  cs.all isLabelChar && ! cs.head?.any isMark && allowsJoiners [] cs && composedForm cs = cs

def maxSpelling : Nat := 2000

def maxSpelled : Nat := 1000

/-- The plain text of a label, the same for all its spellings. One is only spelled if that is
needed. -/
def plainLabel? (cs : List Char) : Option (List Char) :=
  if "xn--".toList.isPrefixOf cs then do
    let spelling := cs.drop 4
    if maxSpelling < spelling.length then none
    let plain ← Punycode.decode? spelling
    if maxSpelled < plain.length || plain.all Text.isAscii || ! isSpellable plain then none
    else some plain
  else some (composedForm cs)

def plainLabels? (labels : List (List Char)) : Option (List (List Char)) := do
  let plain ← labels.mapM plainLabel?
  if plain.any hasRightToLeft && ! plain.all keepsDirection then none else some plain

/-- A numeric address is a number of 32 bits or eight pieces of 16 bits. -/
inductive Host where
  | domain (name : String)
  | version4 (n : Nat)
  | version6 (pieces : List Nat)
  deriving DecidableEq, Repr

def percentDecode : List UInt8 → List UInt8
  | 37 :: a :: b :: rest =>
    let x := Char.ofNat a.toNat
    let y := Char.ofNat b.toNat
    if Text.isHexDigit x && Text.isHexDigit y then
      UInt8.ofNat (Text.digitsValue 16 [x, y]) :: percentDecode rest
    else 37 :: percentDecode (a :: b :: rest)
  | c :: rest => c :: percentDecode rest
  | [] => []

def percentDecode? (s : String) : Option String :=
  String.fromUTF8? (ByteArray.mk (percentDecode s.toUTF8.toList).toArray)

/-- One part of a dotted number; a second `none` is a number that is too large. -/
def part? (cs : List Char) : Option (Option Nat) :=
  let number (base : Nat) (isDigit : Char → Bool) (ds : List Char) : Option (Option Nat) :=
    if ! ds.all isDigit then none
    else
      let n := Text.digitsValue base ds
      some (if n < Nat.pow 2 32 then some n else none)
  match cs with
  | [] => none
  | '0' :: 'x' :: ds | '0' :: 'X' :: ds => number 16 Text.isHexDigit ds
  | ['0'] => some (some 0)
  | '0' :: ds => number 8 (fun c => '0' ≤ c && c ≤ '7') ds
  | ds => number 10 Char.isDigit ds

/-- The parts between dots; an empty last one does not count. -/
def dottedParts (cs : List Char) : List (List Char) :=
  let parts := Text.splitAtChar '.' cs
  if parts.getLast? = some [] && 1 < parts.length then parts.dropLast else parts

/-- The last part is a number, so the whole has to be a numeric address. -/
def endsInNumber (cs : List Char) : Bool :=
  match (dottedParts cs).getLast? with
  | some last => (! last.isEmpty && last.all Char.isDigit) || (part? last).isSome
  | none => false

/-- One to four numbers; the last one fills the bytes that the others leave. -/
def version4? (cs : List Char) : Option Nat := do
  let parts ← (dottedParts cs).mapM fun p => (part? p).bind id
  if parts.isEmpty || 4 < parts.length then none
  else
    let leading := parts.dropLast
    let last := parts.getLast?.getD 0
    if leading.any (255 < ·) || Nat.pow 256 (4 - leading.length) ≤ last then none
    else
      let high := leading.foldl (fun n byte => n * 256 + byte) 0
      some (high * Nat.pow 256 (4 - leading.length) + last)

def byte? (cs : List Char) : Option Nat := do
  let n ← Text.natural? cs
  if (cs.head? = some '0' && cs.length ≠ 1) || 255 < n then none else some n

def lastPieces? (cs : List Char) : Option (List Nat) := do
  let [a, b, c, d] ← (Text.splitAtChar '.' cs).mapM byte? | none
  some [a * 256 + b, c * 256 + d]

def leadingHex (cs : List Char) : List Char := (cs.take 4).takeWhile Text.isHexDigit

/-- Reads pieces behind those already read; `gap` is the place of the double colon. No piece may
stand where an eighth one has been counted, the gap being counted as one. -/
def readPieces : Nat → List Nat → Option Nat → List Char → Option (List Nat × Option Nat)
  | _, pieces, gap, [] => some (pieces, gap)
  | 0, _, _, _ => none
  | fuel + 1, pieces, gap, c :: cs =>
    let count := pieces.length + if gap.isSome then 1 else 0
    if count = 8 then none
    else if c = ':' then
      if gap.isSome then none else readPieces fuel pieces (some pieces.length) cs
    else
      let digits := leadingHex (c :: cs)
      let piece := Text.digitsValue 16 digits
      match (c :: cs).drop digits.length with
      | [] => some (pieces ++ [piece], gap)
      | '.' :: _ =>
        if digits.isEmpty || 6 < count then none
        else (lastPieces? (c :: cs)).map fun last => (pieces ++ last, gap)
      | ':' :: rest =>
        if rest.isEmpty then none else readPieces fuel (pieces ++ [piece]) gap rest
      | _ => none

/-- Eight pieces, of which a double colon leaves out one or more that are zero. -/
def version6? (cs : List Char) : Option (List Nat) := do
  if cs.length < 2 then none
  let (pieces, gap) ← match cs with
    | ':' :: ':' :: rest => readPieces cs.length [] (some 0) rest
    | ':' :: _ => none
    | _ => readPieces cs.length [] none cs
  match gap with
  | some i =>
    some (pieces.take i ++ List.replicate (8 - pieces.length) 0 ++ pieces.drop i)
  | none => if pieces.length = 8 then some pieces else none

def bracketed? : List Char → Option (List Char)
  | '[' :: cs => if cs.getLast? = some ']' then some cs.dropLast else none
  | _ => none

def isForbidden (c : Char) : Bool :=
  c.toNat ≤ 32 || c.toNat = 127 || "%#/:<>?@[\\]^|".toList.contains c

def Host.parse? (s : String) : Option Host :=
  if s.toList.head? = some '[' then (bracketed? s.toList).bind version6? |>.map .version6
  else do
    let decoded ← percentDecode? s
    let name := Text.lower decoded
    let plain ← plainLabels? (Text.splitAtChar '.' name.toList)
    if name = "" || name.toList.any isForbidden then none
    else if endsInNumber name.toList then (version4? name.toList).map .version4
    else some (.domain (".".intercalate (plain.map String.ofList)))

def Host.parseOther? (s : String) : Option Host :=
  if s.toList.head? = some '[' then (bracketed? s.toList).bind version6? |>.map .version6
  else if s.toList.any "\x00\t\n\r #/:<>?@[\\]^|".toList.contains then none
  else some (.domain s)

end Pinpoint.Url
