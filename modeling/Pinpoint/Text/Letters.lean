/-! ASCII letters, digits and numerals. Case folding touches the 26 Latin letters only. -/

namespace Pinpoint.Text

def lower (s : String) : String := String.ofList (s.toList.map Char.toLower)

def upper (s : String) : String := String.ofList (s.toList.map Char.toUpper)

def equalIgnoringCase (s t : String) : Bool := lower s == lower t

def isAscii (c : Char) : Bool := c.toNat < 128

def isHexDigit (c : Char) : Bool :=
  c.isDigit || ('a' ≤ c && c ≤ 'f') || ('A' ≤ c && c ≤ 'F')

def hexDigitValue (c : Char) : Nat :=
  if c.isDigit then c.toNat - 48
  else if 'a' ≤ c && c ≤ 'f' then c.toNat - 87
  else if 'A' ≤ c && c ≤ 'F' then c.toNat - 55
  else 0

def digitsValue (base : Nat) (cs : List Char) : Nat :=
  cs.foldl (fun n c => n * base + hexDigitValue c) 0

def paddedHexText (width n : Nat) : String :=
  let ds := Nat.toDigits 16 n
  String.ofList (List.replicate (width - ds.length) '0' ++ ds)

/-- One past the largest 64-bit count. -/
def wordBound : Nat := Nat.pow 2 64

def charOfCode? (n : Nat) : Option Char :=
  if n < 0xD800 ∨ (0xDFFF < n ∧ n < 0x110000) then some (Char.ofNat n) else none

def natural? (cs : List Char) : Option Nat :=
  if cs.isEmpty || ! cs.all Char.isDigit then none else some (digitsValue 10 cs)

def signed? (cs : List Char) : Option Int64 :=
  let value : Option Int := match cs with
    | '-' :: ds => (natural? ds).map fun n => -(n : Int)
    | '+' :: ds => (natural? ds).map fun n => (n : Int)
    | ds => (natural? ds).map fun n => (n : Int)
  (value.filter fun i => -(Nat.pow 2 63 : Int) ≤ i && i < Nat.pow 2 63).map Int64.ofInt

end Pinpoint.Text
