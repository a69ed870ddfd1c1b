import Pinpoint.Text.Letters

/-! JSON values. Texts can spell what no string holds, a half of a surrogate pair, and numbers
beyond all bounds; both have a place here because a reader may pass over them. -/

namespace Pinpoint.Json

inductive Value where
  | null
  | bool (b : Bool)
  /-- Digits only, below the bound of 64 bits. -/
  | natural (n : Nat)
  /-- Any other number as it is written. -/
  | numeral (text : String)
  | string (s : String)
  | array (items : List Value)
  | object (members : List (String × Value))
  /-- A string with half a surrogate pair in it, or an object with such a key. -/
  | unpaired
  deriving Repr

mutual

def Value.depth : Value → Nat
  | .array items => Value.depthAll items + 1
  | .object members => Value.depthMembers members + 1
  | _ => 0

def Value.depthAll : List Value → Nat
  | [] => 0
  | v :: rest => max v.depth (Value.depthAll rest)

def Value.depthMembers : List (String × Value) → Nat
  | [] => 0
  | (_, v) :: rest => max v.depth (Value.depthMembers rest)

end

/-- A number as a multiple of a power of ten. The multiple has 64 bits: the digits that no longer
fit count as zeros. -/
structure Scientific where
  significand : Nat
  exponent : Int
  deriving DecidableEq, Repr

namespace Scientific

def absorb (significand : Nat) : List Char → Nat × Nat
  | [] => (significand, 0)
  | c :: cs =>
    let longer := significand * 10 + Text.hexDigitValue c
    if longer < Text.wordBound then
      let (result, taken) := absorb longer cs
      (result, taken + 1)
    else (significand, 0)

def ofText (s : String) : Scientific :=
  let cs := s.toList.dropWhile (· = '-')
  let whole := cs.takeWhile Char.isDigit
  let cs := cs.dropWhile Char.isDigit
  let fraction := if cs.head? = some '.' then cs.tail.takeWhile Char.isDigit else []
  let marked := (cs.dropWhile fun c => c ≠ 'e' && c ≠ 'E').tail
  let written : Int := Text.digitsValue 10 (marked.dropWhile fun c => c = '+' || c = '-')
  let (upper, inWhole) := absorb 0 whole
  let (significand, inFraction) := absorb upper fraction
  let shift : Int := (whole.length - inWhole : Nat) - (inFraction : Nat)
  ⟨significand, if marked.head? = some '-' then shift - written else shift + written⟩

/-- The double next to a natural number, of two the one that is even in its last bit. -/
def nearestDouble (n : Nat) : Nat :=
  let unit := Nat.pow 2 (n.log2 - 52)
  let low := n / unit
  let rest := n % unit * 2
  if rest < unit || (rest = unit && low % 2 = 0) then low * unit else (low + 1) * unit

def doubleBound : Nat := Nat.pow 2 1024 - Nat.pow 2 970

def exponentLimit : Nat := 308

/-- Whether the number stays within the doubles when its two parts are rounded before they are
multiplied. Division never leaves them. -/
def isFinite (s : Scientific) : Bool :=
  s.significand = 0 ||
    match s.exponent with
    | .ofNat e =>
      e ≤ exponentLimit && nearestDouble s.significand * nearestDouble (Nat.pow 10 e) < doubleBound
    | .negSucc _ => true

end Scientific

mutual

def Value.isSound : Value → Bool
  | .unpaired => false
  | .numeral text => (Scientific.ofText text).isFinite
  | .array items => Value.areSound items
  | .object members => Value.areSoundMembers members
  | _ => true

def Value.areSound : List Value → Bool
  | [] => true
  | v :: rest => v.isSound && Value.areSound rest

def Value.areSoundMembers : List (String × Value) → Bool
  | [] => true
  | (_, v) :: rest => v.isSound && Value.areSoundMembers rest

end

def depthLimit : Nat := 127

end Pinpoint.Json
