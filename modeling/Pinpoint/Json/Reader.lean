import Pinpoint.Json.Basic

/-! Reading JSON texts. Every reader answers what it read and the characters that are left. -/

namespace Pinpoint.Json

def isSpace (c : Char) : Bool := c = ' ' || c = '\n' || c = '\t' || c = '\r'

def skipSpace (cs : List Char) : List Char := cs.dropWhile isSpace

def escaped? : Char → Option Char
  | '"' => some '"'
  | '\\' => some '\\'
  | '/' => some '/'
  | 'b' => some '\x08'
  | 'f' => some '\x0c'
  | 'n' => some '\n'
  | 'r' => some '\r'
  | 't' => some '\t'
  | _ => none

def readUnits : List Char → Option (List (Char ⊕ Nat) × List Char)
  | [] => none
  | '"' :: rest => some ([], rest)
  | '\\' :: 'u' :: a :: b :: c :: d :: rest =>
    if [a, b, c, d].all Text.isHexDigit then
      (readUnits rest).map fun (units, rest) =>
        (.inr (Text.digitsValue 16 [a, b, c, d]) :: units, rest)
    else none
  | '\\' :: c :: rest =>
    match escaped? c with
    | some x => (readUnits rest).map fun (units, rest) => (.inl x :: units, rest)
    | none => none
  | c :: rest =>
    if c.toNat < 32 || c = '\\' then none
    else (readUnits rest).map fun (units, rest) => (.inl c :: units, rest)

def isHighSurrogate (n : Nat) : Bool := 0xD800 ≤ n && n < 0xDC00

def isLowSurrogate (n : Nat) : Bool := 0xDC00 ≤ n && n < 0xE000

/-- The text of units, unless half a surrogate pair stands alone. -/
def joinUnits : List (Char ⊕ Nat) → Option (List Char)
  | [] => some []
  | .inl c :: rest => (joinUnits rest).map (c :: ·)
  | .inr n :: .inr m :: rest =>
    if isHighSurrogate n then
      if isLowSurrogate m then
        (joinUnits rest).map (Char.ofNat (0x10000 + (n - 0xD800) * 0x400 + (m - 0xDC00)) :: ·)
      else none
    else if isLowSurrogate n then none
    else (joinUnits (.inr m :: rest)).map (Char.ofNat n :: ·)
  | .inr n :: rest =>
    if isHighSurrogate n || isLowSurrogate n then none
    else (joinUnits rest).map (Char.ofNat n :: ·)

/-- The inside of a string; its text is `none` if half a surrogate pair stands alone in it. -/
def readString (cs : List Char) : Option (Option String × List Char) :=
  (readUnits cs).map fun (units, rest) => ((joinUnits units).map String.ofList, rest)

def readDigits (cs : List Char) : Option (List Char × List Char) :=
  let digits := cs.takeWhile Char.isDigit
  if digits.isEmpty then none else some (digits, cs.dropWhile Char.isDigit)

def readWhole (cs : List Char) : Option (List Char × List Char) := do
  let (digits, rest) ← readDigits cs
  if digits.head? = some '0' && digits.length ≠ 1 then none else some (digits, rest)

def readFraction : List Char → Option (List Char × List Char)
  | '.' :: cs => (readDigits cs).map fun (digits, rest) => ('.' :: digits, rest)
  | cs => some ([], cs)

def readSign : List Char → List Char × List Char
  | '+' :: cs => (['+'], cs)
  | '-' :: cs => (['-'], cs)
  | cs => ([], cs)

def readExponent : List Char → Option (List Char × List Char)
  | [] => some ([], [])
  | c :: cs =>
    if c = 'e' || c = 'E' then
      let (sign, cs) := readSign cs
      (readDigits cs).map fun (digits, rest) => (c :: sign ++ digits, rest)
    else some ([], c :: cs)

def readNumber (cs : List Char) : Option (Value × List Char) := do
  let (sign, cs) := match cs with
    | '-' :: cs => (['-'], cs)
    | cs => ([], cs)
  let (whole, cs) ← readWhole cs
  let (fraction, cs) ← readFraction cs
  let (exponent, cs) ← readExponent cs
  let n := Text.digitsValue 10 whole
  if sign.isEmpty && fraction.isEmpty && exponent.isEmpty && n < Text.wordBound then
    some (.natural n, cs)
  else some (.numeral (String.ofList (sign ++ whole ++ fraction ++ exponent)), cs)

def readWord (word : String) (v : Value) (cs : List Char) : Option (Value × List Char) :=
  if word.toList.isPrefixOf cs then some (v, cs.drop word.length) else none

def objectOf (members : List (Option String × Value)) : Value :=
  match members.mapM fun (k, v) => k.map fun k => (k, v) with
  | some members => .object members
  | none => .unpaired

mutual

def readValue : Nat → List Char → Option (Value × List Char)
  | 0, _ => none
  | fuel + 1, cs =>
    match skipSpace cs with
    | 'n' :: cs => readWord "ull" .null cs
    | 't' :: cs => readWord "rue" (.bool true) cs
    | 'f' :: cs => readWord "alse" (.bool false) cs
    | '"' :: cs => (readString cs).map fun (s, rest) =>
        ((s.map Value.string).getD .unpaired, rest)
    | '[' :: cs =>
      match skipSpace cs with
      | ']' :: rest => some (.array [], rest)
      | cs => (readItems fuel cs).map fun (items, rest) => (.array items, rest)
    | '\x7b' :: cs =>
      match skipSpace cs with
      | '\x7d' :: rest => some (.object [], rest)
      | cs => (readMembers fuel cs).map fun (members, rest) => (objectOf members, rest)
    | cs => readNumber cs

def readItems : Nat → List Char → Option (List Value × List Char)
  | 0, _ => none
  | fuel + 1, cs => do
    let (v, rest) ← readValue fuel cs
    match skipSpace rest with
    | ',' :: rest => (readItems fuel rest).map fun (vs, rest) => (v :: vs, rest)
    | ']' :: rest => some ([v], rest)
    | _ => none

def readMembers : Nat → List Char → Option (List (Option String × Value) × List Char)
  | 0, _ => none
  | fuel + 1, cs => do
    let '"' :: rest := skipSpace cs | none
    let (key, rest) ← readString rest
    let ':' :: rest := skipSpace rest | none
    let (v, rest) ← readValue fuel rest
    match skipSpace rest with
    | ',' :: rest => (readMembers fuel rest).map fun (vs, rest) => ((key, v) :: vs, rest)
    | '\x7d' :: rest => some ([(key, v)], rest)
    | _ => none

end

def parse (s : String) : Option Value := do
  let cs := s.toList
  let (v, rest) ← readValue (cs.length + 1) cs
  if (skipSpace rest).isEmpty then some v else none

end Pinpoint.Json
