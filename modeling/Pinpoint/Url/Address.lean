import Pinpoint.Url.Host

/-! Addresses of pages and links, as far as they tell where something comes from: the scheme, the
host and the port. -/

namespace Pinpoint.Url

/-- `flatPath` is the path of an address like `mailto:x`, below which nothing can lie. -/
structure Address where
  scheme : String
  host : Option Host
  port : Option Nat
  flatPath : Option String
  deriving DecidableEq, Repr

/-- The port that a scheme has of itself. Exactly the schemes that have one, and `file`, need a
host that can be looked up. -/
def defaultPort? : String → Option Nat
  | "http" | "ws" => some 80
  | "https" | "wss" => some 443
  | "ftp" => some 21
  | _ => none

def isSlash (c : Char) : Bool := c = '/' || c = '\\'

def isSchemeChar (c : Char) : Bool := c.isAlphanum || c = '+' || c = '-' || c = '.'

def scheme? (cs : List Char) : Option (String × List Char) :=
  let word := cs.takeWhile isSchemeChar
  match word, cs.dropWhile isSchemeChar with
  | c :: _, ':' :: rest =>
    if c.isAlpha then some (Text.lower (String.ofList word), rest) else none
  | _, _ => none

def endsAuthority (hasPort : Bool) (c : Char) : Bool :=
  c = '/' || c = '?' || c = '#' || (hasPort && c = '\\')

/-- Cuts behind the last `@`; there is no first part if there is no `@`. -/
def cutCredentials (cs : List Char) : Option (List Char) × List Char :=
  let host := (cs.reverse.takeWhile (· ≠ '@')).reverse
  if host.length = cs.length then (none, cs)
  else (some (cs.take (cs.length - host.length - 1)), host)

/-- Cuts before the first colon that is outside of brackets. -/
def cutPort (inBrackets : Bool) : List Char → List Char × List Char
  | [] => ([], [])
  | c :: cs =>
    if c = ':' && ! inBrackets then ([], c :: cs)
    else
      let inside := if c = '[' then true else if c = ']' then false else inBrackets
      let (host, port) := cutPort inside cs
      (c :: host, port)

/-- A port of 16 bits, up to the end or to a backslash; the answer is `some none` where it is
missing. -/
def port? (cs : List Char) : Option (Option Nat) :=
  let digits := cs.takeWhile Char.isDigit
  let rest := cs.dropWhile Char.isDigit
  if rest.head?.any (· ≠ '\\') then none
  else if digits.isEmpty then some none
  else
    let n := Text.digitsValue 10 digits
    if n < Nat.pow 2 16 then some (some n) else none

def authority? (scheme : String) (cs : List Char) : Option Address := do
  let wellKnown := (defaultPort? scheme).isSome
  let authority := cs.takeWhile (! endsAuthority wellKnown ·)
  let (credentials, rest) := cutCredentials authority
  let (host, portText) := cutPort false rest
  let hasCredentials := credentials.any fun user => user ≠ [] && user ≠ [':']
  let bareAt := credentials = some [] && rest.isEmpty && authority.length ≠ cs.length
  if bareAt then none
  if host.isEmpty && (wellKnown || hasCredentials || ! portText.isEmpty) then none
  let text := String.ofList host
  let found ← if wellKnown then Host.parse? text else Host.parseOther? text
  let port ← port? portText.tail
  some ⟨scheme, some found, if port = defaultPort? scheme then none else port, none⟩

/-- A letter with a colon or a bar, which is a drive and not a host. -/
def isDrive : List Char → Bool
  | [c, d] => c.isAlpha && (d = ':' || d = '|')
  | _ => false

def file? (cs : List Char) : Option Address :=
  let address : Address := ⟨"file", none, none, none⟩
  match cs with
  | a :: b :: rest =>
    if isSlash a && isSlash b then
      let host := rest.takeWhile fun c => ! isSlash c && c ≠ '?' && c ≠ '#'
      if host.isEmpty || isDrive host then some address
      else (Host.parse? (String.ofList host)).map fun _ => address
    else some address
  | _ => some address

def relative? (base : Address) (cs : List Char) : Option Address :=
  if 2 ≤ (cs.takeWhile isSlash).length then
    match cs with
    | '/' :: '/' :: rest => authority? base.scheme rest
    | cs => authority? base.scheme (cs.dropWhile isSlash)
  else some { base with flatPath := none }

def isUpToQuery (c : Char) : Bool := c ≠ '?' && c ≠ '#'

def afterScheme? (base : Option Address) (scheme : String) (cs : List Char) : Option Address :=
  if scheme = "file" then file? cs
  else if (defaultPort? scheme).isSome then
    match base.filter fun b => b.scheme = scheme && (cs.takeWhile isSlash).length < 2 with
    | some b => relative? b cs
    | none => authority? scheme (cs.dropWhile isSlash)
  else match cs with
    | '/' :: '/' :: rest => authority? scheme rest
    | '/' :: _ => some ⟨scheme, none, none, none⟩
    | cs => some ⟨scheme, none, none, some (String.ofList (cs.takeWhile isUpToQuery))⟩

/-- Removes controls and spaces at both ends, and tabs and line ends everywhere. -/
def clean (s : String) : List Char :=
  let isEdge (c : Char) : Bool := c.toNat ≤ 32
  let inner := ((s.toList.dropWhile isEdge).reverse.dropWhile isEdge).reverse
  inner.filter fun c => c ≠ '\t' && c ≠ '\n' && c ≠ '\r'

def Address.parse? (base : Option Address) (s : String) : Option Address :=
  let cs := clean s
  match scheme? cs, base with
  | some (scheme, rest), _ => afterScheme? base scheme rest
  | none, none => none
  | none, some b =>
    if cs.head? = some '#' then some b
    else if b.flatPath.isSome then none
    else if b.scheme = "file" then file? cs
    else relative? b cs

end Pinpoint.Url
