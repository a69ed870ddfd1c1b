import Pinpoint.Url.Address

/-! Origins: who answers for an address. -/

namespace Pinpoint.Url

structure Origin where
  scheme : String
  host : Host
  port : Nat
  deriving DecidableEq, Repr

def spellControls (s : String) : String :=
  Text.expand
    (fun c =>
      if c.toNat < 32 || 127 ≤ c.toNat then
        c.toString.toUTF8.toList.flatMap fun byte =>
          '%' :: (Text.upper (Text.paddedHexText 2 byte.toNat)).toList
      else [c]) s

/-- The origin of an address, looking through as many nested ones as the fuel allows. -/
def originWithin : Nat → Address → Option Origin
  | fuel, address =>
    if address.scheme = "blob" then
      match fuel, address.flatPath with
      | fuel + 1, some path => (Address.parse? none (spellControls path)).bind (originWithin fuel)
      | _, _ => none
    else do
      let own ← defaultPort? address.scheme
      let host ← address.host
      some ⟨address.scheme, host, address.port.getD own⟩

/-- An address inside a `blob` has the origin of that address. An address of no other known scheme
has an origin of its own, which no other address shares. -/
def Address.origin? (address : Address) : Option Origin :=
  originWithin (address.flatPath.getD "").length address

/-- A link leads away from the page if both have an address and the origins differ. Seen from a
page without an address every web address leads away. -/
def isExternal (page : Option String) (href : String) : Bool :=
  let base := page.bind (Address.parse? none)
  match Address.parse? base href, base with
  | none, _ => false
  | some link, none => link.scheme = "http" || link.scheme = "https"
  | some link, some base =>
    match link.origin?, base.origin? with
    | some a, some b => a ≠ b
    | _, _ => true

end Pinpoint.Url
