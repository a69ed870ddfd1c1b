import Pinpoint.Json.Basic

/-! Reading domain values from JSON values. Members of an object are found by name, in any order;
members of other names are passed over, and a name that is looked for may occur once only. A record
may also be the list of its values, in the order of its fields. -/

namespace Pinpoint.Json

namespace Value

def text? : Value → Option String
  | .string s => some s
  | _ => none

def bool? : Value → Option Bool
  | .bool b => some b
  | _ => none

def count? : Value → Option Nat
  | .natural n => some n
  | _ => none

def members? : Value → Option (List (String × Value))
  | .object members => some members
  | _ => none

/-- The members of a record. In the list of its values the last ones may be missing, the first
`least` may not, and there is nothing behind them. -/
def record? (least : Nat) (names : List String) : Value → Option (List (String × Value))
  | .object members => some members
  | .array items =>
    if least ≤ items.length ∧ items.length ≤ names.length then some (names.zip items) else none
  | _ => none

def list? {α : Type} (decode : Value → Option α) : Value → Option (List α)
  | .array items => items.mapM decode
  | _ => none

def nullable? {α : Type} (decode : Value → Option α) : Value → Option (Option α)
  | .null => some none
  | v => (decode v).map some

/-- One of finitely many names, as a string or as the only key of an object with null below it. -/
def name? : Value → Option String
  | .string s => some s
  | .object [(k, .null)] => some k
  | _ => none

def ofTexts (texts : List String) : Value := .array (texts.map .string)

def ofOption {α : Type} (encode : α → Value) : Option α → Value
  | some a => encode a
  | none => .null

end Value

def valuesOf (members : List (String × Value)) (name : String) : List Value :=
  (members.filter (·.1 = name)).map Prod.snd

def required {α : Type} (members : List (String × Value)) (name : String)
    (decode : Value → Option α) : Option α :=
  match valuesOf members name with
  | [v] => decode v
  | _ => none

def defaulted {α : Type} (members : List (String × Value)) (name : String) (absent : α)
    (decode : Value → Option α) : Option α :=
  match valuesOf members name with
  | [] => some absent
  | [v] => decode v
  | _ => none

def optional {α : Type} (members : List (String × Value)) (name : String)
    (decode : Value → Option α) : Option (Option α) :=
  defaulted members name none (Value.nullable? decode)

def Value.type? : Value → Option String
  | .object members => required members "type" text?
  | .array (v :: _) => v.text?
  | _ => none

def Value.payload : Value → Value
  | .array (_ :: items) => .array items
  | v => v

/-- A value that stands inside `level` containers and is kept until its type is known. -/
def keep? (level : Nat) (v : Value) : Option Value :=
  if v.isSound && level + v.depth ≤ depthLimit then some v else none

end Pinpoint.Json
