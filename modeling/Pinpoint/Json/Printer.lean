import Pinpoint.Json.Basic
import Pinpoint.Text.Lines

/-! JSON values written on one line, or indented by two spaces for each level. -/

namespace Pinpoint.Json

def escapeChar (c : Char) : List Char :=
  if c = '"' then ['\\', '"']
  else if c = '\\' then ['\\', '\\']
  else if c = '\n' then ['\\', 'n']
  else if c = '\r' then ['\\', 'r']
  else if c = '\t' then ['\\', 't']
  else if c = '\x08' then ['\\', 'b']
  else if c = '\x0c' then ['\\', 'f']
  else if c.toNat < 32 then "\\u00".toList ++ (Text.paddedHexText 2 c.toNat).toList
  else [c]

def stringText (s : String) : String := "\"" ++ Text.expand escapeChar s ++ "\""

mutual

def Value.compact : Value → String
  | .null | .unpaired => "null"
  | .bool b => if b then "true" else "false"
  | .natural n => toString n
  | .numeral text => text
  | .string s => stringText s
  | .array items => "[" ++ Value.compactItems items ++ "]"
  | .object members => "\x7b" ++ Value.compactMembers members ++ "\x7d"

def Value.compactItems : List Value → String
  | [] => ""
  | [v] => v.compact
  | v :: rest => v.compact ++ "," ++ Value.compactItems rest

def Value.compactMembers : List (String × Value) → String
  | [] => ""
  | [(k, v)] => stringText k ++ ":" ++ v.compact
  | (k, v) :: rest => stringText k ++ ":" ++ v.compact ++ "," ++ Value.compactMembers rest

end

def newLine (level : Nat) : String := String.ofList ('\n' :: List.replicate (2 * level) ' ')

mutual

def Value.indented (level : Nat) : Value → String
  | .array [] => "[]"
  | .array items => "[" ++ Value.indentedItems (level + 1) items ++ newLine level ++ "]"
  | .object [] => "\x7b\x7d"
  | .object members =>
    "\x7b" ++ Value.indentedMembers (level + 1) members ++ newLine level ++ "\x7d"
  | v => v.compact

def Value.indentedItems (level : Nat) : List Value → String
  | [] => ""
  | [v] => newLine level ++ v.indented level
  | v :: rest => newLine level ++ v.indented level ++ "," ++ Value.indentedItems level rest

def Value.indentedMembers (level : Nat) : List (String × Value) → String
  | [] => ""
  | [(k, v)] => newLine level ++ stringText k ++ ": " ++ v.indented level
  | (k, v) :: rest =>
    newLine level ++ stringText k ++ ": " ++ v.indented level ++ "," ++
      Value.indentedMembers level rest

end

def Value.pretty (v : Value) : String := v.indented 0

end Pinpoint.Json
