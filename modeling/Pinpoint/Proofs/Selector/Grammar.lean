import Mathlib.Logic.Relation
import Pinpoint.Selector.Parser

/-! The grammar of selectors. A relation between two texts says that the first one begins with a
certain thing and that the second one follows it. Blanks, names and the digits of an escape are
as long as they can be; nothing else leaves a choice. -/

namespace Pinpoint.Selector.Grammar

def Ends (p : Char → Bool) (text : List Char) : Prop := ∀ c ∈ text.head?, p c = false

inductive Spaces : List Char → List Char → Prop where
  | done {text} : Ends Text.isBlank text → Spaces text text
  | blank {c text rest} : Text.isBlank c = true → Spaces text rest → Spaces (c :: text) rest

inductive OneBlank : List Char → List Char → Prop where
  | absent {text} : Ends Text.isBlank text → OneBlank text text
  | present {c rest} : Text.isBlank c = true → OneBlank (c :: rest) rest

inductive Escape : List Char → Char → List Char → Prop where
  | plain {c rest} : Text.isHexDigit c = false → Escape (c :: rest) c rest
  | code {digits text rest} : (∀ c ∈ digits, Text.isHexDigit c = true) →
    1 ≤ digits.length → digits.length ≤ 6 → (digits.length = 6 ∨ Ends Text.isHexDigit text) →
    OneBlank text rest → Escape (digits ++ text) (charOfEscape digits) rest

def mayGoOn (c : Char) : Bool := c = '\\' || isNameChar c

inductive Name : List Char → List Char → List Char → Prop where
  | done {text} : Ends mayGoOn text → Name text [] text
  | char {c text xs rest} : isNameChar c = true → Name text xs rest →
    Name (c :: text) (c :: xs) rest
  | escape {x text middle xs rest} : Escape text x middle → Name middle xs rest →
    Name ('\\' :: text) (x :: xs) rest

def Identifier (text : List Char) (value : String) (rest : List Char) : Prop :=
  Name text value.toList rest ∧ value ≠ ""

inductive Quoted (quote : Char) : List Char → List Char → Prop where
  | close {rest} : Quoted quote (quote :: rest) rest
  | char {c text rest} : c ≠ quote → c ≠ '\\' → Quoted quote text rest →
    Quoted quote (c :: text) rest
  | escape {x text middle rest} : Escape text x middle → Quoted quote middle rest →
    Quoted quote ('\\' :: text) rest

inductive Value : List Char → List Char → Prop where
  | identifier {text value rest} : Identifier text value rest → Value text rest
  | double {text rest} : Quoted '"' text rest → Value ('"' :: text) rest
  | single {text rest} : Quoted '\'' text rest → Value ('\'' :: text) rest

inductive Condition : List Char → List Char → Prop where
  | present {text start name after rest} : Spaces text start → Identifier start name after →
    Spaces after (']' :: rest) → Condition text rest
  | equals {text start name after more value behind rest} : Spaces text start →
    Identifier start name after → Spaces after ('=' :: more) → Spaces more value →
    Value value behind → Spaces behind (']' :: rest) → Condition text rest

structure Count (digits : List Char) : Prop where
  digit : ∀ c ∈ digits, c.isDigit = true
  pos : 1 ≤ Text.digitsValue 10 digits
  lt : Text.digitsValue 10 digits < Nat.pow 2 64

inductive PaddedCount : List Char → Prop where
  | intro {before digits after} : (∀ c ∈ before, Text.isBlank c = true) → Count digits →
    (∀ c ∈ after, Text.isBlank c = true) → PaddedCount (before ++ digits ++ after)

section Argument

/-! What may stand between the parentheses of a position is left open. -/

variable (Argument : List Char → Prop)

inductive Simple : List Char → List Char → Prop where
  | id {text value rest} : Identifier text value rest → Simple ('#' :: text) rest
  | «class» {text value rest} : Identifier text value rest → Simple ('.' :: text) rest
  | condition {text rest} : Condition text rest → Simple ('[' :: text) rest
  | position {text name argument rest} :
    Identifier text name ('(' :: (argument ++ ')' :: rest)) →
    Text.lower name = "nth-of-type" → Argument argument → Simple (':' :: text) rest

abbrev Simples : List Char → List Char → Prop := Relation.ReflTransGen (Simple Argument)

inductive Compound : List Char → List Char → Prop where
  | any {text rest} : Simples Argument text rest → Compound ('*' :: text) rest
  | tag {c text name middle rest} : isNameStart c = true → Identifier (c :: text) name middle →
    Simples Argument middle rest → Compound (c :: text) rest
  | simple {text middle rest} : Simple Argument text middle → Simples Argument middle rest →
    Compound text rest

inductive Joint : List Char → List Char → Prop where
  | descendant {text rest} : Spaces text rest → text ≠ rest → Joint text rest
  | child {text middle rest} : Spaces text ('>' :: middle) → Spaces middle rest → Joint text rest

inductive Chain : List Char → List Char → Prop where
  | single {text rest} : Compound Argument text rest → Chain text rest
  | step {text joint middle rest} : Compound Argument text joint → Joint joint middle →
    Chain middle rest → Chain text rest

inductive Group : List Char → Prop where
  | last {text start after} : Spaces text start → Chain Argument start after → Spaces after [] →
    Group text
  | cons {text start after more} : Spaces text start → Chain Argument start after →
    Spaces after (',' :: more) → Group more → Group text

end Argument

end Pinpoint.Selector.Grammar
