import Pinpoint.Text.Letters
import Pinpoint.Text.Lines

/-! Selectors: groups of chains of compounds. A chain keeps its last compound outermost, because
matching starts there and walks up the tree. Any text can be written so that the grammar reads it
back as one identifier or as the inside of a quoted string. -/

namespace Pinpoint.Selector

inductive Condition where
  | present (name : String)
  | equals (name value : String)
  deriving DecidableEq, Repr

/-- Everything asked of a single element. A later identifier or position replaces an earlier
one; classes and conditions accumulate in written order. -/
structure Compound where
  tag : Option String
  id : Option String
  classes : List String
  conditions : List Condition
  nthOfType : Option Nat
  deriving DecidableEq, Repr

def Compound.any : Compound := ⟨none, none, [], [], none⟩

inductive Combinator where
  | descendant
  | child
  deriving DecidableEq, Repr

inductive Chain where
  | single (compound : Compound)
  | step (left : Chain) (combinator : Combinator) (compound : Compound)
  deriving DecidableEq, Repr

abbrev Group := List Chain

inductive Problem where
  | misplacedChild
  | missingCombinator
  | noSelector
  | danglingCombinator
  | noSimpleSelector
  | missingBracket
  | unknownOperator
  | unknownPseudoClass (name : String)
  | missingParenthesis
  | badPosition
  | noIdentifier
  | unterminatedString
  | danglingEscape
  deriving DecidableEq, Repr

def Problem.text : Problem → String
  | misplacedChild => "misplaced '>'"
  | missingCombinator => "expected combinator"
  | noSelector => "empty selector"
  | danglingCombinator => "dangling combinator"
  | noSimpleSelector => "expected a simple selector"
  | missingBracket => "expected ']'"
  | unknownOperator => "unsupported attribute operator"
  | unknownPseudoClass name => "unsupported pseudo-class ':" ++ name ++ "'"
  | missingParenthesis => "expected ')'"
  | badPosition => "nth-of-type expects a positive integer"
  | noIdentifier => "expected identifier"
  | unterminatedString => "unterminated string"
  | danglingEscape => "dangling escape"

structure Fault where
  problem : Problem
  offset : Nat
  deriving DecidableEq, Repr

def Fault.text (f : Fault) : String := f.problem.text ++ " at offset " ++ toString f.offset

/-- A hexadecimal escape; the blank after the digits ends it. -/
def hexEscape (c : Char) : List Char := '\\' :: Nat.toDigits 16 c.toNat ++ [' ']

def escapeChar (c : Char) : List Char :=
  if Text.isControl c then hexEscape c
  else if c.isAlphanum || c = '-' || c = '_' then [c]
  else ['\\', c]

/-- One character where an identifier must not have a digit. -/
def escapeLeading (c : Char) : List Char := if c.isDigit then hexEscape c else escapeChar c

/-- A digit cannot begin an identifier, neither alone nor after a hyphen; a hyphen alone is
no identifier. -/
def escapeChars : List Char → List Char
  | [] => []
  | ['-'] => ['\\', '-']
  | '-' :: c :: cs => '-' :: escapeLeading c ++ cs.flatMap escapeChar
  | c :: cs => escapeLeading c ++ cs.flatMap escapeChar

def escape (s : String) : String := String.ofList (escapeChars s.toList)

end Pinpoint.Selector
