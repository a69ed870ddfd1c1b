import Pinpoint.Dialect

/-! Settings of the engine. -/

namespace Pinpoint

/-- The test attributes stand in order of priority, the preview dialects in order of display. -/
structure Settings where
  testAttributes : List String
  maxClassPredicates : Nat
  maxDescriptorClasses : Nat
  textLimit : Nat
  markupLimit : Nat
  outlineStyle : String
  targetPlaceholder : String
  filePlaceholder : String
  previewDialects : List Dialect
  deriving DecidableEq, Repr

namespace Settings

def standard : Settings where
  testAttributes := ["data-testid", "data-test", "data-cy", "data-qa", "data-qaid"]
  maxClassPredicates := 2
  maxDescriptorClasses := 6
  textLimit := 120
  markupLimit := 240
  outlineStyle := "2px solid #3b82f6"
  targetPlaceholder := "TARGET_SELECTOR"
  filePlaceholder := "path/to/file"
  previewDialects := Dialect.all

inductive Fault where
  | noTestAttributes
  | badTestAttribute (name : String)
  | zeroLimit
  | noDialects
  deriving DecidableEq, Repr

def Fault.text : Fault → String
  | noTestAttributes => "test_id_attributes must not be empty"
  | badTestAttribute name => "invalid test attribute name '" ++ name ++ "'"
  | zeroLimit => "text_limit and markup_limit must be positive"
  | noDialects => "preview_dialects must not be empty"

/-- An attribute name has at least one character and no blanks. -/
def isAttributeName (s : String) : Bool := s ≠ "" && s.toList.all (! Text.isBlank ·)

def fault? (s : Settings) : Option Fault :=
  if s.testAttributes.isEmpty then some .noTestAttributes
  else match s.testAttributes.find? (! isAttributeName ·) with
    | some bad => some (.badTestAttribute bad)
    | none =>
      if s.textLimit = 0 || s.markupLimit = 0 then some .zeroLimit
      else if s.previewDialects.isEmpty then some .noDialects
      else none

end Settings

end Pinpoint
