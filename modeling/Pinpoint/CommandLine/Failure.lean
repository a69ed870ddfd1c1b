import Pinpoint.Error
import Pinpoint.Selector.Match

/-! Why a command fails. -/

namespace Pinpoint

namespace CommandLine

inductive Failure where
  | settings (path : String) (cause : Error)
  | fixture (path : String) (cause : Error)
  | noMatch (selector : String)
  | noFocus
  | badSelector (text : String) (fault : Selector.Fault)
  /-- The file of the output cannot be written. -/
  | output
  deriving DecidableEq, Repr

def Failure.message : Failure → String
  | .settings path cause => "Configuration error: " ++ path ++ ": " ++ cause.message
  | .fixture path cause => "Cannot load fixture " ++ path ++ ": " ++ cause.message
  | .noMatch selector => "Target not found: no element matches '" ++ selector ++ "'"
  | .noFocus => "Target not found: fixture has no active element; pass --target"
  | .badSelector text fault => "Locsmith error: " ++ (Error.selector text fault).message
  | .output => Error.io.message

end CommandLine

namespace Document

open CommandLine

def matched (d : Document) (selector : String) : Except Failure Site :=
  match d.queryFirst selector with
  | .error fault => .error (.badSelector selector fault)
  | .ok none => .error (.noMatch selector)
  | .ok (some s) => .ok s

def target (d : Document) : Option String → Except Failure Site
  | some selector => d.matched selector
  | none =>
    match d.active?.bind d.site? with
    | some s => .ok s
    | none => .error .noFocus

end Document

end Pinpoint
