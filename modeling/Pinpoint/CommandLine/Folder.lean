import Pinpoint.CommandLine.Run

/-! A folder of text files, in which a run takes place. -/

namespace Pinpoint.CommandLine

structure Folder where
  files : List (String × String)
  deriving DecidableEq, Repr

namespace Folder

def steps? (path : String) : Option (List String) :=
  let names := Text.split '/' path
  let steps := names.filter fun name => name ≠ "" && name ≠ "."
  if Text.startsWith "/" path || names.contains ".." || names.getLast? ≠ steps.getLast? then none
  else some steps

def read? (f : Folder) (path : String) : Option String := do
  let steps ← steps? path
  let (_, text) ← f.files.find? fun (name, _) => steps? name = some steps
  some text

def hasFolder (f : Folder) (steps : List String) : Bool :=
  f.files.any fun (name, _) =>
    (steps? name).any fun other => steps.isPrefixOf other && steps ≠ other

/-- A file can be put where its folder is and where no folder is. -/
def write? (f : Folder) (path text : String) : Option Folder := do
  let steps ← steps? path
  if f.hasFolder steps || (steps.length ≠ 1 && ! f.hasFolder steps.dropLast) then none
  else if f.files.any fun (name, _) => steps? name = some steps then
    some ⟨f.files.map fun (name, old) =>
      (name, if steps? name = some steps then text else old)⟩
  else some ⟨f.files ++ [("/".intercalate steps, text)]⟩

def changesSince (f before : Folder) : List (String × String) :=
  f.files.filter fun (name, text) => before.files.lookup name ≠ some text

end Folder

def Outcome.settle (f : Folder) : Outcome → Report × Folder
  | .done report => (report, f)
  | .write path text written refused =>
    match f.write? path text with
    | some f => (written, f)
    | none => (refused, f)

def runIn (f : Folder) (arguments : List String) : Report × Folder :=
  match Invocation.ofArguments arguments with
  | .error stop => (.ofStop stop, f)
  | .ok invocation => (invocation.run .standard f.read?).settle f

end Pinpoint.CommandLine
