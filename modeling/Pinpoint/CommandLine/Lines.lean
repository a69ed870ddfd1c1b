import Pinpoint.Descriptor
import Pinpoint.Interaction.Session
import Pinpoint.Text.Lines

/-! Results as lines for a reader: headings, and below them labels with what they label. -/

namespace Pinpoint.CommandLine

def fieldLine (label value : String) : String := "  " ++ label ++ ": " ++ value

def codeLines (label code : String) : List String :=
  ("  " ++ label) ::
    (if code = "" then ["    (empty)"] else (Text.lines code).map ("    " ++ ·))

def previewLines (entries : List PreviewEntry) : List String :=
  entries.flatMap fun entry => codeLines entry.dialect.label entry.snippet

def descriptorLines (d : Descriptor) : List String :=
  let fields := [("tag", d.tag), ("id", d.id), ("classes", " ".intercalate d.classes),
    ("name", d.name), ("role", d.role), ("accessible name", d.accessibleName),
    ("placeholder", d.placeholder), ("type", d.type), ("test id", d.testId), ("text", d.text),
    ("frame", d.frame)]
  "Descriptor" ::
    (fields.filter fun (_, value) => value ≠ "").map fun (label, value) => fieldLine label value

def findingLines (f : Finding) : List String :=
  ["Locator", fieldLine "structural" f.locator,
    fieldLine "unique" (if f.unique then "yes" else "no (best effort)"),
    fieldLine "absolute" f.absolute] ++
  descriptorLines f.descriptor ++ "Snippets" :: previewLines f.preview

def eventLines : Event → List String
  | .picked result =>
    "Picked" :: fieldLine "locator" result.locator ::
      (result.descriptor.map descriptorLines).getD []
  | .livePreview frame => ("Preview " ++ frame.locator) :: previewLines frame.preview

def padded (width : Nat) (s : String) : String :=
  s ++ String.ofList (List.replicate (width - s.length) ' ')

def dialectLines : List String :=
  ("Dialects" :: Dialect.all.map fun d => "  " ++ padded 18 d.name ++ " " ++ d.label) ++
  ("Actions" :: Verb.all.map fun v => "  " ++ padded 12 v.name ++ " " ++ v.label)

end Pinpoint.CommandLine
