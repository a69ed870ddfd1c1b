import Pinpoint.Error
import Pinpoint.Text.Lines
import Pinpoint.Yaml.Node

/-! Settings as YAML. What is absent has its standard value, and unknown names are passed over. -/

namespace Pinpoint.Wire

/-- The entries of a mapping with the texts of its keys. Nothing at all is an empty mapping. -/
def entries? (d : Yaml.Document) : Option (List (String × Yaml.Node)) :=
  match d.root with
  | .scalar "" .plain _ => some []
  | .mapping entries => entries.mapM fun (key, value) =>
    match d.follow key with
    | .scalar text _ _ => some (text, d.follow value)
    | _ => none
  | _ => none

def nodeText? : Yaml.Node → Option String
  | .scalar text _ _ => some text
  | _ => none

def nodeList? {α : Type} (d : Yaml.Document) (decode : Yaml.Node → Option α) :
    Yaml.Node → Option (List α)
  | .sequence items => items.mapM fun item => decode (d.follow item)
  | .scalar "" .plain _ => some []
  | _ => none

def digits? (base : Nat) (isDigit : Char → Bool) (cs : List Char) : Option Nat :=
  if cs.isEmpty || ! cs.all isDigit then none
  else
    let n := Text.digitsValue base cs
    if n < Text.wordBound then some n else none

/-- A count in decimal without leading zeros, or with a sign for its base in front. -/
def count? (s : String) : Option Nat :=
  let cs := match s.toList with
    | '+' :: cs => cs
    | cs => cs
  match cs with
  | '0' :: 'x' :: ds => digits? 16 Text.isHexDigit ds
  | '0' :: 'o' :: ds => digits? 8 (fun c => '0' ≤ c && c ≤ '7') ds
  | '0' :: 'b' :: ds => digits? 2 (fun c => c = '0' || c = '1') ds
  | ['0'] => some 0
  | '0' :: _ => none
  | ds => digits? 10 Char.isDigit ds

def integerTag : Yaml.Tag := Yaml.Tag.standard ++ Yaml.Tag.ofText "int"

/-- Only a scalar without quotes is a number, or a literal one that says so. -/
def nodeCount? : Yaml.Node → Option Nat
  | .scalar text .plain _ => count? text
  | .scalar text .literal tag => if tag = some integerTag then count? text else none
  | _ => none

def nullWords : List String := ["", "~", "null", "Null", "NULL"]

def nodeDialect? : Yaml.Node → Option Dialect
  | .scalar text style tag =>
    match tag.bind Yaml.Tag.name? with
    | some name =>
      if style = .plain && nullWords.contains text then Dialect.ofName? name else none
    | none => Dialect.ofName? text
  | _ => none

def entryOr? {α : Type} (entries : List (String × Yaml.Node)) (name : String) (absent : α)
    (decode : Yaml.Node → Option α) : Option α :=
  match entries.filter (·.1 = name) with
  | [] => some absent
  | [(_, value)] => decode value
  | _ => none

def settingsOf? (document : Option Yaml.Document) : Option Settings := do
  let d := document.getD ⟨.empty, []⟩
  let entries ← entries? d
  let standard := Settings.standard
  let texts := nodeList? d nodeText?
  let testAttributes ← entryOr? entries "test_id_attributes" standard.testAttributes texts
  let maxClassPredicates ←
    entryOr? entries "max_class_predicates" standard.maxClassPredicates nodeCount?
  let maxDescriptorClasses ←
    entryOr? entries "max_descriptor_classes" standard.maxDescriptorClasses nodeCount?
  let textLimit ← entryOr? entries "text_limit" standard.textLimit nodeCount?
  let markupLimit ← entryOr? entries "markup_limit" standard.markupLimit nodeCount?
  let outlineStyle ← entryOr? entries "outline_style" standard.outlineStyle nodeText?
  let targetPlaceholder ←
    entryOr? entries "target_placeholder" standard.targetPlaceholder nodeText?
  let filePlaceholder ← entryOr? entries "file_placeholder" standard.filePlaceholder nodeText?
  let previewDialects ←
    entryOr? entries "preview_dialects" standard.previewDialects (nodeList? d nodeDialect?)
  some ⟨testAttributes, maxClassPredicates, maxDescriptorClasses, textLimit, markupLimit,
    outlineStyle, targetPlaceholder, filePlaceholder, previewDialects⟩

end Pinpoint.Wire

namespace Pinpoint

def Settings.check (s : Settings) : Except Error Settings :=
  match s.fault? with
  | some fault => .error (.settings fault)
  | none => .ok s

def Settings.ofText (text : String) : Except Error Settings :=
  match (Yaml.parse text).bind Wire.settingsOf? with
  | none => .error .yaml
  | some s => s.check

end Pinpoint
