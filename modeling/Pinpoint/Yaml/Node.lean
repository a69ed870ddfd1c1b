import Pinpoint.Yaml.Layout

/-! Nodes of YAML: what the tokens of a text mean once tags are spelled out and anchors have
numbers. -/

namespace Pinpoint.Yaml

inductive Node where
  | scalar (text : String) (style : Style) (tag : Option Tag)
  | sequence (items : List Node)
  | mapping (entries : List (Node × Node))
  /-- Stands for the node with the anchor of this number. -/
  | alias_ (number : Nat)

namespace Node

def empty : Node := scalar "" .plain none

end Node

structure Document where
  root : Node
  anchored : List (Nat × Node)

/-- The node that a node stands for. An anchor never belongs to an alias, so one step is enough. -/
def Document.follow (d : Document) : Node → Node
  | .alias_ number => (d.anchored.lookup number).getD .empty
  | node => node

structure Scope where
  handles : List (String × Tag)
  numbers : List (String × Nat)
  anchored : List (Nat × Node)

def standardHandles : List (String × Tag) := [("!", .unspecific), ("!!", .standard)]

structure Properties where
  anchor : Option String
  tag : Option (String × Tag)

def properties (tokens : List Token) : Properties × List Token :=
  match tokens with
  | .anchor a :: .tag handle suffix :: rest => (⟨some a, some (handle, suffix)⟩, rest)
  | .tag handle suffix :: .anchor a :: rest => (⟨some a, some (handle, suffix)⟩, rest)
  | .anchor a :: rest => (⟨some a, none⟩, rest)
  | .tag handle suffix :: rest => (⟨none, some (handle, suffix)⟩, rest)
  | rest => (⟨none, none⟩, rest)

/-- A tag in full, with its handle replaced. A complete tag has no handle. -/
def Scope.tag? (scope : Scope) : Option (String × Tag) → Option (Option Tag)
  | none => some none
  | some (handle, suffix) =>
    if handle = "" then some (some suffix)
    else (scope.handles.lookup handle).map fun replacement => some (replacement ++ suffix)

/-- The number of the next anchor: as many names came before it. A name that comes again is not
counted again, so the anchor after it has its number too, and then the last node counts. -/
def Scope.nextNumber (scope : Scope) : Nat := scope.numbers.length

def Scope.announce (scope : Scope) : Option String → Scope
  | none => scope
  | some name =>
    { scope with
      numbers := (name, scope.nextNumber) :: scope.numbers.filter (·.1 ≠ name)
      anchored := scope.anchored.filter (·.1 ≠ scope.nextNumber) }

/-- Keeps a node under its number, unless an anchor inside it has taken the number. -/
def Scope.keep (scope : Scope) (number : Nat) (node : Node) : Scope :=
  if (scope.anchored.lookup number).isSome then scope
  else { scope with anchored := (number, node) :: scope.anchored }

def endsBlockNode : List Token → Bool
  | .key :: _ | .value :: _ | .blockEnd :: _ => true
  | _ => false

def endsEntry : List Token → Bool
  | .blockEntry :: _ => true
  | tokens => endsBlockNode tokens

def endsFlowValue : List Token → Bool
  | .flowEntry :: _ | .flowSequenceEnd :: _ | .flowMappingEnd :: _ => true
  | _ => false

abbrev Parsed (α : Type) := α × Scope × List Token

mutual

/-- A node, which is a block only if `block` allows it; if `flat` allows it a sequence of entries
that has no block of its own. Where nothing else follows, an anchor or a tag makes an empty node. -/
def node? : Nat → Bool → Bool → Scope → List Token → Option (Parsed Node)
  | 0, _, _, _, _ => none
  | fuel + 1, block, flat, scope, tokens =>
    match tokens with
    | .alias_ name :: rest =>
      (scope.numbers.lookup name).map fun number => (.alias_ number, scope, rest)
    | tokens =>
      let (props, tokens) := properties tokens
      match scope.tag? props.tag with
      | none => none
      | some tag =>
        let number := scope.nextNumber
        let scope := scope.announce props.anchor
        let done (result : Option (Parsed Node)) : Option (Parsed Node) :=
          result.map fun (node, scope, rest) =>
            (node, if props.anchor.isSome then scope.keep number node else scope, rest)
        let items := fun (items, scope, rest) => (Node.sequence items, scope, rest)
        let entries := fun (entries, scope, rest) => (Node.mapping entries, scope, rest)
        let absent :=
          if props.anchor.isSome || tag.isSome then
            done (some (.scalar "" .plain tag, scope, tokens))
          else none
        match tokens with
        | .blockEntry :: _ =>
          if flat then done ((flatItems? fuel scope tokens).map items) else absent
        | .scalar text style :: rest => done (some (.scalar text style tag, scope, rest))
        | .flowSequenceStart :: rest => done ((flowItems? fuel true scope rest).map items)
        | .flowMappingStart :: rest => done ((flowEntries? fuel true scope rest).map entries)
        | .blockSequenceStart :: rest =>
          if block then done ((blockItems? fuel scope rest).map items) else absent
        | .blockMappingStart :: rest =>
          if block then done ((blockEntries? fuel scope rest).map entries) else absent
        | _ => absent

def blockItems? : Nat → Scope → List Token → Option (Parsed (List Node))
  | 0, _, _ => none
  | fuel + 1, scope, tokens =>
    match tokens with
    | .blockEnd :: rest => some ([], scope, rest)
    | .blockEntry :: rest => do
      let absent := match rest with
        | .blockEntry :: _ | .blockEnd :: _ => true
        | _ => false
      let (item, scope, rest) ←
        if absent then some (Node.empty, scope, rest) else node? fuel true false scope rest
      let (items, scope, rest) ← blockItems? fuel scope rest
      some (item :: items, scope, rest)
    | _ => none

def flatItems? : Nat → Scope → List Token → Option (Parsed (List Node))
  | 0, _, _ => none
  | fuel + 1, scope, tokens =>
    match tokens with
    | .blockEntry :: rest => do
      let (item, scope, rest) ←
        if endsEntry rest then some (Node.empty, scope, rest) else node? fuel true false scope rest
      let (items, scope, rest) ← flatItems? fuel scope rest
      some (item :: items, scope, rest)
    | rest => some ([], scope, rest)

def blockValue? : Nat → Scope → List Token → Option (Parsed Node)
  | 0, _, _ => none
  | fuel + 1, scope, tokens =>
    match tokens with
    | .value :: rest =>
      if endsBlockNode rest then some (.empty, scope, rest) else node? fuel true true scope rest
    | rest => some (.empty, scope, rest)

def blockEntries? : Nat → Scope → List Token → Option (Parsed (List (Node × Node)))
  | 0, _, _ => none
  | fuel + 1, scope, tokens =>
    match tokens with
    | .blockEnd :: rest => some ([], scope, rest)
    | .key :: rest => do
      let (key, scope, rest) ←
        if endsBlockNode rest then some (Node.empty, scope, rest)
        else node? fuel true true scope rest
      let (value, scope, rest) ← blockValue? fuel scope rest
      let (entries, scope, rest) ← blockEntries? fuel scope rest
      some ((key, value) :: entries, scope, rest)
    | _ => none

def flowValue? : Nat → Scope → List Token → Option (Parsed Node)
  | 0, _, _ => none
  | fuel + 1, scope, tokens =>
    match tokens with
    | .value :: rest =>
      if endsFlowValue rest then some (.empty, scope, rest) else node? fuel false false scope rest
    | rest => some (.empty, scope, rest)

/-- A key between brackets; what follows its sign is passed over if no key is there. -/
def pair? : Nat → Scope → List Token → Option (Parsed Node)
  | 0, _, _ => none
  | fuel + 1, scope, tokens => do
    let absent := match tokens with
      | .value :: _ | .flowEntry :: _ | .flowSequenceEnd :: _ => true
      | _ => false
    let (key, scope, rest) ←
      if absent then some (Node.empty, scope, tokens.tail) else node? fuel false false scope tokens
    let (value, scope, rest) ← flowValue? fuel scope rest
    some (.mapping [(key, value)], scope, rest)

def flowItems? : Nat → Bool → Scope → List Token → Option (Parsed (List Node))
  | 0, _, _, _ => none
  | fuel + 1, first, scope, tokens =>
    match tokens with
    | .flowSequenceEnd :: rest => some ([], scope, rest)
    | tokens => do
      let tokens ← match first, tokens with
        | true, tokens => some tokens
        | false, .flowEntry :: rest => some rest
        | false, _ => none
      match tokens with
      | .flowSequenceEnd :: rest => some ([], scope, rest)
      | .key :: rest =>
        let (item, scope, rest) ← pair? fuel scope rest
        let (items, scope, rest) ← flowItems? fuel false scope rest
        some (item :: items, scope, rest)
      | tokens =>
        let (item, scope, rest) ← node? fuel false false scope tokens
        let (items, scope, rest) ← flowItems? fuel false scope rest
        some (item :: items, scope, rest)

def flowEntries? : Nat → Bool → Scope → List Token → Option (Parsed (List (Node × Node)))
  | 0, _, _, _ => none
  | fuel + 1, first, scope, tokens =>
    match tokens with
    | .flowMappingEnd :: rest => some ([], scope, rest)
    | tokens => do
      let tokens ← match first, tokens with
        | true, tokens => some tokens
        | false, .flowEntry :: rest => some rest
        | false, _ => none
      match tokens with
      | .flowMappingEnd :: rest => some ([], scope, rest)
      | .key :: rest =>
        let absent := match rest with
          | .value :: _ | .flowEntry :: _ | .flowMappingEnd :: _ => true
          | _ => false
        let (key, scope, rest) ←
          if absent then some (Node.empty, scope, rest) else node? fuel false false scope rest
        let (value, scope, rest) ← flowValue? fuel scope rest
        let (entries, scope, rest) ← flowEntries? fuel false scope rest
        some ((key, value) :: entries, scope, rest)
      | tokens =>
        let (key, scope, rest) ← node? fuel false false scope tokens
        let (entries, scope, rest) ← flowEntries? fuel false scope rest
        some ((key, .empty) :: entries, scope, rest)

end

/-- The directives of a document: at most one version, which is 1.1 or 1.2, and handles that
differ. -/
def directives? (version : Bool) (handles : List (String × Tag)) :
    List Token → Option (List (String × Tag) × List Token)
  | .version major minor :: rest =>
    if version || major ≠ 1 || (minor ≠ 1 && minor ≠ 2) then none
    else directives? true handles rest
  | .tagHandle handle replacement :: rest =>
    if (handles.lookup handle).isSome then none
    else directives? version ((handle, replacement) :: handles) rest
  | rest => some (handles ++ standardHandles, rest)

def isDocumentEnd (t : Token) : Bool := t = .documentEnd

def document? (tokens : List Token) : Option (Option Document) :=
  let fuel := 2 * tokens.length + 2
  let close (result : Option (Parsed Node)) : Option (Option Document) := do
    let (root, scope, rest) ← result
    if rest.all isDocumentEnd then some (some ⟨root, scope.anchored⟩) else none
  match tokens with
  | [] => some none
  | .version _ _ :: _ | .tagHandle _ _ :: _ | .documentStart :: _ => do
    let (handles, rest) ← directives? false [] tokens
    let .documentStart :: rest := rest | none
    let scope : Scope := ⟨handles, [], []⟩
    match rest with
    | [] | .version _ _ :: _ | .tagHandle _ _ :: _ | .documentStart :: _ | .documentEnd :: _ =>
      close (some (.empty, scope, rest))
    | rest => close (node? fuel true false scope rest)
  | tokens => close (node? fuel true false ⟨standardHandles, [], []⟩ tokens)

def parse (s : String) : Option (Option Document) := (tokens? s).bind document?

end Pinpoint.Yaml
