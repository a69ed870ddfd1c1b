import Pinpoint.Yaml.Token

/-! From characters to tokens. Indentation opens and closes blocks, and a colon makes a key of what
stands before it on its line. -/

namespace Pinpoint.Yaml

structure Candidate where
  index : Nat
  required : Bool
  start : Glyph

/-- `margin` is 0 outside of blocks and otherwise one more than the column of the innermost block,
`outer` are the margins around it. `candidates` has a place for the block context and one for
each bracket that is open, innermost first. -/
structure Layout where
  tokens : List Token
  margin : Nat
  outer : List Nat
  candidates : List (Option Candidate)
  keyAllowed : Bool

namespace Layout

def initial : Layout := ⟨[], 0, [], [none], true⟩

def inFlow (l : Layout) : Bool := 1 < l.candidates.length

def emit (l : Layout) (t : Token) : Layout := { l with tokens := l.tokens ++ [t] }

def allow (l : Layout) (keyAllowed : Bool) : Layout := { l with keyAllowed }

def beyond (limit : Nat) : Nat → List Nat → Nat × Nat × List Nat
  | margin, [] => (0, margin, [])
  | margin, o :: outer =>
    if limit < margin then
      let (n, rest) := beyond limit o outer
      (n + 1, rest)
    else (0, margin, o :: outer)

def close (l : Layout) (limit : Nat) : Layout :=
  if l.inFlow then l
  else
    let (n, margin, outer) := beyond limit l.margin l.outer
    { l with tokens := l.tokens ++ List.replicate n .blockEnd, margin, outer }

def openBlock (l : Layout) (column : Nat) (place : Nat) (t : Token) : Layout :=
  if l.inFlow || column < l.margin then l
  else
    { l with
      tokens := l.tokens.insertIdx place t
      margin := column + 1
      outer := l.margin :: l.outer }

def dropCandidate? (l : Layout) : Option Layout :=
  match l.candidates with
  | some c :: rest => if c.required then none else some { l with candidates := none :: rest }
  | _ => some l

def saveCandidate? (l : Layout) (g : Glyph) : Option Layout :=
  if l.keyAllowed then do
    let required := ! l.inFlow && l.margin = g.column + 1
    let l ← l.dropCandidate?
    some { l with candidates := some ⟨l.tokens.length, required, g⟩ :: l.candidates.tail }
  else some l

/-- A key is no longer than 1024 bytes and stays on its line. -/
def expire? (l : Layout) (g : Glyph) : Option Layout := do
  let candidates ← l.candidates.mapM fun
    | none => some none
    | some c =>
      if c.start.line < g.line || c.start.offset + 1024 < g.offset then
        if c.required then none else some none
      else some (some c)
  some { l with candidates }

/-- Passes over blanks, comments and line ends. A line end makes a key possible, and where one is
possible no tab may stand before it. -/
def skipSpace (flow allowed comment : Bool) : List Glyph → Bool × List Glyph
  | [] => (allowed, [])
  | g :: gs =>
    if isBreak g.char then skipSpace flow (allowed || ! flow) false gs
    else if g.char = endChar then (allowed, g :: gs)
    else if comment then skipSpace flow allowed true gs
    else if g.char = '#' then skipSpace flow allowed true gs
    else if g.char = ' ' || (g.char = '\t' && (flow || ! allowed)) ||
        (g.char = '\uFEFF' && g.column = 0) then
      skipSpace flow allowed false gs
    else (allowed, g :: gs)

/-- The sign of an entry, or of a key or value that is no simple key. Outside of brackets it
opens a block, and has to stand where a key could. -/
def sign? (l : Layout) (g : Glyph) (block t : Token) (allowed : Bool) : Option Layout :=
  if ! l.inFlow && ! l.keyAllowed then none
  else do
    let l ← (l.openBlock g.column l.tokens.length block).dropCandidate?
    some ((l.allow allowed).emit t)

/-- The sign of a value. It makes a key of the candidate, if there is one. -/
def value? (l : Layout) (g : Glyph) : Option Layout :=
  match l.candidates with
  | some c :: rest =>
    let keyed := { l with tokens := l.tokens.insertIdx c.index .key, candidates := none :: rest }
    some (((keyed.openBlock c.start.column c.index .blockMappingStart).allow false).emit .value)
  | _ =>
    if ! l.inFlow && ! l.keyAllowed then none
    else
      let opened := l.openBlock g.column l.tokens.length .blockMappingStart
      some ((opened.allow (! l.inFlow)).emit .value)

def border? (l : Layout) : Option Layout := do
  let l ← (l.close 0).dropCandidate?
  some (l.allow false)

def openFlow? (l : Layout) (g : Glyph) (t : Token) : Option Layout := do
  let l ← l.saveCandidate? g
  some (({ l with candidates := none :: l.candidates }.allow true).emit t)

def closeFlow? (l : Layout) (t : Token) : Option Layout := do
  let l ← l.dropCandidate?
  let candidates := if l.inFlow then l.candidates.tail else l.candidates
  some (({ l with candidates }.allow false).emit t)

def isIndicator (c : Char) : Bool := "-?:,[]\x7b\x7d#&*!|>'\"%@\x60".toList.contains c

def next? (l : Layout) (g : Glyph) (gs : List Glyph) : Option (Layout × List Glyph) :=
  let c := g.char
  let solid := isSolid (charAt 0 gs)
  let flow := l.inFlow
  let all := g :: gs
  if g.column = 0 && c = '%' then do
    let (t, rest) ← readDirective? gs
    some ((← l.border?).emit t, rest)
  else if isDocumentMark '-' all then do some ((← l.border?).emit .documentStart, all.drop 3)
  else if isDocumentMark '.' all then do some ((← l.border?).emit .documentEnd, all.drop 3)
  else if c = '[' then do some (← l.openFlow? g .flowSequenceStart, gs)
  else if c = '\x7b' then do some (← l.openFlow? g .flowMappingStart, gs)
  else if c = ']' then do some (← l.closeFlow? .flowSequenceEnd, gs)
  else if c = '\x7d' then do some (← l.closeFlow? .flowMappingEnd, gs)
  else if c = ',' then do some (((← l.dropCandidate?).allow true).emit .flowEntry, gs)
  else if c = '-' && ! solid then do
    some (← l.sign? g .blockSequenceStart .blockEntry true, gs)
  else if c = '?' && (flow || ! solid) then do
    some (← l.sign? g .blockMappingStart .key (! flow), gs)
  else if c = ':' && (flow || ! solid) then do some (← l.value? g, gs)
  else if c = '*' then do
    let (name, rest) ← readName? gs
    some (((← l.saveCandidate? g).allow false).emit (.alias_ name), rest)
  else if c = '&' then do
    let (name, rest) ← readName? gs
    some (((← l.saveCandidate? g).allow false).emit (.anchor name), rest)
  else if c = '!' then do
    let (handle, suffix, rest) ← readTag? all
    let last := charAt 0 rest
    if isSolid last && ! (flow && last = ',') then none
    some (((← l.saveCandidate? g).allow false).emit (.tag handle suffix), rest)
  else if (c = '|' || c = '>') && ! flow then do
    let l := (← l.dropCandidate?).allow true
    let (text, rest) ← readBlock (c = '|') l.margin gs
    some (l.emit (.scalar (String.ofList text) (if c = '|' then .literal else .other)), rest)
  else if c = '\'' || c = '"' then do
    let l := (← l.saveCandidate? g).allow false
    let (text, rest) ← readQuoted c [] .none gs
    some (l.emit (.scalar (String.ofList text) .other), rest)
  else if isSolid c && (! isIndicator c || c = '-' || (! flow && solid && (c = '?' || c = ':'))) then
    do
      let l ← l.saveCandidate? g
      let p ← readPlain flow l.margin [] [] all
      some ((l.allow p.endsLine).emit (.scalar (String.ofList p.text) .plain), p.rest)
  else none

/-- Reads tokens up to the end of the text, each of which takes at least one character. -/
def run? : Nat → Layout → List Glyph → Option (List Token)
  | 0, _, _ => none
  | fuel + 1, l, gs =>
    match skipSpace l.inFlow l.keyAllowed false gs with
    | (_, []) => none
    | (allowed, g :: gs) => do
      let l := (← (l.allow allowed).expire? g).close (g.column + 1)
      if g.char = endChar then (← l.border?).tokens
      else
        let (l, rest) ← l.next? g gs
        run? fuel l rest

end Layout

def tokens? (s : String) : Option (List Token) := do
  let gs ← glyphs? s
  Layout.run? (gs.length + 1) .initial gs

end Pinpoint.Yaml
