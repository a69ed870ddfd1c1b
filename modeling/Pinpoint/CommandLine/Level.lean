import Pinpoint.CommandLine.Switch

/-! Reading arguments one at a time. The arguments before the command make up one level, those
after it another. -/

namespace Pinpoint.CommandLine

inductive Stop where
  | refused
  | version (scope : Scope)
  | help (scope : Scope)
  deriving DecidableEq, Repr

/-- What a level holds so far. A switch without a value is found with an empty one. `waiting` has
yet to get its value from the next argument; `pending` has got it there, and the value is judged as
soon as the level goes on. After the terminator all arguments are operands. -/
structure Level where
  found : List (Switch × String)
  operands : List String
  waiting : Option Switch
  pending : Option (Switch × String)
  terminated : Bool
  deriving DecidableEq, Repr

namespace Level

def empty : Level := ⟨[], [], none, none, false⟩

def has (l : Level) (s : Switch) : Bool := l.found.any (·.1 = s)

def values (l : Level) (s : Switch) : List String :=
  l.found.filterMap fun (t, value) => if t = s then some value else none

def value? (l : Level) (s : Switch) : Option String := l.found.lookup s

def add (scope : Scope) (l : Level) (s : Switch) (value : String) : Except Stop Level :=
  if s.accepts value && (scope.repeats s || ! l.has s) then
    .ok { l with found := l.found ++ [(s, value)] }
  else .error .refused

def settle (scope : Scope) (l : Level) : Except Stop Level :=
  match l.pending with
  | none => .ok l
  | some (s, value) => add scope { l with pending := none } s value

def addOperand (scope : Scope) (l : Level) (text : String) : Except Stop Level := do
  let l ← l.settle scope
  match scope with
  | none => .error .refused
  | some c =>
    if c.takesOperand && l.operands.isEmpty && (c = .snippet || text ≠ "") then
      .ok { l with operands := [text] }
    else .error .refused

def addFlag (scope : Scope) (l : Level) (s : Switch) : Except Stop Level := do
  let l ← l.settle scope
  match s with
  | .version => .error (.version scope)
  | .help => .error (.help scope)
  | s => l.add scope s ""

def addOption (scope : Scope) (l : Level) (s : Switch) (attached : Option String) :
    Except Stop Level := do
  let l ← l.settle scope
  match attached with
  | some value => l.add scope s value
  | none => .ok { l with waiting := some s }

def addLong (scope : Scope) (l : Level) (name : String) (value : Option String) :
    Except Stop Level :=
  match scope.ofName? name with
  | none => .error .refused
  | some s =>
    if s.takesValue then l.addOption scope s value
    else if value.isSome then .error .refused
    else l.addFlag scope s

/-- Letters up to one that takes a value: what follows that one is its value. -/
def addLetters (scope : Scope) (l : Level) : List Char → Except Stop Level
  | [] => .ok l
  | c :: cs =>
    match scope.ofLetter? c with
    | none => .error .refused
    | some s =>
      if s.takesValue then
        l.addOption scope s
          ((attachedValue? cs).or (if cs.isEmpty then none else some (String.ofList cs)))
      else do addLetters scope (← l.addFlag scope s) cs

def step (scope : Scope) (l : Level) (argument : String) : Except Stop Level :=
  if l.terminated then l.addOperand scope argument
  else match Shape.ofText argument, l.waiting with
    | .word, some s => .ok { l with waiting := none, pending := some (s, argument) }
    | _, some _ => .error .refused
    | .word, none => l.addOperand scope argument
    | .terminator, none => .ok { l with terminated := true }
    | .long name value, none => l.addLong scope name value
    | .letters cs, none => l.addLetters scope cs

def finish (scope : Scope) (l : Level) : Except Stop Level :=
  if l.waiting.isSome then .error .refused else l.settle scope

def ofArguments (c : Command) (arguments : List String) : Except Stop Level := do
  (← arguments.foldlM (Level.step (some c)) .empty).finish (some c)

end Level

end Pinpoint.CommandLine
