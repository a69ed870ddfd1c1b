import Pinpoint.Locator.Structural
import Pinpoint.Snippet.Passive

/-! The live preview: locator and snippets of the element under the pointer. Every move of the
pointer issues a ticket, and the next animation frame honours the latest ticket only. -/

namespace Pinpoint

inductive PreviewState where
  | stopped
  | running
  deriving DecidableEq, Repr

structure PreviewFrame where
  locator : String
  preview : List PreviewEntry
  deriving DecidableEq, Repr

def Document.previewFrame (d : Document) (settings : Settings) (s : Site) : PreviewFrame :=
  let locator := (d.structural settings s).value
  ⟨locator, d.preview settings (some s) locator settings.previewDialects⟩

/-- `issued` is the number of the latest ticket, `pending` that ticket with its node as long as no
frame has honoured it, `last` the element of the latest frame since the preview was stopped. -/
structure LivePreview where
  state : PreviewState
  issued : Nat
  pending : Option (Nat × NodeId)
  last : Option NodeId
  deriving DecidableEq, Repr

namespace LivePreview

def initial : LivePreview := ⟨.stopped, 0, none, none⟩

def isRunning (p : LivePreview) : Bool := p.state = .running

def start (p : LivePreview) : LivePreview × Bool :=
  if p.isRunning then (p, false) else ({ p with state := .running }, true)

def stop (p : LivePreview) : LivePreview :=
  { p with state := .stopped, pending := none, last := none }

def move (p : LivePreview) (target : NodeId) : LivePreview × Option Nat :=
  if p.isRunning then
    let ticket := p.issued + 1
    ({ p with issued := ticket, pending := some (ticket, target) }, some ticket)
  else (p, none)

/-- Honours a ticket: the latest one, once, unless its node is no element or was shown last. -/
def frame (settings : Settings) (p : LivePreview) (d : Document) (ticket : Nat) :
    LivePreview × Option PreviewFrame :=
  match p.pending with
  | none => (p, none)
  | some (latest, target) =>
    if p.isRunning && latest = ticket then
      let honoured := { p with pending := none }
      match d.site? target with
      | none => (honoured, none)
      | some s =>
        if p.last = some target then (honoured, none)
        else ({ honoured with last := some target }, some (d.previewFrame settings s))
    else (p, none)

end LivePreview

end Pinpoint
