import Pinpoint.Descriptor
import Pinpoint.Interaction.Outlines
import Pinpoint.Locator.Structural

/-! The picker: while it is armed it outlines the element under the pointer, and the next click
chooses an element instead of reaching the page. -/

namespace Pinpoint

inductive PickState where
  | idle
  | armed
  deriving DecidableEq, Repr

structure PickResult where
  locator : String
  descriptor : Option Descriptor
  deriving DecidableEq, Repr

def Document.pick (d : Document) (settings : Settings) (s : Site) : PickResult :=
  let locator := (d.structural settings s).value
  ⟨locator, some (d.describe settings s locator)⟩

structure Picker where
  state : PickState
  outlines : OutlineRegistry

namespace Picker

def initial : Picker := ⟨.idle, .empty⟩

def isArmed (p : Picker) : Bool := p.state = .armed

def start (p : Picker) : Picker × Bool :=
  if p.isArmed then (p, false) else ({ p with state := .armed }, true)

def move (settings : Settings) (p : Picker) (d : Document) (target : NodeId) :
    Picker × Document :=
  if p.isArmed then
    let (registry, d, _) := p.outlines.clear d
    let (registry, d, _) := registry.apply d target settings.outlineStyle
    ({ p with outlines := registry }, d)
  else (p, d)

def disarm (p : Picker) (d : Document) : Picker × Document :=
  let (registry, d, _) := p.outlines.clear d
  (⟨.idle, registry⟩, d)

/-- Chooses the clicked node, if it is an element; while idle the click is none of our business. -/
def click (settings : Settings) (p : Picker) (d : Document) (target : NodeId) :
    Picker × Document × Option PickResult :=
  if p.isArmed then
    let result := (d.site? target).map (d.pick settings)
    let (p, d) := p.disarm d
    (p, d, result)
  else (p, d, none)

def stop (p : Picker) (d : Document) : Picker × Document × Bool :=
  if p.isArmed then
    let (p, d) := p.disarm d
    (p, d, true)
  else (p, d, false)

end Picker

end Pinpoint
