import Pinpoint.Interaction.Picker
import Pinpoint.Proofs.Document.Persistence
import Pinpoint.Proofs.Interaction.Outlines

/-! The picker over whole runs, with the page changing its document in between. While the picker is
idle every outline is the page's own; while it is armed, every one but that of the hovered node. -/

namespace Pinpoint

/-- The outlines that the page gave to nodes, the latest first. -/
abbrev PageOutlines := List (NodeId × String)

namespace PageOutlines

def get? (given : PageOutlines) (id : NodeId) : Option String := (given.lookup id).bind paintedAs

/-- A painting that the document refuses does not count. -/
def note (given : PageOutlines) (d : Document) (id : NodeId) (value : String) : PageOutlines :=
  if (d.setOutline? id value).isSome then (id, value) :: given else given

end PageOutlines

/-- The runs of a picker on a document. In between the page edits the document as it likes, but it
paints no node that the picker has outlined. -/
inductive PickRun (settings : Settings) : PageOutlines → Picker → Document → Prop where
  | initial {d} : d.Initial → PickRun settings [] .initial d
  | start {given p d} : PickRun settings given p d → PickRun settings given p.start.1 d
  | move {given p d} (target : NodeId) : PickRun settings given p d →
    PickRun settings given (p.move settings d target).1 (p.move settings d target).2
  | click {given p d} (target : NodeId) : PickRun settings given p d →
    PickRun settings given (p.click settings d target).1 (p.click settings d target).2.1
  | stop {given p d} : PickRun settings given p d →
    PickRun settings given (p.stop d).1 (p.stop d).2.1
  | edit {given p d} (e : Edit) : PickRun settings given p d →
    (∀ id value, e ≠ .setOutline id value) → PickRun settings given p (d.perform e)
  | paint {given p d} (id : NodeId) (value : String) : PickRun settings given p d →
    p.outlines.contains id = false →
    PickRun settings (given.note d id value) p (d.perform (.setOutline id value))

/-- The node is in the tree, or still to come. -/
def Document.InPlay (d : Document) (id : NodeId) : Prop := d.isAttached id = true ∨ d.size ≤ id

theorem Document.Persists.inPlay {d d' : Document} (h : d.Persists d') {id : NodeId}
    (hi : d'.InPlay id) : d.InPlay id := by
  rcases hi with ha | hs
  · exact h.attached id ha
  · exact .inr (h.size_le.trans hs)

/-- The page's outlines are all there, either on their nodes or in the registry. Nodes out of play
never come back, so what they look like does not matter. -/
structure Picker.Keeps (p : Picker) (d : Document) (given : PageOutlines) : Prop where
  wellFormed : d.WellFormed
  idle : p.state = .idle → p.outlines = .empty
  single : p.outlines.entries.length ≤ 1
  elements : ∀ e ∈ p.outlines.entries, d.isElement e.1 = true
  remembered : ∀ e ∈ p.outlines.entries, d.InPlay e.1 → e.2 = given.get? e.1
  outside : ∀ id, d.InPlay id → p.outlines.contains id = false → d.outline id = given.get? id

namespace PageOutlines

theorem get?_ne_empty (given : PageOutlines) (id : NodeId) : given.get? id ≠ some "" := by
  intro h
  obtain ⟨value, -, hv⟩ := Option.bind_eq_some_iff.mp h
  exact paintedAs_ne_empty value hv

theorem get?_cons_self (given : PageOutlines) (id : NodeId) (value : String) :
    get? ((id, value) :: given) id = paintedAs value := by
  simp [get?]

theorem get?_cons_of_ne (given : PageOutlines) {id other : NodeId} (h : other ≠ id)
    (value : String) : get? ((id, value) :: given) other = given.get? other := by
  have hb : (other == id) = false := by simpa using h
  rw [get?, List.lookup_cons, hb, get?]

end PageOutlines

namespace Picker

variable {settings : Settings} {p : Picker} {d : Document} {given : PageOutlines}

theorem keeps_initial (h : d.Initial) : initial.Keeps d [] where
  wellFormed := Document.wellFormed_of_initial h
  idle _ := rfl
  single := Nat.zero_le 1
  elements := by rintro e ⟨⟩
  remembered := by rintro e ⟨⟩
  outside id _ _ := by
    rw [Document.outline_of_initial h]
    rfl

theorem Keeps.start (hk : p.Keeps d given) : p.start.1.Keeps d given := by
  unfold Picker.start
  split
  · exact hk
  · exact ⟨hk.wellFormed, by rintro ⟨⟩, hk.single, hk.elements, hk.remembered, hk.outside⟩

theorem Keeps.paintable (hk : p.Keeps d given) {e : NodeId × Option String}
    (he : e ∈ p.outlines.entries) (hi : d.InPlay e.1) : d.Paintable e.1 := by
  have helem := hk.elements e he
  have hlt := hk.wellFormed.lt_size_of_isElement helem
  rcases hi with ha | hs
  · exact ⟨ha, helem⟩
  · exact absurd hs (Nat.not_le.mpr hlt)

theorem Keeps.restores (hk : p.Keeps d given) :
    OutlineRegistry.Restores p.outlines.entries d (p.outlines.clear d).2.1 := by
  apply OutlineRegistry.clear_restores
  have hle := hk.single
  generalize p.outlines.entries = entries at hle ⊢
  rcases entries with _ | ⟨e, _ | ⟨f, more⟩⟩
  · exact List.nodup_nil
  · exact List.nodup_singleton e.1
  · simp at hle

/-- Clearing the registry gives every node in play the outline of the page. -/
theorem Keeps.outline_clear (hk : p.Keeps d given) {id : NodeId} (hi : d.InPlay id) :
    (p.outlines.clear d).2.1.outline id = given.get? id := by
  have hr := hk.restores
  by_cases hc : p.outlines.contains id = false
  · rw [hr.untouched id (OutlineRegistry.contains_eq_false.mp hc)]
    exact hk.outside id hi hc
  · obtain ⟨e, he, rfl⟩ : ∃ e ∈ p.outlines.entries, e.1 = id := by
      by_contra hno
      exact hc (OutlineRegistry.contains_eq_false.mpr fun e he heq => hno ⟨e, he, heq⟩)
    have hprevious := hk.remembered e he hi
    rw [hr.given_back e he (hk.paintable he hi), hprevious,
      paintedAs_getD (given.get?_ne_empty e.1)]

theorem Keeps.clear (hk : p.Keeps d given) (state : PickState) :
    Keeps ⟨state, .empty⟩ (p.outlines.clear d).2.1 given := by
  have houtline := @Keeps.outline_clear p d given hk
  obtain ⟨outline, hd⟩ := hk.restores.frame
  rw [hd] at houtline ⊢
  exact {
    wellFormed := hk.wellFormed.of_labels rfl rfl
    idle := fun _ => rfl
    single := Nat.zero_le 1
    elements := by rintro e ⟨⟩
    remembered := by rintro e ⟨⟩
    outside := fun id hi _ => houtline hi }

/-- A node that the empty registry outlines is remembered with the outline of the page. -/
theorem Keeps.apply (hk : Keeps ⟨.armed, .empty⟩ d given) (target : NodeId) (style : String) :
    Keeps ⟨.armed, (OutlineRegistry.empty.apply d target style).1⟩
      (OutlineRegistry.empty.apply d target style).2.1 given := by
  by_cases hp : d.Paintable target
  · rw [OutlineRegistry.apply_of_paintable hp]
    exact {
      wellFormed := hk.wellFormed.of_labels rfl rfl
      idle := by rintro ⟨⟩
      single := le_refl 1
      elements := by
        intro e he
        rw [List.mem_singleton.mp he]
        exact hp.2
      remembered := by
        intro e he hi
        rw [List.mem_singleton.mp he]
        exact hk.outside target (.inl hp.1) rfl
      outside := by
        intro id hi hc
        have hne : id ≠ target := by
          rintro rfl
          simp [OutlineRegistry.contains, OutlineRegistry.remember, OutlineRegistry.empty] at hc
        exact (Document.outline_painted_of_ne hne style).trans (hk.outside id hi rfl) }
  · rw [OutlineRegistry.apply_of_not_paintable hp]
    exact hk

theorem Keeps.move (hk : p.Keeps d given) (target : NodeId) :
    (p.move settings d target).1.Keeps (p.move settings d target).2 given := by
  unfold Picker.move
  split
  · rename_i harmed
    have hstate : p.state = .armed := by simpa [isArmed] using harmed
    have happly := (hk.clear .armed).apply target settings.outlineStyle
    simp only [hstate]
    exact happly
  · exact hk

theorem Keeps.click (hk : p.Keeps d given) (target : NodeId) :
    (p.click settings d target).1.Keeps (p.click settings d target).2.1 given := by
  unfold Picker.click
  split
  · exact hk.clear .idle
  · exact hk

theorem Keeps.stop (hk : p.Keeps d given) : (p.stop d).1.Keeps (p.stop d).2.1 given := by
  unfold Picker.stop
  split
  · exact hk.clear .idle
  · exact hk

theorem Keeps.edit (hk : p.Keeps d given) {e : Edit} (he : ∀ id value, e ≠ .setOutline id value) :
    p.Keeps (d.perform e) given := by
  have hp := hk.wellFormed.persists_perform e
  have hwell := hk.wellFormed.perform e
  exact {
    wellFormed := hwell
    idle := hk.idle
    single := hk.single
    elements := fun f hf => hp.isElement hk.wellFormed hwell (hk.elements f hf)
    remembered := fun f hf hi => hk.remembered f hf (hp.inPlay hi)
    outside := fun id hi hc => by
      rw [Document.outline_perform he]
      exact hk.outside id (hp.inPlay hi) hc }

theorem Keeps.paint (hk : p.Keeps d given) {id : NodeId} (hc : p.outlines.contains id = false)
    (value : String) : p.Keeps (d.perform (.setOutline id value)) (given.note d id value) := by
  by_cases hp : d.Paintable id
  · have hset := Document.setOutline?_of_paintable hp value
    rw [Document.perform, PageOutlines.note, hset]
    exact {
      wellFormed := hk.wellFormed.of_labels rfl rfl
      idle := hk.idle
      single := hk.single
      elements := hk.elements
      remembered := by
        intro e he hi
        have hne := OutlineRegistry.contains_eq_false.mp hc e he
        rw [Option.isSome_some, if_pos rfl, PageOutlines.get?_cons_of_ne _ hne]
        exact hk.remembered e he hi
      outside := by
        intro other hi hother
        rw [Option.isSome_some, if_pos rfl, Option.getD_some]
        by_cases heq : other = id
        · rw [heq, Document.outline_painted_self, PageOutlines.get?_cons_self]
        · rw [Document.outline_painted_of_ne heq, PageOutlines.get?_cons_of_ne _ heq]
          exact hk.outside other hi hother }
  · have hset := Document.setOutline?_of_not_paintable hp value
    rw [Document.perform, PageOutlines.note, hset]
    exact hk

end Picker

namespace PickRun

variable {settings : Settings} {p : Picker} {d : Document} {given : PageOutlines}

theorem keeps (hrun : PickRun settings given p d) : p.Keeps d given := by
  induction hrun with
  | initial h => exact Picker.keeps_initial h
  | start _ ih => exact ih.start
  | move target _ ih => exact ih.move target
  | click target _ ih => exact ih.click target
  | stop _ ih => exact ih.stop
  | edit e _ he ih => exact ih.edit he
  | paint id value _ hc ih => exact ih.paint hc value

theorem inPlay_of_mem {s : Site} (hs : s ∈ d.elements) : d.InPlay s.id :=
  .inl (List.any_eq_true.mpr ⟨_, Document.mem_elements.mp hs, decide_eq_true rfl⟩)

/-- An idle picker has given every outline back, and an armed one holds back one at most. -/
theorem leaves_page_outlines (hrun : PickRun settings given p d) :
    (p.state = .idle →
      p.outlines = .empty ∧ ∀ s ∈ d.elements, d.outline s.id = given.get? s.id) ∧
    (p.state = .armed → p.outlines.size ≤ 1 ∧
      ∀ s ∈ d.elements, p.outlines.contains s.id = false → d.outline s.id = given.get? s.id) := by
  have hk := hrun.keeps
  constructor
  · intro hidle
    have hempty := hk.idle hidle
    refine ⟨hempty, fun s hs => hk.outside s.id (inPlay_of_mem hs) ?_⟩
    rw [hempty]
    rfl
  · intro _
    exact ⟨hk.single, fun s hs hc => hk.outside s.id (inPlay_of_mem hs) hc⟩

def buttonPage : Document :=
  .ofMarkup ⟨"html", .empty, [.element ⟨"body", .empty, [.element (.ofTag "button")]⟩]⟩

/-- The page outlines its button, which the picker then outlines too and gives back. -/
theorem leaves_page_outlines_hovered :
    let page := buttonPage.perform (.setOutline 2 "thin")
    let armed := Picker.initial.start.1.move .standard page 2
    let idle := armed.1.click .standard armed.2 1
    armed.2.outline 2 = some "2px solid #3b82f6" ∧ armed.2.outline 1 = none ∧
      idle.2.1.outline 2 = some "thin" := by
  intro page armed idle
  have hpage : PickRun .standard (PageOutlines.note [] buttonPage 2 "thin") .initial page :=
    .paint 2 "thin" (.initial (.markup _)) rfl
  have harmed : PickRun .standard _ armed.1 armed.2 := .move 2 (.start hpage)
  have hidle : PickRun .standard _ idle.1 idle.2.1 := .click 1 harmed
  refine ⟨by decide, ?_, ?_⟩
  · exact ((leaves_page_outlines harmed).2 rfl).2 (armed.2.elements.get ⟨1, by decide⟩)
      (List.get_mem _ _) (by decide)
  · exact ((leaves_page_outlines hidle).1 rfl).2 (idle.2.1.elements.get ⟨2, by decide⟩)
      (List.get_mem _ _)

end PickRun

end Pinpoint
