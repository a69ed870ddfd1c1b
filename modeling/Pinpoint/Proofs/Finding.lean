import Pinpoint.CommandLine.Replay
import Pinpoint.Descriptor
import Pinpoint.Proofs.Document.Links
import Pinpoint.Proofs.Interaction.Independence
import Pinpoint.Proofs.Interaction.LivePreview

/-! An element is described the same whichever way one gets at it: by asking for its finding, by
hovering, by a request while it has the focus, or by picking it. -/

namespace Pinpoint

namespace Document

variable {d d' : Document}

/-- What matches is known by its number. -/
theorem exists_of_matched {selector : String} {id : NodeId}
    (h : (d.matched selector).map Site.id = .ok id) :
    ∃ s, d.matched selector = .ok s ∧ s.id = id := by
  cases hm : d.matched selector with
  | error f => rw [hm] at h; cases h
  | ok s =>
    rw [hm] at h
    cases h
    exact ⟨s, rfl, rfl⟩

theorem matched_congr (h : d.root = d'.root) : d.matched = d'.matched := by
  funext selector
  rw [matched, matched, queryFirst, queryFirst, query_congr h]

/-- With the focus on an element, requests are about that element. -/
theorem WellFormed.subject?_focus (h : d.WellFormed) {s : Site} (hs : s ∈ d.elements) :
    (d.focus (some s.id)).subject? = some s := by
  have hsite := h.site?_of_mem hs
  have helement : d.isElement s.id = true := by rw [isElement, hsite]; rfl
  have hsame := d.sameContent_focus (some s.id)
  have hactive : (d.focus (some s.id)).active? = some s.id := by
    rw [active?, ← hsame.isAttached_eq, focus]
    simp [helement, isAttached_of_mem hs]
  rw [subject?, hactive, ← hsame.site?_eq]
  exact hsite

end Document

/-- A preview that has shown nothing yet shows the element that the pointer moves to. -/
theorem LivePreview.frame_of_last_none (settings : Settings) {p : LivePreview}
    (hlast : p.last = none) {d : Document} {s : Site} (hs : d.site? s.id = some s) :
    let q := p.start.1.move s.id
    q.2 = some (p.issued + 1) ∧
      (q.1.frame settings d (p.issued + 1)).2 = some (d.previewFrame settings s) := by
  rw [start_state]
  simp [LivePreview.move, LivePreview.frame, isRunning, hs, hlast]

/-- A request without a stored selector is answered for the focused element. -/
theorem Session.handle_preview_focused (settings : Settings) (reach : Reach) (session : Session)
    {d : Document} (h : d.WellFormed) {s : Site} (hs : s ∈ d.elements) {stored : Option String}
    (hstored : stored.getD "" = "") :
    (session.handle settings reach (d.focus (some s.id)) (.preview stored)).2.2 =
      .preview (d.previewFrame settings s) := by
  have hfilter : stored.filter (· ≠ "") = none := by
    cases stored with
    | none => rfl
    | some text => simpa using hstored
  have hsame := d.sameContent_focus (some s.id)
  rw [Session.handle, previewAnswer, h.subject?_focus hs, Document.resolve, hfilter,
    hsame.previewFrame_eq settings s]
  rfl

namespace CommandLine.Replay

structure Stage.Hovering (d : Document) (stage : Stage) : Prop where
  armed : stage.session.picker.isArmed = true
  events : stage.session.events = []
  document : d.SameUnpainted stage.document

namespace Stage

variable (settings : Settings) {d : Document} {stage : Stage}

theorem hovering_begin (d : Document) :
    Hovering d (begin settings d .startPick) := ⟨rfl, rfl, .refl d⟩

theorem Hovering.move (hh : stage.Hovering d) (target : NodeId) :
    (stage.move settings target).1.Hovering d where
  armed := by
    have hmove : (stage.session.picker.move settings stage.document target).1.isArmed =
        stage.session.picker.isArmed := by
      unfold Picker.move
      split <;> rfl
    exact hmove.trans hh.armed
  events := hh.events
  document :=
    hh.document.trans (stage.session.picker.sameUnpainted_move settings stage.document target)

theorem Hovering.hover (hh : stage.Hovering d) {selector : String} {s : Site}
    (hs : d.matched selector = .ok s) :
    ∃ next, stage.hover settings selector = .ok next ∧ next.Hovering d := by
  refine ⟨_, ?_, hh.move settings s.id⟩
  rw [Stage.hover, ← Document.matched_congr hh.document.root, hs]
  rfl

theorem Hovering.hovers (hh : stage.Hovering d) {hovers : List String}
    (hmatch : ∀ selector ∈ hovers, ∃ id, (d.matched selector).map Site.id = .ok id) :
    ∃ last, hovers.foldlM (Stage.hover settings) stage = .ok last ∧ last.Hovering d := by
  induction hovers generalizing stage with
  | nil => exact ⟨stage, rfl, hh⟩
  | cons selector rest ih =>
    -- a hover changes outlines only, so the other selectors still match in the page as it was
    obtain ⟨id, hid⟩ := hmatch selector List.mem_cons_self
    obtain ⟨s, hs, -⟩ := Document.exists_of_matched hid
    obtain ⟨next, hnext, hh'⟩ := hh.hover settings hs
    obtain ⟨last, hlast, hh''⟩ := ih hh' fun other hm => hmatch other (List.mem_cons_of_mem _ hm)
    refine ⟨last, ?_, hh''⟩
    rw [List.foldlM_cons, hnext]
    exact hlast

theorem Hovering.events_click (hh : stage.Hovering d) {s : Site} (hs : d.site? s.id = some s) :
    (stage.click settings s.id).session.events = [.picked (d.pick settings s)] := by
  have hpick : (stage.session.picker.click settings stage.document s.id).2.2 =
      some (d.pick settings s) := by
    rw [Picker.click, if_pos hh.armed, ← hh.document.site?_eq, hs, Option.map_some,
      hh.document.pick_eq]
  simp only [Stage.click, Session.click_eq, hpick, hh.events]
  rfl

end Stage

/-- Picking behind hovers that all hit something makes known the one element that is clicked. -/
theorem pick_of_matched (settings : Settings) {d : Document} (h : d.WellFormed)
    {hovers : List String}
    (hhovers : ∀ selector ∈ hovers, ∃ id, (d.matched selector).map Site.id = .ok id)
    {click : String} {s : Site} (hs : s ∈ d.elements)
    (hclick : (d.matched click).map Site.id = .ok s.id) :
    pick settings d hovers click = .ok [.picked (d.pick settings s)] := by
  obtain ⟨last, hlast, hh⟩ := (Stage.hovering_begin settings d).hovers settings hhovers
  obtain ⟨t, ht, hid⟩ := Document.exists_of_matched hclick
  have hevents := hh.events_click settings (h.site?_of_mem hs)
  rw [Document.matched_congr hh.document.root] at ht
  simp only [pick, hlast, ht, hid, bind, Except.bind, hevents]

end CommandLine.Replay

namespace Document

open CommandLine

/-- The finding of an element of the tree is what a preview shows of it first, what a request is
answered that names no selector while the element has the focus, and what is made known when the
element is picked, whatever was hovered before. -/
theorem finding_at_all_entries (settings : Settings) {d : Document} (h : d.Reachable) {s : Site}
    (hs : s ∈ d.elements) :
    let found := d.finding settings s settings.previewDialects
    (∀ p : LivePreview, p.last = none → ∃ ticket, (p.start.1.move s.id).2 = some ticket ∧
      ((p.start.1.move s.id).1.frame settings d ticket).2 =
        some ⟨found.locator, found.preview⟩) ∧
    (∀ (reach : Reach) (session : Session) (stored : Option String), stored.getD "" = "" →
      (session.handle settings reach (d.focus (some s.id)) (.preview stored)).2.2 =
        .preview ⟨found.locator, found.preview⟩) ∧
    ∀ (hovers : List String) (click : String),
      (∀ selector ∈ hovers, ∃ id, (d.matched selector).map Site.id = .ok id) →
      (d.matched click).map Site.id = .ok s.id →
      Replay.pick settings d hovers click =
        .ok [.picked ⟨found.locator, some found.descriptor⟩] := by
  have hwell := h.wellFormed
  refine ⟨?_, ?_, ?_⟩
  · intro p hlast
    exact ⟨p.issued + 1, p.frame_of_last_none settings hlast (hwell.site?_of_mem hs)⟩
  · intro reach session stored hstored
    exact session.handle_preview_focused settings reach hwell hs hstored
  · intro hovers click hhovers hclick
    exact Replay.pick_of_matched settings hwell hhovers hs hclick

def searchPage : Document :=
  let field : Markup := ⟨"input", .ofList [("aria-label", "Search"), ("class", "wide")], []⟩
  let go : Markup := ⟨"button", .empty, [.text "Go"]⟩
  .ofMarkup ⟨"html", .empty, [.element ⟨"body", .empty, [.element field, .element go]⟩]⟩

/-- The field is hovered, then its button, and then it is picked. -/
theorem finding_at_all_entries_searchPage :
    let field := searchPage.elements.get ⟨2, by decide⟩
    let found := searchPage.finding .standard field Dialect.all
    let moved := LivePreview.initial.start.1.move field.id
    let focused := searchPage.focus (some field.id)
    (∃ ticket, moved.2 = some ticket ∧ (moved.1.frame .standard searchPage ticket).2 =
      some ⟨found.locator, found.preview⟩) ∧
    (Session.initial.handle .standard ⟨true, false⟩ focused (.preview none)).2.2 =
      .preview ⟨found.locator, found.preview⟩ ∧
    Replay.pick .standard searchPage [".wide", "body > button"] "input" =
      .ok [.picked ⟨found.locator, some found.descriptor⟩] := by
  intro field found moved focused
  have hall := finding_at_all_entries .standard (d := searchPage) (s := field)
    (.start (.markup _) (by decide)) (List.get_mem _ _)
  refine ⟨hall.1 .initial rfl, hall.2.1 ⟨true, false⟩ .initial none rfl, ?_⟩
  refine hall.2.2 [".wide", "body > button"] "input" ?_ (by decide +kernel)
  intro selector hs
  simp only [List.mem_cons, List.not_mem_nil, or_false] at hs
  rcases hs with rfl | rfl
  · exact ⟨2, by decide +kernel⟩
  · exact ⟨3, by decide +kernel⟩

end Document

end Pinpoint
