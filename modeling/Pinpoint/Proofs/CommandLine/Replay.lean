import Pinpoint.Proofs.Finding

/-! Hovers that are replayed through the live preview. With a frame behind every move each element
is shown that is not the one before; in a burst the frames come too late for all moves but the
last. -/

namespace Pinpoint.CommandLine.Replay

/-- The sites that are not about the same element as the site before them. `last` is the element
before the first. -/
def changes (last : Option NodeId) (targets : List Site) : List Site :=
  let pairs := (last :: targets.map fun s => some s.id).zip targets
  (pairs.filter fun (before, s) => before ≠ some s.id).map Prod.snd

theorem changes_cons (last : Option NodeId) (s : Site) (rest : List Site) :
    changes last (s :: rest) =
      (if last = some s.id then [] else [s]) ++ changes (some s.id) rest := by
  simp only [changes, List.map_cons, List.zip_cons_cons, List.filter_cons]
  split <;> simp_all

def shown (settings : Settings) (d : Document) (s : Site) : Event :=
  .livePreview (d.previewFrame settings s)

structure Stage.Watching (d : Document) (stage : Stage) : Prop where
  running : stage.session.live.isRunning = true
  idle : stage.session.picker.isArmed = false
  document : stage.document = d

namespace Stage

variable (settings : Settings) {d : Document} {stage : Stage}

theorem watching_begin (d : Document) : Watching d (begin settings d .startLive) := ⟨rfl, rfl, rfl⟩

/-- A move issues the next ticket, and nothing else changes. -/
theorem Watching.move_eq (hw : stage.Watching d) (target : NodeId) :
    let live := stage.session.live
    let ticket := live.issued + 1
    stage.move settings target =
      (⟨{ stage.session with
          live := { live with issued := ticket, pending := some (ticket, target) } }, d⟩,
        some ticket) := by
  intro live ticket
  simp only [Stage.move, Session.move, Picker.move, LivePreview.move, hw.running, hw.idle,
    hw.document, if_true, Bool.false_eq_true, if_false, live, ticket]

theorem Watching.move (hw : stage.Watching d) (target : NodeId) :
    (stage.move settings target).1.Watching d := by
  rw [hw.move_eq]
  exact ⟨hw.running, hw.idle, rfl⟩

structure Shows (d : Document) (s : Site) (stage next : Stage) : Prop where
  watching : next.Watching d
  last : next.session.live.last = some s.id
  events : next.session.events = stage.session.events ++
    if stage.session.live.last = some s.id then [] else [shown settings d s]

theorem Watching.frame_latest (hw : stage.Watching d) {ticket : Nat} {s : Site}
    (hs : d.site? s.id = some s) (hpending : stage.session.live.pending = some (ticket, s.id)) :
    Shows settings d s stage (stage.frame settings ticket) := by
  have hstep : stage.session.live.frame settings d ticket =
      ({ stage.session.live with pending := none, last := some s.id },
        if stage.session.live.last = some s.id then none
        else some (d.previewFrame settings s)) := by
    simp only [LivePreview.frame, hpending, hw.running, decide_true, Bool.and_self, if_true, hs]
    split
    · rename_i hlast
      rw [← hlast]
    · rfl
  have hnext : stage.frame settings ticket = { stage with
      session := (stage.session.frame settings reach stage.document ticket).1 } := rfl
  rw [hnext, Session.frame, hw.document, hstep]
  by_cases hlast : stage.session.live.last = some s.id
  · rw [if_pos hlast]
    exact ⟨⟨hw.running, hw.idle, rfl⟩, rfl, by rw [if_pos hlast, List.append_nil]⟩
  · rw [if_neg hlast]
    exact ⟨⟨hw.running, hw.idle, rfl⟩, rfl, by rw [if_neg hlast]; rfl⟩

/-- The frame of a ticket that another one took the place of does nothing. -/
theorem frame_stale {ticket latest : Nat} {target : NodeId}
    (hpending : stage.session.live.pending = some (latest, target)) (hne : ticket ≠ latest) :
    stage.frame settings ticket = stage := by
  have hstep : stage.session.live.frame settings stage.document ticket =
      (stage.session.live, none) := by
    simp [LivePreview.frame, hpending, hne.symm]
  rw [Stage.frame, Session.frame, hstep]

theorem frames_stale {latest : Nat} {target : NodeId}
    (hpending : stage.session.live.pending = some (latest, target)) {tickets : List Nat}
    (hne : ∀ ticket ∈ tickets, ticket ≠ latest) :
    tickets.foldl (Stage.frame settings) stage = stage := by
  induction tickets with
  | nil => rfl
  | cons ticket rest ih =>
    rw [List.foldl_cons, frame_stale settings hpending (hne ticket List.mem_cons_self)]
    exact ih fun other hm => hne other (List.mem_cons_of_mem _ hm)

/-! A frame behind every move -/

theorem Watching.draw (hw : stage.Watching d) {s : Site} (hs : d.site? s.id = some s) :
    Shows settings d s stage (stage.draw settings s.id) := by
  have hmove := hw.move settings s.id
  have hdraw : stage.draw settings s.id =
      (stage.move settings s.id).1.frame settings (stage.session.live.issued + 1) := by
    simp only [Stage.draw, hw.move_eq, Option.toList_some, List.foldl_cons, List.foldl_nil]
  rw [hdraw]
  rw [hw.move_eq] at hmove ⊢
  -- The move changes neither what was shown last nor the events, so the frame decides.
  have hframe := hmove.frame_latest settings hs rfl
  exact ⟨hframe.watching, hframe.last, hframe.events⟩

/-- What the hovers make known depends on the element that was shown last. -/
theorem Watching.events_draws (hw : stage.Watching d) {targets : List Site}
    (hs : ∀ s ∈ targets, d.site? s.id = some s) :
    ((targets.map Site.id).foldl (Stage.draw settings) stage).session.events =
      stage.session.events ++
        (changes stage.session.live.last targets).map (shown settings d) := by
  induction targets generalizing stage with
  | nil => exact (List.append_nil _).symm
  | cons s rest ih =>
    have hdraw := hw.draw settings (hs s List.mem_cons_self)
    rw [List.map_cons, List.foldl_cons,
      ih hdraw.watching fun t ht => hs t (List.mem_cons_of_mem _ ht), hdraw.events, hdraw.last,
      changes_cons, List.map_append, List.append_assoc]
    split <;> rfl

/-! All moves before the frames -/

/-- A sweep takes as many tickets as it makes moves, and the last one is pending behind it. -/
theorem Watching.sweep (hw : stage.Watching d) (targets : List NodeId) :
    let (next, tickets) := stage.sweep settings targets
    next.Watching d ∧ next.session.events = stage.session.events ∧
      next.session.live.last = stage.session.live.last ∧
      tickets = List.range' (stage.session.live.issued + 1) targets.length ∧
      ∀ target ∈ targets.getLast?, next.session.live.pending =
        some (stage.session.live.issued + targets.length, target) := by
  induction targets generalizing stage with
  | nil => exact ⟨hw, rfl, rfl, rfl, nofun⟩
  | cons target rest ih =>
    have hmove := hw.move settings target
    simp only [Stage.sweep]
    rw [hw.move_eq] at hmove ⊢
    obtain ⟨hw', hevents, hlast, htickets, hpending⟩ := ih hmove
    refine ⟨hw', hevents, hlast, ?_, ?_⟩
    · rw [htickets]
      rfl
    · intro final hfinal
      cases rest with
      | nil =>
        cases hfinal
        rfl
      | cons other rest =>
        rw [hpending final hfinal, List.length_cons (a := target)]
        simp only [Option.some.injEq, Prod.mk.injEq, and_true]
        omega

/-- Of the frames of a sweep only the last one shows something. -/
theorem Watching.events_sweep (hw : stage.Watching d) (hlast : stage.session.live.last = none)
    {targets : List Site} (hs : ∀ s ∈ targets, d.site? s.id = some s) (hne : targets ≠ []) :
    let (next, tickets) := stage.sweep settings (targets.map Site.id)
    (tickets.foldl (Stage.frame settings) next).session.events =
      stage.session.events ++ [shown settings d (targets.getLast hne)] := by
  obtain ⟨hw', hevents, hlast', htickets, hpending⟩ := hw.sweep settings (targets.map Site.id)
  have hfinal := hpending (targets.getLast hne).id (by
    rw [List.getLast?_map, List.getLast?_eq_some_getLast hne]
    rfl)
  obtain ⟨n, hn⟩ := Nat.exists_eq_succ_of_ne_zero (mt List.length_eq_zero_iff.mp hne)
  rw [List.length_map, hn] at htickets hfinal
  rw [List.range'_1_concat] at htickets
  have holder : ∀ ticket ∈ List.range' (stage.session.live.issued + 1) n,
      ticket ≠ stage.session.live.issued + n.succ := by
    intro ticket ht
    rw [List.mem_range'_1] at ht
    omega
  have hframe := hw'.frame_latest settings (hs _ (List.getLast_mem hne)) hfinal
  have hticket : stage.session.live.issued + 1 + n = stage.session.live.issued + n.succ := by omega
  dsimp only
  rw [htickets, List.foldl_append, frames_stale settings hfinal holder, List.foldl_cons,
    List.foldl_nil, hticket, hframe.events, hevents, hlast', hlast, if_neg nofun]

end Stage

/-- Hovers that all hit something go from element to element as their selectors say. -/
theorem mapM_matched {d : Document} {hovers : List String} {targets : List Site}
    (hmatch : List.Forall₂ (fun text s => d.queryFirst text = .ok (some s)) hovers targets) :
    hovers.mapM d.matched = .ok targets := by
  induction hmatch with
  | nil => rfl
  | cons hs _ ih =>
    rw [List.mapM_cons, ih, Document.matched, hs]
    rfl

end Pinpoint.CommandLine.Replay

namespace Pinpoint.Document

open CommandLine

theorem queryFirst_of_parse {d : Document} {text : String} {g : Selector.Group}
    (h : Selector.parse text = .ok g) : d.queryFirst text = .ok (d.select g).head? := by
  rw [queryFirst, query, h]
  rfl

theorem mem_elements_of_queryFirst {d : Document} {text : String} {s : Site}
    (h : d.queryFirst text = .ok (some s)) : s ∈ d.elements := by
  cases hparse : Selector.parse text with
  | error fault =>
    rw [queryFirst, query, hparse] at h
    cases h
  | ok g =>
    rw [queryFirst_of_parse hparse] at h
    exact (List.mem_filter.mp (List.mem_of_head? (Except.ok.inj h))).1

theorem mem_elements_of_hovers {d : Document} {hovers : List String} {targets : List Site}
    (hmatch : List.Forall₂ (fun text s => d.queryFirst text = .ok (some s)) hovers targets) :
    ∀ s ∈ targets, s ∈ d.elements := by
  induction hmatch with
  | nil => exact nofun
  | cons hs _ ih => exact List.forall_mem_cons.mpr ⟨mem_elements_of_queryFirst hs, ih⟩

/-- Hovers over a fixture show every element that is not the one before, in order, or in a burst
only the last element. Each time the locator of the element is shown with its snippets. -/
theorem preview_replays_hovers (settings : Settings) {f : Fixture} {d : Document}
    (hd : ofFixture f = .ok d) {hovers : List String} {targets : List Site}
    (hmatch : List.Forall₂ (fun selector s => d.queryFirst selector = .ok (some s)) hovers targets)
    (hne : targets ≠ []) :
    let shown (s : Site) : Event :=
      let locator := (d.structural settings s).value
      .livePreview ⟨locator, d.preview settings (some s) locator settings.previewDialects⟩
    Replay.preview settings d hovers false = .ok ((Replay.changes none targets).map shown) ∧
      Replay.preview settings d hovers true = .ok [shown (targets.getLast hne)] := by
  intro shown
  have hwell : d.WellFormed := wellFormed_of_initial (.fixture hd)
  have hsites : ∀ s ∈ targets, d.site? s.id = some s := fun s hs =>
    hwell.site?_of_mem (mem_elements_of_hovers hmatch s hs)
  have hbegin := Replay.Stage.watching_begin settings d
  constructor
  · have hevents := hbegin.events_draws settings hsites
    rw [Replay.preview, Replay.mapM_matched hmatch]
    exact congrArg Except.ok hevents
  · have hevents := hbegin.events_sweep settings rfl hsites hne
    rw [Replay.preview, Replay.mapM_matched hmatch]
    exact congrArg Except.ok hevents

def searchFixture : Fixture :=
  let field : Markup := ⟨"input", .ofList [("aria-label", "Search"), ("class", "wide")], []⟩
  let go : Markup := ⟨"button", .empty, [.text "Go"]⟩
  ⟨none, none, none,
    ⟨"html", .empty, [.element ⟨"body", .empty, [.element field, .element go]⟩]⟩⟩

/-- The field is hovered twice, then its button and the field again. -/
theorem preview_replays_hovers_searchPage :
    let field := searchPage.elements.get ⟨2, by decide⟩
    let go := searchPage.elements.get ⟨3, by decide⟩
    let shown (s : Site) : Event :=
      let locator := (searchPage.structural .standard s).value
      .livePreview ⟨locator,
        searchPage.preview .standard (some s) locator Settings.standard.previewDialects⟩
    let hovers := ["input", ".wide", "button", "input"]
    Replay.preview .standard searchPage hovers false = .ok [shown field, shown go, shown field] ∧
      Replay.preview .standard searchPage hovers true = .ok [shown field] := by
  intro field go shown hovers
  let tagged (tag : String) : Selector.Compound := { Selector.Compound.any with tag := some tag }
  have hinput : searchPage.queryFirst "input" = .ok (some field) :=
    queryFirst_of_parse (g := [.single (tagged "input")]) (by decide +kernel)
  have hwide : searchPage.queryFirst ".wide" = .ok (some field) :=
    queryFirst_of_parse (g := [.single { Selector.Compound.any with classes := ["wide"] }])
      (by decide +kernel)
  have hbutton : searchPage.queryFirst "button" = .ok (some go) :=
    queryFirst_of_parse (g := [.single (tagged "button")]) (by decide +kernel)
  have hmatch : List.Forall₂ (fun text s => searchPage.queryFirst text = .ok (some s)) hovers
      [field, field, go, field] :=
    .cons hinput (.cons hwide (.cons hbutton (.cons hinput .nil)))
  exact preview_replays_hovers .standard (f := searchFixture) rfl hmatch (List.cons_ne_nil _ _)

end Pinpoint.Document
