import Mathlib.Data.List.Forall2
import Pinpoint.Interaction.Session
import Pinpoint.Proofs.Document.Reachable

/-! Sessions over whole runs. What the observer and the clipboard got is what the answers say they
got, and whether they refuse shows nowhere else. -/

namespace Pinpoint

structure Tab where
  session : Session
  document : Document

inductive Happening where
  | request (r : Request)
  | move (target : NodeId)
  | click (target : NodeId)
  | frame (ticket : Nat)
  | edit (e : Edit)

inductive Answer where
  | response (r : Response)
  | ticket (ticket : Option Nat)
  | pick (outcome : Option PickOutcome)
  | frame (outcome : Option FrameOutcome)
  | edited
  deriving DecidableEq, Repr

structure Moment where
  happening : Happening
  answer : Answer
  tab : Tab

namespace Answer

def unflagged : Answer → Answer
  | response (.snippet text _) => response (.snippet text false)
  | pick outcome => pick (outcome.map fun o => ⟨o.result, false, false⟩)
  | frame outcome => frame (outcome.map fun o => ⟨o.frame, false⟩)
  | answer => answer

def delivered? : Answer → Option Event
  | pick (some ⟨result, true, _⟩) => some (.picked result)
  | frame (some ⟨shown, true⟩) => some (.livePreview shown)
  | _ => none

def copied? : Answer → Option String
  | response (.snippet text true) => some text
  | pick (some ⟨result, _, true⟩) => some result.locator
  | _ => none

end Answer

namespace Tab

def opened (d : Document) : Tab := ⟨.initial, d⟩

def step (settings : Settings) (reach : Reach) (t : Tab) (h : Happening) : Moment :=
  match h with
  | .request r =>
    let (session, document, response) := t.session.handle settings reach t.document r
    ⟨h, .response response, session, document⟩
  | .move target =>
    let (session, document, ticket) := t.session.move settings t.document target
    ⟨h, .ticket ticket, session, document⟩
  | .click target =>
    let (session, document, outcome) := t.session.click settings reach t.document target
    ⟨h, .pick outcome, session, document⟩
  | .frame ticket =>
    let (session, outcome) := t.session.frame settings reach t.document ticket
    ⟨h, .frame outcome, session, t.document⟩
  | .edit e => ⟨h, .edited, t.session, t.document.perform e⟩

/-- The moments of a run. A step sends one event and one text at most, so what `reach n` says of
step `n` decides which deliveries of a run succeed. -/
def trace (settings : Settings) (reach : Nat → Reach) (t : Tab) : List Happening → List Moment
  | [] => []
  | h :: rest =>
    let m := t.step settings (reach 0) h
    m :: m.tab.trace settings (fun n => reach (n + 1)) rest

def after (t : Tab) (moments : List Moment) : Tab := (moments.getLast?.map Moment.tab).getD t

end Tab

/-! The operations of a session with what they do to the observer and the clipboard -/

namespace Session

variable (settings : Settings) (reach : Reach) (s : Session) (d : Document)

theorem emit_eq (e : Event) :
    s.emit reach e =
      ({ s with events := s.events ++ if reach.observer then [e] else [] }, reach.observer) := by
  cases h : reach.observer with
  | false => simp [emit, h]
  | true => simp [emit, h]

theorem copy_eq (text : String) :
    s.copy reach text =
      ({ s with clipboard := if reach.clipboard then some text else s.clipboard },
        reach.clipboard) := by
  cases h : reach.clipboard with
  | false => simp [copy, h]
  | true => simp [copy, h]

/-- An empty snippet is not copied. -/
def copies (reach : Reach) (text : String) : Bool := text ≠ "" && reach.clipboard

theorem answerSnippet_eq (text : String) :
    s.answerSnippet reach text =
      ({ s with clipboard := if copies reach text then some text else s.clipboard },
        .snippet text (copies reach text)) := by
  by_cases h : text = ""
  · simp [answerSnippet, copies, h]
  · simp [answerSnippet, copies, copy_eq, h]

theorem click_eq (target : NodeId) :
    s.click settings reach d target =
      let (picker, d', result) := s.picker.click settings d target
      match result with
      | none => ({ s with picker }, d', none)
      | some result =>
        (⟨picker, s.live, s.events ++ if reach.observer then [.picked result] else [],
            if reach.clipboard then some result.locator else s.clipboard⟩,
          d', some ⟨result, reach.observer, reach.clipboard⟩) := by
  unfold click
  cases h : (s.picker.click settings d target).2.2 with
  | none => simp only [h]
  | some result => simp only [h, copy_eq, emit_eq]

theorem frame_eq (ticket : Nat) :
    s.frame settings reach d ticket =
      let (live, frame) := s.live.frame settings d ticket
      match frame with
      | none => ({ s with live }, none)
      | some frame =>
        (⟨s.picker, live, s.events ++ if reach.observer then [.livePreview frame] else [],
            s.clipboard⟩,
          some ⟨frame, reach.observer⟩) := by
  unfold Session.frame
  cases h : (s.live.frame settings d ticket).2 with
  | none => simp only [h]
  | some shown => simp only [h, emit_eq]

end Session

/-! Refusals -/

structure Tab.AgreesApartFromDeliveries (t t' : Tab) : Prop where
  picker : t.session.picker = t'.session.picker
  live : t.session.live = t'.session.live
  document : t.document = t'.document

structure Moment.AgreesApartFromDeliveries (m m' : Moment) : Prop where
  happening : m.happening = m'.happening
  answer : m.answer.unflagged = m'.answer.unflagged
  tab : m.tab.AgreesApartFromDeliveries m'.tab

namespace Tab

variable (settings : Settings)

theorem AgreesApartFromDeliveries.step {t t' : Tab} (ht : t.AgreesApartFromDeliveries t')
    (reach reach' : Reach) (h : Happening) :
    (t.step settings reach h).AgreesApartFromDeliveries (t'.step settings reach' h) := by
  obtain ⟨⟨picker, live, events, clipboard⟩, d⟩ := t
  obtain ⟨⟨picker', live', events', clipboard'⟩, d'⟩ := t'
  obtain ⟨rfl, rfl, rfl⟩ := ht
  cases h with
  | request r =>
    cases r with
    | copySnippet selector dialect =>
      -- both answer the same text, and only `copied` can differ, which `unflagged` hides
      simp only [Tab.step, Session.handle, Session.answerSnippet_eq]
      exact ⟨rfl, rfl, rfl, rfl, rfl⟩
    | copyAction selector dialect verb =>
      simp only [Tab.step, Session.handle, Session.answerSnippet_eq]
      exact ⟨rfl, rfl, rfl, rfl, rfl⟩
    | _ => exact ⟨rfl, rfl, rfl, rfl, rfl⟩
  | move target => exact ⟨rfl, rfl, rfl, rfl, rfl⟩
  | click target =>
    simp only [Tab.step, Session.click_eq]
    split <;> exact ⟨rfl, rfl, rfl, rfl, rfl⟩
  | frame ticket =>
    simp only [Tab.step, Session.frame_eq]
    split <;> exact ⟨rfl, rfl, rfl, rfl, rfl⟩
  | edit e => exact ⟨rfl, rfl, rfl, rfl, rfl⟩

theorem AgreesApartFromDeliveries.trace {t t' : Tab} (ht : t.AgreesApartFromDeliveries t')
    (reach reach' : Nat → Reach) (happenings : List Happening) :
    List.Forall₂ Moment.AgreesApartFromDeliveries (t.trace settings reach happenings)
      (t'.trace settings reach' happenings) := by
  induction happenings generalizing t t' reach reach' with
  | nil => exact .nil
  | cons h rest ih =>
    have hstep := ht.step settings (reach 0) (reach' 0) h
    exact .cons hstep (ih hstep.tab _ _)

/-- Whatever the observer and the clipboard refuse, the run goes on the same: documents, picker and
live preview after each step, and all answers but their word on deliveries. -/
theorem refusals_change_nothing_else (settings : Settings) (d : Document)
    (reach reach' : Nat → Reach) (happenings : List Happening) :
    List.Forall₂ Moment.AgreesApartFromDeliveries ((opened d).trace settings reach happenings)
      ((opened d).trace settings reach' happenings) :=
  AgreesApartFromDeliveries.trace settings ⟨rfl, rfl, rfl⟩ reach reach' happenings

/-! Accounts -/

/-- The moment adds to the events and replaces the copied text as its answer says. -/
structure Accounts (before : Session) (m : Moment) : Prop where
  events : m.tab.session.events = before.events ++ m.answer.delivered?.toList
  clipboard : m.tab.session.clipboard = m.answer.copied?.or before.clipboard

theorem accounts_snippet (h : Happening) (s : Session) (d : Document) (reach : Reach)
    (text : String) :
    Accounts s ⟨h, .response (s.answerSnippet reach text).2, (s.answerSnippet reach text).1, d⟩ := by
  rw [Session.answerSnippet_eq]
  cases Session.copies reach text with
  | false => exact ⟨(List.append_nil _).symm, rfl⟩
  | true => exact ⟨(List.append_nil _).symm, rfl⟩

theorem accounts_step (t : Tab) (reach : Reach) (h : Happening) :
    Accounts t.session (t.step settings reach h) := by
  cases h with
  | request r =>
    cases r with
    | copySnippet selector dialect => exact accounts_snippet ..
    | copyAction selector dialect verb => exact accounts_snippet ..
    | _ => exact ⟨(List.append_nil _).symm, rfl⟩
  | move target => exact ⟨(List.append_nil _).symm, rfl⟩
  | click target =>
    obtain ⟨observer, clipboard⟩ := reach
    simp only [Tab.step, Session.click_eq]
    split
    · exact ⟨(List.append_nil _).symm, rfl⟩
    · cases observer <;> cases clipboard <;> exact ⟨rfl, rfl⟩
  | frame ticket =>
    obtain ⟨observer, clipboard⟩ := reach
    simp only [Tab.step, Session.frame_eq]
    split
    · exact ⟨(List.append_nil _).symm, rfl⟩
    · cases observer with
      | false => exact ⟨rfl, rfl⟩
      | true => exact ⟨rfl, rfl⟩
  | edit e => exact ⟨(List.append_nil _).symm, rfl⟩

theorem after_cons (t : Tab) (m : Moment) (rest : List Moment) :
    t.after (m :: rest) = m.tab.after rest := by
  cases h : rest.getLast? <;> simp [after, List.getLast?_cons, h]

theorem accounts_trace (t : Tab) (reach : Nat → Reach) (happenings : List Happening) :
    let moments := t.trace settings reach happenings
    let answers := moments.map Moment.answer
    (t.after moments).session.events =
        t.session.events ++ answers.filterMap Answer.delivered? ∧
      (t.after moments).session.clipboard =
        (answers.filterMap Answer.copied?).getLast?.or t.session.clipboard := by
  induction happenings generalizing t reach with
  | nil => exact ⟨(List.append_nil _).symm, rfl⟩
  | cons h rest ih =>
    have hstep := accounts_step settings t (reach 0) h
    obtain ⟨hevents, hclipboard⟩ := ih (t.step settings (reach 0) h).tab fun n => reach (n + 1)
    dsimp only [trace] at *
    rw [after_cons, hevents, hclipboard, hstep.events, hstep.clipboard, List.map_cons]
    constructor
    · -- the event of the first step, if there is one, stands before those of the rest
      cases hd : (t.step settings (reach 0) h).answer.delivered? with
      | none => rw [List.filterMap_cons_none hd, Option.toList_none, List.append_nil]
      | some e => rw [List.filterMap_cons_some hd, Option.toList_some, List.append_assoc]; rfl
    · -- the text of the first step stays only if the rest copies none
      cases hc : (t.step settings (reach 0) h).answer.copied? with
      | none => rw [List.filterMap_cons_none hc, Option.none_or]
      | some text =>
        rw [List.filterMap_cons_some hc, List.getLast?_cons, Option.some_or, Option.some_or,
          Option.or_some]

theorem trace_take (t : Tab) (reach : Nat → Reach) (happenings : List Happening) (n : Nat) :
    (t.trace settings reach happenings).take n = t.trace settings reach (happenings.take n) := by
  induction happenings generalizing t reach n with
  | nil => rw [trace, List.take_nil, List.take_nil, trace]
  | cons h rest ih =>
    cases n with
    | zero => rw [List.take_zero, List.take_zero, trace]
    | succ n => rw [trace, List.take_succ_cons, List.take_succ_cons, trace, ih]

/-- At every point of a run the observer has the events of the answers that claim a delivery, in
order and no others, and the clipboard has the text of the last answer that claims a copy. -/
theorem answers_account_for_deliveries (settings : Settings) (d : Document) (reach : Nat → Reach)
    (happenings : List Happening) (n : Nat) :
    let moments := ((opened d).trace settings reach happenings).take n
    let answers := moments.map Moment.answer
    ((opened d).after moments).session.events = answers.filterMap Answer.delivered? ∧
      ((opened d).after moments).session.clipboard =
        (answers.filterMap Answer.copied?).getLast? := by
  intro moments answers
  have hmoments : moments = (opened d).trace settings reach (happenings.take n) :=
    trace_take settings (opened d) reach happenings n
  obtain ⟨hevents, hclipboard⟩ :=
    accounts_trace settings (opened d) reach (happenings.take n)
  rw [← hmoments] at hevents hclipboard
  refine ⟨hevents.trans (List.nil_append _), hclipboard.trans ?_⟩
  exact Option.or_none

/-- The observer takes nothing, the clipboard first a locator and then a snippet. -/
example :
    let body : Markup := .ofTag "body"
    let page := Document.ofMarkup ⟨"html", .empty, [.element body]⟩
    let moments := (opened page).trace .standard (fun _ => ⟨false, true⟩)
      [.request .startPick, .click 1, .request (.copySnippet (some "a") "css")]
    moments.map (fun m => (m.answer.delivered?, m.answer.copied?)) =
      [(none, none), (none, some "body"), (none, some "a")] := by
  decide +kernel

end Tab

end Pinpoint
