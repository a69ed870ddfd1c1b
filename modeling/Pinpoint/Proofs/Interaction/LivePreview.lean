import Mathlib.Data.List.Nodup
import Pinpoint.Interaction.LivePreview

/-! The live preview over whole runs. Which frames it shows follows from its history alone: from
the moves, the frames that were run and where it was started and stopped. -/

namespace Pinpoint

inductive LiveRecord where
  | started
  | stopped
  | moved (target : NodeId) (ticket : Option Nat)
  | ran (d : Document) (ticket : Nat) (shown : Option PreviewFrame)

namespace LiveRecord

def isStart : LiveRecord → Bool
  | started => true
  | _ => false

def isStop : LiveRecord → Bool
  | stopped => true
  | _ => false

def issue? : LiveRecord → Option (Nat × NodeId)
  | moved target (some ticket) => some (ticket, target)
  | _ => none

def shown? : LiveRecord → Option Nat
  | ran _ ticket (some _) => some ticket
  | _ => none

end LiveRecord

abbrev LiveHistory := List LiveRecord

namespace LiveHistory

def sinceStop (h : LiveHistory) : LiveHistory := h.takeWhile fun r => ! r.isStop

def isRunning (h : LiveHistory) : Bool := h.sinceStop.any LiveRecord.isStart

def issues (h : LiveHistory) : List (Nat × NodeId) := h.filterMap LiveRecord.issue?

def tickets (h : LiveHistory) : List Nat := h.issues.map Prod.fst

def target? (h : LiveHistory) (ticket : Nat) : Option NodeId := h.issues.lookup ticket

/-- The ticket of the last frame that was shown since the last stop. -/
def lastShown? (h : LiveHistory) : Option Nat := h.sinceStop.findSome? LiveRecord.shown?

def shownTickets (h : LiveHistory) : List Nat := h.filterMap LiveRecord.shown?

structure Waiting (h : LiveHistory) (ticket : Nat) (target : NodeId) : Prop where
  latest : h.tickets.head? = some ticket
  unstopped : ticket ∈ tickets h.sinceStop
  fresh : ∀ d shown, .ran d ticket shown ∉ h
  target_eq : h.target? ticket = some target

/-- The history asks for a frame: the preview runs, the ticket waits for its frame, and its target
is an element of the document and not that of the frame shown last. -/
structure Due (h : LiveHistory) (d : Document) (ticket : Nat) (target : NodeId) : Prop
    extends h.Waiting ticket target where
  running : h.isRunning = true
  element : d.isElement target = true
  differs : h.lastShown?.bind h.target? ≠ some target

end LiveHistory

/-- The runs of a live preview. A frame may run any ticket that was issued before, on any
document. -/
inductive LiveRun (settings : Settings) : LiveHistory → LivePreview → Prop where
  | initial : LiveRun settings [] .initial
  | start {h p} : LiveRun settings h p → LiveRun settings (.started :: h) p.start.1
  | stop {h p} : LiveRun settings h p → LiveRun settings (.stopped :: h) p.stop
  | move {h p} (target : NodeId) : LiveRun settings h p →
    LiveRun settings (.moved target (p.move target).2 :: h) (p.move target).1
  | frame {h p} (d : Document) {ticket : Nat} : LiveRun settings h p → ticket ∈ h.tickets →
    LiveRun settings (.ran d ticket (p.frame settings d ticket).2 :: h)
      (p.frame settings d ticket).1

structure LivePreview.Agrees (p : LivePreview) (h : LiveHistory) : Prop where
  running : p.isRunning = h.isRunning
  issued : h.tickets = (List.range' 1 p.issued).reverse
  ran_issued : ∀ d ticket shown, .ran d ticket shown ∈ h → ticket ∈ h.tickets
  pending : ∀ ticket target, p.pending = some (ticket, target) ↔ h.Waiting ticket target
  pending_running : ∀ waiting, p.pending = some waiting → p.isRunning = true
  last : p.last = h.lastShown?.bind h.target?

/-! Histories -/

namespace LiveHistory

variable {h : LiveHistory}

theorem sinceStop_cons {r : LiveRecord} (hr : r.isStop = false) :
    sinceStop (r :: h) = r :: h.sinceStop := by
  simp [sinceStop, hr]

theorem isRunning_started : isRunning (.started :: h) = true := rfl

theorem isRunning_cons {r : LiveRecord} (hs : r.isStop = false) (hr : r.isStart = false) :
    isRunning (r :: h) = h.isRunning := by
  rw [isRunning, sinceStop_cons hs, List.any_cons, hr, Bool.false_or, isRunning]

theorem tickets_cons {r : LiveRecord} (hr : r.issue? = none) : tickets (r :: h) = h.tickets := by
  simp [tickets, issues, hr]

theorem target?_cons {r : LiveRecord} (hr : r.issue? = none) : target? (r :: h) = h.target? := by
  funext ticket
  simp [target?, issues, hr]

theorem tickets_moved (target : NodeId) (ticket : Nat) :
    tickets (.moved target (some ticket) :: h) = ticket :: h.tickets := rfl

theorem target?_moved_self (target : NodeId) (ticket : Nat) :
    target? (.moved target (some ticket) :: h) ticket = some target := by
  simp [target?, issues, LiveRecord.issue?]

theorem target?_moved_of_ne (target : NodeId) {ticket other : Nat} (hne : other ≠ ticket) :
    target? (.moved target (some ticket) :: h) other = h.target? other := by
  have hb : (other == ticket) = false := by simpa using hne
  simp [target?, issues, LiveRecord.issue?, List.lookup_cons, hb]

theorem tickets_subset {h' : LiveHistory} (hs : h ⊆ h') : h.tickets ⊆ h'.tickets :=
  List.map_subset _ (List.filterMap_subset _ hs)

theorem sinceStop_subset (h : LiveHistory) : h.sinceStop ⊆ h := (List.takeWhile_sublist _).subset

theorem mem_shownTickets {ticket : Nat} :
    ticket ∈ h.shownTickets ↔ ∃ d f, .ran d ticket (some f) ∈ h := by
  rw [shownTickets, List.mem_filterMap]
  constructor
  · rintro ⟨r, hr, hshown⟩
    unfold LiveRecord.shown? at hshown
    split at hshown
    · cases hshown
      exact ⟨_, _, hr⟩
    · cases hshown
  · rintro ⟨d, f, hr⟩
    exact ⟨_, hr, rfl⟩

theorem mem_shownTickets_of_lastShown? {ticket : Nat} (hs : h.lastShown? = some ticket) :
    ticket ∈ h.shownTickets := by
  obtain ⟨r, hr, hshown⟩ := List.exists_of_findSome?_eq_some hs
  exact List.mem_filterMap.mpr ⟨r, h.sinceStop_subset hr, hshown⟩

theorem sinceStop_append_stopped_subset (newer older : LiveHistory) :
    sinceStop (newer ++ .stopped :: older) ⊆ newer := by
  rw [sinceStop, List.takeWhile_append]
  split
  · simp [LiveRecord.isStop]
  · exact sinceStop_subset newer

theorem tickets_append_stopped (newer older : LiveHistory) :
    tickets (newer ++ .stopped :: older) = tickets newer ++ tickets older := by
  rw [tickets, issues, List.filterMap_append, List.map_append]
  rfl

theorem lastShown?_cons {r : LiveRecord} (hs : r.isStop = false) (hr : r.shown? = none) :
    lastShown? (r :: h) = h.lastShown? := by
  rw [lastShown?, sinceStop_cons hs, List.findSome?_cons_of_isNone (by simp [hr]), lastShown?]

/-- A ticket waits on as long as it is not run, no other is issued and the preview not stopped. -/
theorem waiting_cons_iff {r : LiveRecord} (hi : r.issue? = none) (hs : r.isStop = false)
    {ticket : Nat} {target : NodeId} (hr : ∀ d shown, r ≠ .ran d ticket shown) :
    Waiting (r :: h) ticket target ↔ h.Waiting ticket target := by
  constructor
  · rintro ⟨hl, hu, hf, ht⟩
    rw [tickets_cons hi] at hl
    rw [sinceStop_cons hs, tickets_cons hi] at hu
    rw [target?_cons hi] at ht
    exact ⟨hl, hu, fun d shown hm => hf d shown (List.mem_cons_of_mem _ hm), ht⟩
  · rintro ⟨hl, hu, hf, ht⟩
    refine ⟨?_, ?_, ?_, ?_⟩
    · rwa [tickets_cons hi]
    · rwa [sinceStop_cons hs, tickets_cons hi]
    · intro d shown hm
      rcases List.mem_cons.mp hm with he | hm
      · exact hr d shown he.symm
      · exact hf d shown hm
    · rwa [target?_cons hi]

theorem Waiting.not_waiting_ran {ticket : Nat} {target : NodeId} (hw : h.Waiting ticket target)
    (d : Document) (shown : Option PreviewFrame) (other : Nat) (aim : NodeId) :
    ¬ Waiting (.ran d ticket shown :: h) other aim := by
  rintro ⟨hl, -, hf, -⟩
  rw [tickets_cons rfl, hw.latest] at hl
  cases hl
  exact hf d shown List.mem_cons_self

end LiveHistory

/-! The steps -/

namespace LivePreview

variable {settings : Settings} {p : LivePreview} {h : LiveHistory}

/-- What the frame of a ticket does: nothing, or it honours the ticket and shows its target or
not. -/
theorem frame_cases (settings : Settings) (p : LivePreview) (d : Document) (ticket : Nat) :
    (p.frame settings d ticket = (p, none) ∧
      ¬ (p.isRunning = true ∧ ∃ target, p.pending = some (ticket, target))) ∨
    (p.isRunning = true ∧ ∃ target, p.pending = some (ticket, target) ∧
      (d.isElement target = false ∨ p.last = some target) ∧
      p.frame settings d ticket = ({ p with pending := none }, none)) ∨
    (p.isRunning = true ∧ ∃ target s, p.pending = some (ticket, target) ∧
      d.site? target = some s ∧ p.last ≠ some target ∧
      p.frame settings d ticket =
        ({ p with pending := none, last := some target }, some (d.previewFrame settings s))) := by
  unfold frame
  split
  · rename_i hp
    simp [hp]
  · rename_i latest target hp
    split
    · rename_i hc
      simp only [Bool.and_eq_true, decide_eq_true_eq] at hc
      obtain ⟨hr, rfl⟩ := hc
      right
      dsimp only
      split
      · rename_i hs
        exact .inl ⟨hr, target, hp, .inl (by simp [Document.isElement, hs]), rfl⟩
      · rename_i s hs
        split
        · rename_i hl
          exact .inl ⟨hr, target, hp, .inr hl, rfl⟩
        · rename_i hl
          exact .inr ⟨hr, target, s, hp, hs, hl, rfl⟩
    · rename_i hc
      refine .inl ⟨rfl, ?_⟩
      rintro ⟨hr, t, ht⟩
      rw [hp] at ht
      cases ht
      simp [hr] at hc

theorem agrees_initial : initial.Agrees [] where
  running := rfl
  issued := rfl
  ran_issued := by simp
  pending := by
    intro ticket target
    constructor
    · rintro ⟨⟩
    · rintro ⟨⟨⟩, -, -, -⟩
  pending_running := by rintro _ ⟨⟩
  last := rfl

theorem start_state (p : LivePreview) : p.start.1 = { p with state := .running } := by
  unfold start
  split
  · rename_i hr
    cases p
    simpa [isRunning] using hr
  · rfl

theorem Agrees.start (ha : p.Agrees h) : p.start.1.Agrees (.started :: h) where
  running := by
    rw [start_state, LiveHistory.isRunning_started]
    rfl
  issued := by
    rw [start_state]
    exact ha.issued
  ran_issued d ticket shown hm := by
    apply ha.ran_issued d ticket shown
    simpa using hm
  pending ticket target := by
    rw [start_state, LiveHistory.waiting_cons_iff rfl rfl (by simp)]
    exact ha.pending ticket target
  pending_running := by simp [start_state, isRunning]
  last := by
    rw [start_state, LiveHistory.target?_cons rfl]
    exact ha.last

theorem Agrees.stop (ha : p.Agrees h) : p.stop.Agrees (.stopped :: h) where
  running := rfl
  issued := ha.issued
  ran_issued d ticket shown hm := by
    apply ha.ran_issued d ticket shown
    simpa using hm
  pending ticket target := by
    constructor
    · rintro ⟨⟩
    · rintro ⟨-, ⟨⟩, -, -⟩
  pending_running := by rintro _ ⟨⟩
  last := rfl

theorem Agrees.le_issued (ha : p.Agrees h) {ticket : Nat} (ht : ticket ∈ h.tickets) :
    ticket ≤ p.issued := by
  rw [ha.issued, List.mem_reverse, List.mem_range'_1] at ht
  omega

/-- A record that changes nothing: it may run a ticket only if that does not wait. -/
theorem Agrees.idle (ha : p.Agrees h) {r : LiveRecord} (hi : r.issue? = none)
    (hstop : r.isStop = false) (hstart : r.isStart = false) (hshown : r.shown? = none)
    (hran : ∀ d ticket shown, r = .ran d ticket shown →
      ticket ∈ h.tickets ∧ ∀ target, ¬ h.Waiting ticket target) :
    p.Agrees (r :: h) where
  running := by
    rw [LiveHistory.isRunning_cons hstop hstart]
    exact ha.running
  issued := by
    rw [LiveHistory.tickets_cons hi]
    exact ha.issued
  ran_issued d ticket shown hm := by
    rw [LiveHistory.tickets_cons hi]
    rcases List.mem_cons.mp hm with he | hm
    · exact (hran d ticket shown he.symm).1
    · exact ha.ran_issued d ticket shown hm
  pending ticket target := by
    rw [ha.pending]
    by_cases hr : ∃ d shown, r = .ran d ticket shown
    · obtain ⟨d, shown, rfl⟩ := hr
      constructor
      · exact fun hw => absurd hw ((hran d ticket shown rfl).2 target)
      · exact fun hw => absurd List.mem_cons_self (hw.fresh d shown)
    · exact (LiveHistory.waiting_cons_iff hi hstop fun d shown he => hr ⟨d, shown, he⟩).symm
  pending_running := ha.pending_running
  last := by
    rw [LiveHistory.lastShown?_cons hstop hshown, LiveHistory.target?_cons hi]
    exact ha.last

theorem Agrees.move (ha : p.Agrees h) (target : NodeId) :
    (p.move target).1.Agrees (.moved target (p.move target).2 :: h) := by
  unfold LivePreview.move
  split
  · rename_i hr
    exact {
      running := by
        rw [LiveHistory.isRunning_cons rfl rfl]
        exact ha.running
      issued := by
        change _ = (List.range' 1 (p.issued + 1)).reverse
        rw [LiveHistory.tickets_moved, ha.issued, List.range'_1_concat, List.reverse_append,
          Nat.add_comm 1]
        rfl
      ran_issued := by
        intro d ticket shown hm
        rw [LiveHistory.tickets_moved]
        exact List.mem_cons_of_mem _ (ha.ran_issued d ticket shown (by simpa using hm))
      pending := by
        intro ticket aim
        constructor
        · intro he
          cases he
          refine ⟨rfl, List.mem_cons_self, ?_, LiveHistory.target?_moved_self _ _⟩
          intro d shown hm
          have hle := ha.le_issued (ha.ran_issued d _ shown (by simpa using hm))
          omega
        · rintro ⟨hl, -, -, ht⟩
          cases hl
          rw [LiveHistory.target?_moved_self] at ht
          cases ht
          rfl
      pending_running := fun _ _ => hr
      last := by
        rw [LiveHistory.lastShown?_cons rfl rfl]
        cases hs : h.lastShown? with
        | none => simpa [hs] using ha.last
        | some ticket =>
          obtain ⟨d, f, hm⟩ := LiveHistory.mem_shownTickets.mp
            (LiveHistory.mem_shownTickets_of_lastShown? hs)
          have hle := ha.le_issued (ha.ran_issued d ticket (some f) hm)
          rw [Option.bind_some, LiveHistory.target?_moved_of_ne _ (by omega)]
          simpa [hs] using ha.last }
  · exact ha.idle rfl rfl rfl rfl (by simp)

/-- The waiting ticket is run: nothing waits any more. -/
theorem Agrees.honour (ha : p.Agrees h) {ticket : Nat} {target : NodeId}
    (hw : h.Waiting ticket target) (d : Document) (shown : Option PreviewFrame)
    {last : Option NodeId}
    (hlast : last = (LiveHistory.lastShown? (.ran d ticket shown :: h)).bind h.target?) :
    { p with pending := none, last := last }.Agrees (.ran d ticket shown :: h) where
  running := by
    rw [LiveHistory.isRunning_cons rfl rfl]
    exact ha.running
  issued := ha.issued
  ran_issued d' other shown' hm := by
    rw [LiveHistory.tickets_cons rfl]
    rcases List.mem_cons.mp hm with he | hm
    · cases he
      exact LiveHistory.tickets_subset h.sinceStop_subset hw.unstopped
    · exact ha.ran_issued d' other shown' hm
  pending other aim := by
    constructor
    · rintro ⟨⟩
    · exact fun ho => absurd ho (hw.not_waiting_ran d shown other aim)
  pending_running := by rintro _ ⟨⟩
  last := by rw [LiveHistory.target?_cons rfl, hlast]

theorem Agrees.frame (ha : p.Agrees h) (d : Document) {ticket : Nat} (ht : ticket ∈ h.tickets) :
    (p.frame settings d ticket).1.Agrees
      (.ran d ticket (p.frame settings d ticket).2 :: h) := by
  rcases frame_cases settings p d ticket with
    ⟨hf, hno⟩ | ⟨hr, target, hp, hquiet, hf⟩ | ⟨hr, target, s, hp, hs, hl, hf⟩
  · rw [hf]
    refine ha.idle rfl rfl rfl rfl ?_
    rintro d' ticket' shown ⟨⟩
    refine ⟨ht, fun target hw => hno ?_⟩
    have hp := (ha.pending ticket target).mpr hw
    exact ⟨ha.pending_running _ hp, target, hp⟩
  · rw [hf]
    refine ha.honour ((ha.pending ticket target).mp hp) d none ?_
    rw [LiveHistory.lastShown?_cons rfl rfl]
    exact ha.last
  · have hw := (ha.pending ticket target).mp hp
    rw [hf]
    exact ha.honour hw d (some _) hw.target_eq.symm

end LivePreview

/-! Whole runs -/

namespace LiveRun

variable {settings : Settings} {h : LiveHistory} {p : LivePreview}

theorem agrees (hrun : LiveRun settings h p) : p.Agrees h := by
  induction hrun with
  | initial => exact LivePreview.agrees_initial
  | start _ ih => exact ih.start
  | stop _ ih => exact ih.stop
  | move target _ ih => exact ih.move target
  | frame d _ ht ih => exact ih.frame d ht

theorem frame_eq_some_iff (hrun : LiveRun settings h p) (d : Document) (ticket : Nat)
    (f : PreviewFrame) :
    (p.frame settings d ticket).2 = some f ↔
      ∃ target s, h.Due d ticket target ∧ d.site? target = some s ∧
        f = d.previewFrame settings s := by
  have ha := hrun.agrees
  rcases LivePreview.frame_cases settings p d ticket with
    ⟨hf, hno⟩ | ⟨-, target, hp, hquiet, hf⟩ | ⟨hr, target, s, hp, hs, hl, hf⟩
  · rw [hf]
    constructor
    · rintro ⟨⟩
    · rintro ⟨target, s, hdue, -, -⟩
      exact absurd ⟨ha.running ▸ hdue.running, target,
        (ha.pending ticket target).mpr hdue.toWaiting⟩ hno
  · rw [hf]
    constructor
    · rintro ⟨⟩
    · rintro ⟨target', s, hdue, -, -⟩
      have hp' := (ha.pending ticket target').mpr hdue.toWaiting
      rw [hp] at hp'
      cases hp'
      rcases hquiet with he | hl
      · exact absurd (hdue.element.symm.trans he) (by decide)
      · exact absurd (ha.last.symm.trans hl) hdue.differs
  · have hw := (ha.pending ticket target).mp hp
    rw [hf]
    constructor
    · rintro ⟨⟩
      refine ⟨target, s, ⟨hw, ha.running ▸ hr, ?_, ?_⟩, hs, rfl⟩
      · simp [Document.isElement, hs]
      · exact fun he => hl (ha.last.trans he)
    · rintro ⟨target', s', hdue, hs', rfl⟩
      have hp' := (ha.pending ticket target').mpr hdue.toWaiting
      rw [hp] at hp'
      cases hp'
      rw [hs] at hs'
      cases hs'
      rfl

theorem frame_isSome_iff (hrun : LiveRun settings h p) (d : Document) (ticket : Nat) :
    (p.frame settings d ticket).2.isSome = true ↔ ∃ target, h.Due d ticket target := by
  rw [Option.isSome_iff_exists]
  constructor
  · rintro ⟨f, hf⟩
    obtain ⟨target, s, hdue, -, -⟩ := (hrun.frame_eq_some_iff d ticket f).mp hf
    exact ⟨target, hdue⟩
  · rintro ⟨target, hdue⟩
    obtain ⟨s, hs⟩ := Option.isSome_iff_exists.mp hdue.element
    exact ⟨_, (hrun.frame_eq_some_iff d ticket _).mpr ⟨target, s, hdue, hs, rfl⟩⟩

theorem tickets_nodup (hrun : LiveRun settings h p) : h.tickets.Nodup := by
  rw [hrun.agrees.issued, List.nodup_reverse]
  exact List.nodup_range'

theorem shownTickets_nodup (hrun : LiveRun settings h p) : h.shownTickets.Nodup := by
  induction hrun with
  | initial => exact List.nodup_nil
  | start _ ih => exact ih
  | stop _ ih => exact ih
  | move _ _ ih => exact ih
  | @frame h p d ticket hrun _ ih =>
    cases hf : (p.frame settings d ticket).2 with
    | none => exact ih
    | some f =>
      obtain ⟨target, s, hdue, -, -⟩ := (hrun.frame_eq_some_iff d ticket f).mp hf
      refine List.nodup_cons.mpr ⟨fun hm => ?_, ih⟩
      obtain ⟨d', f', hr⟩ := LiveHistory.mem_shownTickets.mp hm
      exact hdue.fresh d' (some f') hr

/-- A stop ends every ticket that was issued before it. -/
theorem not_mem_shownTickets_of_stopped (hrun : LiveRun settings h p)
    {newer older : LiveHistory} (heq : h = newer ++ .stopped :: older) {ticket : Nat}
    (ht : ticket ∈ older.tickets) : ticket ∉ newer.shownTickets := by
  induction hrun generalizing newer with
  | initial => simp at heq
  | start _ ih | stop _ ih | move _ _ ih =>
    cases newer with
    | nil => simp [LiveHistory.shownTickets]
    | cons r newer =>
      rw [List.cons_append] at heq
      obtain ⟨rfl, rfl⟩ := List.cons.inj heq
      have hnewer := ih rfl
      exact hnewer
  | @frame h p d other hrun _ ih =>
    cases newer with
    | nil => simp [LiveHistory.shownTickets]
    | cons r newer =>
      rw [List.cons_append] at heq
      obtain ⟨rfl, rfl⟩ := List.cons.inj heq
      have hnewer := ih rfl
      cases hf : (p.frame settings d other).2 with
      | none => exact hnewer
      | some f =>
        obtain ⟨target, s, hdue, -, -⟩ := (hrun.frame_eq_some_iff d other f).mp hf
        refine List.not_mem_cons_of_ne_of_not_mem ?_ hnewer
        rintro rfl
        -- the ticket of a frame was issued after the last stop, hence not before this one too
        have hafter : ticket ∈ LiveHistory.tickets newer :=
          LiveHistory.tickets_subset (LiveHistory.sinceStop_append_stopped_subset newer older)
            hdue.unstopped
        have hnodup := hrun.tickets_nodup
        rw [LiveHistory.tickets_append_stopped] at hnodup
        exact List.disjoint_of_nodup_append hnodup hafter ht

/-- A live preview shows the frames that its history asks for and no others, each with the
structural locator of the element that its ticket was issued for. -/
theorem shows_what_history_asks (hrun : LiveRun settings h p) :
    (∀ d ticket, (p.frame settings d ticket).2.isSome = true ↔
      ∃ target, h.Due d ticket target) ∧
    (∀ d ticket f, (p.frame settings d ticket).2 = some f →
      ∃ s, (h.target? ticket).bind d.site? = some s ∧
        f.locator = (d.structural settings s).value) ∧
    h.shownTickets.Nodup ∧
    ∀ newer older : LiveHistory, h = newer ++ .stopped :: older →
      ∀ ticket ∈ older.tickets, ticket ∉ newer.shownTickets := by
  refine ⟨hrun.frame_isSome_iff, ?_, hrun.shownTickets_nodup, ?_⟩
  · intro d ticket f hf
    obtain ⟨target, s, hdue, hs, rfl⟩ := (hrun.frame_eq_some_iff d ticket f).mp hf
    exact ⟨s, by rw [hdue.target_eq, Option.bind_some, hs], rfl⟩
  · intro newer older heq ticket ht
    exact hrun.not_mem_shownTickets_of_stopped heq ht

def emptyPage : Document := .ofMarkup ⟨"html", .empty, [.element (.ofTag "body")]⟩

/-- After a restart the body is shown again, for its new ticket. -/
theorem shows_what_history_asks_restarted :
    let p := (LivePreview.initial.start.1.move 1).1
    let q := ((p.frame .standard emptyPage 1).1.stop.start.1.move 1).1
    (p.frame .standard emptyPage 1).2.isSome = true ∧
      (q.frame .standard emptyPage 2).2.isSome = true := by
  intro p q
  have hp : LiveRun .standard [.moved 1 (some 1), .started] p := .move 1 (.start .initial)
  have hq : LiveRun .standard [.moved 1 (some 2), .started, .stopped,
      .ran emptyPage 1 (p.frame .standard emptyPage 1).2, .moved 1 (some 1), .started] q :=
    .move 1 (.start (.stop (@LiveRun.frame .standard _ _ emptyPage 1 hp (by decide))))
  refine ⟨(shows_what_history_asks hp).1 _ _ |>.mpr ⟨1, ?_⟩,
    (shows_what_history_asks hq).1 _ _ |>.mpr ⟨1, ?_⟩⟩
  · exact ⟨⟨rfl, by decide, by simp, rfl⟩, rfl, by decide, by decide⟩
  · exact ⟨⟨rfl, by decide, by simp, rfl⟩, rfl, by decide, by decide⟩

end LiveRun

end Pinpoint
