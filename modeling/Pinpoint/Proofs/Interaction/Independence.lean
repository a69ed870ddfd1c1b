import Pinpoint.Proofs.Document.Content
import Pinpoint.Proofs.Interaction.Outlines
import Pinpoint.Proofs.Interaction.Session

/-! The picker and the live preview of a session do not meddle with each other. They share the
pointer and the document, and the picker paints outlines, which the live preview never looks at.
A run in which one of them is left out goes on the same for the other. -/

namespace Pinpoint

namespace Happening

def isPicking : Happening → Bool
  | request .startPick | request .stopPick | click _ => true
  | _ => false

def isPreviewing : Happening → Bool
  | request .startLive | request .stopLive | frame _ => true
  | _ => false

end Happening

def Answer.pick? : Answer → Option PickOutcome
  | pick outcome => outcome
  | _ => none

structure Tab.SamePreview (t t' : Tab) : Prop where
  live : t.session.live = t'.session.live
  document : t.document.SameUnpainted t'.document

structure Tab.SamePick (t t' : Tab) : Prop where
  picker : t.session.picker = t'.session.picker
  document : t.document = t'.document

structure Moment.SamePreview (m m' : Moment) : Prop where
  happening : m.happening = m'.happening
  answer : m.answer = m'.answer
  tab : m.tab.SamePreview m'.tab

structure Moment.SamePick (m m' : Moment) : Prop where
  happening : m.happening = m'.happening
  pick : m.answer.pick? = m'.answer.pick?
  tab : m.tab.SamePick m'.tab

theorem Tab.happening_step (settings : Settings) (reach : Reach) (t : Tab) (h : Happening) :
    (t.step settings reach h).happening = h := by
  cases h <;> rfl

/-- The steps that are kept agree, and those that are left out do not matter to what is kept. -/
theorem Tab.trace_filter {settings : Settings} {reach : Reach} {Same : Tab → Tab → Prop}
    {Agree : Moment → Moment → Prop} {kept : Happening → Bool}
    (hkept : ∀ t t' h, Same t t' → kept h = true →
      Agree (t.step settings reach h) (t'.step settings reach h))
    (htab : ∀ m m', Agree m m' → Same m.tab m'.tab)
    (hskip : ∀ t t' h, Same t t' → kept h = false → Same (t.step settings reach h).tab t')
    {t t' : Tab} (ht : Same t t') (happenings : List Happening) :
    List.Forall₂ Agree
      ((t.trace settings (fun _ => reach) happenings).filter fun m => kept m.happening)
      (t'.trace settings (fun _ => reach) (happenings.filter kept)) := by
  induction happenings generalizing t t' with
  | nil => exact .nil
  | cons h rest ih =>
    rw [trace]
    by_cases hk : kept h = true
    · have hstep := hkept t t' h ht hk
      rw [List.filter_cons_of_pos (by rwa [happening_step]), List.filter_cons_of_pos hk, trace]
      exact .cons hstep (ih (htab _ _ hstep))
    · -- only the longer run takes this step, so the shorter one must be found where it was
      rw [List.filter_cons_of_neg (by rwa [happening_step]), List.filter_cons_of_neg hk]
      exact ih (hskip t t' h ht (Bool.not_eq_true _ |>.mp hk))

/-! Painting -/

theorem OutlineRegistry.sameUnpainted_clear (r : OutlineRegistry) (d : Document) :
    d.SameUnpainted (r.clear d).2.1 := by
  -- the restored document changes from entry to entry, so the induction is over any of them
  have hfold : ∀ (entries : List (NodeId × Option String)) (done : Document × Nat),
      done.1.SameUnpainted (entries.foldl restore done).1 := by
    intro entries
    induction entries with
    | nil => exact fun done => .refl done.1
    | cons e rest ih =>
      intro done
      refine .trans ?_ (ih (restore done e))
      rw [restore_fst]
      split
      · exact ⟨⟨rfl, rfl, rfl, rfl, rfl⟩, rfl⟩
      · exact .refl done.1
  exact hfold r.entries (d, 0)

theorem OutlineRegistry.sameUnpainted_apply (r : OutlineRegistry) (d : Document) (id : NodeId)
    (style : String) : d.SameUnpainted (r.apply d id style).2.1 := by
  by_cases hp : d.Paintable id
  · rw [apply_of_paintable hp]
    exact ⟨⟨rfl, rfl, rfl, rfl, rfl⟩, rfl⟩
  · rw [apply_of_not_paintable hp]
    exact .refl d

namespace Picker

variable (settings : Settings) (p : Picker) (d : Document) (target : NodeId)

theorem sameUnpainted_move : d.SameUnpainted (p.move settings d target).2 := by
  unfold Picker.move
  split
  · exact (p.outlines.sameUnpainted_clear d).trans
      (OutlineRegistry.sameUnpainted_apply _ _ target settings.outlineStyle)
  · exact .refl d

theorem sameUnpainted_click : d.SameUnpainted (p.click settings d target).2.1 := by
  unfold Picker.click
  split
  · exact p.outlines.sameUnpainted_clear d
  · exact .refl d

theorem sameUnpainted_stop : d.SameUnpainted (p.stop d).2.1 := by
  unfold Picker.stop
  split
  · exact p.outlines.sameUnpainted_clear d
  · exact .refl d

end Picker

namespace Document

variable {d d' : Document} (settings : Settings)

theorem SameContent.frame_eq (h : d.SameContent d') (p : LivePreview) (ticket : Nat) :
    p.frame settings d ticket = p.frame settings d' ticket := by
  simp only [LivePreview.frame, h.site?_eq, h.previewFrame_eq]

theorem SameUnpainted.snippetText_eq (h : d.SameUnpainted d') (selector : Option String)
    (dialect : String) :
    Session.snippetText settings d selector dialect =
      Session.snippetText settings d' selector dialect := by
  simp only [Session.snippetText, h.subject?_eq, h.resolve_eq, h.strategy_eq]

theorem SameUnpainted.actionText_eq (h : d.SameUnpainted d') (selector : Option String)
    (dialect : String) (verb : Verb) :
    Session.actionText settings d selector dialect verb =
      Session.actionText settings d' selector dialect verb := by
  simp only [Session.actionText, h.subject?_eq, h.resolve_eq]

theorem SameUnpainted.previewAnswer_eq (h : d.SameUnpainted d') (selector : Option String) :
    Session.previewAnswer settings d selector = Session.previewAnswer settings d' selector := by
  simp only [Session.previewAnswer, h.subject?_eq, h.resolve_eq, h.preview_eq]

end Document

/-! Steps -/

namespace Tab

variable {settings : Settings} {reach : Reach} {t t' : Tab} {h : Happening}

theorem SamePreview.step (ht : t.SamePreview t') (hk : h.isPicking = false) :
    (t.step settings reach h).SamePreview (t'.step settings reach h) := by
  obtain ⟨⟨picker, live, events, clipboard⟩, d⟩ := t
  obtain ⟨⟨picker', live', events', clipboard'⟩, d'⟩ := t'
  obtain ⟨rfl, hd⟩ := ht
  cases h with
  | request r =>
    cases r with
    | startPick => cases hk
    | stopPick => cases hk
    | ping => exact ⟨rfl, rfl, rfl, hd⟩
    | startLive => exact ⟨rfl, rfl, rfl, hd⟩
    | stopLive => exact ⟨rfl, rfl, rfl, hd⟩
    | scanPage =>
      refine ⟨rfl, ?_, rfl, hd⟩
      simp only [Tab.step, Session.handle, hd.testCases_eq settings]
    | copySnippet selector dialect =>
      simp only [Tab.step, Session.handle, Session.answerSnippet_eq, hd.snippetText_eq]
      exact ⟨rfl, rfl, rfl, hd⟩
    | copyAction selector dialect verb =>
      simp only [Tab.step, Session.handle, Session.answerSnippet_eq, hd.actionText_eq]
      exact ⟨rfl, rfl, rfl, hd⟩
    | preview selector =>
      refine ⟨rfl, ?_, rfl, hd⟩
      simp only [Tab.step, Session.handle, hd.previewAnswer_eq]
  | move target =>
    -- the pickers may differ, and each paints its own document
    refine ⟨rfl, rfl, rfl, ?_⟩
    have hleft := picker.sameUnpainted_move settings d target
    exact hleft.symm.trans (hd.trans (picker'.sameUnpainted_move settings d' target))
  | click target => cases hk
  | frame ticket =>
    simp only [Tab.step, Session.frame_eq, hd.frame_eq]
    split <;> exact ⟨rfl, rfl, rfl, hd⟩
  | edit e => exact ⟨rfl, rfl, rfl, hd.perform e⟩

theorem SamePreview.skip (ht : t.SamePreview t') (hk : h.isPicking = true) :
    (t.step settings reach h).tab.SamePreview t' := by
  obtain ⟨hlive, hd⟩ := ht
  cases h with
  | request r =>
    cases r with
    | startPick => exact ⟨hlive, hd⟩
    | stopPick => exact ⟨hlive, (t.session.picker.sameUnpainted_stop t.document).symm.trans hd⟩
    | _ => cases hk
  | click target =>
    have hclick := t.session.picker.sameUnpainted_click settings t.document target
    simp only [Tab.step, Session.click_eq]
    split <;> exact ⟨hlive, hclick.symm.trans hd⟩
  | _ => cases hk

theorem SamePick.step (ht : t.SamePick t') (hk : h.isPreviewing = false) :
    (t.step settings reach h).SamePick (t'.step settings reach h) := by
  obtain ⟨⟨picker, live, events, clipboard⟩, d⟩ := t
  obtain ⟨⟨picker', live', events', clipboard'⟩, d'⟩ := t'
  obtain ⟨rfl, rfl⟩ := ht
  cases h with
  | request r =>
    cases r with
    | startLive => cases hk
    | stopLive => cases hk
    | copySnippet selector dialect =>
      simp only [Tab.step, Session.handle, Session.answerSnippet_eq]
      exact ⟨rfl, rfl, rfl, rfl⟩
    | copyAction selector dialect verb =>
      simp only [Tab.step, Session.handle, Session.answerSnippet_eq]
      exact ⟨rfl, rfl, rfl, rfl⟩
    | _ => exact ⟨rfl, rfl, rfl, rfl⟩
  | move target => exact ⟨rfl, rfl, rfl, rfl⟩
  | click target =>
    simp only [Tab.step, Session.click_eq]
    split <;> exact ⟨rfl, rfl, rfl, rfl⟩
  | frame ticket => cases hk
  | edit e => exact ⟨rfl, rfl, rfl, rfl⟩

theorem SamePick.skip (ht : t.SamePick t') (hk : h.isPreviewing = true) :
    (t.step settings reach h).tab.SamePick t' := by
  obtain ⟨hpicker, hd⟩ := ht
  cases h with
  | request r =>
    cases r with
    | startLive => exact ⟨hpicker, hd⟩
    | stopLive => exact ⟨hpicker, hd⟩
    | _ => cases hk
  | frame ticket =>
    simp only [Tab.step, Session.frame_eq]
    split <;> exact ⟨hpicker, hd⟩
  | _ => cases hk

theorem SamePreview.trace (ht : t.SamePreview t') (happenings : List Happening) :
    List.Forall₂ Moment.SamePreview
      ((t.trace settings (fun _ => reach) happenings).filter fun m => ! m.happening.isPicking)
      (t'.trace settings (fun _ => reach) (happenings.filter fun h => ! h.isPicking)) := by
  refine @trace_filter settings reach Tab.SamePreview _ (fun h => ! h.isPicking)
    ?_ (fun _ _ hm => hm.tab) ?_ t t' ht happenings
  · intro t t' h ht hk
    exact ht.step (by simpa using hk)
  · intro t t' h ht hk
    exact ht.skip (by simpa using hk)

theorem SamePick.trace (ht : t.SamePick t') (happenings : List Happening) :
    List.Forall₂ Moment.SamePick
      ((t.trace settings (fun _ => reach) happenings).filter fun m => ! m.happening.isPreviewing)
      (t'.trace settings (fun _ => reach) (happenings.filter fun h => ! h.isPreviewing)) := by
  refine @trace_filter settings reach Tab.SamePick _ (fun h => ! h.isPreviewing)
    ?_ (fun _ _ hm => hm.tab) ?_ t t' ht happenings
  · intro t t' h ht hk
    exact ht.step (by simpa using hk)
  · intro t t' h ht hk
    exact ht.skip (by simpa using hk)

/-- As long as observer and clipboard do not change their minds, a run without the picker goes on
the same for the live preview and for all requests, and a run without the live preview goes on the
same for the picker and the outlines. -/
theorem picker_and_preview_independent (settings : Settings) (reach : Reach) (t : Tab)
    (happenings : List Happening) :
    let moments := t.trace settings (fun _ => reach)
    List.Forall₂ Moment.SamePreview
        ((moments happenings).filter fun m => ! m.happening.isPicking)
        (moments (happenings.filter fun h => ! h.isPicking)) ∧
      List.Forall₂ Moment.SamePick
        ((moments happenings).filter fun m => ! m.happening.isPreviewing)
        (moments (happenings.filter fun h => ! h.isPreviewing)) :=
  ⟨SamePreview.trace ⟨rfl, .refl t.document⟩ happenings, SamePick.trace ⟨rfl, rfl⟩ happenings⟩

end Tab

end Pinpoint
