import Pinpoint.Proofs.Document.Links
import Pinpoint.Proofs.Interaction.Outlines

/-! A registry that outlines nodes for a while and is then cleared. It may meet any nodes, some of
them more than once, and nodes may leave the tree in between: what is still there gets back the
outline it had, in whatever order the registry gives its outlines back. -/

namespace Pinpoint

inductive OutlineStep where
  | apply (id : NodeId) (style : String)
  | edit (e : Edit) (quiet : ∀ id value, e ≠ .setOutline id value)

def OutlineStep.perform (now : OutlineRegistry × Document) :
    OutlineStep → OutlineRegistry × Document
  | .apply id style => ((now.1.apply now.2 id style).1, (now.1.apply now.2 id style).2.1)
  | .edit e _ => (now.1, now.2.perform e)

namespace Document

variable {d : Document}

theorem painted_comm {i j : NodeId} (h : i ≠ j) (v w : String) :
    (d.painted i v).painted j w = (d.painted j w).painted i v := by
  unfold painted
  congr 1
  funext n
  by_cases hi : n = i
  · have hj : n ≠ j := by
      rintro rfl
      exact h hi.symm
    simp [hi, h]
  · simp [hi]

end Document

namespace OutlineRegistry

section Restore

variable {d : Document}

theorem paintable_painted {id : NodeId} {value : String} {other : NodeId} :
    (d.painted id value).Paintable other ↔ d.Paintable other := Iff.rfl

/-- Giving back two different nodes can be done either way round. -/
theorem restore_comm (done : Document × Nat) {e f : NodeId × Option String} (h : e.1 ≠ f.1) :
    restore (restore done e) f = restore (restore done f) e := by
  obtain ⟨d, n⟩ := done
  by_cases he : d.Paintable e.1
  · by_cases hf : d.Paintable f.1
    · rw [restore_of_paintable he, restore_of_paintable hf,
        restore_of_paintable (paintable_painted.mpr hf),
        restore_of_paintable (paintable_painted.mpr he), Document.painted_comm h]
    · rw [restore_of_paintable he, restore_of_not_paintable hf, restore_of_paintable he,
        restore_of_not_paintable (mt paintable_painted.mp hf)]
  · by_cases hf : d.Paintable f.1
    · rw [restore_of_not_paintable he, restore_of_paintable hf,
        restore_of_not_paintable (mt paintable_painted.mp he)]
    · rw [restore_of_not_paintable he, restore_of_not_paintable hf, restore_of_not_paintable he]

theorem foldl_restore_perm {order entries : List (NodeId × Option String)}
    (h : order.Perm entries) (hn : (entries.map Prod.fst).Nodup) (done : Document × Nat) :
    order.foldl restore done = entries.foldl restore done := by
  have hn' : (order.map Prod.fst).Nodup := (h.map Prod.fst).nodup_iff.mpr hn
  refine h.foldl_eq' (fun e he f hf z => ?_) done
  by_cases hef : e.1 = f.1
  · rw [List.inj_on_of_nodup_map hn' he hf hef]
  · exact restore_comm z hef

theorem snd_foldl_restore (entries : List (NodeId × Option String)) (d : Document) (n : Nat) :
    (entries.foldl restore (d, n)).2 = n + entries.countP fun e => decide (d.Paintable e.1) := by
  induction entries generalizing d n with
  | nil => rfl
  | cons e entries ih =>
    rw [List.foldl_cons]
    by_cases h : d.Paintable e.1
    · rw [restore_of_paintable h, ih, List.countP_cons_of_pos (by simpa using h)]
      simp only [paintable_painted]
      omega
    · rw [restore_of_not_paintable h, ih, List.countP_cons_of_neg (by simpa using h)]

end Restore

/-- The registry holds elements, each once and with the outline it had at first, and all other
nodes still have the outline they had. -/
structure Tracks (before : NodeId → Option String) (r : OutlineRegistry) (d : Document) :
    Prop where
  wellFormed : d.WellFormed
  once : (r.entries.map Prod.fst).Nodup
  elements : ∀ e ∈ r.entries, d.isElement e.1 = true
  remembered : ∀ e ∈ r.entries, e.2 = before e.1
  outside : ∀ id, r.contains id = false → d.outline id = before id

namespace Tracks

variable {before : NodeId → Option String} {r : OutlineRegistry} {d : Document}

theorem empty (h : d.WellFormed) : Tracks d.outline .empty d where
  wellFormed := h
  once := List.nodup_nil
  elements := nofun
  remembered := nofun
  outside _ _ := rfl

theorem contains_remember {id other : NodeId} :
    (r.remember d id).contains other = false ↔ other ≠ id ∧ r.contains other = false := by
  unfold remember
  by_cases hc : r.contains id = true
  · rw [if_pos hc]
    constructor
    · intro h
      refine ⟨?_, h⟩
      rintro rfl
      rw [hc] at h
      cases h
    · exact And.right
  · rw [if_neg hc]
    simp only [contains_eq_false, List.forall_mem_append, List.forall_mem_singleton]
    constructor
    · rintro ⟨h, hne⟩
      exact ⟨Ne.symm hne, h⟩
    · rintro ⟨hne, h⟩
      exact ⟨h, Ne.symm hne⟩

/-- A node that is met for the first time has the outline it had before. -/
theorem remember (h : Tracks before r d) {id : NodeId} (hid : d.isElement id = true) :
    ((r.remember d id).entries.map Prod.fst).Nodup ∧
      ∀ e ∈ (r.remember d id).entries, d.isElement e.1 = true ∧ e.2 = before e.1 := by
  unfold OutlineRegistry.remember
  by_cases hc : r.contains id = true
  · rw [if_pos hc]
    exact ⟨h.once, fun e he => ⟨h.elements e he, h.remembered e he⟩⟩
  · rw [Bool.not_eq_true] at hc
    have hnew : id ∉ r.entries.map Prod.fst := by
      intro hmem
      obtain ⟨e, he, heq⟩ := List.mem_map.mp hmem
      exact contains_eq_false.mp hc e he heq
    simp only [hc, Bool.false_eq_true, if_false]
    constructor
    · rw [List.map_append, List.map_singleton, ← List.concat_eq_append]
      exact h.once.concat hnew
    · intro e he
      rcases List.mem_append.mp he with he | he
      · exact ⟨h.elements e he, h.remembered e he⟩
      · rw [List.mem_singleton.mp he]
        exact ⟨hid, h.outside id hc⟩

theorem apply (h : Tracks before r d) (id : NodeId) (style : String) :
    Tracks before (r.apply d id style).1 (r.apply d id style).2.1 := by
  by_cases hp : d.Paintable id
  · rw [apply_of_paintable hp]
    obtain ⟨honce, hentries⟩ := h.remember hp.2
    exact {
      wellFormed := h.wellFormed.of_labels rfl rfl
      once := honce
      elements := fun e he => (hentries e he).1
      remembered := fun e he => (hentries e he).2
      outside := by
        intro other hother
        obtain ⟨hne, hc⟩ := contains_remember.mp hother
        exact (Document.outline_painted_of_ne hne style).trans (h.outside other hc) }
  · rw [apply_of_not_paintable hp]
    exact h

theorem edit (h : Tracks before r d) {e : Edit} (he : ∀ id value, e ≠ .setOutline id value) :
    Tracks before r (d.perform e) where
  wellFormed := h.wellFormed.perform e
  once := h.once
  elements f hf := (h.wellFormed.persists_perform e).isElement h.wellFormed
    (h.wellFormed.perform e) (h.elements f hf)
  remembered := h.remembered
  outside id hid := by
    rw [Document.outline_perform he]
    exact h.outside id hid

theorem perform (h : Tracks before r d) (step : OutlineStep) :
    Tracks before (step.perform (r, d)).1 (step.perform (r, d)).2 := by
  cases step with
  | apply id style => exact h.apply id style
  | edit e he => exact h.edit he

theorem run {now : OutlineRegistry × Document} (h : Tracks before now.1 now.2)
    (steps : List OutlineStep) :
    Tracks before (steps.foldl OutlineStep.perform now).1
      (steps.foldl OutlineStep.perform now).2 := by
  induction steps generalizing now with
  | nil => exact h
  | cons step steps ih => exact ih (h.perform step)

/-- Clearing gives every node back the outline it had, as long as the document lets it. -/
theorem outline_clear (h : Tracks before r d) (hbefore : ∀ id, before id ≠ some "") {id : NodeId}
    (hp : d.Paintable id) : (r.clear d).2.1.outline id = before id := by
  have hr := clear_restores h.once d
  by_cases hc : r.contains id = true
  · obtain ⟨e, he, heq⟩ := List.any_eq_true.mp hc
    obtain rfl : e.1 = id := by simpa using heq
    rw [hr.given_back e he hp, h.remembered e he, paintedAs_getD (hbefore e.1)]
  · rw [Bool.not_eq_true] at hc
    rw [hr.untouched id (contains_eq_false.mp hc), h.outside id hc]

theorem count_clear (h : Tracks before r d) :
    (r.clear d).2.2 = (r.nodes.filter fun id => d.isAttached id).length := by
  have hsame : ∀ e ∈ r.entries, decide (d.Paintable e.1) = true ↔ d.isAttached e.1 = true := by
    intro e he
    rw [decide_eq_true_eq]
    exact ⟨And.left, fun ha => ⟨ha, h.elements e he⟩⟩
  calc (r.clear d).2.2
    _ = r.entries.countP fun e => decide (d.Paintable e.1) := by
        rw [clear, snd_foldl_restore, Nat.zero_add]
    _ = r.entries.countP fun e => d.isAttached e.1 := List.countP_congr hsame
    _ = (r.entries.map Prod.fst).countP fun id => d.isAttached id := by
        rw [List.countP_map]
        rfl
    _ = (r.nodes.filter fun id => d.isAttached id).length := by
        rw [nodes, ← List.countP_eq_length_filter, (List.mergeSort_perm _ _).countP_eq]

end Tracks

/-- After any use of a registry that began empty: clearing it gives every element of the tree the
outline from before, leaves nothing in it, and counts the nodes that are still in the tree. The
order of the entries makes no difference. A painting that is refused is not remembered. -/
theorem clear_gives_back {d : Document} (hd : d.Reachable) (steps : List OutlineStep) :
    let now := steps.foldl OutlineStep.perform (empty, d)
    let cleared := now.1.clear now.2
    (∀ s ∈ cleared.2.1.elements, cleared.2.1.outline s.id = d.outline s.id) ∧
      cleared.1 = empty ∧
      cleared.2.2 = (now.1.nodes.filter fun id => now.2.isAttached id).length ∧
      (∀ order : List (NodeId × Option String), order.Perm now.1.entries →
        order.foldl restore (now.2, 0) = cleared.2) ∧
      ∀ id style, (now.1.apply now.2 id style).2.2 = false →
        (now.1.apply now.2 id style).1 = now.1 := by
  intro now cleared
  have h : Tracks d.outline now.1 now.2 := (Tracks.empty hd.wellFormed).run steps
  refine ⟨?_, rfl, h.count_clear, ?_, ?_⟩
  · intro s hs
    obtain ⟨outline, hframe⟩ := (clear_restores h.once now.2).frame
    have hmem : s ∈ now.2.elements := by
      rw [hframe] at hs
      exact hs
    have hp : now.2.Paintable s.id :=
      h.wellFormed.mem_elements_iff.mp (List.mem_map_of_mem hmem)
    exact h.outline_clear (fun id => (hd.sound.painted id).1) hp
  · intro order horder
    exact foldl_restore_perm horder h.once (now.2, 0)
  · intro id style hrefused
    by_cases hp : now.2.Paintable id
    · rw [apply_of_paintable hp] at hrefused
      cases hrefused
    · rw [apply_of_not_paintable hp]

/-- A button is outlined twice and its label once before the button goes; a text and a node that is
not there are refused. -/
theorem clear_gives_back_pressedButton :
    let button : MarkupNode := .element ⟨"button", .empty, [.text "Go", .element (.ofTag "i")]⟩
    let page := (Document.ofMarkup ⟨"html", .empty,
      [.element ⟨"body", .empty, [button]⟩]⟩).perform (.setOutline 1 "thin")
    let steps : List OutlineStep := [.apply 2 "red", .apply 1 "", .apply 2 "blue", .apply 3 "red",
      .apply 4 "red", .edit (.detach 2) nofun, .apply 4 "blue", .apply 9 "red"]
    let now := steps.foldl OutlineStep.perform (empty, page)
    let cleared := now.1.clear now.2
    now.1.nodes = [1, 2, 4] ∧ now.2.outline 1 = none ∧ cleared.2.1.outline 1 = some "thin" ∧
      cleared.2.2 = 1 := by
  intro button page steps now cleared
  have hpage : page.Reachable :=
    .edit (.setOutline 1 "thin") (.start (.markup _) (by decide)) (by decide)
  obtain ⟨houtline, -, hcount, -⟩ := clear_gives_back hpage steps
  have hbody : ∃ s ∈ cleared.2.1.elements, s.id = 1 := by decide +kernel
  obtain ⟨s, hs, hid⟩ := hbody
  refine ⟨by cbv, by decide +kernel, ?_, ?_⟩
  · rw [← hid, houtline s hs, hid]
    decide +kernel
  · rw [hcount]
    cbv

end OutlineRegistry

end Pinpoint
