import Mathlib.Data.List.Nodup
import Pinpoint.Interaction.Outlines

/-! Painting outlines and giving them back. Painting changes one outline and nothing else of the
document; clearing a registry writes back what it remembers wherever the document lets it. -/

namespace Pinpoint

def paintedAs (value : String) : Option String := if value = "" then none else some value

theorem paintedAs_ne_empty (value : String) : paintedAs value ≠ some "" := by
  unfold paintedAs
  split
  · rintro ⟨⟩
  · rename_i hne
    intro h
    exact hne (Option.some.inj h)

theorem paintedAs_getD {outline : Option String} (h : outline ≠ some "") :
    paintedAs (outline.getD "") = outline := by
  cases outline with
  | none => rfl
  | some value =>
    have hne : value ≠ "" := fun he => h (congrArg some he)
    rw [Option.getD_some, paintedAs, if_neg hne]

namespace Document

variable {d : Document}

def Paintable (d : Document) (id : NodeId) : Prop := d.isAttached id = true ∧ d.isElement id = true

instance (d : Document) (id : NodeId) : Decidable (d.Paintable id) :=
  inferInstanceAs (Decidable (_ ∧ _))

def painted (d : Document) (id : NodeId) (value : String) : Document :=
  { d with outline := fun i => if i = id then paintedAs value else d.outline i }

@[simp] theorem outline_painted_self (d : Document) (id : NodeId) (value : String) :
    (d.painted id value).outline id = paintedAs value := if_pos rfl

theorem outline_painted_of_ne {id other : NodeId} (h : other ≠ id) (value : String) :
    (d.painted id value).outline other = d.outline other := if_neg h

theorem setOutline?_of_paintable {id : NodeId} (h : d.Paintable id) (value : String) :
    d.setOutline? id value = some (d.painted id value) := by
  rw [setOutline?, h.1, h.2]
  rfl

theorem setOutline?_of_not_paintable {id : NodeId} (h : ¬ d.Paintable id) (value : String) :
    d.setOutline? id value = none := by
  rw [setOutline?, if_neg]
  simpa [Paintable] using h

end Document

namespace OutlineRegistry

theorem contains_eq_false {r : OutlineRegistry} {id : NodeId} :
    r.contains id = false ↔ ∀ e ∈ r.entries, e.1 ≠ id := by
  simp [contains]

theorem apply_of_paintable {d : Document} {id : NodeId} (h : d.Paintable id)
    (r : OutlineRegistry) (style : String) :
    r.apply d id style = (r.remember d id, d.painted id style, true) := by
  rw [apply, Document.setOutline?_of_paintable h]

theorem apply_of_not_paintable {d : Document} {id : NodeId} (h : ¬ d.Paintable id)
    (r : OutlineRegistry) (style : String) : r.apply d id style = (r, d, false) := by
  rw [apply, Document.setOutline?_of_not_paintable h]

theorem restore_of_paintable {d : Document} {e : NodeId × Option String} (h : d.Paintable e.1)
    (n : Nat) : restore (d, n) e = (d.painted e.1 (e.2.getD ""), n + 1) := by
  rw [restore, Document.setOutline?_of_paintable h]

theorem restore_of_not_paintable {d : Document} {e : NodeId × Option String}
    (h : ¬ d.Paintable e.1) (n : Nat) : restore (d, n) e = (d, n) := by
  rw [restore, Document.setOutline?_of_not_paintable h]

theorem restore_fst (done : Document × Nat) (e : NodeId × Option String) :
    (restore done e).1 =
      if done.1.Paintable e.1 then done.1.painted e.1 (e.2.getD "") else done.1 := by
  by_cases h : done.1.Paintable e.1
  · rw [restore_of_paintable h, if_pos h]
  · rw [restore_of_not_paintable h, if_neg h]

structure Restores (entries : List (NodeId × Option String)) (d d' : Document) : Prop where
  frame : ∃ outline, d' = { d with outline := outline }
  given_back : ∀ e ∈ entries, d.Paintable e.1 → d'.outline e.1 = paintedAs (e.2.getD "")
  untouched : ∀ id, (∀ e ∈ entries, e.1 ≠ id) → d'.outline id = d.outline id

theorem Restores.cons {e : NodeId × Option String} {entries : List (NodeId × Option String)}
    {d d' : Document} (he : ∀ f ∈ entries, f.1 ≠ e.1)
    (h : Restores entries (if d.Paintable e.1 then d.painted e.1 (e.2.getD "") else d) d') :
    Restores (e :: entries) d d' := by
  by_cases hp : d.Paintable e.1
  · rw [if_pos hp] at h
    obtain ⟨⟨outline, rfl⟩, hgiven, hother⟩ := h
    refine ⟨⟨outline, rfl⟩, ?_, ?_⟩
    · intro f hf hpf
      rcases List.mem_cons.mp hf with rfl | hf
      · rw [hother f.1 he, Document.outline_painted_self]
      · exact hgiven f hf hpf
    · intro id hid
      have hne := hid e List.mem_cons_self
      rw [hother id fun f hf => hid f (List.mem_cons_of_mem _ hf),
        Document.outline_painted_of_ne hne.symm]
  · rw [if_neg hp] at h
    obtain ⟨hframe, hgiven, hother⟩ := h
    refine ⟨hframe, ?_, ?_⟩
    · intro f hf hpf
      rcases List.mem_cons.mp hf with rfl | hf
      · exact absurd hpf hp
      · exact hgiven f hf hpf
    · intro id hid
      exact hother id fun f hf => hid f (List.mem_cons_of_mem _ hf)

theorem restores_foldl {entries : List (NodeId × Option String)}
    (hn : (entries.map Prod.fst).Nodup) (d : Document) (n : Nat) :
    Restores entries d (entries.foldl restore (d, n)).1 := by
  induction entries generalizing d n with
  | nil => exact ⟨⟨d.outline, rfl⟩, by simp, fun _ _ => rfl⟩
  | cons e entries ih =>
    rw [List.map_cons, List.nodup_cons] at hn
    have hrest := ih hn.2 (restore (d, n) e).1 (restore (d, n) e).2
    rw [List.foldl_cons]
    refine Restores.cons ?_ (restore_fst (d, n) e ▸ hrest)
    intro f hf heq
    exact hn.1 (heq ▸ List.mem_map_of_mem hf)

theorem clear_restores {r : OutlineRegistry} (hn : (r.entries.map Prod.fst).Nodup)
    (d : Document) : Restores r.entries d (r.clear d).2.1 :=
  restores_foldl hn d 0

end OutlineRegistry

end Pinpoint
