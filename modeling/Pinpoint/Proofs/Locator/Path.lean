import Pinpoint.Locator.Structural
import Pinpoint.Proofs.Locator.Segment

/-! Paths of segments. A path is printed from the outermost level inward and matched from the
element upward; level by level it is read back as what its segments ask for. -/

namespace Pinpoint

namespace Segment

open Selector

/-- What a path asks of an element: its own segment, and the segments of the levels above it of
its ancestors, one step each. -/
def path (settings : Settings) (s : Site) : List Site → Chain
  | [] => .single (compound settings s)
  | t :: above => .step (path settings t above) .child (compound settings s)

/-- A chain that goes down from parent to child; the levels are listed upward. -/
def chainOf (c : Site → Compound) (s : Site) : List Site → Chain
  | [] => .single (c s)
  | t :: above => .step (chainOf c t above) .child (c s)

theorem path_eq_chainOf (settings : Settings) (s : Site) (above : List Site) :
    path settings s above = chainOf (compound settings) s above := by
  induction above generalizing s with
  | nil => rfl
  | cons t above ih => rw [path, chainOf, ih]

def pathText (settings : Settings) (levels : List Site) : String :=
  join (levels.map fun s => (ofSite settings s).text).reverse

theorem pathText_cons_cons (settings : Settings) (s t : Site) (above : List Site) :
    pathText settings (s :: t :: above)
      = pathText settings (t :: above) ++ " > " ++ (ofSite settings s).text := by
  rw [pathText, List.map_cons, List.reverse_cons, join,
    String.intercalate_append_of_ne_nil (by simp) (by simp), String.intercalate_singleton]
  rfl

variable {settings : Settings}

theorem readSteps_pathText {c : Site → Compound} {s : Site} {above : List Site}
    (h : ∀ t ∈ s :: above, Written (ofSite settings t).text.toList (c t)) {rest : List Char}
    (hr : EndsCompound rest) :
    readSteps none false ((pathText settings (s :: above)).toList ++ rest)
      = readSteps (some (chainOf c s above)) false rest := by
  induction above generalizing s rest with
  | nil =>
    have hs := h s List.mem_cons_self
    rw [pathText, List.map_singleton, List.reverse_singleton, join, String.intercalate_singleton]
    exact readSteps_written hs rfl hr
  | cons t above ih =>
    have hs := h s List.mem_cons_self
    have htext : (pathText settings (s :: t :: above)).toList ++ rest
        = (pathText settings (t :: above)).toList ++
          ' ' :: '>' :: ' ' :: ((ofSite settings s).text.toList ++ rest) := by
      simp [pathText_cons_cons]
    rw [htext, ih (fun u hu => h u (List.mem_cons_of_mem _ hu)) (endsCompound_space _)]
    exact readSteps_child _ hs hr

theorem parse_chainOf {c : Site → Compound} {s : Site} {above : List Site}
    (h : ∀ t ∈ s :: above, Written (ofSite settings t).text.toList (c t)) :
    Selector.parse (pathText settings (s :: above)) = .ok [chainOf c s above] := by
  apply parse_of_readSteps
  have hs := readSteps_pathText h endsCompound_nil
  rw [List.append_nil] at hs
  rw [hs, readSteps_nil]

theorem parse_pathText {s : Site} {above : List Site}
    (h : ∀ t ∈ s :: above, Written (ofSite settings t).text.toList (compound settings t)) :
    Selector.parse (pathText settings (s :: above)) = .ok [path settings s above] := by
  rw [path_eq_chainOf]
  exact parse_chainOf h

/-- A path holds at the element that it comes from. -/
theorem path_holds {s : Site} {above : List Site}
    (hchain : (s :: above).IsChain fun s t => s.parent? = some t)
    (hnull : ∀ t ∈ s :: above, t.element.NullFree (namesRead settings)) :
    (path settings s above).holds s = true := by
  induction above generalizing s with
  | nil => exact compound_holds (hnull s List.mem_cons_self)
  | cons t above ih =>
    obtain ⟨hst, hrest⟩ := List.isChain_cons_cons.mp hchain
    have ht := ih hrest fun u hu => hnull u (List.mem_cons_of_mem _ hu)
    rw [path, Chain.holds, compound_holds (hnull s List.mem_cons_self), hst, Option.any_some, ht]
    rfl

/-- Where only `top` satisfies the outermost segment, every level below has one element only that
satisfies the path so far: it is a child of the one above, known by its tag and position. -/
theorem eq_of_path_holds {d : Document} (hd : d.WellFormed) {s top : Site} {above : List Site}
    (hmem : ∀ t ∈ s :: above, t ∈ d.elements)
    (hchain : (s :: above).IsChain fun s t => s.parent? = some t)
    (htop : (s :: above).getLast? = some top)
    (hunique : ∀ e ∈ d.elements, (compound settings top).holds e = true → e = top)
    (htest : ∀ t ∈ (s :: above).dropLast, settings.testAttribute? t.element = none)
    {e : Site} (he : e ∈ d.elements) (hh : (path settings s above).holds e = true) : e = s := by
  induction above generalizing s e with
  | nil =>
    have hs : s = top := by simpa using htop
    subst hs
    exact hunique e he hh
  | cons t above ih =>
    obtain ⟨hst, hrest⟩ := List.isChain_cons_cons.mp hchain
    simp only [path, Chain.holds, Bool.and_eq_true, Option.any_eq_true] at hh
    obtain ⟨hc, q, hq, hpath⟩ := hh
    have hqt : q = t := by
      apply ih (fun u hu => hmem u (List.mem_cons_of_mem _ hu)) hrest _ _
        (Document.parent_mem_elements he hq).1 hpath
      · rwa [List.getLast?_cons_cons] at htop
      · intro u hu
        exact htest u (List.mem_cons_of_mem _ hu)
    subst hqt
    exact eq_of_compound_holds hd (hmem s List.mem_cons_self) he hst hq
      (htest s List.mem_cons_self) hc

end Segment

end Pinpoint
