import Pinpoint.Proofs.Document.Links
import Pinpoint.Proofs.Locator.Structural

/-! The shortest suffix. The search for a structural locator goes up level by level, and it stops at
the first level that has a test attribute or from which the path means the element alone. No shorter
path would have stopped it. -/

namespace Pinpoint

def Segment.passedTexts (settings : Settings) (passed : List Site) : List String :=
  (passed.map fun s => (Segment.ofSite settings s).text).reverse

theorem Segment.passedTexts_concat (settings : Settings) (passed : List Site) (l : Site) :
    passedTexts settings (passed ++ [l])
      = (ofSite settings l).text :: passedTexts settings passed := by
  rw [passedTexts, List.map_append, List.reverse_append]
  rfl

namespace Document

variable {d : Document} {settings : Settings}

def suffix (settings : Settings) (levels : List Site) (k : Nat) : String :=
  Segment.pathText settings (levels.take (k + 1))

structure StopsAt (d : Document) (settings : Settings) (target : NodeId) (levels : List Site)
    (k : Nat) : Prop where
  within : k < levels.length
  reason : (Segment.ofSite settings (levels[k])).fromTestAttribute = true ∨
    d.resolvesTo (suffix settings levels k) target = true

/-- If anything stops the search, something stops it first. -/
theorem StopsAt.exists_first {target : NodeId} {levels : List Site} {k : Nat}
    (h : d.StopsAt settings target levels k) :
    ∃ i ≤ k, d.StopsAt settings target levels i ∧
      ∀ j < i, ¬ d.StopsAt settings target levels j := by
  classical
  have hex : ∃ i, d.StopsAt settings target levels i := ⟨k, h⟩
  exact ⟨Nat.find hex, Nat.find_min' hex h, Nat.find_spec hex, fun j hj => Nat.find_min hex hj⟩

def found (d : Document) (settings : Settings) (target : NodeId) (levels : List Site) (k : Nat) :
    Locator :=
  ⟨.structural, suffix settings levels k,
    if d.resolvesTo (suffix settings levels k) target then .unique else .bestEffort⟩

section Step

variable {target : NodeId} {passed above : List Site} {l : Site}

theorem suffix_passed (settings : Settings) (passed above : List Site) (l : Site) :
    suffix settings (passed ++ l :: above) passed.length
      = Segment.join ((Segment.ofSite settings l).text ::
          Segment.passedTexts settings passed) := by
  have htake : (passed ++ l :: above).take (passed.length + 1) = passed ++ [l] := by
    rw [List.take_length_add_append, List.take_succ_cons, List.take_zero]
  rw [suffix, htake, ← Segment.passedTexts_concat]
  rfl

theorem stopsAt_passed :
    d.StopsAt settings target (passed ++ l :: above) passed.length ↔
      (Segment.ofSite settings l).fromTestAttribute = true ∨
        d.resolvesTo (suffix settings (passed ++ l :: above) passed.length) target = true := by
  constructor
  · rintro ⟨hlt, hreason⟩
    simpa using hreason
  · intro hreason
    have hlt : passed.length < (passed ++ l :: above).length := by simp
    exact ⟨hlt, by simpa using hreason⟩

/-- One level: the search ends there. -/
theorem climb_of_stopsAt (h : d.StopsAt settings target (passed ++ l :: above) passed.length) :
    d.climb settings target (l :: above) (Segment.passedTexts settings passed)
      = d.found settings target (passed ++ l :: above) passed.length := by
  rw [stopsAt_passed] at h
  rw [found, suffix_passed] at *
  rw [climb, if_pos (by simpa using h)]

/-- One level: the search goes on above it. -/
theorem climb_of_not_stopsAt
    (h : ¬ d.StopsAt settings target (passed ++ l :: above) passed.length) :
    d.climb settings target (l :: above) (Segment.passedTexts settings passed)
      = d.climb settings target above (Segment.passedTexts settings (passed ++ [l])) := by
  rw [stopsAt_passed, suffix_passed] at h
  rw [climb, if_neg (by simpa using h), Segment.passedTexts_concat]

end Step

/-- The search ends at the first level that stops it. -/
theorem climb_of_first_stop {target : NodeId} {k : Nat} (passed levels : List Site)
    (hstop : d.StopsAt settings target (passed ++ levels) k) (hle : passed.length ≤ k)
    (hfirst : ∀ j, passed.length ≤ j → j < k → ¬ d.StopsAt settings target (passed ++ levels) j) :
    d.climb settings target levels (Segment.passedTexts settings passed)
      = d.found settings target (passed ++ levels) k := by
  induction levels generalizing passed with
  | nil =>
    have hlt := hstop.within
    rw [List.append_nil] at hlt
    omega
  | cons l above ih =>
    by_cases hk : passed.length = k
    · subst hk
      exact climb_of_stopsAt hstop
    · have hlt : passed.length < k := by omega
      rw [climb_of_not_stopsAt (hfirst _ le_rfl hlt)]
      have hsplit : passed ++ l :: above = (passed ++ [l]) ++ above := by simp
      rw [hsplit] at hstop hfirst ⊢
      apply ih _ hstop
      · rw [List.length_append, List.length_singleton]
        omega
      · intro j hj
        rw [List.length_append, List.length_singleton] at hj
        exact hfirst j (by omega)

/-- A search that nothing stops joins the segments of all levels. -/
theorem climb_of_no_stop {target : NodeId} (passed levels : List Site)
    (h : ∀ k, passed.length ≤ k → ¬ d.StopsAt settings target (passed ++ levels) k) :
    d.climb settings target levels (Segment.passedTexts settings passed)
      = ⟨.structural, Segment.pathText settings (passed ++ levels), .bestEffort⟩ := by
  induction levels generalizing passed with
  | nil =>
    rw [climb, List.append_nil]
    rfl
  | cons l above ih =>
    have hsplit : passed ++ l :: above = (passed ++ [l]) ++ above := by simp
    rw [climb_of_not_stopsAt (h _ le_rfl)]
    rw [hsplit] at h ⊢
    apply ih
    intro k hk
    rw [List.length_append, List.length_singleton] at hk
    exact h k (by omega)

/-- The levels from an element upward, as the links to parents have them: the last one is a child of
the document element, or it has no parent. -/
inductive Climbs (d : Document) : Site → List Site → Prop where
  | top {s : Site} : d.site? s.id = some s → s.id ≠ d.root.id →
    (d.parentId? s.id = none ∨ d.parentId? s.id = some d.root.id) → Climbs d s [s]
  | up {s t : Site} {above : List Site} : d.site? s.id = some s → s.id ≠ d.root.id →
    d.parentId? s.id = some t.id → Climbs d t above → Climbs d s (s :: above)

theorem WellFormed.climbs_levels (h : d.WellFormed) {s : Site}
    (hs : ⟨.element s.element, s.ancestors⟩ ∈ d.places) (hroot : s.id ≠ d.root.id) :
    d.Climbs s (d.levels s) := by
  obtain ⟨e, ancestors⟩ := s
  induction ancestors generalizing e with
  | nil =>
    have hlevels : d.levels ⟨e, []⟩ = [⟨e, []⟩] := by
      rw [levels, Site.withAncestors, List.takeWhile_cons_of_pos (by simpa using hroot)]
      rfl
    rw [hlevels]
    exact .top (h.site?_eq hs) hroot (.inl (h.parentId?_eq hs))
  | cons p rest ih =>
    have hself := h.site?_eq hs
    have hparent : d.parentId? (Site.id ⟨e, p :: rest⟩) = some (Site.id ⟨p, rest⟩) :=
      h.parentId?_eq hs
    have hup : d.levels ⟨e, p :: rest⟩ = ⟨e, p :: rest⟩ :: d.levels ⟨p, rest⟩ := by
      rw [levels, Site.withAncestors_of_parent (t := ⟨p, rest⟩) rfl,
        List.takeWhile_cons_of_pos (by simpa using hroot)]
      rfl
    rw [hup]
    by_cases hp : p.id = d.root.id
    · have hend : d.levels ⟨p, rest⟩ = [] := by
        rw [levels, Site.withAncestors, List.takeWhile_cons_of_neg (by simp [Site.id, hp])]
      rw [hend]
      exact .top hself hroot (.inr (hp ▸ hparent))
    · have habove := ih p (parent_mem_places hs).1 hp
      exact .up hself hroot hparent habove

theorem structural_of_first_stop {s : Site} (hroot : s.id ≠ d.root.id)
    (hid : d.uniqueId? s.element = none) {k : Nat}
    (hstop : d.StopsAt settings s.id (d.levels s) k)
    (hfirst : ∀ j < k, ¬ d.StopsAt settings s.id (d.levels s) j) :
    d.structural settings s = d.found settings s.id (d.levels s) k := by
  rw [structural_of_climb hroot hid]
  exact climb_of_first_stop [] (d.levels s) hstop (Nat.zero_le k) fun j _ hj => hfirst j hj

theorem structural_of_no_stop {s : Site} (hroot : s.id ≠ d.root.id)
    (hid : d.uniqueId? s.element = none)
    (hnone : ∀ k, ¬ d.StopsAt settings s.id (d.levels s) k) :
    d.structural settings s
      = ⟨.structural, suffix settings (d.levels s) ((d.levels s).length - 1), .bestEffort⟩ := by
  have hall : suffix settings (d.levels s) ((d.levels s).length - 1)
      = Segment.pathText settings (d.levels s) := by
    rw [suffix, List.take_of_length_le (by omega)]
  rw [structural_of_climb hroot hid, hall]
  exact climb_of_no_stop [] (d.levels s) fun k _ => hnone k

/-- Without an identifier of its own, an element has as its structural locator the shortest path
that stops the search, or the path through all levels. -/
theorem structural_shortest_suffix (hd : d.Reachable) {node : NodeId} {s : Site}
    (hs : d.site? node = some s) (hroot : node ≠ d.root.id) (hid : d.uniqueId? s.element = none) :
    d.Climbs s (d.levels s) ∧
      (∀ k, d.StopsAt settings node (d.levels s) k →
        (∀ j < k, ¬ d.StopsAt settings node (d.levels s) j) →
        (d.structural settings s).value = suffix settings (d.levels s) k ∧
          ((d.structural settings s).resolution = .unique ↔
            d.resolvesTo (suffix settings (d.levels s) k) node = true)) ∧
      ((∀ k, ¬ d.StopsAt settings node (d.levels s) k) →
        (d.structural settings s).value = suffix settings (d.levels s) ((d.levels s).length - 1) ∧
          (d.structural settings s).resolution = .bestEffort) := by
  obtain ⟨hplace, rfl⟩ := place_of_site? hs
  refine ⟨hd.wellFormed.climbs_levels hplace hroot, ?_, ?_⟩
  · intro k hstop hfirst
    rw [structural_of_first_stop hroot hid hstop hfirst]
    constructor
    · rfl
    · rw [found]
      cases d.resolvesTo (suffix settings (d.levels s) k) s.id <;> simp
  · intro hnone
    rw [structural_of_no_stop hroot hid hnone]
    exact ⟨rfl, rfl⟩

/-- The class alone means both links, and the search stops at the menu. -/
theorem structural_shortest_suffix_twoMenus :
    let s := twoMenus.elements.get ⟨5, by decide⟩
    twoMenus.StopsAt .standard 6 (twoMenus.levels s) 1 ∧
      (twoMenus.structural .standard s).value = "nav:nth-of-type(2) > a.\\31 st" := by
  intro s
  have hs : twoMenus.site? 6 = some s := rfl
  have hd : twoMenus.Reachable := .start (.markup _) (by decide)
  have hstop : twoMenus.StopsAt .standard 6 (twoMenus.levels s) 1 :=
    ⟨by decide, .inr (by decide +kernel)⟩
  have hfirst : ∀ j < 1, ¬ twoMenus.StopsAt .standard 6 (twoMenus.levels s) j := by
    intro j hj hearly
    obtain rfl : j = 0 := by omega
    rcases hearly.reason with htest | hresolves
    · rw [Segment.fromTestAttribute_ofSite] at htest
      cases htest
    · exact absurd hresolves (by decide +kernel)
  obtain ⟨-, hshortest, -⟩ := structural_shortest_suffix hd hs (by decide) (by decide)
  exact ⟨hstop, (hshortest 1 hstop hfirst).1⟩

end Document

end Pinpoint
