import Pinpoint.Proofs.Locator.Path

/-! Structural locators. Their resolution says exactly whether they mean their element alone, they
never miss it, and they are unique as soon as the outermost segment of the walk is. -/

namespace Pinpoint

def Settings.upToTest (settings : Settings) : List Site → List Site
  | [] => []
  | l :: above =>
    if (settings.testAttribute? l.element).isSome then [l] else l :: settings.upToTest above

theorem Settings.upToTest_isPrefix (settings : Settings) (levels : List Site) :
    settings.upToTest levels <+: levels := by
  induction levels with
  | nil => exact List.prefix_refl _
  | cons l above ih =>
    rw [upToTest]
    split
    · exact List.cons_prefix_cons.mpr ⟨rfl, List.nil_prefix⟩
    · exact List.cons_prefix_cons.mpr ⟨rfl, ih⟩

theorem Settings.upToTest_cons (settings : Settings) (l : Site) (above : List Site) :
    ∃ more, settings.upToTest (l :: above) = l :: more := by
  rw [upToTest]
  split
  · exact ⟨[], rfl⟩
  · exact ⟨_, rfl⟩

theorem Settings.testAttribute?_of_mem_dropLast_upToTest {settings : Settings}
    {levels : List Site} {t : Site} (h : t ∈ (settings.upToTest levels).dropLast) :
    settings.testAttribute? t.element = none := by
  induction levels with
  | nil => simp [upToTest] at h
  | cons l above ih =>
    rw [upToTest] at h
    split at h
    · simp at h
    · rename_i hl
      cases hu : settings.upToTest above with
      | nil => simp [hu] at h
      | cons m more =>
        rw [hu, List.dropLast_cons_cons, List.mem_cons] at h
        rcases h with rfl | h
        · simpa using hl
        · exact ih (hu ▸ h)

theorem Segment.fromTestAttribute_ofSite (settings : Settings) (s : Site) :
    (Segment.ofSite settings s).fromTestAttribute
      = (settings.testAttribute? s.element).isSome := by
  unfold Segment.ofSite
  split
  · rename_i h
    rw [h]
    rfl
  · rename_i h
    rw [h]
    rfl

namespace Document

variable {d : Document} {settings : Settings}

theorem resolvesTo_iff {text : String} {id : NodeId} :
    d.resolvesTo text id = true ↔ (d.query text).map (List.map Site.id) = .ok [id] := by
  unfold resolvesTo
  cases d.query text with
  | error e => simp [Except.map]
  | ok sites => simp [Except.map]

theorem query_of_parse {text : String} {chain : Selector.Chain}
    (h : Selector.parse text = .ok [chain]) :
    d.query text = .ok (d.elements.filter chain.holds) := by
  have hgroup : Selector.Group.holds [chain] = chain.holds := by
    funext s
    simp [Selector.Group.holds]
  rw [query, h, ← hgroup]
  rfl

/-- A chain means an element alone exactly if it holds there and nowhere else in the tree. -/
theorem WellFormed.resolvesTo_iff_of_parse (hd : d.WellFormed) {text : String}
    {chain : Selector.Chain} (h : Selector.parse text = .ok [chain]) {s : Site}
    (hs : s ∈ d.elements) :
    d.resolvesTo text s.id = true ↔
      chain.holds s = true ∧ ∀ e ∈ d.elements, chain.holds e = true → e = s := by
  rw [resolvesTo_iff, query_of_parse h]
  constructor
  · intro hids
    have hids := Except.ok.inj hids
    have hunique : ∀ e ∈ d.elements, chain.holds e = true → e = s := by
      intro e he hh
      have hid : e.id ∈ [s.id] := by
        rw [← hids]
        exact List.mem_map_of_mem (List.mem_filter.mpr ⟨he, hh⟩)
      exact hd.site_unique he hs (List.mem_singleton.mp hid)
    have hid : s.id ∈ (d.elements.filter chain.holds).map Site.id := by
      rw [hids]
      exact List.mem_singleton_self _
    obtain ⟨e, he, -⟩ := List.mem_map.mp hid
    obtain ⟨he, hh⟩ := List.mem_filter.mp he
    exact ⟨hunique e he hh ▸ hh, hunique⟩
  · rintro ⟨hh, hunique⟩
    rw [hd.filter_elements hs hh hunique]
    rfl

theorem uniqueId?_eq_some {e : Element} {value : String} (h : d.uniqueId? e = some value) :
    e.attribute? "id" = some value ∧ value ≠ "" ∧ (d.withId value).map Site.id = [e.id] := by
  obtain ⟨hv, hu⟩ := Option.filter_eq_some_iff.mp h
  obtain ⟨hv, hne⟩ := Option.filter_eq_some_iff.mp hv
  exact ⟨hv, by simpa using hne, by simpa using hu⟩

/-- The escaped identifier means the elements that carry it. -/
theorem query_identifier {value : String} (hne : value ≠ "") (hz : '\x00' ∉ value.toList) :
    d.query ("#" ++ Selector.escape value) = .ok (d.withId value) := by
  rw [query_of_parse (Selector.parse_identifier hne), Selector.softened_eq_self hz, withId]
  congr 2
  funext s
  simp [Selector.Chain.holds, Selector.Compound.holds, Selector.Compound.any, beq_eq_decide]

/-! The climb -/

/-- A locator of the climb claims to be unique exactly if it resolves to the target, provided the
path is known not to resolve when the levels run out. -/
theorem climb_unique_iff (target : NodeId) (levels : List Site) (path : List String)
    (h : levels = [] → d.resolvesTo (Segment.join path) target = false) :
    (d.climb settings target levels path).resolution = .unique ↔
      d.resolvesTo (d.climb settings target levels path).value target = true := by
  induction levels generalizing path with
  | nil => simp [climb, h rfl]
  | cons l above ih =>
    rw [climb]
    cases hu : d.resolvesTo (Segment.join ((Segment.ofSite settings l).text :: path)) target with
    | true => simp [hu]
    | false =>
      cases ht : (Segment.ofSite settings l).fromTestAttribute with
      | true => simp [hu]
      | false =>
        rw [if_neg (by simp)]
        exact ih _ fun _ => hu

/-- The climb ends at some level and joins the segments up to it. -/
theorem climb_value (target : NodeId) {levels : List Site} (hne : levels ≠ [])
    (path : List String) : ∃ k, (d.climb settings target levels path).value =
      Segment.join (((levels.take (k + 1)).map fun s => (Segment.ofSite settings s).text).reverse
        ++ path) := by
  induction levels generalizing path with
  | nil => exact absurd rfl hne
  | cons l above ih =>
    rw [climb]
    split
    · exact ⟨0, by simp⟩
    · cases above with
      | nil => exact ⟨0, by simp [climb]⟩
      | cons m above =>
        obtain ⟨k, hk⟩ := ih (by simp) ((Segment.ofSite settings l).text :: path)
        exact ⟨k + 1, by rw [hk]; simp⟩

/-- The climb is unique if it passes levels without test attributes to one where the path
resolves. -/
theorem climb_unique_of_passed (target : NodeId) {passed levels : List Site}
    (hp : passed <+: levels) (hne : passed ≠ []) (path : List String)
    (htest : ∀ t ∈ passed.dropLast, settings.testAttribute? t.element = none)
    (hres : d.resolvesTo (Segment.join
      ((passed.map fun s => (Segment.ofSite settings s).text).reverse ++ path)) target = true) :
    (d.climb settings target levels path).resolution = .unique := by
  induction passed generalizing levels path with
  | nil => exact absurd rfl hne
  | cons l more ih =>
    obtain ⟨beyond, rfl⟩ := hp
    rw [List.cons_append, climb]
    cases hu : d.resolvesTo (Segment.join ((Segment.ofSite settings l).text :: path)) target with
    | true => simp
    | false =>
      cases more with
      | nil =>
        rw [List.map_singleton, List.reverse_singleton, List.singleton_append, hu] at hres
        cases hres
      | cons m more =>
        have hl := htest l List.mem_cons_self
        rw [Segment.fromTestAttribute_ofSite, hl, if_neg (by simp)]
        apply ih (List.prefix_append _ _) (by simp)
        · intro t ht
          exact htest t (List.mem_cons_of_mem _ ht)
        · simpa using hres

theorem structural_of_uniqueId {s : Site} (hroot : s.id ≠ d.root.id) {value : String}
    (h : d.uniqueId? s.element = some value) :
    d.structural settings s = ⟨.structural, "#" ++ Selector.escape value, .unique⟩ := by
  rw [structural, if_neg hroot, h]

theorem structural_of_climb {s : Site} (hroot : s.id ≠ d.root.id)
    (h : d.uniqueId? s.element = none) :
    d.structural settings s = d.climb settings s.id (d.levels s) [] := by
  rw [structural, if_neg hroot, h]
  rfl

/-- The resolution of a structural locator is exact, also for elements outside the tree. -/
theorem structural_resolution_exact (d : Document) (settings : Settings) {node : NodeId}
    (hnode : d.isElement node = true) (hroot : node ≠ d.root.id)
    (hid : ∀ s, d.site? node = some s → s.element.NullFree ["id"]) :
    ∃ l, (d.site? node).map (d.structural settings) = some l ∧
      (l.resolution = .unique ↔ (d.query l.value).map (List.map Site.id) = .ok [node]) := by
  obtain ⟨s, hs⟩ := Option.isSome_iff_exists.mp hnode
  obtain ⟨p, hp, hps⟩ := Option.bind_eq_some_iff.mp hs
  have hsid : s.id = node := by
    have hpid : p.id = node := by simpa using List.find?_some hp
    rwa [eq_element_of_site? hps] at hpid
  subst hsid
  refine ⟨d.structural settings s, by rw [hs]; rfl, ?_⟩
  cases hu : d.uniqueId? s.element with
  | some value =>
    obtain ⟨hv, hne, hone⟩ := uniqueId?_eq_some hu
    have hz := hid s hs "id" List.mem_cons_self value hv
    rw [structural_of_uniqueId hroot hu, query_identifier hne hz]
    simp only [Except.map, hone, true_iff]
    rfl
  | none =>
    rw [structural_of_climb hroot hu, ← resolvesTo_iff]
    obtain ⟨above, hlevels⟩ := levels_cons hroot
    exact climb_unique_iff s.id (d.levels s) [] (by simp [hlevels])

def twoMenus : Document :=
  let link : Markup := ⟨"a", .ofList [("class", "1st"), ("id", "home")], [.text "Home"]⟩
  let menu : Markup := ⟨"nav", .empty, [.element link]⟩
  ofMarkup ⟨"html", .empty, [.element ⟨"body", .empty, [.element menu, .element menu]⟩]⟩

theorem structural_resolution_exact_twoMenus :
    ∃ l, (twoMenus.site? 6).map (twoMenus.structural .standard) = some l ∧
      (l.resolution = .unique ↔ (twoMenus.query l.value).map (List.map Site.id) = .ok [6]) :=
  structural_resolution_exact twoMenus .standard (by decide) (by decide)
    (show ∀ s ∈ twoMenus.site? 6, s.element.NullFree ["id"] by decide)

theorem Reachable.written_level (hd : d.Reachable)
    (hnames : ∀ n ∈ settings.testAttributes, Text.isPlain n = true) {s l : Site}
    (hs : s ∈ d.elements) (hl : l ∈ d.levels s) (htag : Text.isPlain l.tag = true) :
    Selector.Written (Segment.ofSite settings l).text.toList (Segment.compound settings l) := by
  have hmem := mem_elements.mp (mem_levels hs hl).1
  exact Segment.written_text hnames htag (hd.position_lt (d.attachedPlaces_subset hmem))

/-- A structural locator, unique or not, selects its element. -/
theorem structural_selects_element (hd : d.Reachable)
    (hnames : ∀ n ∈ settings.testAttributes, Text.isPlain n = true) {s : Site}
    (hs : s ∈ d.elements) (hroot : s.id ≠ d.root.id)
    (hplain : ∀ l ∈ d.levels s, Text.isPlain l.tag = true)
    (hnull : ∀ l ∈ d.levels s, l.element.NullFree ("id" :: Segment.namesRead settings)) :
    ∃ sites, d.query (d.structural settings s).value = .ok sites ∧ s ∈ sites := by
  obtain ⟨above, hlevels⟩ := levels_cons hroot
  have hself : s ∈ d.levels s := by simp [hlevels]
  cases hu : d.uniqueId? s.element with
  | some value =>
    obtain ⟨hv, hne, -⟩ := uniqueId?_eq_some hu
    have hz := hnull s hself "id" List.mem_cons_self value hv
    rw [structural_of_uniqueId hroot hu, query_identifier hne hz]
    refine ⟨_, rfl, List.mem_filter.mpr ⟨hs, by simpa using hv⟩⟩
  | none =>
    rw [structural_of_climb hroot hu]
    have hne : d.levels s ≠ [] := by simp [hlevels]
    obtain ⟨k, hk⟩ := @climb_value d settings s.id (d.levels s) hne []
    have htake : (d.levels s).take (k + 1) = s :: above.take k := by
      rw [hlevels, List.take_succ_cons]
    have hsub : ∀ l ∈ s :: above.take k, l ∈ d.levels s :=
      fun l hl => List.mem_of_mem_take (htake ▸ hl)
    have hchain := (d.isChain_levels s).take (k + 1)
    rw [List.append_nil, htake] at hk
    rw [htake] at hchain
    have hparse := Segment.parse_pathText fun l hl =>
      hd.written_level hnames hs (hsub l hl) (hplain l (hsub l hl))
    have hholds : (Segment.path settings s (above.take k)).holds s = true :=
      Segment.path_holds hchain fun l hl name hname =>
        hnull l (hsub l hl) name (List.mem_cons_of_mem _ hname)
    rw [hk]
    exact ⟨_, query_of_parse hparse, List.mem_filter.mpr ⟨hs, hholds⟩⟩

def twoButtons : Document :=
  let button : Markup := ⟨"button", .ofList [("data-testid", "save \"all\"")], []⟩
  ofMarkup ⟨"html", .empty, [.element ⟨"body", .empty, [.element button, .element button]⟩]⟩

theorem structural_selects_element_twoButtons :
    let s := twoButtons.elements.get ⟨3, by decide⟩
    (twoButtons.structural .standard s).resolution = .bestEffort ∧
      ∃ sites, twoButtons.query (twoButtons.structural .standard s).value = .ok sites ∧
        s ∈ sites :=
  ⟨by decide +kernel, structural_selects_element (.start (.markup _) (by decide)) (by decide)
    (List.get_mem _ _) (by decide) (by decide) (by decide)⟩

/-- The levels that the search for a structural locator walks through, unless it ends early. -/
def walk (d : Document) (settings : Settings) (s : Site) : List Site :=
  settings.upToTest (d.levels s)

theorem walk_cons {s : Site} (h : s.id ≠ d.root.id) : ∃ more, d.walk settings s = s :: more := by
  obtain ⟨above, hlevels⟩ := levels_cons h
  rw [walk, hlevels]
  exact settings.upToTest_cons s above

theorem mem_levels_of_mem_walk {s l : Site} (h : l ∈ d.walk settings s) : l ∈ d.levels s :=
  (settings.upToTest_isPrefix (d.levels s)).subset h

theorem isChain_walk (d : Document) (settings : Settings) (s : Site) :
    (d.walk settings s).IsChain fun s t => s.parent? = some t := by
  obtain ⟨beyond, hlevels⟩ := settings.upToTest_isPrefix (d.levels s)
  have hchain := d.isChain_levels s
  rw [← hlevels] at hchain
  exact hchain.left_of_append

/-- The outermost level of the walk. -/
def top? (d : Document) (settings : Settings) (s : Site) : Option Site :=
  (d.walk settings s).getLast?

/-- If the outermost segment of the walk alone means its own element, the search succeeds. -/
theorem structural_unique_of_top (hd : d.Reachable)
    (hnames : ∀ n ∈ settings.testAttributes, Text.isPlain n = true) {s top : Site}
    (hs : s ∈ d.elements) (hroot : s.id ≠ d.root.id) (htop : d.top? settings s = some top)
    (hplain : ∀ l ∈ d.walk settings s, Text.isPlain l.tag = true)
    (hnull : ∀ l ∈ d.walk settings s, l.element.NullFree (Segment.namesRead settings))
    (hres : d.resolvesTo (Segment.ofSite settings top).text top.id = true) :
    (d.structural settings s).resolution = .unique := by
  cases hu : d.uniqueId? s.element with
  | some value => rw [structural_of_uniqueId hroot hu]
  | none =>
    obtain ⟨more, hwalk⟩ : ∃ more, d.walk settings s = s :: more := walk_cons hroot
    have hchain := d.isChain_walk settings s
    have htest : ∀ t ∈ (d.walk settings s).dropLast, settings.testAttribute? t.element = none :=
      fun t => Settings.testAttribute?_of_mem_dropLast_upToTest
    have hwritten : ∀ l ∈ d.walk settings s, Selector.Written
        (Segment.ofSite settings l).text.toList (Segment.compound settings l) := fun l hl =>
      hd.written_level hnames hs (mem_levels_of_mem_walk hl) (hplain l hl)
    have hmem : ∀ l ∈ d.walk settings s, l ∈ d.elements := fun l hl =>
      (mem_levels hs (mem_levels_of_mem_walk hl)).1
    have htopmem := List.mem_of_getLast? htop
    have hunique := ((hd.wellFormed.resolvesTo_iff_of_parse
      (Selector.parse_written (hwritten top htopmem)) (hmem top htopmem)).mp hres).2
    have hpath : d.resolvesTo (Segment.pathText settings (d.walk settings s)) s.id = true := by
      rw [top?] at htop
      rw [hwalk] at hchain htest hwritten hmem hnull htop ⊢
      rw [hd.wellFormed.resolvesTo_iff_of_parse (Segment.parse_pathText hwritten) hs]
      exact ⟨Segment.path_holds hchain hnull, fun e he =>
        Segment.eq_of_path_holds hd.wellFormed hmem hchain htop hunique htest he⟩
    rw [structural_of_climb hroot hu]
    refine climb_unique_of_passed s.id (settings.upToTest_isPrefix (d.levels s)) ?_ [] htest ?_
    · change d.walk settings s ≠ []
      simp [hwalk]
    · rwa [List.append_nil]

theorem structural_unique_of_top_twoMenus :
    (twoMenus.structural .standard (twoMenus.elements.get ⟨5, by decide⟩)).resolution = .unique :=
  have htop : twoMenus.top? .standard (twoMenus.elements.get ⟨5, by decide⟩) =
      some (twoMenus.elements.get ⟨1, by decide⟩) := rfl
  structural_unique_of_top (.start (.markup _) (by decide)) (by decide) (List.get_mem _ _)
    (by decide) htop (by decide) (by decide) (by decide +kernel)

end Document

end Pinpoint
