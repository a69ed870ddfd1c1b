import Pinpoint.Proofs.Finding
import Pinpoint.Proofs.Locator.Absolute
import Pinpoint.Proofs.Selector.Spelling
import Pinpoint.Proofs.Snippet.Literal

/-! Previews of stored locators. The locator is the stored one, but what the element means is asked
of the element that requests are about, be it the one that the locator leads to or not. Whether it
makes a difference can be told from the meanings: different ones are never written alike. -/

namespace Pinpoint

namespace Snippet

section Render

variable {s t : Snippet}

theorem division_eq_of_render_eq (hs : s.isClosed = true) (ht : t.isClosed = true)
    (h : s.render = t.render) : s.division = t.division := by
  have hdivide := divide_render hs
  rw [h, divide_render ht] at hdivide
  exact (Option.some.inj hdivide).symm

/-- A text can be read back from the literal that quotes it. -/
theorem quote_injective {a b : String} (h : (quote a).toList = (quote b).toList) : a = b := by
  have hunquote := unquote_quote a
  rw [h, unquote_quote] at hunquote
  exact String.toList_inj.mp (Option.some.inj hunquote).symm

theorem quoted_eq_of_render_eq (hs : s.isClosed = true) (ht : t.isClosed = true)
    (h : s.render = t.render) : s.quoted = t.quoted := by
  have hraws : s.division.raws = t.division.raws := by rw [division_eq_of_render_eq hs ht h]
  rw [raws_division, raws_division] at hraws
  exact List.map_injective_iff.mpr (fun _ _ => quote_injective) hraws

theorem render_code (text : String) : render [.code text] = text := by
  simp [render, Piece.render]

end Render

end Snippet

def Meaning.dialect : Meaning → Dialect
  | role _ _ => .playwrightRole
  | label _ => .playwrightLabel
  | testId _ => .playwrightTestId
  | frame _ => .playwrightFrame
  | path _ => .xpath

namespace Snippet

variable {locator : String} {m n : Meaning}

theorem isClosed_ofMeaning (hpath : m.dialect ≠ .xpath) :
    (ofMeaning locator m).isClosed = true := by
  cases m with
  | path => exact absurd rfl hpath
  | _ => rfl

theorem ofMeaning_injective (hdialect : m.dialect = n.dialect)
    (h : (ofMeaning locator m).render = (ofMeaning locator n).render) : m = n := by
  cases m <;> cases n <;> cases hdialect
  case path.path x y => rw [ofMeaning, ofMeaning, render_code, render_code] at h; rw [h]
  all_goals
    have hquoted := quoted_eq_of_render_eq rfl rfl h
    cases hquoted
    rfl

/-- What is made from a meaning begins with other code than what is made from the locator alone. -/
theorem ofMeaning_render_ne_click (hpath : m.dialect ≠ .xpath) :
    (ofMeaning locator m).render ≠ (click locator .playwrightSemantic).render := by
  intro h
  have hdivision := division_eq_of_render_eq (isClosed_ofMeaning hpath) rfl h
  have hcode : (ofMeaning locator m).division.code = "await page.locator(".toList ++ [] :=
    congrArg Division.code hdivision
  cases m with
  | role => exact absurd hcode (by decide : "await page.getByRole(".toList ++ [] ≠ _)
  | label => exact absurd hcode (by decide : "await page.getByLabel(".toList ++ [] ≠ _)
  | testId => exact absurd hcode (by decide : "await page.getByTestId(".toList ++ [] ≠ _)
  | frame => exact absurd hcode (by decide : "await page.frameLocator(".toList ++ [] ≠ _)
  | path => exact absurd rfl hpath

end Snippet

namespace Selector

theorem Spelling.Phrase.head?_ne_slash {text rest : List Char} {p : Selector.Phrase}
    (h : Phrase text p rest) : text.head? ≠ some '/' := by
  cases h with
  | any => simp
  | tag hstart =>
    rintro ⟨⟩
    exact absurd hstart (by decide)
  | simples hfirst =>
    cases hfirst <;> simp

theorem Spelling.Row.head?_ne_slash {text rest : List Char} {row : Selector.Row}
    (h : Row text row rest) : text.head? ≠ some '/' := by
  induction h with
  | single hphrase => exact hphrase.head?_ne_slash
  | step _ _ _ ih => exact ih

theorem Spelling.Group.head?_ne_slash {text : List Char} {rows : List Selector.Row}
    (h : Group text rows) : text.head? ≠ some '/' := by
  have hstart : ∀ {start after : List Char} {row : Selector.Row}, Grammar.Spaces text start →
      Row start row after → text.head? ≠ some '/' := by
    intro start after row hspaces hrow
    cases hspaces with
    | done _ => exact hrow.head?_ne_slash
    | blank hblank _ =>
      rintro ⟨⟩
      exact absurd hblank (by decide)
  cases h with
  | last hspaces hrow _ => exact hstart hspaces hrow
  | cons hspaces hrow _ _ => exact hstart hspaces hrow

end Selector

namespace Document

variable {d : Document} {settings : Settings}

theorem dialect_of_meaning? {s : Site} {dialect : Dialect} {m : Meaning}
    (h : d.meaning? settings s dialect = some m) : m.dialect = dialect := by
  cases dialect with
  | playwrightRole =>
    obtain ⟨role, -, h⟩ := Option.bind_eq_some_iff.mp h
    obtain ⟨name, -, h⟩ := Option.bind_eq_some_iff.mp h
    cases h
    rfl
  | playwrightLabel =>
    obtain ⟨name, -, rfl⟩ := Option.map_eq_some_iff.mp h
    rfl
  | playwrightTestId =>
    obtain ⟨value, -, rfl⟩ := Option.map_eq_some_iff.mp h
    rfl
  | playwrightFrame =>
    obtain ⟨selector, -, rfl⟩ := Option.map_eq_some_iff.mp h
    rfl
  | xpath =>
    cases h
    rfl
  | _ => cases h

/-- Every absolute locator begins with a slash. -/
theorem head?_absolute (d : Document) (s : Site) :
    (d.absolute s).value.toList.head? = some '/' := by
  have hvalue : (d.absolute s).value = (d.stepsTo s s.above).text := pathTo_fst s s.above
  rw [hvalue, XPath.Path.text]
  cases (d.stepsTo s s.above).start <;> simp [XPath.Start.text]

/-- A selector is written in another way than any meaning that its dialect asks for. -/
theorem render_meaning_ne_passive {text : String} (hne : text ≠ "")
    (hslash : text.toList.head? ≠ some '/') {s : Site} {dialect : Dialect} {m : Meaning}
    (h : d.meaning? settings s dialect = some m) :
    (Snippet.ofMeaning text m).render ≠ passive text dialect := by
  have hdialect := dialect_of_meaning? h
  rw [passive, if_neg hne]
  cases m with
  | path xpath =>
    obtain rfl : Dialect.xpath = dialect := hdialect
    obtain ⟨⟩ : xpath = (d.absolute s).value := by cases h; rfl
    change (Snippet.render [.code _]) ≠ Snippet.render [.code text]
    rw [Snippet.render_code, Snippet.render_code]
    intro heq
    exact hslash (heq ▸ d.head?_absolute s)
  | role | label | testId | frame =>
    rw [← hdialect]
    exact Snippet.ofMeaning_render_ne_click nofun

/-- Two elements give the same snippet exactly if they mean the same in the dialect. -/
theorem strategy_eq_iff {text : String} (hne : text ≠ "")
    (hslash : text.toList.head? ≠ some '/') (site site' : Option Site) (dialect : Dialect) :
    d.strategy settings site text dialect = d.strategy settings site' text dialect ↔
      (site.bind fun s => d.meaning? settings s dialect)
        = site'.bind fun s => d.meaning? settings s dialect := by
  rw [strategy, strategy, if_neg hne, if_neg hne]
  cases hm : site.bind fun s => d.meaning? settings s dialect with
  | none =>
    cases hn : site'.bind fun s => d.meaning? settings s dialect with
    | none => exact iff_of_true rfl rfl
    | some n =>
      obtain ⟨t, -, ht⟩ := Option.bind_eq_some_iff.mp hn
      exact iff_of_false (render_meaning_ne_passive hne hslash ht).symm (Option.some_ne_none n).symm
  | some m =>
    obtain ⟨s, -, hs⟩ := Option.bind_eq_some_iff.mp hm
    cases hn : site'.bind fun s => d.meaning? settings s dialect with
    | none => exact iff_of_false (render_meaning_ne_passive hne hslash hs) (Option.some_ne_none m)
    | some n =>
      obtain ⟨t, -, ht⟩ := Option.bind_eq_some_iff.mp hn
      have hdialect := (dialect_of_meaning? hs).trans (dialect_of_meaning? ht).symm
      constructor
      · intro h
        rw [Snippet.ofMeaning_injective hdialect h]
      · intro h
        rw [Option.some.inj h]

theorem preview_eq_iff {text : String} (hne : text ≠ "") (hslash : text.toList.head? ≠ some '/')
    (site site' : Option Site) (dialects : List Dialect) :
    d.preview settings site text dialects = d.preview settings site' text dialects ↔
      ∀ dialect ∈ dialects, (site.bind fun s => d.meaning? settings s dialect)
        = site'.bind fun s => d.meaning? settings s dialect := by
  rw [preview, preview, List.map_inj_left]
  refine forall₂_congr fun dialect _ => ?_
  rw [PreviewEntry.mk.injEq, ← strategy_eq_iff hne hslash]
  exact and_iff_right rfl

/-- A text that means one element is not empty and does not begin with a slash, and the element is
in the tree. -/
theorem shape_of_query {text : String} {e : Site} (h : d.query text = .ok [e]) :
    text ≠ "" ∧ text.toList.head? ≠ some '/' ∧ e ∈ d.elements := by
  cases hparse : Selector.parse text with
  | error fault =>
    rw [query, hparse] at h
    cases h
  | ok g =>
    obtain ⟨rows, hrows, -⟩ := Selector.parse_eq_ok_iff.mp hparse
    rw [query, hparse] at h
    have hfound : e ∈ d.select g := Except.ok.inj h ▸ List.mem_singleton_self e
    refine ⟨?_, hrows.head?_ne_slash, (List.mem_filter.mp hfound).1⟩
    rintro rfl
    have hempty : (Selector.parse "").toOption.isSome = false := by decide +kernel
    rw [hparse] at hempty
    cases hempty

/-- A stored locator is previewed with the element that requests are about. The preview is the one
of the element that the locator means exactly if both mean the same in every configured dialect, and
so it is while that element has the focus. -/
theorem handle_preview_stored (settings : Settings) (reach : Reach) (session : Session)
    (hd : d.Reachable) {text : String} {e : Site} (hquery : d.query text = .ok [e]) :
    let shown (site : Option Site) : PreviewFrame :=
      ⟨text, d.preview settings site text settings.previewDialects⟩
    session.handle settings reach d (.preview (some text))
        = (session, d, .preview (shown d.subject?)) ∧
      (shown d.subject? = shown (some e) ↔ ∀ dialect ∈ settings.previewDialects,
        (d.subject?.bind fun s => d.meaning? settings s dialect) = d.meaning? settings e dialect) ∧
      (session.handle settings reach (d.focus (some e.id)) (.preview (some text))).2.2
        = .preview (shown (some e)) := by
  intro shown
  obtain ⟨hne, hslash, hmem⟩ := shape_of_query hquery
  have hresolve : ∀ (d : Document) (site : Option Site),
      d.resolve settings (some text) site = text := by
    intro d site
    rw [resolve, Option.filter_some, if_pos (by simpa using hne)]
    rfl
  have hsame := d.sameContent_focus (some e.id)
  refine ⟨?_, ?_, ?_⟩
  · rw [Session.handle, Session.previewAnswer, hresolve]
  · rw [PreviewFrame.mk.injEq, preview_eq_iff hne hslash]
    exact and_iff_right rfl
  · rw [Session.handle, Session.previewAnswer, hresolve, hd.wellFormed.subject?_focus hmem,
      ← hsame.preview_eq]

theorem query_wide_searchPage :
    searchPage.query ".wide" = .ok [searchPage.elements.get ⟨2, by decide⟩] := by
  let wide : Selector.Compound := { Selector.Compound.any with classes := ["wide"] }
  have hparse : Selector.parse ".wide" = .ok [.single wide] := by decide +kernel
  exact query_of_parse hparse

/-- With the focus on the button the class still means the field, but the roles are not the same. -/
theorem handle_preview_stored_searchPage :
    let field := searchPage.elements.get ⟨2, by decide⟩
    let page := searchPage.focus (some 3)
    let shown (site : Option Site) : PreviewFrame :=
      ⟨".wide", page.preview .standard site ".wide" Dialect.all⟩
    let answer (page : Document) : Response :=
      (Session.initial.handle .standard ⟨true, true⟩ page (.preview (some ".wide"))).2.2
    answer page = .preview (shown page.subject?) ∧ shown page.subject? ≠ shown (some field) ∧
      answer (page.focus (some 2)) = .preview (shown (some field)) := by
  intro field page shown answer
  have hd : page.Reachable := .edit (.focus (some 3)) (.start (.markup _) (by decide)) (by decide)
  obtain ⟨hanswer, hiff, hfocused⟩ :=
    handle_preview_stored .standard ⟨true, true⟩ .initial hd (e := field) query_wide_searchPage
  refine ⟨congrArg (fun r => r.2.2) hanswer, fun hsame => ?_, hfocused⟩
  have hrole := hiff.mp hsame .playwrightRole (by decide)
  revert hrole
  decide +kernel

/-- Nothing has the focus, and the path that is shown for the class leads to the body. -/
theorem handle_preview_unfocused_searchPage :
    let settings := { Settings.standard with previewDialects := [.xpath] }
    let field := searchPage.elements.get ⟨2, by decide⟩
    searchPage.Reachable ∧ searchPage.query ".wide" = .ok [field] ∧
      (Session.initial.handle settings ⟨true, true⟩ searchPage (.preview (some ".wide"))).2.2
        ≠ .preview ⟨".wide", searchPage.preview settings (some field) ".wide"
            settings.previewDialects⟩ := by
  intro settings field
  exact ⟨.start (.markup _) (by decide), query_wide_searchPage, by decide +kernel⟩

end Document

end Pinpoint
