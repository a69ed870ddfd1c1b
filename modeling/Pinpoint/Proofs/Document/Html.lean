import Pinpoint.Document.Html
import Pinpoint.Proofs.Document.Building

/-! HTML is unambiguous. Texts and values cannot pass for markup, every tag shows where it ends,
and so the markup can be told from what was written, as long as its names are plain and its texts
are neither empty nor side by side. -/

namespace Pinpoint

/-- Where a stretch of characters ends can be seen if something else follows. -/
theorem Text.eq_of_append_eq {p : Char → Bool} {xs ys a b : List Char}
    (hx : ∀ x ∈ xs, p x = true) (hy : ∀ y ∈ ys, p y = true) (ha : ∀ c ∈ a.head?, p c = false)
    (hb : ∀ c ∈ b.head?, p c = false) (h : xs ++ a = ys ++ b) : xs = ys ∧ a = b := by
  induction xs generalizing ys with
  | nil =>
    cases ys with
    | nil => exact ⟨rfl, h⟩
    | cons y ys =>
      rw [List.nil_append] at h
      have hno := ha y (by rw [h]; rfl)
      rw [hy y List.mem_cons_self] at hno
      cases hno
  | cons x xs ih =>
    cases ys with
    | nil =>
      rw [List.nil_append] at h
      have hno := hb x (by rw [← h]; rfl)
      rw [hx x List.mem_cons_self] at hno
      cases hno
    | cons y ys =>
      obtain ⟨rfl, hrest⟩ := List.cons.inj h
      rw [List.forall_mem_cons] at hx hy
      obtain ⟨rfl, hbehind⟩ := ih hx.2 hy.2 hrest
      exact ⟨rfl, hbehind⟩

/-- Characters that can be read one by one can be read all. -/
theorem Text.eq_of_flatMap_eq {f : Char → List Char} {read : List Char → Option (Char × List Char)}
    (hnil : read [] = none) (hread : ∀ c rest, read (f c ++ rest) = some (c, rest))
    {xs ys : List Char} (h : xs.flatMap f = ys.flatMap f) : xs = ys := by
  induction xs generalizing ys with
  | nil =>
    cases ys with
    | nil => rfl
    | cons y ys =>
      have hread := hread y (ys.flatMap f)
      rw [← List.flatMap_cons, ← h, List.flatMap_nil, hnil] at hread
      cases hread
  | cons x xs ih =>
    have hx := hread x (xs.flatMap f)
    rw [← List.flatMap_cons, h] at hx
    cases ys with
    | nil =>
      rw [List.flatMap_nil, hnil] at hx
      cases hx
    | cons y ys =>
      rw [List.flatMap_cons, hread, Option.some.injEq, Prod.mk.injEq] at hx
      rw [hx.1, ih hx.2.symm]

/-! Markup that is written without loss -/

def MarkupNode.isText : MarkupNode → Bool
  | text _ => true
  | element _ => false

mutual

/-- Plain names, nothing below a tag that has no end, and no text that is empty or right before
another one. -/
def Markup.isTidy : Markup → Bool
  | ⟨tag, attributes, children⟩ =>
    Text.isPlain tag && attributes.entries.all (fun e => Text.isPlain e.1) &&
      (! Html.voidTags.contains tag || children.isEmpty) && MarkupNode.areTidy children

def MarkupNode.areTidy : List MarkupNode → Bool
  | [] => true
  | .text content :: rest =>
    content ≠ "" && ! rest.head?.any MarkupNode.isText && MarkupNode.areTidy rest
  | .element markup :: rest => markup.isTidy && MarkupNode.areTidy rest

end

structure TidyTag (tag : String) (attributes : Attributes) (children : List MarkupNode) : Prop where
  plain : Text.isPlain tag = true
  names : ∀ e ∈ attributes.entries, Text.isPlain e.1 = true
  ended : Html.voidTags.contains tag = true → children = []

namespace MarkupNode

theorem areTidy_text_iff {content : String} {rest : List MarkupNode} :
    areTidy (.text content :: rest) = true ↔
      content ≠ "" ∧ rest.head?.any isText = false ∧ areTidy rest = true := by
  rw [areTidy]
  simp only [Bool.and_eq_true, decide_eq_true_eq, Bool.not_eq_true', and_assoc]

theorem areTidy_element_iff {tag : String} {attributes : Attributes}
    {children rest : List MarkupNode} :
    areTidy (.element ⟨tag, attributes, children⟩ :: rest) = true ↔
      TidyTag tag attributes children ∧ areTidy children = true ∧ areTidy rest = true := by
  rw [areTidy, Markup.isTidy]
  simp only [Bool.and_eq_true, Bool.or_eq_true, Bool.not_eq_true', List.all_eq_true,
    List.isEmpty_iff]
  constructor
  · rintro ⟨⟨⟨⟨htag, hnames⟩, hended⟩, hchildren⟩, hrest⟩
    refine ⟨⟨htag, hnames, fun hvoid => ?_⟩, hchildren, hrest⟩
    rcases hended with hnot | hempty
    · rw [hvoid] at hnot
      cases hnot
    · exact hempty
  · rintro ⟨⟨htag, hnames, hended⟩, hchildren, hrest⟩
    refine ⟨⟨⟨⟨htag, hnames⟩, ?_⟩, hchildren⟩, hrest⟩
    by_cases hvoid : Html.voidTags.contains tag = true
    · exact .inr (hended hvoid)
    · exact .inl (by simpa using hvoid)

end MarkupNode

theorem Attributes.lower_of_plain {attributes : Attributes}
    (h : ∀ e ∈ attributes.entries, Text.isPlain e.1 = true) : attributes.lower = attributes := by
  have hself : attributes.entries.map (fun e => (Text.lower e.1, e.2)) = attributes.entries := by
    conv_rhs => rw [← List.map_id attributes.entries]
    refine List.map_congr_left fun e he => ?_
    rw [Text.lower_of_isPlain (h e he)]
    rfl
  rw [lower, hself, ofList_entries]

/-- Tidy markup has no capitals to lose. -/
theorem MarkupNode.loweredAll_of_areTidy {l : List MarkupNode} (h : areTidy l = true) :
    loweredAll l = l := by
  induction l using MarkupNode.forest_induction with
  | nil => rw [loweredAll]
  | text content rest ih =>
    rw [loweredAll, ih (areTidy_text_iff.mp h).2.2]
  | element tag attributes children rest ihc ihr =>
    obtain ⟨htag, hchildren, hrest⟩ := areTidy_element_iff.mp h
    rw [loweredAll, Markup.lowered, ihc hchildren, ihr hrest, Text.lower_of_isPlain htag.plain,
      Attributes.lower_of_plain htag.names]

namespace Html

/-! What is written, character by character -/

def attributeChars (e : String × String) : List Char :=
  ' ' :: (e.1.toList ++ '=' :: '"' :: (e.2.toList.flatMap escapeAttributeChar ++ ['"']))

def insideChars (tag : String) (children : List Node) : List Char :=
  if voidTags.contains tag then []
  else (ofNodes children).toList ++ '<' :: '/' :: (tag.toList ++ ['>'])

theorem toList_escapeText (s : String) :
    (escapeText s).toList = s.toList.flatMap escapeTextChar := by
  rw [escapeText, Text.expand, String.toList_ofList]

theorem toList_escapeAttribute (s : String) :
    (escapeAttribute s).toList = s.toList.flatMap escapeAttributeChar := by
  rw [escapeAttribute, Text.expand, String.toList_ofList]

theorem toList_attributesText (attributes : Attributes) :
    (attributesText attributes).toList = attributes.entries.flatMap attributeChars := by
  rw [attributesText, String.toList_join, List.flatMap_map]
  congr 1
  funext e
  simp [attributeChars, String.toList_append, toList_escapeAttribute]

theorem toList_ofNodes_text (id : NodeId) (content : String) (rest : List Node) :
    (ofNodes (.text id content :: rest)).toList
      = content.toList.flatMap escapeTextChar ++ (ofNodes rest).toList := by
  rw [ofNodes, String.toList_append, toList_escapeText]

theorem toList_ofNodes_element (id : NodeId) (tag : String) (attributes : Attributes)
    (children rest : List Node) :
    (ofNodes (.element ⟨id, tag, attributes, children⟩ :: rest)).toList
      = '<' :: (tag.toList ++ (attributes.entries.flatMap attributeChars ++
          '>' :: (insideChars tag children ++ (ofNodes rest).toList))) := by
  rw [ofNodes, ofElement, insideChars]
  split
  · simp [String.toList_append, toList_attributesText]
  · simp [String.toList_append, toList_attributesText]

/-! Escaped characters -/

def readChar : List Char → Option (Char × List Char)
  | [] => none
  | '&' :: 'a' :: 'm' :: 'p' :: ';' :: rest => some ('&', rest)
  | '&' :: 'l' :: 't' :: ';' :: rest => some ('<', rest)
  | '&' :: 'g' :: 't' :: ';' :: rest => some ('>', rest)
  | '&' :: 'q' :: 'u' :: 'o' :: 't' :: ';' :: rest => some ('"', rest)
  | c :: rest => some (c, rest)

theorem readChar_cons {c : Char} (h : c ≠ '&') (rest : List Char) :
    readChar (c :: rest) = some (c, rest) := by
  unfold readChar
  split <;> simp_all

theorem readChar_escapeTextChar (c : Char) (rest : List Char) :
    readChar (escapeTextChar c ++ rest) = some (c, rest) := by
  unfold escapeTextChar
  split
  · rfl
  · rfl
  · rfl
  · rename_i hamp _ _
    exact readChar_cons hamp rest

theorem readChar_escapeAttributeChar (c : Char) (rest : List Char) :
    readChar (escapeAttributeChar c ++ rest) = some (c, rest) := by
  unfold escapeAttributeChar
  split
  · rfl
  · rfl
  · rename_i hamp _
    exact readChar_cons hamp rest

theorem lt_not_mem_escapeTextChar (c : Char) : '<' ∉ escapeTextChar c := by
  unfold escapeTextChar
  split
  · decide
  · decide
  · decide
  · rename_i hlt _
    rw [List.mem_singleton]
    exact fun h => hlt h.symm

theorem quote_not_mem_escapeAttributeChar (c : Char) : '"' ∉ escapeAttributeChar c := by
  unfold escapeAttributeChar
  split
  · decide
  · decide
  · rename_i hquote
    rw [List.mem_singleton]
    exact fun h => hquote h.symm

/-- A text ends before the next `<`. -/
theorem eq_of_text_append {s t : String} {a b : List Char} (ha : ∀ c ∈ a.head?, c = '<')
    (hb : ∀ c ∈ b.head?, c = '<')
    (h : s.toList.flatMap escapeTextChar ++ a = t.toList.flatMap escapeTextChar ++ b) :
    s = t ∧ a = b := by
  have hchars : ∀ u : String, ∀ x ∈ u.toList.flatMap escapeTextChar, (x != '<') = true := by
    intro u x hx
    obtain ⟨c, -, hc⟩ := List.mem_flatMap.mp hx
    rw [bne_iff_ne]
    rintro rfl
    exact lt_not_mem_escapeTextChar c hc
  obtain ⟨htext, hrest⟩ := Text.eq_of_append_eq (hchars s) (hchars t)
    (fun c hc => by simp [ha c hc]) (fun c hc => by simp [hb c hc]) h
  have hlist := Text.eq_of_flatMap_eq rfl readChar_escapeTextChar htext
  exact ⟨String.toList_inj.mp hlist, hrest⟩

/-- A value ends before the next quote. -/
theorem eq_of_value_append {s t : String} {a b : List Char}
    (h : s.toList.flatMap escapeAttributeChar ++ '"' :: a
      = t.toList.flatMap escapeAttributeChar ++ '"' :: b) : s = t ∧ a = b := by
  have hchars : ∀ u : String, ∀ x ∈ u.toList.flatMap escapeAttributeChar,
      (x != '"') = true := by
    intro u x hx
    obtain ⟨c, -, hc⟩ := List.mem_flatMap.mp hx
    rw [bne_iff_ne]
    rintro rfl
    exact quote_not_mem_escapeAttributeChar c hc
  obtain ⟨hvalue, hrest⟩ := Text.eq_of_append_eq (hchars s) (hchars t)
    (fun c hc => by cases hc; rfl) (fun c hc => by cases hc; rfl) h
  have hlist := Text.eq_of_flatMap_eq rfl readChar_escapeAttributeChar hvalue
  exact ⟨String.toList_inj.mp hlist, (List.cons.inj hrest).2⟩

/-! Tags -/

def isNameChar (c : Char) : Bool := c.isLower || c.isDigit || c = '-' || c = '_'

/-- A plain name ends before the next character that no name has. -/
theorem eq_of_name_append {s t : String} (hs : Text.isPlain s = true) (ht : Text.isPlain t = true)
    {a b : List Char} (ha : ∀ c ∈ a.head?, isNameChar c = false)
    (hb : ∀ c ∈ b.head?, isNameChar c = false) (h : s.toList ++ a = t.toList ++ b) :
    s = t ∧ a = b := by
  have hchars : ∀ u : String, Text.isPlain u = true → ∀ c ∈ u.toList, isNameChar c = true := by
    intro u hu
    rw [Text.isPlain, Bool.and_eq_true, List.all_eq_true] at hu
    exact hu.2
  obtain ⟨hname, hrest⟩ := Text.eq_of_append_eq (hchars s hs) (hchars t ht) ha hb h
  exact ⟨String.toList_inj.mp hname, hrest⟩

theorem head?_attributes (es : List (String × String)) (a : List Char) :
    ∀ c ∈ (es.flatMap attributeChars ++ '>' :: a).head?, isNameChar c = false := by
  intro c hc
  cases es with
  | nil =>
    cases hc
    rfl
  | cons e es =>
    cases hc
    rfl

theorem eq_of_attributes_append {es fs : List (String × String)}
    (hes : ∀ e ∈ es, Text.isPlain e.1 = true) (hfs : ∀ f ∈ fs, Text.isPlain f.1 = true)
    {a b : List Char}
    (h : es.flatMap attributeChars ++ '>' :: a = fs.flatMap attributeChars ++ '>' :: b) :
    es = fs ∧ a = b := by
  induction es generalizing fs with
  | nil =>
    cases fs with
    | nil => exact ⟨rfl, (List.cons.inj h).2⟩
    | cons f fs => exact absurd (List.cons.inj h).1 (by decide)
  | cons e es ih =>
    cases fs with
    | nil => exact absurd (List.cons.inj h).1 (by decide)
    | cons f fs =>
      obtain ⟨name, value⟩ := e
      obtain ⟨name', value'⟩ := f
      rw [List.forall_mem_cons] at hes hfs
      simp only [List.flatMap_cons, attributeChars, List.cons_append, List.append_assoc,
        List.nil_append, List.cons.injEq, true_and] at h
      obtain ⟨rfl, hbehind⟩ := eq_of_name_append hes.1 hfs.1 (fun c hc => by cases hc; rfl)
        (fun c hc => by cases hc; rfl) h
      simp only [List.cons.injEq, true_and] at hbehind
      obtain ⟨rfl, hmore⟩ := eq_of_value_append hbehind
      obtain ⟨rfl, hrest⟩ := ih hes.2 hfs.2 hmore
      exact ⟨rfl, hrest⟩

/-! What comes next -/

/-- How text goes on: it ends, also the element around it, or with characters, or with a tag. -/
inductive Beginning where
  | ending
  | content
  | tag
  deriving DecidableEq, Repr

def beginning : List Char → Beginning
  | [] => .ending
  | '<' :: '/' :: _ => .ending
  | '<' :: _ => .tag
  | _ => .content

def beginningOf : List Node → Beginning
  | [] => .ending
  | .text _ _ :: _ => .content
  | .element _ :: _ => .tag

theorem beginning_of_ne {c : Char} (h : c ≠ '<') (cs : List Char) :
    beginning (c :: cs) = .content := by
  unfold beginning
  split <;> simp_all

theorem beginning_escapeTextChar (c : Char) (rest : List Char) :
    beginning (escapeTextChar c ++ rest) = .content := by
  unfold escapeTextChar
  split
  · rfl
  · rfl
  · rfl
  · rename_i hlt _
    exact beginning_of_ne hlt rest

theorem beginning_tag {c : Char} (h : c ≠ '/') (cs : List Char) :
    beginning ('<' :: c :: cs) = .tag := by
  unfold beginning
  split <;> simp_all

theorem head?_of_beginning {cs : List Char} (h : beginning cs ≠ .content) :
    ∀ c ∈ cs.head?, c = '<' := by
  intro c hc
  cases cs with
  | nil => cases hc
  | cons x xs =>
    cases hc
    by_contra hne
    exact h (beginning_of_ne hne xs)

/-- Of tidy nodes and an end behind them it can be seen with what they begin. -/
theorem beginning_ofNodes {l : List Node} (hl : MarkupNode.areTidy (Node.markupAll l) = true)
    {r : List Char} (hr : beginning r = .ending) :
    beginning ((ofNodes l).toList ++ r) = beginningOf l := by
  cases l with
  | nil =>
    rw [ofNodes]
    exact hr
  | cons n rest =>
    cases n with
    | text id content =>
      rw [Node.markupAll, MarkupNode.areTidy_text_iff] at hl
      obtain ⟨c, cs, hcs⟩ := List.exists_cons_of_ne_nil
        (fun hnil => hl.1 (String.toList_eq_nil_iff.mp hnil) : content.toList ≠ [])
      rw [toList_ofNodes_text, hcs, List.flatMap_cons, List.append_assoc, List.append_assoc]
      exact beginning_escapeTextChar c _
    | element e =>
      obtain ⟨id, tag, attributes, children⟩ := e
      rw [Node.markupAll, Element.markup, MarkupNode.areTidy_element_iff] at hl
      obtain ⟨c, cs, htag, hlower⟩ : ∃ c cs, tag.toList = c :: cs ∧ c.isLower = true := by
        have hplain := hl.1.plain
        rw [Text.isPlain, Bool.and_eq_true, Option.any_eq_true] at hplain
        obtain ⟨⟨c, hc, hlower⟩, -⟩ := hplain
        obtain ⟨cs, hcs⟩ := List.head?_eq_some_iff.mp hc
        exact ⟨c, cs, hcs, hlower⟩
      have hslash : c ≠ '/' := by
        rintro rfl
        cases hlower
      rw [toList_ofNodes_element, htag, List.cons_append, List.cons_append, List.cons_append,
        beginning_tag hslash]
      rfl

/-- Behind a text comes no other one, so that the next character is no character of a text. -/
theorem head?_behind_text {l : List Node} (hl : MarkupNode.areTidy (Node.markupAll l) = true)
    (hnext : (Node.markupAll l).head?.any MarkupNode.isText = false) {r : List Char}
    (hr : beginning r = .ending) : ∀ c ∈ ((ofNodes l).toList ++ r).head?, c = '<' := by
  apply head?_of_beginning
  rw [beginning_ofNodes hl hr]
  cases l with
  | nil =>
    intro hother
    cases hother
  | cons n rest =>
    cases n with
    | text id content =>
      rw [Node.markupAll] at hnext
      cases hnext
    | element e =>
      intro hother
      cases hother

/-! Reading back -/

/-- What is inside two elements of the same tag and what is behind them. -/
theorem eq_of_inside_append {tag : String} {children children' : List Node} {a b : List Char}
    (hvoid : voidTags.contains tag = true →
      Node.markupAll children = [] ∧ Node.markupAll children' = [])
    (hchildren : ∀ r r' : List Char, beginning r = .ending → beginning r' = .ending →
      (ofNodes children).toList ++ r = (ofNodes children').toList ++ r' →
      Node.markupAll children = Node.markupAll children' ∧ r = r')
    (h : insideChars tag children ++ a = insideChars tag children' ++ b) :
    Node.markupAll children = Node.markupAll children' ∧ a = b := by
  unfold insideChars at h
  by_cases hv : voidTags.contains tag = true
  · rw [if_pos hv, if_pos hv] at h
    rw [(hvoid hv).1, (hvoid hv).2]
    exact ⟨rfl, h⟩
  · rw [if_neg hv, if_neg hv, List.append_assoc, List.append_assoc] at h
    obtain ⟨hsame, hend⟩ := hchildren _ _ rfl rfl h
    simp only [List.cons_append, List.append_assoc, List.cons.injEq, true_and,
      List.append_cancel_left_eq, List.nil_append] at hend
    exact ⟨hsame, hend⟩

/-- What is written begins alike only where the nodes do. -/
theorem beginningOf_eq {l m : List Node} (hl : MarkupNode.areTidy (Node.markupAll l) = true)
    (hm : MarkupNode.areTidy (Node.markupAll m) = true) {r r' : List Char}
    (hr : beginning r = .ending) (hr' : beginning r' = .ending)
    (h : (ofNodes l).toList ++ r = (ofNodes m).toList ++ r') : beginningOf l = beginningOf m := by
  rw [← beginning_ofNodes hl hr, h, beginning_ofNodes hm hr']

theorem eq_of_ofNodes_append {l m : List Node}
    (hl : MarkupNode.areTidy (Node.markupAll l) = true)
    (hm : MarkupNode.areTidy (Node.markupAll m) = true) {r r' : List Char}
    (hr : beginning r = .ending) (hr' : beginning r' = .ending)
    (h : (ofNodes l).toList ++ r = (ofNodes m).toList ++ r') :
    Node.markupAll l = Node.markupAll m ∧ r = r' := by
  induction l using Node.forest_induction generalizing m r r' with
  | nil =>
    have hsame := beginningOf_eq hl hm hr hr' h
    cases m with
    | nil => exact ⟨rfl, h⟩
    | cons n rest =>
      cases n with
      | text _ _ => cases hsame
      | element _ => cases hsame
  | text id content rest ih =>
    have hsame := beginningOf_eq hl hm hr hr' h
    cases m with
    | nil => cases hsame
    | cons n rest' =>
      cases n with
      | element _ => cases hsame
      | text id' content' =>
        rw [Node.markupAll, MarkupNode.areTidy_text_iff] at hl hm
        obtain ⟨-, hnext, hl⟩ := hl
        obtain ⟨-, hnext', hm⟩ := hm
        rw [toList_ofNodes_text, toList_ofNodes_text, List.append_assoc, List.append_assoc] at h
        obtain ⟨rfl, hrest⟩ := eq_of_text_append (head?_behind_text hl hnext hr)
          (head?_behind_text hm hnext' hr') h
        obtain ⟨hmarkup, hend⟩ := ih hl hm hr hr' hrest
        rw [Node.markupAll, Node.markupAll, hmarkup]
        exact ⟨rfl, hend⟩
  | element id tag attributes children rest ihc ihr =>
    have hsame := beginningOf_eq hl hm hr hr' h
    cases m with
    | nil => cases hsame
    | cons n rest' =>
      cases n with
      | text _ _ => cases hsame
      | element e =>
        obtain ⟨id', tag', attributes', children'⟩ := e
        rw [Node.markupAll, Element.markup, MarkupNode.areTidy_element_iff] at hl hm
        obtain ⟨htag, hchildren, hl⟩ := hl
        obtain ⟨htag', hchildren', hm⟩ := hm
        rw [toList_ofNodes_element, toList_ofNodes_element] at h
        simp only [List.cons_append, List.append_assoc, List.cons.injEq, true_and] at h
        obtain ⟨rfl, hopening⟩ := eq_of_name_append htag.plain htag'.plain (head?_attributes _ _)
          (head?_attributes _ _) h
        obtain ⟨hentries, hinside⟩ := eq_of_attributes_append htag.names htag'.names hopening
        obtain rfl : attributes = attributes' := by
          cases attributes
          cases attributes'
          cases hentries
          rfl
        obtain ⟨hbelow, hbehind⟩ := eq_of_inside_append
          (fun hvoid => ⟨htag.ended hvoid, htag'.ended hvoid⟩)
          (fun s s' hs hs' hsame => ihc hchildren hchildren' hs hs' hsame) hinside
        obtain ⟨hmarkup, hend⟩ := ihr hl hm hr hr' hbehind
        rw [Node.markupAll, Node.markupAll, Element.markup, Element.markup, hbelow, hmarkup]
        exact ⟨rfl, hend⟩

/-- The markup of a document can be told from its HTML. -/
theorem eq_of_ofElement_eq {s t : Markup} (hs : s.isTidy = true) (ht : t.isTidy = true)
    (h : ofElement (Document.ofMarkup s).root = ofElement (Document.ofMarkup t).root) : s = t := by
  have hread : ∀ u : Markup, u.isTidy = true →
      Node.markupAll [.element (Document.ofMarkup u).root] = [.element u] := by
    intro u hu
    have htidy : MarkupNode.areTidy [.element u] = true := by
      rw [MarkupNode.areTidy, MarkupNode.areTidy, hu]
      rfl
    have hall := MarkupNode.markupAll_numberAll 0 [.element u]
    rwa [MarkupNode.loweredAll_of_areTidy htidy, MarkupNode.numberAll, MarkupNode.numberAll] at hall
  have htidy : ∀ u : Markup, u.isTidy = true →
      MarkupNode.areTidy (Node.markupAll [.element (Document.ofMarkup u).root]) = true := by
    intro u hu
    rw [hread u hu, MarkupNode.areTidy, MarkupNode.areTidy, hu]
    rfl
  have hnodes : (ofNodes [.element (Document.ofMarkup s).root]).toList ++ []
      = (ofNodes [.element (Document.ofMarkup t).root]).toList ++ [] := by
    rw [ofNodes, ofNodes, ofNodes, ofNodes, h]
  obtain ⟨hsame, -⟩ := eq_of_ofNodes_append (htidy s hs) (htidy t ht) rfl rfl hnodes
  rw [hread s hs, hread t ht] at hsame
  cases hsame
  rfl

/-- A value and a text that look like markup. The first paragraph is put together step by step. -/
theorem eq_of_ofElement_eq_lookalike :
    let written := "<p title=\"x&quot;&amp;quot; id=&quot;>\">1 &lt; 2 &amp;lt; &lt;/p&gt;<br>!</p>"
    let s := [MarkupStep.setAttribute "title" "x\"&quot; id=\">", .appendText "1 < 2 &lt; </p>",
      .appendElement (.ofTag "br"), .appendText "!"].foldl Markup.apply (.ofTag "p")
    let t : Markup := ⟨"p", .ofList [("title", "?"), ("title", "x\"&quot; id=\">")],
      [.text "1 < 2 &lt; </p>", .element (.ofTag "br"), .text "!"]⟩
    ofElement (Document.ofMarkup s).root = written ∧
      ofElement (Document.ofMarkup t).root = written ∧ s = t := by
  intro written s t
  have hs : ofElement (Document.ofMarkup s).root = written := by decide +kernel
  have ht : ofElement (Document.ofMarkup t).root = written := by decide +kernel
  exact ⟨hs, ht, eq_of_ofElement_eq (by decide +kernel) (by decide +kernel) (hs.trans ht.symm)⟩

end Html

end Pinpoint
