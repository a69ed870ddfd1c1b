import Pinpoint.Proofs.Wire.Fixture
import Pinpoint.Wire.Messages
import Pinpoint.Wire.Settings

/-! Everything that goes over the wire comes back as it was. Names are read by their tables, records
member by member, and no member of one kind of message makes up another kind. -/

namespace Pinpoint

/-- A name means its own verb, whatever else is read as a click. -/
theorem Verb.parse_name (v : Verb) : parse v.name = v := by
  cases v <;> decide +kernel

namespace Wire

open Json

/-! Records -/

theorem locatorKind?_ofLocatorKind (k : LocatorKind) :
    locatorKind? (ofLocatorKind k) = some k := by
  cases k <;> rfl

theorem resolution?_ofResolution (r : Resolution) : resolution? (ofResolution r) = some r := by
  cases r <;> rfl

theorem locator?_ofLocator (l : Locator) : locator? (ofLocator l) = some l := by
  simp [locator?, ofLocator, required, locatorKind?_ofLocatorKind,
    resolution?_ofResolution, Value.text?]

theorem dialect?_ofDialect (d : Dialect) : dialect? (ofDialect d) = some d :=
  Dialect.ofName?_name d

theorem verb?_ofVerb (v : Verb) : verb? (ofVerb v) = some v :=
  congrArg some (Verb.parse_name v)

theorem previewItem?_ofPreviewEntry {dialectAt? : Value → Option Dialect}
    (h : ∀ d, dialectAt? (ofDialect d) = some d) (e : PreviewEntry) :
    previewItem? dialectAt? (ofPreviewEntry e) = some e := by
  simp [previewItem?, ofPreviewEntry, required, h, Value.text?]

theorem testCase?_ofTestCase (c : TestCase) : testCase? (ofTestCase c) = some c := by
  simp [testCase?, ofTestCase, required, Value.text?]

theorem descriptor?_ofDescriptor (d : Descriptor) : descriptor? (ofDescriptor d) = some d := by
  dsimp only [descriptor?, ofDescriptor, Value.record?, Option.bind_eq_bind, Option.bind_some]
  -- Member by member: what is done with a text is looked at when the text is known.
  simp [↓Option.bind_eq_some_iff, required, Value.text?]

theorem settings?_ofSettings (s : Settings) : settings? (ofSettings s) = some s := by
  have hdialects := Value.list?_map dialect?_ofDialect s.previewDialects
  dsimp only [settings?, ofSettings, Value.record?, Option.bind_eq_bind, Option.bind_some]
  simp [↓Option.bind_eq_some_iff, defaulted, Value.text?, Value.count?, hdialects]

theorem pickResult?_object (r : PickResult) {members : List (String × Value)}
    (hlocator : valuesOf members "locator" = [.string r.locator])
    (hdescriptor : valuesOf members "descriptor" = [.ofOption ofDescriptor r.descriptor]) :
    pickResult? (.object members) = some r := by
  have hread := Value.nullable?_ofOption descriptor?_ofDescriptor rfl r.descriptor
  simp [pickResult?, required, Json.optional, defaulted, hlocator, hdescriptor,
    Value.text?, hread]

theorem pickResult?_ofPickResult (r : PickResult) : pickResult? (ofPickResult r) = some r := by
  apply pickResult?_object <;> simp [pickMembers]

theorem previewFrameWith?_ofPreviewFrame {dialectAt? : Value → Option Dialect}
    (h : ∀ d, dialectAt? (ofDialect d) = some d) (f : PreviewFrame) :
    previewFrameWith? dialectAt? (ofPreviewFrame f) = some f := by
  have hentries := Value.list?_map (previewItem?_ofPreviewEntry h) f.preview
  simp [previewFrameWith?, ofPreviewFrame, frameMembers, required, Value.text?, hentries]

theorem previewFrame?_ofPreviewFrame (f : PreviewFrame) :
    previewFrame? (ofPreviewFrame f) = some f :=
  previewFrameWith?_ofPreviewFrame dialect?_ofDialect f

/-! Messages, which are kept whole before their type is known -/

theorem keepable_ofDescriptor (d : Descriptor) : (ofDescriptor d).Keepable 2 := by
  apply Value.keepable_object
  simp [Value.keepable_string, Value.keepable_ofTexts]

theorem keepable_ofPreviewFrame (f : PreviewFrame) : (ofPreviewFrame f).Keepable 3 := by
  have hentry : ∀ e, (ofPreviewEntry e).Keepable 1 := by
    intro e
    apply Value.keepable_object
    simp [ofDialect, Value.keepable_string]
  apply Value.keepable_object
  simp [frameMembers, Value.keepable_string, Value.keepable_map hentry]

theorem keepable_ofTestCases (cases : List TestCase) : (ofTestCases cases).Keepable 3 := by
  apply Value.keepable_map
  intro c
  apply Value.keepable_object
  simp [Value.keepable_string, Value.keepable_ofTexts]

theorem keepable_ofRequest (r : Request) : (ofRequest r).Keepable 1 := by
  have htext := Value.keepable_ofOption (Value.keepable_string 0)
  cases r <;> apply Value.keepable_object <;> simp [Value.keepable_string, htext, ofVerb]

theorem keepable_ofResponse (r : Response) : (ofResponse r).Keepable 4 := by
  cases r with
  | ack ok => exact Value.keepable_object (by simp [Value.keepable_bool])
  | snippet text copied =>
    exact Value.keepable_object (by simp [Value.keepable_bool, Value.keepable_string])
  | preview frame =>
    have h := keepable_ofPreviewFrame frame
    exact ⟨h.sound, Nat.le_succ_of_le h.depth_le⟩
  | testCases cases => exact Value.keepable_object (by simp [keepable_ofTestCases])

theorem keepable_ofEvent (e : Event) : (ofEvent e).Keepable 4 := by
  cases e with
  | picked result =>
    have hdescriptor : ∀ d, (ofDescriptor d).Keepable 3 := by
      intro d
      have h := keepable_ofDescriptor d
      exact ⟨h.sound, Nat.le_succ_of_le h.depth_le⟩
    apply Value.keepable_object
    simp [pickMembers, Value.keepable_string, Value.keepable_ofOption hdescriptor]
  | livePreview frame =>
    apply Value.keepable_object
    simp [Value.keepable_string, keepable_ofPreviewFrame]

theorem request?_ofRequest (r : Request) : request? (ofRequest r) = some r := by
  have hkeep : keep? 0 (ofRequest r) = some (ofRequest r) :=
    keep?_of_keepable (keepable_ofRequest r) (by decide)
  have htext : ∀ o : Option String, Value.nullable? Value.text? (.ofOption .string o) = some o :=
    Value.nullable?_ofOption (fun _ => rfl) rfl
  rw [request?, hkeep]
  cases r <;>
    simp [ofRequest, Value.type?, Value.payload, bare?, copySnippet?, copyAction?, preview?,
      required, Json.optional, defaulted, Value.text?, htext, requestDialect?, verb?_ofVerb]

/-- A request may be the list of its values with its type in front. -/
example : request? (.array [.string "COPY_SNIPPET", .null, .string "xpath"]) =
    some (.copySnippet none "xpath") := by decide +kernel

theorem response?_ofResponse (r : Response) : response? (ofResponse r) = some r := by
  have hkeep : keep? 0 (ofResponse r) = some (ofResponse r) :=
    keep?_of_keepable (keepable_ofResponse r) (by decide)
  rw [response?, hkeep]
  cases r with
  | ack ok => simp [ofResponse, ack?, Value.members?, required, Value.bool?]
  | snippet text copied =>
    simp [ofResponse, ack?, snippet?, Value.members?, required, Value.bool?, Value.text?]
  | preview frame =>
    have hread : previewFrame? (.object (frameMembers frame)) = some frame :=
      previewFrame?_ofPreviewFrame frame
    have hack : ack? (.object (frameMembers frame)) = none := by
      simp [ack?, Value.members?, required, frameMembers]
    have hsnippet : snippet? (.object (frameMembers frame)) = none := by
      simp [snippet?, Value.members?, required, frameMembers]
    simp [ofResponse, ofPreviewFrame, hack, hsnippet, hread]
  | testCases cases =>
    have hread : Value.list? testCase? (ofTestCases cases) = some cases :=
      Value.list?_map testCase?_ofTestCase cases
    simp [ofResponse, ack?, snippet?, testCases?, previewFrame?, previewFrameWith?,
      Value.members?, required, hread]

/-- An event is known by its type. -/
theorem event?_ofEvent (e : Event) : event? (ofEvent e) = some e := by
  have hkeep : keep? 0 (ofEvent e) = some (ofEvent e) :=
    keep?_of_keepable (keepable_ofEvent e) (by decide)
  rw [event?, hkeep]
  cases e with
  | picked result =>
    have hread : pickResult? (.object (("type", .string "SELECTOR_PICKED") :: pickMembers result)) =
        some result := by
      apply pickResult?_object <;> simp [pickMembers]
    have htype : Value.type? (.object (("type", .string "SELECTOR_PICKED") :: pickMembers result)) =
        some "SELECTOR_PICKED" := by
      simp [Value.type?, required, pickMembers, Value.text?]
    simp [ofEvent, Value.payload, htype, hread]
  | livePreview frame =>
    have hdialect : ∀ d, eventDialect? (ofDialect d) = some d := dialect?_ofDialect
    have hread := previewFrameWith?_ofPreviewFrame hdialect frame
    simp [ofEvent, Value.type?, Value.payload, livePreview?, required, Value.text?, hread]

/-! The whole wire -/

/-- What goes over the wire comes back as it was; only markup that is nested too deep does not. -/
theorem lossless :
    (Lossless ofRequest request? ∧ Lossless ofResponse response? ∧ Lossless ofEvent event?) ∧
    (Lossless ofPickResult pickResult? ∧ Lossless ofPreviewFrame previewFrame? ∧
      Lossless ofTestCase testCase? ∧ Lossless ofDescriptor descriptor? ∧
      Lossless ofLocator locator? ∧ Lossless ofSettings settings?) ∧
    LosslessWithin depthLimit ofFixture fixture? ∧
    ∀ nodes, markupNodes? (ofMarkupNodes nodes) = some nodes := by
  refine ⟨⟨?_, ?_, ?_⟩, ⟨?_, ?_, ?_, ?_, ?_, ?_⟩, ?_, markupNodes?_ofMarkupNodes⟩
  · exact lossless_of_read_write request?_ofRequest
  · exact lossless_of_read_write response?_ofResponse
  · exact lossless_of_read_write event?_ofEvent
  · exact lossless_of_read_write pickResult?_ofPickResult
  · exact lossless_of_read_write previewFrame?_ofPreviewFrame
  · exact lossless_of_read_write testCase?_ofTestCase
  · exact lossless_of_read_write descriptor?_ofDescriptor
  · exact lossless_of_read_write locator?_ofLocator
  · exact lossless_of_read_write settings?_ofSettings
  · exact losslessWithin_of_read_write fixture?_ofFixture

end Wire

end Pinpoint
