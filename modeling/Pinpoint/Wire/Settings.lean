import Pinpoint.Wire.Values

/-! Settings as JSON. What is absent has its standard value. -/

namespace Pinpoint.Wire

open Json

def ofSettings (s : Settings) : Value :=
  .object [("test_id_attributes", .ofTexts s.testAttributes),
    ("max_class_predicates", .natural s.maxClassPredicates),
    ("max_descriptor_classes", .natural s.maxDescriptorClasses),
    ("text_limit", .natural s.textLimit), ("markup_limit", .natural s.markupLimit),
    ("outline_style", .string s.outlineStyle),
    ("target_placeholder", .string s.targetPlaceholder),
    ("file_placeholder", .string s.filePlaceholder),
    ("preview_dialects", .array (s.previewDialects.map ofDialect))]

def settings? (v : Value) : Option Settings := do
  let members ← v.record? 0
    ["test_id_attributes", "max_class_predicates", "max_descriptor_classes", "text_limit",
      "markup_limit", "outline_style", "target_placeholder", "file_placeholder",
      "preview_dialects"]
  let standard := Settings.standard
  let testAttributes ←
    defaulted members "test_id_attributes" standard.testAttributes (Value.list? Value.text?)
  let maxClassPredicates ←
    defaulted members "max_class_predicates" standard.maxClassPredicates Value.count?
  let maxDescriptorClasses ←
    defaulted members "max_descriptor_classes" standard.maxDescriptorClasses Value.count?
  let textLimit ← defaulted members "text_limit" standard.textLimit Value.count?
  let markupLimit ← defaulted members "markup_limit" standard.markupLimit Value.count?
  let outlineStyle ← defaulted members "outline_style" standard.outlineStyle Value.text?
  let targetPlaceholder ←
    defaulted members "target_placeholder" standard.targetPlaceholder Value.text?
  let filePlaceholder ← defaulted members "file_placeholder" standard.filePlaceholder Value.text?
  let previewDialects ←
    defaulted members "preview_dialects" standard.previewDialects (Value.list? dialect?)
  some ⟨testAttributes, maxClassPredicates, maxDescriptorClasses, textLimit, markupLimit,
    outlineStyle, targetPlaceholder, filePlaceholder, previewDialects⟩

end Pinpoint.Wire
