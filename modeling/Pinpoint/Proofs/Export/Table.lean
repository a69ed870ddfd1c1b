import Mathlib.Data.List.Forall2
import Pinpoint.Export.Render
import Pinpoint.Proofs.Json.Text
import Pinpoint.Proofs.Text.Lines

/-! Test cases as a table. Whatever stands in the fields, each test case has one line, and the four
fields can be read back from it. -/

namespace Pinpoint

namespace Export

def csvFields (c : TestCase) : List String :=
  [c.heading, c.target, " | ".intercalate c.steps, c.expected]

theorem csvRow_eq (c : TestCase) : csvRow c = Json.listText (csvFields c) := rfl

theorem newline_not_mem_csvRow (c : TestCase) : '\n' ∉ (csvRow c).toList := by
  rw [csvRow_eq]
  exact Json.newline_not_mem_listText _

end Export

open Export

/-- A table has a line of headings and behind it one row for each test case, in order. Between
brackets a row is a JSON list of four strings: title, target, steps and outcome. -/
theorem ExportFormat.rows_of_render_csv (cases : List TestCase) :
    ∃ rows,
      Text.split '\n' (ExportFormat.csv.render cases) = "title,target,steps,expected" :: rows ∧
      List.Forall₂ (fun row c => Json.parse ("[" ++ row ++ "]") =
        some (.array [.string (if c.title = "" then "Test case" else c.title), .string c.target,
          .string (" | ".intercalate c.steps), .string c.expected])) rows cases := by
  refine ⟨cases.map csvRow, Text.split_intercalate (List.cons_ne_nil _ _) ?_, ?_⟩
  · intro line hline
    rcases List.mem_cons.mp hline with rfl | hline
    · decide
    · obtain ⟨c, -, rfl⟩ := List.mem_map.mp hline
      exact newline_not_mem_csvRow c
  · rw [List.forall₂_map_left_iff, List.forall₂_same]
    intro c _
    exact Json.parse_listText (csvFields c)

end Pinpoint
