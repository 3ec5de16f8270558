/-
  NativeBridge/Proofs/Listing.lean
  ================================
  **What a check prints.**  `Report.Listed` says line by line what stands in a listing, and
  entry by entry what is read from it if it is a JSON document.  Everything that a report
  says is in both forms (`listed_shown`).
-/
import NativeBridge.Command.Report
import NativeBridge.Proofs.JsonText
import NativeBridge.Proofs.Lines

namespace NativeBridge.Command

open NativeBridge.Text (Json)

/-- A text lists a report: as lines, one for each bridge below the numbers, or as a JSON
    document. -/
structure Report.Listed (report : Report) (json : Bool) (text : String) : Prop where
  lines : json = false → text = linesText (
    ["Catalog " ++ report.catalog ++ ": OK",
      "  Types:    " ++ toString report.types,
      "  Bridges:  " ++ toString report.bridges.length,
      "  Excluded: " ++ toString report.excluded] ++
    report.bridges.map fun s =>
      "  " ++ s.symbol ++ " (" ++ ", ".intercalate s.params ++ ") -> " ++ s.returns ++
        " [" ++ toString s.conversions ++ " conversion(s)]")
  document : json = true → Json.ofText text = some (.object
    [("catalog", .text report.catalog),
      ("types", .number report.types),
      ("excluded", .number report.excluded),
      ("bridges", .list (report.bridges.map fun s => .object
        [("symbol", .text s.symbol),
          ("params", .list (s.params.map .text)),
          ("returns", .text s.returns),
          ("conversions", .number s.conversions)]))])

theorem Summary.line_eq (s : Summary) :
    s.line = "  " ++ s.symbol ++ " (" ++ ", ".intercalate s.params ++ ") -> " ++ s.returns ++
      " [" ++ toString s.conversions ++ " conversion(s)]" ++ "\n" := by
  have hend : " conversion(s)]\n" = " conversion(s)]" ++ "\n" := rfl
  rw [Summary.line, hend]
  simp only [String.append_assoc]
  rfl

theorem Report.text_eq (report : Report) :
    report.text = "Catalog " ++ report.catalog ++ ": OK" ++ "\n" ++
      ("  Types:    " ++ toString report.types ++ "\n" ++
      ("  Bridges:  " ++ toString report.bridges.length ++ "\n" ++
      ("  Excluded: " ++ toString report.excluded ++ "\n" ++
        String.join (report.bridges.map Summary.line)))) := by
  have hend : ": OK\n" = ": OK" ++ "\n" := rfl
  rw [Report.text, hend]
  simp only [String.append_assoc]
  rfl

/-- **A report is listed** in whatever form it is shown. -/
theorem Report.listed_shown (report : Report) (json : Bool) :
    report.Listed json (report.shown json) := by
  constructor
  case lines =>
    rintro rfl
    change report.text = _
    rw [text_eq, List.cons_append, List.cons_append, List.cons_append, List.cons_append,
      List.nil_append, linesText_cons, linesText_cons, linesText_cons, linesText_cons, linesText,
      List.map_map]
    have hlines := List.map_congr_left (l := report.bridges) fun s _ => s.line_eq
    rw [hlines]
    rfl
  case document =>
    rintro rfl
    exact Json.ofText_layout report.json

end NativeBridge.Command
