import StabilizerPrep.Document.Codec
import StabilizerPrep.Number.Decimal
import StabilizerPrep.Report.Basic
import StabilizerPrep.Template.Statistics

/-!
# Reports on tables

The statistics of some tables, one line for each. If there is only one table,
the histogram of its costs follows.
-/

namespace StabilizerPrep

set_option autoImplicit false

namespace Average

def document (average : Average) : Document :=
  .numeral average.value.shortest.text

def text (average : Average) : String :=
  (average.value.toPlaces 2).text

end Average

namespace Histogram

def document (entries : List (Nat × Nat)) : Document :=
  .record (entries.map fun (value, count) => (.number value, .natural count))

def barLength : Nat :=
  40

/-- The bar of a count, where `widest` is the largest count. It is rounded up,
so that every count has a bar. -/
def bar (widest count : Nat) : String :=
  .ofList (List.replicate ((count * barLength + widest - 1) / widest) '█')

def lines (entries : List (Nat × Nat)) : List String :=
  let widest := (entries.map (·.2)).foldl max 1
  entries.map fun (value, count) =>
    "  " ++ Text.alignRight 4 (Nat.repr value) ++ ": " ++ Text.alignRight 4 (Nat.repr count) ++
      " " ++ bar widest count

end Histogram

namespace Statistics

def document (statistics : Statistics) : Document :=
  .named
    [("num_qubits", .natural statistics.qubits),
      ("connectivity", statistics.device.document),
      ("num_classes", .natural statistics.classes),
      ("average_cost", statistics.averageCost.document),
      ("average_depth", statistics.averageDepth.document),
      ("max_cost", .natural statistics.maxCost),
      ("max_depth", .natural statistics.maxDepth),
      ("cost_histogram", Histogram.document statistics.costs),
      ("depth_histogram", Histogram.document statistics.depths)]

/-- A row of the overview. The second column is aligned to the left, all
others to the right. -/
def row (qubits device classes averageCost averageDepth maxCost maxDepth : String) : String :=
  "  " ++ Text.alignRight 6 qubits ++ "  " ++ Text.alignLeft 8 device ++ " " ++
    " ".intercalate
      [Text.alignRight 7 classes, Text.alignRight 9 averageCost, Text.alignRight 9 averageDepth,
        Text.alignRight 8 maxCost, Text.alignRight 9 maxDepth]

def header : String :=
  row "qubits" "conn" "classes" "avg cost" "avg depth" "max cost" "max depth"

def line (statistics : Statistics) : String :=
  row (Nat.repr statistics.qubits) statistics.device.name (Nat.repr statistics.classes)
    statistics.averageCost.text statistics.averageDepth.text
    (Nat.repr statistics.maxCost) (Nat.repr statistics.maxDepth)

def report (sourceName : String) (tables : List Statistics) : Report :=
  { lines :=
      [s!"htstab Template statistics ({sourceName})", "", header] ++ tables.map line ++
        (match tables with
        | [table] => ["", "  Cost histogram:"] ++ Histogram.lines table.costs
        | _ => [])
    document := .list (tables.map document) }

end Statistics

end StabilizerPrep
