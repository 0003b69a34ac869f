import StabilizerPrep.Number.Binary64
import StabilizerPrep.Template.Table

/-!
# Table statistics

The declared costs and depths of a table in summary: averages, maxima and
histograms.
-/

namespace StabilizerPrep

set_option autoImplicit false

structure Average where
  total : Nat
  count : Nat
  deriving DecidableEq, Repr

def Average.value (average : Average) : Number.Binary64 :=
  .ofQuotient average.total average.count

def Histogram.add (value : Nat) : List (Nat × Nat) → List (Nat × Nat)
  | [] => [(value, 1)]
  | (first, count) :: rest =>
      if value < first then (value, 1) :: (first, count) :: rest
      else if value = first then (first, count + 1) :: rest
      else (first, count) :: Histogram.add value rest

def Histogram.ofList (values : List Nat) : List (Nat × Nat) :=
  values.foldr Histogram.add []

structure Statistics where
  qubits : Nat
  device : Device
  classes : Nat
  averageCost : Average
  averageDepth : Average
  maxCost : Nat
  maxDepth : Nat
  costs : List (Nat × Nat)
  depths : List (Nat × Nat)
  deriving DecidableEq, Repr

def Table.statistics (table : Table) : Statistics :=
  let costs := table.templates.map (·.cost)
  let depths := table.templates.map (·.depth)
  let classes := table.templates.length
  { qubits := table.qubits
    device := table.device
    classes := classes
    averageCost := ⟨costs.sum, classes⟩
    averageDepth := ⟨depths.sum, classes⟩
    maxCost := costs.foldl max 0
    maxDepth := depths.foldl max 0
    costs := Histogram.ofList costs
    depths := Histogram.ofList depths }

end StabilizerPrep
