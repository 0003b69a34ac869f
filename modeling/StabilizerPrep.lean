import StabilizerPrep.Basis.Table
import StabilizerPrep.Bundled.Bases
import StabilizerPrep.Bundled.Files
import StabilizerPrep.Bundled.Five
import StabilizerPrep.Bundled.Row
import StabilizerPrep.Bundled.SixAll
import StabilizerPrep.Bundled.SixE
import StabilizerPrep.Bundled.SixH
import StabilizerPrep.Bundled.SixLadder
import StabilizerPrep.Bundled.SixLinear
import StabilizerPrep.Bundled.SixQ
import StabilizerPrep.Bundled.SixStar
import StabilizerPrep.Bundled.Small
import StabilizerPrep.Circuit.Basic
import StabilizerPrep.Circuit.Fault
import StabilizerPrep.Circuit.Instruction
import StabilizerPrep.Circuit.Metrics
import StabilizerPrep.Circuit.Spec
import StabilizerPrep.CommandLine.Arguments
import StabilizerPrep.CommandLine.Command
import StabilizerPrep.CommandLine.Run
import StabilizerPrep.Device.Coupling
import StabilizerPrep.Device.Name
import StabilizerPrep.Document.Basic
import StabilizerPrep.Document.Codec
import StabilizerPrep.Document.Json
import StabilizerPrep.Document.JsonReader
import StabilizerPrep.Document.Yaml
import StabilizerPrep.Entanglement.Classification
import StabilizerPrep.Entanglement.Distribution
import StabilizerPrep.Entanglement.LocalClass
import StabilizerPrep.Entanglement.Representative
import StabilizerPrep.Entanglement.Structure
import StabilizerPrep.Fault
import StabilizerPrep.Gate
import StabilizerPrep.Generator
import StabilizerPrep.Graph.Adjacency
import StabilizerPrep.Graph.Basic
import StabilizerPrep.Graph.Compressed
import StabilizerPrep.Graph.Family
import StabilizerPrep.Layer.Basic
import StabilizerPrep.Layer.Solver
import StabilizerPrep.Main
import StabilizerPrep.Mask
import StabilizerPrep.Matrix.Basic
import StabilizerPrep.Matrix.Elimination
import StabilizerPrep.Number.Binary64
import StabilizerPrep.Number.Decimal
import StabilizerPrep.Number.Rounding
import StabilizerPrep.Pairs
import StabilizerPrep.Partition.Roles
import StabilizerPrep.Partition.Shape
import StabilizerPrep.Pauli.Basic
import StabilizerPrep.Pauli.Text
import StabilizerPrep.Proofs.Bits
import StabilizerPrep.Proofs.Board
import StabilizerPrep.Proofs.BundledSynthesis
import StabilizerPrep.Proofs.BundledTables
import StabilizerPrep.Proofs.CircuitHistory
import StabilizerPrep.Proofs.ClassNumbers
import StabilizerPrep.Proofs.Classification
import StabilizerPrep.Proofs.Elimination
import StabilizerPrep.Proofs.GraphCode
import StabilizerPrep.Proofs.GraphForm
import StabilizerPrep.Proofs.Group
import StabilizerPrep.Proofs.Invariance
import StabilizerPrep.Proofs.LayerAction
import StabilizerPrep.Proofs.LayerCircuit
import StabilizerPrep.Proofs.LayerSolver
import StabilizerPrep.Proofs.LinearSystems
import StabilizerPrep.Proofs.LocalComplement
import StabilizerPrep.Proofs.LocalEquivalence
import StabilizerPrep.Proofs.Metrics
import StabilizerPrep.Proofs.Operators
import StabilizerPrep.Proofs.Orbits
import StabilizerPrep.Proofs.PauliProduct
import StabilizerPrep.Proofs.Preparation
import StabilizerPrep.Proofs.Relabelling
import StabilizerPrep.Proofs.Requests
import StabilizerPrep.Proofs.Routes
import StabilizerPrep.Proofs.SignRotation
import StabilizerPrep.Proofs.Simulation
import StabilizerPrep.Proofs.SpecGrammar
import StabilizerPrep.Proofs.StructureOrbits
import StabilizerPrep.Proofs.Survey
import StabilizerPrep.Proofs.TableText
import StabilizerPrep.Proofs.TemplateBoards
import StabilizerPrep.Proofs.TemplateRows
import StabilizerPrep.Report.Bases
import StabilizerPrep.Report.Basic
import StabilizerPrep.Report.Circuit
import StabilizerPrep.Report.Classification
import StabilizerPrep.Report.Devices
import StabilizerPrep.Report.Sample
import StabilizerPrep.Report.Statistics
import StabilizerPrep.Rotation
import StabilizerPrep.Sampling.Choices
import StabilizerPrep.Sampling.Draw
import StabilizerPrep.Sampling.Keystream
import StabilizerPrep.Stabilizer.Basic
import StabilizerPrep.Stabilizer.Group
import StabilizerPrep.Stabilizer.Parts
import StabilizerPrep.Synthesis
import StabilizerPrep.Tableau
import StabilizerPrep.Template.Files
import StabilizerPrep.Template.Source
import StabilizerPrep.Template.Statistics
import StabilizerPrep.Template.Store
import StabilizerPrep.Template.Table
import StabilizerPrep.Text.Layout
import StabilizerPrep.Text.Number
import StabilizerPrep.Text.Pieces
import StabilizerPrep.Arithmetic
import StabilizerPrep.Proofs.Canonicity
import StabilizerPrep.Proofs.SynthesisFaults
import StabilizerPrep.Proofs.VertexRoles
import StabilizerPrep.Proofs.Coherence
import StabilizerPrep.Proofs.InverseCircuits
import StabilizerPrep.Proofs.KernelDimension
import StabilizerPrep.Proofs.RotationOutcome
import StabilizerPrep.Proofs.BasisReadout
import StabilizerPrep.Proofs.GroupOrder
import StabilizerPrep.Proofs.GroupEquality
import StabilizerPrep.Proofs.LayersOnStates
import StabilizerPrep.Proofs.Recombination
import StabilizerPrep.Proofs.Separability
import StabilizerPrep.Proofs.GeneratorProducts
import StabilizerPrep.Proofs.DependencyChains
import StabilizerPrep.Proofs.SwapExpansion
import StabilizerPrep.Proofs.SynthesisCost
import StabilizerPrep.Proofs.ProductOperators
import StabilizerPrep.Proofs.OperatorText
import StabilizerPrep.Proofs.PartitionNumbers
import StabilizerPrep.Proofs.GraphPreparation
import StabilizerPrep.Proofs.RandomStates
import StabilizerPrep.Proofs.GraphHistory
import StabilizerPrep.Proofs.PairRanks
import StabilizerPrep.Proofs.GraphCompression
import StabilizerPrep.Proofs.StabilizerForms
import StabilizerPrep.Proofs.TableReading
import StabilizerPrep.Proofs.SolutionSpaces
import StabilizerPrep.Proofs.RowTransforms
import StabilizerPrep.Proofs.ReducedForms
