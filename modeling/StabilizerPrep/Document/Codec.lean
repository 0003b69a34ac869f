import StabilizerPrep.Circuit.Metrics
import StabilizerPrep.Document.Basic
import StabilizerPrep.Layer.Basic
import StabilizerPrep.Pauli.Basic
import StabilizerPrep.Synthesis
import StabilizerPrep.Template.Table

/-!
# Values as documents

The documents of circuits, operators, layers and templates, and the values
that such documents stand for. A structure is a record; it is also read from
the list of its values, and fields that it does not have are passed over. A
gate, a Clifford or a device is a text; it is also read from a record that
maps the text to nothing. Numbers are read within the range of their type, and
nothing else is checked.
-/

namespace StabilizerPrep

set_option autoImplicit false

namespace Document

def single? (fields : List (Label × Document)) (name : String) : Option Document :=
  match fields.filter fun (label, _) => label == .name name with
  | [(_, value)] => some value
  | _ => none

def hasGarbledLabel (fields : List (Label × Document)) : Bool :=
  fields.any fun
    | (.garbled _, _) => true
    | _ => false

/-- The values of the fields with the given names, in their order. Every field
of the record has to have a readable name, also one that is passed over. -/
def values? (names : List String) : Document → Option (List Document)
  | .record fields => if hasGarbledLabel fields then none else names.mapM (single? fields)
  | .list items => if items.length = names.length then some items else none
  | _ => none

def natural? (bound : Nat) : Document → Option Nat
  | .natural value => if value < bound then some value else none
  | _ => none

def choice? : Document → Option String
  | .text value => some value
  | .record [(.name value, .null)] => some value
  | _ => none

def oneOf? {α : Type} (every : List α) (label : α → String) (document : Document) :
    Option α := do
  let text ← document.choice?
  every.find? fun value => label value == text

def items? : Document → Option (List Document)
  | .list items => some items
  | _ => none

def shortBound : Nat :=
  2 ^ 32

def longBound : Nat :=
  2 ^ 64

def phaseBound : Nat :=
  2 ^ 8

end Document

namespace Gate

def label : Gate → String
  | .h => "H"
  | .s => "S"
  | .sdg => "Sdg"
  | .x => "X"
  | .y => "Y"
  | .z => "Z"
  | .cx => "CX"
  | .cz => "CZ"
  | .swap => "Swap"

def document (gate : Gate) : Document :=
  .text gate.label

def ofDocument? : Document → Option Gate :=
  Document.oneOf? all label

end Gate

namespace Device

def label : Device → String
  | .all => "All"
  | .linear => "Linear"
  | .star => "Star"
  | .cycle => "Cycle"
  | .t => "T"
  | .q => "Q"
  | .ladder => "Ladder"
  | .e => "E"
  | .h => "H"

def document (device : Device) : Document :=
  .text device.label

def ofDocument? : Document → Option Device :=
  Document.oneOf? every label

end Device

namespace LocalClifford

def document (clifford : LocalClifford) : Document :=
  .text clifford.name

def ofDocument? : Document → Option LocalClifford :=
  Document.oneOf? every name

end LocalClifford

namespace Instruction

def document (instruction : Instruction) : Document :=
  .named [("gate", instruction.gate.document), ("qubits", .naturals instruction.qubits)]

def qubitOfDocument? : Document → Option Nat :=
  Document.natural? Document.shortBound

def ofDocument? (document : Document) : Option Instruction := do
  match ← document.values? ["gate", "qubits"] with
  | [gate, qubits] =>
      some ⟨← Gate.ofDocument? gate, ← (← qubits.items?).mapM qubitOfDocument?⟩
  | _ => none

end Instruction

namespace Circuit

def document (circuit : Circuit) : Document :=
  .named
    [("num_qubits", .natural circuit.width),
      ("instructions", .list (circuit.instructions.map Instruction.document))]

def ofDocument? (document : Document) : Option Circuit := do
  match ← document.values? ["num_qubits", "instructions"] with
  | [width, instructions] =>
      some ⟨← width.natural? Document.shortBound,
        ← (← instructions.items?).mapM Instruction.ofDocument?⟩
  | _ => none

end Circuit

namespace Metrics

def document (metrics : Metrics) : Document :=
  .named
    [("two_qubit_count", .natural metrics.count), ("two_qubit_depth", .natural metrics.depth)]

def ofDocument? (document : Document) : Option Metrics := do
  match ← document.values? ["two_qubit_count", "two_qubit_depth"] with
  | [count, depth] =>
      some ⟨← count.natural? Document.shortBound, ← depth.natural? Document.shortBound⟩
  | _ => none

end Metrics

namespace Pauli

/-- An operator as documents have it. Its phase is not reduced modulo four. -/
structure Stored where
  qubits : Nat
  x : Nat
  z : Nat
  phase : Nat
  deriving DecidableEq, Repr

def stored (pauli : Pauli) : Stored :=
  ⟨pauli.qubits, pauli.x, pauli.z, pauli.phase⟩

def document (stored : Stored) : Document :=
  .named
    [("num_qubits", .natural stored.qubits), ("x", .natural stored.x), ("z", .natural stored.z),
      ("phase", .natural stored.phase)]

def ofDocument? (document : Document) : Option Stored := do
  match ← document.values? ["num_qubits", "x", "z", "phase"] with
  | [qubits, x, z, phase] =>
      some ⟨← qubits.natural? Document.longBound, ← x.natural? Document.longBound,
        ← z.natural? Document.longBound, ← phase.natural? Document.phaseBound⟩
  | _ => none

end Pauli

namespace Layer

def document (layer : Layer) : Document :=
  .named [("cliffords", .list (layer.cliffords.map LocalClifford.document))]

def ofDocument? (document : Document) : Option Layer := do
  match ← document.values? ["cliffords"] with
  | [cliffords] => some ⟨← (← cliffords.items?).mapM LocalClifford.ofDocument?⟩
  | _ => none

end Layer

namespace Template

def document (template : Template) : Document :=
  .named
    [("graph_id", .natural template.graphId), ("cost", .natural template.cost),
      ("depth", .natural template.depth), ("circuit", template.circuit.document)]

def ofDocument? (document : Document) : Option Template := do
  match ← document.values? ["graph_id", "cost", "depth", "circuit"] with
  | [graphId, cost, depth, circuit] =>
      some ⟨← graphId.natural? Document.longBound, ← cost.natural? Document.shortBound,
        ← depth.natural? Document.shortBound, ← Circuit.ofDocument? circuit⟩
  | _ => none

end Template

def Synthesis.document (synthesis : Synthesis) : Document :=
  .named
    [("template", synthesis.template.document), ("layer", synthesis.layer.document),
      ("circuit", synthesis.circuit.document)]

end StabilizerPrep
