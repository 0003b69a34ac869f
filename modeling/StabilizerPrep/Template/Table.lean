import StabilizerPrep.Circuit.Spec
import StabilizerPrep.Entanglement.LocalClass
import StabilizerPrep.Graph.Compressed
import StabilizerPrep.Text.Number

/-!
# Template tables

A table has one row for each class on some number of qubits, in the order of
the class numbers. A row gives a graph of the class and a circuit for its
graph state:

`graphId:cost:depth:gates`

Blank lines do not count as rows. The first row that is wrong is reported
with the number of its line.
-/

namespace StabilizerPrep

set_option autoImplicit false

structure Template where
  graphId : Nat
  cost : Nat
  depth : Nat
  circuit : Circuit
  deriving DecidableEq, Repr

def Template.graph (template : Template) : Except Fault Graph :=
  Graph.decompress template.circuit.width template.graphId

structure Table where
  qubits : Nat
  device : Device
  templates : List Template
  deriving DecidableEq, Repr

namespace Table

/-- Graph numbers are read below this bound. -/
def idBound : Nat :=
  2 ^ 64

def countBound : Nat :=
  2 ^ 32

def readField (bound : Nat) (fault : String → TableFault) (text : List Char) :
    Except TableFault Nat :=
  match Text.readNumber bound text with
  | .ok value => .ok value
  | .error _ => .error (fault (.ofList text))

def readRow (qubits : Nat) (line : List Char) : Except TableFault Template :=
  match Text.split ':' line with
  | [idText, costText, depthText, spec] => do
      let graphId ← readField idBound .graphId idText
      if 2 ^ (qubits * (qubits - 1) / 2) ≤ graphId then .error (.graphIdTooLarge graphId)
      else
        let cost ← readField countBound .cost costText
        let depth ← readField countBound .depth depthText
        match Circuit.read qubits spec with
        | .ok circuit => .ok ⟨graphId, cost, depth, circuit⟩
        | .error fault => .error (.circuit fault)
  | fields => .error (.fieldCount fields.length)

def readRows {α : Type} (name : String) (read : List Char → Except TableFault α)
    (lines : List (Nat × List Char)) : Except Fault (List α) :=
  lines.mapM fun (number, line) =>
    match read line with
    | .ok row => .ok row
    | .error fault => .error (.malformedTable name number fault)

def read (name : String) (qubits : Nat) (device : Device) (letters : List Char) :
    Except Fault Table := do
  let expected ← LocalClass.count qubits
  let templates ← readRows name (readRow qubits) (Text.numberedLines letters)
  if templates.length = expected then .ok ⟨qubits, device, templates⟩
  else .error (.malformedTable name 0 (.rowCount expected templates.length))

def parse (name : String) (qubits : Nat) (device : Device) (text : String) :
    Except Fault Table :=
  read name qubits device text.toList

def get (table : Table) (id : Nat) : Except Fault Template :=
  match table.templates[id]? with
  | some template => .ok template
  | none => .error (.invalidClassId table.qubits id table.templates.length)

end Table

end StabilizerPrep
