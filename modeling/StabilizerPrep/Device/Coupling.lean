import StabilizerPrep.Device.Name
import StabilizerPrep.Graph.Family

/-!
# Supported devices

Template tables exist for a fixed list of sizes and devices. A supported pair
has a coupling graph, whose edges are the pairs of qubits that a two-qubit
gate may act on.
-/

namespace StabilizerPrep.Device

set_option autoImplicit false

def minQubits : Nat :=
  2

def maxQubits : Nat :=
  6

def supported : List (Nat × Device) :=
  [(2, .all),
    (3, .all), (3, .linear),
    (4, .all), (4, .linear), (4, .star), (4, .cycle),
    (5, .all), (5, .linear), (5, .star), (5, .cycle), (5, .t), (5, .q),
    (6, .all), (6, .linear), (6, .star), (6, .ladder), (6, .e), (6, .h), (6, .q)]

def supports (device : Device) (qubits : Nat) : Bool :=
  supported.contains (qubits, device)

def supportedFor (qubits : Nat) : List Device :=
  (supported.filter fun pair => pair.1 == qubits).map (·.2)

def checkQubits (qubits : Nat) : Except Fault Unit :=
  if minQubits ≤ qubits ∧ qubits ≤ maxQubits then .ok ()
  else .error (.unsupportedQubitCount qubits)

def checkSupported (device : Device) (qubits : Nat) : Except Fault Unit := do
  checkQubits qubits
  if device.supports qubits then .ok ()
  else .error (.unsupportedDevice qubits device)

def shape (qubits : Nat) : Device → Except Fault Graph
  | .all => .ok (.complete qubits)
  | .linear => .ok (.path qubits)
  | .star => .ok (.star qubits 0)
  | .cycle => .ok (.cycle qubits)
  | .t => Graph.dandelion qubits
  | .q => .ok ((Graph.path qubits).addEdge (qubits - 1) (qubits - 4))
  | .ladder => .ok ((Graph.cycle qubits).addEdge 1 4)
  | .e => .ok (((Graph.empty qubits).addPath [3, 0, 1, 2, 5]).addEdge 1 4)
  | .h => .ok ((((Graph.empty qubits).addPath [0, 1, 2]).addPath [3, 4, 5]).addEdge 1 4)

/-- The coupling graph of a supported device. -/
def coupling (device : Device) (qubits : Nat) : Except Fault Graph := do
  device.checkSupported qubits
  device.shape qubits

end StabilizerPrep.Device
