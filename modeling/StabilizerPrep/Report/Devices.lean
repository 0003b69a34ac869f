import StabilizerPrep.Device.Coupling
import StabilizerPrep.Text.Layout

/-!
# Overview of devices

The supported devices with their coupling graphs, by number of qubits.
-/

namespace StabilizerPrep.Device

set_option autoImplicit false

def line (device : Device) (graph : Graph) : String :=
  "    ● " ++ Text.alignLeft 8 device.name ++ " " ++ graph.text

/-- The lines of the devices in a list. Above the first device of a size
stands the size, and a blank line separates it from smaller ones. -/
def sizeLines (current : Nat) : List (Nat × Device) → Except Fault (List String)
  | [] => .ok []
  | (qubits, device) :: others => do
      let graph ← device.coupling qubits
      let title := if qubits = current then [] else [s!"  {qubits} qubits"]
      let gap := if qubits = current ∨ current = 0 then [] else [""]
      let rest ← sizeLines qubits others
      .ok (gap ++ title ++ device.line graph :: rest)

def overview : Except Fault String := do
  let lines ← sizeLines 0 supported
  .ok (Text.unlines (["htstab Supported devices:", ""] ++ lines))

end StabilizerPrep.Device
