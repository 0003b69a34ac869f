import StabilizerPrep.Bundled.Files
import StabilizerPrep.Device.Coupling
import StabilizerPrep.Proofs.ClassNumbers
import StabilizerPrep.Proofs.TemplateRows
import StabilizerPrep.Template.Store

/-!
# Bundled tables

Every supported device has a bundled table with one row for each class, and
all of its rows keep their promises on the coupling graph of the device. That
they do is found by evaluation.
-/

namespace StabilizerPrep.Bundled

set_option autoImplicit false

open Board

/-- The rows are the bundled table of a device whose coupling graph has the
given board, one row for each class, and they all keep their promises. -/
structure Covers (qubits : Nat) (device : Device) (rows : List Row) (coupling : Nat) : Prop where
  listed : files.lookup (tableName qubits device) = some (text qubits rows)
  coupled : device.coupling qubits = .ok (graph qubits coupling)
  length_eq : rows.length = classes qubits
  kept : areKept qubits coupling 0 rows = true

def isComplete (qubits coupling : Nat) (rows : List Row) : Bool :=
  Nat.beq rows.length (classes qubits) && areKept qubits coupling 0 rows

theorem covers_of_is_complete {qubits coupling : Nat} {device : Device} {rows : List Row}
    (listed : files.lookup (tableName qubits device) = some (text qubits rows))
    (coupled : device.coupling qubits = .ok (graph qubits coupling))
    (complete : isComplete qubits coupling rows = true) :
    ∃ rows coupling, Covers qubits device rows coupling := by
  rw [isComplete, Bool.and_eq_true] at complete
  exact ⟨rows, coupling, listed, coupled, Nat.eq_of_beq_eq_true complete.1, complete.2⟩

theorem complete_up_to_five :
    (isComplete 2 0x102 twoAll &&
      (isComplete 3 0x30506 threeAll &&
      (isComplete 3 0x20502 threeLinear &&
      (isComplete 4 0x70b0d0e fourAll &&
      (isComplete 4 0x40a0502 fourLinear &&
      (isComplete 4 0x101010e fourStar &&
      (isComplete 4 0x50a050a fourCycle &&
      (isComplete 5 0xf171b1d1e fiveAll &&
      (isComplete 5 0x8140a0502 fiveLinear &&
      (isComplete 5 0x10101011e fiveStar &&
      (isComplete 5 0x9140a0512 fiveCycle &&
      (isComplete 5 0x81101010e fiveT &&
      isComplete 5 0xa140a1502 fiveQ)))))))))))) = true := by
  decide +kernel

theorem complete_six_first :
    (isComplete 6 0x1f2f373b3d3e sixAll &&
      (isComplete 6 0x1028140a0502 sixLinear &&
      (isComplete 6 0x1010101013e sixStar &&
      isComplete 6 0x112a140a1522 sixLadder))) = true := by
  decide +kernel

theorem complete_six_second :
    (isComplete 6 0x4020122150a sixE &&
      (isComplete 6 0x102a10021502 sixH &&
      isComplete 6 0x1428142a0502 sixQ)) = true := by
  decide +kernel

theorem exists_covers : ∀ pair ∈ Device.supported, ∃ rows coupling,
    Covers pair.1 pair.2 rows coupling := by
  have first := complete_up_to_five
  have second := complete_six_first
  have third := complete_six_second
  simp only [Bool.and_eq_true] at first second third
  obtain ⟨twoAll, threeAll, threeLinear, fourAll, fourLinear, fourStar, fourCycle, fiveAll,
    fiveLinear, fiveStar, fiveCycle, fiveT, fiveQ⟩ := first
  obtain ⟨sixAll, sixLinear, sixStar, sixLadder⟩ := second
  obtain ⟨sixE, sixH, sixQ⟩ := third
  simp only [Device.supported, List.forall_mem_cons]
  refine ⟨covers_of_is_complete rfl rfl twoAll,
    covers_of_is_complete rfl rfl threeAll,
    covers_of_is_complete rfl rfl threeLinear,
    covers_of_is_complete rfl rfl fourAll,
    covers_of_is_complete rfl rfl fourLinear,
    covers_of_is_complete rfl rfl fourStar,
    covers_of_is_complete rfl rfl fourCycle,
    covers_of_is_complete rfl rfl fiveAll,
    covers_of_is_complete rfl rfl fiveLinear,
    covers_of_is_complete rfl rfl fiveStar,
    covers_of_is_complete rfl rfl fiveCycle,
    covers_of_is_complete rfl rfl fiveT,
    covers_of_is_complete rfl rfl fiveQ,
    covers_of_is_complete rfl rfl sixAll,
    covers_of_is_complete rfl rfl sixLinear,
    covers_of_is_complete rfl rfl sixStar,
    covers_of_is_complete rfl rfl sixLadder,
    covers_of_is_complete rfl rfl sixE,
    covers_of_is_complete rfl rfl sixH,
    covers_of_is_complete rfl rfl sixQ, ?_⟩
  simp

end StabilizerPrep.Bundled
