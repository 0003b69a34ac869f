import StabilizerPrep.Bundled.Row

/-!
# Tables for two, three and four qubits

The bundled template tables for two, three and four qubits, one row for each
class.
-/

namespace StabilizerPrep.Bundled

set_option autoImplicit false

def twoAll : List Row :=
  [⟨0, 0, 0, 0x1⟩,
    ⟨1, 1, 1, 0x1_01⟩]

def threeAll : List Row :=
  [⟨0, 0, 0, 0x1⟩,
    ⟨4, 1, 1, 0x1_12⟩,
    ⟨2, 1, 1, 0x1_02⟩,
    ⟨1, 1, 1, 0x1_01⟩,
    ⟨3, 2, 2, 0x1_01_02⟩]

def threeLinear : List Row :=
  [⟨0, 0, 0, 0x1⟩,
    ⟨4, 1, 1, 0x1_12⟩,
    ⟨2, 7, 7, 0x1_81_12_81⟩,
    ⟨1, 1, 1, 0x1_01⟩,
    ⟨5, 2, 2, 0x1_01_12⟩]

def fourAll : List Row :=
  [⟨0, 0, 0, 0x1⟩,
    ⟨1, 1, 1, 0x1_01⟩,
    ⟨2, 1, 1, 0x1_02⟩,
    ⟨4, 1, 1, 0x1_03⟩,
    ⟨8, 1, 1, 0x1_12⟩,
    ⟨16, 1, 1, 0x1_13⟩,
    ⟨32, 1, 1, 0x1_23⟩,
    ⟨24, 2, 2, 0x1_12_13⟩,
    ⟨6, 2, 2, 0x1_02_03⟩,
    ⟨5, 2, 2, 0x1_01_03⟩,
    ⟨3, 2, 2, 0x1_01_02⟩,
    ⟨33, 2, 1, 0x1_01_23⟩,
    ⟨18, 2, 1, 0x1_02_13⟩,
    ⟨12, 2, 1, 0x1_03_12⟩,
    ⟨7, 3, 3, 0x1_01_02_03⟩,
    ⟨35, 3, 2, 0x1_01_23_02⟩,
    ⟨19, 3, 2, 0x1_01_02_13⟩,
    ⟨13, 3, 2, 0x1_01_03_12⟩]

def fourLinear : List Row :=
  [⟨0, 0, 0, 0x1⟩,
    ⟨1, 1, 1, 0x1_01⟩,
    ⟨2, 7, 7, 0x1_81_12_81⟩,
    ⟨4, 13, 13, 0x1_81_92_23_92_81⟩,
    ⟨8, 1, 1, 0x1_12⟩,
    ⟨16, 7, 7, 0x1_92_23_92⟩,
    ⟨32, 1, 1, 0x1_23⟩,
    ⟨40, 2, 2, 0x1_12_23⟩,
    ⟨34, 8, 7, 0x1_23_81_12_81⟩,
    ⟨17, 8, 8, 0x1_01_92_23_92⟩,
    ⟨9, 2, 2, 0x1_01_12⟩,
    ⟨33, 2, 1, 0x1_01_23⟩,
    ⟨18, 14, 14, 0x1_81_12_81_92_23_92⟩,
    ⟨12, 14, 14, 0x1_12_81_92_23_92_81⟩,
    ⟨42, 9, 8, 0x1_12_23_81_12_81⟩,
    ⟨41, 3, 2, 0x1_01_23_12⟩,
    ⟨50, 15, 14, 0x1_23_81_12_81_92_23_92⟩,
    ⟨44, 15, 14, 0x1_12_23_81_92_23_92_81⟩]

def fourStar : List Row :=
  [⟨0, 0, 0, 0x1⟩,
    ⟨1, 1, 1, 0x1_01⟩,
    ⟨2, 1, 1, 0x1_02⟩,
    ⟨4, 1, 1, 0x1_03⟩,
    ⟨8, 7, 7, 0x1_90_02_90⟩,
    ⟨16, 7, 7, 0x1_90_03_90⟩,
    ⟨32, 7, 7, 0x1_a0_03_a0⟩,
    ⟨24, 14, 14, 0x1_90_02_90_90_03_90⟩,
    ⟨6, 2, 2, 0x1_02_03⟩,
    ⟨5, 2, 2, 0x1_01_03⟩,
    ⟨3, 2, 2, 0x1_01_02⟩,
    ⟨33, 8, 8, 0x1_01_a0_03_a0⟩,
    ⟨18, 8, 8, 0x1_02_90_03_90⟩,
    ⟨12, 8, 8, 0x1_03_90_02_90⟩,
    ⟨7, 3, 3, 0x1_01_02_03⟩,
    ⟨35, 9, 9, 0x1_01_02_a0_03_a0⟩,
    ⟨19, 9, 9, 0x1_01_02_90_03_90⟩,
    ⟨13, 9, 9, 0x1_01_03_90_02_90⟩]

def fourCycle : List Row :=
  [⟨0, 0, 0, 0x1⟩,
    ⟨1, 1, 1, 0x1_01⟩,
    ⟨2, 7, 7, 0x1_81_12_81⟩,
    ⟨4, 1, 1, 0x1_03⟩,
    ⟨8, 1, 1, 0x1_12⟩,
    ⟨16, 7, 7, 0x1_90_03_90⟩,
    ⟨32, 1, 1, 0x1_23⟩,
    ⟨40, 2, 2, 0x1_12_23⟩,
    ⟨36, 2, 2, 0x1_03_23⟩,
    ⟨5, 2, 2, 0x1_01_03⟩,
    ⟨9, 2, 2, 0x1_01_12⟩,
    ⟨33, 2, 1, 0x1_01_23⟩,
    ⟨18, 14, 14, 0x1_81_12_81_90_03_90⟩,
    ⟨12, 2, 1, 0x1_03_12⟩,
    ⟨42, 9, 8, 0x1_12_23_81_12_81⟩,
    ⟨37, 3, 2, 0x1_01_23_03⟩,
    ⟨45, 4, 2, 0x1_01_23_03_12⟩,
    ⟨13, 3, 2, 0x1_01_03_12⟩]

end StabilizerPrep.Bundled
