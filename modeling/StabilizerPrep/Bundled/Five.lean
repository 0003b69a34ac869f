import StabilizerPrep.Bundled.Row

/-!
# Tables for five qubits

The bundled template tables for five qubits, one row for each class.
-/

namespace StabilizerPrep.Bundled

set_option autoImplicit false

set_option maxRecDepth 4000 in
def fiveAll : List Row :=
  [⟨0, 0, 0, 0x1⟩,
    ⟨1, 1, 1, 0x1_01⟩,
    ⟨2, 1, 1, 0x1_02⟩,
    ⟨4, 1, 1, 0x1_03⟩,
    ⟨8, 1, 1, 0x1_04⟩,
    ⟨16, 1, 1, 0x1_12⟩,
    ⟨32, 1, 1, 0x1_13⟩,
    ⟨64, 1, 1, 0x1_14⟩,
    ⟨128, 1, 1, 0x1_23⟩,
    ⟨256, 1, 1, 0x1_24⟩,
    ⟨512, 1, 1, 0x1_34⟩,
    ⟨384, 2, 2, 0x1_23_24⟩,
    ⟨96, 2, 2, 0x1_13_14⟩,
    ⟨80, 2, 2, 0x1_12_14⟩,
    ⟨48, 2, 2, 0x1_12_13⟩,
    ⟨12, 2, 2, 0x1_03_04⟩,
    ⟨10, 2, 2, 0x1_02_04⟩,
    ⟨6, 2, 2, 0x1_02_03⟩,
    ⟨9, 2, 2, 0x1_01_04⟩,
    ⟨5, 2, 2, 0x1_01_03⟩,
    ⟨3, 2, 2, 0x1_01_02⟩,
    ⟨528, 2, 1, 0x1_12_34⟩,
    ⟨288, 2, 1, 0x1_13_24⟩,
    ⟨192, 2, 1, 0x1_14_23⟩,
    ⟨136, 2, 1, 0x1_04_23⟩,
    ⟨260, 2, 1, 0x1_03_24⟩,
    ⟨514, 2, 1, 0x1_02_34⟩,
    ⟨513, 2, 1, 0x1_01_34⟩,
    ⟨68, 2, 1, 0x1_03_14⟩,
    ⟨40, 2, 1, 0x1_04_13⟩,
    ⟨24, 2, 1, 0x1_04_12⟩,
    ⟨66, 2, 1, 0x1_02_14⟩,
    ⟨257, 2, 1, 0x1_01_24⟩,
    ⟨129, 2, 1, 0x1_01_23⟩,
    ⟨34, 2, 1, 0x1_02_13⟩,
    ⟨20, 2, 1, 0x1_03_12⟩,
    ⟨112, 3, 3, 0x1_12_13_14⟩,
    ⟨14, 3, 3, 0x1_02_03_04⟩,
    ⟨13, 3, 3, 0x1_01_03_04⟩,
    ⟨11, 3, 3, 0x1_01_02_04⟩,
    ⟨7, 3, 3, 0x1_01_02_03⟩,
    ⟨560, 3, 2, 0x1_12_34_13⟩,
    ⟨304, 3, 2, 0x1_12_13_24⟩,
    ⟨208, 3, 2, 0x1_12_14_23⟩,
    ⟨138, 3, 2, 0x1_02_04_23⟩,
    ⟨262, 3, 2, 0x1_02_03_24⟩,
    ⟨518, 3, 2, 0x1_02_34_03⟩,
    ⟨517, 3, 2, 0x1_01_34_03⟩,
    ⟨69, 3, 2, 0x1_01_03_14⟩,
    ⟨41, 3, 2, 0x1_01_04_13⟩,
    ⟨25, 3, 2, 0x1_01_04_12⟩,
    ⟨67, 3, 2, 0x1_01_02_14⟩,
    ⟨259, 3, 2, 0x1_01_24_02⟩,
    ⟨131, 3, 2, 0x1_01_23_02⟩,
    ⟨35, 3, 2, 0x1_01_02_13⟩,
    ⟨21, 3, 2, 0x1_01_03_12⟩,
    ⟨15, 4, 4, 0x1_01_02_03_04⟩,
    ⟨385, 3, 2, 0x1_01_23_24⟩,
    ⟨98, 3, 2, 0x1_02_13_14⟩,
    ⟨84, 3, 2, 0x1_03_12_14⟩,
    ⟨56, 3, 2, 0x1_04_12_13⟩,
    ⟨28, 3, 2, 0x1_03_12_04⟩,
    ⟨42, 3, 2, 0x1_02_13_04⟩,
    ⟨70, 3, 2, 0x1_02_14_03⟩,
    ⟨137, 3, 2, 0x1_01_23_04⟩,
    ⟨261, 3, 2, 0x1_01_24_03⟩,
    ⟨515, 3, 2, 0x1_01_34_02⟩,
    ⟨387, 4, 3, 0x1_01_23_02_24⟩,
    ⟨99, 4, 3, 0x1_01_02_13_14⟩,
    ⟨85, 4, 3, 0x1_01_03_12_14⟩,
    ⟨57, 4, 3, 0x1_01_04_12_13⟩,
    ⟨29, 4, 3, 0x1_01_03_12_04⟩,
    ⟨43, 4, 3, 0x1_01_02_13_04⟩,
    ⟨71, 4, 3, 0x1_01_02_14_03⟩,
    ⟨139, 4, 3, 0x1_01_23_02_04⟩,
    ⟨263, 4, 3, 0x1_01_24_02_03⟩,
    ⟨519, 4, 3, 0x1_01_34_02_03⟩,
    ⟨533, 4, 2, 0x1_01_34_03_12⟩,
    ⟨291, 4, 2, 0x1_01_24_02_13⟩,
    ⟨195, 4, 2, 0x1_01_23_02_14⟩,
    ⟨153, 4, 2, 0x1_01_23_04_12⟩,
    ⟨277, 4, 2, 0x1_01_24_03_12⟩,
    ⟨547, 4, 2, 0x1_01_34_02_13⟩,
    ⟨643, 4, 2, 0x1_01_23_02_34⟩,
    ⟨86, 4, 2, 0x1_02_14_03_12⟩,
    ⟨58, 4, 2, 0x1_02_13_04_12⟩,
    ⟨60, 4, 2, 0x1_03_12_04_13⟩,
    ⟨102, 4, 2, 0x1_02_13_03_14⟩,
    ⟨389, 4, 2, 0x1_01_23_03_24⟩,
    ⟨393, 4, 3, 0x1_01_23_04_24⟩,
    ⟨106, 4, 3, 0x1_02_13_04_14⟩,
    ⟨92, 4, 3, 0x1_03_12_04_14⟩,
    ⟨220, 5, 3, 0x1_03_12_04_23_14⟩]

set_option maxRecDepth 4000 in
def fiveLinear : List Row :=
  [⟨0, 0, 0, 0x1⟩,
    ⟨1, 1, 1, 0x1_01⟩,
    ⟨2, 7, 7, 0x1_81_12_81⟩,
    ⟨4, 13, 13, 0x1_81_92_23_92_81⟩,
    ⟨8, 19, 19, 0x1_81_92_a3_34_a3_92_81⟩,
    ⟨16, 1, 1, 0x1_12⟩,
    ⟨32, 7, 7, 0x1_92_23_92⟩,
    ⟨64, 13, 13, 0x1_92_a3_34_a3_92⟩,
    ⟨128, 1, 1, 0x1_23⟩,
    ⟨256, 7, 7, 0x1_a3_34_a3⟩,
    ⟨512, 1, 1, 0x1_34⟩,
    ⟨640, 2, 2, 0x1_23_34⟩,
    ⟨544, 8, 7, 0x1_34_92_23_92⟩,
    ⟨272, 8, 8, 0x1_12_a3_34_a3⟩,
    ⟨144, 2, 2, 0x1_12_23⟩,
    ⟨516, 14, 13, 0x1_34_81_92_23_92_81⟩,
    ⟨258, 14, 11, 0x1_81_12_81_a3_34_a3⟩,
    ⟨130, 8, 7, 0x1_23_81_12_81⟩,
    ⟨65, 14, 14, 0x1_01_92_a3_34_a3_92⟩,
    ⟨33, 8, 8, 0x1_01_92_23_92⟩,
    ⟨17, 2, 2, 0x1_01_12⟩,
    ⟨528, 2, 1, 0x1_12_34⟩,
    ⟨288, 14, 14, 0x1_92_23_92_a3_34_a3⟩,
    ⟨192, 14, 14, 0x1_23_92_a3_34_a3_92⟩,
    ⟨136, 20, 19, 0x1_23_81_92_a3_34_a3_92_81⟩,
    ⟨260, 20, 17, 0x1_81_92_23_92_81_a3_34_a3⟩,
    ⟨514, 8, 7, 0x1_34_81_12_81⟩,
    ⟨513, 2, 1, 0x1_01_34⟩,
    ⟨68, 26, 26, 0x1_81_92_23_92_81_92_a3_34_a3_92⟩,
    ⟨40, 26, 26, 0x1_81_92_a3_34_a3_92_81_92_23_92⟩,
    ⟨24, 20, 20, 0x1_12_81_92_a3_34_a3_92_81⟩,
    ⟨66, 20, 20, 0x1_81_12_81_92_a3_34_a3_92⟩,
    ⟨257, 8, 7, 0x1_01_a3_34_a3⟩,
    ⟨129, 2, 1, 0x1_01_23⟩,
    ⟨34, 14, 14, 0x1_81_12_81_92_23_92⟩,
    ⟨20, 14, 14, 0x1_12_81_92_23_92_81⟩,
    ⟨672, 9, 8, 0x1_23_34_92_23_92⟩,
    ⟨386, 15, 11, 0x1_23_81_12_81_a3_34_a3⟩,
    ⟨548, 21, 20, 0x1_34_81_92_23_92_81_92_23_92⟩,
    ⟨274, 15, 12, 0x1_12_81_12_81_a3_34_a3⟩,
    ⟨146, 9, 8, 0x1_12_23_81_12_81⟩,
    ⟨656, 3, 2, 0x1_12_34_23⟩,
    ⟨800, 15, 14, 0x1_34_92_23_92_a3_34_a3⟩,
    ⟨704, 15, 14, 0x1_23_34_92_a3_34_a3_92⟩,
    ⟨648, 21, 19, 0x1_23_34_81_92_a3_34_a3_92_81⟩,
    ⟨388, 21, 17, 0x1_23_81_92_23_92_81_a3_34_a3⟩,
    ⟨642, 9, 7, 0x1_23_34_81_12_81⟩,
    ⟨545, 9, 8, 0x1_01_34_92_23_92⟩,
    ⟨580, 27, 26, 0x1_34_81_92_23_92_81_92_a3_34_a3_92⟩,
    ⟨552, 27, 26, 0x1_34_81_92_a3_34_a3_92_81_92_23_92⟩,
    ⟨25, 21, 21, 0x1_01_12_81_92_a3_34_a3_92_81⟩,
    ⟨67, 21, 21, 0x1_01_81_12_81_92_a3_34_a3_92⟩,
    ⟨273, 9, 9, 0x1_01_12_a3_34_a3⟩,
    ⟨145, 3, 2, 0x1_01_23_12⟩,
    ⟨162, 15, 14, 0x1_23_81_12_81_92_23_92⟩,
    ⟨148, 15, 14, 0x1_12_23_81_92_23_92_81⟩,
    ⟨402, 16, 12, 0x1_12_23_81_12_81_a3_34_a3⟩,
    ⟨641, 3, 2, 0x1_01_23_34⟩,
    ⟨546, 15, 14, 0x1_34_81_12_81_92_23_92⟩,
    ⟨276, 21, 18, 0x1_12_81_92_23_92_81_a3_34_a3⟩,
    ⟨152, 21, 20, 0x1_12_23_81_92_a3_34_a3_92_81⟩,
    ⟨532, 15, 14, 0x1_12_34_81_92_23_92_81⟩,
    ⟨290, 21, 21, 0x1_81_12_81_92_23_92_a3_34_a3⟩,
    ⟨194, 21, 20, 0x1_23_81_12_81_92_a3_34_a3_92⟩,
    ⟨193, 15, 14, 0x1_01_23_92_a3_34_a3_92⟩,
    ⟨289, 15, 15, 0x1_01_92_23_92_a3_34_a3⟩,
    ⟨529, 3, 2, 0x1_01_34_12⟩,
    ⟨673, 10, 8, 0x1_01_23_34_92_23_92⟩,
    ⟨674, 16, 14, 0x1_23_34_81_12_81_92_23_92⟩,
    ⟨404, 22, 18, 0x1_12_23_81_92_23_92_81_a3_34_a3⟩,
    ⟨408, 28, 24, 0x1_12_23_81_92_a3_34_a3_92_81_a3_34_a3⟩,
    ⟨660, 16, 14, 0x1_12_34_23_81_92_23_92_81⟩,
    ⟨418, 22, 21, 0x1_23_81_12_81_92_23_92_a3_34_a3⟩,
    ⟨210, 22, 21, 0x1_12_23_81_12_81_92_a3_34_a3_92⟩,
    ⟨209, 16, 15, 0x1_01_23_12_92_a3_34_a3_92⟩,
    ⟨305, 16, 16, 0x1_01_12_92_23_92_a3_34_a3⟩,
    ⟨658, 10, 8, 0x1_12_34_23_81_12_81⟩,
    ⟨533, 16, 15, 0x1_01_34_12_81_92_23_92_81⟩,
    ⟨291, 22, 22, 0x1_01_81_12_81_92_23_92_a3_34_a3⟩,
    ⟨195, 22, 21, 0x1_01_23_81_12_81_92_a3_34_a3_92⟩,
    ⟨153, 22, 21, 0x1_01_23_12_81_92_a3_34_a3_92_81⟩,
    ⟨277, 22, 19, 0x1_01_12_81_92_23_92_81_a3_34_a3⟩,
    ⟨547, 16, 15, 0x1_01_34_81_12_81_92_23_92⟩,
    ⟨657, 4, 2, 0x1_01_23_12_34⟩,
    ⟨212, 28, 27, 0x1_12_23_81_92_23_92_81_92_a3_34_a3_92⟩,
    ⟨170, 34, 33, 0x1_23_81_12_81_81_92_a3_34_a3_92_81_92_23_92⟩,
    ⟨664, 22, 20, 0x1_12_34_23_81_92_a3_34_a3_92_81⟩,
    ⟨706, 22, 20, 0x1_23_34_81_12_81_92_a3_34_a3_92⟩,
    ⟨417, 16, 15, 0x1_01_23_92_23_92_a3_34_a3⟩,
    ⟨705, 16, 14, 0x1_01_23_34_92_a3_34_a3_92⟩,
    ⟨802, 22, 21, 0x1_34_81_12_81_92_23_92_a3_34_a3⟩,
    ⟨788, 22, 18, 0x1_12_34_81_92_23_92_81_a3_34_a3⟩,
    ⟨789, 23, 19, 0x1_01_34_12_81_92_23_92_81_a3_34_a3⟩]

set_option maxRecDepth 4000 in
def fiveStar : List Row :=
  [⟨0, 0, 0, 0x1⟩,
    ⟨1, 1, 1, 0x1_01⟩,
    ⟨2, 1, 1, 0x1_02⟩,
    ⟨4, 1, 1, 0x1_03⟩,
    ⟨8, 1, 1, 0x1_04⟩,
    ⟨16, 7, 7, 0x1_90_02_90⟩,
    ⟨32, 7, 7, 0x1_90_03_90⟩,
    ⟨64, 7, 7, 0x1_90_04_90⟩,
    ⟨128, 7, 7, 0x1_a0_03_a0⟩,
    ⟨256, 7, 7, 0x1_a0_04_a0⟩,
    ⟨512, 7, 7, 0x1_b0_04_b0⟩,
    ⟨384, 14, 14, 0x1_a0_03_a0_a0_04_a0⟩,
    ⟨96, 14, 14, 0x1_90_03_90_90_04_90⟩,
    ⟨80, 14, 14, 0x1_90_02_90_90_04_90⟩,
    ⟨48, 14, 14, 0x1_90_02_90_90_03_90⟩,
    ⟨12, 2, 2, 0x1_03_04⟩,
    ⟨10, 2, 2, 0x1_02_04⟩,
    ⟨6, 2, 2, 0x1_02_03⟩,
    ⟨9, 2, 2, 0x1_01_04⟩,
    ⟨5, 2, 2, 0x1_01_03⟩,
    ⟨3, 2, 2, 0x1_01_02⟩,
    ⟨528, 14, 14, 0x1_90_02_90_b0_04_b0⟩,
    ⟨288, 14, 14, 0x1_90_03_90_a0_04_a0⟩,
    ⟨192, 14, 14, 0x1_90_04_90_a0_03_a0⟩,
    ⟨136, 8, 8, 0x1_04_a0_03_a0⟩,
    ⟨260, 8, 8, 0x1_03_a0_04_a0⟩,
    ⟨514, 8, 8, 0x1_02_b0_04_b0⟩,
    ⟨513, 8, 8, 0x1_01_b0_04_b0⟩,
    ⟨68, 8, 8, 0x1_03_90_04_90⟩,
    ⟨40, 8, 8, 0x1_04_90_03_90⟩,
    ⟨24, 8, 8, 0x1_04_90_02_90⟩,
    ⟨66, 8, 8, 0x1_02_90_04_90⟩,
    ⟨257, 8, 8, 0x1_01_a0_04_a0⟩,
    ⟨129, 8, 8, 0x1_01_a0_03_a0⟩,
    ⟨34, 8, 8, 0x1_02_90_03_90⟩,
    ⟨20, 8, 8, 0x1_03_90_02_90⟩,
    ⟨112, 21, 21, 0x1_90_02_90_90_03_90_90_04_90⟩,
    ⟨14, 3, 3, 0x1_02_03_04⟩,
    ⟨13, 3, 3, 0x1_01_03_04⟩,
    ⟨11, 3, 3, 0x1_01_02_04⟩,
    ⟨7, 3, 3, 0x1_01_02_03⟩,
    ⟨560, 21, 21, 0x1_90_02_90_90_03_90_b0_04_b0⟩,
    ⟨304, 21, 21, 0x1_90_02_90_90_03_90_a0_04_a0⟩,
    ⟨208, 21, 21, 0x1_90_02_90_90_04_90_a0_03_a0⟩,
    ⟨138, 9, 9, 0x1_02_04_a0_03_a0⟩,
    ⟨262, 9, 9, 0x1_02_03_a0_04_a0⟩,
    ⟨518, 9, 9, 0x1_02_03_b0_04_b0⟩,
    ⟨517, 9, 9, 0x1_01_03_b0_04_b0⟩,
    ⟨69, 9, 9, 0x1_01_03_90_04_90⟩,
    ⟨41, 9, 9, 0x1_01_04_90_03_90⟩,
    ⟨25, 9, 9, 0x1_01_04_90_02_90⟩,
    ⟨67, 9, 9, 0x1_01_02_90_04_90⟩,
    ⟨259, 9, 9, 0x1_01_02_a0_04_a0⟩,
    ⟨131, 9, 9, 0x1_01_02_a0_03_a0⟩,
    ⟨35, 9, 9, 0x1_01_02_90_03_90⟩,
    ⟨21, 9, 9, 0x1_01_03_90_02_90⟩,
    ⟨15, 4, 4, 0x1_01_02_03_04⟩,
    ⟨385, 15, 15, 0x1_01_a0_03_a0_a0_04_a0⟩,
    ⟨98, 15, 15, 0x1_02_90_03_90_90_04_90⟩,
    ⟨84, 15, 15, 0x1_03_90_02_90_90_04_90⟩,
    ⟨56, 15, 15, 0x1_04_90_02_90_90_03_90⟩,
    ⟨28, 9, 9, 0x1_03_04_90_02_90⟩,
    ⟨42, 9, 9, 0x1_02_04_90_03_90⟩,
    ⟨70, 9, 9, 0x1_02_03_90_04_90⟩,
    ⟨137, 9, 9, 0x1_01_04_a0_03_a0⟩,
    ⟨261, 9, 9, 0x1_01_03_a0_04_a0⟩,
    ⟨515, 9, 9, 0x1_01_02_b0_04_b0⟩,
    ⟨387, 16, 16, 0x1_01_02_a0_03_a0_a0_04_a0⟩,
    ⟨99, 16, 16, 0x1_01_02_90_03_90_90_04_90⟩,
    ⟨85, 16, 16, 0x1_01_03_90_02_90_90_04_90⟩,
    ⟨57, 16, 16, 0x1_01_04_90_02_90_90_03_90⟩,
    ⟨29, 10, 10, 0x1_01_03_04_90_02_90⟩,
    ⟨43, 10, 10, 0x1_01_02_04_90_03_90⟩,
    ⟨71, 10, 10, 0x1_01_02_03_90_04_90⟩,
    ⟨139, 10, 10, 0x1_01_02_04_a0_03_a0⟩,
    ⟨263, 10, 10, 0x1_01_02_03_a0_04_a0⟩,
    ⟨519, 10, 10, 0x1_01_02_03_b0_04_b0⟩,
    ⟨533, 16, 16, 0x1_01_03_90_02_90_b0_04_b0⟩,
    ⟨291, 16, 16, 0x1_01_02_90_03_90_a0_04_a0⟩,
    ⟨195, 16, 16, 0x1_01_02_90_04_90_a0_03_a0⟩,
    ⟨153, 16, 16, 0x1_01_04_90_02_90_a0_03_a0⟩,
    ⟨277, 16, 16, 0x1_01_03_90_02_90_a0_04_a0⟩,
    ⟨547, 16, 16, 0x1_01_02_90_03_90_b0_04_b0⟩,
    ⟨643, 16, 16, 0x1_01_02_a0_03_a0_b0_04_b0⟩,
    ⟨86, 16, 16, 0x1_02_03_90_02_90_90_04_90⟩,
    ⟨58, 16, 16, 0x1_02_04_90_02_90_90_03_90⟩,
    ⟨60, 16, 16, 0x1_03_04_90_02_90_90_03_90⟩,
    ⟨102, 16, 16, 0x1_02_03_90_03_90_90_04_90⟩,
    ⟨389, 16, 16, 0x1_01_03_a0_03_a0_a0_04_a0⟩,
    ⟨393, 16, 16, 0x1_01_04_a0_03_a0_a0_04_a0⟩,
    ⟨106, 16, 16, 0x1_02_04_90_03_90_90_04_90⟩,
    ⟨92, 16, 16, 0x1_03_04_90_02_90_90_04_90⟩,
    ⟨220, 23, 23, 0x1_03_04_90_02_90_90_04_90_a0_03_a0⟩]

set_option maxRecDepth 4000 in
def fiveCycle : List Row :=
  [⟨0, 0, 0, 0x1⟩,
    ⟨1, 1, 1, 0x1_01⟩,
    ⟨2, 7, 7, 0x1_81_12_81⟩,
    ⟨4, 7, 7, 0x1_84_43_84⟩,
    ⟨8, 1, 1, 0x1_04⟩,
    ⟨16, 1, 1, 0x1_12⟩,
    ⟨32, 7, 7, 0x1_92_23_92⟩,
    ⟨64, 7, 7, 0x1_90_04_90⟩,
    ⟨128, 1, 1, 0x1_23⟩,
    ⟨256, 7, 7, 0x1_a3_34_a3⟩,
    ⟨512, 1, 1, 0x1_34⟩,
    ⟨640, 2, 2, 0x1_23_34⟩,
    ⟨544, 8, 7, 0x1_34_92_23_92⟩,
    ⟨80, 8, 8, 0x1_12_90_04_90⟩,
    ⟨144, 2, 2, 0x1_12_23⟩,
    ⟨520, 2, 2, 0x1_04_34⟩,
    ⟨264, 8, 7, 0x1_04_a3_34_a3⟩,
    ⟨130, 8, 7, 0x1_23_81_12_81⟩,
    ⟨9, 2, 2, 0x1_01_04⟩,
    ⟨5, 8, 8, 0x1_01_84_43_84⟩,
    ⟨17, 2, 2, 0x1_01_12⟩,
    ⟨528, 2, 1, 0x1_12_34⟩,
    ⟨288, 14, 14, 0x1_92_23_92_a3_34_a3⟩,
    ⟨192, 8, 7, 0x1_23_90_04_90⟩,
    ⟨136, 2, 1, 0x1_04_23⟩,
    ⟨260, 14, 11, 0x1_84_43_84_a3_34_a3⟩,
    ⟨514, 8, 7, 0x1_34_81_12_81⟩,
    ⟨513, 2, 1, 0x1_01_34⟩,
    ⟨68, 14, 14, 0x1_84_43_84_90_04_90⟩,
    ⟨40, 8, 7, 0x1_04_92_23_92⟩,
    ⟨24, 2, 1, 0x1_04_12⟩,
    ⟨66, 14, 14, 0x1_81_12_81_90_04_90⟩,
    ⟨257, 8, 7, 0x1_01_a3_34_a3⟩,
    ⟨129, 2, 1, 0x1_01_23⟩,
    ⟨34, 14, 14, 0x1_81_12_81_92_23_92⟩,
    ⟨20, 8, 7, 0x1_12_84_43_84⟩,
    ⟨672, 9, 8, 0x1_23_34_92_23_92⟩,
    ⟨644, 9, 9, 0x1_23_34_84_43_84⟩,
    ⟨584, 9, 8, 0x1_04_34_90_04_90⟩,
    ⟨11, 9, 9, 0x1_01_04_81_12_81⟩,
    ⟨146, 9, 8, 0x1_12_23_81_12_81⟩,
    ⟨656, 3, 2, 0x1_12_34_23⟩,
    ⟨720, 10, 8, 0x1_12_34_23_90_04_90⟩,
    ⟨704, 9, 7, 0x1_23_34_90_04_90⟩,
    ⟨648, 3, 2, 0x1_04_23_34⟩,
    ⟨650, 10, 8, 0x1_04_23_34_81_12_81⟩,
    ⟨642, 9, 7, 0x1_23_34_81_12_81⟩,
    ⟨521, 3, 2, 0x1_01_34_04⟩,
    ⟨553, 10, 8, 0x1_01_34_04_92_23_92⟩,
    ⟨552, 9, 7, 0x1_04_34_92_23_92⟩,
    ⟨25, 3, 2, 0x1_01_04_12⟩,
    ⟨281, 10, 9, 0x1_01_04_12_a3_34_a3⟩,
    ⟨265, 9, 7, 0x1_01_04_a3_34_a3⟩,
    ⟨145, 3, 2, 0x1_01_23_12⟩,
    ⟨149, 10, 8, 0x1_01_23_12_84_43_84⟩,
    ⟨148, 9, 7, 0x1_12_23_84_43_84⟩,
    ⟨840, 16, 9, 0x1_04_34_90_04_90_a3_34_a3⟩,
    ⟨641, 3, 2, 0x1_01_23_34⟩,
    ⟨546, 15, 14, 0x1_34_81_12_81_92_23_92⟩,
    ⟨276, 15, 11, 0x1_12_84_43_84_a3_34_a3⟩,
    ⟨152, 3, 2, 0x1_04_12_23⟩,
    ⟨536, 3, 2, 0x1_04_12_34⟩,
    ⟨296, 15, 14, 0x1_04_92_23_92_a3_34_a3⟩,
    ⟨194, 15, 14, 0x1_23_81_12_81_90_04_90⟩,
    ⟨137, 3, 2, 0x1_01_23_04⟩,
    ⟨261, 15, 12, 0x1_01_84_43_84_a3_34_a3⟩,
    ⟨529, 3, 2, 0x1_01_34_12⟩,
    ⟨673, 10, 8, 0x1_01_23_34_92_23_92⟩,
    ⟨674, 16, 14, 0x1_23_34_81_12_81_92_23_92⟩,
    ⟨404, 16, 11, 0x1_12_23_84_43_84_a3_34_a3⟩,
    ⟨154, 10, 8, 0x1_04_12_23_81_12_81⟩,
    ⟨600, 10, 8, 0x1_04_12_34_90_04_90⟩,
    ⟨808, 16, 14, 0x1_04_34_92_23_92_a3_34_a3⟩,
    ⟨210, 16, 15, 0x1_12_23_81_12_81_90_04_90⟩,
    ⟨712, 10, 8, 0x1_04_23_34_90_04_90⟩,
    ⟨269, 16, 13, 0x1_01_04_84_43_84_a3_34_a3⟩,
    ⟨658, 10, 8, 0x1_12_34_23_81_12_81⟩,
    ⟨537, 4, 2, 0x1_01_34_04_12⟩,
    ⟨297, 16, 15, 0x1_01_04_92_23_92_a3_34_a3⟩,
    ⟨681, 11, 8, 0x1_01_23_04_34_92_23_92⟩,
    ⟨153, 4, 2, 0x1_01_23_04_12⟩,
    ⟨277, 16, 12, 0x1_01_12_84_43_84_a3_34_a3⟩,
    ⟨661, 11, 9, 0x1_01_23_12_34_84_43_84⟩,
    ⟨657, 4, 2, 0x1_01_23_12_34⟩,
    ⟨212, 16, 14, 0x1_12_23_84_43_84_90_04_90⟩,
    ⟨728, 11, 8, 0x1_04_12_23_34_90_04_90⟩,
    ⟨664, 4, 3, 0x1_04_12_23_34⟩,
    ⟨706, 16, 14, 0x1_23_34_81_12_81_90_04_90⟩,
    ⟨651, 11, 9, 0x1_01_23_04_34_81_12_81⟩,
    ⟨649, 4, 3, 0x1_01_23_04_34⟩,
    ⟨554, 16, 15, 0x1_04_34_81_12_81_92_23_92⟩,
    ⟨666, 11, 8, 0x1_04_12_23_34_81_12_81⟩,
    ⟨665, 5, 3, 0x1_01_23_04_12_34⟩]

set_option maxRecDepth 4000 in
def fiveT : List Row :=
  [⟨0, 0, 0, 0x1⟩,
    ⟨1, 1, 1, 0x1_01⟩,
    ⟨2, 1, 1, 0x1_02⟩,
    ⟨4, 1, 1, 0x1_03⟩,
    ⟨8, 7, 7, 0x1_83_34_83⟩,
    ⟨16, 7, 7, 0x1_90_02_90⟩,
    ⟨32, 7, 7, 0x1_90_03_90⟩,
    ⟨64, 13, 13, 0x1_90_83_34_83_90⟩,
    ⟨128, 7, 7, 0x1_a0_03_a0⟩,
    ⟨256, 13, 13, 0x1_a0_83_34_83_a0⟩,
    ⟨512, 1, 1, 0x1_34⟩,
    ⟨640, 8, 7, 0x1_34_a0_03_a0⟩,
    ⟨544, 8, 7, 0x1_34_90_03_90⟩,
    ⟨80, 20, 20, 0x1_90_02_90_90_83_34_83_90⟩,
    ⟨48, 14, 14, 0x1_90_02_90_90_03_90⟩,
    ⟨516, 2, 2, 0x1_03_34⟩,
    ⟨10, 8, 8, 0x1_02_83_34_83⟩,
    ⟨6, 2, 2, 0x1_02_03⟩,
    ⟨9, 8, 8, 0x1_01_83_34_83⟩,
    ⟨5, 2, 2, 0x1_01_03⟩,
    ⟨3, 2, 2, 0x1_01_02⟩,
    ⟨528, 8, 7, 0x1_34_90_02_90⟩,
    ⟨288, 20, 20, 0x1_90_03_90_a0_83_34_83_a0⟩,
    ⟨192, 20, 20, 0x1_90_83_34_83_90_a0_03_a0⟩,
    ⟨136, 14, 14, 0x1_83_34_83_a0_03_a0⟩,
    ⟨260, 14, 14, 0x1_03_a0_83_34_83_a0⟩,
    ⟨514, 2, 1, 0x1_02_34⟩,
    ⟨513, 2, 1, 0x1_01_34⟩,
    ⟨68, 14, 14, 0x1_03_90_83_34_83_90⟩,
    ⟨40, 14, 14, 0x1_83_34_83_90_03_90⟩,
    ⟨24, 14, 14, 0x1_83_34_83_90_02_90⟩,
    ⟨66, 14, 14, 0x1_02_90_83_34_83_90⟩,
    ⟨257, 14, 14, 0x1_01_a0_83_34_83_a0⟩,
    ⟨129, 8, 8, 0x1_01_a0_03_a0⟩,
    ⟨34, 8, 8, 0x1_02_90_03_90⟩,
    ⟨20, 8, 8, 0x1_03_90_02_90⟩,
    ⟨672, 15, 14, 0x1_34_90_03_90_a0_03_a0⟩,
    ⟨644, 9, 8, 0x1_03_34_a0_03_a0⟩,
    ⟨548, 9, 8, 0x1_03_34_90_03_90⟩,
    ⟨11, 9, 9, 0x1_01_02_83_34_83⟩,
    ⟨7, 3, 3, 0x1_01_02_03⟩,
    ⟨560, 15, 14, 0x1_34_90_02_90_90_03_90⟩,
    ⟨800, 21, 20, 0x1_34_90_03_90_a0_83_34_83_a0⟩,
    ⟨704, 21, 20, 0x1_34_90_83_34_83_90_a0_03_a0⟩,
    ⟨138, 15, 15, 0x1_02_83_34_83_a0_03_a0⟩,
    ⟨772, 15, 14, 0x1_03_34_a0_83_34_83_a0⟩,
    ⟨518, 3, 2, 0x1_02_34_03⟩,
    ⟨517, 3, 2, 0x1_01_34_03⟩,
    ⟨580, 15, 14, 0x1_03_34_90_83_34_83_90⟩,
    ⟨41, 15, 15, 0x1_01_83_34_83_90_03_90⟩,
    ⟨25, 15, 15, 0x1_01_83_34_83_90_02_90⟩,
    ⟨67, 15, 15, 0x1_01_02_90_83_34_83_90⟩,
    ⟨259, 15, 15, 0x1_01_02_a0_83_34_83_a0⟩,
    ⟨131, 9, 9, 0x1_01_02_a0_03_a0⟩,
    ⟨35, 9, 9, 0x1_01_02_90_03_90⟩,
    ⟨21, 9, 9, 0x1_01_03_90_02_90⟩,
    ⟨15, 10, 10, 0x1_01_02_03_83_34_83⟩,
    ⟨641, 9, 8, 0x1_01_34_a0_03_a0⟩,
    ⟨546, 9, 8, 0x1_02_34_90_03_90⟩,
    ⟨84, 21, 21, 0x1_03_90_02_90_90_83_34_83_90⟩,
    ⟨56, 21, 21, 0x1_83_34_83_90_02_90_90_03_90⟩,
    ⟨532, 9, 8, 0x1_03_34_90_02_90⟩,
    ⟨42, 15, 15, 0x1_02_83_34_83_90_03_90⟩,
    ⟨70, 15, 15, 0x1_02_03_90_83_34_83_90⟩,
    ⟨137, 15, 15, 0x1_01_83_34_83_a0_03_a0⟩,
    ⟨261, 15, 15, 0x1_01_03_a0_83_34_83_a0⟩,
    ⟨515, 3, 2, 0x1_01_34_02⟩,
    ⟨645, 10, 9, 0x1_01_34_03_a0_03_a0⟩,
    ⟨550, 10, 9, 0x1_02_34_03_90_03_90⟩,
    ⟨85, 22, 22, 0x1_01_03_90_02_90_90_83_34_83_90⟩,
    ⟨57, 22, 22, 0x1_01_83_34_83_90_02_90_90_03_90⟩,
    ⟨564, 16, 15, 0x1_03_34_90_02_90_90_03_90⟩,
    ⟨43, 16, 16, 0x1_01_02_83_34_83_90_03_90⟩,
    ⟨71, 16, 16, 0x1_01_02_03_90_83_34_83_90⟩,
    ⟨139, 16, 16, 0x1_01_02_83_34_83_a0_03_a0⟩,
    ⟨263, 16, 16, 0x1_01_02_03_a0_83_34_83_a0⟩,
    ⟨519, 4, 3, 0x1_01_34_02_03⟩,
    ⟨533, 10, 9, 0x1_01_34_03_90_02_90⟩,
    ⟨291, 22, 22, 0x1_01_02_90_03_90_a0_83_34_83_a0⟩,
    ⟨195, 22, 22, 0x1_01_02_90_83_34_83_90_a0_03_a0⟩,
    ⟨153, 22, 22, 0x1_01_83_34_83_90_02_90_a0_03_a0⟩,
    ⟨277, 22, 22, 0x1_01_03_90_02_90_a0_83_34_83_a0⟩,
    ⟨547, 10, 9, 0x1_01_34_02_90_03_90⟩,
    ⟨643, 10, 9, 0x1_01_34_02_a0_03_a0⟩,
    ⟨86, 22, 22, 0x1_02_03_90_02_90_90_83_34_83_90⟩,
    ⟨58, 22, 22, 0x1_02_83_34_83_90_02_90_90_03_90⟩,
    ⟨60, 22, 22, 0x1_03_83_34_83_90_02_90_90_03_90⟩,
    ⟨582, 16, 15, 0x1_02_34_03_90_83_34_83_90⟩,
    ⟨773, 16, 15, 0x1_01_34_03_a0_83_34_83_a0⟩,
    ⟨649, 16, 15, 0x1_01_34_83_34_83_a0_03_a0⟩,
    ⟨554, 16, 15, 0x1_02_34_83_34_83_90_03_90⟩,
    ⟨596, 22, 21, 0x1_03_34_90_02_90_90_83_34_83_90⟩,
    ⟨570, 23, 22, 0x1_02_34_83_34_83_90_02_90_90_03_90⟩]

set_option maxRecDepth 4000 in
def fiveQ : List Row :=
  [⟨0, 0, 0, 0x1⟩,
    ⟨1, 1, 1, 0x1_01⟩,
    ⟨2, 7, 7, 0x1_81_12_81⟩,
    ⟨4, 13, 13, 0x1_81_92_23_92_81⟩,
    ⟨8, 7, 7, 0x1_81_14_81⟩,
    ⟨16, 1, 1, 0x1_12⟩,
    ⟨32, 7, 7, 0x1_92_23_92⟩,
    ⟨64, 1, 1, 0x1_14⟩,
    ⟨128, 1, 1, 0x1_23⟩,
    ⟨256, 7, 7, 0x1_a1_14_a1⟩,
    ⟨512, 1, 1, 0x1_34⟩,
    ⟨640, 2, 2, 0x1_23_34⟩,
    ⟨576, 2, 2, 0x1_14_34⟩,
    ⟨80, 2, 2, 0x1_12_14⟩,
    ⟨144, 2, 2, 0x1_12_23⟩,
    ⟨520, 8, 7, 0x1_34_81_14_81⟩,
    ⟨10, 14, 14, 0x1_81_12_81_81_14_81⟩,
    ⟨130, 8, 7, 0x1_23_81_12_81⟩,
    ⟨65, 2, 2, 0x1_01_14⟩,
    ⟨33, 8, 8, 0x1_01_92_23_92⟩,
    ⟨17, 2, 2, 0x1_01_12⟩,
    ⟨528, 2, 1, 0x1_12_34⟩,
    ⟨288, 14, 14, 0x1_92_23_92_a1_14_a1⟩,
    ⟨192, 2, 1, 0x1_14_23⟩,
    ⟨136, 8, 7, 0x1_23_81_14_81⟩,
    ⟨260, 20, 20, 0x1_81_92_23_92_81_a1_14_a1⟩,
    ⟨514, 8, 7, 0x1_34_81_12_81⟩,
    ⟨513, 2, 1, 0x1_01_34⟩,
    ⟨68, 14, 14, 0x1_14_81_92_23_92_81⟩,
    ⟨40, 14, 14, 0x1_81_14_81_92_23_92⟩,
    ⟨24, 8, 8, 0x1_12_81_14_81⟩,
    ⟨66, 8, 8, 0x1_14_81_12_81⟩,
    ⟨257, 8, 8, 0x1_01_a1_14_a1⟩,
    ⟨129, 2, 1, 0x1_01_23⟩,
    ⟨34, 14, 14, 0x1_81_12_81_92_23_92⟩,
    ⟨20, 14, 14, 0x1_12_81_92_23_92_81⟩,
    ⟨672, 9, 8, 0x1_23_34_92_23_92⟩,
    ⟨644, 15, 13, 0x1_23_34_81_92_23_92_81⟩,
    ⟨584, 9, 8, 0x1_14_34_81_14_81⟩,
    ⟨81, 3, 3, 0x1_01_12_14⟩,
    ⟨146, 9, 8, 0x1_12_23_81_12_81⟩,
    ⟨592, 3, 2, 0x1_12_34_14⟩,
    ⟨720, 4, 2, 0x1_12_34_14_23⟩,
    ⟨208, 3, 2, 0x1_12_14_23⟩,
    ⟨648, 9, 7, 0x1_23_34_81_14_81⟩,
    ⟨650, 16, 14, 0x1_23_34_81_12_81_81_14_81⟩,
    ⟨642, 9, 7, 0x1_23_34_81_12_81⟩,
    ⟨577, 3, 2, 0x1_01_34_14⟩,
    ⟨580, 15, 14, 0x1_14_34_81_92_23_92_81⟩,
    ⟨552, 15, 14, 0x1_34_81_14_81_92_23_92⟩,
    ⟨25, 9, 9, 0x1_01_12_81_14_81⟩,
    ⟨67, 9, 9, 0x1_01_14_81_12_81⟩,
    ⟨273, 9, 9, 0x1_01_12_a1_14_a1⟩,
    ⟨145, 3, 2, 0x1_01_23_12⟩,
    ⟨162, 15, 14, 0x1_23_81_12_81_92_23_92⟩,
    ⟨148, 15, 14, 0x1_12_23_81_92_23_92_81⟩,
    ⟨113, 10, 10, 0x1_01_12_14_92_23_92⟩,
    ⟨641, 3, 2, 0x1_01_23_34⟩,
    ⟨578, 9, 8, 0x1_14_34_81_12_81⟩,
    ⟨84, 15, 15, 0x1_12_14_81_92_23_92_81⟩,
    ⟨152, 9, 8, 0x1_12_23_81_14_81⟩,
    ⟨536, 9, 8, 0x1_12_34_81_14_81⟩,
    ⟨42, 21, 21, 0x1_81_12_81_81_14_81_92_23_92⟩,
    ⟨194, 9, 8, 0x1_14_23_81_12_81⟩,
    ⟨193, 3, 2, 0x1_01_23_14⟩,
    ⟨289, 15, 15, 0x1_01_92_23_92_a1_14_a1⟩,
    ⟨529, 3, 2, 0x1_01_34_12⟩,
    ⟨673, 10, 8, 0x1_01_23_34_92_23_92⟩,
    ⟨674, 16, 14, 0x1_23_34_81_12_81_92_23_92⟩,
    ⟨85, 16, 16, 0x1_01_12_14_81_92_23_92_81⟩,
    ⟨680, 16, 14, 0x1_23_34_81_14_81_92_23_92⟩,
    ⟨600, 10, 9, 0x1_12_34_14_81_14_81⟩,
    ⟨725, 18, 16, 0x1_01_23_12_34_14_81_92_23_92_81⟩,
    ⟨210, 10, 9, 0x1_12_14_23_81_12_81⟩,
    ⟨209, 4, 3, 0x1_01_23_12_14⟩,
    ⟨305, 16, 16, 0x1_01_12_92_23_92_a1_14_a1⟩,
    ⟨593, 4, 3, 0x1_01_34_12_14⟩,
    ⟨537, 10, 9, 0x1_01_34_12_81_14_81⟩,
    ⟨291, 22, 22, 0x1_01_81_12_81_92_23_92_a1_14_a1⟩,
    ⟨195, 10, 9, 0x1_01_23_14_81_12_81⟩,
    ⟨153, 10, 9, 0x1_01_23_12_81_14_81⟩,
    ⟨724, 17, 15, 0x1_12_34_14_23_81_92_23_92_81⟩,
    ⟨579, 10, 9, 0x1_01_34_14_81_12_81⟩,
    ⟨657, 4, 2, 0x1_01_23_12_34⟩,
    ⟨212, 16, 15, 0x1_12_14_23_81_92_23_92_81⟩,
    ⟨728, 11, 9, 0x1_12_34_14_23_81_14_81⟩,
    ⟨664, 10, 8, 0x1_12_34_23_81_14_81⟩,
    ⟨706, 10, 8, 0x1_14_23_34_81_12_81⟩,
    ⟨721, 5, 3, 0x1_01_23_12_34_14⟩,
    ⟨705, 4, 3, 0x1_01_23_14_34⟩,
    ⟨722, 11, 9, 0x1_12_34_14_23_81_12_81⟩,
    ⟨596, 16, 15, 0x1_12_34_14_81_92_23_92_81⟩,
    ⟨665, 11, 9, 0x1_01_23_12_34_81_14_81⟩]

end StabilizerPrep.Bundled
