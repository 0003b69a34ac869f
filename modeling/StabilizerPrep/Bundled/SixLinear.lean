import StabilizerPrep.Bundled.Row

/-!
# The table for six qubits on the device linear

The bundled template table, one row for each class.
-/

namespace StabilizerPrep.Bundled

set_option autoImplicit false

set_option maxRecDepth 20000 in
def sixLinear : List Row :=
  [⟨0, 0, 0, 0x1⟩,
    ⟨1, 1, 1, 0x1_01⟩,
    ⟨2, 7, 7, 0x1_81_12_81⟩,
    ⟨4, 13, 13, 0x1_81_92_23_92_81⟩,
    ⟨8, 19, 19, 0x1_81_92_a3_34_a3_92_81⟩,
    ⟨16, 25, 25, 0x1_81_92_a3_b4_45_b4_a3_92_81⟩,
    ⟨32, 1, 1, 0x1_12⟩,
    ⟨64, 7, 7, 0x1_92_23_92⟩,
    ⟨128, 13, 13, 0x1_92_a3_34_a3_92⟩,
    ⟨256, 19, 19, 0x1_92_a3_b4_45_b4_a3_92⟩,
    ⟨512, 1, 1, 0x1_23⟩,
    ⟨1024, 7, 7, 0x1_a3_34_a3⟩,
    ⟨2048, 13, 13, 0x1_a3_b4_45_b4_a3⟩,
    ⟨4096, 1, 1, 0x1_34⟩,
    ⟨8192, 7, 7, 0x1_b4_45_b4⟩,
    ⟨16384, 1, 1, 0x1_45⟩,
    ⟨16896, 2, 1, 0x1_23_45⟩,
    ⟨9216, 14, 14, 0x1_a3_34_a3_b4_45_b4⟩,
    ⟨6144, 14, 14, 0x1_34_a3_b4_45_b4_a3⟩,
    ⟨16448, 8, 7, 0x1_45_92_23_92⟩,
    ⟨8320, 20, 17, 0x1_92_a3_34_a3_92_b4_45_b4⟩,
    ⟨4352, 20, 19, 0x1_34_92_a3_b4_45_b4_a3_92⟩,
    ⟨16416, 2, 1, 0x1_12_45⟩,
    ⟨2176, 26, 26, 0x1_92_a3_34_a3_92_a3_b4_45_b4_a3⟩,
    ⟨1280, 26, 26, 0x1_92_a3_b4_45_b4_a3_92_a3_34_a3⟩,
    ⟨8224, 8, 7, 0x1_12_b4_45_b4⟩,
    ⟨2112, 20, 20, 0x1_92_23_92_a3_b4_45_b4_a3⟩,
    ⟨768, 20, 20, 0x1_23_92_a3_b4_45_b4_a3_92⟩,
    ⟨4128, 2, 1, 0x1_12_34⟩,
    ⟨1088, 14, 14, 0x1_92_23_92_a3_34_a3⟩,
    ⟨640, 14, 14, 0x1_23_92_a3_34_a3_92⟩,
    ⟨16388, 14, 13, 0x1_45_81_92_23_92_81⟩,
    ⟨8200, 26, 20, 0x1_81_92_a3_34_a3_92_81_b4_45_b4⟩,
    ⟨4112, 26, 25, 0x1_34_81_92_a3_b4_45_b4_a3_92_81⟩,
    ⟨16386, 8, 7, 0x1_45_81_12_81⟩,
    ⟨2056, 32, 29, 0x1_81_92_a3_34_a3_92_81_a3_b4_45_b4_a3⟩,
    ⟨1040, 32, 29, 0x1_81_92_a3_b4_45_b4_a3_92_81_a3_34_a3⟩,
    ⟨8194, 14, 7, 0x1_81_12_81_b4_45_b4⟩,
    ⟨2052, 26, 23, 0x1_81_92_23_92_81_a3_b4_45_b4_a3⟩,
    ⟨528, 26, 25, 0x1_23_81_92_a3_b4_45_b4_a3_92_81⟩,
    ⟨4098, 8, 7, 0x1_34_81_12_81⟩,
    ⟨1028, 20, 17, 0x1_81_92_23_92_81_a3_34_a3⟩,
    ⟨520, 20, 19, 0x1_23_81_92_a3_34_a3_92_81⟩,
    ⟨16385, 2, 1, 0x1_01_45⟩,
    ⟨264, 38, 38, 0x1_81_92_a3_34_a3_92_81_92_a3_b4_45_b4_a3_92⟩,
    ⟨144, 38, 38, 0x1_81_92_a3_b4_45_b4_a3_92_81_92_a3_34_a3_92⟩,
    ⟨8193, 8, 7, 0x1_01_b4_45_b4⟩,
    ⟨260, 32, 32, 0x1_81_92_23_92_81_92_a3_b4_45_b4_a3_92⟩,
    ⟨80, 32, 32, 0x1_81_92_a3_b4_45_b4_a3_92_81_92_23_92⟩,
    ⟨4097, 2, 1, 0x1_01_34⟩,
    ⟨132, 26, 26, 0x1_81_92_23_92_81_92_a3_34_a3_92⟩,
    ⟨72, 26, 26, 0x1_81_92_a3_34_a3_92_81_92_23_92⟩,
    ⟨2049, 14, 13, 0x1_01_a3_b4_45_b4_a3⟩,
    ⟨258, 26, 26, 0x1_81_12_81_92_a3_b4_45_b4_a3_92⟩,
    ⟨48, 26, 26, 0x1_12_81_92_a3_b4_45_b4_a3_92_81⟩,
    ⟨1025, 8, 7, 0x1_01_a3_34_a3⟩,
    ⟨130, 20, 20, 0x1_81_12_81_92_a3_34_a3_92⟩,
    ⟨40, 20, 20, 0x1_12_81_92_a3_34_a3_92_81⟩,
    ⟨513, 2, 1, 0x1_01_23⟩,
    ⟨66, 14, 14, 0x1_81_12_81_92_23_92⟩,
    ⟨36, 14, 14, 0x1_12_81_92_23_92_81⟩,
    ⟨16897, 3, 1, 0x1_01_23_45⟩,
    ⟨9217, 15, 14, 0x1_01_a3_34_a3_b4_45_b4⟩,
    ⟨6145, 15, 14, 0x1_01_34_a3_b4_45_b4_a3⟩,
    ⟨16450, 15, 14, 0x1_45_81_12_81_92_23_92⟩,
    ⟨8322, 27, 24, 0x1_81_12_81_92_a3_34_a3_92_b4_45_b4⟩,
    ⟨4354, 27, 26, 0x1_34_81_12_81_92_a3_b4_45_b4_a3_92⟩,
    ⟨16420, 15, 14, 0x1_12_45_81_92_23_92_81⟩,
    ⟨2180, 39, 39, 0x1_81_92_23_92_81_92_a3_34_a3_92_a3_b4_45_b4_a3⟩,
    ⟨1284, 39, 39, 0x1_81_92_23_92_81_92_a3_b4_45_b4_a3_92_a3_34_a3⟩,
    ⟨8232, 27, 21, 0x1_12_81_92_a3_34_a3_92_81_b4_45_b4⟩,
    ⟨2120, 39, 39, 0x1_81_92_a3_34_a3_92_81_92_23_92_a3_b4_45_b4_a3⟩,
    ⟨776, 39, 38, 0x1_23_81_92_a3_34_a3_92_81_92_a3_b4_45_b4_a3_92⟩,
    ⟨4144, 27, 26, 0x1_12_34_81_92_a3_b4_45_b4_a3_92_81⟩,
    ⟨1104, 39, 39, 0x1_81_92_a3_b4_45_b4_a3_92_81_92_23_92_a3_34_a3⟩,
    ⟨656, 39, 38, 0x1_23_81_92_a3_b4_45_b4_a3_92_81_92_a3_34_a3_92⟩,
    ⟨33, 2, 2, 0x1_01_12⟩,
    ⟨65, 8, 8, 0x1_01_92_23_92⟩,
    ⟨129, 14, 14, 0x1_01_92_a3_34_a3_92⟩,
    ⟨257, 20, 20, 0x1_01_92_a3_b4_45_b4_a3_92⟩,
    ⟨514, 8, 7, 0x1_23_81_12_81⟩,
    ⟨1026, 14, 11, 0x1_81_12_81_a3_34_a3⟩,
    ⟨2050, 20, 17, 0x1_81_12_81_a3_b4_45_b4_a3⟩,
    ⟨4100, 14, 13, 0x1_34_81_92_23_92_81⟩,
    ⟨8196, 20, 14, 0x1_81_92_23_92_81_b4_45_b4⟩,
    ⟨16392, 20, 19, 0x1_45_81_92_a3_34_a3_92_81⟩,
    ⟨544, 2, 2, 0x1_12_23⟩,
    ⟨1056, 8, 8, 0x1_12_a3_34_a3⟩,
    ⟨2080, 14, 14, 0x1_12_a3_b4_45_b4_a3⟩,
    ⟨4160, 8, 7, 0x1_34_92_23_92⟩,
    ⟨8256, 14, 11, 0x1_92_23_92_b4_45_b4⟩,
    ⟨16512, 14, 13, 0x1_45_92_a3_34_a3_92⟩,
    ⟨4608, 2, 2, 0x1_23_34⟩,
    ⟨8704, 8, 8, 0x1_23_b4_45_b4⟩,
    ⟨17408, 8, 7, 0x1_45_a3_34_a3⟩,
    ⟨20480, 2, 2, 0x1_34_45⟩,
    ⟨20512, 3, 2, 0x1_12_34_45⟩,
    ⟨17472, 15, 14, 0x1_45_92_23_92_a3_34_a3⟩,
    ⟨8832, 21, 18, 0x1_23_92_a3_34_a3_92_b4_45_b4⟩,
    ⟨4864, 21, 20, 0x1_23_34_92_a3_b4_45_b4_a3_92⟩,
    ⟨17024, 15, 14, 0x1_23_45_92_a3_34_a3_92⟩,
    ⟨9280, 21, 21, 0x1_92_23_92_a3_34_a3_b4_45_b4⟩,
    ⟨6208, 21, 20, 0x1_34_92_23_92_a3_b4_45_b4_a3⟩,
    ⟨6176, 15, 14, 0x1_12_34_a3_b4_45_b4_a3⟩,
    ⟨9248, 15, 15, 0x1_12_a3_34_a3_b4_45_b4⟩,
    ⟨16928, 3, 2, 0x1_12_45_23⟩,
    ⟨16904, 21, 19, 0x1_23_45_81_92_a3_34_a3_92_81⟩,
    ⟨9220, 27, 24, 0x1_81_92_23_92_81_a3_34_a3_b4_45_b4⟩,
    ⟨6148, 27, 23, 0x1_34_81_92_23_92_81_a3_b4_45_b4_a3⟩,
    ⟨20482, 9, 7, 0x1_34_45_81_12_81⟩,
    ⟨6146, 21, 17, 0x1_34_81_12_81_a3_b4_45_b4_a3⟩,
    ⟨9218, 21, 18, 0x1_81_12_81_a3_34_a3_b4_45_b4⟩,
    ⟨17412, 21, 17, 0x1_45_81_92_23_92_81_a3_34_a3⟩,
    ⟨16898, 9, 7, 0x1_23_45_81_12_81⟩,
    ⟨8712, 27, 20, 0x1_23_81_92_a3_34_a3_92_81_b4_45_b4⟩,
    ⟨4624, 27, 25, 0x1_23_34_81_92_a3_b4_45_b4_a3_92_81⟩,
    ⟨4353, 21, 20, 0x1_01_34_92_a3_b4_45_b4_a3_92⟩,
    ⟨8321, 21, 18, 0x1_01_92_a3_34_a3_92_b4_45_b4⟩,
    ⟨16516, 27, 26, 0x1_45_81_92_23_92_81_92_a3_34_a3_92⟩,
    ⟨16456, 27, 26, 0x1_45_81_92_a3_34_a3_92_81_92_23_92⟩,
    ⟨16449, 9, 8, 0x1_01_45_92_23_92⟩,
    ⟨8264, 33, 30, 0x1_81_92_a3_34_a3_92_81_92_23_92_b4_45_b4⟩,
    ⟨8324, 33, 30, 0x1_81_92_23_92_81_92_a3_34_a3_92_b4_45_b4⟩,
    ⟨4176, 33, 32, 0x1_34_81_92_a3_b4_45_b4_a3_92_81_92_23_92⟩,
    ⟨4356, 33, 32, 0x1_34_81_92_23_92_81_92_a3_b4_45_b4_a3_92⟩,
    ⟨20481, 3, 2, 0x1_01_34_45⟩,
    ⟨16417, 3, 2, 0x1_01_45_12⟩,
    ⟨2088, 33, 30, 0x1_12_81_92_a3_34_a3_92_81_a3_b4_45_b4_a3⟩,
    ⟨2178, 33, 33, 0x1_81_12_81_92_a3_34_a3_92_a3_b4_45_b4_a3⟩,
    ⟨1281, 27, 27, 0x1_01_92_a3_b4_45_b4_a3_92_a3_34_a3⟩,
    ⟨1072, 33, 30, 0x1_12_81_92_a3_b4_45_b4_a3_92_81_a3_34_a3⟩,
    ⟨1282, 33, 33, 0x1_81_12_81_92_a3_b4_45_b4_a3_92_a3_34_a3⟩,
    ⟨2177, 27, 27, 0x1_01_92_a3_34_a3_92_a3_b4_45_b4_a3⟩,
    ⟨17409, 9, 7, 0x1_01_45_a3_34_a3⟩,
    ⟨16514, 21, 20, 0x1_45_81_12_81_92_a3_34_a3_92⟩,
    ⟨16424, 21, 20, 0x1_12_45_81_92_a3_34_a3_92_81⟩,
    ⟨560, 27, 26, 0x1_12_23_81_92_a3_b4_45_b4_a3_92_81⟩,
    ⟨770, 27, 26, 0x1_23_81_12_81_92_a3_b4_45_b4_a3_92⟩,
    ⟨2113, 21, 21, 0x1_01_92_23_92_a3_b4_45_b4_a3⟩,
    ⟨8225, 9, 7, 0x1_01_12_b4_45_b4⟩,
    ⟨8705, 9, 8, 0x1_01_23_b4_45_b4⟩,
    ⟨8258, 21, 18, 0x1_81_12_81_92_23_92_b4_45_b4⟩,
    ⟨2084, 27, 24, 0x1_12_81_92_23_92_81_a3_b4_45_b4_a3⟩,
    ⟨8228, 21, 15, 0x1_12_81_92_23_92_81_b4_45_b4⟩,
    ⟨2114, 27, 27, 0x1_81_12_81_92_23_92_a3_b4_45_b4_a3⟩,
    ⟨769, 21, 20, 0x1_01_23_92_a3_b4_45_b4_a3_92⟩,
    ⟨4609, 3, 2, 0x1_01_23_34⟩,
    ⟨4162, 15, 14, 0x1_34_81_12_81_92_23_92⟩,
    ⟨1060, 21, 18, 0x1_12_81_92_23_92_81_a3_34_a3⟩,
    ⟨552, 21, 20, 0x1_12_23_81_92_a3_34_a3_92_81⟩,
    ⟨4132, 15, 14, 0x1_12_34_81_92_23_92_81⟩,
    ⟨1090, 21, 21, 0x1_81_12_81_92_23_92_a3_34_a3⟩,
    ⟨642, 21, 20, 0x1_23_81_12_81_92_a3_34_a3_92⟩,
    ⟨641, 15, 14, 0x1_01_23_92_a3_34_a3_92⟩,
    ⟨1089, 15, 15, 0x1_01_92_23_92_a3_34_a3⟩,
    ⟨4129, 3, 2, 0x1_01_34_12⟩,
    ⟨20513, 4, 2, 0x1_01_34_12_45⟩,
    ⟨17473, 16, 15, 0x1_01_45_92_23_92_a3_34_a3⟩,
    ⟨8833, 22, 18, 0x1_01_23_92_a3_34_a3_92_b4_45_b4⟩,
    ⟨4865, 22, 20, 0x1_01_23_34_92_a3_b4_45_b4_a3_92⟩,
    ⟨17026, 22, 20, 0x1_23_45_81_12_81_92_a3_34_a3_92⟩,
    ⟨9282, 28, 28, 0x1_81_12_81_92_23_92_a3_34_a3_b4_45_b4⟩,
    ⟨6210, 28, 27, 0x1_34_81_12_81_92_23_92_a3_b4_45_b4_a3⟩,
    ⟨6180, 28, 24, 0x1_12_34_81_92_23_92_81_a3_b4_45_b4_a3⟩,
    ⟨9252, 28, 25, 0x1_12_81_92_23_92_81_a3_34_a3_b4_45_b4⟩,
    ⟨16936, 22, 20, 0x1_12_45_23_81_92_a3_34_a3_92_81⟩,
    ⟨20992, 3, 2, 0x1_23_45_34⟩,
    ⟨25600, 15, 14, 0x1_45_a3_34_a3_b4_45_b4⟩,
    ⟨22528, 15, 14, 0x1_34_45_a3_b4_45_b4_a3⟩,
    ⟨20544, 9, 7, 0x1_34_45_92_23_92⟩,
    ⟨12416, 21, 17, 0x1_34_92_a3_34_a3_92_b4_45_b4⟩,
    ⟨20736, 21, 19, 0x1_34_45_92_a3_b4_45_b4_a3_92⟩,
    ⟨17440, 9, 8, 0x1_12_45_a3_34_a3⟩,
    ⟨18560, 27, 26, 0x1_45_92_a3_34_a3_92_a3_b4_45_b4_a3⟩,
    ⟨17664, 27, 26, 0x1_45_92_a3_b4_45_b4_a3_92_a3_34_a3⟩,
    ⟨8736, 9, 9, 0x1_12_23_b4_45_b4⟩,
    ⟨2144, 21, 21, 0x1_12_92_23_92_a3_b4_45_b4_a3⟩,
    ⟨800, 21, 21, 0x1_12_23_92_a3_b4_45_b4_a3_92⟩,
    ⟨4640, 3, 2, 0x1_12_34_23⟩,
    ⟨5184, 15, 14, 0x1_34_92_23_92_a3_34_a3⟩,
    ⟨4736, 15, 14, 0x1_23_34_92_a3_34_a3_92⟩,
    ⟨20484, 15, 13, 0x1_34_45_81_92_23_92_81⟩,
    ⟨12296, 27, 20, 0x1_34_81_92_a3_34_a3_92_81_b4_45_b4⟩,
    ⟨20496, 27, 25, 0x1_34_45_81_92_a3_b4_45_b4_a3_92_81⟩,
    ⟨17410, 15, 11, 0x1_45_81_12_81_a3_34_a3⟩,
    ⟨18440, 33, 29, 0x1_45_81_92_a3_34_a3_92_81_a3_b4_45_b4_a3⟩,
    ⟨17424, 33, 29, 0x1_45_81_92_a3_b4_45_b4_a3_92_81_a3_34_a3⟩,
    ⟨8706, 15, 8, 0x1_23_81_12_81_b4_45_b4⟩,
    ⟨2564, 27, 23, 0x1_23_81_92_23_92_81_a3_b4_45_b4_a3⟩,
    ⟨8720, 33, 26, 0x1_23_81_92_a3_b4_45_b4_a3_92_81_b4_45_b4⟩,
    ⟨4610, 9, 7, 0x1_23_34_81_12_81⟩,
    ⟨1540, 21, 17, 0x1_23_81_92_23_92_81_a3_34_a3⟩,
    ⟨4616, 21, 19, 0x1_23_34_81_92_a3_34_a3_92_81⟩,
    ⟨16513, 15, 14, 0x1_01_45_92_a3_34_a3_92⟩,
    ⟨16648, 39, 38, 0x1_45_81_92_a3_34_a3_92_81_92_a3_b4_45_b4_a3_92⟩,
    ⟨16528, 39, 38, 0x1_45_81_92_a3_b4_45_b4_a3_92_81_92_a3_34_a3_92⟩,
    ⟨8257, 15, 12, 0x1_01_92_23_92_b4_45_b4⟩,
    ⟨261, 33, 33, 0x1_01_81_92_23_92_81_92_a3_b4_45_b4_a3_92⟩,
    ⟨81, 33, 33, 0x1_01_81_92_a3_b4_45_b4_a3_92_81_92_23_92⟩,
    ⟨4161, 9, 8, 0x1_01_34_92_23_92⟩,
    ⟨4228, 27, 26, 0x1_34_81_92_23_92_81_92_a3_34_a3_92⟩,
    ⟨4168, 27, 26, 0x1_34_81_92_a3_34_a3_92_81_92_23_92⟩,
    ⟨2081, 15, 15, 0x1_01_12_a3_b4_45_b4_a3⟩,
    ⟨259, 27, 27, 0x1_01_81_12_81_92_a3_b4_45_b4_a3_92⟩,
    ⟨49, 27, 27, 0x1_01_12_81_92_a3_b4_45_b4_a3_92_81⟩,
    ⟨1057, 9, 9, 0x1_01_12_a3_34_a3⟩,
    ⟨131, 21, 21, 0x1_01_81_12_81_92_a3_34_a3_92⟩,
    ⟨41, 21, 21, 0x1_01_12_81_92_a3_34_a3_92_81⟩,
    ⟨545, 3, 2, 0x1_01_23_12⟩,
    ⟨578, 15, 14, 0x1_23_81_12_81_92_23_92⟩,
    ⟨548, 15, 14, 0x1_12_23_81_92_23_92_81⟩,
    ⟨20993, 4, 2, 0x1_01_23_45_34⟩,
    ⟨25601, 16, 14, 0x1_01_45_a3_34_a3_b4_45_b4⟩,
    ⟨22529, 16, 14, 0x1_01_34_45_a3_b4_45_b4_a3⟩,
    ⟨20546, 16, 14, 0x1_34_45_81_12_81_92_23_92⟩,
    ⟨12418, 28, 24, 0x1_34_81_12_81_92_a3_34_a3_92_b4_45_b4⟩,
    ⟨20738, 28, 26, 0x1_34_45_81_12_81_92_a3_b4_45_b4_a3_92⟩,
    ⟨17444, 22, 18, 0x1_12_45_81_92_23_92_81_a3_34_a3⟩,
    ⟨18564, 40, 39, 0x1_45_81_92_23_92_81_92_a3_34_a3_92_a3_b4_45_b4_a3⟩,
    ⟨17668, 40, 39, 0x1_45_81_92_23_92_81_92_a3_b4_45_b4_a3_92_a3_34_a3⟩,
    ⟨8744, 28, 21, 0x1_12_23_81_92_a3_34_a3_92_81_b4_45_b4⟩,
    ⟨2632, 40, 39, 0x1_23_81_92_a3_34_a3_92_81_92_23_92_a3_b4_45_b4_a3⟩,
    ⟨808, 40, 39, 0x1_12_23_81_92_a3_34_a3_92_81_92_a3_b4_45_b4_a3_92⟩,
    ⟨4656, 28, 26, 0x1_12_34_23_81_92_a3_b4_45_b4_a3_92_81⟩,
    ⟨1616, 40, 39, 0x1_23_81_92_a3_b4_45_b4_a3_92_81_92_23_92_a3_34_a3⟩,
    ⟨4752, 40, 38, 0x1_23_34_81_92_a3_b4_45_b4_a3_92_81_92_a3_34_a3_92⟩,
    ⟨20516, 16, 14, 0x1_12_34_45_81_92_23_92_81⟩,
    ⟨12328, 28, 21, 0x1_12_34_81_92_a3_34_a3_92_81_b4_45_b4⟩,
    ⟨20528, 28, 26, 0x1_12_34_45_81_92_a3_b4_45_b4_a3_92_81⟩,
    ⟨17474, 22, 21, 0x1_45_81_12_81_92_23_92_a3_34_a3⟩,
    ⟨18504, 40, 39, 0x1_45_81_92_a3_34_a3_92_81_92_23_92_a3_b4_45_b4_a3⟩,
    ⟨17488, 40, 39, 0x1_45_81_92_a3_b4_45_b4_a3_92_81_92_23_92_a3_34_a3⟩,
    ⟨8834, 28, 24, 0x1_23_81_12_81_92_a3_34_a3_92_b4_45_b4⟩,
    ⟨2692, 40, 39, 0x1_23_81_92_23_92_81_92_a3_34_a3_92_a3_b4_45_b4_a3⟩,
    ⟨8848, 46, 42, 0x1_23_81_92_a3_b4_45_b4_a3_92_81_92_a3_34_a3_92_b4_45_b4⟩,
    ⟨4866, 28, 26, 0x1_23_34_81_12_81_92_a3_b4_45_b4_a3_92⟩,
    ⟨1796, 40, 39, 0x1_23_81_92_23_92_81_92_a3_b4_45_b4_a3_92_a3_34_a3⟩,
    ⟨4872, 40, 38, 0x1_23_34_81_92_a3_34_a3_92_81_92_a3_b4_45_b4_a3_92⟩,
    ⟨17025, 16, 14, 0x1_01_23_45_92_a3_34_a3_92⟩,
    ⟨17160, 40, 38, 0x1_23_45_81_92_a3_34_a3_92_81_92_a3_b4_45_b4_a3_92⟩,
    ⟨17040, 40, 38, 0x1_23_45_81_92_a3_b4_45_b4_a3_92_81_92_a3_34_a3_92⟩,
    ⟨9281, 22, 22, 0x1_01_92_23_92_a3_34_a3_b4_45_b4⟩,
    ⟨1285, 40, 40, 0x1_01_81_92_23_92_81_92_a3_b4_45_b4_a3_92_a3_34_a3⟩,
    ⟨1105, 40, 40, 0x1_01_81_92_a3_b4_45_b4_a3_92_81_92_23_92_a3_34_a3⟩,
    ⟨6209, 22, 21, 0x1_01_34_92_23_92_a3_b4_45_b4_a3⟩,
    ⟨6276, 40, 39, 0x1_34_81_92_23_92_81_92_a3_34_a3_92_a3_b4_45_b4_a3⟩,
    ⟨6216, 40, 39, 0x1_34_81_92_a3_34_a3_92_81_92_23_92_a3_b4_45_b4_a3⟩,
    ⟨6177, 16, 15, 0x1_01_34_12_a3_b4_45_b4_a3⟩,
    ⟨4355, 28, 27, 0x1_01_34_81_12_81_92_a3_b4_45_b4_a3_92⟩,
    ⟨4145, 28, 27, 0x1_01_34_12_81_92_a3_b4_45_b4_a3_92_81⟩,
    ⟨9249, 16, 16, 0x1_01_12_a3_34_a3_b4_45_b4⟩,
    ⟨8323, 28, 25, 0x1_01_81_12_81_92_a3_34_a3_92_b4_45_b4⟩,
    ⟨8233, 28, 22, 0x1_01_12_81_92_a3_34_a3_92_81_b4_45_b4⟩,
    ⟨16929, 4, 2, 0x1_01_23_45_12⟩,
    ⟨16962, 16, 14, 0x1_23_45_81_12_81_92_23_92⟩,
    ⟨16932, 16, 14, 0x1_12_45_23_81_92_23_92_81⟩,
    ⟨21504, 9, 8, 0x1_34_45_a3_34_a3⟩,
    ⟨12352, 15, 11, 0x1_34_92_23_92_b4_45_b4⟩,
    ⟨17536, 21, 20, 0x1_45_92_a3_34_a3_92_a3_34_a3⟩,
    ⟨8768, 15, 12, 0x1_23_92_23_92_b4_45_b4⟩,
    ⟨4672, 9, 8, 0x1_23_34_92_23_92⟩,
    ⟨12292, 21, 14, 0x1_34_81_92_23_92_81_b4_45_b4⟩,
    ⟨17416, 27, 23, 0x1_45_81_92_a3_34_a3_92_81_a3_34_a3⟩,
    ⟨8708, 21, 14, 0x1_23_81_92_23_92_81_b4_45_b4⟩,
    ⟨1538, 15, 11, 0x1_23_81_12_81_a3_34_a3⟩,
    ⟨16520, 33, 32, 0x1_45_81_92_a3_34_a3_92_81_92_a3_34_a3_92⟩,
    ⟨8260, 27, 24, 0x1_81_92_23_92_81_92_23_92_b4_45_b4⟩,
    ⟨4164, 21, 20, 0x1_34_81_92_23_92_81_92_23_92⟩,
    ⟨2082, 21, 18, 0x1_12_81_12_81_a3_b4_45_b4_a3⟩,
    ⟨1058, 15, 12, 0x1_12_81_12_81_a3_34_a3⟩,
    ⟨546, 9, 8, 0x1_12_23_81_12_81⟩,
    ⟨21505, 10, 8, 0x1_01_34_45_a3_34_a3⟩,
    ⟨12354, 22, 18, 0x1_34_81_12_81_92_23_92_b4_45_b4⟩,
    ⟨3108, 34, 31, 0x1_12_81_92_23_92_81_a3_34_a3_a3_b4_45_b4_a3⟩,
    ⟨2600, 34, 30, 0x1_12_23_81_92_a3_34_a3_92_81_a3_b4_45_b4_a3⟩,
    ⟨1584, 34, 30, 0x1_12_23_81_92_a3_b4_45_b4_a3_92_81_a3_34_a3⟩,
    ⟨12324, 22, 15, 0x1_12_34_81_92_23_92_81_b4_45_b4⟩,
    ⟨17480, 34, 33, 0x1_45_81_92_a3_34_a3_92_81_92_23_92_a3_34_a3⟩,
    ⟨8836, 34, 30, 0x1_23_81_92_23_92_81_92_a3_34_a3_92_b4_45_b4⟩,
    ⟨4868, 34, 32, 0x1_23_34_81_92_23_92_81_92_a3_b4_45_b4_a3_92⟩,
    ⟨17032, 34, 32, 0x1_23_45_81_92_a3_34_a3_92_81_92_a3_34_a3_92⟩,
    ⟨1345, 34, 34, 0x1_01_92_23_92_92_a3_b4_45_b4_a3_92_a3_34_a3⟩,
    ⟨6212, 34, 33, 0x1_34_81_92_23_92_81_92_23_92_a3_b4_45_b4_a3⟩,
    ⟨6178, 22, 18, 0x1_12_34_81_12_81_a3_b4_45_b4_a3⟩,
    ⟨8353, 22, 19, 0x1_01_12_92_a3_34_a3_92_b4_45_b4⟩,
    ⟨16930, 10, 8, 0x1_12_45_23_81_12_81⟩,
    ⟨17056, 16, 15, 0x1_12_45_23_92_a3_34_a3_92⟩,
    ⟨9312, 22, 22, 0x1_12_92_23_92_a3_34_a3_b4_45_b4⟩,
    ⟨6240, 22, 21, 0x1_12_34_92_23_92_a3_b4_45_b4_a3⟩,
    ⟨17504, 16, 15, 0x1_12_45_92_23_92_a3_34_a3⟩,
    ⟨8864, 22, 19, 0x1_12_23_92_a3_34_a3_92_b4_45_b4⟩,
    ⟨4896, 22, 21, 0x1_12_34_23_92_a3_b4_45_b4_a3_92⟩,
    ⟨21024, 4, 2, 0x1_12_34_23_45⟩,
    ⟨6784, 28, 27, 0x1_23_34_92_a3_34_a3_92_a3_b4_45_b4_a3⟩,
    ⟨5440, 34, 33, 0x1_34_92_23_92_92_a3_b4_45_b4_a3_92_a3_34_a3⟩,
    ⟨13344, 16, 15, 0x1_12_34_a3_34_a3_b4_45_b4⟩,
    ⟨22592, 22, 20, 0x1_34_45_92_23_92_a3_b4_45_b4_a3⟩,
    ⟨21248, 22, 20, 0x1_23_45_34_92_a3_b4_45_b4_a3_92⟩,
    ⟨22560, 16, 14, 0x1_12_34_45_a3_b4_45_b4_a3⟩,
    ⟨25664, 22, 21, 0x1_45_92_23_92_a3_34_a3_b4_45_b4⟩,
    ⟨25216, 22, 18, 0x1_23_45_92_a3_34_a3_92_b4_45_b4⟩,
    ⟨16906, 28, 26, 0x1_23_45_81_12_81_81_92_a3_34_a3_92_81⟩,
    ⟨9222, 34, 31, 0x1_81_12_81_81_92_23_92_81_a3_34_a3_b4_45_b4⟩,
    ⟨6150, 34, 30, 0x1_34_81_12_81_81_92_23_92_81_a3_b4_45_b4_a3⟩,
    ⟨17924, 22, 17, 0x1_23_45_81_92_23_92_81_a3_34_a3⟩,
    ⟨8714, 34, 27, 0x1_23_81_12_81_81_92_a3_34_a3_92_81_b4_45_b4⟩,
    ⟨4626, 34, 32, 0x1_23_34_81_12_81_81_92_a3_b4_45_b4_a3_92_81⟩,
    ⟨20994, 10, 7, 0x1_23_45_34_81_12_81⟩,
    ⟨6664, 34, 29, 0x1_23_34_81_92_a3_34_a3_92_81_a3_b4_45_b4_a3⟩,
    ⟨9744, 40, 36, 0x1_23_81_92_a3_b4_45_b4_a3_92_81_a3_34_a3_b4_45_b4⟩,
    ⟨13314, 22, 18, 0x1_34_81_12_81_a3_34_a3_b4_45_b4⟩,
    ⟨22532, 28, 23, 0x1_34_45_81_92_23_92_81_a3_b4_45_b4_a3⟩,
    ⟨21008, 28, 25, 0x1_23_45_34_81_92_a3_b4_45_b4_a3_92_81⟩,
    ⟨22530, 22, 17, 0x1_34_45_81_12_81_a3_b4_45_b4_a3⟩,
    ⟨25604, 28, 24, 0x1_45_81_92_23_92_81_a3_34_a3_b4_45_b4⟩,
    ⟨25096, 28, 20, 0x1_23_45_81_92_a3_34_a3_92_81_b4_45_b4⟩,
    ⟨16457, 28, 27, 0x1_01_45_81_92_a3_34_a3_92_81_92_23_92⟩,
    ⟨8325, 34, 31, 0x1_01_81_92_23_92_81_92_a3_34_a3_92_b4_45_b4⟩,
    ⟨4357, 34, 33, 0x1_01_34_81_92_23_92_81_92_a3_b4_45_b4_a3_92⟩,
    ⟨16517, 28, 27, 0x1_01_45_81_92_23_92_81_92_a3_34_a3_92⟩,
    ⟨8265, 34, 31, 0x1_01_81_92_a3_34_a3_92_81_92_23_92_b4_45_b4⟩,
    ⟨4177, 34, 33, 0x1_01_34_81_92_a3_b4_45_b4_a3_92_81_92_23_92⟩,
    ⟨20545, 10, 8, 0x1_01_34_45_92_23_92⟩,
    ⟨12552, 46, 42, 0x1_34_81_92_a3_34_a3_92_81_92_a3_b4_45_b4_a3_92_b4_45_b4⟩,
    ⟨12432, 46, 42, 0x1_34_81_92_a3_b4_45_b4_a3_92_81_92_a3_34_a3_92_b4_45_b4⟩,
    ⟨12417, 22, 18, 0x1_01_34_92_a3_34_a3_92_b4_45_b4⟩,
    ⟨20740, 34, 32, 0x1_34_45_81_92_23_92_81_92_a3_b4_45_b4_a3_92⟩,
    ⟨20560, 34, 32, 0x1_34_45_81_92_a3_b4_45_b4_a3_92_81_92_23_92⟩,
    ⟨20737, 22, 20, 0x1_01_34_45_92_a3_b4_45_b4_a3_92⟩,
    ⟨24708, 34, 30, 0x1_45_81_92_23_92_81_92_a3_34_a3_92_b4_45_b4⟩,
    ⟨24648, 34, 30, 0x1_45_81_92_a3_34_a3_92_81_92_23_92_b4_45_b4⟩,
    ⟨16425, 22, 21, 0x1_01_45_12_81_92_a3_34_a3_92_81⟩,
    ⟨2179, 34, 34, 0x1_01_81_12_81_92_a3_34_a3_92_a3_b4_45_b4_a3⟩,
    ⟨1283, 34, 34, 0x1_01_81_12_81_92_a3_b4_45_b4_a3_92_a3_34_a3⟩,
    ⟨16515, 22, 21, 0x1_01_45_81_12_81_92_a3_34_a3_92⟩,
    ⟨2089, 34, 31, 0x1_01_12_81_92_a3_34_a3_92_81_a3_b4_45_b4_a3⟩,
    ⟨1073, 34, 31, 0x1_01_12_81_92_a3_b4_45_b4_a3_92_81_a3_34_a3⟩,
    ⟨17441, 10, 9, 0x1_01_45_12_a3_34_a3⟩,
    ⟨298, 46, 46, 0x1_12_81_12_81_81_92_a3_34_a3_92_81_92_a3_b4_45_b4_a3_92⟩,
    ⟨178, 46, 46, 0x1_12_81_12_81_81_92_a3_b4_45_b4_a3_92_81_92_a3_34_a3_92⟩,
    ⟨18561, 28, 27, 0x1_01_45_92_a3_34_a3_92_a3_b4_45_b4_a3⟩,
    ⟨17666, 34, 33, 0x1_45_81_12_81_92_a3_b4_45_b4_a3_92_a3_34_a3⟩,
    ⟨17456, 34, 30, 0x1_12_45_81_92_a3_b4_45_b4_a3_92_81_a3_34_a3⟩,
    ⟨17665, 28, 27, 0x1_01_45_92_a3_b4_45_b4_a3_92_a3_34_a3⟩,
    ⟨18562, 34, 33, 0x1_45_81_12_81_92_a3_34_a3_92_a3_b4_45_b4_a3⟩,
    ⟨18472, 34, 30, 0x1_12_45_81_92_a3_34_a3_92_81_a3_b4_45_b4_a3⟩,
    ⟨8229, 22, 16, 0x1_01_12_81_92_23_92_81_b4_45_b4⟩,
    ⟨2115, 28, 28, 0x1_01_81_12_81_92_23_92_a3_b4_45_b4_a3⟩,
    ⟨771, 28, 27, 0x1_01_23_81_12_81_92_a3_b4_45_b4_a3_92⟩,
    ⟨8259, 22, 19, 0x1_01_81_12_81_92_23_92_b4_45_b4⟩,
    ⟨2085, 28, 25, 0x1_01_12_81_92_23_92_81_a3_b4_45_b4_a3⟩,
    ⟨561, 28, 27, 0x1_01_23_12_81_92_a3_b4_45_b4_a3_92_81⟩,
    ⟨8737, 10, 8, 0x1_01_23_12_b4_45_b4⟩,
    ⟨804, 34, 33, 0x1_12_23_81_92_23_92_81_92_a3_b4_45_b4_a3_92⟩,
    ⟨594, 40, 39, 0x1_23_81_12_81_81_92_a3_b4_45_b4_a3_92_81_92_23_92⟩,
    ⟨2625, 22, 21, 0x1_01_23_92_23_92_a3_b4_45_b4_a3⟩,
    ⟨8962, 34, 30, 0x1_23_81_12_81_92_a3_b4_45_b4_a3_92_b4_45_b4⟩,
    ⟨8752, 34, 27, 0x1_12_23_81_92_a3_b4_45_b4_a3_92_81_b4_45_b4⟩,
    ⟨8961, 28, 24, 0x1_01_23_92_a3_b4_45_b4_a3_92_b4_45_b4⟩,
    ⟨10306, 34, 34, 0x1_81_12_81_92_23_92_a3_b4_45_b4_a3_b4_45_b4⟩,
    ⟨10276, 34, 31, 0x1_12_81_92_23_92_81_a3_b4_45_b4_a3_b4_45_b4⟩,
    ⟨4133, 16, 15, 0x1_01_34_12_81_92_23_92_81⟩,
    ⟨1091, 22, 22, 0x1_01_81_12_81_92_23_92_a3_34_a3⟩,
    ⟨643, 22, 21, 0x1_01_23_81_12_81_92_a3_34_a3_92⟩,
    ⟨4163, 16, 15, 0x1_01_34_81_12_81_92_23_92⟩,
    ⟨1061, 22, 19, 0x1_01_12_81_92_23_92_81_a3_34_a3⟩,
    ⟨553, 22, 21, 0x1_01_23_12_81_92_a3_34_a3_92_81⟩,
    ⟨4641, 4, 2, 0x1_01_23_12_34⟩,
    ⟨676, 28, 27, 0x1_12_23_81_92_23_92_81_92_a3_34_a3_92⟩,
    ⟨586, 34, 33, 0x1_23_81_12_81_81_92_a3_34_a3_92_81_92_23_92⟩,
    ⟨1601, 16, 15, 0x1_01_23_92_23_92_a3_34_a3⟩,
    ⟨4738, 22, 20, 0x1_23_34_81_12_81_92_a3_34_a3_92⟩,
    ⟨4648, 22, 20, 0x1_12_34_23_81_92_a3_34_a3_92_81⟩,
    ⟨4737, 16, 14, 0x1_01_23_34_92_a3_34_a3_92⟩,
    ⟨5186, 22, 21, 0x1_34_81_12_81_92_23_92_a3_34_a3⟩,
    ⟨5156, 22, 18, 0x1_12_34_81_92_23_92_81_a3_34_a3⟩,
    ⟨25248, 23, 19, 0x1_12_45_23_92_a3_34_a3_92_b4_45_b4⟩,
    ⟨25098, 35, 27, 0x1_23_45_81_12_81_81_92_a3_34_a3_92_81_b4_45_b4⟩,
    ⟨24649, 35, 31, 0x1_01_45_81_92_a3_34_a3_92_81_92_23_92_b4_45_b4⟩,
    ⟨17457, 35, 31, 0x1_01_45_12_81_92_a3_b4_45_b4_a3_92_81_a3_34_a3⟩,
    ⟨8753, 35, 28, 0x1_01_23_12_81_92_a3_b4_45_b4_a3_92_81_b4_45_b4⟩,
    ⟨5157, 23, 19, 0x1_01_34_12_81_92_23_92_81_a3_34_a3⟩,
    ⟨21536, 10, 8, 0x1_12_34_45_a3_34_a3⟩,
    ⟨21568, 16, 14, 0x1_34_45_92_23_92_a3_34_a3⟩,
    ⟨12928, 22, 18, 0x1_23_34_92_a3_34_a3_92_b4_45_b4⟩,
    ⟨13056, 28, 24, 0x1_23_34_92_a3_b4_45_b4_a3_92_b4_45_b4⟩,
    ⟨21120, 16, 14, 0x1_23_45_34_92_a3_34_a3_92⟩,
    ⟨13376, 22, 21, 0x1_34_92_23_92_a3_34_a3_b4_45_b4⟩,
    ⟨6720, 22, 21, 0x1_23_34_92_23_92_a3_b4_45_b4_a3⟩,
    ⟨6688, 16, 15, 0x1_12_34_23_a3_b4_45_b4_a3⟩,
    ⟨9760, 16, 16, 0x1_12_23_a3_34_a3_b4_45_b4⟩,
    ⟨21056, 10, 8, 0x1_23_45_34_92_23_92⟩,
    ⟨21000, 22, 19, 0x1_23_45_34_81_92_a3_34_a3_92_81⟩,
    ⟨9732, 28, 24, 0x1_23_81_92_23_92_81_a3_34_a3_b4_45_b4⟩,
    ⟨6660, 28, 23, 0x1_23_34_81_92_23_92_81_a3_b4_45_b4_a3⟩,
    ⟨12802, 16, 9, 0x1_23_34_81_12_81_b4_45_b4⟩,
    ⟨6658, 22, 17, 0x1_23_34_81_12_81_a3_b4_45_b4_a3⟩,
    ⟨9730, 22, 18, 0x1_23_81_12_81_a3_34_a3_b4_45_b4⟩,
    ⟨21508, 22, 17, 0x1_34_45_81_92_23_92_81_a3_34_a3⟩,
    ⟨17922, 16, 11, 0x1_23_45_81_12_81_a3_34_a3⟩,
    ⟨12808, 28, 20, 0x1_23_34_81_92_a3_34_a3_92_81_b4_45_b4⟩,
    ⟨12816, 34, 26, 0x1_23_34_81_92_a3_b4_45_b4_a3_92_81_b4_45_b4⟩,
    ⟨4417, 28, 27, 0x1_01_34_92_23_92_92_a3_b4_45_b4_a3_92⟩,
    ⟨8385, 28, 25, 0x1_01_92_23_92_92_a3_34_a3_92_b4_45_b4⟩,
    ⟨20612, 28, 26, 0x1_34_45_81_92_23_92_81_92_a3_34_a3_92⟩,
    ⟨20552, 28, 26, 0x1_34_45_81_92_a3_34_a3_92_81_92_23_92⟩,
    ⟨20548, 22, 20, 0x1_34_45_81_92_23_92_81_92_23_92⟩,
    ⟨12360, 34, 30, 0x1_34_81_92_a3_34_a3_92_81_92_23_92_b4_45_b4⟩,
    ⟨12420, 34, 30, 0x1_34_81_92_23_92_81_92_a3_34_a3_92_b4_45_b4⟩,
    ⟨12368, 40, 36, 0x1_34_81_92_a3_b4_45_b4_a3_92_81_92_23_92_b4_45_b4⟩,
    ⟨12548, 40, 36, 0x1_34_81_92_23_92_81_92_a3_b4_45_b4_a3_92_b4_45_b4⟩,
    ⟨12353, 16, 12, 0x1_01_34_92_23_92_b4_45_b4⟩,
    ⟨17442, 16, 12, 0x1_12_45_81_12_81_a3_34_a3⟩,
    ⟨2090, 40, 37, 0x1_12_81_12_81_81_92_a3_34_a3_92_81_a3_b4_45_b4_a3⟩,
    ⟨2210, 34, 34, 0x1_12_81_12_81_92_a3_34_a3_92_a3_b4_45_b4_a3⟩,
    ⟨1313, 28, 28, 0x1_01_12_92_a3_b4_45_b4_a3_92_a3_34_a3⟩,
    ⟨1074, 40, 37, 0x1_12_81_12_81_81_92_a3_b4_45_b4_a3_92_81_a3_34_a3⟩,
    ⟨1314, 34, 34, 0x1_12_81_12_81_92_a3_b4_45_b4_a3_92_a3_34_a3⟩,
    ⟨2209, 28, 28, 0x1_01_12_92_a3_34_a3_92_a3_b4_45_b4_a3⟩,
    ⟨17537, 22, 21, 0x1_01_45_92_a3_34_a3_92_a3_34_a3⟩,
    ⟨17538, 28, 27, 0x1_45_81_12_81_92_a3_34_a3_92_a3_34_a3⟩,
    ⟨17448, 28, 24, 0x1_12_45_81_92_a3_34_a3_92_81_a3_34_a3⟩,
    ⟨562, 34, 33, 0x1_12_23_81_12_81_81_92_a3_b4_45_b4_a3_92_81⟩,
    ⟨802, 28, 27, 0x1_12_23_81_12_81_92_a3_b4_45_b4_a3_92⟩,
    ⟨2145, 22, 22, 0x1_01_12_92_23_92_a3_b4_45_b4_a3⟩,
    ⟨8738, 16, 9, 0x1_12_23_81_12_81_b4_45_b4⟩,
    ⟨8769, 16, 12, 0x1_01_23_92_23_92_b4_45_b4⟩,
    ⟨8770, 22, 18, 0x1_23_81_12_81_92_23_92_b4_45_b4⟩,
    ⟨2596, 28, 24, 0x1_12_23_81_92_23_92_81_a3_b4_45_b4_a3⟩,
    ⟨8740, 22, 15, 0x1_12_23_81_92_23_92_81_b4_45_b4⟩,
    ⟨2626, 28, 27, 0x1_23_81_12_81_92_23_92_a3_b4_45_b4_a3⟩,
    ⟨801, 22, 21, 0x1_01_23_12_92_a3_b4_45_b4_a3_92⟩,
    ⟨4673, 10, 8, 0x1_01_23_34_92_23_92⟩,
    ⟨4674, 16, 14, 0x1_23_34_81_12_81_92_23_92⟩,
    ⟨1572, 22, 18, 0x1_12_23_81_92_23_92_81_a3_34_a3⟩,
    ⟨1576, 28, 24, 0x1_12_23_81_92_a3_34_a3_92_81_a3_34_a3⟩,
    ⟨4644, 16, 14, 0x1_12_34_23_81_92_23_92_81⟩,
    ⟨1602, 22, 21, 0x1_23_81_12_81_92_23_92_a3_34_a3⟩,
    ⟨674, 22, 21, 0x1_12_23_81_12_81_92_a3_34_a3_92⟩,
    ⟨673, 16, 15, 0x1_01_23_12_92_a3_34_a3_92⟩,
    ⟨1121, 16, 16, 0x1_01_12_92_23_92_a3_34_a3⟩,
    ⟨4642, 10, 8, 0x1_12_34_23_81_12_81⟩,
    ⟨12864, 16, 12, 0x1_23_34_92_23_92_b4_45_b4⟩,
    ⟨12804, 22, 14, 0x1_23_34_81_92_23_92_81_b4_45_b4⟩,
    ⟨12356, 28, 24, 0x1_34_81_92_23_92_81_92_23_92_b4_45_b4⟩,
    ⟨3106, 28, 25, 0x1_12_81_12_81_a3_34_a3_a3_b4_45_b4_a3⟩,
    ⟨2594, 22, 18, 0x1_12_23_81_12_81_a3_b4_45_b4_a3⟩,
    ⟨1570, 16, 12, 0x1_12_23_81_12_81_a3_34_a3⟩,
    ⟨12978, 55, 50, 0x1_12_34_23_81_12_81_81_92_a3_b4_45_b4_a3_92_81_92_a3_34_a3_92_b4_45_b4⟩,
    ⟨21618, 49, 47, 0x1_12_34_45_81_12_81_81_92_a3_b4_45_b4_a3_92_81_92_23_92_a3_34_a3⟩,
    ⟨22131, 51, 48, 0x1_01_23_45_12_34_81_12_81_81_92_a3_b4_45_b4_a3_92_81_92_23_92_a3_34_a3⟩,
    ⟨13425, 49, 48, 0x1_01_34_12_81_92_a3_b4_45_b4_a3_92_81_92_23_92_a3_34_a3_b4_45_b4⟩,
    ⟨18001, 42, 40, 0x1_01_23_45_81_92_a3_b4_45_b4_a3_92_81_92_23_92_a3_34_a3⟩,
    ⟨19017, 42, 40, 0x1_01_23_45_81_92_a3_34_a3_92_81_92_23_92_a3_b4_45_b4_a3⟩,
    ⟨30321, 51, 48, 0x1_01_23_45_12_34_81_92_a3_b4_45_b4_a3_92_81_92_23_92_a3_34_a3_b4_45_b4⟩,
    ⟨21041, 30, 27, 0x1_01_23_45_12_34_81_92_a3_b4_45_b4_a3_92_81⟩,
    ⟨25129, 30, 22, 0x1_01_23_45_12_81_92_a3_34_a3_92_81_b4_45_b4⟩,
    ⟨18181, 42, 40, 0x1_01_23_45_81_92_23_92_81_92_a3_b4_45_b4_a3_92_a3_34_a3⟩,
    ⟨21251, 30, 27, 0x1_01_23_45_34_81_12_81_92_a3_b4_45_b4_a3_92⟩,
    ⟨25637, 30, 26, 0x1_01_45_12_81_92_23_92_81_a3_34_a3_b4_45_b4⟩,
    ⟨19077, 42, 40, 0x1_01_23_45_81_92_23_92_81_92_a3_34_a3_92_a3_b4_45_b4_a3⟩,
    ⟨25219, 30, 25, 0x1_01_23_45_81_12_81_92_a3_34_a3_92_b4_45_b4⟩,
    ⟨22565, 30, 25, 0x1_01_34_12_45_81_92_23_92_81_a3_b4_45_b4_a3⟩,
    ⟨17027, 23, 21, 0x1_01_23_45_81_12_81_92_a3_34_a3_92⟩,
    ⟨9283, 29, 29, 0x1_01_81_12_81_92_23_92_a3_34_a3_b4_45_b4⟩,
    ⟨6211, 29, 28, 0x1_01_34_81_12_81_92_23_92_a3_b4_45_b4_a3⟩,
    ⟨17475, 23, 22, 0x1_01_45_81_12_81_92_23_92_a3_34_a3⟩,
    ⟨8835, 29, 25, 0x1_01_23_81_12_81_92_a3_34_a3_92_b4_45_b4⟩,
    ⟨4867, 29, 27, 0x1_01_23_34_81_12_81_92_a3_b4_45_b4_a3_92⟩,
    ⟨20517, 17, 15, 0x1_01_34_12_45_81_92_23_92_81⟩,
    ⟨2693, 41, 40, 0x1_01_23_81_92_23_92_81_92_a3_34_a3_92_a3_b4_45_b4_a3⟩,
    ⟨1797, 41, 40, 0x1_01_23_81_92_23_92_81_92_a3_b4_45_b4_a3_92_a3_34_a3⟩,
    ⟨12329, 29, 22, 0x1_01_34_12_81_92_a3_34_a3_92_81_b4_45_b4⟩,
    ⟨18505, 41, 40, 0x1_01_45_81_92_a3_34_a3_92_81_92_23_92_a3_b4_45_b4_a3⟩,
    ⟨4873, 41, 39, 0x1_01_23_34_81_92_a3_34_a3_92_81_92_a3_b4_45_b4_a3_92⟩,
    ⟨20529, 29, 27, 0x1_01_34_12_45_81_92_a3_b4_45_b4_a3_92_81⟩,
    ⟨17489, 41, 40, 0x1_01_45_81_92_a3_b4_45_b4_a3_92_81_92_23_92_a3_34_a3⟩,
    ⟨8849, 47, 43, 0x1_01_23_81_92_a3_b4_45_b4_a3_92_81_92_a3_34_a3_92_b4_45_b4⟩,
    ⟨16937, 23, 21, 0x1_01_23_45_12_81_92_a3_34_a3_92_81⟩,
    ⟨9253, 29, 26, 0x1_01_12_81_92_23_92_81_a3_34_a3_b4_45_b4⟩,
    ⟨6181, 29, 25, 0x1_01_34_12_81_92_23_92_81_a3_b4_45_b4_a3⟩,
    ⟨17445, 23, 19, 0x1_01_45_12_81_92_23_92_81_a3_34_a3⟩,
    ⟨8745, 29, 22, 0x1_01_23_12_81_92_a3_34_a3_92_81_b4_45_b4⟩,
    ⟨4657, 29, 27, 0x1_01_23_12_34_81_92_a3_b4_45_b4_a3_92_81⟩,
    ⟨20547, 17, 15, 0x1_01_34_45_81_12_81_92_23_92⟩,
    ⟨2633, 41, 40, 0x1_01_23_81_92_a3_34_a3_92_81_92_23_92_a3_b4_45_b4_a3⟩,
    ⟨1617, 41, 40, 0x1_01_23_81_92_a3_b4_45_b4_a3_92_81_92_23_92_a3_34_a3⟩,
    ⟨12419, 29, 25, 0x1_01_34_81_12_81_92_a3_34_a3_92_b4_45_b4⟩,
    ⟨18565, 41, 40, 0x1_01_45_81_92_23_92_81_92_a3_34_a3_92_a3_b4_45_b4_a3⟩,
    ⟨4753, 41, 39, 0x1_01_23_34_81_92_a3_b4_45_b4_a3_92_81_92_a3_34_a3_92⟩,
    ⟨20739, 29, 27, 0x1_01_34_45_81_12_81_92_a3_b4_45_b4_a3_92⟩,
    ⟨17669, 41, 40, 0x1_01_45_81_92_23_92_81_92_a3_b4_45_b4_a3_92_a3_34_a3⟩,
    ⟨8969, 47, 43, 0x1_01_23_81_92_a3_34_a3_92_81_92_a3_b4_45_b4_a3_92_b4_45_b4⟩,
    ⟨16970, 35, 33, 0x1_23_45_81_12_81_81_92_a3_34_a3_92_81_92_23_92⟩,
    ⟨8899, 36, 32, 0x1_01_23_81_12_81_92_23_92_92_a3_34_a3_92_b4_45_b4⟩,
    ⟨4931, 36, 34, 0x1_01_23_34_81_12_81_92_23_92_92_a3_b4_45_b4_a3_92⟩,
    ⟨17060, 29, 27, 0x1_12_45_23_81_92_23_92_81_92_a3_34_a3_92⟩,
    ⟨8298, 41, 38, 0x1_12_81_12_81_81_92_a3_34_a3_92_81_92_23_92_b4_45_b4⟩,
    ⟨4210, 41, 40, 0x1_12_34_81_12_81_81_92_a3_b4_45_b4_a3_92_81_92_23_92⟩,
    ⟨21025, 5, 2, 0x1_01_23_45_12_34⟩,
    ⟨8970, 53, 49, 0x1_23_81_12_81_81_92_a3_34_a3_92_81_92_a3_b4_45_b4_a3_92_b4_45_b4⟩,
    ⟨4754, 47, 45, 0x1_23_34_81_12_81_81_92_a3_b4_45_b4_a3_92_81_92_a3_34_a3_92⟩,
    ⟨13345, 17, 16, 0x1_01_34_12_a3_34_a3_b4_45_b4⟩,
    ⟨18180, 41, 39, 0x1_23_45_81_92_23_92_81_92_a3_b4_45_b4_a3_92_a3_34_a3⟩,
    ⟨5202, 47, 46, 0x1_34_81_12_81_81_92_a3_b4_45_b4_a3_92_81_92_23_92_a3_34_a3⟩,
    ⟨22561, 17, 15, 0x1_01_34_12_45_a3_b4_45_b4_a3⟩,
    ⟨19076, 41, 39, 0x1_23_45_81_92_23_92_81_92_a3_34_a3_92_a3_b4_45_b4_a3⟩,
    ⟨23112, 42, 39, 0x1_23_45_34_81_92_a3_34_a3_92_81_92_23_92_a3_b4_45_b4_a3⟩,
    ⟨21542, 30, 25, 0x1_12_34_45_81_12_81_81_92_23_92_81_a3_34_a3⟩,
    ⟨2725, 42, 41, 0x1_01_23_12_81_92_23_92_81_92_a3_34_a3_92_a3_b4_45_b4_a3⟩,
    ⟨1829, 42, 41, 0x1_01_23_12_81_92_23_92_81_92_a3_b4_45_b4_a3_92_a3_34_a3⟩,
    ⟨21602, 24, 22, 0x1_12_34_45_81_12_81_92_23_92_a3_34_a3⟩,
    ⟨6248, 41, 40, 0x1_12_34_81_92_a3_34_a3_92_81_92_23_92_a3_b4_45_b4_a3⟩,
    ⟨9328, 47, 47, 0x1_12_81_92_a3_b4_45_b4_a3_92_81_92_23_92_a3_34_a3_b4_45_b4⟩,
    ⟨17985, 17, 15, 0x1_01_23_45_92_23_92_a3_34_a3⟩,
    ⟨4904, 41, 39, 0x1_12_34_23_81_92_a3_34_a3_92_81_92_a3_b4_45_b4_a3_92⟩,
    ⟨8880, 47, 43, 0x1_12_23_81_92_a3_b4_45_b4_a3_92_81_92_a3_34_a3_92_b4_45_b4⟩,
    ⟨22593, 23, 21, 0x1_01_34_45_92_23_92_a3_b4_45_b4_a3⟩,
    ⟨21250, 29, 26, 0x1_23_45_34_81_12_81_92_a3_b4_45_b4_a3_92⟩,
    ⟨13360, 41, 37, 0x1_12_34_81_92_a3_b4_45_b4_a3_92_81_a3_34_a3_b4_45_b4⟩,
    ⟨25665, 23, 22, 0x1_01_45_92_23_92_a3_34_a3_b4_45_b4⟩,
    ⟨25218, 29, 24, 0x1_23_45_81_12_81_92_a3_34_a3_92_b4_45_b4⟩,
    ⟨26152, 36, 31, 0x1_12_45_23_81_92_a3_34_a3_92_81_a3_34_a3_b4_45_b4⟩,
    ⟨12842, 36, 28, 0x1_12_34_23_81_12_81_81_92_a3_34_a3_92_81_b4_45_b4⟩,
    ⟨6218, 47, 46, 0x1_34_81_12_81_81_92_a3_34_a3_92_81_92_23_92_a3_b4_45_b4_a3⟩,
    ⟨17162, 47, 45, 0x1_23_45_81_12_81_81_92_a3_34_a3_92_81_92_a3_b4_45_b4_a3_92⟩,
    ⟨12962, 30, 25, 0x1_12_34_23_81_12_81_92_a3_34_a3_92_b4_45_b4⟩,
    ⟨6308, 41, 40, 0x1_12_34_81_92_23_92_81_92_a3_34_a3_92_a3_b4_45_b4_a3⟩,
    ⟨17072, 41, 39, 0x1_12_45_23_81_92_a3_b4_45_b4_a3_92_81_92_a3_34_a3_92⟩,
    ⟨13409, 24, 23, 0x1_01_34_12_92_23_92_a3_34_a3_b4_45_b4⟩,
    ⟨5412, 41, 40, 0x1_12_34_81_92_23_92_81_92_a3_b4_45_b4_a3_92_a3_34_a3⟩,
    ⟨18000, 41, 39, 0x1_23_45_81_92_a3_b4_45_b4_a3_92_81_92_23_92_a3_34_a3⟩,
    ⟨6785, 29, 27, 0x1_01_23_34_92_a3_34_a3_92_a3_b4_45_b4_a3⟩,
    ⟨5442, 41, 40, 0x1_34_81_12_81_92_23_92_92_a3_b4_45_b4_a3_92_a3_34_a3⟩,
    ⟨21040, 29, 26, 0x1_12_34_23_45_81_92_a3_b4_45_b4_a3_92_81⟩,
    ⟨25217, 23, 18, 0x1_01_23_45_92_a3_34_a3_92_b4_45_b4⟩,
    ⟨25666, 29, 28, 0x1_45_81_12_81_92_23_92_a3_34_a3_b4_45_b4⟩,
    ⟨22564, 29, 24, 0x1_12_34_45_81_92_23_92_81_a3_b4_45_b4_a3⟩,
    ⟨12850, 42, 34, 0x1_12_34_23_81_12_81_81_92_a3_b4_45_b4_a3_92_81_b4_45_b4⟩,
    ⟨9298, 53, 53, 0x1_81_12_81_81_92_a3_b4_45_b4_a3_92_81_92_23_92_a3_34_a3_b4_45_b4⟩,
    ⟨17042, 47, 45, 0x1_23_45_81_12_81_81_92_a3_b4_45_b4_a3_92_81_92_a3_34_a3_92⟩,
    ⟨13090, 36, 31, 0x1_12_34_23_81_12_81_92_a3_b4_45_b4_a3_92_b4_45_b4⟩,
    ⟨9508, 47, 47, 0x1_12_81_92_23_92_81_92_a3_b4_45_b4_a3_92_a3_34_a3_b4_45_b4⟩,
    ⟨17192, 41, 39, 0x1_12_45_23_81_92_a3_34_a3_92_81_92_a3_b4_45_b4_a3_92⟩,
    ⟨22689, 30, 28, 0x1_01_34_12_45_92_a3_34_a3_92_a3_b4_45_b4_a3⟩,
    ⟨23172, 42, 39, 0x1_23_45_34_81_92_23_92_81_92_a3_34_a3_92_a3_b4_45_b4_a3⟩,
    ⟨19016, 41, 39, 0x1_23_45_81_92_a3_34_a3_92_81_92_23_92_a3_b4_45_b4_a3⟩,
    ⟨9985, 35, 34, 0x1_01_23_92_a3_b4_45_b4_a3_92_a3_34_a3_b4_45_b4⟩,
    ⟨26242, 36, 34, 0x1_23_45_81_12_81_92_a3_34_a3_92_a3_34_a3_b4_45_b4⟩,
    ⟨25128, 29, 21, 0x1_12_45_23_81_92_a3_34_a3_92_81_b4_45_b4⟩,
    ⟨21249, 23, 20, 0x1_01_23_45_34_92_a3_b4_45_b4_a3_92⟩,
    ⟨22594, 29, 27, 0x1_34_45_81_12_81_92_23_92_a3_b4_45_b4_a3⟩,
    ⟨25636, 29, 25, 0x1_12_45_81_92_23_92_81_a3_34_a3_b4_45_b4⟩,
    ⟨12325, 23, 16, 0x1_01_34_12_81_92_23_92_81_b4_45_b4⟩,
    ⟨17481, 35, 34, 0x1_01_45_81_92_a3_34_a3_92_81_92_23_92_a3_34_a3⟩,
    ⟨8837, 35, 31, 0x1_01_23_81_92_23_92_81_92_a3_34_a3_92_b4_45_b4⟩,
    ⟨4869, 35, 33, 0x1_01_23_34_81_92_23_92_81_92_a3_b4_45_b4_a3_92⟩,
    ⟨17034, 41, 39, 0x1_23_45_81_12_81_81_92_a3_34_a3_92_81_92_a3_34_a3_92⟩,
    ⟨1347, 41, 41, 0x1_01_81_12_81_92_23_92_92_a3_b4_45_b4_a3_92_a3_34_a3⟩,
    ⟨6214, 41, 40, 0x1_34_81_12_81_81_92_23_92_81_92_23_92_a3_b4_45_b4_a3⟩,
    ⟨6182, 35, 31, 0x1_12_34_81_12_81_81_92_23_92_81_a3_b4_45_b4_a3⟩,
    ⟨8357, 35, 32, 0x1_01_12_81_92_23_92_81_92_a3_34_a3_92_b4_45_b4⟩,
    ⟨16938, 29, 27, 0x1_12_45_23_81_12_81_81_92_a3_34_a3_92_81⟩,
    ⟨17064, 35, 33, 0x1_12_45_23_81_92_a3_34_a3_92_81_92_a3_34_a3_92⟩,
    ⟨9316, 35, 35, 0x1_12_81_92_23_92_81_92_23_92_a3_34_a3_b4_45_b4⟩,
    ⟨6244, 35, 34, 0x1_12_34_81_92_23_92_81_92_23_92_a3_b4_45_b4_a3⟩,
    ⟨12355, 23, 19, 0x1_01_34_81_12_81_92_23_92_b4_45_b4⟩,
    ⟨6242, 29, 28, 0x1_12_34_81_12_81_92_23_92_a3_b4_45_b4_a3⟩,
    ⟨9314, 29, 29, 0x1_12_81_12_81_92_23_92_a3_34_a3_b4_45_b4⟩,
    ⟨3109, 35, 32, 0x1_01_12_81_92_23_92_81_a3_34_a3_a3_b4_45_b4_a3⟩,
    ⟨17058, 23, 21, 0x1_12_45_23_81_12_81_92_a3_34_a3_92⟩,
    ⟨2601, 35, 31, 0x1_01_23_12_81_92_a3_34_a3_92_81_a3_b4_45_b4_a3⟩,
    ⟨1585, 35, 31, 0x1_01_23_12_81_92_a3_b4_45_b4_a3_92_81_a3_34_a3⟩,
    ⟨4897, 23, 21, 0x1_01_23_12_34_92_a3_b4_45_b4_a3_92⟩,
    ⟨8865, 23, 19, 0x1_01_23_12_92_a3_34_a3_92_b4_45_b4⟩,
    ⟨18052, 35, 33, 0x1_23_45_81_92_23_92_81_92_a3_34_a3_92_a3_34_a3⟩,
    ⟨17992, 35, 33, 0x1_23_45_81_92_a3_34_a3_92_81_92_23_92_a3_34_a3⟩,
    ⟨17505, 17, 16, 0x1_01_45_12_92_23_92_a3_34_a3⟩,
    ⟨8778, 41, 37, 0x1_23_81_12_81_81_92_a3_34_a3_92_81_92_23_92_b4_45_b4⟩,
    ⟨8868, 35, 31, 0x1_12_23_81_92_23_92_81_92_a3_34_a3_92_b4_45_b4⟩,
    ⟨4690, 41, 39, 0x1_23_34_81_12_81_81_92_a3_b4_45_b4_a3_92_81_92_23_92⟩,
    ⟨4900, 35, 33, 0x1_12_34_23_81_92_23_92_81_92_a3_b4_45_b4_a3_92⟩,
    ⟨12833, 11, 9, 0x1_01_23_12_34_b4_45_b4⟩,
    ⟨21026, 11, 8, 0x1_12_34_23_45_81_12_81⟩,
    ⟨6696, 35, 30, 0x1_12_34_23_81_92_a3_34_a3_92_81_a3_b4_45_b4_a3⟩,
    ⟨6786, 35, 33, 0x1_23_34_81_12_81_92_a3_34_a3_92_a3_b4_45_b4_a3⟩,
    ⟨1857, 35, 34, 0x1_01_23_92_23_92_92_a3_b4_45_b4_a3_92_a3_34_a3⟩,
    ⟨9776, 41, 37, 0x1_12_23_81_92_a3_b4_45_b4_a3_92_81_a3_34_a3_b4_45_b4⟩,
    ⟨1858, 41, 40, 0x1_23_81_12_81_92_23_92_92_a3_b4_45_b4_a3_92_a3_34_a3⟩,
    ⟨2753, 35, 34, 0x1_01_23_92_23_92_92_a3_34_a3_92_a3_b4_45_b4_a3⟩,
    ⟨21569, 17, 15, 0x1_01_34_45_92_23_92_a3_34_a3⟩,
    ⟨21122, 23, 20, 0x1_23_45_34_81_12_81_92_a3_34_a3_92⟩,
    ⟨21032, 23, 20, 0x1_12_34_23_45_81_92_a3_34_a3_92_81⟩,
    ⟨17968, 35, 30, 0x1_12_45_23_81_92_a3_b4_45_b4_a3_92_81_a3_34_a3⟩,
    ⟨21252, 35, 32, 0x1_23_45_34_81_92_23_92_81_92_a3_b4_45_b4_a3_92⟩,
    ⟨22596, 35, 33, 0x1_34_45_81_92_23_92_81_92_23_92_a3_b4_45_b4_a3⟩,
    ⟨12449, 23, 19, 0x1_01_34_12_92_a3_34_a3_92_b4_45_b4⟩,
    ⟨12929, 23, 18, 0x1_01_23_34_92_a3_34_a3_92_b4_45_b4⟩,
    ⟨13378, 29, 28, 0x1_34_81_12_81_92_23_92_a3_34_a3_b4_45_b4⟩,
    ⟨7204, 35, 31, 0x1_12_34_81_92_23_92_81_a3_34_a3_a3_b4_45_b4_a3⟩,
    ⟨13348, 29, 25, 0x1_12_34_81_92_23_92_81_a3_34_a3_b4_45_b4⟩,
    ⟨7234, 35, 34, 0x1_34_81_12_81_92_23_92_a3_34_a3_a3_b4_45_b4_a3⟩,
    ⟨4993, 35, 33, 0x1_01_23_34_92_a3_34_a3_92_92_a3_b4_45_b4_a3_92⟩,
    ⟨13057, 29, 24, 0x1_01_23_34_92_a3_b4_45_b4_a3_92_b4_45_b4⟩,
    ⟨22658, 35, 33, 0x1_34_45_81_12_81_92_a3_34_a3_92_a3_b4_45_b4_a3⟩,
    ⟨11300, 41, 38, 0x1_12_81_92_23_92_81_a3_34_a3_a3_b4_45_b4_a3_b4_45_b4⟩,
    ⟨18984, 35, 30, 0x1_12_45_23_81_92_a3_34_a3_92_81_a3_b4_45_b4_a3⟩,
    ⟨22568, 35, 30, 0x1_12_34_45_81_92_a3_34_a3_92_81_a3_b4_45_b4_a3⟩,
    ⟨25672, 41, 40, 0x1_45_81_92_a3_34_a3_92_81_92_23_92_a3_34_a3_b4_45_b4⟩,
    ⟨25220, 35, 30, 0x1_23_45_81_92_23_92_81_92_a3_34_a3_92_b4_45_b4⟩,
    ⟨25224, 41, 36, 0x1_23_45_81_92_a3_34_a3_92_81_92_a3_34_a3_92_b4_45_b4⟩,
    ⟨17729, 35, 34, 0x1_01_45_92_23_92_92_a3_b4_45_b4_a3_92_a3_34_a3⟩,
    ⟨22562, 23, 18, 0x1_12_34_45_81_12_81_a3_b4_45_b4_a3⟩,
    ⟨12865, 17, 12, 0x1_01_23_34_92_23_92_b4_45_b4⟩,
    ⟨12866, 23, 18, 0x1_23_34_81_12_81_92_23_92_b4_45_b4⟩,
    ⟨3620, 35, 31, 0x1_12_23_81_92_23_92_81_a3_34_a3_a3_b4_45_b4_a3⟩,
    ⟨12872, 35, 30, 0x1_23_34_81_92_a3_34_a3_92_81_92_23_92_b4_45_b4⟩,
    ⟨12880, 41, 36, 0x1_23_34_81_92_a3_b4_45_b4_a3_92_81_92_23_92_b4_45_b4⟩,
    ⟨12836, 23, 15, 0x1_12_34_23_81_92_23_92_81_b4_45_b4⟩,
    ⟨21576, 35, 33, 0x1_34_45_81_92_a3_34_a3_92_81_92_23_92_a3_34_a3⟩,
    ⟨12932, 35, 30, 0x1_23_34_81_92_23_92_81_92_a3_34_a3_92_b4_45_b4⟩,
    ⟨1826, 35, 34, 0x1_12_23_81_12_81_92_a3_b4_45_b4_a3_92_a3_34_a3⟩,
    ⟨21128, 35, 32, 0x1_23_45_34_81_92_a3_34_a3_92_81_92_a3_34_a3_92⟩,
    ⟨9796, 35, 34, 0x1_23_81_92_23_92_81_92_23_92_a3_34_a3_b4_45_b4⟩,
    ⟨6724, 35, 33, 0x1_23_34_81_92_23_92_81_92_23_92_a3_b4_45_b4_a3⟩,
    ⟨6690, 23, 18, 0x1_12_34_23_81_12_81_a3_b4_45_b4_a3⟩,
    ⟨9762, 23, 19, 0x1_12_23_81_12_81_a3_34_a3_b4_45_b4⟩,
    ⟨17954, 17, 12, 0x1_12_45_23_81_12_81_a3_34_a3⟩,
    ⟨12868, 29, 24, 0x1_23_34_81_92_23_92_81_92_23_92_b4_45_b4⟩,
    ⟨12834, 17, 9, 0x1_12_34_23_81_12_81_b4_45_b4⟩,
    ⟨21572, 29, 27, 0x1_34_45_81_92_23_92_81_92_23_92_a3_34_a3⟩,
    ⟨8897, 29, 25, 0x1_01_23_92_23_92_92_a3_34_a3_92_b4_45_b4⟩,
    ⟨4929, 29, 27, 0x1_01_23_34_92_23_92_92_a3_b4_45_b4_a3_92⟩,
    ⟨21124, 29, 26, 0x1_23_45_34_81_92_23_92_81_92_a3_34_a3_92⟩,
    ⟨9794, 29, 28, 0x1_23_81_12_81_92_23_92_a3_34_a3_b4_45_b4⟩,
    ⟨6722, 29, 27, 0x1_23_34_81_12_81_92_23_92_a3_b4_45_b4_a3⟩,
    ⟨6692, 29, 24, 0x1_12_34_23_81_92_23_92_81_a3_b4_45_b4_a3⟩,
    ⟨9764, 29, 25, 0x1_12_23_81_92_23_92_81_a3_34_a3_b4_45_b4⟩,
    ⟨17960, 29, 24, 0x1_12_45_23_81_92_a3_34_a3_92_81_a3_34_a3⟩,
    ⟨17057, 17, 15, 0x1_01_23_45_12_92_a3_34_a3_92⟩,
    ⟨9313, 23, 23, 0x1_01_12_92_23_92_a3_34_a3_b4_45_b4⟩,
    ⟨6241, 23, 22, 0x1_01_34_12_92_23_92_a3_b4_45_b4_a3⟩,
    ⟨17986, 23, 21, 0x1_23_45_81_12_81_92_23_92_a3_34_a3⟩,
    ⟨8866, 29, 25, 0x1_12_23_81_12_81_92_a3_34_a3_92_b4_45_b4⟩,
    ⟨4898, 29, 27, 0x1_12_34_23_81_12_81_92_a3_b4_45_b4_a3_92⟩,
    ⟨21028, 17, 14, 0x1_12_34_23_45_81_92_23_92_81⟩,
    ⟨6788, 41, 39, 0x1_23_34_81_92_23_92_81_92_a3_34_a3_92_a3_b4_45_b4_a3⟩,
    ⟨1860, 47, 46, 0x1_23_81_92_23_92_81_92_23_92_92_a3_b4_45_b4_a3_92_a3_34_a3⟩,
    ⟨13352, 35, 31, 0x1_12_34_81_92_a3_34_a3_92_81_a3_34_a3_b4_45_b4⟩,
    ⟨22600, 41, 39, 0x1_34_45_81_92_a3_34_a3_92_81_92_23_92_a3_b4_45_b4_a3⟩,
    ⟨21256, 41, 38, 0x1_23_45_34_81_92_a3_34_a3_92_81_92_a3_b4_45_b4_a3_92⟩,
    ⟨22576, 41, 36, 0x1_12_34_45_81_92_a3_b4_45_b4_a3_92_81_a3_b4_45_b4_a3⟩,
    ⟨25680, 47, 46, 0x1_45_81_92_a3_b4_45_b4_a3_92_81_92_23_92_a3_34_a3_b4_45_b4⟩,
    ⟨25232, 47, 42, 0x1_23_45_81_92_a3_b4_45_b4_a3_92_81_92_a3_34_a3_92_b4_45_b4⟩,
    ⟨17956, 23, 18, 0x1_12_45_23_81_92_23_92_81_a3_34_a3⟩,
    ⟨8746, 35, 28, 0x1_12_23_81_12_81_81_92_a3_34_a3_92_81_b4_45_b4⟩,
    ⟨4658, 35, 33, 0x1_12_34_23_81_12_81_81_92_a3_b4_45_b4_a3_92_81⟩,
    ⟨21058, 17, 14, 0x1_23_45_34_81_12_81_92_23_92⟩,
    ⟨6728, 41, 39, 0x1_23_34_81_92_a3_34_a3_92_81_92_23_92_a3_b4_45_b4_a3⟩,
    ⟨1137, 41, 41, 0x1_01_12_81_92_a3_b4_45_b4_a3_92_81_92_23_92_a3_34_a3⟩,
    ⟨8387, 35, 32, 0x1_01_81_12_81_92_23_92_92_a3_34_a3_92_b4_45_b4⟩,
    ⟨22660, 41, 39, 0x1_34_45_81_92_23_92_81_92_a3_34_a3_92_a3_b4_45_b4_a3⟩,
    ⟨21136, 41, 38, 0x1_23_45_34_81_92_a3_b4_45_b4_a3_92_81_92_a3_34_a3_92⟩,
    ⟨4419, 35, 34, 0x1_01_34_81_12_81_92_23_92_92_a3_b4_45_b4_a3_92⟩,
    ⟨1317, 41, 41, 0x1_01_12_81_92_23_92_81_92_a3_b4_45_b4_a3_92_a3_34_a3⟩,
    ⟨809, 41, 40, 0x1_01_23_12_81_92_a3_34_a3_92_81_92_a3_b4_45_b4_a3_92⟩,
    ⟨21057, 11, 8, 0x1_01_23_45_34_92_23_92⟩,
    ⟨13064, 47, 42, 0x1_23_34_81_92_a3_34_a3_92_81_92_a3_b4_45_b4_a3_92_b4_45_b4⟩,
    ⟨12944, 47, 42, 0x1_23_34_81_92_a3_b4_45_b4_a3_92_81_92_a3_34_a3_92_b4_45_b4⟩,
    ⟨9761, 17, 16, 0x1_01_23_12_a3_34_a3_b4_45_b4⟩,
    ⟨21764, 41, 39, 0x1_34_45_81_92_23_92_81_92_a3_b4_45_b4_a3_92_a3_34_a3⟩,
    ⟨21584, 41, 39, 0x1_34_45_81_92_a3_b4_45_b4_a3_92_81_92_23_92_a3_34_a3⟩,
    ⟨6689, 17, 15, 0x1_01_23_12_34_a3_b4_45_b4_a3⟩,
    ⟨2724, 41, 40, 0x1_12_23_81_92_23_92_81_92_a3_34_a3_92_a3_b4_45_b4_a3⟩,
    ⟨2634, 47, 46, 0x1_23_81_12_81_81_92_a3_34_a3_92_81_92_23_92_a3_b4_45_b4_a3⟩,
    ⟨6721, 23, 21, 0x1_01_23_34_92_23_92_a3_b4_45_b4_a3⟩,
    ⟨13058, 35, 30, 0x1_23_34_81_12_81_92_a3_b4_45_b4_a3_92_b4_45_b4⟩,
    ⟨12848, 35, 27, 0x1_12_34_23_81_92_a3_b4_45_b4_a3_92_81_b4_45_b4⟩,
    ⟨9793, 23, 22, 0x1_01_23_92_23_92_a3_34_a3_b4_45_b4⟩,
    ⟨12930, 29, 24, 0x1_23_34_81_12_81_92_a3_34_a3_92_b4_45_b4⟩,
    ⟨12840, 29, 21, 0x1_12_34_23_81_92_a3_34_a3_92_81_b4_45_b4⟩,
    ⟨21121, 17, 14, 0x1_01_23_45_34_92_a3_34_a3_92⟩,
    ⟨21570, 23, 21, 0x1_34_45_81_12_81_92_23_92_a3_34_a3⟩,
    ⟨21540, 23, 18, 0x1_12_34_45_81_92_23_92_81_a3_34_a3⟩,
    ⟨22113, 19, 16, 0x1_01_23_45_12_34_92_23_92_a3_34_a3⟩,
    ⟨9825, 24, 23, 0x1_01_23_12_92_23_92_a3_34_a3_b4_45_b4⟩,
    ⟨6753, 24, 22, 0x1_01_23_12_34_92_23_92_a3_b4_45_b4_a3⟩,
    ⟨22082, 24, 21, 0x1_23_45_34_81_12_81_92_23_92_a3_34_a3⟩,
    ⟨8930, 36, 32, 0x1_12_23_81_12_81_92_23_92_92_a3_34_a3_92_b4_45_b4⟩,
    ⟨4962, 36, 34, 0x1_12_34_23_81_12_81_92_23_92_92_a3_b4_45_b4_a3_92⟩,
    ⟨22052, 24, 18, 0x1_12_34_23_45_81_92_23_92_81_a3_34_a3⟩,
    ⟨7812, 48, 46, 0x1_23_34_81_92_23_92_81_92_a3_34_a3_92_a3_34_a3_a3_b4_45_b4_a3⟩,
    ⟨29956, 48, 46, 0x1_34_45_81_92_23_92_81_92_a3_b4_45_b4_a3_92_a3_34_a3_b4_45_b4⟩,
    ⟨13864, 36, 31, 0x1_12_34_23_81_92_a3_34_a3_92_81_a3_34_a3_b4_45_b4⟩,
    ⟨7752, 48, 46, 0x1_23_34_81_92_a3_34_a3_92_81_92_23_92_a3_34_a3_a3_b4_45_b4_a3⟩,
    ⟨29448, 48, 42, 0x1_23_45_34_81_92_a3_34_a3_92_81_92_a3_b4_45_b4_a3_92_b4_45_b4⟩,
    ⟨30256, 43, 37, 0x1_12_34_23_45_81_92_a3_b4_45_b4_a3_92_81_a3_34_a3_b4_45_b4⟩,
    ⟨29776, 48, 46, 0x1_34_45_81_92_a3_b4_45_b4_a3_92_81_92_23_92_a3_34_a3_b4_45_b4⟩,
    ⟨29328, 48, 42, 0x1_23_45_34_81_92_a3_b4_45_b4_a3_92_81_92_a3_34_a3_92_b4_45_b4⟩,
    ⟨25249, 24, 19, 0x1_01_23_45_12_92_a3_34_a3_92_b4_45_b4⟩,
    ⟨25697, 24, 23, 0x1_01_45_12_92_23_92_a3_34_a3_b4_45_b4⟩,
    ⟨22625, 24, 22, 0x1_01_34_12_45_92_23_92_a3_b4_45_b4_a3⟩,
    ⟨22626, 30, 28, 0x1_12_34_45_81_12_81_92_23_92_a3_b4_45_b4_a3⟩,
    ⟨25250, 30, 25, 0x1_12_45_23_81_12_81_92_a3_34_a3_92_b4_45_b4⟩,
    ⟨21282, 30, 27, 0x1_12_34_23_45_81_12_81_92_a3_b4_45_b4_a3_92⟩,
    ⟨25252, 36, 31, 0x1_12_45_23_81_92_23_92_81_92_a3_34_a3_92_b4_45_b4⟩,
    ⟨22308, 43, 40, 0x1_12_34_23_45_81_92_23_92_81_92_a3_b4_45_b4_a3_92_a3_34_a3⟩,
    ⟨18244, 48, 46, 0x1_23_45_81_92_23_92_81_92_23_92_92_a3_b4_45_b4_a3_92_a3_34_a3⟩,
    ⟨25256, 42, 37, 0x1_12_45_23_81_92_a3_34_a3_92_81_92_a3_34_a3_92_b4_45_b4⟩,
    ⟨22632, 42, 40, 0x1_12_34_45_81_92_a3_34_a3_92_81_92_23_92_a3_b4_45_b4_a3⟩,
    ⟨21288, 42, 39, 0x1_12_34_23_45_81_92_a3_34_a3_92_81_92_a3_b4_45_b4_a3_92⟩,
    ⟨5173, 48, 44, 0x1_01_34_12_81_92_23_92_81_81_92_a3_b4_45_b4_a3_92_81_a3_34_a3⟩,
    ⟨5203, 48, 47, 0x1_01_34_81_12_81_81_92_a3_b4_45_b4_a3_92_81_92_23_92_a3_34_a3⟩,
    ⟨21289, 43, 40, 0x1_01_23_45_12_34_81_92_a3_34_a3_92_81_92_a3_b4_45_b4_a3_92⟩,
    ⟨22566, 36, 31, 0x1_12_34_45_81_12_81_81_92_23_92_81_a3_b4_45_b4_a3⟩,
    ⟨25130, 36, 28, 0x1_12_45_23_81_12_81_81_92_a3_34_a3_92_81_b4_45_b4⟩,
    ⟨21042, 36, 33, 0x1_12_34_23_45_81_12_81_81_92_a3_b4_45_b4_a3_92_81⟩,
    ⟨25162, 42, 37, 0x1_23_45_81_12_81_81_92_a3_34_a3_92_81_92_23_92_b4_45_b4⟩,
    ⟨18537, 42, 41, 0x1_01_45_12_81_92_a3_34_a3_92_81_92_23_92_a3_b4_45_b4_a3⟩,
    ⟨17521, 42, 41, 0x1_01_45_12_81_92_a3_b4_45_b4_a3_92_81_92_23_92_a3_34_a3⟩,
    ⟨25226, 48, 43, 0x1_23_45_81_12_81_81_92_a3_34_a3_92_81_92_a3_34_a3_92_b4_45_b4⟩,
    ⟨22662, 48, 46, 0x1_34_45_81_12_81_81_92_23_92_81_92_a3_34_a3_92_a3_b4_45_b4_a3⟩,
    ⟨8881, 48, 44, 0x1_01_23_12_81_92_a3_b4_45_b4_a3_92_81_92_a3_34_a3_92_b4_45_b4⟩,
    ⟨4995, 42, 40, 0x1_01_23_34_81_12_81_92_a3_34_a3_92_92_a3_b4_45_b4_a3_92⟩,
    ⟨5413, 42, 41, 0x1_01_34_12_81_92_23_92_81_92_a3_b4_45_b4_a3_92_a3_34_a3⟩,
    ⟨4905, 42, 40, 0x1_01_23_12_34_81_92_a3_34_a3_92_81_92_a3_b4_45_b4_a3_92⟩,
    ⟨17969, 36, 31, 0x1_01_23_45_12_81_92_a3_b4_45_b4_a3_92_81_a3_34_a3⟩,
    ⟨22129, 44, 41, 0x1_01_23_45_12_34_81_92_a3_b4_45_b4_a3_92_81_92_23_92_a3_34_a3⟩,
    ⟨21617, 43, 41, 0x1_01_34_12_45_81_92_a3_b4_45_b4_a3_92_81_92_23_92_a3_34_a3⟩,
    ⟨9777, 42, 38, 0x1_01_23_12_81_92_a3_b4_45_b4_a3_92_81_a3_34_a3_b4_45_b4⟩,
    ⟨21765, 42, 40, 0x1_01_34_45_81_92_23_92_81_92_a3_b4_45_b4_a3_92_a3_34_a3⟩,
    ⟨21585, 42, 40, 0x1_01_34_45_81_92_a3_b4_45_b4_a3_92_81_92_23_92_a3_34_a3⟩,
    ⟨6697, 36, 31, 0x1_01_23_12_34_81_92_a3_34_a3_92_81_a3_b4_45_b4_a3⟩,
    ⟨6761, 43, 41, 0x1_01_23_12_34_81_92_a3_34_a3_92_81_92_23_92_a3_b4_45_b4_a3⟩,
    ⟨3657, 48, 47, 0x1_01_23_81_92_a3_34_a3_92_81_92_23_92_a3_34_a3_a3_b4_45_b4_a3⟩,
    ⟨22569, 36, 31, 0x1_01_34_12_45_81_92_a3_34_a3_92_81_a3_b4_45_b4_a3⟩,
    ⟨13059, 36, 31, 0x1_01_23_34_81_12_81_92_a3_b4_45_b4_a3_92_b4_45_b4⟩,
    ⟨12849, 36, 28, 0x1_01_23_12_34_81_92_a3_b4_45_b4_a3_92_81_b4_45_b4⟩,
    ⟨13349, 30, 26, 0x1_01_34_12_81_92_23_92_81_a3_34_a3_b4_45_b4⟩,
    ⟨12931, 30, 25, 0x1_01_23_34_81_12_81_92_a3_34_a3_92_b4_45_b4⟩,
    ⟨12841, 30, 22, 0x1_01_23_12_34_81_92_a3_34_a3_92_81_b4_45_b4⟩,
    ⟨21033, 24, 21, 0x1_01_23_45_12_34_81_92_a3_34_a3_92_81⟩,
    ⟨21571, 24, 22, 0x1_01_34_45_81_12_81_92_23_92_a3_34_a3⟩,
    ⟨21541, 24, 19, 0x1_01_34_12_45_81_92_23_92_81_a3_34_a3⟩,
    ⟨21601, 18, 16, 0x1_01_34_12_45_92_23_92_a3_34_a3⟩,
    ⟨12961, 24, 19, 0x1_01_23_12_34_92_a3_34_a3_92_b4_45_b4⟩,
    ⟨13089, 30, 25, 0x1_01_23_12_34_92_a3_b4_45_b4_a3_92_b4_45_b4⟩,
    ⟨21154, 24, 21, 0x1_12_34_23_45_81_12_81_92_a3_34_a3_92⟩,
    ⟨13410, 30, 29, 0x1_12_34_81_12_81_92_23_92_a3_34_a3_b4_45_b4⟩,
    ⟨4901, 36, 34, 0x1_01_23_12_34_81_92_23_92_81_92_a3_b4_45_b4_a3_92⟩,
    ⟨21034, 30, 27, 0x1_12_34_23_45_81_12_81_81_92_a3_34_a3_92_81⟩,
    ⟨26244, 42, 40, 0x1_23_45_81_92_23_92_81_92_a3_34_a3_92_a3_34_a3_b4_45_b4⟩,
    ⟨1859, 42, 41, 0x1_01_23_81_12_81_92_23_92_92_a3_b4_45_b4_a3_92_a3_34_a3⟩,
    ⟨23080, 36, 30, 0x1_12_34_23_45_81_92_a3_34_a3_92_81_a3_b4_45_b4_a3⟩,
    ⟨26184, 42, 40, 0x1_23_45_81_92_a3_34_a3_92_81_92_23_92_a3_34_a3_b4_45_b4⟩,
    ⟨25288, 48, 43, 0x1_23_45_81_92_a3_34_a3_92_81_92_23_92_92_a3_34_a3_92_b4_45_b4⟩,
    ⟨22570, 42, 37, 0x1_12_34_45_81_12_81_81_92_a3_34_a3_92_81_a3_b4_45_b4_a3⟩,
    ⟨1589, 48, 44, 0x1_01_23_12_81_92_23_92_81_81_92_a3_b4_45_b4_a3_92_81_a3_34_a3⟩,
    ⟨25228, 54, 49, 0x1_23_45_81_92_23_92_81_81_92_a3_34_a3_92_81_92_a3_34_a3_92_b4_45_b4⟩,
    ⟨29363, 57, 51, 0x1_01_23_45_12_34_81_12_81_81_92_a3_b4_45_b4_a3_92_81_92_a3_34_a3_92_b4_45_b4⟩]

end StabilizerPrep.Bundled
