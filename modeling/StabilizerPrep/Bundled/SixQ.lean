import StabilizerPrep.Bundled.Row

/-!
# The table for six qubits on the device Q

The bundled template table, one row for each class.
-/

namespace StabilizerPrep.Bundled

set_option autoImplicit false

set_option maxRecDepth 20000 in
def sixQ : List Row :=
  [⟨0, 0, 0, 0x1⟩,
    ⟨1, 1, 1, 0x1_01⟩,
    ⟨2, 7, 7, 0x1_81_12_81⟩,
    ⟨4, 13, 13, 0x1_81_92_23_92_81⟩,
    ⟨8, 19, 19, 0x1_81_92_a3_34_a3_92_81⟩,
    ⟨16, 13, 13, 0x1_81_92_25_92_81⟩,
    ⟨32, 1, 1, 0x1_12⟩,
    ⟨64, 7, 7, 0x1_92_23_92⟩,
    ⟨128, 13, 13, 0x1_92_a3_34_a3_92⟩,
    ⟨256, 7, 7, 0x1_92_25_92⟩,
    ⟨512, 1, 1, 0x1_23⟩,
    ⟨1024, 7, 7, 0x1_a3_34_a3⟩,
    ⟨2048, 1, 1, 0x1_25⟩,
    ⟨4096, 1, 1, 0x1_34⟩,
    ⟨8192, 7, 7, 0x1_b2_25_b2⟩,
    ⟨16384, 1, 1, 0x1_45⟩,
    ⟨16896, 2, 1, 0x1_23_45⟩,
    ⟨9216, 14, 14, 0x1_a3_34_a3_b2_25_b2⟩,
    ⟨6144, 2, 1, 0x1_25_34⟩,
    ⟨16448, 8, 7, 0x1_45_92_23_92⟩,
    ⟨8320, 20, 20, 0x1_92_a3_34_a3_92_b2_25_b2⟩,
    ⟨4352, 8, 7, 0x1_34_92_25_92⟩,
    ⟨16416, 2, 1, 0x1_12_45⟩,
    ⟨2176, 14, 14, 0x1_25_92_a3_34_a3_92⟩,
    ⟨1280, 14, 14, 0x1_92_25_92_a3_34_a3⟩,
    ⟨8224, 8, 8, 0x1_12_b2_25_b2⟩,
    ⟨2112, 8, 8, 0x1_25_92_23_92⟩,
    ⟨768, 8, 8, 0x1_23_92_25_92⟩,
    ⟨4128, 2, 1, 0x1_12_34⟩,
    ⟨1088, 14, 14, 0x1_92_23_92_a3_34_a3⟩,
    ⟨640, 14, 14, 0x1_23_92_a3_34_a3_92⟩,
    ⟨16388, 14, 13, 0x1_45_81_92_23_92_81⟩,
    ⟨8200, 26, 23, 0x1_81_92_a3_34_a3_92_81_b2_25_b2⟩,
    ⟨4112, 14, 13, 0x1_34_81_92_25_92_81⟩,
    ⟨16386, 8, 7, 0x1_45_81_12_81⟩,
    ⟨2056, 20, 19, 0x1_25_81_92_a3_34_a3_92_81⟩,
    ⟨1040, 20, 17, 0x1_81_92_25_92_81_a3_34_a3⟩,
    ⟨8194, 14, 11, 0x1_81_12_81_b2_25_b2⟩,
    ⟨2052, 14, 13, 0x1_25_81_92_23_92_81⟩,
    ⟨528, 14, 13, 0x1_23_81_92_25_92_81⟩,
    ⟨4098, 8, 7, 0x1_34_81_12_81⟩,
    ⟨1028, 20, 17, 0x1_81_92_23_92_81_a3_34_a3⟩,
    ⟨520, 20, 19, 0x1_23_81_92_a3_34_a3_92_81⟩,
    ⟨16385, 2, 1, 0x1_01_45⟩,
    ⟨264, 26, 26, 0x1_81_92_a3_34_a3_92_81_92_25_92⟩,
    ⟨144, 26, 26, 0x1_81_92_25_92_81_92_a3_34_a3_92⟩,
    ⟨8193, 8, 7, 0x1_01_b2_25_b2⟩,
    ⟨260, 20, 20, 0x1_81_92_23_92_81_92_25_92⟩,
    ⟨80, 20, 20, 0x1_81_92_25_92_81_92_23_92⟩,
    ⟨4097, 2, 1, 0x1_01_34⟩,
    ⟨132, 26, 26, 0x1_81_92_23_92_81_92_a3_34_a3_92⟩,
    ⟨72, 26, 26, 0x1_81_92_a3_34_a3_92_81_92_23_92⟩,
    ⟨2049, 2, 1, 0x1_01_25⟩,
    ⟨258, 14, 14, 0x1_81_12_81_92_25_92⟩,
    ⟨48, 14, 14, 0x1_12_81_92_25_92_81⟩,
    ⟨1025, 8, 7, 0x1_01_a3_34_a3⟩,
    ⟨130, 20, 20, 0x1_81_12_81_92_a3_34_a3_92⟩,
    ⟨40, 20, 20, 0x1_12_81_92_a3_34_a3_92_81⟩,
    ⟨513, 2, 1, 0x1_01_23⟩,
    ⟨66, 14, 14, 0x1_81_12_81_92_23_92⟩,
    ⟨36, 14, 14, 0x1_12_81_92_23_92_81⟩,
    ⟨16897, 3, 1, 0x1_01_23_45⟩,
    ⟨9217, 15, 14, 0x1_01_a3_34_a3_b2_25_b2⟩,
    ⟨6145, 3, 1, 0x1_01_25_34⟩,
    ⟨16450, 15, 14, 0x1_45_81_12_81_92_23_92⟩,
    ⟨8322, 27, 27, 0x1_81_12_81_92_a3_34_a3_92_b2_25_b2⟩,
    ⟨4354, 15, 14, 0x1_34_81_12_81_92_25_92⟩,
    ⟨16420, 15, 14, 0x1_12_45_81_92_23_92_81⟩,
    ⟨2180, 27, 26, 0x1_25_81_92_23_92_81_92_a3_34_a3_92⟩,
    ⟨1284, 27, 27, 0x1_81_92_23_92_81_92_25_92_a3_34_a3⟩,
    ⟨8232, 27, 24, 0x1_12_81_92_a3_34_a3_92_81_b2_25_b2⟩,
    ⟨2120, 27, 26, 0x1_25_81_92_a3_34_a3_92_81_92_23_92⟩,
    ⟨776, 27, 26, 0x1_23_81_92_a3_34_a3_92_81_92_25_92⟩,
    ⟨4144, 15, 14, 0x1_12_34_81_92_25_92_81⟩,
    ⟨1104, 27, 27, 0x1_81_92_25_92_81_92_23_92_a3_34_a3⟩,
    ⟨656, 27, 26, 0x1_23_81_92_25_92_81_92_a3_34_a3_92⟩,
    ⟨33, 2, 2, 0x1_01_12⟩,
    ⟨65, 8, 8, 0x1_01_92_23_92⟩,
    ⟨129, 14, 14, 0x1_01_92_a3_34_a3_92⟩,
    ⟨257, 8, 8, 0x1_01_92_25_92⟩,
    ⟨514, 8, 7, 0x1_23_81_12_81⟩,
    ⟨1026, 14, 11, 0x1_81_12_81_a3_34_a3⟩,
    ⟨2050, 8, 7, 0x1_25_81_12_81⟩,
    ⟨4100, 14, 13, 0x1_34_81_92_23_92_81⟩,
    ⟨8196, 20, 17, 0x1_81_92_23_92_81_b2_25_b2⟩,
    ⟨16400, 14, 13, 0x1_45_81_92_25_92_81⟩,
    ⟨544, 2, 2, 0x1_12_23⟩,
    ⟨1056, 8, 8, 0x1_12_a3_34_a3⟩,
    ⟨2080, 2, 2, 0x1_12_25⟩,
    ⟨4160, 8, 7, 0x1_34_92_23_92⟩,
    ⟨320, 14, 14, 0x1_92_23_92_92_25_92⟩,
    ⟨16640, 8, 7, 0x1_45_92_25_92⟩,
    ⟨4608, 2, 2, 0x1_23_34⟩,
    ⟨2560, 2, 2, 0x1_23_25⟩,
    ⟨18432, 2, 2, 0x1_25_45⟩,
    ⟨20480, 2, 2, 0x1_34_45⟩,
    ⟨20512, 3, 2, 0x1_12_34_45⟩,
    ⟨18496, 9, 8, 0x1_25_45_92_23_92⟩,
    ⟨2688, 15, 15, 0x1_23_25_92_a3_34_a3_92⟩,
    ⟨4864, 9, 8, 0x1_23_34_92_25_92⟩,
    ⟨17152, 9, 8, 0x1_23_45_92_25_92⟩,
    ⟨1344, 21, 21, 0x1_92_23_92_92_25_92_a3_34_a3⟩,
    ⟨6208, 9, 8, 0x1_25_34_92_23_92⟩,
    ⟨6176, 3, 2, 0x1_12_34_25⟩,
    ⟨9248, 15, 15, 0x1_12_a3_34_a3_b2_25_b2⟩,
    ⟨16928, 3, 2, 0x1_12_45_23⟩,
    ⟨16912, 15, 13, 0x1_23_45_81_92_25_92_81⟩,
    ⟨9220, 27, 24, 0x1_81_92_23_92_81_a3_34_a3_b2_25_b2⟩,
    ⟨6148, 15, 13, 0x1_25_34_81_92_23_92_81⟩,
    ⟨20482, 9, 7, 0x1_34_45_81_12_81⟩,
    ⟨6146, 9, 7, 0x1_25_34_81_12_81⟩,
    ⟨9218, 21, 18, 0x1_81_12_81_a3_34_a3_b2_25_b2⟩,
    ⟨18436, 15, 13, 0x1_25_45_81_92_23_92_81⟩,
    ⟨16898, 9, 7, 0x1_23_45_81_12_81⟩,
    ⟨2568, 21, 19, 0x1_23_25_81_92_a3_34_a3_92_81⟩,
    ⟨4624, 15, 13, 0x1_23_34_81_92_25_92_81⟩,
    ⟨4353, 9, 8, 0x1_01_34_92_25_92⟩,
    ⟨8321, 21, 21, 0x1_01_92_a3_34_a3_92_b2_25_b2⟩,
    ⟨16644, 21, 20, 0x1_45_81_92_23_92_81_92_25_92⟩,
    ⟨16464, 21, 20, 0x1_45_81_92_25_92_81_92_23_92⟩,
    ⟨16449, 9, 8, 0x1_01_45_92_23_92⟩,
    ⟨328, 33, 33, 0x1_81_92_a3_34_a3_92_81_92_23_92_92_25_92⟩,
    ⟨8324, 33, 33, 0x1_81_92_23_92_81_92_a3_34_a3_92_b2_25_b2⟩,
    ⟨4176, 21, 20, 0x1_34_81_92_25_92_81_92_23_92⟩,
    ⟨4356, 21, 20, 0x1_34_81_92_23_92_81_92_25_92⟩,
    ⟨20481, 3, 2, 0x1_01_34_45⟩,
    ⟨16417, 3, 2, 0x1_01_45_12⟩,
    ⟨2088, 21, 20, 0x1_12_25_81_92_a3_34_a3_92_81⟩,
    ⟨2178, 21, 20, 0x1_25_81_12_81_92_a3_34_a3_92⟩,
    ⟨1281, 15, 15, 0x1_01_92_25_92_a3_34_a3⟩,
    ⟨1072, 21, 18, 0x1_12_81_92_25_92_81_a3_34_a3⟩,
    ⟨1282, 21, 21, 0x1_81_12_81_92_25_92_a3_34_a3⟩,
    ⟨2177, 15, 14, 0x1_01_25_92_a3_34_a3_92⟩,
    ⟨18433, 3, 2, 0x1_01_25_45⟩,
    ⟨16642, 15, 14, 0x1_45_81_12_81_92_25_92⟩,
    ⟨16432, 15, 14, 0x1_12_45_81_92_25_92_81⟩,
    ⟨560, 15, 14, 0x1_12_23_81_92_25_92_81⟩,
    ⟨770, 15, 14, 0x1_23_81_12_81_92_25_92⟩,
    ⟨2113, 9, 8, 0x1_01_25_92_23_92⟩,
    ⟨8225, 9, 9, 0x1_01_12_b2_25_b2⟩,
    ⟨2561, 3, 2, 0x1_01_23_25⟩,
    ⟨322, 21, 21, 0x1_81_12_81_92_23_92_92_25_92⟩,
    ⟨2084, 15, 14, 0x1_12_25_81_92_23_92_81⟩,
    ⟨8228, 21, 18, 0x1_12_81_92_23_92_81_b2_25_b2⟩,
    ⟨2114, 15, 14, 0x1_25_81_12_81_92_23_92⟩,
    ⟨769, 9, 8, 0x1_01_23_92_25_92⟩,
    ⟨4609, 3, 2, 0x1_01_23_34⟩,
    ⟨4162, 15, 14, 0x1_34_81_12_81_92_23_92⟩,
    ⟨1060, 21, 18, 0x1_12_81_92_23_92_81_a3_34_a3⟩,
    ⟨552, 21, 20, 0x1_12_23_81_92_a3_34_a3_92_81⟩,
    ⟨4132, 15, 14, 0x1_12_34_81_92_23_92_81⟩,
    ⟨1090, 21, 21, 0x1_81_12_81_92_23_92_a3_34_a3⟩,
    ⟨642, 21, 20, 0x1_23_81_12_81_92_a3_34_a3_92⟩,
    ⟨641, 15, 14, 0x1_01_23_92_a3_34_a3_92⟩,
    ⟨1089, 15, 15, 0x1_01_92_23_92_a3_34_a3⟩,
    ⟨4129, 3, 2, 0x1_01_34_12⟩,
    ⟨20513, 4, 2, 0x1_01_34_12_45⟩,
    ⟨18497, 10, 8, 0x1_01_25_45_92_23_92⟩,
    ⟨2689, 16, 15, 0x1_01_23_25_92_a3_34_a3_92⟩,
    ⟨4865, 10, 8, 0x1_01_23_34_92_25_92⟩,
    ⟨17154, 16, 14, 0x1_23_45_81_12_81_92_25_92⟩,
    ⟨1346, 28, 28, 0x1_81_12_81_92_23_92_92_25_92_a3_34_a3⟩,
    ⟨6210, 16, 14, 0x1_25_34_81_12_81_92_23_92⟩,
    ⟨6180, 16, 14, 0x1_12_34_25_81_92_23_92_81⟩,
    ⟨9252, 28, 25, 0x1_12_81_92_23_92_81_a3_34_a3_b2_25_b2⟩,
    ⟨16944, 16, 14, 0x1_12_45_23_81_92_25_92_81⟩,
    ⟨18944, 3, 2, 0x1_23_45_25⟩,
    ⟨23040, 4, 2, 0x1_23_45_25_34⟩,
    ⟨6656, 3, 2, 0x1_23_25_34⟩,
    ⟨20544, 9, 7, 0x1_34_45_92_23_92⟩,
    ⟨20800, 16, 14, 0x1_34_45_92_23_92_92_25_92⟩,
    ⟨20736, 9, 7, 0x1_34_45_92_25_92⟩,
    ⟨18464, 3, 2, 0x1_12_45_25⟩,
    ⟨18560, 15, 14, 0x1_25_45_92_a3_34_a3_92⟩,
    ⟨17664, 15, 14, 0x1_45_92_25_92_a3_34_a3⟩,
    ⟨8736, 9, 9, 0x1_12_23_b2_25_b2⟩,
    ⟨2144, 9, 9, 0x1_12_25_92_23_92⟩,
    ⟨800, 9, 9, 0x1_12_23_92_25_92⟩,
    ⟨4640, 3, 2, 0x1_12_34_23⟩,
    ⟨5184, 15, 14, 0x1_34_92_23_92_a3_34_a3⟩,
    ⟨4736, 15, 14, 0x1_23_34_92_a3_34_a3_92⟩,
    ⟨20484, 15, 13, 0x1_34_45_81_92_23_92_81⟩,
    ⟨12296, 27, 23, 0x1_34_81_92_a3_34_a3_92_81_b2_25_b2⟩,
    ⟨20496, 15, 13, 0x1_34_45_81_92_25_92_81⟩,
    ⟨18434, 9, 7, 0x1_25_45_81_12_81⟩,
    ⟨18440, 21, 19, 0x1_25_45_81_92_a3_34_a3_92_81⟩,
    ⟨3088, 21, 17, 0x1_25_81_92_25_92_81_a3_34_a3⟩,
    ⟨8706, 15, 11, 0x1_23_81_12_81_b2_25_b2⟩,
    ⟨2564, 15, 13, 0x1_23_25_81_92_23_92_81⟩,
    ⟨2576, 15, 13, 0x1_23_25_81_92_25_92_81⟩,
    ⟨4610, 9, 7, 0x1_23_34_81_12_81⟩,
    ⟨1540, 21, 17, 0x1_23_81_92_23_92_81_a3_34_a3⟩,
    ⟨4616, 21, 19, 0x1_23_34_81_92_a3_34_a3_92_81⟩,
    ⟨16641, 9, 8, 0x1_01_45_92_25_92⟩,
    ⟨16648, 27, 26, 0x1_45_81_92_a3_34_a3_92_81_92_25_92⟩,
    ⟨16528, 27, 26, 0x1_45_81_92_25_92_81_92_a3_34_a3_92⟩,
    ⟨8257, 15, 15, 0x1_01_92_23_92_b2_25_b2⟩,
    ⟨261, 21, 21, 0x1_01_81_92_23_92_81_92_25_92⟩,
    ⟨81, 21, 21, 0x1_01_81_92_25_92_81_92_23_92⟩,
    ⟨4161, 9, 8, 0x1_01_34_92_23_92⟩,
    ⟨4228, 27, 26, 0x1_34_81_92_23_92_81_92_a3_34_a3_92⟩,
    ⟨4168, 27, 26, 0x1_34_81_92_a3_34_a3_92_81_92_23_92⟩,
    ⟨2081, 3, 2, 0x1_01_25_12⟩,
    ⟨2306, 15, 14, 0x1_25_81_12_81_92_25_92⟩,
    ⟨2096, 15, 14, 0x1_12_25_81_92_25_92_81⟩,
    ⟨1057, 9, 9, 0x1_01_12_a3_34_a3⟩,
    ⟨131, 21, 21, 0x1_01_81_12_81_92_a3_34_a3_92⟩,
    ⟨41, 21, 21, 0x1_01_12_81_92_a3_34_a3_92_81⟩,
    ⟨545, 3, 2, 0x1_01_23_12⟩,
    ⟨578, 15, 14, 0x1_23_81_12_81_92_23_92⟩,
    ⟨548, 15, 14, 0x1_12_23_81_92_23_92_81⟩,
    ⟨18945, 4, 2, 0x1_01_23_45_25⟩,
    ⟨23041, 5, 2, 0x1_01_23_45_25_34⟩,
    ⟨6657, 4, 2, 0x1_01_23_25_34⟩,
    ⟨20546, 16, 14, 0x1_34_45_81_12_81_92_23_92⟩,
    ⟨20802, 23, 21, 0x1_34_45_81_12_81_92_23_92_92_25_92⟩,
    ⟨20738, 16, 14, 0x1_34_45_81_12_81_92_25_92⟩,
    ⟨18468, 16, 14, 0x1_12_45_25_81_92_23_92_81⟩,
    ⟨18564, 28, 26, 0x1_25_45_81_92_23_92_81_92_a3_34_a3_92⟩,
    ⟨3332, 28, 27, 0x1_25_81_92_23_92_81_92_25_92_a3_34_a3⟩,
    ⟨8744, 28, 24, 0x1_12_23_81_92_a3_34_a3_92_81_b2_25_b2⟩,
    ⟨2632, 28, 26, 0x1_23_25_81_92_a3_34_a3_92_81_92_23_92⟩,
    ⟨2824, 28, 26, 0x1_23_25_81_92_a3_34_a3_92_81_92_25_92⟩,
    ⟨4656, 16, 14, 0x1_12_34_23_81_92_25_92_81⟩,
    ⟨1616, 28, 27, 0x1_23_81_92_25_92_81_92_23_92_a3_34_a3⟩,
    ⟨4752, 28, 26, 0x1_23_34_81_92_25_92_81_92_a3_34_a3_92⟩,
    ⟨20516, 16, 14, 0x1_12_34_45_81_92_23_92_81⟩,
    ⟨12328, 28, 24, 0x1_12_34_81_92_a3_34_a3_92_81_b2_25_b2⟩,
    ⟨20528, 16, 14, 0x1_12_34_45_81_92_25_92_81⟩,
    ⟨18498, 16, 14, 0x1_25_45_81_12_81_92_23_92⟩,
    ⟨18504, 28, 26, 0x1_25_45_81_92_a3_34_a3_92_81_92_23_92⟩,
    ⟨3152, 28, 27, 0x1_25_81_92_25_92_81_92_23_92_a3_34_a3⟩,
    ⟨8834, 28, 27, 0x1_23_81_12_81_92_a3_34_a3_92_b2_25_b2⟩,
    ⟨2692, 28, 26, 0x1_23_25_81_92_23_92_81_92_a3_34_a3_92⟩,
    ⟨2704, 28, 26, 0x1_23_25_81_92_25_92_81_92_a3_34_a3_92⟩,
    ⟨4866, 16, 14, 0x1_23_34_81_12_81_92_25_92⟩,
    ⟨1796, 28, 27, 0x1_23_81_92_23_92_81_92_25_92_a3_34_a3⟩,
    ⟨4872, 28, 26, 0x1_23_34_81_92_a3_34_a3_92_81_92_25_92⟩,
    ⟨17153, 10, 8, 0x1_01_23_45_92_25_92⟩,
    ⟨17160, 28, 26, 0x1_23_45_81_92_a3_34_a3_92_81_92_25_92⟩,
    ⟨17040, 28, 26, 0x1_23_45_81_92_25_92_81_92_a3_34_a3_92⟩,
    ⟨9281, 22, 22, 0x1_01_92_23_92_a3_34_a3_b2_25_b2⟩,
    ⟨1285, 28, 28, 0x1_01_81_92_23_92_81_92_25_92_a3_34_a3⟩,
    ⟨1105, 28, 28, 0x1_01_81_92_25_92_81_92_23_92_a3_34_a3⟩,
    ⟨6209, 10, 8, 0x1_01_25_34_92_23_92⟩,
    ⟨6276, 28, 26, 0x1_25_34_81_92_23_92_81_92_a3_34_a3_92⟩,
    ⟨6216, 28, 26, 0x1_25_34_81_92_a3_34_a3_92_81_92_23_92⟩,
    ⟨6177, 4, 2, 0x1_01_25_34_12⟩,
    ⟨6402, 16, 14, 0x1_25_34_81_12_81_92_25_92⟩,
    ⟨6192, 16, 14, 0x1_12_34_25_81_92_25_92_81⟩,
    ⟨9249, 16, 16, 0x1_01_12_a3_34_a3_b2_25_b2⟩,
    ⟨8323, 28, 28, 0x1_01_81_12_81_92_a3_34_a3_92_b2_25_b2⟩,
    ⟨8233, 28, 25, 0x1_01_12_81_92_a3_34_a3_92_81_b2_25_b2⟩,
    ⟨16929, 4, 2, 0x1_01_23_45_12⟩,
    ⟨16962, 16, 14, 0x1_23_45_81_12_81_92_23_92⟩,
    ⟨16932, 16, 14, 0x1_12_45_23_81_92_23_92_81⟩,
    ⟨21504, 9, 8, 0x1_34_45_a3_34_a3⟩,
    ⟨20608, 15, 13, 0x1_34_45_92_a3_34_a3_92⟩,
    ⟨18688, 9, 8, 0x1_25_45_92_25_92⟩,
    ⟨2592, 3, 3, 0x1_12_23_25⟩,
    ⟨4672, 9, 8, 0x1_23_34_92_23_92⟩,
    ⟨12292, 21, 17, 0x1_34_81_92_23_92_81_b2_25_b2⟩,
    ⟨3074, 15, 11, 0x1_25_81_12_81_a3_34_a3⟩,
    ⟨2562, 9, 7, 0x1_23_25_81_12_81⟩,
    ⟨1538, 15, 11, 0x1_23_81_12_81_a3_34_a3⟩,
    ⟨16656, 21, 20, 0x1_45_81_92_25_92_81_92_25_92⟩,
    ⟨321, 15, 15, 0x1_01_92_23_92_92_25_92⟩,
    ⟨4164, 21, 20, 0x1_34_81_92_23_92_81_92_23_92⟩,
    ⟨2082, 9, 8, 0x1_12_25_81_12_81⟩,
    ⟨1058, 15, 12, 0x1_12_81_12_81_a3_34_a3⟩,
    ⟨546, 9, 8, 0x1_12_23_81_12_81⟩,
    ⟨21505, 10, 8, 0x1_01_34_45_a3_34_a3⟩,
    ⟨20610, 22, 20, 0x1_34_45_81_12_81_92_a3_34_a3_92⟩,
    ⟨3108, 22, 18, 0x1_12_25_81_92_23_92_81_a3_34_a3⟩,
    ⟨2600, 22, 20, 0x1_12_23_25_81_92_a3_34_a3_92_81⟩,
    ⟨1584, 22, 18, 0x1_12_23_81_92_25_92_81_a3_34_a3⟩,
    ⟨12324, 22, 18, 0x1_12_34_81_92_23_92_81_b2_25_b2⟩,
    ⟨18512, 22, 20, 0x1_25_45_81_92_25_92_81_92_23_92⟩,
    ⟨2690, 22, 20, 0x1_23_25_81_12_81_92_a3_34_a3_92⟩,
    ⟨4868, 22, 20, 0x1_23_34_81_92_23_92_81_92_25_92⟩,
    ⟨17168, 22, 20, 0x1_23_45_81_92_25_92_81_92_25_92⟩,
    ⟨1345, 22, 22, 0x1_01_92_23_92_92_25_92_a3_34_a3⟩,
    ⟨6212, 22, 20, 0x1_25_34_81_92_23_92_81_92_23_92⟩,
    ⟨6178, 10, 8, 0x1_12_34_25_81_12_81⟩,
    ⟨9250, 22, 19, 0x1_12_81_12_81_a3_34_a3_b2_25_b2⟩,
    ⟨16930, 10, 8, 0x1_12_45_23_81_12_81⟩,
    ⟨17184, 10, 9, 0x1_12_45_23_92_25_92⟩,
    ⟨9312, 22, 22, 0x1_12_92_23_92_a3_34_a3_b2_25_b2⟩,
    ⟨6240, 10, 9, 0x1_12_34_25_92_23_92⟩,
    ⟨18528, 10, 9, 0x1_12_45_25_92_23_92⟩,
    ⟨23168, 17, 15, 0x1_23_45_25_34_92_a3_34_a3_92⟩,
    ⟨4896, 10, 9, 0x1_12_34_23_92_25_92⟩,
    ⟨21024, 4, 2, 0x1_12_34_23_45⟩,
    ⟨6784, 16, 15, 0x1_23_25_34_92_a3_34_a3_92⟩,
    ⟨23296, 11, 9, 0x1_23_45_25_34_92_25_92⟩,
    ⟨23072, 5, 3, 0x1_12_34_23_45_25⟩,
    ⟨22592, 10, 8, 0x1_25_34_45_92_23_92⟩,
    ⟨21248, 10, 8, 0x1_23_45_34_92_25_92⟩,
    ⟨22560, 4, 3, 0x1_12_34_25_45⟩,
    ⟨23104, 11, 9, 0x1_23_45_25_34_92_23_92⟩,
    ⟨19072, 16, 15, 0x1_23_45_25_92_a3_34_a3_92⟩,
    ⟨16914, 22, 20, 0x1_23_45_81_12_81_81_92_25_92_81⟩,
    ⟨9222, 34, 31, 0x1_81_12_81_81_92_23_92_81_a3_34_a3_b2_25_b2⟩,
    ⟨6150, 22, 20, 0x1_25_34_81_12_81_81_92_23_92_81⟩,
    ⟨18948, 16, 13, 0x1_23_45_25_81_92_23_92_81⟩,
    ⟨23048, 23, 19, 0x1_23_45_25_34_81_92_a3_34_a3_92_81⟩,
    ⟨6672, 16, 13, 0x1_23_25_34_81_92_25_92_81⟩,
    ⟨20994, 10, 7, 0x1_23_45_34_81_12_81⟩,
    ⟨6664, 22, 19, 0x1_23_25_34_81_92_a3_34_a3_92_81⟩,
    ⟨23056, 17, 13, 0x1_23_45_25_34_81_92_25_92_81⟩,
    ⟨23042, 11, 7, 0x1_23_45_25_34_81_12_81⟩,
    ⟨22532, 16, 13, 0x1_25_34_45_81_92_23_92_81⟩,
    ⟨21008, 16, 13, 0x1_23_45_34_81_92_25_92_81⟩,
    ⟨22530, 10, 7, 0x1_25_34_45_81_12_81⟩,
    ⟨23044, 17, 13, 0x1_23_45_25_34_81_92_23_92_81⟩,
    ⟨18952, 22, 19, 0x1_23_45_25_81_92_a3_34_a3_92_81⟩,
    ⟨16465, 22, 21, 0x1_01_45_81_92_25_92_81_92_23_92⟩,
    ⟨8325, 34, 34, 0x1_01_81_92_23_92_81_92_a3_34_a3_92_b2_25_b2⟩,
    ⟨4357, 22, 21, 0x1_01_34_81_92_23_92_81_92_25_92⟩,
    ⟨16645, 22, 21, 0x1_01_45_81_92_23_92_81_92_25_92⟩,
    ⟨8265, 34, 34, 0x1_01_81_92_a3_34_a3_92_81_92_23_92_b2_25_b2⟩,
    ⟨4177, 22, 21, 0x1_01_34_81_92_25_92_81_92_23_92⟩,
    ⟨20545, 10, 8, 0x1_01_34_45_92_23_92⟩,
    ⟨4424, 34, 33, 0x1_34_81_92_a3_34_a3_92_81_92_23_92_92_25_92⟩,
    ⟨20816, 29, 27, 0x1_34_45_81_92_25_92_81_92_23_92_92_25_92⟩,
    ⟨20801, 17, 15, 0x1_01_34_45_92_23_92_92_25_92⟩,
    ⟨20740, 22, 20, 0x1_34_45_81_92_23_92_81_92_25_92⟩,
    ⟨20560, 22, 20, 0x1_34_45_81_92_25_92_81_92_23_92⟩,
    ⟨20737, 10, 8, 0x1_01_34_45_92_25_92⟩,
    ⟨20804, 29, 27, 0x1_34_45_81_92_23_92_81_92_23_92_92_25_92⟩,
    ⟨16712, 34, 33, 0x1_45_81_92_a3_34_a3_92_81_92_23_92_92_25_92⟩,
    ⟨16433, 16, 15, 0x1_01_45_12_81_92_25_92_81⟩,
    ⟨2179, 22, 21, 0x1_01_25_81_12_81_92_a3_34_a3_92⟩,
    ⟨1283, 22, 22, 0x1_01_81_12_81_92_25_92_a3_34_a3⟩,
    ⟨16643, 16, 15, 0x1_01_45_81_12_81_92_25_92⟩,
    ⟨2089, 22, 21, 0x1_01_25_12_81_92_a3_34_a3_92_81⟩,
    ⟨1073, 22, 19, 0x1_01_12_81_92_25_92_81_a3_34_a3⟩,
    ⟨18465, 4, 2, 0x1_01_25_12_45⟩,
    ⟨2314, 34, 33, 0x1_25_81_12_81_81_92_a3_34_a3_92_81_92_25_92⟩,
    ⟨2224, 28, 27, 0x1_12_25_81_92_25_92_81_92_a3_34_a3_92⟩,
    ⟨18561, 16, 14, 0x1_01_25_45_92_a3_34_a3_92⟩,
    ⟨17666, 22, 21, 0x1_45_81_12_81_92_25_92_a3_34_a3⟩,
    ⟨17456, 22, 18, 0x1_12_45_81_92_25_92_81_a3_34_a3⟩,
    ⟨3329, 16, 15, 0x1_01_25_92_25_92_a3_34_a3⟩,
    ⟨18562, 22, 20, 0x1_25_45_81_12_81_92_a3_34_a3_92⟩,
    ⟨18472, 22, 20, 0x1_12_45_25_81_92_a3_34_a3_92_81⟩,
    ⟨8229, 22, 19, 0x1_01_12_81_92_23_92_81_b2_25_b2⟩,
    ⟨2115, 16, 15, 0x1_01_25_81_12_81_92_23_92⟩,
    ⟨771, 16, 15, 0x1_01_23_81_12_81_92_25_92⟩,
    ⟨8259, 22, 22, 0x1_01_81_12_81_92_23_92_b2_25_b2⟩,
    ⟨2085, 16, 15, 0x1_01_25_12_81_92_23_92_81⟩,
    ⟨561, 16, 15, 0x1_01_23_12_81_92_25_92_81⟩,
    ⟨8737, 10, 9, 0x1_01_23_12_b2_25_b2⟩,
    ⟨2820, 22, 20, 0x1_23_25_81_92_23_92_81_92_25_92⟩,
    ⟨2640, 22, 20, 0x1_23_25_81_92_25_92_81_92_23_92⟩,
    ⟨2625, 10, 9, 0x1_01_23_25_92_23_92⟩,
    ⟨834, 22, 21, 0x1_23_81_12_81_92_23_92_92_25_92⟩,
    ⟨8752, 22, 18, 0x1_12_23_81_92_25_92_81_b2_25_b2⟩,
    ⟨2817, 10, 9, 0x1_01_23_25_92_25_92⟩,
    ⟨2370, 22, 21, 0x1_25_81_12_81_92_23_92_92_25_92⟩,
    ⟨10276, 22, 18, 0x1_12_25_81_92_23_92_81_b2_25_b2⟩,
    ⟨4133, 16, 15, 0x1_01_34_12_81_92_23_92_81⟩,
    ⟨1091, 22, 22, 0x1_01_81_12_81_92_23_92_a3_34_a3⟩,
    ⟨643, 22, 21, 0x1_01_23_81_12_81_92_a3_34_a3_92⟩,
    ⟨4163, 16, 15, 0x1_01_34_81_12_81_92_23_92⟩,
    ⟨1061, 22, 19, 0x1_01_12_81_92_23_92_81_a3_34_a3⟩,
    ⟨553, 22, 21, 0x1_01_23_12_81_92_a3_34_a3_92_81⟩,
    ⟨4641, 4, 2, 0x1_01_23_12_34⟩,
    ⟨676, 28, 27, 0x1_12_23_81_92_23_92_81_92_a3_34_a3_92⟩,
    ⟨586, 34, 33, 0x1_23_81_12_81_81_92_a3_34_a3_92_81_92_23_92⟩,
    ⟨1601, 16, 15, 0x1_01_23_92_23_92_a3_34_a3⟩,
    ⟨4738, 22, 20, 0x1_23_34_81_12_81_92_a3_34_a3_92⟩,
    ⟨4648, 22, 20, 0x1_12_34_23_81_92_a3_34_a3_92_81⟩,
    ⟨4737, 16, 14, 0x1_01_23_34_92_a3_34_a3_92⟩,
    ⟨5186, 22, 21, 0x1_34_81_12_81_92_23_92_a3_34_a3⟩,
    ⟨5156, 22, 18, 0x1_12_34_81_92_23_92_81_a3_34_a3⟩,
    ⟨21280, 11, 9, 0x1_12_34_23_45_92_25_92⟩,
    ⟨21010, 23, 20, 0x1_23_45_34_81_12_81_81_92_25_92_81⟩,
    ⟨20561, 23, 21, 0x1_01_34_45_81_92_25_92_81_92_23_92⟩,
    ⟨17457, 23, 19, 0x1_01_45_12_81_92_25_92_81_a3_34_a3⟩,
    ⟨8753, 23, 19, 0x1_01_23_12_81_92_25_92_81_b2_25_b2⟩,
    ⟨5157, 23, 19, 0x1_01_34_12_81_92_23_92_81_a3_34_a3⟩,
    ⟨21536, 10, 8, 0x1_12_34_45_a3_34_a3⟩,
    ⟨21568, 16, 14, 0x1_34_45_92_23_92_a3_34_a3⟩,
    ⟨2720, 16, 16, 0x1_12_23_25_92_a3_34_a3_92⟩,
    ⟨21760, 16, 14, 0x1_34_45_92_25_92_a3_34_a3⟩,
    ⟨19200, 10, 9, 0x1_23_45_25_92_25_92⟩,
    ⟨23200, 18, 16, 0x1_12_34_23_45_25_92_a3_34_a3_92⟩,
    ⟨6720, 10, 9, 0x1_23_25_34_92_23_92⟩,
    ⟨6688, 4, 3, 0x1_12_34_23_25⟩,
    ⟨9760, 16, 16, 0x1_12_23_a3_34_a3_b2_25_b2⟩,
    ⟨18976, 4, 3, 0x1_12_45_23_25⟩,
    ⟨18960, 16, 13, 0x1_23_45_25_81_92_25_92_81⟩,
    ⟨9732, 28, 24, 0x1_23_81_92_23_92_81_a3_34_a3_b2_25_b2⟩,
    ⟨6660, 16, 13, 0x1_23_25_34_81_92_23_92_81⟩,
    ⟨12802, 16, 11, 0x1_23_34_81_12_81_b2_25_b2⟩,
    ⟨6658, 10, 7, 0x1_23_25_34_81_12_81⟩,
    ⟨9730, 22, 18, 0x1_23_81_12_81_a3_34_a3_b2_25_b2⟩,
    ⟨3588, 22, 17, 0x1_23_25_81_92_23_92_81_a3_34_a3⟩,
    ⟨18946, 10, 7, 0x1_23_45_25_81_12_81⟩,
    ⟨3592, 28, 23, 0x1_23_25_81_92_a3_34_a3_92_81_a3_34_a3⟩,
    ⟨3600, 22, 17, 0x1_23_25_81_92_25_92_81_a3_34_a3⟩,
    ⟨4417, 16, 15, 0x1_01_34_92_23_92_92_25_92⟩,
    ⟨8385, 28, 28, 0x1_01_92_23_92_92_a3_34_a3_92_b2_25_b2⟩,
    ⟨20612, 28, 26, 0x1_34_45_81_92_23_92_81_92_a3_34_a3_92⟩,
    ⟨20552, 28, 26, 0x1_34_45_81_92_a3_34_a3_92_81_92_23_92⟩,
    ⟨16705, 16, 15, 0x1_01_45_92_23_92_92_25_92⟩,
    ⟨12360, 34, 33, 0x1_34_81_92_a3_34_a3_92_81_92_23_92_b2_25_b2⟩,
    ⟨12420, 34, 33, 0x1_34_81_92_23_92_81_92_a3_34_a3_92_b2_25_b2⟩,
    ⟨20624, 28, 26, 0x1_34_45_81_92_25_92_81_92_a3_34_a3_92⟩,
    ⟨20744, 28, 26, 0x1_34_45_81_92_a3_34_a3_92_81_92_25_92⟩,
    ⟨20609, 16, 14, 0x1_01_34_45_92_a3_34_a3_92⟩,
    ⟨18466, 10, 8, 0x1_12_45_25_81_12_81⟩,
    ⟨3112, 28, 24, 0x1_12_25_81_92_a3_34_a3_92_81_a3_34_a3⟩,
    ⟨2210, 22, 21, 0x1_12_25_81_12_81_92_a3_34_a3_92⟩,
    ⟨1313, 16, 16, 0x1_01_12_92_25_92_a3_34_a3⟩,
    ⟨3120, 22, 18, 0x1_12_25_81_92_25_92_81_a3_34_a3⟩,
    ⟨3330, 22, 21, 0x1_25_81_12_81_92_25_92_a3_34_a3⟩,
    ⟨2209, 16, 15, 0x1_01_25_12_92_a3_34_a3_92⟩,
    ⟨18689, 10, 8, 0x1_01_25_45_92_25_92⟩,
    ⟨18690, 16, 14, 0x1_25_45_81_12_81_92_25_92⟩,
    ⟨18480, 16, 14, 0x1_12_45_25_81_92_25_92_81⟩,
    ⟨2608, 16, 14, 0x1_12_23_25_81_92_25_92_81⟩,
    ⟨2818, 16, 14, 0x1_23_25_81_12_81_92_25_92⟩,
    ⟨2145, 10, 9, 0x1_01_25_12_92_23_92⟩,
    ⟨8738, 16, 12, 0x1_12_23_81_12_81_b2_25_b2⟩,
    ⟨2593, 4, 3, 0x1_01_23_12_25⟩,
    ⟨8770, 22, 21, 0x1_23_81_12_81_92_23_92_b2_25_b2⟩,
    ⟨2596, 16, 14, 0x1_12_23_25_81_92_23_92_81⟩,
    ⟨8740, 22, 18, 0x1_12_23_81_92_23_92_81_b2_25_b2⟩,
    ⟨2626, 16, 14, 0x1_23_25_81_12_81_92_23_92⟩,
    ⟨801, 10, 9, 0x1_01_23_12_92_25_92⟩,
    ⟨4673, 10, 8, 0x1_01_23_34_92_23_92⟩,
    ⟨4674, 16, 14, 0x1_23_34_81_12_81_92_23_92⟩,
    ⟨1572, 22, 18, 0x1_12_23_81_92_23_92_81_a3_34_a3⟩,
    ⟨1576, 28, 24, 0x1_12_23_81_92_a3_34_a3_92_81_a3_34_a3⟩,
    ⟨4644, 16, 14, 0x1_12_34_23_81_92_23_92_81⟩,
    ⟨1602, 22, 21, 0x1_23_81_12_81_92_23_92_a3_34_a3⟩,
    ⟨674, 22, 21, 0x1_12_23_81_12_81_92_a3_34_a3_92⟩,
    ⟨673, 16, 15, 0x1_01_23_12_92_a3_34_a3_92⟩,
    ⟨1121, 16, 16, 0x1_01_12_92_23_92_a3_34_a3⟩,
    ⟨4642, 10, 8, 0x1_12_34_23_81_12_81⟩,
    ⟨3616, 10, 10, 0x1_12_23_25_a3_34_a3⟩,
    ⟨3586, 16, 11, 0x1_23_25_81_12_81_a3_34_a3⟩,
    ⟨12356, 28, 27, 0x1_34_81_92_23_92_81_92_23_92_b2_25_b2⟩,
    ⟨3106, 16, 12, 0x1_12_25_81_12_81_a3_34_a3⟩,
    ⟨2594, 10, 8, 0x1_12_23_25_81_12_81⟩,
    ⟨1570, 16, 12, 0x1_12_23_81_12_81_a3_34_a3⟩,
    ⟨23667, 39, 36, 0x1_01_25_34_12_45_81_12_81_81_92_25_92_81_92_23_92_a3_34_a3⟩,
    ⟨21618, 37, 35, 0x1_12_34_45_81_12_81_81_92_25_92_81_92_23_92_a3_34_a3⟩,
    ⟨22131, 39, 36, 0x1_01_23_45_12_34_81_12_81_81_92_25_92_81_92_23_92_a3_34_a3⟩,
    ⟨6921, 30, 27, 0x1_01_23_25_34_81_92_a3_34_a3_92_81_92_25_92⟩,
    ⟨7429, 30, 28, 0x1_01_25_34_81_92_23_92_81_92_25_92_a3_34_a3⟩,
    ⟨19017, 30, 27, 0x1_01_23_45_25_81_92_a3_34_a3_92_81_92_23_92⟩,
    ⟨6801, 30, 27, 0x1_01_23_25_34_81_92_25_92_81_92_a3_34_a3_92⟩,
    ⟨21041, 18, 15, 0x1_01_23_45_12_34_81_92_25_92_81⟩,
    ⟨22851, 25, 22, 0x1_01_25_34_45_81_12_81_92_23_92_92_25_92⟩,
    ⟨7249, 30, 28, 0x1_01_25_34_81_92_25_92_81_92_23_92_a3_34_a3⟩,
    ⟨21251, 18, 15, 0x1_01_23_45_34_81_12_81_92_25_92⟩,
    ⟨22595, 18, 15, 0x1_01_25_34_45_81_12_81_92_23_92⟩,
    ⟨19077, 30, 27, 0x1_01_23_45_25_81_92_23_92_81_92_a3_34_a3_92⟩,
    ⟨21315, 25, 22, 0x1_01_23_45_34_81_12_81_92_23_92_92_25_92⟩,
    ⟨22565, 18, 15, 0x1_01_25_34_12_45_81_92_23_92_81⟩,
    ⟨17155, 17, 15, 0x1_01_23_45_81_12_81_92_25_92⟩,
    ⟨9283, 29, 29, 0x1_01_81_12_81_92_23_92_a3_34_a3_b2_25_b2⟩,
    ⟨6211, 17, 15, 0x1_01_25_34_81_12_81_92_23_92⟩,
    ⟨18499, 17, 15, 0x1_01_25_45_81_12_81_92_23_92⟩,
    ⟨8835, 29, 28, 0x1_01_23_81_12_81_92_a3_34_a3_92_b2_25_b2⟩,
    ⟨4867, 17, 15, 0x1_01_23_34_81_12_81_92_25_92⟩,
    ⟨20517, 17, 15, 0x1_01_34_12_45_81_92_23_92_81⟩,
    ⟨2693, 29, 27, 0x1_01_23_25_81_92_23_92_81_92_a3_34_a3_92⟩,
    ⟨1797, 29, 28, 0x1_01_23_81_92_23_92_81_92_25_92_a3_34_a3⟩,
    ⟨23363, 26, 22, 0x1_01_23_45_25_34_81_12_81_92_23_92_92_25_92⟩,
    ⟨18505, 29, 27, 0x1_01_25_45_81_92_a3_34_a3_92_81_92_23_92⟩,
    ⟨4873, 29, 27, 0x1_01_23_34_81_92_a3_34_a3_92_81_92_25_92⟩,
    ⟨20529, 17, 15, 0x1_01_34_12_45_81_92_25_92_81⟩,
    ⟨3153, 29, 28, 0x1_01_25_81_92_25_92_81_92_23_92_a3_34_a3⟩,
    ⟨2705, 29, 27, 0x1_01_23_25_81_92_25_92_81_92_a3_34_a3_92⟩,
    ⟨16945, 17, 15, 0x1_01_23_45_12_81_92_25_92_81⟩,
    ⟨9253, 29, 26, 0x1_01_12_81_92_23_92_81_a3_34_a3_b2_25_b2⟩,
    ⟨6181, 17, 15, 0x1_01_25_34_12_81_92_23_92_81⟩,
    ⟨18469, 17, 15, 0x1_01_25_12_45_81_92_23_92_81⟩,
    ⟨8745, 29, 25, 0x1_01_23_12_81_92_a3_34_a3_92_81_b2_25_b2⟩,
    ⟨4657, 17, 15, 0x1_01_23_12_34_81_92_25_92_81⟩,
    ⟨20547, 17, 15, 0x1_01_34_45_81_12_81_92_23_92⟩,
    ⟨2633, 29, 27, 0x1_01_23_25_81_92_a3_34_a3_92_81_92_23_92⟩,
    ⟨1617, 29, 28, 0x1_01_23_81_92_25_92_81_92_23_92_a3_34_a3⟩,
    ⟨20803, 24, 22, 0x1_01_34_45_81_12_81_92_23_92_92_25_92⟩,
    ⟨18565, 29, 27, 0x1_01_25_45_81_92_23_92_81_92_a3_34_a3_92⟩,
    ⟨4753, 29, 27, 0x1_01_23_34_81_92_25_92_81_92_a3_34_a3_92⟩,
    ⟨20739, 17, 15, 0x1_01_34_45_81_12_81_92_25_92⟩,
    ⟨3333, 29, 28, 0x1_01_25_81_92_23_92_81_92_25_92_a3_34_a3⟩,
    ⟨2825, 29, 27, 0x1_01_23_25_81_92_a3_34_a3_92_81_92_25_92⟩,
    ⟨18755, 24, 22, 0x1_01_25_45_81_12_81_92_23_92_92_25_92⟩,
    ⟨8899, 36, 35, 0x1_01_23_81_12_81_92_23_92_92_a3_34_a3_92_b2_25_b2⟩,
    ⟨4931, 24, 22, 0x1_01_23_34_81_12_81_92_23_92_92_25_92⟩,
    ⟨17188, 23, 21, 0x1_12_45_23_81_92_23_92_81_92_25_92⟩,
    ⟨8298, 41, 41, 0x1_12_81_12_81_81_92_a3_34_a3_92_81_92_23_92_b2_25_b2⟩,
    ⟨6256, 23, 21, 0x1_12_34_25_81_92_25_92_81_92_23_92⟩,
    ⟨21025, 5, 2, 0x1_01_23_45_12_34⟩,
    ⟨23304, 30, 26, 0x1_23_45_25_34_81_92_a3_34_a3_92_81_92_25_92⟩,
    ⟨6800, 29, 26, 0x1_23_25_34_81_92_25_92_81_92_a3_34_a3_92⟩,
    ⟨23073, 6, 3, 0x1_01_23_45_12_34_25⟩,
    ⟨18180, 29, 27, 0x1_23_45_81_92_23_92_81_92_25_92_a3_34_a3⟩,
    ⟨7248, 29, 27, 0x1_25_34_81_92_25_92_81_92_23_92_a3_34_a3⟩,
    ⟨22561, 5, 2, 0x1_01_25_34_12_45⟩,
    ⟨19076, 29, 26, 0x1_23_45_25_81_92_23_92_81_92_a3_34_a3_92⟩,
    ⟨23112, 30, 26, 0x1_23_45_25_34_81_92_a3_34_a3_92_81_92_23_92⟩,
    ⟨16948, 29, 27, 0x1_12_45_23_81_92_23_92_81_81_92_25_92_81⟩,
    ⟨2725, 30, 28, 0x1_01_23_12_25_81_92_23_92_81_92_a3_34_a3_92⟩,
    ⟨1829, 30, 29, 0x1_01_23_12_81_92_23_92_81_92_25_92_a3_34_a3⟩,
    ⟨17218, 23, 21, 0x1_23_45_81_12_81_92_23_92_92_25_92⟩,
    ⟨6248, 29, 27, 0x1_12_34_25_81_92_a3_34_a3_92_81_92_23_92⟩,
    ⟨9328, 35, 35, 0x1_12_81_92_25_92_81_92_23_92_a3_34_a3_b2_25_b2⟩,
    ⟨19009, 11, 9, 0x1_01_23_45_25_92_23_92⟩,
    ⟨6920, 29, 26, 0x1_23_25_34_81_92_a3_34_a3_92_81_92_25_92⟩,
    ⟨23184, 30, 26, 0x1_23_45_25_34_81_92_25_92_81_92_a3_34_a3_92⟩,
    ⟨22593, 11, 8, 0x1_01_25_34_45_92_23_92⟩,
    ⟨21250, 17, 14, 0x1_23_45_34_81_12_81_92_25_92⟩,
    ⟨23088, 18, 14, 0x1_12_34_23_45_25_81_92_25_92_81⟩,
    ⟨23105, 12, 9, 0x1_01_23_45_25_34_92_23_92⟩,
    ⟨21314, 24, 21, 0x1_23_45_34_81_12_81_92_23_92_92_25_92⟩,
    ⟨14376, 29, 24, 0x1_12_34_25_81_92_a3_34_a3_92_81_b2_25_b2⟩,
    ⟨12842, 36, 31, 0x1_12_34_23_81_12_81_81_92_a3_34_a3_92_81_b2_25_b2⟩,
    ⟨6218, 35, 33, 0x1_25_34_81_12_81_81_92_a3_34_a3_92_81_92_23_92⟩,
    ⟨17162, 35, 33, 0x1_23_45_81_12_81_81_92_a3_34_a3_92_81_92_25_92⟩,
    ⟨12962, 30, 28, 0x1_12_34_23_81_12_81_92_a3_34_a3_92_b2_25_b2⟩,
    ⟨6308, 29, 27, 0x1_12_34_25_81_92_23_92_81_92_a3_34_a3_92⟩,
    ⟨17072, 29, 27, 0x1_12_45_23_81_92_25_92_81_92_a3_34_a3_92⟩,
    ⟨23169, 18, 15, 0x1_01_23_45_25_34_92_a3_34_a3_92⟩,
    ⟨7428, 29, 27, 0x1_25_34_81_92_23_92_81_92_25_92_a3_34_a3⟩,
    ⟨18000, 29, 27, 0x1_23_45_81_92_25_92_81_92_23_92_a3_34_a3⟩,
    ⟨6785, 17, 15, 0x1_01_23_25_34_92_a3_34_a3_92⟩,
    ⟨23298, 18, 14, 0x1_23_45_25_34_81_12_81_92_25_92⟩,
    ⟨21040, 17, 14, 0x1_12_34_23_45_81_92_25_92_81⟩,
    ⟨19073, 17, 15, 0x1_01_23_45_25_92_a3_34_a3_92⟩,
    ⟨23106, 18, 14, 0x1_23_45_25_34_81_12_81_92_23_92⟩,
    ⟨22564, 17, 14, 0x1_12_34_25_45_81_92_23_92_81⟩,
    ⟨6196, 29, 27, 0x1_12_34_25_81_92_23_92_81_81_92_25_92_81⟩,
    ⟨3185, 30, 29, 0x1_01_25_12_81_92_25_92_81_92_23_92_a3_34_a3⟩,
    ⟨2737, 30, 28, 0x1_01_23_12_25_81_92_25_92_81_92_a3_34_a3_92⟩,
    ⟨6466, 23, 21, 0x1_25_34_81_12_81_92_23_92_92_25_92⟩,
    ⟨9508, 35, 35, 0x1_12_81_92_23_92_81_92_25_92_a3_34_a3_b2_25_b2⟩,
    ⟨17192, 29, 27, 0x1_12_45_23_81_92_a3_34_a3_92_81_92_25_92⟩,
    ⟨6913, 11, 9, 0x1_01_23_25_34_92_25_92⟩,
    ⟨23172, 30, 26, 0x1_23_45_25_34_81_92_23_92_81_92_a3_34_a3_92⟩,
    ⟨19016, 29, 26, 0x1_23_45_25_81_92_a3_34_a3_92_81_92_23_92⟩,
    ⟨23297, 12, 9, 0x1_01_23_45_25_34_92_25_92⟩,
    ⟨22850, 24, 21, 0x1_25_34_45_81_12_81_92_23_92_92_25_92⟩,
    ⟨25128, 29, 24, 0x1_12_45_23_81_92_a3_34_a3_92_81_b2_25_b2⟩,
    ⟨21249, 11, 8, 0x1_01_23_45_34_92_25_92⟩,
    ⟨22594, 17, 14, 0x1_25_34_45_81_12_81_92_23_92⟩,
    ⟨23076, 18, 14, 0x1_12_34_23_45_25_81_92_23_92_81⟩,
    ⟨12325, 23, 19, 0x1_01_34_12_81_92_23_92_81_b2_25_b2⟩,
    ⟨18513, 23, 21, 0x1_01_25_45_81_92_25_92_81_92_23_92⟩,
    ⟨2691, 23, 21, 0x1_01_23_25_81_12_81_92_a3_34_a3_92⟩,
    ⟨4869, 23, 21, 0x1_01_23_34_81_92_23_92_81_92_25_92⟩,
    ⟨17170, 29, 27, 0x1_23_45_81_12_81_81_92_25_92_81_92_25_92⟩,
    ⟨1347, 29, 29, 0x1_01_81_12_81_92_23_92_92_25_92_a3_34_a3⟩,
    ⟨6214, 29, 27, 0x1_25_34_81_12_81_81_92_23_92_81_92_23_92⟩,
    ⟨6182, 23, 21, 0x1_12_34_25_81_12_81_81_92_23_92_81⟩,
    ⟨9254, 35, 32, 0x1_12_81_12_81_81_92_23_92_81_a3_34_a3_b2_25_b2⟩,
    ⟨16946, 23, 21, 0x1_12_45_23_81_12_81_81_92_25_92_81⟩,
    ⟨17200, 23, 21, 0x1_12_45_23_81_92_25_92_81_92_25_92⟩,
    ⟨3907, 31, 29, 0x1_01_23_25_81_12_81_92_23_92_92_25_92_a3_34_a3⟩,
    ⟨6244, 23, 21, 0x1_12_34_25_81_92_23_92_81_92_23_92⟩,
    ⟨20611, 23, 21, 0x1_01_34_45_81_12_81_92_a3_34_a3_92⟩,
    ⟨6242, 17, 15, 0x1_12_34_25_81_12_81_92_23_92⟩,
    ⟨9314, 29, 29, 0x1_12_81_12_81_92_23_92_a3_34_a3_b2_25_b2⟩,
    ⟨3109, 23, 19, 0x1_01_25_12_81_92_23_92_81_a3_34_a3⟩,
    ⟨17186, 17, 15, 0x1_12_45_23_81_12_81_92_25_92⟩,
    ⟨2601, 23, 21, 0x1_01_23_12_25_81_92_a3_34_a3_92_81⟩,
    ⟨1585, 23, 19, 0x1_01_23_12_81_92_25_92_81_a3_34_a3⟩,
    ⟨4897, 11, 9, 0x1_01_23_12_34_92_25_92⟩,
    ⟨8865, 23, 22, 0x1_01_23_12_92_a3_34_a3_92_b2_25_b2⟩,
    ⟨19204, 23, 20, 0x1_23_45_25_81_92_23_92_81_92_25_92⟩,
    ⟨19024, 23, 20, 0x1_23_45_25_81_92_25_92_81_92_23_92⟩,
    ⟨18529, 11, 9, 0x1_01_25_12_45_92_23_92⟩,
    ⟨23208, 37, 33, 0x1_12_34_23_45_25_81_92_a3_34_a3_92_81_92_a3_34_a3_92⟩,
    ⟨8868, 35, 34, 0x1_12_23_81_92_23_92_81_92_a3_34_a3_92_b2_25_b2⟩,
    ⟨6736, 23, 20, 0x1_23_25_34_81_92_25_92_81_92_23_92⟩,
    ⟨6916, 23, 20, 0x1_23_25_34_81_92_23_92_81_92_25_92⟩,
    ⟨12833, 11, 9, 0x1_01_23_12_34_b2_25_b2⟩,
    ⟨21026, 11, 8, 0x1_12_34_23_45_81_12_81⟩,
    ⟨6696, 23, 20, 0x1_12_34_23_25_81_92_a3_34_a3_92_81⟩,
    ⟨6786, 23, 20, 0x1_23_25_34_81_12_81_92_a3_34_a3_92⟩,
    ⟨1857, 23, 22, 0x1_01_23_92_23_92_92_25_92_a3_34_a3⟩,
    ⟨9776, 29, 25, 0x1_12_23_81_92_25_92_81_a3_34_a3_b2_25_b2⟩,
    ⟨1858, 29, 28, 0x1_23_81_12_81_92_23_92_92_25_92_a3_34_a3⟩,
    ⟨2753, 23, 22, 0x1_01_23_25_92_23_92_92_a3_34_a3_92⟩,
    ⟨21569, 17, 15, 0x1_01_34_45_92_23_92_a3_34_a3⟩,
    ⟨21122, 23, 20, 0x1_23_45_34_81_12_81_92_a3_34_a3_92⟩,
    ⟨25136, 23, 18, 0x1_12_45_23_81_92_25_92_81_b2_25_b2⟩,
    ⟨17968, 23, 18, 0x1_12_45_23_81_92_25_92_81_a3_34_a3⟩,
    ⟨21252, 23, 20, 0x1_23_45_34_81_92_23_92_81_92_25_92⟩,
    ⟨22596, 23, 20, 0x1_25_34_45_81_92_23_92_81_92_23_92⟩,
    ⟨23074, 12, 8, 0x1_12_34_23_45_25_81_12_81⟩,
    ⟨12929, 23, 21, 0x1_01_23_34_92_a3_34_a3_92_b2_25_b2⟩,
    ⟨23202, 25, 21, 0x1_12_34_23_45_25_81_12_81_92_a3_34_a3_92⟩,
    ⟨7204, 23, 18, 0x1_12_34_25_81_92_23_92_81_a3_34_a3⟩,
    ⟨13348, 29, 25, 0x1_12_34_81_92_23_92_81_a3_34_a3_b2_25_b2⟩,
    ⟨22608, 23, 20, 0x1_25_34_45_81_92_25_92_81_92_23_92⟩,
    ⟨21264, 23, 20, 0x1_23_45_34_81_92_25_92_81_92_25_92⟩,
    ⟨13057, 17, 15, 0x1_01_23_34_92_25_92_b2_25_b2⟩,
    ⟨22658, 23, 20, 0x1_25_34_45_81_12_81_92_a3_34_a3_92⟩,
    ⟨11300, 29, 25, 0x1_12_25_81_92_23_92_81_a3_34_a3_b2_25_b2⟩,
    ⟨18984, 23, 20, 0x1_12_45_23_25_81_92_a3_34_a3_92_81⟩,
    ⟨14372, 23, 18, 0x1_12_34_25_81_92_23_92_81_b2_25_b2⟩,
    ⟨3394, 29, 28, 0x1_25_81_12_81_92_23_92_92_25_92_a3_34_a3⟩,
    ⟨19074, 23, 20, 0x1_23_45_25_81_12_81_92_a3_34_a3_92⟩,
    ⟨2945, 23, 22, 0x1_01_23_25_92_a3_34_a3_92_92_25_92⟩,
    ⟨3393, 23, 22, 0x1_01_25_92_23_92_92_25_92_a3_34_a3⟩,
    ⟨22562, 11, 8, 0x1_12_34_25_45_81_12_81⟩,
    ⟨3617, 11, 10, 0x1_01_23_12_25_a3_34_a3⟩,
    ⟨12866, 23, 21, 0x1_23_34_81_12_81_92_23_92_b2_25_b2⟩,
    ⟨3620, 23, 18, 0x1_12_23_25_81_92_23_92_81_a3_34_a3⟩,
    ⟨3624, 29, 24, 0x1_12_23_25_81_92_a3_34_a3_92_81_a3_34_a3⟩,
    ⟨3632, 23, 18, 0x1_12_23_25_81_92_25_92_81_a3_34_a3⟩,
    ⟨12836, 23, 18, 0x1_12_34_23_81_92_23_92_81_b2_25_b2⟩,
    ⟨3650, 23, 21, 0x1_23_25_81_12_81_92_23_92_a3_34_a3⟩,
    ⟨2722, 23, 21, 0x1_12_23_25_81_12_81_92_a3_34_a3_92⟩,
    ⟨3842, 23, 21, 0x1_23_25_81_12_81_92_25_92_a3_34_a3⟩,
    ⟨19216, 23, 20, 0x1_23_45_25_81_92_25_92_81_92_25_92⟩,
    ⟨1377, 23, 23, 0x1_01_12_92_23_92_92_25_92_a3_34_a3⟩,
    ⟨6724, 23, 20, 0x1_23_25_34_81_92_23_92_81_92_23_92⟩,
    ⟨6690, 11, 8, 0x1_12_34_23_25_81_12_81⟩,
    ⟨9762, 23, 19, 0x1_12_23_81_12_81_a3_34_a3_b2_25_b2⟩,
    ⟨18978, 11, 8, 0x1_12_45_23_25_81_12_81⟩,
    ⟨3618, 17, 12, 0x1_12_23_25_81_12_81_a3_34_a3⟩,
    ⟨12834, 17, 12, 0x1_12_34_23_81_12_81_b2_25_b2⟩,
    ⟨18753, 17, 15, 0x1_01_25_45_92_23_92_92_25_92⟩,
    ⟨2721, 17, 16, 0x1_01_23_12_25_92_a3_34_a3_92⟩,
    ⟨4929, 17, 15, 0x1_01_23_34_92_23_92_92_25_92⟩,
    ⟨19202, 17, 14, 0x1_23_45_25_81_12_81_92_25_92⟩,
    ⟨9794, 29, 28, 0x1_23_81_12_81_92_23_92_a3_34_a3_b2_25_b2⟩,
    ⟨6722, 17, 14, 0x1_23_25_34_81_12_81_92_23_92⟩,
    ⟨6692, 17, 14, 0x1_12_34_23_25_81_92_23_92_81⟩,
    ⟨9764, 29, 25, 0x1_12_23_81_92_23_92_81_a3_34_a3_b2_25_b2⟩,
    ⟨18992, 17, 14, 0x1_12_45_23_25_81_92_25_92_81⟩,
    ⟨17185, 11, 9, 0x1_01_23_45_12_92_25_92⟩,
    ⟨9313, 23, 23, 0x1_01_12_92_23_92_a3_34_a3_b2_25_b2⟩,
    ⟨6241, 11, 9, 0x1_01_25_34_12_92_23_92⟩,
    ⟨19010, 17, 14, 0x1_23_45_25_81_12_81_92_23_92⟩,
    ⟨8866, 29, 28, 0x1_12_23_81_12_81_92_a3_34_a3_92_b2_25_b2⟩,
    ⟨6914, 17, 14, 0x1_23_25_34_81_12_81_92_25_92⟩,
    ⟨21028, 17, 14, 0x1_12_34_23_45_81_92_23_92_81⟩,
    ⟨6788, 29, 26, 0x1_23_25_34_81_92_23_92_81_92_a3_34_a3_92⟩,
    ⟨1860, 35, 34, 0x1_23_81_92_23_92_81_92_23_92_92_25_92_a3_34_a3⟩,
    ⟨23092, 31, 27, 0x1_12_34_23_45_25_81_92_23_92_81_81_92_25_92_81⟩,
    ⟨22600, 29, 26, 0x1_25_34_45_81_92_a3_34_a3_92_81_92_23_92⟩,
    ⟨21256, 29, 26, 0x1_23_45_34_81_92_a3_34_a3_92_81_92_25_92⟩,
    ⟨22576, 17, 14, 0x1_12_34_25_45_81_92_25_92_81⟩,
    ⟨3408, 35, 34, 0x1_25_81_92_25_92_81_92_23_92_92_25_92_a3_34_a3⟩,
    ⟨19088, 29, 26, 0x1_23_45_25_81_92_25_92_81_92_a3_34_a3_92⟩,
    ⟨18980, 17, 14, 0x1_12_45_23_25_81_92_23_92_81⟩,
    ⟨8746, 35, 31, 0x1_12_23_81_12_81_81_92_a3_34_a3_92_81_b2_25_b2⟩,
    ⟨6704, 17, 14, 0x1_12_34_23_25_81_92_25_92_81⟩,
    ⟨21058, 17, 14, 0x1_23_45_34_81_12_81_92_23_92⟩,
    ⟨6728, 29, 26, 0x1_23_25_34_81_92_a3_34_a3_92_81_92_23_92⟩,
    ⟨1137, 29, 29, 0x1_01_12_81_92_25_92_81_92_23_92_a3_34_a3⟩,
    ⟨23362, 25, 21, 0x1_23_45_25_34_81_12_81_92_23_92_92_25_92⟩,
    ⟨22660, 29, 26, 0x1_25_34_45_81_92_23_92_81_92_a3_34_a3_92⟩,
    ⟨21136, 29, 26, 0x1_23_45_34_81_92_25_92_81_92_a3_34_a3_92⟩,
    ⟨22786, 17, 14, 0x1_25_34_45_81_12_81_92_25_92⟩,
    ⟨1317, 29, 29, 0x1_01_12_81_92_23_92_81_92_25_92_a3_34_a3⟩,
    ⟨19208, 29, 26, 0x1_23_45_25_81_92_a3_34_a3_92_81_92_25_92⟩,
    ⟨18977, 5, 3, 0x1_01_23_45_12_25⟩,
    ⟨2826, 35, 33, 0x1_23_25_81_12_81_81_92_a3_34_a3_92_81_92_25_92⟩,
    ⟨2736, 29, 27, 0x1_12_23_25_81_92_25_92_81_92_a3_34_a3_92⟩,
    ⟨9761, 17, 16, 0x1_01_23_12_a3_34_a3_b2_25_b2⟩,
    ⟨3844, 29, 27, 0x1_23_25_81_92_23_92_81_92_25_92_a3_34_a3⟩,
    ⟨3664, 29, 27, 0x1_23_25_81_92_25_92_81_92_23_92_a3_34_a3⟩,
    ⟨6689, 5, 3, 0x1_01_23_12_34_25⟩,
    ⟨2724, 29, 27, 0x1_12_23_25_81_92_23_92_81_92_a3_34_a3_92⟩,
    ⟨2634, 35, 33, 0x1_23_25_81_12_81_81_92_a3_34_a3_92_81_92_23_92⟩,
    ⟨6721, 11, 9, 0x1_01_23_25_34_92_23_92⟩,
    ⟨4930, 23, 21, 0x1_23_34_81_12_81_92_23_92_92_25_92⟩,
    ⟨12848, 23, 18, 0x1_12_34_23_81_92_25_92_81_b2_25_b2⟩,
    ⟨23201, 19, 16, 0x1_01_23_45_12_34_25_92_a3_34_a3_92⟩,
    ⟨12930, 29, 27, 0x1_23_34_81_12_81_92_a3_34_a3_92_b2_25_b2⟩,
    ⟨12840, 29, 24, 0x1_12_34_23_81_92_a3_34_a3_92_81_b2_25_b2⟩,
    ⟨19201, 11, 9, 0x1_01_23_45_25_92_25_92⟩,
    ⟨18754, 23, 21, 0x1_25_45_81_12_81_92_23_92_92_25_92⟩,
    ⟨21540, 23, 18, 0x1_12_34_45_81_92_23_92_81_a3_34_a3⟩,
    ⟨19233, 12, 10, 0x1_01_23_45_12_25_92_25_92⟩,
    ⟨9825, 24, 23, 0x1_01_23_12_92_23_92_a3_34_a3_b2_25_b2⟩,
    ⟨6753, 12, 10, 0x1_01_23_12_34_25_92_23_92⟩,
    ⟨22082, 24, 21, 0x1_23_45_34_81_12_81_92_23_92_a3_34_a3⟩,
    ⟨31362, 31, 27, 0x1_23_45_25_34_81_12_81_92_a3_34_a3_92_b2_25_b2⟩,
    ⟨15106, 24, 21, 0x1_23_25_34_81_12_81_92_25_92_b2_25_b2⟩,
    ⟨22052, 24, 18, 0x1_12_34_23_45_81_92_23_92_81_a3_34_a3⟩,
    ⟨7812, 36, 33, 0x1_23_25_34_81_92_23_92_81_92_a3_34_a3_92_a3_34_a3⟩,
    ⟨24324, 31, 27, 0x1_23_45_25_34_81_92_23_92_81_92_25_92_a3_34_a3⟩,
    ⟨31272, 31, 24, 0x1_12_34_23_45_25_81_92_a3_34_a3_92_81_b2_25_b2⟩,
    ⟨7752, 36, 33, 0x1_23_25_34_81_92_a3_34_a3_92_81_92_23_92_a3_34_a3⟩,
    ⟨20232, 36, 33, 0x1_23_45_25_81_92_a3_34_a3_92_81_92_25_92_a3_34_a3⟩,
    ⟨14896, 24, 18, 0x1_12_34_23_25_81_92_25_92_81_b2_25_b2⟩,
    ⟨24144, 31, 27, 0x1_23_45_25_34_81_92_25_92_81_92_23_92_a3_34_a3⟩,
    ⟨20112, 36, 33, 0x1_23_45_25_81_92_25_92_81_92_a3_34_a3_92_a3_34_a3⟩,
    ⟨21281, 12, 9, 0x1_01_23_45_12_34_92_25_92⟩,
    ⟨23137, 13, 10, 0x1_01_23_45_12_34_25_92_23_92⟩,
    ⟨22625, 12, 9, 0x1_01_25_34_12_45_92_23_92⟩,
    ⟨22626, 18, 15, 0x1_12_34_25_45_81_12_81_92_23_92⟩,
    ⟨21346, 25, 22, 0x1_12_34_23_45_81_12_81_92_23_92_92_25_92⟩,
    ⟨21282, 18, 15, 0x1_12_34_23_45_81_12_81_92_25_92⟩,
    ⟨21284, 24, 21, 0x1_12_34_23_45_81_92_23_92_81_92_25_92⟩,
    ⟨22308, 31, 28, 0x1_12_34_23_45_81_92_23_92_81_92_25_92_a3_34_a3⟩,
    ⟨7492, 36, 34, 0x1_25_34_81_92_23_92_81_92_23_92_92_25_92_a3_34_a3⟩,
    ⟨21300, 37, 34, 0x1_12_34_23_45_81_92_23_92_81_81_92_25_92_81_92_25_92⟩,
    ⟨22632, 30, 27, 0x1_12_34_25_45_81_92_a3_34_a3_92_81_92_23_92⟩,
    ⟨21288, 30, 27, 0x1_12_34_23_45_81_92_a3_34_a3_92_81_92_25_92⟩,
    ⟨21296, 24, 21, 0x1_12_34_23_45_81_92_25_92_81_92_25_92⟩,
    ⟨7504, 36, 34, 0x1_25_34_81_92_25_92_81_92_23_92_92_25_92_a3_34_a3⟩,
    ⟨21289, 31, 28, 0x1_01_23_45_12_34_81_92_a3_34_a3_92_81_92_25_92⟩,
    ⟨22566, 24, 21, 0x1_12_34_25_45_81_12_81_81_92_23_92_81⟩,
    ⟨21107, 32, 29, 0x1_01_23_45_12_34_81_12_81_81_92_25_92_81_92_23_92⟩,
    ⟨21042, 24, 21, 0x1_12_34_23_45_81_12_81_81_92_25_92_81⟩,
    ⟨21074, 30, 27, 0x1_23_45_34_81_12_81_81_92_25_92_81_92_23_92⟩,
    ⟨18537, 30, 28, 0x1_01_25_12_45_81_92_a3_34_a3_92_81_92_23_92⟩,
    ⟨17521, 30, 29, 0x1_01_45_12_81_92_25_92_81_92_23_92_a3_34_a3⟩,
    ⟨9091, 36, 35, 0x1_01_23_81_12_81_92_a3_34_a3_92_92_25_92_b2_25_b2⟩,
    ⟨22662, 36, 33, 0x1_25_34_45_81_12_81_81_92_23_92_81_92_a3_34_a3_92⟩,
    ⟨21138, 36, 33, 0x1_23_45_34_81_12_81_81_92_25_92_81_92_a3_34_a3_92⟩,
    ⟨21266, 30, 27, 0x1_23_45_34_81_12_81_81_92_25_92_81_92_25_92⟩,
    ⟨5413, 30, 29, 0x1_01_34_12_81_92_23_92_81_92_25_92_a3_34_a3⟩,
    ⟨4905, 30, 28, 0x1_01_23_12_34_81_92_a3_34_a3_92_81_92_25_92⟩,
    ⟨17969, 24, 19, 0x1_01_23_45_12_81_92_25_92_81_a3_34_a3⟩,
    ⟨22129, 32, 29, 0x1_01_23_45_12_34_81_92_25_92_81_92_23_92_a3_34_a3⟩,
    ⟨19241, 31, 28, 0x1_01_23_45_12_25_81_92_a3_34_a3_92_81_92_25_92⟩,
    ⟨23121, 25, 21, 0x1_01_23_45_25_34_81_92_25_92_81_92_23_92⟩,
    ⟨3845, 30, 28, 0x1_01_23_25_81_92_23_92_81_92_25_92_a3_34_a3⟩,
    ⟨3665, 30, 28, 0x1_01_23_25_81_92_25_92_81_92_23_92_a3_34_a3⟩,
    ⟨7205, 24, 19, 0x1_01_25_34_12_81_92_23_92_81_a3_34_a3⟩,
    ⟨6761, 31, 28, 0x1_01_23_12_34_25_81_92_a3_34_a3_92_81_92_23_92⟩,
    ⟨23845, 32, 29, 0x1_01_25_34_12_45_81_92_23_92_81_92_25_92_a3_34_a3⟩,
    ⟨14373, 24, 19, 0x1_01_25_34_12_81_92_23_92_81_b2_25_b2⟩,
    ⟨13059, 24, 22, 0x1_01_23_34_81_12_81_92_25_92_b2_25_b2⟩,
    ⟨12849, 24, 19, 0x1_01_23_12_34_81_92_25_92_81_b2_25_b2⟩,
    ⟨23081, 25, 21, 0x1_01_23_45_12_34_25_81_92_a3_34_a3_92_81⟩,
    ⟨12931, 30, 28, 0x1_01_23_34_81_12_81_92_a3_34_a3_92_b2_25_b2⟩,
    ⟨12841, 30, 25, 0x1_01_23_12_34_81_92_a3_34_a3_92_81_b2_25_b2⟩,
    ⟨25137, 24, 19, 0x1_01_23_45_12_81_92_25_92_81_b2_25_b2⟩,
    ⟨21571, 24, 22, 0x1_01_34_45_81_12_81_92_23_92_a3_34_a3⟩,
    ⟨21541, 24, 19, 0x1_01_34_12_45_81_92_23_92_81_a3_34_a3⟩,
    ⟨21601, 18, 16, 0x1_01_34_12_45_92_23_92_a3_34_a3⟩,
    ⟨12961, 24, 22, 0x1_01_23_12_34_92_a3_34_a3_92_b2_25_b2⟩,
    ⟨13089, 18, 16, 0x1_01_23_12_34_92_25_92_b2_25_b2⟩,
    ⟨21154, 24, 21, 0x1_12_34_23_45_81_12_81_92_a3_34_a3_92⟩,
    ⟨23170, 24, 20, 0x1_23_45_25_34_81_12_81_92_a3_34_a3_92⟩,
    ⟨22690, 24, 21, 0x1_12_34_25_45_81_12_81_92_a3_34_a3_92⟩,
    ⟨15396, 30, 25, 0x1_12_34_25_81_92_23_92_81_a3_34_a3_b2_25_b2⟩,
    ⟨22852, 30, 27, 0x1_25_34_45_81_92_23_92_81_92_23_92_92_25_92⟩,
    ⟨23300, 24, 20, 0x1_23_45_25_34_81_92_23_92_81_92_25_92⟩,
    ⟨23080, 24, 20, 0x1_12_34_23_45_25_81_92_a3_34_a3_92_81⟩,
    ⟨6824, 36, 33, 0x1_12_34_23_25_81_92_a3_34_a3_92_81_92_a3_34_a3_92⟩,
    ⟨19112, 36, 33, 0x1_12_45_23_25_81_92_a3_34_a3_92_81_92_a3_34_a3_92⟩,
    ⟨14374, 30, 25, 0x1_12_34_25_81_12_81_81_92_23_92_81_b2_25_b2⟩,
    ⟨23120, 24, 20, 0x1_23_45_25_34_81_92_25_92_81_92_23_92⟩,
    ⟨21328, 30, 27, 0x1_23_45_34_81_92_25_92_81_92_23_92_92_25_92⟩,
    ⟨24179, 40, 36, 0x1_01_23_45_12_34_25_81_12_81_81_92_25_92_81_92_23_92_a3_34_a3⟩]

end StabilizerPrep.Bundled
