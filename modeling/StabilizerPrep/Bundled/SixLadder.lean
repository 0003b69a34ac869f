import StabilizerPrep.Bundled.Row

/-!
# The table for six qubits on the device ladder

The bundled template table, one row for each class.
-/

namespace StabilizerPrep.Bundled

set_option autoImplicit false

set_option maxRecDepth 20000 in
def sixLadder : List Row :=
  [⟨0, 0, 0, 0x1⟩,
    ⟨1, 1, 1, 0x1_01⟩,
    ⟨2, 7, 7, 0x1_81_12_81⟩,
    ⟨4, 13, 13, 0x1_81_92_23_92_81⟩,
    ⟨8, 7, 7, 0x1_81_14_81⟩,
    ⟨16, 1, 1, 0x1_05⟩,
    ⟨32, 1, 1, 0x1_12⟩,
    ⟨64, 7, 7, 0x1_92_23_92⟩,
    ⟨128, 1, 1, 0x1_14⟩,
    ⟨256, 7, 7, 0x1_90_05_90⟩,
    ⟨512, 1, 1, 0x1_23⟩,
    ⟨1024, 7, 7, 0x1_a1_14_a1⟩,
    ⟨2048, 13, 13, 0x1_a1_90_05_90_a1⟩,
    ⟨4096, 1, 1, 0x1_34⟩,
    ⟨8192, 7, 7, 0x1_b4_45_b4⟩,
    ⟨16384, 1, 1, 0x1_45⟩,
    ⟨16896, 2, 1, 0x1_23_45⟩,
    ⟨9216, 14, 11, 0x1_a1_14_a1_b4_45_b4⟩,
    ⟨6144, 14, 13, 0x1_34_a1_90_05_90_a1⟩,
    ⟨16448, 8, 7, 0x1_45_92_23_92⟩,
    ⟨8320, 8, 8, 0x1_14_b4_45_b4⟩,
    ⟨4352, 8, 7, 0x1_34_90_05_90⟩,
    ⟨16416, 2, 1, 0x1_12_45⟩,
    ⟨2176, 14, 14, 0x1_14_a1_90_05_90_a1⟩,
    ⟨1280, 14, 14, 0x1_90_05_90_a1_14_a1⟩,
    ⟨8224, 8, 7, 0x1_12_b4_45_b4⟩,
    ⟨2112, 20, 20, 0x1_92_23_92_a1_90_05_90_a1⟩,
    ⟨768, 8, 7, 0x1_23_90_05_90⟩,
    ⟨4128, 2, 1, 0x1_12_34⟩,
    ⟨1088, 14, 14, 0x1_92_23_92_a1_14_a1⟩,
    ⟨640, 2, 1, 0x1_14_23⟩,
    ⟨16388, 14, 13, 0x1_45_81_92_23_92_81⟩,
    ⟨8200, 14, 11, 0x1_81_14_81_b4_45_b4⟩,
    ⟨4112, 2, 1, 0x1_05_34⟩,
    ⟨16386, 8, 7, 0x1_45_81_12_81⟩,
    ⟨2056, 20, 20, 0x1_81_14_81_a1_90_05_90_a1⟩,
    ⟨1040, 8, 7, 0x1_05_a1_14_a1⟩,
    ⟨8194, 14, 7, 0x1_81_12_81_b4_45_b4⟩,
    ⟨2052, 26, 26, 0x1_81_92_23_92_81_a1_90_05_90_a1⟩,
    ⟨528, 2, 1, 0x1_05_23⟩,
    ⟨4098, 8, 7, 0x1_34_81_12_81⟩,
    ⟨1028, 20, 20, 0x1_81_92_23_92_81_a1_14_a1⟩,
    ⟨520, 8, 7, 0x1_23_81_14_81⟩,
    ⟨16385, 2, 1, 0x1_01_45⟩,
    ⟨264, 14, 14, 0x1_81_14_81_90_05_90⟩,
    ⟨144, 2, 1, 0x1_05_14⟩,
    ⟨8193, 8, 7, 0x1_01_b4_45_b4⟩,
    ⟨260, 20, 20, 0x1_81_92_23_92_81_90_05_90⟩,
    ⟨80, 8, 7, 0x1_05_92_23_92⟩,
    ⟨4097, 2, 1, 0x1_01_34⟩,
    ⟨132, 14, 14, 0x1_14_81_92_23_92_81⟩,
    ⟨72, 14, 14, 0x1_81_14_81_92_23_92⟩,
    ⟨2049, 14, 14, 0x1_01_a1_90_05_90_a1⟩,
    ⟨258, 14, 14, 0x1_81_12_81_90_05_90⟩,
    ⟨48, 2, 1, 0x1_05_12⟩,
    ⟨1025, 8, 8, 0x1_01_a1_14_a1⟩,
    ⟨130, 8, 8, 0x1_14_81_12_81⟩,
    ⟨40, 8, 8, 0x1_12_81_14_81⟩,
    ⟨513, 2, 1, 0x1_01_23⟩,
    ⟨66, 14, 14, 0x1_81_12_81_92_23_92⟩,
    ⟨36, 14, 14, 0x1_12_81_92_23_92_81⟩,
    ⟨16897, 3, 1, 0x1_01_23_45⟩,
    ⟨9217, 15, 12, 0x1_01_a1_14_a1_b4_45_b4⟩,
    ⟨6145, 15, 14, 0x1_01_34_a1_90_05_90_a1⟩,
    ⟨16450, 15, 14, 0x1_45_81_12_81_92_23_92⟩,
    ⟨8322, 15, 8, 0x1_14_81_12_81_b4_45_b4⟩,
    ⟨4354, 15, 14, 0x1_34_81_12_81_90_05_90⟩,
    ⟨16420, 15, 14, 0x1_12_45_81_92_23_92_81⟩,
    ⟨2180, 27, 27, 0x1_14_81_92_23_92_81_a1_90_05_90_a1⟩,
    ⟨1284, 27, 27, 0x1_81_92_23_92_81_90_05_90_a1_14_a1⟩,
    ⟨8232, 15, 12, 0x1_12_81_14_81_b4_45_b4⟩,
    ⟨2120, 27, 27, 0x1_81_14_81_92_23_92_a1_90_05_90_a1⟩,
    ⟨776, 15, 14, 0x1_23_81_14_81_90_05_90⟩,
    ⟨4144, 3, 1, 0x1_05_12_34⟩,
    ⟨1104, 15, 14, 0x1_05_92_23_92_a1_14_a1⟩,
    ⟨656, 3, 1, 0x1_05_14_23⟩,
    ⟨33, 2, 2, 0x1_01_12⟩,
    ⟨65, 8, 8, 0x1_01_92_23_92⟩,
    ⟨129, 2, 2, 0x1_01_14⟩,
    ⟨17, 2, 2, 0x1_01_05⟩,
    ⟨514, 8, 7, 0x1_23_81_12_81⟩,
    ⟨10, 14, 14, 0x1_81_12_81_81_14_81⟩,
    ⟨18, 8, 8, 0x1_05_81_12_81⟩,
    ⟨4104, 8, 7, 0x1_34_81_14_81⟩,
    ⟨8208, 8, 7, 0x1_05_b4_45_b4⟩,
    ⟨16400, 2, 2, 0x1_05_45⟩,
    ⟨544, 2, 2, 0x1_12_23⟩,
    ⟨160, 2, 2, 0x1_12_14⟩,
    ⟨288, 8, 8, 0x1_12_90_05_90⟩,
    ⟨4224, 2, 2, 0x1_14_34⟩,
    ⟨8448, 14, 8, 0x1_90_05_90_b4_45_b4⟩,
    ⟨16512, 2, 2, 0x1_14_45⟩,
    ⟨4608, 2, 2, 0x1_23_34⟩,
    ⟨8704, 8, 8, 0x1_23_b4_45_b4⟩,
    ⟨17408, 8, 7, 0x1_45_a1_14_a1⟩,
    ⟨20480, 2, 2, 0x1_34_45⟩,
    ⟨20512, 3, 2, 0x1_12_34_45⟩,
    ⟨17472, 15, 14, 0x1_45_92_23_92_a1_14_a1⟩,
    ⟨8832, 9, 8, 0x1_14_23_b4_45_b4⟩,
    ⟨4864, 9, 7, 0x1_23_34_90_05_90⟩,
    ⟨17024, 3, 2, 0x1_14_23_45⟩,
    ⟨9280, 21, 18, 0x1_92_23_92_a1_14_a1_b4_45_b4⟩,
    ⟨6272, 15, 14, 0x1_14_34_a1_90_05_90_a1⟩,
    ⟨4384, 9, 8, 0x1_12_34_90_05_90⟩,
    ⟨8352, 9, 9, 0x1_12_14_b4_45_b4⟩,
    ⟨16928, 3, 2, 0x1_12_45_23⟩,
    ⟨16912, 3, 2, 0x1_05_23_45⟩,
    ⟨9232, 15, 11, 0x1_05_a1_14_a1_b4_45_b4⟩,
    ⟨6152, 21, 20, 0x1_34_81_14_81_a1_90_05_90_a1⟩,
    ⟨20482, 9, 7, 0x1_34_45_81_12_81⟩,
    ⟨4114, 9, 8, 0x1_05_34_81_12_81⟩,
    ⟨8202, 21, 18, 0x1_81_12_81_81_14_81_b4_45_b4⟩,
    ⟨17412, 21, 20, 0x1_45_81_92_23_92_81_a1_14_a1⟩,
    ⟨16898, 9, 7, 0x1_23_45_81_12_81⟩,
    ⟨8712, 15, 11, 0x1_23_81_14_81_b4_45_b4⟩,
    ⟨4624, 3, 2, 0x1_05_23_34⟩,
    ⟨4113, 3, 2, 0x1_01_34_05⟩,
    ⟨8321, 9, 9, 0x1_01_14_b4_45_b4⟩,
    ⟨16516, 15, 14, 0x1_14_45_81_92_23_92_81⟩,
    ⟨16464, 9, 7, 0x1_05_45_92_23_92⟩,
    ⟨16449, 9, 8, 0x1_01_45_92_23_92⟩,
    ⟨8456, 21, 15, 0x1_81_14_81_90_05_90_b4_45_b4⟩,
    ⟨8336, 9, 8, 0x1_05_14_b4_45_b4⟩,
    ⟨4240, 3, 2, 0x1_05_14_34⟩,
    ⟨4360, 15, 14, 0x1_34_81_14_81_90_05_90⟩,
    ⟨20481, 3, 2, 0x1_01_34_45⟩,
    ⟨16417, 3, 2, 0x1_01_45_12⟩,
    ⟨296, 15, 15, 0x1_12_81_14_81_90_05_90⟩,
    ⟨146, 9, 8, 0x1_05_14_81_12_81⟩,
    ⟨1041, 9, 8, 0x1_01_05_a1_14_a1⟩,
    ⟨176, 3, 2, 0x1_05_12_14⟩,
    ⟨266, 21, 21, 0x1_81_12_81_81_14_81_90_05_90⟩,
    ⟨2177, 15, 15, 0x1_01_14_a1_90_05_90_a1⟩,
    ⟨17409, 9, 8, 0x1_01_45_a1_14_a1⟩,
    ⟨16514, 9, 8, 0x1_14_45_81_12_81⟩,
    ⟨16432, 3, 2, 0x1_05_12_45⟩,
    ⟨560, 3, 2, 0x1_05_12_23⟩,
    ⟨770, 15, 14, 0x1_23_81_12_81_90_05_90⟩,
    ⟨2113, 21, 21, 0x1_01_92_23_92_a1_90_05_90_a1⟩,
    ⟨8225, 9, 7, 0x1_01_12_b4_45_b4⟩,
    ⟨8705, 9, 8, 0x1_01_23_b4_45_b4⟩,
    ⟨8450, 21, 15, 0x1_81_12_81_90_05_90_b4_45_b4⟩,
    ⟨292, 21, 21, 0x1_12_81_92_23_92_81_90_05_90⟩,
    ⟨8240, 9, 7, 0x1_05_12_b4_45_b4⟩,
    ⟨82, 15, 15, 0x1_05_81_12_81_92_23_92⟩,
    ⟨529, 3, 2, 0x1_01_23_05⟩,
    ⟨4609, 3, 2, 0x1_01_23_34⟩,
    ⟨4226, 9, 8, 0x1_14_34_81_12_81⟩,
    ⟨164, 15, 15, 0x1_12_14_81_92_23_92_81⟩,
    ⟨552, 9, 8, 0x1_12_23_81_14_81⟩,
    ⟨4136, 9, 8, 0x1_12_34_81_14_81⟩,
    ⟨74, 21, 21, 0x1_81_12_81_81_14_81_92_23_92⟩,
    ⟨642, 9, 8, 0x1_14_23_81_12_81⟩,
    ⟨641, 3, 2, 0x1_01_23_14⟩,
    ⟨1089, 15, 15, 0x1_01_92_23_92_a1_14_a1⟩,
    ⟨4129, 3, 2, 0x1_01_34_12⟩,
    ⟨20513, 4, 2, 0x1_01_34_12_45⟩,
    ⟨17473, 16, 15, 0x1_01_45_92_23_92_a1_14_a1⟩,
    ⟨8833, 10, 9, 0x1_01_23_14_b4_45_b4⟩,
    ⟨4625, 4, 2, 0x1_01_23_05_34⟩,
    ⟨17026, 10, 8, 0x1_14_23_45_81_12_81⟩,
    ⟨8458, 28, 22, 0x1_81_12_81_81_14_81_90_05_90_b4_45_b4⟩,
    ⟨4242, 10, 8, 0x1_05_14_34_81_12_81⟩,
    ⟨4392, 16, 15, 0x1_12_34_81_14_81_90_05_90⟩,
    ⟨8368, 10, 9, 0x1_05_12_14_b4_45_b4⟩,
    ⟨16944, 4, 2, 0x1_05_12_23_45⟩,
    ⟨20992, 3, 2, 0x1_23_45_34⟩,
    ⟨13312, 15, 11, 0x1_34_a1_14_a1_b4_45_b4⟩,
    ⟨22528, 15, 13, 0x1_34_45_a1_90_05_90_a1⟩,
    ⟨20544, 9, 7, 0x1_34_45_92_23_92⟩,
    ⟨12416, 9, 9, 0x1_14_34_b4_45_b4⟩,
    ⟨20736, 9, 7, 0x1_34_45_90_05_90⟩,
    ⟨16544, 3, 2, 0x1_12_45_14⟩,
    ⟨18560, 15, 14, 0x1_14_45_a1_90_05_90_a1⟩,
    ⟨17664, 15, 14, 0x1_45_90_05_90_a1_14_a1⟩,
    ⟨8736, 9, 9, 0x1_12_23_b4_45_b4⟩,
    ⟨8992, 16, 9, 0x1_12_23_90_05_90_b4_45_b4⟩,
    ⟨800, 9, 8, 0x1_12_23_90_05_90⟩,
    ⟨4256, 3, 2, 0x1_12_34_14⟩,
    ⟨4768, 4, 2, 0x1_12_34_14_23⟩,
    ⟨672, 3, 2, 0x1_12_14_23⟩,
    ⟨20484, 15, 13, 0x1_34_45_81_92_23_92_81⟩,
    ⟨12296, 15, 11, 0x1_34_81_14_81_b4_45_b4⟩,
    ⟨20496, 3, 2, 0x1_05_34_45⟩,
    ⟨16402, 9, 8, 0x1_05_45_81_12_81⟩,
    ⟨17426, 16, 15, 0x1_05_45_81_12_81_a1_14_a1⟩,
    ⟨17424, 9, 7, 0x1_05_45_a1_14_a1⟩,
    ⟨8210, 15, 8, 0x1_05_81_12_81_b4_45_b4⟩,
    ⟨8722, 16, 8, 0x1_05_23_81_12_81_b4_45_b4⟩,
    ⟨530, 9, 8, 0x1_05_23_81_12_81⟩,
    ⟨4610, 9, 7, 0x1_23_34_81_12_81⟩,
    ⟨4618, 16, 14, 0x1_23_34_81_12_81_81_14_81⟩,
    ⟨4616, 9, 7, 0x1_23_34_81_14_81⟩,
    ⟨16401, 3, 2, 0x1_01_45_05⟩,
    ⟨16529, 4, 2, 0x1_01_45_05_14⟩,
    ⟨145, 3, 2, 0x1_01_05_14⟩,
    ⟨8209, 9, 7, 0x1_01_05_b4_45_b4⟩,
    ⟨8273, 16, 12, 0x1_01_05_92_23_92_b4_45_b4⟩,
    ⟨81, 9, 8, 0x1_01_05_92_23_92⟩,
    ⟨4225, 3, 2, 0x1_01_34_14⟩,
    ⟨4228, 15, 14, 0x1_14_34_81_92_23_92_81⟩,
    ⟨4168, 15, 14, 0x1_34_81_14_81_92_23_92⟩,
    ⟨2065, 15, 14, 0x1_01_05_a1_90_05_90_a1⟩,
    ⟨259, 15, 15, 0x1_01_81_12_81_90_05_90⟩,
    ⟨49, 3, 2, 0x1_01_05_12⟩,
    ⟨1057, 9, 9, 0x1_01_12_a1_14_a1⟩,
    ⟨131, 9, 9, 0x1_01_14_81_12_81⟩,
    ⟨41, 9, 9, 0x1_01_12_81_14_81⟩,
    ⟨545, 3, 2, 0x1_01_23_12⟩,
    ⟨578, 15, 14, 0x1_23_81_12_81_92_23_92⟩,
    ⟨548, 15, 14, 0x1_12_23_81_92_23_92_81⟩,
    ⟨20993, 4, 2, 0x1_01_23_45_34⟩,
    ⟨9729, 16, 12, 0x1_01_23_a1_14_a1_b4_45_b4⟩,
    ⟨6657, 16, 14, 0x1_01_23_34_a1_90_05_90_a1⟩,
    ⟨20546, 16, 14, 0x1_34_45_81_12_81_92_23_92⟩,
    ⟨12418, 16, 9, 0x1_14_34_81_12_81_b4_45_b4⟩,
    ⟨20738, 16, 14, 0x1_34_45_81_12_81_90_05_90⟩,
    ⟨16548, 16, 15, 0x1_12_45_14_81_92_23_92_81⟩,
    ⟨18564, 28, 27, 0x1_14_45_81_92_23_92_81_a1_90_05_90_a1⟩,
    ⟨17668, 28, 27, 0x1_45_81_92_23_92_81_90_05_90_a1_14_a1⟩,
    ⟨8744, 16, 12, 0x1_12_23_81_14_81_b4_45_b4⟩,
    ⟨9000, 23, 16, 0x1_12_23_81_14_81_90_05_90_b4_45_b4⟩,
    ⟨808, 16, 15, 0x1_12_23_81_14_81_90_05_90⟩,
    ⟨4272, 4, 2, 0x1_05_12_34_14⟩,
    ⟨4784, 5, 2, 0x1_05_12_34_14_23⟩,
    ⟨688, 4, 2, 0x1_05_12_14_23⟩,
    ⟨16436, 16, 14, 0x1_05_12_45_81_92_23_92_81⟩,
    ⟨8248, 16, 12, 0x1_05_12_81_14_81_b4_45_b4⟩,
    ⟨20528, 4, 2, 0x1_05_12_34_45⟩,
    ⟨16466, 16, 15, 0x1_05_45_81_12_81_92_23_92⟩,
    ⟨17490, 23, 22, 0x1_05_45_81_12_81_92_23_92_a1_14_a1⟩,
    ⟨17488, 16, 14, 0x1_05_45_92_23_92_a1_14_a1⟩,
    ⟨8338, 16, 8, 0x1_05_14_81_12_81_b4_45_b4⟩,
    ⟨8850, 17, 8, 0x1_05_14_23_81_12_81_b4_45_b4⟩,
    ⟨658, 10, 8, 0x1_05_14_23_81_12_81⟩,
    ⟨4866, 16, 14, 0x1_23_34_81_12_81_90_05_90⟩,
    ⟨4874, 23, 21, 0x1_23_34_81_12_81_81_14_81_90_05_90⟩,
    ⟨4872, 16, 14, 0x1_23_34_81_14_81_90_05_90⟩,
    ⟨16913, 4, 2, 0x1_01_23_45_05⟩,
    ⟨17041, 5, 2, 0x1_01_23_45_05_14⟩,
    ⟨657, 4, 2, 0x1_01_23_05_14⟩,
    ⟨9233, 16, 12, 0x1_01_05_a1_14_a1_b4_45_b4⟩,
    ⟨9297, 23, 19, 0x1_01_05_92_23_92_a1_14_a1_b4_45_b4⟩,
    ⟨1105, 16, 15, 0x1_01_05_92_23_92_a1_14_a1⟩,
    ⟨6273, 16, 15, 0x1_01_34_14_a1_90_05_90_a1⟩,
    ⟨6276, 28, 27, 0x1_14_34_81_92_23_92_81_a1_90_05_90_a1⟩,
    ⟨6216, 28, 27, 0x1_34_81_14_81_92_23_92_a1_90_05_90_a1⟩,
    ⟨6161, 16, 14, 0x1_01_34_05_a1_90_05_90_a1⟩,
    ⟨4355, 16, 15, 0x1_01_34_81_12_81_90_05_90⟩,
    ⟨4145, 4, 2, 0x1_01_34_05_12⟩,
    ⟨9249, 16, 13, 0x1_01_12_a1_14_a1_b4_45_b4⟩,
    ⟨8323, 16, 9, 0x1_01_14_81_12_81_b4_45_b4⟩,
    ⟨8233, 16, 13, 0x1_01_12_81_14_81_b4_45_b4⟩,
    ⟨16929, 4, 2, 0x1_01_23_45_12⟩,
    ⟨16962, 16, 14, 0x1_23_45_81_12_81_92_23_92⟩,
    ⟨16932, 16, 14, 0x1_12_45_23_81_92_23_92_81⟩,
    ⟨21504, 9, 7, 0x1_34_45_a1_14_a1⟩,
    ⟨20608, 3, 3, 0x1_14_34_45⟩,
    ⟨17536, 9, 8, 0x1_14_45_a1_14_a1⟩,
    ⟨8768, 15, 12, 0x1_23_92_23_92_b4_45_b4⟩,
    ⟨4672, 9, 8, 0x1_23_34_92_23_92⟩,
    ⟨20488, 9, 7, 0x1_34_45_81_14_81⟩,
    ⟨18448, 15, 13, 0x1_05_45_a1_90_05_90_a1⟩,
    ⟨10256, 21, 13, 0x1_05_a1_90_05_90_a1_b4_45_b4⟩,
    ⟨4612, 15, 13, 0x1_23_34_81_92_23_92_81⟩,
    ⟨16520, 9, 8, 0x1_14_45_81_14_81⟩,
    ⟨8464, 15, 9, 0x1_05_90_05_90_b4_45_b4⟩,
    ⟨4232, 9, 8, 0x1_14_34_81_14_81⟩,
    ⟨19, 9, 9, 0x1_01_05_81_12_81⟩,
    ⟨161, 3, 3, 0x1_01_12_14⟩,
    ⟨546, 9, 8, 0x1_12_23_81_12_81⟩,
    ⟨21505, 10, 8, 0x1_01_34_45_a1_14_a1⟩,
    ⟨20610, 10, 8, 0x1_14_34_45_81_12_81⟩,
    ⟨17540, 22, 21, 0x1_14_45_81_92_23_92_81_a1_14_a1⟩,
    ⟨8776, 22, 18, 0x1_23_81_14_81_92_23_92_b4_45_b4⟩,
    ⟨4688, 10, 8, 0x1_05_23_34_92_23_92⟩,
    ⟨20520, 10, 8, 0x1_12_34_45_81_14_81⟩,
    ⟨18512, 22, 20, 0x1_05_45_92_23_92_a1_90_05_90_a1⟩,
    ⟨10384, 22, 14, 0x1_05_14_a1_90_05_90_a1_b4_45_b4⟩,
    ⟨4868, 22, 20, 0x1_23_34_81_92_23_92_81_90_05_90⟩,
    ⟨17032, 10, 8, 0x1_14_23_45_81_14_81⟩,
    ⟨9488, 22, 19, 0x1_05_90_05_90_a1_14_a1_b4_45_b4⟩,
    ⟨6280, 22, 21, 0x1_14_34_81_14_81_a1_90_05_90_a1⟩,
    ⟨4115, 10, 9, 0x1_01_34_05_81_12_81⟩,
    ⟨8353, 10, 10, 0x1_01_12_14_b4_45_b4⟩,
    ⟨16930, 10, 8, 0x1_12_45_23_81_12_81⟩,
    ⟨17056, 4, 2, 0x1_12_45_14_23⟩,
    ⟨12960, 11, 9, 0x1_12_34_14_23_b4_45_b4⟩,
    ⟨6304, 16, 15, 0x1_12_34_14_a1_90_05_90_a1⟩,
    ⟨21152, 5, 3, 0x1_12_34_14_23_45⟩,
    ⟨8864, 10, 9, 0x1_12_14_23_b4_45_b4⟩,
    ⟨4896, 10, 8, 0x1_12_34_23_90_05_90⟩,
    ⟨21024, 4, 2, 0x1_12_34_23_45⟩,
    ⟨6784, 16, 14, 0x1_14_23_34_a1_90_05_90_a1⟩,
    ⟨5024, 11, 9, 0x1_12_34_14_23_90_05_90⟩,
    ⟨12448, 10, 9, 0x1_12_34_14_b4_45_b4⟩,
    ⟨6816, 17, 15, 0x1_12_34_14_23_a1_90_05_90_a1⟩,
    ⟨21248, 10, 7, 0x1_23_45_34_90_05_90⟩,
    ⟨20768, 10, 8, 0x1_12_34_45_90_05_90⟩,
    ⟨25664, 22, 18, 0x1_45_92_23_92_a1_14_a1_b4_45_b4⟩,
    ⟨25216, 10, 9, 0x1_14_23_45_b4_45_b4⟩,
    ⟨16914, 10, 8, 0x1_05_23_45_81_12_81⟩,
    ⟨9234, 22, 19, 0x1_05_81_12_81_a1_14_a1_b4_45_b4⟩,
    ⟨12818, 17, 9, 0x1_05_23_34_81_12_81_b4_45_b4⟩,
    ⟨25106, 17, 9, 0x1_05_23_45_81_12_81_b4_45_b4⟩,
    ⟨8714, 22, 18, 0x1_23_81_12_81_81_14_81_b4_45_b4⟩,
    ⟨4626, 10, 8, 0x1_05_23_34_81_12_81⟩,
    ⟨20994, 10, 7, 0x1_23_45_34_81_12_81⟩,
    ⟨6664, 22, 20, 0x1_23_34_81_14_81_a1_90_05_90_a1⟩,
    ⟨13328, 16, 11, 0x1_05_34_a1_14_a1_b4_45_b4⟩,
    ⟨12298, 22, 18, 0x1_34_81_12_81_81_14_81_b4_45_b4⟩,
    ⟨22532, 28, 26, 0x1_34_45_81_92_23_92_81_a1_90_05_90_a1⟩,
    ⟨21008, 4, 3, 0x1_05_23_34_45⟩,
    ⟨20498, 10, 8, 0x1_05_34_45_81_12_81⟩,
    ⟨17428, 22, 21, 0x1_05_45_81_92_23_92_81_a1_14_a1⟩,
    ⟨25096, 16, 11, 0x1_23_45_81_14_81_b4_45_b4⟩,
    ⟨16465, 10, 8, 0x1_01_45_05_92_23_92⟩,
    ⟨8337, 10, 9, 0x1_01_05_14_b4_45_b4⟩,
    ⟨20625, 5, 3, 0x1_01_34_05_14_45⟩,
    ⟨16517, 16, 15, 0x1_01_45_14_81_92_23_92_81⟩,
    ⟨24721, 11, 9, 0x1_01_45_05_14_b4_45_b4⟩,
    ⟨4241, 4, 2, 0x1_01_34_05_14⟩,
    ⟨20545, 10, 8, 0x1_01_34_45_92_23_92⟩,
    ⟨12552, 22, 15, 0x1_34_81_14_81_90_05_90_b4_45_b4⟩,
    ⟨12432, 10, 9, 0x1_05_14_34_b4_45_b4⟩,
    ⟨12417, 10, 9, 0x1_01_34_14_b4_45_b4⟩,
    ⟨16533, 17, 15, 0x1_01_45_05_14_81_92_23_92_81⟩,
    ⟨20560, 10, 7, 0x1_05_34_45_92_23_92⟩,
    ⟨20497, 4, 3, 0x1_01_34_05_45⟩,
    ⟨16532, 16, 14, 0x1_05_14_45_81_92_23_92_81⟩,
    ⟨16593, 11, 9, 0x1_01_45_05_14_92_23_92⟩,
    ⟨16433, 4, 2, 0x1_01_45_05_12⟩,
    ⟨2193, 16, 15, 0x1_01_05_14_a1_90_05_90_a1⟩,
    ⟨17553, 11, 9, 0x1_01_45_05_14_a1_14_a1⟩,
    ⟨16515, 10, 9, 0x1_01_45_14_81_12_81⟩,
    ⟨18577, 17, 15, 0x1_01_45_05_14_a1_90_05_90_a1⟩,
    ⟨1073, 10, 9, 0x1_01_05_12_a1_14_a1⟩,
    ⟨17441, 10, 9, 0x1_01_45_12_a1_14_a1⟩,
    ⟨298, 22, 22, 0x1_12_81_12_81_81_14_81_90_05_90⟩,
    ⟨178, 10, 9, 0x1_05_12_14_81_12_81⟩,
    ⟨18561, 16, 15, 0x1_01_45_14_a1_90_05_90_a1⟩,
    ⟨16531, 11, 9, 0x1_01_45_05_14_81_12_81⟩,
    ⟨16560, 4, 3, 0x1_05_12_14_45⟩,
    ⟨17425, 10, 8, 0x1_01_45_05_a1_14_a1⟩,
    ⟨16530, 10, 8, 0x1_05_14_45_81_12_81⟩,
    ⟨16561, 5, 3, 0x1_01_45_05_12_14⟩,
    ⟨8241, 10, 7, 0x1_01_05_12_b4_45_b4⟩,
    ⟨2129, 22, 21, 0x1_01_05_92_23_92_a1_90_05_90_a1⟩,
    ⟨771, 16, 15, 0x1_01_23_81_12_81_90_05_90⟩,
    ⟨8451, 22, 16, 0x1_01_81_12_81_90_05_90_b4_45_b4⟩,
    ⟨2085, 28, 28, 0x1_01_12_81_92_23_92_81_a1_90_05_90_a1⟩,
    ⟨561, 4, 2, 0x1_01_23_05_12⟩,
    ⟨8737, 10, 8, 0x1_01_23_12_b4_45_b4⟩,
    ⟨804, 22, 21, 0x1_12_23_81_92_23_92_81_90_05_90⟩,
    ⟨114, 16, 15, 0x1_05_12_81_12_81_92_23_92⟩,
    ⟨8723, 17, 9, 0x1_01_23_05_81_12_81_b4_45_b4⟩,
    ⟨8962, 22, 15, 0x1_23_81_12_81_90_05_90_b4_45_b4⟩,
    ⟨8752, 10, 9, 0x1_05_12_23_b4_45_b4⟩,
    ⟨8721, 10, 8, 0x1_01_23_05_b4_45_b4⟩,
    ⟨8274, 22, 19, 0x1_05_81_12_81_92_23_92_b4_45_b4⟩,
    ⟨8754, 17, 9, 0x1_05_12_23_81_12_81_b4_45_b4⟩,
    ⟨4137, 10, 9, 0x1_01_34_12_81_14_81⟩,
    ⟨1091, 22, 22, 0x1_01_81_12_81_92_23_92_a1_14_a1⟩,
    ⟨643, 10, 9, 0x1_01_23_14_81_12_81⟩,
    ⟨4227, 10, 9, 0x1_01_34_14_81_12_81⟩,
    ⟨4772, 17, 15, 0x1_12_34_14_23_81_92_23_92_81⟩,
    ⟨553, 10, 9, 0x1_01_23_12_81_14_81⟩,
    ⟨4641, 4, 2, 0x1_01_23_12_34⟩,
    ⟨676, 16, 15, 0x1_12_14_23_81_92_23_92_81⟩,
    ⟨4776, 11, 9, 0x1_12_34_14_23_81_14_81⟩,
    ⟨4769, 5, 3, 0x1_01_23_12_34_14⟩,
    ⟨4738, 10, 8, 0x1_14_23_34_81_12_81⟩,
    ⟨4648, 10, 8, 0x1_12_34_23_81_14_81⟩,
    ⟨4737, 4, 3, 0x1_01_23_14_34⟩,
    ⟨4770, 11, 9, 0x1_12_34_14_23_81_12_81⟩,
    ⟨4260, 16, 15, 0x1_12_34_14_81_92_23_92_81⟩,
    ⟨21280, 11, 8, 0x1_12_34_23_45_90_05_90⟩,
    ⟨21010, 11, 8, 0x1_05_23_34_45_81_12_81⟩,
    ⟨20561, 11, 8, 0x1_01_34_05_45_92_23_92⟩,
    ⟨16562, 11, 9, 0x1_05_12_14_45_81_12_81⟩,
    ⟨8753, 11, 8, 0x1_01_23_05_12_b4_45_b4⟩,
    ⟨4649, 11, 9, 0x1_01_23_12_34_81_14_81⟩,
    ⟨20640, 4, 3, 0x1_12_34_14_45⟩,
    ⟨21568, 16, 14, 0x1_34_45_92_23_92_a1_14_a1⟩,
    ⟨12928, 10, 9, 0x1_14_23_34_b4_45_b4⟩,
    ⟨13056, 16, 9, 0x1_23_34_90_05_90_b4_45_b4⟩,
    ⟨21120, 4, 3, 0x1_14_23_34_45⟩,
    ⟨23200, 18, 15, 0x1_12_34_14_23_45_a1_90_05_90_a1⟩,
    ⟨22656, 16, 14, 0x1_14_34_45_a1_90_05_90_a1⟩,
    ⟨4512, 10, 9, 0x1_12_34_14_90_05_90⟩,
    ⟨8608, 16, 10, 0x1_12_14_90_05_90_b4_45_b4⟩,
    ⟨21056, 10, 8, 0x1_23_45_34_92_23_92⟩,
    ⟨21000, 10, 7, 0x1_23_45_34_81_14_81⟩,
    ⟨25616, 16, 11, 0x1_05_45_a1_14_a1_b4_45_b4⟩,
    ⟨22536, 22, 20, 0x1_34_45_81_14_81_a1_90_05_90_a1⟩,
    ⟨12802, 16, 9, 0x1_23_34_81_12_81_b4_45_b4⟩,
    ⟨22544, 16, 13, 0x1_05_34_45_a1_90_05_90_a1⟩,
    ⟨9730, 22, 18, 0x1_23_81_12_81_a1_14_a1_b4_45_b4⟩,
    ⟨21508, 22, 20, 0x1_34_45_81_92_23_92_81_a1_14_a1⟩,
    ⟨20996, 16, 13, 0x1_23_45_34_81_92_23_92_81⟩,
    ⟨12808, 16, 11, 0x1_23_34_81_14_81_b4_45_b4⟩,
    ⟨21520, 10, 7, 0x1_05_34_45_a1_14_a1⟩,
    ⟨20752, 10, 8, 0x1_05_34_45_90_05_90⟩,
    ⟨8577, 16, 10, 0x1_01_14_90_05_90_b4_45_b4⟩,
    ⟨20612, 16, 14, 0x1_14_34_45_81_92_23_92_81⟩,
    ⟨24656, 16, 11, 0x1_05_45_92_23_92_b4_45_b4⟩,
    ⟨16577, 10, 9, 0x1_01_45_14_92_23_92⟩,
    ⟨20629, 18, 15, 0x1_01_34_05_14_45_81_92_23_92_81⟩,
    ⟨24720, 10, 9, 0x1_05_14_45_b4_45_b4⟩,
    ⟨20624, 4, 3, 0x1_05_14_34_45⟩,
    ⟨20744, 16, 14, 0x1_34_45_81_14_81_90_05_90⟩,
    ⟨20609, 4, 3, 0x1_01_34_14_45⟩,
    ⟨16545, 4, 3, 0x1_01_45_12_14⟩,
    ⟨297, 16, 16, 0x1_01_12_81_14_81_90_05_90⟩,
    ⟨147, 10, 9, 0x1_01_05_14_81_12_81⟩,
    ⟨17680, 16, 15, 0x1_05_45_90_05_90_a1_14_a1⟩,
    ⟨177, 4, 3, 0x1_01_05_12_14⟩,
    ⟨18609, 18, 16, 0x1_01_45_05_12_14_a1_90_05_90_a1⟩,
    ⟨2209, 16, 16, 0x1_01_12_14_a1_90_05_90_a1⟩,
    ⟨17537, 10, 9, 0x1_01_45_14_a1_14_a1⟩,
    ⟨16522, 16, 15, 0x1_14_45_81_12_81_81_14_81⟩,
    ⟨16688, 10, 8, 0x1_05_12_45_90_05_90⟩,
    ⟨562, 10, 8, 0x1_05_12_23_81_12_81⟩,
    ⟨802, 16, 15, 0x1_12_23_81_12_81_90_05_90⟩,
    ⟨2145, 22, 22, 0x1_01_12_92_23_92_a1_90_05_90_a1⟩,
    ⟨8211, 16, 9, 0x1_01_05_81_12_81_b4_45_b4⟩,
    ⟨8769, 16, 12, 0x1_01_23_92_23_92_b4_45_b4⟩,
    ⟨8466, 22, 16, 0x1_05_81_12_81_90_05_90_b4_45_b4⟩,
    ⟨293, 22, 22, 0x1_01_12_81_92_23_92_81_90_05_90⟩,
    ⟨8496, 16, 9, 0x1_05_12_90_05_90_b4_45_b4⟩,
    ⟨83, 16, 16, 0x1_01_05_81_12_81_92_23_92⟩,
    ⟨531, 10, 9, 0x1_01_23_05_81_12_81⟩,
    ⟨4673, 10, 8, 0x1_01_23_34_92_23_92⟩,
    ⟨4674, 16, 14, 0x1_23_34_81_12_81_92_23_92⟩,
    ⟨165, 16, 16, 0x1_01_12_14_81_92_23_92_81⟩,
    ⟨4680, 16, 14, 0x1_23_34_81_14_81_92_23_92⟩,
    ⟨4264, 10, 9, 0x1_12_34_14_81_14_81⟩,
    ⟨4773, 18, 16, 0x1_01_23_12_34_14_81_92_23_92_81⟩,
    ⟨674, 10, 9, 0x1_12_14_23_81_12_81⟩,
    ⟨673, 4, 3, 0x1_01_23_12_14⟩,
    ⟨1121, 16, 16, 0x1_01_12_92_23_92_a1_14_a1⟩,
    ⟨4257, 4, 3, 0x1_01_34_12_14⟩,
    ⟨21632, 10, 8, 0x1_14_34_45_a1_14_a1⟩,
    ⟨21512, 16, 14, 0x1_34_45_81_14_81_a1_14_a1⟩,
    ⟨20616, 10, 8, 0x1_14_34_45_81_14_81⟩,
    ⟨417, 10, 10, 0x1_01_12_14_90_05_90⟩,
    ⟨353, 16, 16, 0x1_01_12_92_23_92_90_05_90⟩,
    ⟨225, 10, 10, 0x1_01_12_14_92_23_92⟩,
    ⟨12978, 19, 9, 0x1_05_12_34_14_23_81_12_81_b4_45_b4⟩,
    ⟨17106, 18, 15, 0x1_05_14_23_45_81_12_81_92_23_92⟩,
    ⟨17076, 18, 15, 0x1_05_12_14_23_45_81_92_23_92_81⟩,
    ⟨9873, 18, 13, 0x1_01_23_05_14_a1_14_a1_b4_45_b4⟩,
    ⟨21169, 7, 3, 0x1_01_23_45_05_12_34_14⟩,
    ⟨8888, 18, 13, 0x1_05_12_14_23_81_14_81_b4_45_b4⟩,
    ⟨6801, 18, 15, 0x1_01_23_05_14_34_a1_90_05_90_a1⟩,
    ⟨21041, 6, 2, 0x1_01_23_45_05_12_34⟩,
    ⟨25129, 18, 13, 0x1_01_23_45_12_81_14_81_b4_45_b4⟩,
    ⟨5010, 18, 15, 0x1_05_14_23_34_81_12_81_90_05_90⟩,
    ⟨13361, 18, 13, 0x1_01_34_05_12_a1_14_a1_b4_45_b4⟩,
    ⟨12466, 18, 9, 0x1_05_12_34_14_81_12_81_b4_45_b4⟩,
    ⟨25235, 19, 9, 0x1_01_23_45_05_14_81_12_81_b4_45_b4⟩,
    ⟨25219, 18, 9, 0x1_01_23_45_14_81_12_81_b4_45_b4⟩,
    ⟨30265, 27, 20, 0x1_01_23_45_05_12_34_81_14_81_a1_14_a1_b4_45_b4⟩,
    ⟨17027, 11, 9, 0x1_01_23_45_14_81_12_81⟩,
    ⟨25745, 18, 13, 0x1_01_45_05_14_a1_14_a1_b4_45_b4⟩,
    ⟨6289, 17, 15, 0x1_01_34_05_14_a1_90_05_90_a1⟩,
    ⟨17475, 23, 22, 0x1_01_45_81_12_81_92_23_92_a1_14_a1⟩,
    ⟨8835, 17, 9, 0x1_01_23_14_81_12_81_b4_45_b4⟩,
    ⟨4867, 17, 15, 0x1_01_23_34_81_12_81_90_05_90⟩,
    ⟨20517, 17, 15, 0x1_01_34_12_45_81_92_23_92_81⟩,
    ⟨8851, 18, 9, 0x1_01_23_05_14_81_12_81_b4_45_b4⟩,
    ⟨23217, 20, 16, 0x1_01_23_45_05_12_34_14_a1_90_05_90_a1⟩,
    ⟨12329, 17, 13, 0x1_01_34_12_81_14_81_b4_45_b4⟩,
    ⟨17491, 24, 23, 0x1_01_45_05_81_12_81_92_23_92_a1_14_a1⟩,
    ⟨21137, 6, 3, 0x1_01_23_45_05_14_34⟩,
    ⟨20529, 5, 3, 0x1_01_34_05_12_45⟩,
    ⟨17489, 17, 15, 0x1_01_45_05_92_23_92_a1_14_a1⟩,
    ⟨8849, 11, 9, 0x1_01_23_05_14_b4_45_b4⟩,
    ⟨16945, 5, 2, 0x1_01_23_45_05_12⟩,
    ⟨9265, 17, 13, 0x1_01_05_12_a1_14_a1_b4_45_b4⟩,
    ⟨22673, 18, 15, 0x1_01_34_05_14_45_a1_90_05_90_a1⟩,
    ⟨21156, 18, 15, 0x1_12_34_14_23_45_81_92_23_92_81⟩,
    ⟨8745, 17, 13, 0x1_01_23_12_81_14_81_b4_45_b4⟩,
    ⟨4657, 5, 2, 0x1_01_23_05_12_34⟩,
    ⟨20547, 17, 15, 0x1_01_34_45_81_12_81_92_23_92⟩,
    ⟨9001, 24, 17, 0x1_01_23_12_81_14_81_90_05_90_b4_45_b4⟩,
    ⟨4785, 6, 3, 0x1_01_23_05_12_34_14⟩,
    ⟨12419, 17, 9, 0x1_01_34_14_81_12_81_b4_45_b4⟩,
    ⟨18565, 29, 28, 0x1_01_45_14_81_92_23_92_81_a1_90_05_90_a1⟩,
    ⟨4753, 5, 3, 0x1_01_23_05_14_34⟩,
    ⟨20739, 17, 15, 0x1_01_34_45_81_12_81_90_05_90⟩,
    ⟨25681, 24, 19, 0x1_01_45_05_92_23_92_a1_14_a1_b4_45_b4⟩,
    ⟨25233, 12, 9, 0x1_01_23_45_05_14_b4_45_b4⟩,
    ⟨16498, 17, 15, 0x1_05_12_45_81_12_81_92_23_92⟩,
    ⟨8370, 17, 9, 0x1_05_12_14_81_12_81_b4_45_b4⟩,
    ⟨4394, 23, 22, 0x1_12_34_81_12_81_81_14_81_90_05_90⟩,
    ⟨17060, 17, 15, 0x1_12_45_14_23_81_92_23_92_81⟩,
    ⟨12968, 18, 13, 0x1_12_34_14_23_81_14_81_b4_45_b4⟩,
    ⟨4274, 11, 9, 0x1_05_12_34_14_81_12_81⟩,
    ⟨21025, 5, 2, 0x1_01_23_45_12_34⟩,
    ⟨5032, 18, 16, 0x1_12_34_14_23_81_14_81_90_05_90⟩,
    ⟨4754, 11, 8, 0x1_05_14_23_34_81_12_81⟩,
    ⟨13345, 17, 13, 0x1_01_34_12_a1_14_a1_b4_45_b4⟩,
    ⟨21258, 24, 21, 0x1_23_45_34_81_12_81_81_14_81_90_05_90⟩,
    ⟨4786, 12, 9, 0x1_05_12_34_14_23_81_12_81⟩,
    ⟨22561, 17, 15, 0x1_01_34_12_45_a1_90_05_90_a1⟩,
    ⟨25234, 18, 9, 0x1_05_14_23_45_81_12_81_b4_45_b4⟩,
    ⟨9002, 30, 23, 0x1_12_23_81_12_81_81_14_81_90_05_90_b4_45_b4⟩,
    ⟨16948, 17, 14, 0x1_05_12_23_45_81_92_23_92_81⟩,
    ⟨12946, 18, 9, 0x1_05_14_23_34_81_12_81_b4_45_b4⟩,
    ⟨13066, 30, 22, 0x1_23_34_81_12_81_81_14_81_90_05_90_b4_45_b4⟩,
    ⟨17090, 17, 15, 0x1_14_23_45_81_12_81_92_23_92⟩,
    ⟨13096, 24, 16, 0x1_12_34_23_81_14_81_90_05_90_b4_45_b4⟩,
    ⟨12976, 12, 9, 0x1_05_12_34_14_23_b4_45_b4⟩,
    ⟨21153, 6, 3, 0x1_01_23_45_12_34_14⟩,
    ⟨4904, 17, 15, 0x1_12_34_23_81_14_81_90_05_90⟩,
    ⟨8880, 11, 9, 0x1_05_12_14_23_b4_45_b4⟩,
    ⟨6817, 18, 16, 0x1_01_23_12_34_14_a1_90_05_90_a1⟩,
    ⟨21250, 17, 14, 0x1_23_45_34_81_12_81_90_05_90⟩,
    ⟨12464, 11, 9, 0x1_05_12_34_14_b4_45_b4⟩,
    ⟨25665, 23, 19, 0x1_01_45_92_23_92_a1_14_a1_b4_45_b4⟩,
    ⟨25218, 17, 9, 0x1_14_23_45_81_12_81_b4_45_b4⟩,
    ⟨12584, 23, 16, 0x1_12_34_81_14_81_90_05_90_b4_45_b4⟩,
    ⟨8376, 17, 13, 0x1_05_12_14_81_14_81_b4_45_b4⟩,
    ⟨17618, 24, 22, 0x1_05_14_45_81_12_81_92_23_92_a1_14_a1⟩,
    ⟨17043, 12, 9, 0x1_01_23_45_05_14_81_12_81⟩,
    ⟨12962, 18, 9, 0x1_12_34_14_23_81_12_81_b4_45_b4⟩,
    ⟨6308, 29, 28, 0x1_12_34_14_81_92_23_92_81_a1_90_05_90_a1⟩,
    ⟨17072, 5, 3, 0x1_05_12_14_23_45⟩,
    ⟨9857, 17, 13, 0x1_01_23_14_a1_14_a1_b4_45_b4⟩,
    ⟨4906, 24, 22, 0x1_12_34_23_81_12_81_81_14_81_90_05_90⟩,
    ⟨21168, 6, 3, 0x1_05_12_34_14_23_45⟩,
    ⟨6785, 17, 15, 0x1_01_23_14_34_a1_90_05_90_a1⟩,
    ⟨5026, 18, 16, 0x1_12_34_14_23_81_12_81_90_05_90⟩,
    ⟨21040, 5, 2, 0x1_05_12_34_23_45⟩,
    ⟨25217, 11, 9, 0x1_01_23_45_14_b4_45_b4⟩,
    ⟨16595, 18, 16, 0x1_01_45_05_14_81_12_81_92_23_92⟩,
    ⟨16565, 18, 16, 0x1_01_45_05_12_14_81_92_23_92_81⟩,
    ⟨20657, 6, 4, 0x1_01_34_05_12_14_45⟩,
    ⟨17617, 18, 16, 0x1_01_45_05_14_92_23_92_a1_14_a1⟩,
    ⟨17042, 11, 8, 0x1_05_14_23_45_81_12_81⟩,
    ⟨4498, 17, 15, 0x1_05_14_34_81_12_81_90_05_90⟩,
    ⟨9329, 24, 20, 0x1_01_05_12_92_23_92_a1_14_a1_b4_45_b4⟩,
    ⟨17073, 6, 3, 0x1_01_23_45_05_12_14⟩,
    ⟨6673, 17, 14, 0x1_01_23_05_34_a1_90_05_90_a1⟩,
    ⟨8882, 18, 9, 0x1_05_12_14_23_81_12_81_b4_45_b4⟩,
    ⟨21173, 20, 16, 0x1_01_23_45_05_12_34_14_81_92_23_92_81⟩,
    ⟨9745, 17, 12, 0x1_01_23_05_a1_14_a1_b4_45_b4⟩,
    ⟨12434, 17, 9, 0x1_05_14_34_81_12_81_b4_45_b4⟩,
    ⟨8760, 17, 12, 0x1_05_12_23_81_14_81_b4_45_b4⟩,
    ⟨21009, 5, 2, 0x1_01_23_45_05_34⟩,
    ⟨16594, 17, 15, 0x1_05_14_45_81_12_81_92_23_92⟩,
    ⟨16564, 17, 15, 0x1_05_12_14_45_81_92_23_92_81⟩,
    ⟨24625, 11, 8, 0x1_01_45_05_12_b4_45_b4⟩,
    ⟨18513, 23, 21, 0x1_01_45_05_92_23_92_a1_90_05_90_a1⟩,
    ⟨10385, 23, 15, 0x1_01_05_14_a1_90_05_90_a1_b4_45_b4⟩,
    ⟨21649, 12, 9, 0x1_01_34_05_14_45_a1_14_a1⟩,
    ⟨17034, 17, 15, 0x1_14_23_45_81_12_81_81_14_81⟩,
    ⟨21653, 25, 22, 0x1_01_34_05_14_45_81_92_23_92_81_a1_14_a1⟩,
    ⟨21650, 18, 15, 0x1_05_14_34_45_81_12_81_a1_14_a1⟩,
    ⟨4393, 17, 16, 0x1_01_34_12_81_14_81_90_05_90⟩,
    ⟨8369, 11, 10, 0x1_01_05_12_14_b4_45_b4⟩,
    ⟨16946, 11, 8, 0x1_05_12_23_45_81_12_81⟩,
    ⟨17200, 11, 8, 0x1_05_12_23_45_90_05_90⟩,
    ⟨9520, 23, 19, 0x1_05_12_90_05_90_a1_14_a1_b4_45_b4⟩,
    ⟨6312, 23, 22, 0x1_12_34_14_81_14_81_a1_90_05_90_a1⟩,
    ⟨20611, 11, 9, 0x1_01_34_14_45_81_12_81⟩,
    ⟨4243, 11, 9, 0x1_01_34_05_14_81_12_81⟩,
    ⟨26801, 25, 16, 0x1_01_45_05_12_14_a1_90_05_90_a1_b4_45_b4⟩,
    ⟨17541, 23, 22, 0x1_01_45_14_81_92_23_92_81_a1_14_a1⟩,
    ⟨17058, 11, 9, 0x1_12_45_14_23_81_12_81⟩,
    ⟨8777, 23, 19, 0x1_01_23_81_14_81_92_23_92_b4_45_b4⟩,
    ⟨4689, 11, 8, 0x1_01_23_05_34_92_23_92⟩,
    ⟨4627, 11, 9, 0x1_01_23_05_34_81_12_81⟩,
    ⟨8865, 11, 10, 0x1_01_23_12_14_b4_45_b4⟩,
    ⟨21130, 18, 15, 0x1_14_23_34_45_81_12_81_81_14_81⟩,
    ⟨21160, 12, 9, 0x1_12_34_14_23_45_81_14_81⟩,
    ⟨17505, 17, 16, 0x1_01_45_12_92_23_92_a1_14_a1⟩,
    ⟨23208, 25, 22, 0x1_12_34_14_23_45_81_14_81_a1_90_05_90_a1⟩,
    ⟨10416, 23, 15, 0x1_05_12_14_a1_90_05_90_a1_b4_45_b4⟩,
    ⟨4690, 17, 15, 0x1_05_23_34_81_12_81_92_23_92⟩,
    ⟨4900, 23, 21, 0x1_12_34_23_81_92_23_92_81_90_05_90⟩,
    ⟨12833, 11, 9, 0x1_01_23_12_34_b4_45_b4⟩,
    ⟨21026, 11, 8, 0x1_12_34_23_45_81_12_81⟩,
    ⟨6696, 23, 21, 0x1_12_34_23_81_14_81_a1_90_05_90_a1⟩,
    ⟨14480, 23, 14, 0x1_05_14_34_a1_90_05_90_a1_b4_45_b4⟩,
    ⟨5025, 12, 10, 0x1_01_23_12_34_14_90_05_90⟩,
    ⟨13456, 17, 12, 0x1_05_14_34_a1_14_a1_b4_45_b4⟩,
    ⟨5029, 25, 23, 0x1_01_23_12_34_14_81_92_23_92_81_90_05_90⟩,
    ⟨9121, 18, 11, 0x1_01_23_12_14_90_05_90_b4_45_b4⟩,
    ⟨21569, 17, 15, 0x1_01_34_45_92_23_92_a1_14_a1⟩,
    ⟨21122, 11, 8, 0x1_14_23_34_45_81_12_81⟩,
    ⟨21032, 11, 8, 0x1_12_34_23_45_81_14_81⟩,
    ⟨21072, 11, 8, 0x1_05_23_34_45_92_23_92⟩,
    ⟨21252, 23, 20, 0x1_23_45_34_81_92_23_92_81_90_05_90⟩,
    ⟨18625, 23, 22, 0x1_01_45_14_92_23_92_a1_90_05_90_a1⟩,
    ⟨12449, 11, 10, 0x1_01_34_12_14_b4_45_b4⟩,
    ⟨12929, 11, 10, 0x1_01_23_14_34_b4_45_b4⟩,
    ⟨20631, 25, 22, 0x1_01_34_05_14_45_81_12_81_81_92_23_92_81⟩,
    ⟨4516, 23, 22, 0x1_12_34_14_81_92_23_92_81_90_05_90⟩,
    ⟨24752, 11, 10, 0x1_05_12_14_45_b4_45_b4⟩,
    ⟨22608, 23, 20, 0x1_05_34_45_92_23_92_a1_90_05_90_a1⟩,
    ⟨21264, 11, 8, 0x1_05_23_34_45_90_05_90⟩,
    ⟨21521, 11, 8, 0x1_01_34_05_45_a1_14_a1⟩,
    ⟨20626, 11, 8, 0x1_05_14_34_45_81_12_81⟩,
    ⟨8433, 18, 14, 0x1_01_05_12_14_92_23_92_b4_45_b4⟩,
    ⟨16625, 12, 10, 0x1_01_45_05_12_14_92_23_92⟩,
    ⟨20776, 17, 15, 0x1_12_34_45_81_14_81_90_05_90⟩,
    ⟨18673, 25, 23, 0x1_01_45_05_12_14_92_23_92_a1_90_05_90_a1⟩,
    ⟨25220, 23, 15, 0x1_14_23_45_81_92_23_92_81_b4_45_b4⟩,
    ⟨9089, 17, 10, 0x1_01_23_14_90_05_90_b4_45_b4⟩,
    ⟨17429, 23, 22, 0x1_01_45_05_81_92_23_92_81_a1_14_a1⟩,
    ⟨20499, 11, 9, 0x1_01_34_05_45_81_12_81⟩,
    ⟨21633, 11, 9, 0x1_01_34_14_45_a1_14_a1⟩,
    ⟨20618, 17, 15, 0x1_14_34_45_81_12_81_81_14_81⟩,
    ⟨21636, 23, 21, 0x1_14_34_45_81_92_23_92_81_a1_14_a1⟩,
    ⟨12872, 23, 18, 0x1_23_34_81_14_81_92_23_92_b4_45_b4⟩,
    ⟨21648, 11, 8, 0x1_05_14_34_45_a1_14_a1⟩,
    ⟨20648, 11, 9, 0x1_12_34_14_45_81_14_81⟩,
    ⟨21576, 23, 21, 0x1_34_45_81_14_81_92_23_92_a1_14_a1⟩,
    ⟨26768, 23, 14, 0x1_05_14_45_a1_90_05_90_a1_b4_45_b4⟩,
    ⟨21768, 23, 21, 0x1_34_45_81_14_81_90_05_90_a1_14_a1⟩,
    ⟨21128, 11, 8, 0x1_14_23_34_45_81_14_81⟩,
    ⟨25872, 23, 19, 0x1_05_45_90_05_90_a1_14_a1_b4_45_b4⟩,
    ⟨22664, 23, 21, 0x1_14_34_45_81_14_81_a1_90_05_90_a1⟩,
    ⟨4513, 11, 10, 0x1_01_34_12_14_90_05_90⟩,
    ⟨8609, 17, 11, 0x1_01_12_14_90_05_90_b4_45_b4⟩,
    ⟨16609, 11, 10, 0x1_01_45_12_14_92_23_92⟩,
    ⟨21640, 17, 15, 0x1_14_34_45_81_14_81_a1_14_a1⟩,
    ⟨20641, 5, 3, 0x1_01_34_12_45_14⟩,
    ⟨17601, 17, 16, 0x1_01_45_14_92_23_92_a1_14_a1⟩,
    ⟨12936, 17, 12, 0x1_14_23_34_81_14_81_b4_45_b4⟩,
    ⟨13072, 17, 9, 0x1_05_23_34_90_05_90_b4_45_b4⟩,
    ⟨21124, 17, 14, 0x1_14_23_34_45_81_92_23_92_81⟩,
    ⟨8474, 29, 23, 0x1_05_81_12_81_81_14_81_90_05_90_b4_45_b4⟩,
    ⟨22672, 17, 14, 0x1_05_14_34_45_a1_90_05_90_a1⟩,
    ⟨4520, 17, 16, 0x1_12_34_14_81_14_81_90_05_90⟩,
    ⟨8624, 17, 10, 0x1_05_12_14_90_05_90_b4_45_b4⟩,
    ⟨25168, 17, 12, 0x1_05_23_45_92_23_92_b4_45_b4⟩,
    ⟨17057, 5, 3, 0x1_01_23_45_12_14⟩,
    ⟨9235, 23, 20, 0x1_01_05_81_12_81_a1_14_a1_b4_45_b4⟩,
    ⟨6305, 17, 16, 0x1_01_34_12_14_a1_90_05_90_a1⟩,
    ⟨16467, 17, 16, 0x1_01_45_05_81_12_81_92_23_92⟩,
    ⟨8339, 17, 9, 0x1_01_05_14_81_12_81_b4_45_b4⟩,
    ⟨4898, 17, 15, 0x1_12_34_23_81_12_81_90_05_90⟩,
    ⟨21028, 17, 14, 0x1_12_34_23_45_81_92_23_92_81⟩,
    ⟨9138, 25, 17, 0x1_05_12_14_23_81_12_81_90_05_90_b4_45_b4⟩,
    ⟨25809, 25, 20, 0x1_01_45_05_14_92_23_92_a1_14_a1_b4_45_b4⟩,
    ⟨8249, 17, 13, 0x1_01_05_12_81_14_81_b4_45_b4⟩,
    ⟨22600, 29, 27, 0x1_34_45_81_14_81_92_23_92_a1_90_05_90_a1⟩,
    ⟨21256, 17, 14, 0x1_23_45_34_81_14_81_90_05_90⟩,
    ⟨20784, 11, 8, 0x1_05_12_34_45_90_05_90⟩,
    ⟨25680, 23, 18, 0x1_05_45_92_23_92_a1_14_a1_b4_45_b4⟩,
    ⟨659, 11, 9, 0x1_01_23_05_14_81_12_81⟩,
    ⟨16549, 17, 16, 0x1_01_45_12_14_81_92_23_92_81⟩,
    ⟨8489, 23, 17, 0x1_01_12_81_14_81_90_05_90_b4_45_b4⟩,
    ⟨4273, 5, 3, 0x1_01_34_05_12_14⟩,
    ⟨21058, 17, 14, 0x1_23_45_34_81_12_81_92_23_92⟩,
    ⟨6728, 29, 27, 0x1_23_34_81_14_81_92_23_92_a1_90_05_90_a1⟩,
    ⟨1137, 17, 16, 0x1_01_05_12_92_23_92_a1_14_a1⟩,
    ⟨8579, 23, 17, 0x1_01_14_81_12_81_90_05_90_b4_45_b4⟩,
    ⟨22660, 29, 27, 0x1_14_34_45_81_92_23_92_81_a1_90_05_90_a1⟩,
    ⟨689, 5, 3, 0x1_01_23_05_12_14⟩,
    ⟨20754, 17, 15, 0x1_05_34_45_81_12_81_90_05_90⟩,
    ⟨17684, 29, 28, 0x1_05_45_81_92_23_92_81_90_05_90_a1_14_a1⟩,
    ⟨809, 17, 16, 0x1_01_23_12_81_14_81_90_05_90⟩,
    ⟨21057, 11, 8, 0x1_01_23_45_34_92_23_92⟩,
    ⟨13064, 23, 15, 0x1_23_34_81_14_81_90_05_90_b4_45_b4⟩,
    ⟨690, 11, 9, 0x1_05_12_14_23_81_12_81⟩,
    ⟨9761, 17, 13, 0x1_01_23_12_a1_14_a1_b4_45_b4⟩,
    ⟨21764, 29, 27, 0x1_34_45_81_92_23_92_81_90_05_90_a1_14_a1⟩,
    ⟨21584, 17, 14, 0x1_05_34_45_92_23_92_a1_14_a1⟩,
    ⟨22545, 17, 14, 0x1_01_34_05_45_a1_90_05_90_a1⟩,
    ⟨12954, 25, 19, 0x1_05_14_23_34_81_12_81_81_14_81_b4_45_b4⟩,
    ⟨13224, 25, 17, 0x1_12_34_14_23_81_14_81_90_05_90_b4_45_b4⟩,
    ⟨22657, 17, 15, 0x1_01_34_14_45_a1_90_05_90_a1⟩,
    ⟨13058, 23, 15, 0x1_23_34_81_12_81_90_05_90_b4_45_b4⟩,
    ⟨20656, 5, 3, 0x1_05_12_34_14_45⟩,
    ⟨25617, 17, 12, 0x1_01_45_05_a1_14_a1_b4_45_b4⟩,
    ⟨12930, 17, 9, 0x1_14_23_34_81_12_81_b4_45_b4⟩,
    ⟨12840, 17, 12, 0x1_12_34_23_81_14_81_b4_45_b4⟩,
    ⟨21121, 5, 3, 0x1_01_23_45_14_34⟩,
    ⟨24658, 23, 19, 0x1_05_45_81_12_81_92_23_92_b4_45_b4⟩,
    ⟨20644, 17, 15, 0x1_12_34_14_45_81_92_23_92_81⟩,
    ⟨21185, 12, 9, 0x1_01_23_45_14_34_92_23_92⟩,
    ⟨13985, 19, 14, 0x1_01_23_12_34_14_a1_14_a1_b4_45_b4⟩,
    ⟨6753, 24, 22, 0x1_01_23_12_34_92_23_92_a1_90_05_90_a1⟩,
    ⟨21218, 19, 16, 0x1_12_34_14_23_45_81_12_81_92_23_92⟩,
    ⟨8595, 24, 17, 0x1_01_05_14_81_12_81_90_05_90_b4_45_b4⟩,
    ⟨20883, 19, 16, 0x1_01_34_05_14_45_81_12_81_90_05_90⟩,
    ⟨22052, 24, 21, 0x1_12_34_23_45_81_92_23_92_81_a1_14_a1⟩,
    ⟨9203, 33, 25, 0x1_01_23_05_12_14_81_12_81_92_23_92_90_05_90_b4_45_b4⟩,
    ⟨6052, 31, 29, 0x1_12_34_14_23_81_92_23_92_81_90_05_90_a1_14_a1⟩,
    ⟨24761, 19, 14, 0x1_01_45_05_12_14_81_14_81_b4_45_b4⟩,
    ⟨6888, 31, 29, 0x1_12_34_14_23_81_14_81_92_23_92_a1_90_05_90_a1⟩,
    ⟨29448, 24, 15, 0x1_23_45_34_81_14_81_90_05_90_b4_45_b4⟩,
    ⟨20912, 12, 9, 0x1_05_12_34_14_45_90_05_90⟩,
    ⟨29776, 24, 18, 0x1_05_34_45_92_23_92_a1_14_a1_b4_45_b4⟩,
    ⟨691, 12, 10, 0x1_01_23_05_12_14_81_12_81⟩,
    ⟨21011, 12, 9, 0x1_01_23_45_05_34_81_12_81⟩,
    ⟨21299, 20, 16, 0x1_01_23_45_05_12_34_81_12_81_90_05_90⟩,
    ⟨26273, 19, 14, 0x1_01_23_45_12_14_a1_14_a1_b4_45_b4⟩,
    ⟨20563, 18, 16, 0x1_01_34_05_45_81_12_81_92_23_92⟩,
    ⟨12435, 18, 9, 0x1_01_34_05_14_81_12_81_b4_45_b4⟩,
    ⟨21282, 18, 15, 0x1_12_34_23_45_81_12_81_90_05_90⟩,
    ⟨25252, 24, 16, 0x1_12_45_14_23_81_92_23_92_81_b4_45_b4⟩,
    ⟨25266, 19, 10, 0x1_05_12_14_23_45_81_12_81_b4_45_b4⟩,
    ⟨25713, 25, 20, 0x1_01_45_05_12_92_23_92_a1_14_a1_b4_45_b4⟩,
    ⟨8761, 18, 13, 0x1_01_23_05_12_81_14_81_b4_45_b4⟩,
    ⟨25273, 20, 14, 0x1_01_23_45_05_12_14_81_14_81_b4_45_b4⟩,
    ⟨25265, 13, 10, 0x1_01_23_45_05_12_14_b4_45_b4⟩,
    ⟨21296, 12, 8, 0x1_05_12_34_23_45_90_05_90⟩,
    ⟨21424, 13, 9, 0x1_05_12_34_14_23_45_90_05_90⟩,
    ⟨4755, 12, 9, 0x1_01_23_05_14_34_81_12_81⟩,
    ⟨12473, 19, 14, 0x1_01_34_05_12_14_81_14_81_b4_45_b4⟩,
    ⟨21107, 20, 16, 0x1_01_23_45_05_12_34_81_12_81_92_23_92⟩,
    ⟨21042, 12, 8, 0x1_05_12_34_23_45_81_12_81⟩,
    ⟨21074, 18, 15, 0x1_05_23_34_45_81_12_81_92_23_92⟩,
    ⟨21234, 20, 16, 0x1_05_12_34_14_23_45_81_12_81_92_23_92⟩,
    ⟨21170, 13, 9, 0x1_05_12_34_14_23_45_81_12_81⟩,
    ⟨9091, 24, 17, 0x1_01_23_14_81_12_81_90_05_90_b4_45_b4⟩,
    ⟨8883, 19, 10, 0x1_01_23_05_12_14_81_12_81_b4_45_b4⟩,
    ⟨21138, 12, 8, 0x1_05_14_23_34_45_81_12_81⟩,
    ⟨21266, 18, 15, 0x1_05_23_34_45_81_12_81_90_05_90⟩,
    ⟨21395, 20, 16, 0x1_01_23_45_05_14_34_81_12_81_90_05_90⟩,
    ⟨21139, 13, 9, 0x1_01_23_45_05_14_34_81_12_81⟩,
    ⟨21073, 12, 8, 0x1_01_23_45_05_34_92_23_92⟩,
    ⟨21201, 13, 9, 0x1_01_23_45_05_14_34_92_23_92⟩,
    ⟨17074, 12, 9, 0x1_05_12_14_23_45_81_12_81⟩,
    ⟨9777, 18, 13, 0x1_01_23_05_12_a1_14_a1_b4_45_b4⟩,
    ⟨14001, 20, 14, 0x1_01_23_05_12_34_14_a1_14_a1_b4_45_b4⟩,
    ⟨12977, 13, 10, 0x1_01_23_05_12_34_14_b4_45_b4⟩,
    ⟨14481, 24, 15, 0x1_01_34_05_14_a1_90_05_90_a1_b4_45_b4⟩,
    ⟨12947, 19, 10, 0x1_01_23_05_14_34_81_12_81_b4_45_b4⟩,
    ⟨13097, 25, 17, 0x1_01_23_12_34_81_14_81_90_05_90_b4_45_b4⟩,
    ⟨26161, 19, 13, 0x1_01_23_45_05_12_a1_14_a1_b4_45_b4⟩,
    ⟨30257, 20, 13, 0x1_01_23_45_05_12_34_a1_14_a1_b4_45_b4⟩,
    ⟨12849, 12, 9, 0x1_01_23_05_12_34_b4_45_b4⟩,
    ⟨25649, 18, 13, 0x1_01_45_05_12_a1_14_a1_b4_45_b4⟩,
    ⟨12931, 18, 10, 0x1_01_23_14_34_81_12_81_b4_45_b4⟩,
    ⟨12841, 18, 13, 0x1_01_23_12_34_81_14_81_b4_45_b4⟩,
    ⟨25137, 12, 8, 0x1_01_23_45_05_12_b4_45_b4⟩,
    ⟨29241, 20, 13, 0x1_01_23_45_05_12_34_81_14_81_b4_45_b4⟩,
    ⟨12857, 19, 13, 0x1_01_23_05_12_34_81_14_81_b4_45_b4⟩,
    ⟨13185, 18, 10, 0x1_01_23_14_34_90_05_90_b4_45_b4⟩,
    ⟨12961, 12, 10, 0x1_01_23_12_34_14_b4_45_b4⟩,
    ⟨12819, 18, 9, 0x1_01_23_05_34_81_12_81_b4_45_b4⟩,
    ⟨21154, 12, 9, 0x1_12_34_14_23_45_81_12_81⟩,
    ⟨10417, 24, 16, 0x1_01_05_12_14_a1_90_05_90_a1_b4_45_b4⟩,
    ⟨20627, 12, 9, 0x1_01_34_05_14_45_81_12_81⟩,
    ⟨25138, 18, 9, 0x1_05_12_23_45_81_12_81_b4_45_b4⟩,
    ⟨14488, 30, 21, 0x1_05_14_34_81_14_81_a1_90_05_90_a1_b4_45_b4⟩,
    ⟨5028, 24, 22, 0x1_12_34_14_23_81_92_23_92_81_90_05_90⟩,
    ⟨24753, 12, 10, 0x1_01_45_05_12_14_b4_45_b4⟩,
    ⟨6824, 24, 22, 0x1_12_34_14_23_81_14_81_a1_90_05_90_a1⟩,
    ⟨25288, 24, 19, 0x1_14_23_45_81_14_81_92_23_92_b4_45_b4⟩,
    ⟨24816, 18, 13, 0x1_05_12_14_45_92_23_92_b4_45_b4⟩,
    ⟨10032, 24, 19, 0x1_05_12_23_90_05_90_a1_14_a1_b4_45_b4⟩,
    ⟨18224, 18, 15, 0x1_05_12_23_45_90_05_90_a1_14_a1⟩,
    ⟨29363, 21, 10, 0x1_01_23_45_05_12_34_14_81_12_81_b4_45_b4⟩]

end StabilizerPrep.Bundled
