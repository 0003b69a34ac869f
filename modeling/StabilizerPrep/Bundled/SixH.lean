import StabilizerPrep.Bundled.Row

/-!
# The table for six qubits on the device H

The bundled template table, one row for each class.
-/

namespace StabilizerPrep.Bundled

set_option autoImplicit false

set_option maxRecDepth 20000 in
def sixH : List Row :=
  [⟨0, 0, 0, 0x1⟩,
    ⟨1, 1, 1, 0x1_01⟩,
    ⟨2, 7, 7, 0x1_81_12_81⟩,
    ⟨4, 13, 13, 0x1_81_94_43_94_81⟩,
    ⟨8, 7, 7, 0x1_81_14_81⟩,
    ⟨16, 13, 13, 0x1_81_94_45_94_81⟩,
    ⟨32, 1, 1, 0x1_12⟩,
    ⟨64, 7, 7, 0x1_94_43_94⟩,
    ⟨128, 1, 1, 0x1_14⟩,
    ⟨256, 7, 7, 0x1_94_45_94⟩,
    ⟨512, 13, 13, 0x1_a1_94_43_94_a1⟩,
    ⟨1024, 7, 7, 0x1_a1_14_a1⟩,
    ⟨2048, 13, 13, 0x1_a1_94_45_94_a1⟩,
    ⟨4096, 1, 1, 0x1_34⟩,
    ⟨8192, 7, 7, 0x1_b4_45_b4⟩,
    ⟨16384, 1, 1, 0x1_45⟩,
    ⟨16896, 14, 13, 0x1_45_a1_94_43_94_a1⟩,
    ⟨9216, 14, 11, 0x1_a1_14_a1_b4_45_b4⟩,
    ⟨6144, 14, 13, 0x1_34_a1_94_45_94_a1⟩,
    ⟨16448, 8, 8, 0x1_45_94_43_94⟩,
    ⟨8320, 8, 8, 0x1_14_b4_45_b4⟩,
    ⟨4352, 8, 8, 0x1_34_94_45_94⟩,
    ⟨16416, 2, 1, 0x1_12_45⟩,
    ⟨2176, 14, 14, 0x1_14_a1_94_45_94_a1⟩,
    ⟨1280, 14, 14, 0x1_94_45_94_a1_14_a1⟩,
    ⟨8224, 8, 7, 0x1_12_b4_45_b4⟩,
    ⟨2112, 20, 20, 0x1_94_43_94_a1_94_45_94_a1⟩,
    ⟨768, 20, 20, 0x1_94_45_94_a1_94_43_94_a1⟩,
    ⟨4128, 2, 1, 0x1_12_34⟩,
    ⟨1088, 14, 14, 0x1_94_43_94_a1_14_a1⟩,
    ⟨640, 14, 14, 0x1_14_a1_94_43_94_a1⟩,
    ⟨16388, 14, 13, 0x1_45_81_94_43_94_81⟩,
    ⟨8200, 14, 11, 0x1_81_14_81_b4_45_b4⟩,
    ⟨4112, 14, 13, 0x1_34_81_94_45_94_81⟩,
    ⟨16386, 8, 7, 0x1_45_81_12_81⟩,
    ⟨2056, 20, 20, 0x1_81_14_81_a1_94_45_94_a1⟩,
    ⟨1040, 20, 20, 0x1_81_94_45_94_81_a1_14_a1⟩,
    ⟨8194, 14, 7, 0x1_81_12_81_b4_45_b4⟩,
    ⟨2052, 26, 26, 0x1_81_94_43_94_81_a1_94_45_94_a1⟩,
    ⟨528, 26, 26, 0x1_81_94_45_94_81_a1_94_43_94_a1⟩,
    ⟨4098, 8, 7, 0x1_34_81_12_81⟩,
    ⟨1028, 20, 20, 0x1_81_94_43_94_81_a1_14_a1⟩,
    ⟨520, 20, 20, 0x1_81_14_81_a1_94_43_94_a1⟩,
    ⟨16385, 2, 1, 0x1_01_45⟩,
    ⟨264, 14, 14, 0x1_81_14_81_94_45_94⟩,
    ⟨144, 14, 14, 0x1_14_81_94_45_94_81⟩,
    ⟨8193, 8, 7, 0x1_01_b4_45_b4⟩,
    ⟨260, 20, 20, 0x1_81_94_43_94_81_94_45_94⟩,
    ⟨80, 20, 20, 0x1_81_94_45_94_81_94_43_94⟩,
    ⟨4097, 2, 1, 0x1_01_34⟩,
    ⟨132, 14, 14, 0x1_14_81_94_43_94_81⟩,
    ⟨72, 14, 14, 0x1_81_14_81_94_43_94⟩,
    ⟨2049, 14, 14, 0x1_01_a1_94_45_94_a1⟩,
    ⟨258, 14, 14, 0x1_81_12_81_94_45_94⟩,
    ⟨48, 14, 14, 0x1_12_81_94_45_94_81⟩,
    ⟨1025, 8, 8, 0x1_01_a1_14_a1⟩,
    ⟨130, 8, 8, 0x1_14_81_12_81⟩,
    ⟨40, 8, 8, 0x1_12_81_14_81⟩,
    ⟨513, 14, 14, 0x1_01_a1_94_43_94_a1⟩,
    ⟨66, 14, 14, 0x1_81_12_81_94_43_94⟩,
    ⟨36, 14, 14, 0x1_12_81_94_43_94_81⟩,
    ⟨16897, 15, 14, 0x1_01_45_a1_94_43_94_a1⟩,
    ⟨9217, 15, 12, 0x1_01_a1_14_a1_b4_45_b4⟩,
    ⟨6145, 15, 14, 0x1_01_34_a1_94_45_94_a1⟩,
    ⟨16450, 15, 14, 0x1_45_81_12_81_94_43_94⟩,
    ⟨8322, 15, 8, 0x1_14_81_12_81_b4_45_b4⟩,
    ⟨4354, 15, 14, 0x1_34_81_12_81_94_45_94⟩,
    ⟨16420, 15, 14, 0x1_12_45_81_94_43_94_81⟩,
    ⟨2180, 27, 27, 0x1_14_81_94_43_94_81_a1_94_45_94_a1⟩,
    ⟨1284, 27, 27, 0x1_81_94_43_94_81_94_45_94_a1_14_a1⟩,
    ⟨8232, 15, 12, 0x1_12_81_14_81_b4_45_b4⟩,
    ⟨2120, 27, 27, 0x1_81_14_81_94_43_94_a1_94_45_94_a1⟩,
    ⟨776, 27, 27, 0x1_81_14_81_94_45_94_a1_94_43_94_a1⟩,
    ⟨4144, 15, 14, 0x1_12_34_81_94_45_94_81⟩,
    ⟨1104, 27, 27, 0x1_81_94_45_94_81_94_43_94_a1_14_a1⟩,
    ⟨656, 27, 27, 0x1_14_81_94_45_94_81_a1_94_43_94_a1⟩,
    ⟨33, 2, 2, 0x1_01_12⟩,
    ⟨65, 8, 8, 0x1_01_94_43_94⟩,
    ⟨129, 2, 2, 0x1_01_14⟩,
    ⟨257, 8, 8, 0x1_01_94_45_94⟩,
    ⟨6, 20, 20, 0x1_81_12_81_81_94_43_94_81⟩,
    ⟨10, 14, 14, 0x1_81_12_81_81_14_81⟩,
    ⟨18, 20, 20, 0x1_81_12_81_81_94_45_94_81⟩,
    ⟨4104, 8, 7, 0x1_34_81_14_81⟩,
    ⟨8196, 20, 17, 0x1_81_94_43_94_81_b4_45_b4⟩,
    ⟨16392, 8, 7, 0x1_45_81_14_81⟩,
    ⟨96, 8, 8, 0x1_12_94_43_94⟩,
    ⟨160, 2, 2, 0x1_12_14⟩,
    ⟨288, 8, 8, 0x1_12_94_45_94⟩,
    ⟨4224, 2, 2, 0x1_14_34⟩,
    ⟨320, 14, 14, 0x1_94_43_94_94_45_94⟩,
    ⟨16512, 2, 2, 0x1_14_45⟩,
    ⟨5120, 8, 7, 0x1_34_a1_14_a1⟩,
    ⟨8704, 20, 17, 0x1_a1_94_43_94_a1_b4_45_b4⟩,
    ⟨17408, 8, 7, 0x1_45_a1_14_a1⟩,
    ⟨20480, 2, 2, 0x1_34_45⟩,
    ⟨20512, 3, 2, 0x1_12_34_45⟩,
    ⟨17472, 15, 15, 0x1_45_94_43_94_a1_14_a1⟩,
    ⟨8832, 21, 18, 0x1_14_a1_94_43_94_a1_b4_45_b4⟩,
    ⟨5376, 15, 15, 0x1_34_94_45_94_a1_14_a1⟩,
    ⟨17024, 15, 14, 0x1_14_45_a1_94_43_94_a1⟩,
    ⟨9280, 21, 18, 0x1_94_43_94_a1_14_a1_b4_45_b4⟩,
    ⟨6272, 15, 14, 0x1_14_34_a1_94_45_94_a1⟩,
    ⟨4384, 9, 8, 0x1_12_34_94_45_94⟩,
    ⟨8352, 9, 9, 0x1_12_14_b4_45_b4⟩,
    ⟨16480, 9, 8, 0x1_12_45_94_43_94⟩,
    ⟨16904, 21, 20, 0x1_45_81_14_81_a1_94_43_94_a1⟩,
    ⟨9220, 27, 24, 0x1_81_94_43_94_81_a1_14_a1_b4_45_b4⟩,
    ⟨6152, 21, 20, 0x1_34_81_14_81_a1_94_45_94_a1⟩,
    ⟨20482, 9, 7, 0x1_34_45_81_12_81⟩,
    ⟨4114, 21, 20, 0x1_34_81_12_81_81_94_45_94_81⟩,
    ⟨8202, 21, 18, 0x1_81_12_81_81_14_81_b4_45_b4⟩,
    ⟨17412, 21, 20, 0x1_45_81_94_43_94_81_a1_14_a1⟩,
    ⟨16390, 21, 20, 0x1_45_81_12_81_81_94_43_94_81⟩,
    ⟨8712, 27, 24, 0x1_81_14_81_a1_94_43_94_a1_b4_45_b4⟩,
    ⟨5136, 21, 20, 0x1_34_81_94_45_94_81_a1_14_a1⟩,
    ⟨4353, 9, 8, 0x1_01_34_94_45_94⟩,
    ⟨8321, 9, 9, 0x1_01_14_b4_45_b4⟩,
    ⟨16516, 15, 14, 0x1_14_45_81_94_43_94_81⟩,
    ⟨16456, 15, 14, 0x1_45_81_14_81_94_43_94⟩,
    ⟨16449, 9, 8, 0x1_01_45_94_43_94⟩,
    ⟨328, 21, 21, 0x1_81_14_81_94_43_94_94_45_94⟩,
    ⟨8324, 21, 18, 0x1_14_81_94_43_94_81_b4_45_b4⟩,
    ⟨4240, 15, 14, 0x1_14_34_81_94_45_94_81⟩,
    ⟨4360, 15, 14, 0x1_34_81_14_81_94_45_94⟩,
    ⟨20481, 3, 2, 0x1_01_34_45⟩,
    ⟨16417, 3, 2, 0x1_01_45_12⟩,
    ⟨296, 15, 15, 0x1_12_81_14_81_94_45_94⟩,
    ⟨146, 21, 21, 0x1_14_81_12_81_81_94_45_94_81⟩,
    ⟨1281, 15, 15, 0x1_01_94_45_94_a1_14_a1⟩,
    ⟨176, 15, 15, 0x1_12_14_81_94_45_94_81⟩,
    ⟨266, 21, 21, 0x1_81_12_81_81_14_81_94_45_94⟩,
    ⟨2177, 15, 15, 0x1_01_14_a1_94_45_94_a1⟩,
    ⟨17409, 9, 8, 0x1_01_45_a1_14_a1⟩,
    ⟨16514, 9, 8, 0x1_14_45_81_12_81⟩,
    ⟨16424, 9, 8, 0x1_12_45_81_14_81⟩,
    ⟨112, 21, 21, 0x1_12_81_94_45_94_81_94_43_94⟩,
    ⟨262, 27, 27, 0x1_81_12_81_81_94_43_94_81_94_45_94⟩,
    ⟨2113, 21, 21, 0x1_01_94_43_94_a1_94_45_94_a1⟩,
    ⟨8225, 9, 7, 0x1_01_12_b4_45_b4⟩,
    ⟨8705, 21, 18, 0x1_01_a1_94_43_94_a1_b4_45_b4⟩,
    ⟨322, 21, 21, 0x1_81_12_81_94_43_94_94_45_94⟩,
    ⟨292, 21, 21, 0x1_12_81_94_43_94_81_94_45_94⟩,
    ⟨8228, 21, 18, 0x1_12_81_94_43_94_81_b4_45_b4⟩,
    ⟨82, 27, 27, 0x1_81_12_81_81_94_45_94_81_94_43_94⟩,
    ⟨769, 21, 21, 0x1_01_94_45_94_a1_94_43_94_a1⟩,
    ⟨5121, 9, 8, 0x1_01_34_a1_14_a1⟩,
    ⟨4226, 9, 8, 0x1_14_34_81_12_81⟩,
    ⟨164, 15, 15, 0x1_12_14_81_94_43_94_81⟩,
    ⟨104, 15, 15, 0x1_12_81_14_81_94_43_94⟩,
    ⟨4136, 9, 8, 0x1_12_34_81_14_81⟩,
    ⟨74, 21, 21, 0x1_81_12_81_81_14_81_94_43_94⟩,
    ⟨134, 21, 21, 0x1_14_81_12_81_81_94_43_94_81⟩,
    ⟨641, 15, 15, 0x1_01_14_a1_94_43_94_a1⟩,
    ⟨1089, 15, 15, 0x1_01_94_43_94_a1_14_a1⟩,
    ⟨4129, 3, 2, 0x1_01_34_12⟩,
    ⟨20513, 4, 2, 0x1_01_34_12_45⟩,
    ⟨17473, 16, 15, 0x1_01_45_94_43_94_a1_14_a1⟩,
    ⟨8833, 22, 19, 0x1_01_14_a1_94_43_94_a1_b4_45_b4⟩,
    ⟨5377, 16, 15, 0x1_01_34_94_45_94_a1_14_a1⟩,
    ⟨16518, 22, 21, 0x1_14_45_81_12_81_81_94_43_94_81⟩,
    ⟨9282, 28, 25, 0x1_81_12_81_94_43_94_a1_14_a1_b4_45_b4⟩,
    ⟨4242, 22, 21, 0x1_14_34_81_12_81_81_94_45_94_81⟩,
    ⟨4392, 16, 15, 0x1_12_34_81_14_81_94_45_94⟩,
    ⟨8356, 22, 19, 0x1_12_14_81_94_43_94_81_b4_45_b4⟩,
    ⟨16488, 16, 15, 0x1_12_45_81_14_81_94_43_94⟩,
    ⟨20992, 15, 13, 0x1_34_45_a1_94_43_94_a1⟩,
    ⟨13312, 15, 11, 0x1_34_a1_14_a1_b4_45_b4⟩,
    ⟨22528, 15, 13, 0x1_34_45_a1_94_45_94_a1⟩,
    ⟨16576, 9, 9, 0x1_14_45_94_43_94⟩,
    ⟨12416, 9, 9, 0x1_14_34_b4_45_b4⟩,
    ⟨4480, 9, 9, 0x1_14_34_94_45_94⟩,
    ⟨16544, 3, 2, 0x1_12_45_14⟩,
    ⟨18560, 15, 14, 0x1_14_45_a1_94_45_94_a1⟩,
    ⟨1312, 15, 15, 0x1_12_94_45_94_a1_14_a1⟩,
    ⟨8288, 15, 15, 0x1_12_94_43_94_b4_45_b4⟩,
    ⟨2144, 21, 21, 0x1_12_94_43_94_a1_94_45_94_a1⟩,
    ⟨800, 21, 21, 0x1_12_94_45_94_a1_94_43_94_a1⟩,
    ⟨4256, 3, 2, 0x1_12_34_14⟩,
    ⟨1120, 15, 15, 0x1_12_94_43_94_a1_14_a1⟩,
    ⟨4736, 15, 14, 0x1_14_34_a1_94_43_94_a1⟩,
    ⟨20484, 15, 13, 0x1_34_45_81_94_43_94_81⟩,
    ⟨12296, 15, 11, 0x1_34_81_14_81_b4_45_b4⟩,
    ⟨20496, 15, 13, 0x1_34_45_81_94_45_94_81⟩,
    ⟨16394, 15, 14, 0x1_45_81_12_81_81_14_81⟩,
    ⟨18440, 21, 20, 0x1_45_81_14_81_a1_94_45_94_a1⟩,
    ⟨17424, 21, 20, 0x1_45_81_94_45_94_81_a1_14_a1⟩,
    ⟨8198, 27, 24, 0x1_81_12_81_81_94_43_94_81_b4_45_b4⟩,
    ⟨10244, 33, 30, 0x1_81_94_43_94_81_a1_94_45_94_a1_b4_45_b4⟩,
    ⟨8720, 33, 30, 0x1_81_94_45_94_81_a1_94_43_94_a1_b4_45_b4⟩,
    ⟨4106, 15, 14, 0x1_34_81_12_81_81_14_81⟩,
    ⟨5124, 21, 20, 0x1_34_81_94_43_94_81_a1_14_a1⟩,
    ⟨4616, 21, 20, 0x1_34_81_14_81_a1_94_43_94_a1⟩,
    ⟨16513, 3, 2, 0x1_01_45_14⟩,
    ⟨16648, 15, 14, 0x1_45_81_14_81_94_45_94⟩,
    ⟨16528, 15, 14, 0x1_14_45_81_94_45_94_81⟩,
    ⟨8257, 15, 15, 0x1_01_94_43_94_b4_45_b4⟩,
    ⟨261, 21, 21, 0x1_01_81_94_43_94_81_94_45_94⟩,
    ⟨81, 21, 21, 0x1_01_81_94_45_94_81_94_43_94⟩,
    ⟨4225, 3, 2, 0x1_01_34_14⟩,
    ⟨4228, 15, 14, 0x1_14_34_81_94_43_94_81⟩,
    ⟨4168, 15, 14, 0x1_34_81_14_81_94_43_94⟩,
    ⟨2081, 15, 15, 0x1_01_12_a1_94_45_94_a1⟩,
    ⟨259, 15, 15, 0x1_01_81_12_81_94_45_94⟩,
    ⟨49, 15, 15, 0x1_01_12_81_94_45_94_81⟩,
    ⟨1057, 9, 9, 0x1_01_12_a1_14_a1⟩,
    ⟨131, 9, 9, 0x1_01_14_81_12_81⟩,
    ⟨41, 9, 9, 0x1_01_12_81_14_81⟩,
    ⟨545, 15, 15, 0x1_01_12_a1_94_43_94_a1⟩,
    ⟨67, 15, 15, 0x1_01_81_12_81_94_43_94⟩,
    ⟨37, 15, 15, 0x1_01_12_81_94_43_94_81⟩,
    ⟨20993, 16, 14, 0x1_01_34_45_a1_94_43_94_a1⟩,
    ⟨13313, 16, 12, 0x1_01_34_a1_14_a1_b4_45_b4⟩,
    ⟨22529, 16, 14, 0x1_01_34_45_a1_94_45_94_a1⟩,
    ⟨20546, 16, 14, 0x1_34_45_81_12_81_94_43_94⟩,
    ⟨12418, 16, 9, 0x1_14_34_81_12_81_b4_45_b4⟩,
    ⟨20738, 16, 14, 0x1_34_45_81_12_81_94_45_94⟩,
    ⟨16548, 16, 15, 0x1_12_45_14_81_94_43_94_81⟩,
    ⟨18564, 28, 27, 0x1_14_45_81_94_43_94_81_a1_94_45_94_a1⟩,
    ⟨17668, 28, 27, 0x1_45_81_94_43_94_81_94_45_94_a1_14_a1⟩,
    ⟨8296, 22, 22, 0x1_12_81_14_81_94_43_94_b4_45_b4⟩,
    ⟨2152, 28, 28, 0x1_12_81_14_81_94_43_94_a1_94_45_94_a1⟩,
    ⟨808, 28, 28, 0x1_12_81_14_81_94_45_94_a1_94_43_94_a1⟩,
    ⟨4272, 16, 15, 0x1_12_34_14_81_94_45_94_81⟩,
    ⟨5200, 28, 27, 0x1_34_81_94_45_94_81_94_43_94_a1_14_a1⟩,
    ⟨4752, 28, 27, 0x1_14_34_81_94_45_94_81_a1_94_43_94_a1⟩,
    ⟨20516, 16, 14, 0x1_12_34_45_81_94_43_94_81⟩,
    ⟨12328, 16, 12, 0x1_12_34_81_14_81_b4_45_b4⟩,
    ⟨20528, 16, 14, 0x1_12_34_45_81_94_45_94_81⟩,
    ⟨16458, 22, 21, 0x1_45_81_12_81_81_14_81_94_43_94⟩,
    ⟨18504, 28, 27, 0x1_45_81_14_81_94_43_94_a1_94_45_94_a1⟩,
    ⟨17488, 28, 27, 0x1_45_81_94_45_94_81_94_43_94_a1_14_a1⟩,
    ⟨8326, 28, 25, 0x1_14_81_12_81_81_94_43_94_81_b4_45_b4⟩,
    ⟨10372, 34, 31, 0x1_14_81_94_43_94_81_a1_94_45_94_a1_b4_45_b4⟩,
    ⟨8848, 34, 31, 0x1_14_81_94_45_94_81_a1_94_43_94_a1_b4_45_b4⟩,
    ⟨4362, 22, 21, 0x1_34_81_12_81_81_14_81_94_45_94⟩,
    ⟨5380, 28, 27, 0x1_34_81_94_43_94_81_94_45_94_a1_14_a1⟩,
    ⟨4872, 28, 27, 0x1_34_81_14_81_94_45_94_a1_94_43_94_a1⟩,
    ⟨17025, 16, 15, 0x1_01_45_14_a1_94_43_94_a1⟩,
    ⟨17160, 28, 27, 0x1_45_81_14_81_94_45_94_a1_94_43_94_a1⟩,
    ⟨17040, 28, 27, 0x1_14_45_81_94_45_94_81_a1_94_43_94_a1⟩,
    ⟨9281, 22, 19, 0x1_01_94_43_94_a1_14_a1_b4_45_b4⟩,
    ⟨1285, 28, 28, 0x1_01_81_94_43_94_81_94_45_94_a1_14_a1⟩,
    ⟨1105, 28, 28, 0x1_01_81_94_45_94_81_94_43_94_a1_14_a1⟩,
    ⟨6273, 16, 15, 0x1_01_34_14_a1_94_45_94_a1⟩,
    ⟨6276, 28, 27, 0x1_14_34_81_94_43_94_81_a1_94_45_94_a1⟩,
    ⟨6216, 28, 27, 0x1_34_81_14_81_94_43_94_a1_94_45_94_a1⟩,
    ⟨6177, 16, 15, 0x1_01_34_12_a1_94_45_94_a1⟩,
    ⟨4355, 16, 15, 0x1_01_34_81_12_81_94_45_94⟩,
    ⟨4145, 16, 15, 0x1_01_34_12_81_94_45_94_81⟩,
    ⟨9249, 16, 13, 0x1_01_12_a1_14_a1_b4_45_b4⟩,
    ⟨8323, 16, 9, 0x1_01_14_81_12_81_b4_45_b4⟩,
    ⟨8233, 16, 13, 0x1_01_12_81_14_81_b4_45_b4⟩,
    ⟨16929, 16, 15, 0x1_01_45_12_a1_94_43_94_a1⟩,
    ⟨16451, 16, 15, 0x1_01_45_81_12_81_94_43_94⟩,
    ⟨16421, 16, 15, 0x1_01_45_12_81_94_43_94_81⟩,
    ⟨21504, 9, 7, 0x1_34_45_a1_14_a1⟩,
    ⟨20608, 3, 3, 0x1_14_34_45⟩,
    ⟨17536, 9, 8, 0x1_14_45_a1_14_a1⟩,
    ⟨352, 15, 15, 0x1_12_94_43_94_94_45_94⟩,
    ⟨5248, 9, 8, 0x1_14_34_a1_14_a1⟩,
    ⟨20488, 9, 7, 0x1_34_45_81_14_81⟩,
    ⟨17416, 15, 14, 0x1_45_81_14_81_a1_14_a1⟩,
    ⟨8708, 33, 30, 0x1_81_94_43_94_81_a1_94_43_94_a1_b4_45_b4⟩,
    ⟨5128, 15, 14, 0x1_34_81_14_81_a1_14_a1⟩,
    ⟨16520, 9, 8, 0x1_14_45_81_14_81⟩,
    ⟨321, 15, 15, 0x1_01_94_43_94_94_45_94⟩,
    ⟨4232, 9, 8, 0x1_14_34_81_14_81⟩,
    ⟨289, 9, 9, 0x1_01_12_94_45_94⟩,
    ⟨161, 3, 3, 0x1_01_12_14⟩,
    ⟨97, 9, 9, 0x1_01_12_94_43_94⟩,
    ⟨21505, 10, 8, 0x1_01_34_45_a1_14_a1⟩,
    ⟨20610, 10, 8, 0x1_14_34_45_81_12_81⟩,
    ⟨17540, 22, 21, 0x1_14_45_81_94_43_94_81_a1_14_a1⟩,
    ⟨360, 22, 22, 0x1_12_81_14_81_94_43_94_94_45_94⟩,
    ⟨5264, 22, 21, 0x1_14_34_81_94_45_94_81_a1_14_a1⟩,
    ⟨20520, 10, 8, 0x1_12_34_45_81_14_81⟩,
    ⟨17480, 22, 21, 0x1_45_81_14_81_94_43_94_a1_14_a1⟩,
    ⟨8836, 34, 31, 0x1_14_81_94_43_94_81_a1_94_43_94_a1_b4_45_b4⟩,
    ⟨5384, 22, 21, 0x1_34_81_14_81_94_45_94_a1_14_a1⟩,
    ⟨17032, 22, 21, 0x1_14_45_81_14_81_a1_94_43_94_a1⟩,
    ⟨1345, 22, 22, 0x1_01_94_43_94_94_45_94_a1_14_a1⟩,
    ⟨6280, 22, 21, 0x1_14_34_81_14_81_a1_94_45_94_a1⟩,
    ⟨4385, 10, 9, 0x1_01_34_12_94_45_94⟩,
    ⟨8353, 10, 10, 0x1_01_12_14_b4_45_b4⟩,
    ⟨16481, 10, 9, 0x1_01_45_12_94_43_94⟩,
    ⟨17056, 16, 15, 0x1_12_45_14_a1_94_43_94_a1⟩,
    ⟨9312, 22, 19, 0x1_12_94_43_94_a1_14_a1_b4_45_b4⟩,
    ⟨6304, 16, 15, 0x1_12_34_14_a1_94_45_94_a1⟩,
    ⟨17504, 16, 15, 0x1_12_45_94_43_94_a1_14_a1⟩,
    ⟨8864, 22, 19, 0x1_12_14_a1_94_43_94_a1_b4_45_b4⟩,
    ⟨5408, 16, 15, 0x1_12_34_94_45_94_a1_14_a1⟩,
    ⟨20576, 10, 9, 0x1_12_34_45_94_43_94⟩,
    ⟨14464, 22, 18, 0x1_14_34_a1_94_45_94_a1_b4_45_b4⟩,
    ⟨13568, 22, 19, 0x1_34_94_45_94_a1_14_a1_b4_45_b4⟩,
    ⟨12448, 10, 9, 0x1_12_34_14_b4_45_b4⟩,
    ⟨18624, 22, 22, 0x1_14_45_94_43_94_a1_94_45_94_a1⟩,
    ⟨4992, 22, 22, 0x1_14_34_94_45_94_a1_94_43_94_a1⟩,
    ⟨20768, 10, 9, 0x1_12_34_45_94_45_94⟩,
    ⟨25664, 22, 19, 0x1_45_94_43_94_a1_14_a1_b4_45_b4⟩,
    ⟨25216, 22, 18, 0x1_14_45_a1_94_43_94_a1_b4_45_b4⟩,
    ⟨16906, 28, 27, 0x1_45_81_12_81_81_14_81_a1_94_43_94_a1⟩,
    ⟨9222, 34, 31, 0x1_81_12_81_81_94_43_94_81_a1_14_a1_b4_45_b4⟩,
    ⟨6154, 28, 27, 0x1_34_81_12_81_81_14_81_a1_94_45_94_a1⟩,
    ⟨17414, 28, 27, 0x1_45_81_12_81_81_94_43_94_81_a1_14_a1⟩,
    ⟨8714, 34, 31, 0x1_81_12_81_81_14_81_a1_94_43_94_a1_b4_45_b4⟩,
    ⟨5138, 28, 27, 0x1_34_81_12_81_81_94_45_94_81_a1_14_a1⟩,
    ⟨20486, 22, 20, 0x1_34_45_81_12_81_81_94_43_94_81⟩,
    ⟨14344, 28, 24, 0x1_34_81_14_81_a1_94_45_94_a1_b4_45_b4⟩,
    ⟨13328, 28, 24, 0x1_34_81_94_45_94_81_a1_14_a1_b4_45_b4⟩,
    ⟨12298, 22, 18, 0x1_34_81_12_81_81_14_81_b4_45_b4⟩,
    ⟨22532, 28, 26, 0x1_34_45_81_94_43_94_81_a1_94_45_94_a1⟩,
    ⟨21008, 28, 26, 0x1_34_45_81_94_45_94_81_a1_94_43_94_a1⟩,
    ⟨20498, 22, 20, 0x1_34_45_81_12_81_81_94_45_94_81⟩,
    ⟨25604, 28, 24, 0x1_45_81_94_43_94_81_a1_14_a1_b4_45_b4⟩,
    ⟨25096, 28, 24, 0x1_45_81_14_81_a1_94_43_94_a1_b4_45_b4⟩,
    ⟨16457, 16, 15, 0x1_01_45_81_14_81_94_43_94⟩,
    ⟨8325, 22, 19, 0x1_01_14_81_94_43_94_81_b4_45_b4⟩,
    ⟨4361, 16, 15, 0x1_01_34_81_14_81_94_45_94⟩,
    ⟨16517, 16, 15, 0x1_01_45_14_81_94_43_94_81⟩,
    ⟨8265, 22, 22, 0x1_01_81_14_81_94_43_94_b4_45_b4⟩,
    ⟨4241, 16, 15, 0x1_01_34_14_81_94_45_94_81⟩,
    ⟨20545, 10, 9, 0x1_01_34_45_94_43_94⟩,
    ⟨4424, 22, 21, 0x1_34_81_14_81_94_43_94_94_45_94⟩,
    ⟨12432, 22, 18, 0x1_14_34_81_94_45_94_81_b4_45_b4⟩,
    ⟨12417, 10, 9, 0x1_01_34_14_b4_45_b4⟩,
    ⟨20740, 22, 20, 0x1_34_45_81_94_43_94_81_94_45_94⟩,
    ⟨20560, 22, 20, 0x1_34_45_81_94_45_94_81_94_43_94⟩,
    ⟨20737, 10, 9, 0x1_01_34_45_94_45_94⟩,
    ⟨24708, 22, 18, 0x1_14_45_81_94_43_94_81_b4_45_b4⟩,
    ⟨16712, 22, 21, 0x1_45_81_14_81_94_43_94_94_45_94⟩,
    ⟨16425, 10, 9, 0x1_01_45_12_81_14_81⟩,
    ⟨2179, 22, 22, 0x1_01_14_81_12_81_a1_94_45_94_a1⟩,
    ⟨1283, 22, 22, 0x1_01_81_12_81_94_45_94_a1_14_a1⟩,
    ⟨16515, 10, 9, 0x1_01_45_14_81_12_81⟩,
    ⟨2089, 22, 22, 0x1_01_12_81_14_81_a1_94_45_94_a1⟩,
    ⟨1073, 22, 22, 0x1_01_12_81_94_45_94_81_a1_14_a1⟩,
    ⟨17441, 10, 9, 0x1_01_45_12_a1_14_a1⟩,
    ⟨298, 22, 22, 0x1_12_81_12_81_81_14_81_94_45_94⟩,
    ⟨178, 22, 22, 0x1_12_14_81_12_81_81_94_45_94_81⟩,
    ⟨18561, 16, 15, 0x1_01_45_14_a1_94_45_94_a1⟩,
    ⟨16650, 22, 21, 0x1_45_81_12_81_81_14_81_94_45_94⟩,
    ⟨16560, 16, 15, 0x1_12_45_14_81_94_45_94_81⟩,
    ⟨17665, 16, 15, 0x1_01_45_94_45_94_a1_14_a1⟩,
    ⟨16530, 22, 21, 0x1_14_45_81_12_81_81_94_45_94_81⟩,
    ⟨16680, 16, 15, 0x1_12_45_81_14_81_94_45_94⟩,
    ⟨8229, 22, 19, 0x1_01_12_81_94_43_94_81_b4_45_b4⟩,
    ⟨2115, 28, 28, 0x1_01_81_12_81_94_43_94_a1_94_45_94_a1⟩,
    ⟨771, 28, 28, 0x1_01_81_12_81_94_45_94_a1_94_43_94_a1⟩,
    ⟨8259, 22, 22, 0x1_01_81_12_81_94_43_94_b4_45_b4⟩,
    ⟨2085, 28, 28, 0x1_01_12_81_94_43_94_81_a1_94_45_94_a1⟩,
    ⟨561, 28, 28, 0x1_01_12_81_94_45_94_81_a1_94_43_94_a1⟩,
    ⟨8737, 22, 19, 0x1_01_12_a1_94_43_94_a1_b4_45_b4⟩,
    ⟨294, 28, 28, 0x1_12_81_12_81_81_94_43_94_81_94_45_94⟩,
    ⟨114, 28, 28, 0x1_12_81_12_81_81_94_45_94_81_94_43_94⟩,
    ⟨10305, 28, 25, 0x1_01_94_43_94_a1_94_45_94_a1_b4_45_b4⟩,
    ⟨8962, 34, 31, 0x1_81_12_81_94_45_94_a1_94_43_94_a1_b4_45_b4⟩,
    ⟨8304, 28, 28, 0x1_12_81_94_45_94_81_94_43_94_b4_45_b4⟩,
    ⟨8961, 28, 25, 0x1_01_94_45_94_a1_94_43_94_a1_b4_45_b4⟩,
    ⟨10306, 34, 31, 0x1_81_12_81_94_43_94_a1_94_45_94_a1_b4_45_b4⟩,
    ⟨8484, 28, 28, 0x1_12_81_94_43_94_81_94_45_94_b4_45_b4⟩,
    ⟨4137, 10, 9, 0x1_01_34_12_81_14_81⟩,
    ⟨1091, 22, 22, 0x1_01_81_12_81_94_43_94_a1_14_a1⟩,
    ⟨643, 22, 22, 0x1_01_14_81_12_81_a1_94_43_94_a1⟩,
    ⟨4227, 10, 9, 0x1_01_34_14_81_12_81⟩,
    ⟨1061, 22, 22, 0x1_01_12_81_94_43_94_81_a1_14_a1⟩,
    ⟨553, 22, 22, 0x1_01_12_81_14_81_a1_94_43_94_a1⟩,
    ⟨5153, 10, 9, 0x1_01_34_12_a1_14_a1⟩,
    ⟨166, 22, 22, 0x1_12_14_81_12_81_81_94_43_94_81⟩,
    ⟨106, 22, 22, 0x1_12_81_12_81_81_14_81_94_43_94⟩,
    ⟨5185, 16, 15, 0x1_01_34_94_43_94_a1_14_a1⟩,
    ⟨4230, 22, 21, 0x1_14_34_81_12_81_81_94_43_94_81⟩,
    ⟨4200, 16, 15, 0x1_12_34_81_14_81_94_43_94⟩,
    ⟨4737, 16, 15, 0x1_01_34_14_a1_94_43_94_a1⟩,
    ⟨4170, 22, 21, 0x1_34_81_12_81_81_14_81_94_43_94⟩,
    ⟨4260, 16, 15, 0x1_12_34_14_81_94_43_94_81⟩,
    ⟨13600, 23, 19, 0x1_12_34_94_45_94_a1_14_a1_b4_45_b4⟩,
    ⟨13330, 35, 31, 0x1_34_81_12_81_81_94_45_94_81_a1_14_a1_b4_45_b4⟩,
    ⟨12433, 23, 19, 0x1_01_34_14_81_94_45_94_81_b4_45_b4⟩,
    ⟨16562, 23, 22, 0x1_12_45_14_81_12_81_81_94_45_94_81⟩,
    ⟨8753, 35, 32, 0x1_01_12_81_94_45_94_81_a1_94_43_94_a1_b4_45_b4⟩,
    ⟨4202, 23, 22, 0x1_12_34_81_12_81_81_14_81_94_43_94⟩,
    ⟨20640, 4, 3, 0x1_12_34_14_45⟩,
    ⟨17600, 16, 16, 0x1_14_45_94_43_94_a1_14_a1⟩,
    ⟨12928, 22, 18, 0x1_14_34_a1_94_43_94_a1_b4_45_b4⟩,
    ⟨5504, 16, 16, 0x1_14_34_94_45_94_a1_14_a1⟩,
    ⟨21120, 16, 14, 0x1_14_34_45_a1_94_43_94_a1⟩,
    ⟨13376, 22, 19, 0x1_34_94_43_94_a1_14_a1_b4_45_b4⟩,
    ⟨22656, 16, 14, 0x1_14_34_45_a1_94_45_94_a1⟩,
    ⟨4512, 10, 9, 0x1_12_34_14_94_45_94⟩,
    ⟨13440, 16, 12, 0x1_14_34_a1_14_a1_b4_45_b4⟩,
    ⟨16608, 10, 9, 0x1_12_45_14_94_43_94⟩,
    ⟨21000, 22, 20, 0x1_34_45_81_14_81_a1_94_43_94_a1⟩,
    ⟨13316, 28, 24, 0x1_34_81_94_43_94_81_a1_14_a1_b4_45_b4⟩,
    ⟨22536, 22, 20, 0x1_34_45_81_14_81_a1_94_45_94_a1⟩,
    ⟨20490, 16, 14, 0x1_34_45_81_12_81_81_14_81⟩,
    ⟨22544, 28, 26, 0x1_34_45_81_94_45_94_81_a1_94_45_94_a1⟩,
    ⟨13320, 22, 18, 0x1_34_81_14_81_a1_14_a1_b4_45_b4⟩,
    ⟨21508, 22, 20, 0x1_34_45_81_94_43_94_81_a1_14_a1⟩,
    ⟨20996, 28, 26, 0x1_34_45_81_94_43_94_81_a1_94_43_94_a1⟩,
    ⟨12808, 28, 24, 0x1_34_81_14_81_a1_94_43_94_a1_b4_45_b4⟩,
    ⟨21520, 22, 20, 0x1_34_45_81_94_45_94_81_a1_14_a1⟩,
    ⟨4481, 10, 9, 0x1_01_34_14_94_45_94⟩,
    ⟨12424, 16, 12, 0x1_14_34_81_14_81_b4_45_b4⟩,
    ⟨20612, 16, 14, 0x1_14_34_45_81_94_43_94_81⟩,
    ⟨20552, 16, 14, 0x1_34_45_81_14_81_94_43_94⟩,
    ⟨16577, 10, 9, 0x1_01_45_14_94_43_94⟩,
    ⟨12360, 22, 21, 0x1_34_81_14_81_94_43_94_b4_45_b4⟩,
    ⟨12420, 22, 18, 0x1_14_34_81_94_43_94_81_b4_45_b4⟩,
    ⟨20624, 16, 14, 0x1_14_34_45_81_94_45_94_81⟩,
    ⟨20744, 16, 14, 0x1_34_45_81_14_81_94_45_94⟩,
    ⟨20609, 4, 3, 0x1_01_34_14_45⟩,
    ⟨16545, 4, 3, 0x1_01_45_12_14⟩,
    ⟨297, 16, 16, 0x1_01_12_81_14_81_94_45_94⟩,
    ⟨147, 22, 22, 0x1_01_14_81_12_81_81_94_45_94_81⟩,
    ⟨1313, 16, 16, 0x1_01_12_94_45_94_a1_14_a1⟩,
    ⟨177, 16, 16, 0x1_01_12_14_81_94_45_94_81⟩,
    ⟨17672, 22, 21, 0x1_45_81_14_81_94_45_94_a1_14_a1⟩,
    ⟨2209, 16, 16, 0x1_01_12_14_a1_94_45_94_a1⟩,
    ⟨17537, 10, 9, 0x1_01_45_14_a1_14_a1⟩,
    ⟨16522, 16, 15, 0x1_14_45_81_12_81_81_14_81⟩,
    ⟨16552, 10, 9, 0x1_12_45_14_81_14_81⟩,
    ⟨113, 22, 22, 0x1_01_12_81_94_45_94_81_94_43_94⟩,
    ⟨263, 28, 28, 0x1_01_81_12_81_81_94_43_94_81_94_45_94⟩,
    ⟨2145, 22, 22, 0x1_01_12_94_43_94_a1_94_45_94_a1⟩,
    ⟨8289, 16, 16, 0x1_01_12_94_43_94_b4_45_b4⟩,
    ⟨8769, 28, 25, 0x1_01_94_43_94_a1_94_43_94_a1_b4_45_b4⟩,
    ⟨323, 22, 22, 0x1_01_81_12_81_94_43_94_94_45_94⟩,
    ⟨293, 22, 22, 0x1_01_12_81_94_43_94_81_94_45_94⟩,
    ⟨53, 28, 28, 0x1_01_12_81_94_43_94_81_81_94_45_94_81⟩,
    ⟨83, 28, 28, 0x1_01_81_12_81_81_94_45_94_81_94_43_94⟩,
    ⟨801, 22, 22, 0x1_01_12_94_45_94_a1_94_43_94_a1⟩,
    ⟨5249, 10, 9, 0x1_01_34_14_a1_14_a1⟩,
    ⟨4234, 16, 15, 0x1_14_34_81_12_81_81_14_81⟩,
    ⟨165, 16, 16, 0x1_01_12_14_81_94_43_94_81⟩,
    ⟨105, 16, 16, 0x1_01_12_81_14_81_94_43_94⟩,
    ⟨4264, 10, 9, 0x1_12_34_14_81_14_81⟩,
    ⟨5192, 22, 21, 0x1_34_81_14_81_94_43_94_a1_14_a1⟩,
    ⟨135, 22, 22, 0x1_01_14_81_12_81_81_94_43_94_81⟩,
    ⟨673, 16, 16, 0x1_01_12_14_a1_94_43_94_a1⟩,
    ⟨1121, 16, 16, 0x1_01_12_94_43_94_a1_14_a1⟩,
    ⟨4257, 4, 3, 0x1_01_34_12_14⟩,
    ⟨21632, 10, 8, 0x1_14_34_45_a1_14_a1⟩,
    ⟨21512, 16, 14, 0x1_34_45_81_14_81_a1_14_a1⟩,
    ⟨20616, 10, 8, 0x1_14_34_45_81_14_81⟩,
    ⟨417, 10, 10, 0x1_01_12_14_94_45_94⟩,
    ⟨353, 16, 16, 0x1_01_12_94_43_94_94_45_94⟩,
    ⟨225, 10, 10, 0x1_01_12_14_94_43_94⟩,
    ⟨9426, 42, 39, 0x1_14_81_12_81_81_94_45_94_81_94_43_94_a1_14_a1_b4_45_b4⟩,
    ⟨21618, 37, 35, 0x1_12_34_45_81_12_81_81_94_45_94_81_94_43_94_a1_14_a1⟩,
    ⟨9336, 42, 39, 0x1_12_81_14_81_81_94_45_94_81_94_43_94_a1_14_a1_b4_45_b4⟩,
    ⟨13425, 37, 33, 0x1_01_34_12_81_94_45_94_81_94_43_94_a1_14_a1_b4_45_b4⟩,
    ⟨21169, 31, 29, 0x1_01_34_12_45_14_81_94_45_94_81_a1_94_43_94_a1⟩,
    ⟨25385, 37, 33, 0x1_01_45_12_81_14_81_94_45_94_a1_94_43_94_a1_b4_45_b4⟩,
    ⟨9993, 42, 39, 0x1_01_81_14_81_94_45_94_a1_94_43_94_a1_a1_14_a1_b4_45_b4⟩,
    ⟨13571, 30, 26, 0x1_01_34_81_12_81_94_45_94_a1_14_a1_b4_45_b4⟩,
    ⟨14467, 30, 26, 0x1_01_34_14_81_12_81_a1_94_45_94_a1_b4_45_b4⟩,
    ⟨21259, 37, 35, 0x1_01_34_45_81_12_81_81_14_81_94_45_94_a1_94_43_94_a1⟩,
    ⟨13361, 30, 26, 0x1_01_34_12_81_94_45_94_81_a1_14_a1_b4_45_b4⟩,
    ⟨12466, 30, 26, 0x1_12_34_14_81_12_81_81_94_45_94_81_b4_45_b4⟩,
    ⟨9098, 42, 39, 0x1_14_81_12_81_81_14_81_94_45_94_a1_94_43_94_a1_b4_45_b4⟩,
    ⟨14377, 30, 26, 0x1_01_34_12_81_14_81_a1_94_45_94_a1_b4_45_b4⟩,
    ⟨25667, 30, 26, 0x1_01_45_81_12_81_94_43_94_a1_14_a1_b4_45_b4⟩,
    ⟨17027, 23, 22, 0x1_01_45_14_81_12_81_a1_94_43_94_a1⟩,
    ⟨9283, 29, 26, 0x1_01_81_12_81_94_43_94_a1_14_a1_b4_45_b4⟩,
    ⟨6275, 23, 22, 0x1_01_34_14_81_12_81_a1_94_45_94_a1⟩,
    ⟨17475, 23, 22, 0x1_01_45_81_12_81_94_43_94_a1_14_a1⟩,
    ⟨8835, 29, 26, 0x1_01_14_81_12_81_a1_94_43_94_a1_b4_45_b4⟩,
    ⟨5379, 23, 22, 0x1_01_34_81_12_81_94_45_94_a1_14_a1⟩,
    ⟨20517, 17, 15, 0x1_01_34_12_45_81_94_43_94_81⟩,
    ⟨10373, 35, 32, 0x1_01_14_81_94_43_94_81_a1_94_45_94_a1_b4_45_b4⟩,
    ⟨5381, 29, 28, 0x1_01_34_81_94_43_94_81_94_45_94_a1_14_a1⟩,
    ⟨12329, 17, 13, 0x1_01_34_12_81_14_81_b4_45_b4⟩,
    ⟨18505, 29, 28, 0x1_01_45_81_14_81_94_43_94_a1_94_45_94_a1⟩,
    ⟨4873, 29, 28, 0x1_01_34_81_14_81_94_45_94_a1_94_43_94_a1⟩,
    ⟨20529, 17, 15, 0x1_01_34_12_45_81_94_45_94_81⟩,
    ⟨17489, 29, 28, 0x1_01_45_81_94_45_94_81_94_43_94_a1_14_a1⟩,
    ⟨8849, 35, 32, 0x1_01_14_81_94_45_94_81_a1_94_43_94_a1_b4_45_b4⟩,
    ⟨16937, 23, 22, 0x1_01_45_12_81_14_81_a1_94_43_94_a1⟩,
    ⟨9253, 29, 26, 0x1_01_12_81_94_43_94_81_a1_14_a1_b4_45_b4⟩,
    ⟨6185, 23, 22, 0x1_01_34_12_81_14_81_a1_94_45_94_a1⟩,
    ⟨17445, 23, 22, 0x1_01_45_12_81_94_43_94_81_a1_14_a1⟩,
    ⟨8745, 29, 26, 0x1_01_12_81_14_81_a1_94_43_94_a1_b4_45_b4⟩,
    ⟨5169, 23, 22, 0x1_01_34_12_81_94_45_94_81_a1_14_a1⟩,
    ⟨20547, 17, 15, 0x1_01_34_45_81_12_81_94_43_94⟩,
    ⟨10313, 35, 32, 0x1_01_81_14_81_94_43_94_a1_94_45_94_a1_b4_45_b4⟩,
    ⟨5201, 29, 28, 0x1_01_34_81_94_45_94_81_94_43_94_a1_14_a1⟩,
    ⟨12419, 17, 9, 0x1_01_34_14_81_12_81_b4_45_b4⟩,
    ⟨18565, 29, 28, 0x1_01_45_14_81_94_43_94_81_a1_94_45_94_a1⟩,
    ⟨4753, 29, 28, 0x1_01_34_14_81_94_45_94_81_a1_94_43_94_a1⟩,
    ⟨20739, 17, 15, 0x1_01_34_45_81_12_81_94_45_94⟩,
    ⟨17669, 29, 28, 0x1_01_45_81_94_43_94_81_94_45_94_a1_14_a1⟩,
    ⟨8969, 35, 32, 0x1_01_81_14_81_94_45_94_a1_94_43_94_a1_b4_45_b4⟩,
    ⟨16490, 23, 22, 0x1_12_45_81_12_81_81_14_81_94_43_94⟩,
    ⟨8358, 29, 26, 0x1_12_14_81_12_81_81_94_43_94_81_b4_45_b4⟩,
    ⟨4394, 23, 22, 0x1_12_34_81_12_81_81_14_81_94_45_94⟩,
    ⟨16550, 23, 22, 0x1_12_45_14_81_12_81_81_94_43_94_81⟩,
    ⟨9320, 29, 26, 0x1_12_81_14_81_94_43_94_a1_14_a1_b4_45_b4⟩,
    ⟨4274, 23, 22, 0x1_12_34_14_81_12_81_81_94_45_94_81⟩,
    ⟨21025, 17, 15, 0x1_01_34_12_45_a1_94_43_94_a1⟩,
    ⟨5032, 30, 29, 0x1_12_34_14_81_14_81_94_45_94_a1_94_43_94_a1⟩,
    ⟨4754, 35, 34, 0x1_14_34_81_12_81_81_94_45_94_81_a1_94_43_94_a1⟩,
    ⟨13345, 17, 13, 0x1_01_34_12_a1_14_a1_b4_45_b4⟩,
    ⟨17670, 35, 34, 0x1_45_81_12_81_81_94_43_94_81_94_45_94_a1_14_a1⟩,
    ⟨5202, 35, 34, 0x1_34_81_12_81_81_94_45_94_81_94_43_94_a1_14_a1⟩,
    ⟨22561, 17, 15, 0x1_01_34_12_45_a1_94_45_94_a1⟩,
    ⟨18566, 35, 34, 0x1_14_45_81_12_81_81_94_43_94_81_a1_94_45_94_a1⟩,
    ⟨18664, 30, 29, 0x1_12_45_14_81_14_81_94_43_94_a1_94_45_94_a1⟩,
    ⟨20645, 18, 16, 0x1_01_34_12_45_14_81_94_43_94_81⟩,
    ⟨6278, 35, 34, 0x1_14_34_81_12_81_81_94_43_94_81_a1_94_45_94_a1⟩,
    ⟨5509, 30, 29, 0x1_01_34_14_81_94_43_94_81_94_45_94_a1_14_a1⟩,
    ⟨20555, 24, 22, 0x1_01_34_45_81_12_81_81_14_81_94_43_94⟩,
    ⟨6248, 29, 28, 0x1_12_34_81_14_81_94_43_94_a1_94_45_94_a1⟩,
    ⟨9328, 35, 32, 0x1_12_81_94_45_94_81_94_43_94_a1_14_a1_b4_45_b4⟩,
    ⟨21153, 18, 16, 0x1_01_34_12_45_14_a1_94_43_94_a1⟩,
    ⟨4904, 29, 28, 0x1_12_34_81_14_81_94_45_94_a1_94_43_94_a1⟩,
    ⟨8880, 35, 32, 0x1_12_14_81_94_45_94_81_a1_94_43_94_a1_b4_45_b4⟩,
    ⟨22593, 23, 22, 0x1_01_34_45_94_43_94_a1_94_45_94_a1⟩,
    ⟨20742, 29, 27, 0x1_34_45_81_12_81_81_94_43_94_81_94_45_94⟩,
    ⟨12464, 23, 19, 0x1_12_34_14_81_94_45_94_81_b4_45_b4⟩,
    ⟨25665, 23, 19, 0x1_01_45_94_43_94_a1_14_a1_b4_45_b4⟩,
    ⟨24710, 29, 25, 0x1_14_45_81_12_81_81_94_43_94_81_b4_45_b4⟩,
    ⟨12584, 23, 22, 0x1_12_34_81_14_81_94_45_94_b4_45_b4⟩,
    ⟨12393, 24, 23, 0x1_01_34_12_81_14_81_94_43_94_b4_45_b4⟩,
    ⟨6218, 35, 34, 0x1_34_81_12_81_81_14_81_94_43_94_a1_94_45_94_a1⟩,
    ⟨17162, 35, 34, 0x1_45_81_12_81_81_14_81_94_45_94_a1_94_43_94_a1⟩,
    ⟨9410, 29, 26, 0x1_14_81_12_81_94_43_94_a1_14_a1_b4_45_b4⟩,
    ⟨6308, 29, 28, 0x1_12_34_14_81_94_43_94_81_a1_94_45_94_a1⟩,
    ⟨17072, 29, 28, 0x1_12_45_14_81_94_45_94_81_a1_94_43_94_a1⟩,
    ⟨13409, 24, 20, 0x1_01_34_12_94_43_94_a1_14_a1_b4_45_b4⟩,
    ⟨5412, 29, 28, 0x1_12_34_81_94_43_94_81_94_45_94_a1_14_a1⟩,
    ⟨17520, 29, 28, 0x1_12_45_81_94_45_94_81_94_43_94_a1_14_a1⟩,
    ⟨14465, 23, 19, 0x1_01_34_14_a1_94_45_94_a1_b4_45_b4⟩,
    ⟨13570, 29, 25, 0x1_34_81_12_81_94_45_94_a1_14_a1_b4_45_b4⟩,
    ⟨20592, 23, 21, 0x1_12_34_45_81_94_45_94_81_94_43_94⟩,
    ⟨25217, 23, 19, 0x1_01_45_14_a1_94_43_94_a1_b4_45_b4⟩,
    ⟨25666, 29, 25, 0x1_45_81_12_81_94_43_94_a1_14_a1_b4_45_b4⟩,
    ⟨20772, 23, 21, 0x1_12_34_45_81_94_43_94_81_94_45_94⟩,
    ⟨20657, 18, 16, 0x1_01_34_12_45_14_81_94_45_94_81⟩,
    ⟨17617, 30, 29, 0x1_01_45_14_81_94_45_94_81_94_43_94_a1_14_a1⟩,
    ⟨17042, 35, 34, 0x1_14_45_81_12_81_81_94_45_94_81_a1_94_43_94_a1⟩,
    ⟨20747, 24, 22, 0x1_01_34_45_81_12_81_81_14_81_94_45_94⟩,
    ⟨9508, 35, 32, 0x1_12_81_94_43_94_81_94_45_94_a1_14_a1_b4_45_b4⟩,
    ⟨17192, 29, 28, 0x1_12_45_81_14_81_94_45_94_a1_94_43_94_a1⟩,
    ⟨22689, 18, 16, 0x1_01_34_12_45_14_a1_94_45_94_a1⟩,
    ⟨10404, 35, 32, 0x1_12_14_81_94_43_94_81_a1_94_45_94_a1_b4_45_b4⟩,
    ⟨18536, 29, 28, 0x1_12_45_81_14_81_94_43_94_a1_94_45_94_a1⟩,
    ⟨13569, 23, 19, 0x1_01_34_94_45_94_a1_14_a1_b4_45_b4⟩,
    ⟨12434, 29, 25, 0x1_14_34_81_12_81_81_94_45_94_81_b4_45_b4⟩,
    ⟨24680, 23, 22, 0x1_12_45_81_14_81_94_43_94_b4_45_b4⟩,
    ⟨21249, 23, 22, 0x1_01_34_45_94_45_94_a1_94_43_94_a1⟩,
    ⟨20562, 29, 27, 0x1_34_45_81_12_81_81_94_45_94_81_94_43_94⟩,
    ⟨24740, 23, 19, 0x1_12_45_14_81_94_43_94_81_b4_45_b4⟩,
    ⟨20521, 11, 9, 0x1_01_34_12_45_81_14_81⟩,
    ⟨17481, 23, 22, 0x1_01_45_81_14_81_94_43_94_a1_14_a1⟩,
    ⟨8837, 35, 32, 0x1_01_14_81_94_43_94_81_a1_94_43_94_a1_b4_45_b4⟩,
    ⟨5385, 23, 22, 0x1_01_34_81_14_81_94_45_94_a1_14_a1⟩,
    ⟨17034, 29, 28, 0x1_14_45_81_12_81_81_14_81_a1_94_43_94_a1⟩,
    ⟨1347, 29, 29, 0x1_01_81_12_81_94_43_94_94_45_94_a1_14_a1⟩,
    ⟨6282, 29, 28, 0x1_14_34_81_12_81_81_14_81_a1_94_45_94_a1⟩,
    ⟨4393, 17, 16, 0x1_01_34_12_81_14_81_94_45_94⟩,
    ⟨8357, 23, 20, 0x1_01_12_14_81_94_43_94_81_b4_45_b4⟩,
    ⟨16489, 17, 16, 0x1_01_45_12_81_14_81_94_43_94⟩,
    ⟨17064, 23, 22, 0x1_12_45_14_81_14_81_a1_94_43_94_a1⟩,
    ⟨21833, 31, 29, 0x1_01_34_45_81_14_81_94_43_94_94_45_94_a1_14_a1⟩,
    ⟨6312, 23, 22, 0x1_12_34_14_81_14_81_a1_94_45_94_a1⟩,
    ⟨20611, 11, 9, 0x1_01_34_14_45_81_12_81⟩,
    ⟨4243, 23, 22, 0x1_01_34_14_81_12_81_81_94_45_94_81⟩,
    ⟨9314, 29, 26, 0x1_12_81_12_81_94_43_94_a1_14_a1_b4_45_b4⟩,
    ⟨17541, 23, 22, 0x1_01_45_14_81_94_43_94_81_a1_14_a1⟩,
    ⟨16519, 23, 22, 0x1_01_45_14_81_12_81_81_94_43_94_81⟩,
    ⟨21864, 31, 29, 0x1_12_34_45_81_14_81_94_43_94_94_45_94_a1_14_a1⟩,
    ⟨5265, 23, 22, 0x1_01_34_14_81_94_45_94_81_a1_14_a1⟩,
    ⟨5409, 17, 16, 0x1_01_34_12_94_45_94_a1_14_a1⟩,
    ⟨8865, 23, 20, 0x1_01_12_14_a1_94_43_94_a1_b4_45_b4⟩,
    ⟨17542, 29, 28, 0x1_14_45_81_12_81_81_94_43_94_81_a1_14_a1⟩,
    ⟨17512, 23, 22, 0x1_12_45_81_14_81_94_43_94_a1_14_a1⟩,
    ⟨17505, 17, 16, 0x1_01_45_12_94_43_94_a1_14_a1⟩,
    ⟨362, 29, 29, 0x1_12_81_12_81_81_14_81_94_43_94_94_45_94⟩,
    ⟨8868, 35, 32, 0x1_12_14_81_94_43_94_81_a1_94_43_94_a1_b4_45_b4⟩,
    ⟨5266, 29, 28, 0x1_14_34_81_12_81_81_94_45_94_81_a1_14_a1⟩,
    ⟨5416, 23, 22, 0x1_12_34_81_14_81_94_45_94_a1_14_a1⟩,
    ⟨21537, 11, 9, 0x1_01_34_12_45_a1_14_a1⟩,
    ⟨20577, 11, 9, 0x1_01_34_12_45_94_43_94⟩,
    ⟨4456, 23, 22, 0x1_12_34_81_14_81_94_43_94_94_45_94⟩,
    ⟨14480, 35, 31, 0x1_14_34_81_94_45_94_81_a1_94_45_94_a1_b4_45_b4⟩,
    ⟨5441, 23, 22, 0x1_01_34_94_43_94_94_45_94_a1_14_a1⟩,
    ⟨13456, 29, 25, 0x1_14_34_81_94_45_94_81_a1_14_a1_b4_45_b4⟩,
    ⟨13576, 29, 25, 0x1_34_81_14_81_94_45_94_a1_14_a1_b4_45_b4⟩,
    ⟨14472, 29, 25, 0x1_14_34_81_14_81_a1_94_45_94_a1_b4_45_b4⟩,
    ⟨21569, 17, 16, 0x1_01_34_45_94_43_94_a1_14_a1⟩,
    ⟨20614, 23, 21, 0x1_14_34_45_81_12_81_81_94_43_94_81⟩,
    ⟨20584, 17, 15, 0x1_12_34_45_81_14_81_94_43_94⟩,
    ⟨16624, 23, 22, 0x1_12_45_14_81_94_45_94_81_94_43_94⟩,
    ⟨5481, 31, 30, 0x1_01_34_12_81_14_81_94_43_94_94_45_94_a1_14_a1⟩,
    ⟨18625, 23, 22, 0x1_01_45_14_94_43_94_a1_94_45_94_a1⟩,
    ⟨12449, 11, 10, 0x1_01_34_12_14_b4_45_b4⟩,
    ⟨12929, 23, 19, 0x1_01_34_14_a1_94_43_94_a1_b4_45_b4⟩,
    ⟨13378, 29, 25, 0x1_34_81_12_81_94_43_94_a1_14_a1_b4_45_b4⟩,
    ⟨4516, 23, 22, 0x1_12_34_14_81_94_43_94_81_94_45_94⟩,
    ⟨12452, 23, 19, 0x1_12_34_14_81_94_43_94_81_b4_45_b4⟩,
    ⟨17769, 31, 30, 0x1_01_45_12_81_14_81_94_43_94_94_45_94_a1_14_a1⟩,
    ⟨4993, 23, 22, 0x1_01_34_14_94_45_94_a1_94_43_94_a1⟩,
    ⟨21761, 17, 16, 0x1_01_34_45_94_45_94_a1_14_a1⟩,
    ⟨20626, 23, 21, 0x1_14_34_45_81_12_81_81_94_45_94_81⟩,
    ⟨25732, 29, 25, 0x1_14_45_81_94_43_94_81_a1_14_a1_b4_45_b4⟩,
    ⟨16744, 23, 22, 0x1_12_45_81_14_81_94_43_94_94_45_94⟩,
    ⟨20776, 17, 15, 0x1_12_34_45_81_14_81_94_45_94⟩,
    ⟨25672, 29, 25, 0x1_45_81_14_81_94_43_94_a1_14_a1_b4_45_b4⟩,
    ⟨25220, 35, 31, 0x1_14_45_81_94_43_94_81_a1_94_43_94_a1_b4_45_b4⟩,
    ⟨25224, 29, 25, 0x1_14_45_81_14_81_a1_94_43_94_a1_b4_45_b4⟩,
    ⟨17729, 23, 22, 0x1_01_45_94_43_94_94_45_94_a1_14_a1⟩,
    ⟨20769, 11, 9, 0x1_01_34_12_45_94_45_94⟩,
    ⟨21633, 11, 9, 0x1_01_34_14_45_a1_14_a1⟩,
    ⟨20618, 17, 15, 0x1_14_34_45_81_12_81_81_14_81⟩,
    ⟨21636, 23, 21, 0x1_14_34_45_81_94_43_94_81_a1_14_a1⟩,
    ⟨361, 23, 23, 0x1_01_12_81_14_81_94_43_94_94_45_94⟩,
    ⟨21648, 23, 21, 0x1_14_34_45_81_94_45_94_81_a1_14_a1⟩,
    ⟨20648, 11, 9, 0x1_12_34_14_45_81_14_81⟩,
    ⟨21576, 23, 21, 0x1_34_45_81_14_81_94_43_94_a1_14_a1⟩,
    ⟨21865, 32, 30, 0x1_01_34_12_45_81_14_81_94_43_94_94_45_94_a1_14_a1⟩,
    ⟨21768, 23, 21, 0x1_34_45_81_14_81_94_45_94_a1_14_a1⟩,
    ⟨21128, 23, 21, 0x1_14_34_45_81_14_81_a1_94_43_94_a1⟩,
    ⟨1377, 23, 23, 0x1_01_12_94_43_94_94_45_94_a1_14_a1⟩,
    ⟨22664, 23, 21, 0x1_14_34_45_81_14_81_a1_94_45_94_a1⟩,
    ⟨4513, 11, 10, 0x1_01_34_12_14_94_45_94⟩,
    ⟨8417, 17, 17, 0x1_01_12_14_94_43_94_b4_45_b4⟩,
    ⟨16609, 11, 10, 0x1_01_45_12_14_94_43_94⟩,
    ⟨21640, 17, 15, 0x1_14_34_45_81_14_81_a1_14_a1⟩,
    ⟨20641, 5, 3, 0x1_01_34_12_45_14⟩,
    ⟨17601, 17, 16, 0x1_01_45_14_94_43_94_a1_14_a1⟩,
    ⟨12936, 29, 25, 0x1_14_34_81_14_81_a1_94_43_94_a1_b4_45_b4⟩,
    ⟨5505, 17, 16, 0x1_01_34_14_94_45_94_a1_14_a1⟩,
    ⟨21124, 29, 27, 0x1_14_34_45_81_94_43_94_81_a1_94_43_94_a1⟩,
    ⟨13384, 29, 25, 0x1_34_81_14_81_94_43_94_a1_14_a1_b4_45_b4⟩,
    ⟨22672, 29, 27, 0x1_14_34_45_81_94_45_94_81_a1_94_45_94_a1⟩,
    ⟨4520, 17, 16, 0x1_12_34_14_81_14_81_94_45_94⟩,
    ⟨13444, 29, 25, 0x1_14_34_81_94_43_94_81_a1_14_a1_b4_45_b4⟩,
    ⟨16616, 17, 16, 0x1_12_45_14_81_14_81_94_43_94⟩,
    ⟨17057, 17, 16, 0x1_01_45_12_14_a1_94_43_94_a1⟩,
    ⟨9313, 23, 20, 0x1_01_12_94_43_94_a1_14_a1_b4_45_b4⟩,
    ⟨6305, 17, 16, 0x1_01_34_12_14_a1_94_45_94_a1⟩,
    ⟨16459, 23, 22, 0x1_01_45_81_12_81_81_14_81_94_43_94⟩,
    ⟨8327, 29, 26, 0x1_01_14_81_12_81_81_94_43_94_81_b4_45_b4⟩,
    ⟨4363, 23, 22, 0x1_01_34_81_12_81_81_14_81_94_45_94⟩,
    ⟨20580, 23, 21, 0x1_12_34_45_81_94_43_94_81_94_43_94⟩,
    ⟨14468, 35, 31, 0x1_14_34_81_94_43_94_81_a1_94_45_94_a1_b4_45_b4⟩,
    ⟨13572, 35, 31, 0x1_34_81_94_43_94_81_94_45_94_a1_14_a1_b4_45_b4⟩,
    ⟨12456, 17, 13, 0x1_12_34_14_81_14_81_b4_45_b4⟩,
    ⟨22600, 29, 27, 0x1_34_45_81_14_81_94_43_94_a1_94_45_94_a1⟩,
    ⟨21256, 29, 27, 0x1_34_45_81_14_81_94_45_94_a1_94_43_94_a1⟩,
    ⟨20784, 23, 21, 0x1_12_34_45_81_94_45_94_81_94_45_94⟩,
    ⟨25680, 35, 31, 0x1_45_81_94_45_94_81_94_43_94_a1_14_a1_b4_45_b4⟩,
    ⟨25232, 35, 31, 0x1_14_45_81_94_45_94_81_a1_94_43_94_a1_b4_45_b4⟩,
    ⟨16549, 17, 16, 0x1_01_45_12_14_81_94_43_94_81⟩,
    ⟨8297, 23, 23, 0x1_01_12_81_14_81_94_43_94_b4_45_b4⟩,
    ⟨4273, 17, 16, 0x1_01_34_12_14_81_94_45_94_81⟩,
    ⟨16579, 17, 16, 0x1_01_45_14_81_12_81_94_43_94⟩,
    ⟨2153, 29, 29, 0x1_01_12_81_14_81_94_43_94_a1_94_45_94_a1⟩,
    ⟨1137, 29, 29, 0x1_01_12_81_94_45_94_81_94_43_94_a1_14_a1⟩,
    ⟨12426, 23, 19, 0x1_14_34_81_12_81_81_14_81_b4_45_b4⟩,
    ⟨22660, 29, 27, 0x1_14_34_45_81_94_43_94_81_a1_94_45_94_a1⟩,
    ⟨21136, 29, 27, 0x1_14_34_45_81_94_45_94_81_a1_94_43_94_a1⟩,
    ⟨4483, 17, 16, 0x1_01_34_14_81_12_81_94_45_94⟩,
    ⟨1317, 29, 29, 0x1_01_12_81_94_43_94_81_94_45_94_a1_14_a1⟩,
    ⟨809, 29, 29, 0x1_01_12_81_14_81_94_45_94_a1_94_43_94_a1⟩,
    ⟨17953, 23, 22, 0x1_01_45_12_a1_94_43_94_a1_a1_14_a1⟩,
    ⟨13064, 35, 31, 0x1_34_81_14_81_94_45_94_a1_94_43_94_a1_b4_45_b4⟩,
    ⟨12944, 35, 31, 0x1_14_34_81_94_45_94_81_a1_94_43_94_a1_b4_45_b4⟩,
    ⟨13441, 17, 13, 0x1_01_34_14_a1_14_a1_b4_45_b4⟩,
    ⟨21764, 29, 27, 0x1_34_45_81_94_43_94_81_94_45_94_a1_14_a1⟩,
    ⟨21584, 29, 27, 0x1_34_45_81_94_45_94_81_94_43_94_a1_14_a1⟩,
    ⟨7201, 23, 22, 0x1_01_34_12_a1_14_a1_a1_94_45_94_a1⟩,
    ⟨26756, 35, 31, 0x1_14_45_81_94_43_94_81_a1_94_45_94_a1_b4_45_b4⟩,
    ⟨26696, 35, 31, 0x1_45_81_14_81_94_43_94_a1_94_45_94_a1_b4_45_b4⟩,
    ⟨22657, 17, 15, 0x1_01_34_14_45_a1_94_45_94_a1⟩,
    ⟨20746, 23, 21, 0x1_34_45_81_12_81_81_14_81_94_45_94⟩,
    ⟨20656, 17, 15, 0x1_12_34_14_45_81_94_45_94_81⟩,
    ⟨13377, 23, 19, 0x1_01_34_94_43_94_a1_14_a1_b4_45_b4⟩,
    ⟨12422, 29, 25, 0x1_14_34_81_12_81_81_94_43_94_81_b4_45_b4⟩,
    ⟨12392, 23, 22, 0x1_12_34_81_14_81_94_43_94_b4_45_b4⟩,
    ⟨21121, 17, 15, 0x1_01_34_14_45_a1_94_43_94_a1⟩,
    ⟨20554, 23, 21, 0x1_34_45_81_12_81_81_14_81_94_43_94⟩,
    ⟨20644, 17, 15, 0x1_12_34_14_45_81_94_43_94_81⟩,
    ⟨18081, 24, 23, 0x1_01_45_12_14_a1_94_43_94_a1_a1_14_a1⟩,
    ⟨13505, 24, 20, 0x1_01_34_14_94_43_94_a1_14_a1_b4_45_b4⟩,
    ⟨7329, 24, 23, 0x1_01_34_12_14_a1_14_a1_a1_94_45_94_a1⟩,
    ⟨16587, 24, 23, 0x1_01_45_14_81_12_81_81_14_81_94_43_94⟩,
    ⟨13538, 31, 27, 0x1_12_34_14_81_12_81_94_43_94_a1_14_a1_b4_45_b4⟩,
    ⟨4491, 24, 23, 0x1_01_34_14_81_12_81_81_14_81_94_45_94⟩,
    ⟨20708, 24, 22, 0x1_12_34_14_45_81_94_43_94_81_94_43_94⟩,
    ⟨30852, 36, 31, 0x1_14_34_45_81_94_43_94_81_a1_94_45_94_a1_b4_45_b4⟩,
    ⟨29956, 36, 31, 0x1_34_45_81_94_43_94_81_94_45_94_a1_14_a1_b4_45_b4⟩,
    ⟨12520, 24, 23, 0x1_12_34_14_81_14_81_94_43_94_b4_45_b4⟩,
    ⟨30792, 36, 31, 0x1_34_45_81_14_81_94_43_94_a1_94_45_94_a1_b4_45_b4⟩,
    ⟨29448, 36, 31, 0x1_34_45_81_14_81_94_45_94_a1_94_43_94_a1_b4_45_b4⟩,
    ⟨20912, 24, 22, 0x1_12_34_14_45_81_94_45_94_81_94_45_94⟩,
    ⟨29776, 36, 31, 0x1_34_45_81_94_45_94_81_94_43_94_a1_14_a1_b4_45_b4⟩,
    ⟨29328, 36, 31, 0x1_14_34_45_81_94_45_94_81_a1_94_43_94_a1_b4_45_b4⟩,
    ⟨25249, 24, 20, 0x1_01_45_12_14_a1_94_43_94_a1_b4_45_b4⟩,
    ⟨13601, 24, 20, 0x1_01_34_12_94_45_94_a1_14_a1_b4_45_b4⟩,
    ⟨14497, 24, 20, 0x1_01_34_12_14_a1_94_45_94_a1_b4_45_b4⟩,
    ⟨25698, 30, 26, 0x1_12_45_81_12_81_94_43_94_a1_14_a1_b4_45_b4⟩,
    ⟨12435, 30, 26, 0x1_01_34_14_81_12_81_81_94_45_94_81_b4_45_b4⟩,
    ⟨13602, 30, 26, 0x1_12_34_81_12_81_94_45_94_a1_14_a1_b4_45_b4⟩,
    ⟨25252, 36, 32, 0x1_12_45_14_81_94_43_94_81_a1_94_43_94_a1_b4_45_b4⟩,
    ⟨22633, 31, 29, 0x1_01_34_12_45_81_14_81_94_43_94_a1_94_45_94_a1⟩,
    ⟨13604, 36, 32, 0x1_12_34_81_94_43_94_81_94_45_94_a1_14_a1_b4_45_b4⟩,
    ⟨13608, 30, 26, 0x1_12_34_81_14_81_94_45_94_a1_14_a1_b4_45_b4⟩,
    ⟨22632, 30, 28, 0x1_12_34_45_81_14_81_94_43_94_a1_94_45_94_a1⟩,
    ⟨21288, 30, 28, 0x1_12_34_45_81_14_81_94_45_94_a1_94_43_94_a1⟩,
    ⟨13616, 36, 32, 0x1_12_34_81_94_45_94_81_94_45_94_a1_14_a1_b4_45_b4⟩,
    ⟨25712, 36, 32, 0x1_12_45_81_94_45_94_81_94_43_94_a1_14_a1_b4_45_b4⟩,
    ⟨21289, 31, 29, 0x1_01_34_12_45_81_14_81_94_45_94_a1_94_43_94_a1⟩,
    ⟨24741, 24, 20, 0x1_01_45_12_14_81_94_43_94_81_b4_45_b4⟩,
    ⟨12585, 24, 23, 0x1_01_34_12_81_14_81_94_45_94_b4_45_b4⟩,
    ⟨12465, 24, 20, 0x1_01_34_12_14_81_94_45_94_81_b4_45_b4⟩,
    ⟨16626, 30, 29, 0x1_12_45_14_81_12_81_81_94_45_94_81_94_43_94⟩,
    ⟨18537, 30, 29, 0x1_01_45_12_81_14_81_94_43_94_a1_94_45_94_a1⟩,
    ⟨17521, 30, 29, 0x1_01_45_12_81_94_45_94_81_94_43_94_a1_14_a1⟩,
    ⟨13458, 36, 32, 0x1_14_34_81_12_81_81_94_45_94_81_a1_14_a1_b4_45_b4⟩,
    ⟨10405, 36, 33, 0x1_01_12_14_81_94_43_94_81_a1_94_45_94_a1_b4_45_b4⟩,
    ⟨8881, 36, 33, 0x1_01_12_14_81_94_45_94_81_a1_94_43_94_a1_b4_45_b4⟩,
    ⟨4458, 30, 29, 0x1_12_34_81_12_81_81_14_81_94_43_94_94_45_94⟩,
    ⟨5413, 30, 29, 0x1_01_34_12_81_94_43_94_81_94_45_94_a1_14_a1⟩,
    ⟨4905, 30, 29, 0x1_01_34_12_81_14_81_94_45_94_a1_94_43_94_a1⟩,
    ⟨25161, 36, 32, 0x1_01_45_81_14_81_94_43_94_a1_94_43_94_a1_b4_45_b4⟩,
    ⟨13065, 36, 32, 0x1_01_34_81_14_81_94_45_94_a1_94_43_94_a1_b4_45_b4⟩,
    ⟨21617, 31, 29, 0x1_01_34_12_45_81_94_45_94_81_94_43_94_a1_14_a1⟩,
    ⟨13457, 30, 26, 0x1_01_34_14_81_94_45_94_81_a1_14_a1_b4_45_b4⟩,
    ⟨21765, 30, 28, 0x1_01_34_45_81_94_43_94_81_94_45_94_a1_14_a1⟩,
    ⟨21585, 30, 28, 0x1_01_34_45_81_94_45_94_81_94_43_94_a1_14_a1⟩,
    ⟨14481, 36, 32, 0x1_01_34_14_81_94_45_94_81_a1_94_45_94_a1_b4_45_b4⟩,
    ⟨21797, 31, 29, 0x1_01_34_12_45_81_94_43_94_81_94_45_94_a1_14_a1⟩,
    ⟨26697, 36, 32, 0x1_01_45_81_14_81_94_43_94_a1_94_45_94_a1_b4_45_b4⟩,
    ⟨22569, 24, 22, 0x1_01_34_12_45_81_14_81_a1_94_45_94_a1⟩,
    ⟨20778, 24, 22, 0x1_12_34_45_81_12_81_81_14_81_94_45_94⟩,
    ⟨20658, 24, 22, 0x1_12_34_14_45_81_12_81_81_94_45_94_81⟩,
    ⟨13349, 30, 26, 0x1_01_34_12_81_94_43_94_81_a1_14_a1_b4_45_b4⟩,
    ⟨12454, 30, 26, 0x1_12_34_14_81_12_81_81_94_43_94_81_b4_45_b4⟩,
    ⟨12841, 30, 26, 0x1_01_34_12_81_14_81_a1_94_43_94_a1_b4_45_b4⟩,
    ⟨21033, 24, 22, 0x1_01_34_12_45_81_14_81_a1_94_43_94_a1⟩,
    ⟨20586, 24, 22, 0x1_12_34_45_81_12_81_81_14_81_94_43_94⟩,
    ⟨20646, 24, 22, 0x1_12_34_14_45_81_12_81_81_94_43_94_81⟩,
    ⟨21601, 18, 16, 0x1_01_34_12_45_94_43_94_a1_14_a1⟩,
    ⟨12961, 24, 20, 0x1_01_34_12_14_a1_94_43_94_a1_b4_45_b4⟩,
    ⟨21793, 18, 16, 0x1_01_34_12_45_94_45_94_a1_14_a1⟩,
    ⟨20615, 24, 22, 0x1_01_34_14_45_81_12_81_81_94_43_94_81⟩,
    ⟨13410, 30, 26, 0x1_12_34_81_12_81_94_43_94_a1_14_a1_b4_45_b4⟩,
    ⟨20627, 24, 22, 0x1_01_34_14_45_81_12_81_81_94_45_94_81⟩,
    ⟨20585, 18, 16, 0x1_01_34_12_45_81_14_81_94_43_94⟩,
    ⟨14488, 42, 38, 0x1_14_34_81_14_81_81_94_45_94_81_a1_94_45_94_a1_b4_45_b4⟩,
    ⟨5449, 30, 29, 0x1_01_34_81_14_81_94_43_94_94_45_94_a1_14_a1⟩,
    ⟨12453, 24, 20, 0x1_01_34_12_14_81_94_43_94_81_b4_45_b4⟩,
    ⟨17768, 30, 29, 0x1_12_45_81_14_81_94_43_94_94_45_94_a1_14_a1⟩,
    ⟨5480, 30, 29, 0x1_12_34_81_14_81_94_43_94_94_45_94_a1_14_a1⟩,
    ⟨20777, 18, 16, 0x1_01_34_12_45_81_14_81_94_45_94⟩,
    ⟨17737, 30, 29, 0x1_01_45_81_14_81_94_43_94_94_45_94_a1_14_a1⟩,
    ⟨15504, 42, 38, 0x1_14_34_81_94_45_94_81_a1_14_a1_a1_94_45_94_a1_b4_45_b4⟩,
    ⟨29363, 45, 40, 0x1_01_34_12_45_14_81_12_81_81_94_45_94_81_a1_94_43_94_a1_b4_45_b4⟩]

end StabilizerPrep.Bundled
