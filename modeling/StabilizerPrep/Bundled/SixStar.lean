import StabilizerPrep.Bundled.Row

/-!
# The table for six qubits on the device star

The bundled template table, one row for each class.
-/

namespace StabilizerPrep.Bundled

set_option autoImplicit false

set_option maxRecDepth 20000 in
def sixStar : List Row :=
  [⟨0, 0, 0, 0x1⟩,
    ⟨1, 1, 1, 0x1_01⟩,
    ⟨2, 1, 1, 0x1_02⟩,
    ⟨4, 1, 1, 0x1_03⟩,
    ⟨8, 1, 1, 0x1_04⟩,
    ⟨16, 1, 1, 0x1_05⟩,
    ⟨32, 7, 7, 0x1_90_02_90⟩,
    ⟨64, 7, 7, 0x1_90_03_90⟩,
    ⟨128, 7, 7, 0x1_90_04_90⟩,
    ⟨256, 7, 7, 0x1_90_05_90⟩,
    ⟨512, 7, 7, 0x1_a0_03_a0⟩,
    ⟨1024, 7, 7, 0x1_a0_04_a0⟩,
    ⟨2048, 7, 7, 0x1_a0_05_a0⟩,
    ⟨4096, 7, 7, 0x1_b0_04_b0⟩,
    ⟨8192, 7, 7, 0x1_b0_05_b0⟩,
    ⟨16384, 7, 7, 0x1_c0_05_c0⟩,
    ⟨16896, 14, 14, 0x1_a0_03_a0_c0_05_c0⟩,
    ⟨9216, 14, 14, 0x1_a0_04_a0_b0_05_b0⟩,
    ⟨6144, 14, 14, 0x1_a0_05_a0_b0_04_b0⟩,
    ⟨16448, 14, 14, 0x1_90_03_90_c0_05_c0⟩,
    ⟨8320, 14, 14, 0x1_90_04_90_b0_05_b0⟩,
    ⟨4352, 14, 14, 0x1_90_05_90_b0_04_b0⟩,
    ⟨16416, 14, 14, 0x1_90_02_90_c0_05_c0⟩,
    ⟨2176, 14, 14, 0x1_90_04_90_a0_05_a0⟩,
    ⟨1280, 14, 14, 0x1_90_05_90_a0_04_a0⟩,
    ⟨8224, 14, 14, 0x1_90_02_90_b0_05_b0⟩,
    ⟨2112, 14, 14, 0x1_90_03_90_a0_05_a0⟩,
    ⟨768, 14, 14, 0x1_90_05_90_a0_03_a0⟩,
    ⟨4128, 14, 14, 0x1_90_02_90_b0_04_b0⟩,
    ⟨1088, 14, 14, 0x1_90_03_90_a0_04_a0⟩,
    ⟨640, 14, 14, 0x1_90_04_90_a0_03_a0⟩,
    ⟨16388, 8, 8, 0x1_03_c0_05_c0⟩,
    ⟨8200, 8, 8, 0x1_04_b0_05_b0⟩,
    ⟨4112, 8, 8, 0x1_05_b0_04_b0⟩,
    ⟨16386, 8, 8, 0x1_02_c0_05_c0⟩,
    ⟨2056, 8, 8, 0x1_04_a0_05_a0⟩,
    ⟨1040, 8, 8, 0x1_05_a0_04_a0⟩,
    ⟨8194, 8, 8, 0x1_02_b0_05_b0⟩,
    ⟨2052, 8, 8, 0x1_03_a0_05_a0⟩,
    ⟨528, 8, 8, 0x1_05_a0_03_a0⟩,
    ⟨4098, 8, 8, 0x1_02_b0_04_b0⟩,
    ⟨1028, 8, 8, 0x1_03_a0_04_a0⟩,
    ⟨520, 8, 8, 0x1_04_a0_03_a0⟩,
    ⟨16385, 8, 8, 0x1_01_c0_05_c0⟩,
    ⟨264, 8, 8, 0x1_04_90_05_90⟩,
    ⟨144, 8, 8, 0x1_05_90_04_90⟩,
    ⟨8193, 8, 8, 0x1_01_b0_05_b0⟩,
    ⟨260, 8, 8, 0x1_03_90_05_90⟩,
    ⟨80, 8, 8, 0x1_05_90_03_90⟩,
    ⟨4097, 8, 8, 0x1_01_b0_04_b0⟩,
    ⟨132, 8, 8, 0x1_03_90_04_90⟩,
    ⟨72, 8, 8, 0x1_04_90_03_90⟩,
    ⟨2049, 8, 8, 0x1_01_a0_05_a0⟩,
    ⟨258, 8, 8, 0x1_02_90_05_90⟩,
    ⟨48, 8, 8, 0x1_05_90_02_90⟩,
    ⟨1025, 8, 8, 0x1_01_a0_04_a0⟩,
    ⟨130, 8, 8, 0x1_02_90_04_90⟩,
    ⟨40, 8, 8, 0x1_04_90_02_90⟩,
    ⟨513, 8, 8, 0x1_01_a0_03_a0⟩,
    ⟨66, 8, 8, 0x1_02_90_03_90⟩,
    ⟨36, 8, 8, 0x1_03_90_02_90⟩,
    ⟨16897, 15, 15, 0x1_01_a0_03_a0_c0_05_c0⟩,
    ⟨9217, 15, 15, 0x1_01_a0_04_a0_b0_05_b0⟩,
    ⟨6145, 15, 15, 0x1_01_a0_05_a0_b0_04_b0⟩,
    ⟨16450, 15, 15, 0x1_02_90_03_90_c0_05_c0⟩,
    ⟨8322, 15, 15, 0x1_02_90_04_90_b0_05_b0⟩,
    ⟨4354, 15, 15, 0x1_02_90_05_90_b0_04_b0⟩,
    ⟨16420, 15, 15, 0x1_03_90_02_90_c0_05_c0⟩,
    ⟨2180, 15, 15, 0x1_03_90_04_90_a0_05_a0⟩,
    ⟨1284, 15, 15, 0x1_03_90_05_90_a0_04_a0⟩,
    ⟨8232, 15, 15, 0x1_04_90_02_90_b0_05_b0⟩,
    ⟨2120, 15, 15, 0x1_04_90_03_90_a0_05_a0⟩,
    ⟨776, 15, 15, 0x1_04_90_05_90_a0_03_a0⟩,
    ⟨4144, 15, 15, 0x1_05_90_02_90_b0_04_b0⟩,
    ⟨1104, 15, 15, 0x1_05_90_03_90_a0_04_a0⟩,
    ⟨656, 15, 15, 0x1_05_90_04_90_a0_03_a0⟩,
    ⟨3, 2, 2, 0x1_01_02⟩,
    ⟨5, 2, 2, 0x1_01_03⟩,
    ⟨9, 2, 2, 0x1_01_04⟩,
    ⟨17, 2, 2, 0x1_01_05⟩,
    ⟨6, 2, 2, 0x1_02_03⟩,
    ⟨10, 2, 2, 0x1_02_04⟩,
    ⟨18, 2, 2, 0x1_02_05⟩,
    ⟨12, 2, 2, 0x1_03_04⟩,
    ⟨20, 2, 2, 0x1_03_05⟩,
    ⟨24, 2, 2, 0x1_04_05⟩,
    ⟨96, 14, 14, 0x1_90_02_90_90_03_90⟩,
    ⟨160, 14, 14, 0x1_90_02_90_90_04_90⟩,
    ⟨288, 14, 14, 0x1_90_02_90_90_05_90⟩,
    ⟨192, 14, 14, 0x1_90_03_90_90_04_90⟩,
    ⟨320, 14, 14, 0x1_90_03_90_90_05_90⟩,
    ⟨384, 14, 14, 0x1_90_04_90_90_05_90⟩,
    ⟨1536, 14, 14, 0x1_a0_03_a0_a0_04_a0⟩,
    ⟨2560, 14, 14, 0x1_a0_03_a0_a0_05_a0⟩,
    ⟨3072, 14, 14, 0x1_a0_04_a0_a0_05_a0⟩,
    ⟨12288, 14, 14, 0x1_b0_04_b0_b0_05_b0⟩,
    ⟨12320, 21, 21, 0x1_90_02_90_b0_04_b0_b0_05_b0⟩,
    ⟨3136, 21, 21, 0x1_90_03_90_a0_04_a0_a0_05_a0⟩,
    ⟨2688, 21, 21, 0x1_90_04_90_a0_03_a0_a0_05_a0⟩,
    ⟨1792, 21, 21, 0x1_90_05_90_a0_03_a0_a0_04_a0⟩,
    ⟨896, 21, 21, 0x1_90_04_90_90_05_90_a0_03_a0⟩,
    ⟨1344, 21, 21, 0x1_90_03_90_90_05_90_a0_04_a0⟩,
    ⟨2240, 21, 21, 0x1_90_03_90_90_04_90_a0_05_a0⟩,
    ⟨4384, 21, 21, 0x1_90_02_90_90_05_90_b0_04_b0⟩,
    ⟨8352, 21, 21, 0x1_90_02_90_90_04_90_b0_05_b0⟩,
    ⟨16480, 21, 21, 0x1_90_02_90_90_03_90_c0_05_c0⟩,
    ⟨536, 9, 9, 0x1_04_05_a0_03_a0⟩,
    ⟨1044, 9, 9, 0x1_03_05_a0_04_a0⟩,
    ⟨2060, 9, 9, 0x1_03_04_a0_05_a0⟩,
    ⟨12290, 15, 15, 0x1_02_b0_04_b0_b0_05_b0⟩,
    ⟨4114, 9, 9, 0x1_02_05_b0_04_b0⟩,
    ⟨8202, 9, 9, 0x1_02_04_b0_05_b0⟩,
    ⟨3076, 15, 15, 0x1_03_a0_04_a0_a0_05_a0⟩,
    ⟨16390, 9, 9, 0x1_02_03_c0_05_c0⟩,
    ⟨2568, 15, 15, 0x1_04_a0_03_a0_a0_05_a0⟩,
    ⟨1552, 15, 15, 0x1_05_a0_03_a0_a0_04_a0⟩,
    ⟨4113, 9, 9, 0x1_01_05_b0_04_b0⟩,
    ⟨8201, 9, 9, 0x1_01_04_b0_05_b0⟩,
    ⟨388, 15, 15, 0x1_03_90_04_90_90_05_90⟩,
    ⟨88, 9, 9, 0x1_04_05_90_03_90⟩,
    ⟨16389, 9, 9, 0x1_01_03_c0_05_c0⟩,
    ⟨328, 15, 15, 0x1_04_90_03_90_90_05_90⟩,
    ⟨148, 9, 9, 0x1_03_05_90_04_90⟩,
    ⟨208, 15, 15, 0x1_05_90_03_90_90_04_90⟩,
    ⟨268, 9, 9, 0x1_03_04_90_05_90⟩,
    ⟨12289, 15, 15, 0x1_01_b0_04_b0_b0_05_b0⟩,
    ⟨16387, 9, 9, 0x1_01_02_c0_05_c0⟩,
    ⟨296, 15, 15, 0x1_04_90_02_90_90_05_90⟩,
    ⟨146, 9, 9, 0x1_02_05_90_04_90⟩,
    ⟨1041, 9, 9, 0x1_01_05_a0_04_a0⟩,
    ⟨176, 15, 15, 0x1_05_90_02_90_90_04_90⟩,
    ⟨266, 9, 9, 0x1_02_04_90_05_90⟩,
    ⟨2057, 9, 9, 0x1_01_04_a0_05_a0⟩,
    ⟨3073, 15, 15, 0x1_01_a0_04_a0_a0_05_a0⟩,
    ⟨386, 15, 15, 0x1_02_90_04_90_90_05_90⟩,
    ⟨56, 9, 9, 0x1_04_05_90_02_90⟩,
    ⟨112, 15, 15, 0x1_05_90_02_90_90_03_90⟩,
    ⟨262, 9, 9, 0x1_02_03_90_05_90⟩,
    ⟨2053, 9, 9, 0x1_01_03_a0_05_a0⟩,
    ⟨8195, 9, 9, 0x1_01_02_b0_05_b0⟩,
    ⟨2561, 15, 15, 0x1_01_a0_03_a0_a0_05_a0⟩,
    ⟨322, 15, 15, 0x1_02_90_03_90_90_05_90⟩,
    ⟨292, 15, 15, 0x1_03_90_02_90_90_05_90⟩,
    ⟨52, 9, 9, 0x1_03_05_90_02_90⟩,
    ⟨82, 9, 9, 0x1_02_05_90_03_90⟩,
    ⟨529, 9, 9, 0x1_01_05_a0_03_a0⟩,
    ⟨1537, 15, 15, 0x1_01_a0_03_a0_a0_04_a0⟩,
    ⟨194, 15, 15, 0x1_02_90_03_90_90_04_90⟩,
    ⟨164, 15, 15, 0x1_03_90_02_90_90_04_90⟩,
    ⟨104, 15, 15, 0x1_04_90_02_90_90_03_90⟩,
    ⟨44, 9, 9, 0x1_03_04_90_02_90⟩,
    ⟨74, 9, 9, 0x1_02_04_90_03_90⟩,
    ⟨134, 9, 9, 0x1_02_03_90_04_90⟩,
    ⟨521, 9, 9, 0x1_01_04_a0_03_a0⟩,
    ⟨1029, 9, 9, 0x1_01_03_a0_04_a0⟩,
    ⟨4099, 9, 9, 0x1_01_02_b0_04_b0⟩,
    ⟨12291, 16, 16, 0x1_01_02_b0_04_b0_b0_05_b0⟩,
    ⟨3077, 16, 16, 0x1_01_03_a0_04_a0_a0_05_a0⟩,
    ⟨2569, 16, 16, 0x1_01_04_a0_03_a0_a0_05_a0⟩,
    ⟨1553, 16, 16, 0x1_01_05_a0_03_a0_a0_04_a0⟩,
    ⟨390, 16, 16, 0x1_02_03_90_04_90_90_05_90⟩,
    ⟨330, 16, 16, 0x1_02_04_90_03_90_90_05_90⟩,
    ⟨210, 16, 16, 0x1_02_05_90_03_90_90_04_90⟩,
    ⟨300, 16, 16, 0x1_03_04_90_02_90_90_05_90⟩,
    ⟨180, 16, 16, 0x1_03_05_90_02_90_90_04_90⟩,
    ⟨120, 16, 16, 0x1_04_05_90_02_90_90_03_90⟩,
    ⟨17920, 21, 21, 0x1_a0_03_a0_a0_04_a0_c0_05_c0⟩,
    ⟨9728, 21, 21, 0x1_a0_03_a0_a0_04_a0_b0_05_b0⟩,
    ⟨6656, 21, 21, 0x1_a0_03_a0_a0_05_a0_b0_04_b0⟩,
    ⟨16576, 21, 21, 0x1_90_03_90_90_04_90_c0_05_c0⟩,
    ⟨8384, 21, 21, 0x1_90_03_90_90_04_90_b0_05_b0⟩,
    ⟨4416, 21, 21, 0x1_90_03_90_90_05_90_b0_04_b0⟩,
    ⟨16544, 21, 21, 0x1_90_02_90_90_04_90_c0_05_c0⟩,
    ⟨2208, 21, 21, 0x1_90_02_90_90_04_90_a0_05_a0⟩,
    ⟨1312, 21, 21, 0x1_90_02_90_90_05_90_a0_04_a0⟩,
    ⟨8288, 21, 21, 0x1_90_02_90_90_03_90_b0_05_b0⟩,
    ⟨2144, 21, 21, 0x1_90_02_90_90_03_90_a0_05_a0⟩,
    ⟨800, 21, 21, 0x1_90_02_90_90_05_90_a0_03_a0⟩,
    ⟨4192, 21, 21, 0x1_90_02_90_90_03_90_b0_04_b0⟩,
    ⟨1120, 21, 21, 0x1_90_02_90_90_03_90_a0_04_a0⟩,
    ⟨672, 21, 21, 0x1_90_02_90_90_04_90_a0_03_a0⟩,
    ⟨16396, 9, 9, 0x1_03_04_c0_05_c0⟩,
    ⟨8204, 9, 9, 0x1_03_04_b0_05_b0⟩,
    ⟨4116, 9, 9, 0x1_03_05_b0_04_b0⟩,
    ⟨16394, 9, 9, 0x1_02_04_c0_05_c0⟩,
    ⟨2058, 9, 9, 0x1_02_04_a0_05_a0⟩,
    ⟨1042, 9, 9, 0x1_02_05_a0_04_a0⟩,
    ⟨8198, 9, 9, 0x1_02_03_b0_05_b0⟩,
    ⟨2054, 9, 9, 0x1_02_03_a0_05_a0⟩,
    ⟨530, 9, 9, 0x1_02_05_a0_03_a0⟩,
    ⟨4102, 9, 9, 0x1_02_03_b0_04_b0⟩,
    ⟨1030, 9, 9, 0x1_02_03_a0_04_a0⟩,
    ⟨522, 9, 9, 0x1_02_04_a0_03_a0⟩,
    ⟨16393, 9, 9, 0x1_01_04_c0_05_c0⟩,
    ⟨265, 9, 9, 0x1_01_04_90_05_90⟩,
    ⟨145, 9, 9, 0x1_01_05_90_04_90⟩,
    ⟨8197, 9, 9, 0x1_01_03_b0_05_b0⟩,
    ⟨261, 9, 9, 0x1_01_03_90_05_90⟩,
    ⟨81, 9, 9, 0x1_01_05_90_03_90⟩,
    ⟨4101, 9, 9, 0x1_01_03_b0_04_b0⟩,
    ⟨133, 9, 9, 0x1_01_03_90_04_90⟩,
    ⟨73, 9, 9, 0x1_01_04_90_03_90⟩,
    ⟨2051, 9, 9, 0x1_01_02_a0_05_a0⟩,
    ⟨259, 9, 9, 0x1_01_02_90_05_90⟩,
    ⟨49, 9, 9, 0x1_01_05_90_02_90⟩,
    ⟨1027, 9, 9, 0x1_01_02_a0_04_a0⟩,
    ⟨131, 9, 9, 0x1_01_02_90_04_90⟩,
    ⟨41, 9, 9, 0x1_01_04_90_02_90⟩,
    ⟨515, 9, 9, 0x1_01_02_a0_03_a0⟩,
    ⟨67, 9, 9, 0x1_01_02_90_03_90⟩,
    ⟨37, 9, 9, 0x1_01_03_90_02_90⟩,
    ⟨17921, 22, 22, 0x1_01_a0_03_a0_a0_04_a0_c0_05_c0⟩,
    ⟨9729, 22, 22, 0x1_01_a0_03_a0_a0_04_a0_b0_05_b0⟩,
    ⟨6657, 22, 22, 0x1_01_a0_03_a0_a0_05_a0_b0_04_b0⟩,
    ⟨16578, 22, 22, 0x1_02_90_03_90_90_04_90_c0_05_c0⟩,
    ⟨8386, 22, 22, 0x1_02_90_03_90_90_04_90_b0_05_b0⟩,
    ⟨4418, 22, 22, 0x1_02_90_03_90_90_05_90_b0_04_b0⟩,
    ⟨16548, 22, 22, 0x1_03_90_02_90_90_04_90_c0_05_c0⟩,
    ⟨2212, 22, 22, 0x1_03_90_02_90_90_04_90_a0_05_a0⟩,
    ⟨1316, 22, 22, 0x1_03_90_02_90_90_05_90_a0_04_a0⟩,
    ⟨8296, 22, 22, 0x1_04_90_02_90_90_03_90_b0_05_b0⟩,
    ⟨2152, 22, 22, 0x1_04_90_02_90_90_03_90_a0_05_a0⟩,
    ⟨808, 22, 22, 0x1_04_90_02_90_90_05_90_a0_03_a0⟩,
    ⟨4208, 22, 22, 0x1_05_90_02_90_90_03_90_b0_04_b0⟩,
    ⟨1136, 22, 22, 0x1_05_90_02_90_90_03_90_a0_04_a0⟩,
    ⟨688, 22, 22, 0x1_05_90_02_90_90_04_90_a0_03_a0⟩,
    ⟨16428, 16, 16, 0x1_03_04_90_02_90_c0_05_c0⟩,
    ⟨8236, 16, 16, 0x1_03_04_90_02_90_b0_05_b0⟩,
    ⟨4148, 16, 16, 0x1_03_05_90_02_90_b0_04_b0⟩,
    ⟨16458, 16, 16, 0x1_02_04_90_03_90_c0_05_c0⟩,
    ⟨2122, 16, 16, 0x1_02_04_90_03_90_a0_05_a0⟩,
    ⟨1106, 16, 16, 0x1_02_05_90_03_90_a0_04_a0⟩,
    ⟨8326, 16, 16, 0x1_02_03_90_04_90_b0_05_b0⟩,
    ⟨2182, 16, 16, 0x1_02_03_90_04_90_a0_05_a0⟩,
    ⟨658, 16, 16, 0x1_02_05_90_04_90_a0_03_a0⟩,
    ⟨4358, 16, 16, 0x1_02_03_90_05_90_b0_04_b0⟩,
    ⟨1286, 16, 16, 0x1_02_03_90_05_90_a0_04_a0⟩,
    ⟨778, 16, 16, 0x1_02_04_90_05_90_a0_03_a0⟩,
    ⟨16905, 16, 16, 0x1_01_04_a0_03_a0_c0_05_c0⟩,
    ⟨777, 16, 16, 0x1_01_04_90_05_90_a0_03_a0⟩,
    ⟨657, 16, 16, 0x1_01_05_90_04_90_a0_03_a0⟩,
    ⟨9221, 16, 16, 0x1_01_03_a0_04_a0_b0_05_b0⟩,
    ⟨1285, 16, 16, 0x1_01_03_90_05_90_a0_04_a0⟩,
    ⟨1105, 16, 16, 0x1_01_05_90_03_90_a0_04_a0⟩,
    ⟨6149, 16, 16, 0x1_01_03_a0_05_a0_b0_04_b0⟩,
    ⟨2181, 16, 16, 0x1_01_03_90_04_90_a0_05_a0⟩,
    ⟨2121, 16, 16, 0x1_01_04_90_03_90_a0_05_a0⟩,
    ⟨6147, 16, 16, 0x1_01_02_a0_05_a0_b0_04_b0⟩,
    ⟨4355, 16, 16, 0x1_01_02_90_05_90_b0_04_b0⟩,
    ⟨4145, 16, 16, 0x1_01_05_90_02_90_b0_04_b0⟩,
    ⟨9219, 16, 16, 0x1_01_02_a0_04_a0_b0_05_b0⟩,
    ⟨8323, 16, 16, 0x1_01_02_90_04_90_b0_05_b0⟩,
    ⟨8233, 16, 16, 0x1_01_04_90_02_90_b0_05_b0⟩,
    ⟨16899, 16, 16, 0x1_01_02_a0_03_a0_c0_05_c0⟩,
    ⟨16451, 16, 16, 0x1_01_02_90_03_90_c0_05_c0⟩,
    ⟨16421, 16, 16, 0x1_01_03_90_02_90_c0_05_c0⟩,
    ⟨3584, 21, 21, 0x1_a0_03_a0_a0_04_a0_a0_05_a0⟩,
    ⟨448, 21, 21, 0x1_90_03_90_90_04_90_90_05_90⟩,
    ⟨416, 21, 21, 0x1_90_02_90_90_04_90_90_05_90⟩,
    ⟨352, 21, 21, 0x1_90_02_90_90_03_90_90_05_90⟩,
    ⟨224, 21, 21, 0x1_90_02_90_90_03_90_90_04_90⟩,
    ⟨28, 3, 3, 0x1_03_04_05⟩,
    ⟨26, 3, 3, 0x1_02_04_05⟩,
    ⟨22, 3, 3, 0x1_02_03_05⟩,
    ⟨14, 3, 3, 0x1_02_03_04⟩,
    ⟨25, 3, 3, 0x1_01_04_05⟩,
    ⟨21, 3, 3, 0x1_01_03_05⟩,
    ⟨13, 3, 3, 0x1_01_03_04⟩,
    ⟨19, 3, 3, 0x1_01_02_05⟩,
    ⟨11, 3, 3, 0x1_01_02_04⟩,
    ⟨7, 3, 3, 0x1_01_02_03⟩,
    ⟨3585, 22, 22, 0x1_01_a0_03_a0_a0_04_a0_a0_05_a0⟩,
    ⟨450, 22, 22, 0x1_02_90_03_90_90_04_90_90_05_90⟩,
    ⟨420, 22, 22, 0x1_03_90_02_90_90_04_90_90_05_90⟩,
    ⟨360, 22, 22, 0x1_04_90_02_90_90_03_90_90_05_90⟩,
    ⟨240, 22, 22, 0x1_05_90_02_90_90_03_90_90_04_90⟩,
    ⟨60, 10, 10, 0x1_03_04_05_90_02_90⟩,
    ⟨90, 10, 10, 0x1_02_04_05_90_03_90⟩,
    ⟨150, 10, 10, 0x1_02_03_05_90_04_90⟩,
    ⟨270, 10, 10, 0x1_02_03_04_90_05_90⟩,
    ⟨537, 10, 10, 0x1_01_04_05_a0_03_a0⟩,
    ⟨1045, 10, 10, 0x1_01_03_05_a0_04_a0⟩,
    ⟨2061, 10, 10, 0x1_01_03_04_a0_05_a0⟩,
    ⟨4115, 10, 10, 0x1_01_02_05_b0_04_b0⟩,
    ⟨8203, 10, 10, 0x1_01_02_04_b0_05_b0⟩,
    ⟨16391, 10, 10, 0x1_01_02_03_c0_05_c0⟩,
    ⟨17056, 28, 28, 0x1_90_02_90_90_04_90_a0_03_a0_c0_05_c0⟩,
    ⟨9312, 28, 28, 0x1_90_02_90_90_03_90_a0_04_a0_b0_05_b0⟩,
    ⟨6240, 28, 28, 0x1_90_02_90_90_03_90_a0_05_a0_b0_04_b0⟩,
    ⟨17504, 28, 28, 0x1_90_02_90_90_03_90_a0_04_a0_c0_05_c0⟩,
    ⟨8864, 28, 28, 0x1_90_02_90_90_04_90_a0_03_a0_b0_05_b0⟩,
    ⟨4896, 28, 28, 0x1_90_02_90_90_05_90_a0_03_a0_b0_04_b0⟩,
    ⟨20576, 28, 28, 0x1_90_02_90_90_03_90_b0_04_b0_c0_05_c0⟩,
    ⟨2752, 28, 28, 0x1_90_03_90_90_04_90_a0_03_a0_a0_05_a0⟩,
    ⟨1856, 28, 28, 0x1_90_03_90_90_05_90_a0_03_a0_a0_04_a0⟩,
    ⟨12448, 28, 28, 0x1_90_02_90_90_04_90_b0_04_b0_b0_05_b0⟩,
    ⟨3264, 28, 28, 0x1_90_03_90_90_04_90_a0_04_a0_a0_05_a0⟩,
    ⟨1920, 28, 28, 0x1_90_04_90_90_05_90_a0_03_a0_a0_04_a0⟩,
    ⟨12576, 28, 28, 0x1_90_02_90_90_05_90_b0_04_b0_b0_05_b0⟩,
    ⟨3392, 28, 28, 0x1_90_03_90_90_05_90_a0_04_a0_a0_05_a0⟩,
    ⟨2944, 28, 28, 0x1_90_04_90_90_05_90_a0_03_a0_a0_05_a0⟩,
    ⟨16906, 16, 16, 0x1_02_04_a0_03_a0_c0_05_c0⟩,
    ⟨9222, 16, 16, 0x1_02_03_a0_04_a0_b0_05_b0⟩,
    ⟨6150, 16, 16, 0x1_02_03_a0_05_a0_b0_04_b0⟩,
    ⟨17414, 16, 16, 0x1_02_03_a0_04_a0_c0_05_c0⟩,
    ⟨8714, 16, 16, 0x1_02_04_a0_03_a0_b0_05_b0⟩,
    ⟨4626, 16, 16, 0x1_02_05_a0_03_a0_b0_04_b0⟩,
    ⟨20486, 16, 16, 0x1_02_03_b0_04_b0_c0_05_c0⟩,
    ⟨2572, 16, 16, 0x1_03_04_a0_03_a0_a0_05_a0⟩,
    ⟨1556, 16, 16, 0x1_03_05_a0_03_a0_a0_04_a0⟩,
    ⟨12298, 16, 16, 0x1_02_04_b0_04_b0_b0_05_b0⟩,
    ⟨3084, 16, 16, 0x1_03_04_a0_04_a0_a0_05_a0⟩,
    ⟨1560, 16, 16, 0x1_04_05_a0_03_a0_a0_04_a0⟩,
    ⟨12306, 16, 16, 0x1_02_05_b0_04_b0_b0_05_b0⟩,
    ⟨3092, 16, 16, 0x1_03_05_a0_04_a0_a0_05_a0⟩,
    ⟨2584, 16, 16, 0x1_04_05_a0_03_a0_a0_05_a0⟩,
    ⟨16457, 16, 16, 0x1_01_04_90_03_90_c0_05_c0⟩,
    ⟨8325, 16, 16, 0x1_01_03_90_04_90_b0_05_b0⟩,
    ⟨4357, 16, 16, 0x1_01_03_90_05_90_b0_04_b0⟩,
    ⟨16517, 16, 16, 0x1_01_03_90_04_90_c0_05_c0⟩,
    ⟨8265, 16, 16, 0x1_01_04_90_03_90_b0_05_b0⟩,
    ⟨4177, 16, 16, 0x1_01_05_90_03_90_b0_04_b0⟩,
    ⟨20485, 16, 16, 0x1_01_03_b0_04_b0_c0_05_c0⟩,
    ⟨332, 16, 16, 0x1_03_04_90_03_90_90_05_90⟩,
    ⟨212, 16, 16, 0x1_03_05_90_03_90_90_04_90⟩,
    ⟨12297, 16, 16, 0x1_01_04_b0_04_b0_b0_05_b0⟩,
    ⟨396, 16, 16, 0x1_03_04_90_04_90_90_05_90⟩,
    ⟨216, 16, 16, 0x1_04_05_90_03_90_90_04_90⟩,
    ⟨12305, 16, 16, 0x1_01_05_b0_04_b0_b0_05_b0⟩,
    ⟨404, 16, 16, 0x1_03_05_90_04_90_90_05_90⟩,
    ⟨344, 16, 16, 0x1_04_05_90_03_90_90_05_90⟩,
    ⟨16425, 16, 16, 0x1_01_04_90_02_90_c0_05_c0⟩,
    ⟨2179, 16, 16, 0x1_01_02_90_04_90_a0_05_a0⟩,
    ⟨1283, 16, 16, 0x1_01_02_90_05_90_a0_04_a0⟩,
    ⟨16515, 16, 16, 0x1_01_02_90_04_90_c0_05_c0⟩,
    ⟨2089, 16, 16, 0x1_01_04_90_02_90_a0_05_a0⟩,
    ⟨1073, 16, 16, 0x1_01_05_90_02_90_a0_04_a0⟩,
    ⟨17411, 16, 16, 0x1_01_02_a0_04_a0_c0_05_c0⟩,
    ⟨298, 16, 16, 0x1_02_04_90_02_90_90_05_90⟩,
    ⟨178, 16, 16, 0x1_02_05_90_02_90_90_04_90⟩,
    ⟨3081, 16, 16, 0x1_01_04_a0_04_a0_a0_05_a0⟩,
    ⟨394, 16, 16, 0x1_02_04_90_04_90_90_05_90⟩,
    ⟨184, 16, 16, 0x1_04_05_90_02_90_90_04_90⟩,
    ⟨3089, 16, 16, 0x1_01_05_a0_04_a0_a0_05_a0⟩,
    ⟨402, 16, 16, 0x1_02_05_90_04_90_90_05_90⟩,
    ⟨312, 16, 16, 0x1_04_05_90_02_90_90_05_90⟩,
    ⟨8229, 16, 16, 0x1_01_03_90_02_90_b0_05_b0⟩,
    ⟨2115, 16, 16, 0x1_01_02_90_03_90_a0_05_a0⟩,
    ⟨771, 16, 16, 0x1_01_02_90_05_90_a0_03_a0⟩,
    ⟨8259, 16, 16, 0x1_01_02_90_03_90_b0_05_b0⟩,
    ⟨2085, 16, 16, 0x1_01_03_90_02_90_a0_05_a0⟩,
    ⟨561, 16, 16, 0x1_01_05_90_02_90_a0_03_a0⟩,
    ⟨8707, 16, 16, 0x1_01_02_a0_03_a0_b0_05_b0⟩,
    ⟨294, 16, 16, 0x1_02_03_90_02_90_90_05_90⟩,
    ⟨114, 16, 16, 0x1_02_05_90_02_90_90_03_90⟩,
    ⟨2565, 16, 16, 0x1_01_03_a0_03_a0_a0_05_a0⟩,
    ⟨326, 16, 16, 0x1_02_03_90_03_90_90_05_90⟩,
    ⟨116, 16, 16, 0x1_03_05_90_02_90_90_03_90⟩,
    ⟨2577, 16, 16, 0x1_01_05_a0_03_a0_a0_05_a0⟩,
    ⟨338, 16, 16, 0x1_02_05_90_03_90_90_05_90⟩,
    ⟨308, 16, 16, 0x1_03_05_90_02_90_90_05_90⟩,
    ⟨4133, 16, 16, 0x1_01_03_90_02_90_b0_04_b0⟩,
    ⟨1091, 16, 16, 0x1_01_02_90_03_90_a0_04_a0⟩,
    ⟨643, 16, 16, 0x1_01_02_90_04_90_a0_03_a0⟩,
    ⟨4163, 16, 16, 0x1_01_02_90_03_90_b0_04_b0⟩,
    ⟨1061, 16, 16, 0x1_01_03_90_02_90_a0_04_a0⟩,
    ⟨553, 16, 16, 0x1_01_04_90_02_90_a0_03_a0⟩,
    ⟨4611, 16, 16, 0x1_01_02_a0_03_a0_b0_04_b0⟩,
    ⟨166, 16, 16, 0x1_02_03_90_02_90_90_04_90⟩,
    ⟨106, 16, 16, 0x1_02_04_90_02_90_90_03_90⟩,
    ⟨1541, 16, 16, 0x1_01_03_a0_03_a0_a0_04_a0⟩,
    ⟨198, 16, 16, 0x1_02_03_90_03_90_90_04_90⟩,
    ⟨108, 16, 16, 0x1_03_04_90_02_90_90_03_90⟩,
    ⟨1545, 16, 16, 0x1_01_04_a0_03_a0_a0_04_a0⟩,
    ⟨202, 16, 16, 0x1_02_04_90_03_90_90_04_90⟩,
    ⟨172, 16, 16, 0x1_03_04_90_02_90_90_04_90⟩,
    ⟨7040, 35, 35, 0x1_90_04_90_90_05_90_a0_03_a0_a0_05_a0_b0_04_b0⟩,
    ⟨6680, 23, 23, 0x1_04_05_a0_03_a0_a0_05_a0_b0_04_b0⟩,
    ⟨4440, 23, 23, 0x1_04_05_90_03_90_90_05_90_b0_04_b0⟩,
    ⟨1336, 23, 23, 0x1_04_05_90_02_90_90_05_90_a0_04_a0⟩,
    ⟨820, 23, 23, 0x1_03_05_90_02_90_90_05_90_a0_03_a0⟩,
    ⟨684, 23, 23, 0x1_03_04_90_02_90_90_04_90_a0_03_a0⟩,
    ⟨12384, 28, 28, 0x1_90_02_90_90_03_90_b0_04_b0_b0_05_b0⟩,
    ⟨3168, 28, 28, 0x1_90_02_90_90_03_90_a0_04_a0_a0_05_a0⟩,
    ⟨2720, 28, 28, 0x1_90_02_90_90_04_90_a0_03_a0_a0_05_a0⟩,
    ⟨1824, 28, 28, 0x1_90_02_90_90_05_90_a0_03_a0_a0_04_a0⟩,
    ⟨928, 28, 28, 0x1_90_02_90_90_04_90_90_05_90_a0_03_a0⟩,
    ⟨1376, 28, 28, 0x1_90_02_90_90_03_90_90_05_90_a0_04_a0⟩,
    ⟨2272, 28, 28, 0x1_90_02_90_90_03_90_90_04_90_a0_05_a0⟩,
    ⟨4448, 28, 28, 0x1_90_02_90_90_03_90_90_05_90_b0_04_b0⟩,
    ⟨8416, 28, 28, 0x1_90_02_90_90_03_90_90_04_90_b0_05_b0⟩,
    ⟨16608, 28, 28, 0x1_90_02_90_90_03_90_90_04_90_c0_05_c0⟩,
    ⟨538, 10, 10, 0x1_02_04_05_a0_03_a0⟩,
    ⟨1046, 10, 10, 0x1_02_03_05_a0_04_a0⟩,
    ⟨2062, 10, 10, 0x1_02_03_04_a0_05_a0⟩,
    ⟨12294, 16, 16, 0x1_02_03_b0_04_b0_b0_05_b0⟩,
    ⟨4118, 10, 10, 0x1_02_03_05_b0_04_b0⟩,
    ⟨8206, 10, 10, 0x1_02_03_04_b0_05_b0⟩,
    ⟨3078, 16, 16, 0x1_02_03_a0_04_a0_a0_05_a0⟩,
    ⟨16398, 10, 10, 0x1_02_03_04_c0_05_c0⟩,
    ⟨2570, 16, 16, 0x1_02_04_a0_03_a0_a0_05_a0⟩,
    ⟨1554, 16, 16, 0x1_02_05_a0_03_a0_a0_04_a0⟩,
    ⟨4117, 10, 10, 0x1_01_03_05_b0_04_b0⟩,
    ⟨8205, 10, 10, 0x1_01_03_04_b0_05_b0⟩,
    ⟨389, 16, 16, 0x1_01_03_90_04_90_90_05_90⟩,
    ⟨89, 10, 10, 0x1_01_04_05_90_03_90⟩,
    ⟨16397, 10, 10, 0x1_01_03_04_c0_05_c0⟩,
    ⟨329, 16, 16, 0x1_01_04_90_03_90_90_05_90⟩,
    ⟨149, 10, 10, 0x1_01_03_05_90_04_90⟩,
    ⟨209, 16, 16, 0x1_01_05_90_03_90_90_04_90⟩,
    ⟨269, 10, 10, 0x1_01_03_04_90_05_90⟩,
    ⟨12293, 16, 16, 0x1_01_03_b0_04_b0_b0_05_b0⟩,
    ⟨16395, 10, 10, 0x1_01_02_04_c0_05_c0⟩,
    ⟨297, 16, 16, 0x1_01_04_90_02_90_90_05_90⟩,
    ⟨147, 10, 10, 0x1_01_02_05_90_04_90⟩,
    ⟨1043, 10, 10, 0x1_01_02_05_a0_04_a0⟩,
    ⟨177, 16, 16, 0x1_01_05_90_02_90_90_04_90⟩,
    ⟨267, 10, 10, 0x1_01_02_04_90_05_90⟩,
    ⟨2059, 10, 10, 0x1_01_02_04_a0_05_a0⟩,
    ⟨3075, 16, 16, 0x1_01_02_a0_04_a0_a0_05_a0⟩,
    ⟨387, 16, 16, 0x1_01_02_90_04_90_90_05_90⟩,
    ⟨57, 10, 10, 0x1_01_04_05_90_02_90⟩,
    ⟨113, 16, 16, 0x1_01_05_90_02_90_90_03_90⟩,
    ⟨263, 10, 10, 0x1_01_02_03_90_05_90⟩,
    ⟨2055, 10, 10, 0x1_01_02_03_a0_05_a0⟩,
    ⟨8199, 10, 10, 0x1_01_02_03_b0_05_b0⟩,
    ⟨2563, 16, 16, 0x1_01_02_a0_03_a0_a0_05_a0⟩,
    ⟨323, 16, 16, 0x1_01_02_90_03_90_90_05_90⟩,
    ⟨293, 16, 16, 0x1_01_03_90_02_90_90_05_90⟩,
    ⟨53, 10, 10, 0x1_01_03_05_90_02_90⟩,
    ⟨83, 10, 10, 0x1_01_02_05_90_03_90⟩,
    ⟨531, 10, 10, 0x1_01_02_05_a0_03_a0⟩,
    ⟨1539, 16, 16, 0x1_01_02_a0_03_a0_a0_04_a0⟩,
    ⟨195, 16, 16, 0x1_01_02_90_03_90_90_04_90⟩,
    ⟨165, 16, 16, 0x1_01_03_90_02_90_90_04_90⟩,
    ⟨105, 16, 16, 0x1_01_04_90_02_90_90_03_90⟩,
    ⟨45, 10, 10, 0x1_01_03_04_90_02_90⟩,
    ⟨75, 10, 10, 0x1_01_02_04_90_03_90⟩,
    ⟨135, 10, 10, 0x1_01_02_03_90_04_90⟩,
    ⟨523, 10, 10, 0x1_01_02_04_a0_03_a0⟩,
    ⟨1031, 10, 10, 0x1_01_02_03_a0_04_a0⟩,
    ⟨4103, 10, 10, 0x1_01_02_03_b0_04_b0⟩,
    ⟨480, 28, 28, 0x1_90_02_90_90_03_90_90_04_90_90_05_90⟩,
    ⟨30, 4, 4, 0x1_02_03_04_05⟩,
    ⟨29, 4, 4, 0x1_01_03_04_05⟩,
    ⟨27, 4, 4, 0x1_01_02_04_05⟩,
    ⟨23, 4, 4, 0x1_01_02_03_05⟩,
    ⟨15, 4, 4, 0x1_01_02_03_04⟩,
    ⟨6324, 30, 30, 0x1_03_05_90_02_90_90_04_90_a0_05_a0_b0_04_b0⟩,
    ⟨6264, 30, 30, 0x1_04_05_90_02_90_90_03_90_a0_05_a0_b0_04_b0⟩,
    ⟨9336, 30, 30, 0x1_04_05_90_02_90_90_03_90_a0_04_a0_b0_05_b0⟩,
    ⟨5428, 30, 30, 0x1_03_05_90_02_90_90_05_90_a0_04_a0_b0_04_b0⟩,
    ⟨4920, 30, 30, 0x1_04_05_90_02_90_90_05_90_a0_03_a0_b0_04_b0⟩,
    ⟨8888, 30, 30, 0x1_04_05_90_02_90_90_04_90_a0_03_a0_b0_05_b0⟩,
    ⟨5458, 30, 30, 0x1_02_05_90_03_90_90_05_90_a0_04_a0_b0_04_b0⟩,
    ⟨1880, 30, 30, 0x1_04_05_90_03_90_90_05_90_a0_03_a0_a0_04_a0⟩,
    ⟨2776, 30, 30, 0x1_04_05_90_03_90_90_04_90_a0_03_a0_a0_05_a0⟩,
    ⟨5010, 30, 30, 0x1_02_05_90_04_90_90_05_90_a0_03_a0_b0_04_b0⟩,
    ⟨1940, 30, 30, 0x1_03_05_90_04_90_90_05_90_a0_03_a0_a0_04_a0⟩,
    ⟨3284, 30, 30, 0x1_03_05_90_03_90_90_04_90_a0_04_a0_a0_05_a0⟩,
    ⟨9098, 30, 30, 0x1_02_04_90_04_90_90_05_90_a0_03_a0_b0_05_b0⟩,
    ⟨2956, 30, 30, 0x1_03_04_90_04_90_90_05_90_a0_03_a0_a0_05_a0⟩,
    ⟨3404, 30, 30, 0x1_03_04_90_03_90_90_05_90_a0_04_a0_a0_05_a0⟩,
    ⟨17027, 23, 23, 0x1_01_02_90_04_90_a0_03_a0_c0_05_c0⟩,
    ⟨9283, 23, 23, 0x1_01_02_90_03_90_a0_04_a0_b0_05_b0⟩,
    ⟨6211, 23, 23, 0x1_01_02_90_03_90_a0_05_a0_b0_04_b0⟩,
    ⟨17475, 23, 23, 0x1_01_02_90_03_90_a0_04_a0_c0_05_c0⟩,
    ⟨8835, 23, 23, 0x1_01_02_90_04_90_a0_03_a0_b0_05_b0⟩,
    ⟨4867, 23, 23, 0x1_01_02_90_05_90_a0_03_a0_b0_04_b0⟩,
    ⟨20517, 23, 23, 0x1_01_03_90_02_90_b0_04_b0_c0_05_c0⟩,
    ⟨2693, 23, 23, 0x1_01_03_90_04_90_a0_03_a0_a0_05_a0⟩,
    ⟨1797, 23, 23, 0x1_01_03_90_05_90_a0_03_a0_a0_04_a0⟩,
    ⟨12329, 23, 23, 0x1_01_04_90_02_90_b0_04_b0_b0_05_b0⟩,
    ⟨3145, 23, 23, 0x1_01_04_90_03_90_a0_04_a0_a0_05_a0⟩,
    ⟨1801, 23, 23, 0x1_01_04_90_05_90_a0_03_a0_a0_04_a0⟩,
    ⟨12337, 23, 23, 0x1_01_05_90_02_90_b0_04_b0_b0_05_b0⟩,
    ⟨3153, 23, 23, 0x1_01_05_90_03_90_a0_04_a0_a0_05_a0⟩,
    ⟨2705, 23, 23, 0x1_01_05_90_04_90_a0_03_a0_a0_05_a0⟩,
    ⟨16937, 23, 23, 0x1_01_04_90_02_90_a0_03_a0_c0_05_c0⟩,
    ⟨9253, 23, 23, 0x1_01_03_90_02_90_a0_04_a0_b0_05_b0⟩,
    ⟨6181, 23, 23, 0x1_01_03_90_02_90_a0_05_a0_b0_04_b0⟩,
    ⟨17445, 23, 23, 0x1_01_03_90_02_90_a0_04_a0_c0_05_c0⟩,
    ⟨8745, 23, 23, 0x1_01_04_90_02_90_a0_03_a0_b0_05_b0⟩,
    ⟨4657, 23, 23, 0x1_01_05_90_02_90_a0_03_a0_b0_04_b0⟩,
    ⟨20547, 23, 23, 0x1_01_02_90_03_90_b0_04_b0_c0_05_c0⟩,
    ⟨2633, 23, 23, 0x1_01_04_90_03_90_a0_03_a0_a0_05_a0⟩,
    ⟨1617, 23, 23, 0x1_01_05_90_03_90_a0_03_a0_a0_04_a0⟩,
    ⟨12419, 23, 23, 0x1_01_02_90_04_90_b0_04_b0_b0_05_b0⟩,
    ⟨3205, 23, 23, 0x1_01_03_90_04_90_a0_04_a0_a0_05_a0⟩,
    ⟨1681, 23, 23, 0x1_01_05_90_04_90_a0_03_a0_a0_04_a0⟩,
    ⟨12547, 23, 23, 0x1_01_02_90_05_90_b0_04_b0_b0_05_b0⟩,
    ⟨3333, 23, 23, 0x1_01_03_90_05_90_a0_04_a0_a0_05_a0⟩,
    ⟨2825, 23, 23, 0x1_01_04_90_05_90_a0_03_a0_a0_05_a0⟩,
    ⟨16490, 23, 23, 0x1_02_04_90_02_90_90_03_90_c0_05_c0⟩,
    ⟨8358, 23, 23, 0x1_02_03_90_02_90_90_04_90_b0_05_b0⟩,
    ⟨4390, 23, 23, 0x1_02_03_90_02_90_90_05_90_b0_04_b0⟩,
    ⟨16550, 23, 23, 0x1_02_03_90_02_90_90_04_90_c0_05_c0⟩,
    ⟨8298, 23, 23, 0x1_02_04_90_02_90_90_03_90_b0_05_b0⟩,
    ⟨4210, 23, 23, 0x1_02_05_90_02_90_90_03_90_b0_04_b0⟩,
    ⟨20995, 23, 23, 0x1_01_02_a0_03_a0_b0_04_b0_c0_05_c0⟩,
    ⟨842, 23, 23, 0x1_02_04_90_03_90_90_05_90_a0_03_a0⟩,
    ⟨722, 23, 23, 0x1_02_05_90_03_90_90_04_90_a0_03_a0⟩,
    ⟨13315, 23, 23, 0x1_01_02_a0_04_a0_b0_04_b0_b0_05_b0⟩,
    ⟨1414, 23, 23, 0x1_02_03_90_04_90_90_05_90_a0_04_a0⟩,
    ⟨1234, 23, 23, 0x1_02_05_90_03_90_90_04_90_a0_04_a0⟩,
    ⟨14339, 23, 23, 0x1_01_02_a0_05_a0_b0_04_b0_b0_05_b0⟩,
    ⟨2438, 23, 23, 0x1_02_03_90_04_90_90_05_90_a0_05_a0⟩,
    ⟨2378, 23, 23, 0x1_02_04_90_03_90_90_05_90_a0_05_a0⟩,
    ⟨16492, 23, 23, 0x1_03_04_90_02_90_90_03_90_c0_05_c0⟩,
    ⟨2246, 23, 23, 0x1_02_03_90_03_90_90_04_90_a0_05_a0⟩,
    ⟨1350, 23, 23, 0x1_02_03_90_03_90_90_05_90_a0_04_a0⟩,
    ⟨16582, 23, 23, 0x1_02_03_90_03_90_90_04_90_c0_05_c0⟩,
    ⟨2156, 23, 23, 0x1_03_04_90_02_90_90_03_90_a0_05_a0⟩,
    ⟨1140, 23, 23, 0x1_03_05_90_02_90_90_03_90_a0_04_a0⟩,
    ⟨17925, 23, 23, 0x1_01_03_a0_03_a0_a0_04_a0_c0_05_c0⟩,
    ⟨812, 23, 23, 0x1_03_04_90_02_90_90_05_90_a0_03_a0⟩,
    ⟨692, 23, 23, 0x1_03_05_90_02_90_90_04_90_a0_03_a0⟩,
    ⟨7173, 23, 23, 0x1_01_03_a0_04_a0_a0_05_a0_b0_04_b0⟩,
    ⟨4486, 23, 23, 0x1_02_03_90_04_90_90_05_90_b0_04_b0⟩,
    ⟨4276, 23, 23, 0x1_03_05_90_02_90_90_04_90_b0_04_b0⟩,
    ⟨11269, 23, 23, 0x1_01_03_a0_04_a0_a0_05_a0_b0_05_b0⟩,
    ⟨8582, 23, 23, 0x1_02_03_90_04_90_90_05_90_b0_05_b0⟩,
    ⟨8492, 23, 23, 0x1_03_04_90_02_90_90_05_90_b0_05_b0⟩,
    ⟨8364, 23, 23, 0x1_03_04_90_02_90_90_04_90_b0_05_b0⟩,
    ⟨2250, 23, 23, 0x1_02_04_90_03_90_90_04_90_a0_05_a0⟩,
    ⟨906, 23, 23, 0x1_02_04_90_04_90_90_05_90_a0_03_a0⟩,
    ⟨8394, 23, 23, 0x1_02_04_90_03_90_90_04_90_b0_05_b0⟩,
    ⟨2220, 23, 23, 0x1_03_04_90_02_90_90_04_90_a0_05_a0⟩,
    ⟨696, 23, 23, 0x1_04_05_90_02_90_90_04_90_a0_03_a0⟩,
    ⟨9737, 23, 23, 0x1_01_04_a0_03_a0_a0_04_a0_b0_05_b0⟩,
    ⟨1324, 23, 23, 0x1_03_04_90_02_90_90_05_90_a0_04_a0⟩,
    ⟨1144, 23, 23, 0x1_04_05_90_02_90_90_03_90_a0_04_a0⟩,
    ⟨6665, 23, 23, 0x1_01_04_a0_03_a0_a0_05_a0_b0_04_b0⟩,
    ⟨4426, 23, 23, 0x1_02_04_90_03_90_90_05_90_b0_04_b0⟩,
    ⟨4216, 23, 23, 0x1_04_05_90_02_90_90_03_90_b0_04_b0⟩,
    ⟨18953, 23, 23, 0x1_01_04_a0_03_a0_a0_05_a0_c0_05_c0⟩,
    ⟨16714, 23, 23, 0x1_02_04_90_03_90_90_05_90_c0_05_c0⟩,
    ⟨16684, 23, 23, 0x1_03_04_90_02_90_90_05_90_c0_05_c0⟩,
    ⟨4404, 23, 23, 0x1_03_05_90_02_90_90_05_90_b0_04_b0⟩,
    ⟨1362, 23, 23, 0x1_02_05_90_03_90_90_05_90_a0_04_a0⟩,
    ⟨914, 23, 23, 0x1_02_05_90_04_90_90_05_90_a0_03_a0⟩,
    ⟨4434, 23, 23, 0x1_02_05_90_03_90_90_05_90_b0_04_b0⟩,
    ⟨1332, 23, 23, 0x1_03_05_90_02_90_90_05_90_a0_04_a0⟩,
    ⟨824, 23, 23, 0x1_04_05_90_02_90_90_05_90_a0_03_a0⟩,
    ⟨6673, 23, 23, 0x1_01_05_a0_03_a0_a0_05_a0_b0_04_b0⟩,
    ⟨2228, 23, 23, 0x1_03_05_90_02_90_90_04_90_a0_05_a0⟩,
    ⟨2168, 23, 23, 0x1_04_05_90_02_90_90_03_90_a0_05_a0⟩,
    ⟨9745, 23, 23, 0x1_01_05_a0_03_a0_a0_04_a0_b0_05_b0⟩,
    ⟨8402, 23, 23, 0x1_02_05_90_03_90_90_04_90_b0_05_b0⟩,
    ⟨8312, 23, 23, 0x1_04_05_90_02_90_90_03_90_b0_05_b0⟩,
    ⟨17937, 23, 23, 0x1_01_05_a0_03_a0_a0_04_a0_c0_05_c0⟩,
    ⟨16594, 23, 23, 0x1_02_05_90_03_90_90_04_90_c0_05_c0⟩,
    ⟨16564, 23, 23, 0x1_03_05_90_02_90_90_04_90_c0_05_c0⟩,
    ⟨12325, 23, 23, 0x1_01_03_90_02_90_b0_04_b0_b0_05_b0⟩,
    ⟨3139, 23, 23, 0x1_01_02_90_03_90_a0_04_a0_a0_05_a0⟩,
    ⟨2691, 23, 23, 0x1_01_02_90_04_90_a0_03_a0_a0_05_a0⟩,
    ⟨1795, 23, 23, 0x1_01_02_90_05_90_a0_03_a0_a0_04_a0⟩,
    ⟨899, 23, 23, 0x1_01_02_90_04_90_90_05_90_a0_03_a0⟩,
    ⟨1347, 23, 23, 0x1_01_02_90_03_90_90_05_90_a0_04_a0⟩,
    ⟨2243, 23, 23, 0x1_01_02_90_03_90_90_04_90_a0_05_a0⟩,
    ⟨4389, 23, 23, 0x1_01_03_90_02_90_90_05_90_b0_04_b0⟩,
    ⟨8357, 23, 23, 0x1_01_03_90_02_90_90_04_90_b0_05_b0⟩,
    ⟨16489, 23, 23, 0x1_01_04_90_02_90_90_03_90_c0_05_c0⟩,
    ⟨569, 17, 17, 0x1_01_04_05_90_02_90_a0_03_a0⟩,
    ⟨1077, 17, 17, 0x1_01_03_05_90_02_90_a0_04_a0⟩,
    ⟨2093, 17, 17, 0x1_01_03_04_90_02_90_a0_05_a0⟩,
    ⟨12355, 23, 23, 0x1_01_02_90_03_90_b0_04_b0_b0_05_b0⟩,
    ⟨4179, 17, 17, 0x1_01_02_05_90_03_90_b0_04_b0⟩,
    ⟨8267, 17, 17, 0x1_01_02_04_90_03_90_b0_05_b0⟩,
    ⟨3109, 23, 23, 0x1_01_03_90_02_90_a0_04_a0_a0_05_a0⟩,
    ⟨16519, 17, 17, 0x1_01_02_03_90_04_90_c0_05_c0⟩,
    ⟨2601, 23, 23, 0x1_01_04_90_02_90_a0_03_a0_a0_05_a0⟩,
    ⟨1585, 23, 23, 0x1_01_05_90_02_90_a0_03_a0_a0_04_a0⟩,
    ⟨4627, 17, 17, 0x1_01_02_05_a0_03_a0_b0_04_b0⟩,
    ⟨8715, 17, 17, 0x1_01_02_04_a0_03_a0_b0_05_b0⟩,
    ⟨422, 23, 23, 0x1_02_03_90_02_90_90_04_90_90_05_90⟩,
    ⟨122, 17, 17, 0x1_02_04_05_90_02_90_90_03_90⟩,
    ⟨17415, 17, 17, 0x1_01_02_03_a0_04_a0_c0_05_c0⟩,
    ⟨362, 23, 23, 0x1_02_04_90_02_90_90_03_90_90_05_90⟩,
    ⟨182, 17, 17, 0x1_02_03_05_90_02_90_90_04_90⟩,
    ⟨242, 23, 23, 0x1_02_05_90_02_90_90_03_90_90_04_90⟩,
    ⟨302, 17, 17, 0x1_02_03_04_90_02_90_90_05_90⟩,
    ⟨12803, 23, 23, 0x1_01_02_a0_03_a0_b0_04_b0_b0_05_b0⟩,
    ⟨20487, 17, 17, 0x1_01_02_03_b0_04_b0_c0_05_c0⟩,
    ⟨364, 23, 23, 0x1_03_04_90_02_90_90_03_90_90_05_90⟩,
    ⟨214, 17, 17, 0x1_02_03_05_90_03_90_90_04_90⟩,
    ⟨1557, 17, 17, 0x1_01_03_05_a0_03_a0_a0_04_a0⟩,
    ⟨244, 23, 23, 0x1_03_05_90_02_90_90_03_90_90_04_90⟩,
    ⟨334, 17, 17, 0x1_02_03_04_90_03_90_90_05_90⟩,
    ⟨2573, 17, 17, 0x1_01_03_04_a0_03_a0_a0_05_a0⟩,
    ⟨3589, 23, 23, 0x1_01_03_a0_03_a0_a0_04_a0_a0_05_a0⟩,
    ⟨454, 23, 23, 0x1_02_03_90_03_90_90_04_90_90_05_90⟩,
    ⟨124, 17, 17, 0x1_03_04_05_90_02_90_90_03_90⟩,
    ⟨248, 23, 23, 0x1_04_05_90_02_90_90_03_90_90_04_90⟩,
    ⟨398, 17, 17, 0x1_02_03_04_90_04_90_90_05_90⟩,
    ⟨3085, 17, 17, 0x1_01_03_04_a0_04_a0_a0_05_a0⟩,
    ⟨12299, 17, 17, 0x1_01_02_04_b0_04_b0_b0_05_b0⟩,
    ⟨3593, 23, 23, 0x1_01_04_a0_03_a0_a0_04_a0_a0_05_a0⟩,
    ⟨458, 23, 23, 0x1_02_04_90_03_90_90_04_90_90_05_90⟩,
    ⟨428, 23, 23, 0x1_03_04_90_02_90_90_04_90_90_05_90⟩,
    ⟨188, 17, 17, 0x1_03_04_05_90_02_90_90_04_90⟩,
    ⟨218, 17, 17, 0x1_02_04_05_90_03_90_90_04_90⟩,
    ⟨1561, 17, 17, 0x1_01_04_05_a0_03_a0_a0_04_a0⟩,
    ⟨3601, 23, 23, 0x1_01_05_a0_03_a0_a0_04_a0_a0_05_a0⟩,
    ⟨466, 23, 23, 0x1_02_05_90_03_90_90_04_90_90_05_90⟩,
    ⟨436, 23, 23, 0x1_03_05_90_02_90_90_04_90_90_05_90⟩,
    ⟨376, 23, 23, 0x1_04_05_90_02_90_90_03_90_90_05_90⟩,
    ⟨316, 17, 17, 0x1_03_04_05_90_02_90_90_05_90⟩,
    ⟨346, 17, 17, 0x1_02_04_05_90_03_90_90_05_90⟩,
    ⟨406, 17, 17, 0x1_02_03_05_90_04_90_90_05_90⟩,
    ⟨2585, 17, 17, 0x1_01_04_05_a0_03_a0_a0_05_a0⟩,
    ⟨3093, 17, 17, 0x1_01_03_05_a0_04_a0_a0_05_a0⟩,
    ⟨12307, 17, 17, 0x1_01_02_05_b0_04_b0_b0_05_b0⟩,
    ⟨3587, 23, 23, 0x1_01_02_a0_03_a0_a0_04_a0_a0_05_a0⟩,
    ⟨451, 23, 23, 0x1_01_02_90_03_90_90_04_90_90_05_90⟩,
    ⟨421, 23, 23, 0x1_01_03_90_02_90_90_04_90_90_05_90⟩,
    ⟨361, 23, 23, 0x1_01_04_90_02_90_90_03_90_90_05_90⟩,
    ⟨241, 23, 23, 0x1_01_05_90_02_90_90_03_90_90_04_90⟩,
    ⟨61, 11, 11, 0x1_01_03_04_05_90_02_90⟩,
    ⟨91, 11, 11, 0x1_01_02_04_05_90_03_90⟩,
    ⟨151, 11, 11, 0x1_01_02_03_05_90_04_90⟩,
    ⟨271, 11, 11, 0x1_01_02_03_04_90_05_90⟩,
    ⟨539, 11, 11, 0x1_01_02_04_05_a0_03_a0⟩,
    ⟨1047, 11, 11, 0x1_01_02_03_05_a0_04_a0⟩,
    ⟨2063, 11, 11, 0x1_01_02_03_04_a0_05_a0⟩,
    ⟨4119, 11, 11, 0x1_01_02_03_05_b0_04_b0⟩,
    ⟨8207, 11, 11, 0x1_01_02_03_04_b0_05_b0⟩,
    ⟨16399, 11, 11, 0x1_01_02_03_04_c0_05_c0⟩,
    ⟨31, 5, 5, 0x1_01_02_03_04_05⟩,
    ⟨12295, 17, 17, 0x1_01_02_03_b0_04_b0_b0_05_b0⟩,
    ⟨3079, 17, 17, 0x1_01_02_03_a0_04_a0_a0_05_a0⟩,
    ⟨2571, 17, 17, 0x1_01_02_04_a0_03_a0_a0_05_a0⟩,
    ⟨1555, 17, 17, 0x1_01_02_05_a0_03_a0_a0_04_a0⟩,
    ⟨391, 17, 17, 0x1_01_02_03_90_04_90_90_05_90⟩,
    ⟨331, 17, 17, 0x1_01_02_04_90_03_90_90_05_90⟩,
    ⟨211, 17, 17, 0x1_01_02_05_90_03_90_90_04_90⟩,
    ⟨301, 17, 17, 0x1_01_03_04_90_02_90_90_05_90⟩,
    ⟨181, 17, 17, 0x1_01_03_05_90_02_90_90_04_90⟩,
    ⟨121, 17, 17, 0x1_01_04_05_90_02_90_90_03_90⟩,
    ⟨16907, 17, 17, 0x1_01_02_04_a0_03_a0_c0_05_c0⟩,
    ⟨9223, 17, 17, 0x1_01_02_03_a0_04_a0_b0_05_b0⟩,
    ⟨6151, 17, 17, 0x1_01_02_03_a0_05_a0_b0_04_b0⟩,
    ⟨16459, 17, 17, 0x1_01_02_04_90_03_90_c0_05_c0⟩,
    ⟨8327, 17, 17, 0x1_01_02_03_90_04_90_b0_05_b0⟩,
    ⟨4359, 17, 17, 0x1_01_02_03_90_05_90_b0_04_b0⟩,
    ⟨16429, 17, 17, 0x1_01_03_04_90_02_90_c0_05_c0⟩,
    ⟨2183, 17, 17, 0x1_01_02_03_90_04_90_a0_05_a0⟩,
    ⟨1287, 17, 17, 0x1_01_02_03_90_05_90_a0_04_a0⟩,
    ⟨8237, 17, 17, 0x1_01_03_04_90_02_90_b0_05_b0⟩,
    ⟨2123, 17, 17, 0x1_01_02_04_90_03_90_a0_05_a0⟩,
    ⟨779, 17, 17, 0x1_01_02_04_90_05_90_a0_03_a0⟩,
    ⟨4149, 17, 17, 0x1_01_03_05_90_02_90_b0_04_b0⟩,
    ⟨1107, 17, 17, 0x1_01_02_05_90_03_90_a0_04_a0⟩,
    ⟨659, 17, 17, 0x1_01_02_05_90_04_90_a0_03_a0⟩,
    ⟨16549, 23, 23, 0x1_01_03_90_02_90_90_04_90_c0_05_c0⟩,
    ⟨8297, 23, 23, 0x1_01_04_90_02_90_90_03_90_b0_05_b0⟩,
    ⟨4209, 23, 23, 0x1_01_05_90_02_90_90_03_90_b0_04_b0⟩,
    ⟨16579, 23, 23, 0x1_01_02_90_03_90_90_04_90_c0_05_c0⟩,
    ⟨2153, 23, 23, 0x1_01_04_90_02_90_90_03_90_a0_05_a0⟩,
    ⟨1137, 23, 23, 0x1_01_05_90_02_90_90_03_90_a0_04_a0⟩,
    ⟨8387, 23, 23, 0x1_01_02_90_03_90_90_04_90_b0_05_b0⟩,
    ⟨2213, 23, 23, 0x1_01_03_90_02_90_90_04_90_a0_05_a0⟩,
    ⟨689, 23, 23, 0x1_01_05_90_02_90_90_04_90_a0_03_a0⟩,
    ⟨4419, 23, 23, 0x1_01_02_90_03_90_90_05_90_b0_04_b0⟩,
    ⟨1317, 23, 23, 0x1_01_03_90_02_90_90_05_90_a0_04_a0⟩,
    ⟨809, 23, 23, 0x1_01_04_90_02_90_90_05_90_a0_03_a0⟩,
    ⟨17923, 23, 23, 0x1_01_02_a0_03_a0_a0_04_a0_c0_05_c0⟩,
    ⟨810, 23, 23, 0x1_02_04_90_02_90_90_05_90_a0_03_a0⟩,
    ⟨690, 23, 23, 0x1_02_05_90_02_90_90_04_90_a0_03_a0⟩,
    ⟨9731, 23, 23, 0x1_01_02_a0_03_a0_a0_04_a0_b0_05_b0⟩,
    ⟨1318, 23, 23, 0x1_02_03_90_02_90_90_05_90_a0_04_a0⟩,
    ⟨1138, 23, 23, 0x1_02_05_90_02_90_90_03_90_a0_04_a0⟩,
    ⟨6659, 23, 23, 0x1_01_02_a0_03_a0_a0_05_a0_b0_04_b0⟩,
    ⟨2214, 23, 23, 0x1_02_03_90_02_90_90_04_90_a0_05_a0⟩,
    ⟨2154, 23, 23, 0x1_02_04_90_02_90_90_03_90_a0_05_a0⟩,
    ⟨6661, 23, 23, 0x1_01_03_a0_03_a0_a0_05_a0_b0_04_b0⟩,
    ⟨4422, 23, 23, 0x1_02_03_90_03_90_90_05_90_b0_04_b0⟩,
    ⟨4212, 23, 23, 0x1_03_05_90_02_90_90_03_90_b0_04_b0⟩,
    ⟨9733, 23, 23, 0x1_01_03_a0_03_a0_a0_04_a0_b0_05_b0⟩,
    ⟨8390, 23, 23, 0x1_02_03_90_03_90_90_04_90_b0_05_b0⟩,
    ⟨8300, 23, 23, 0x1_03_04_90_02_90_90_03_90_b0_05_b0⟩,
    ⟨17929, 23, 23, 0x1_01_04_a0_03_a0_a0_04_a0_c0_05_c0⟩,
    ⟨16586, 23, 23, 0x1_02_04_90_03_90_90_04_90_c0_05_c0⟩,
    ⟨16556, 23, 23, 0x1_03_04_90_02_90_90_04_90_c0_05_c0⟩,
    ⟨17931, 24, 24, 0x1_01_02_04_a0_03_a0_a0_04_a0_c0_05_c0⟩,
    ⟨9735, 24, 24, 0x1_01_02_03_a0_03_a0_a0_04_a0_b0_05_b0⟩,
    ⟨6663, 24, 24, 0x1_01_02_03_a0_03_a0_a0_05_a0_b0_04_b0⟩,
    ⟨16587, 24, 24, 0x1_01_02_04_90_03_90_90_04_90_c0_05_c0⟩,
    ⟨8391, 24, 24, 0x1_01_02_03_90_03_90_90_04_90_b0_05_b0⟩,
    ⟨4423, 24, 24, 0x1_01_02_03_90_03_90_90_05_90_b0_04_b0⟩,
    ⟨16557, 24, 24, 0x1_01_03_04_90_02_90_90_04_90_c0_05_c0⟩,
    ⟨2215, 24, 24, 0x1_01_02_03_90_02_90_90_04_90_a0_05_a0⟩,
    ⟨1319, 24, 24, 0x1_01_02_03_90_02_90_90_05_90_a0_04_a0⟩,
    ⟨8301, 24, 24, 0x1_01_03_04_90_02_90_90_03_90_b0_05_b0⟩,
    ⟨2155, 24, 24, 0x1_01_02_04_90_02_90_90_03_90_a0_05_a0⟩,
    ⟨811, 24, 24, 0x1_01_02_04_90_02_90_90_05_90_a0_03_a0⟩,
    ⟨4213, 24, 24, 0x1_01_03_05_90_02_90_90_03_90_b0_04_b0⟩,
    ⟨1139, 24, 24, 0x1_01_02_05_90_02_90_90_03_90_a0_04_a0⟩,
    ⟨691, 24, 24, 0x1_01_02_05_90_02_90_90_04_90_a0_03_a0⟩,
    ⟨17941, 24, 24, 0x1_01_03_05_a0_03_a0_a0_04_a0_c0_05_c0⟩,
    ⟨9753, 24, 24, 0x1_01_04_05_a0_03_a0_a0_04_a0_b0_05_b0⟩,
    ⟨6681, 24, 24, 0x1_01_04_05_a0_03_a0_a0_05_a0_b0_04_b0⟩,
    ⟨16598, 24, 24, 0x1_02_03_05_90_03_90_90_04_90_c0_05_c0⟩,
    ⟨8410, 24, 24, 0x1_02_04_05_90_03_90_90_04_90_b0_05_b0⟩,
    ⟨4442, 24, 24, 0x1_02_04_05_90_03_90_90_05_90_b0_04_b0⟩,
    ⟨16566, 24, 24, 0x1_02_03_05_90_02_90_90_04_90_c0_05_c0⟩,
    ⟨2236, 24, 24, 0x1_03_04_05_90_02_90_90_04_90_a0_05_a0⟩,
    ⟨1340, 24, 24, 0x1_03_04_05_90_02_90_90_05_90_a0_04_a0⟩,
    ⟨8314, 24, 24, 0x1_02_04_05_90_02_90_90_03_90_b0_05_b0⟩,
    ⟨2172, 24, 24, 0x1_03_04_05_90_02_90_90_03_90_a0_05_a0⟩,
    ⟨828, 24, 24, 0x1_03_04_05_90_02_90_90_05_90_a0_03_a0⟩,
    ⟨4218, 24, 24, 0x1_02_04_05_90_02_90_90_03_90_b0_04_b0⟩,
    ⟨1148, 24, 24, 0x1_03_04_05_90_02_90_90_03_90_a0_04_a0⟩,
    ⟨700, 24, 24, 0x1_03_04_05_90_02_90_90_04_90_a0_03_a0⟩,
    ⟨16628, 30, 30, 0x1_03_05_90_02_90_90_03_90_90_04_90_c0_05_c0⟩,
    ⟨8440, 30, 30, 0x1_04_05_90_02_90_90_03_90_90_04_90_b0_05_b0⟩,
    ⟨4472, 30, 30, 0x1_04_05_90_02_90_90_03_90_90_05_90_b0_04_b0⟩,
    ⟨16626, 30, 30, 0x1_02_05_90_02_90_90_03_90_90_04_90_c0_05_c0⟩,
    ⟨2296, 30, 30, 0x1_04_05_90_02_90_90_03_90_90_04_90_a0_05_a0⟩,
    ⟨1400, 30, 30, 0x1_04_05_90_02_90_90_03_90_90_05_90_a0_04_a0⟩,
    ⟨8434, 30, 30, 0x1_02_05_90_02_90_90_03_90_90_04_90_b0_05_b0⟩,
    ⟨2292, 30, 30, 0x1_03_05_90_02_90_90_03_90_90_04_90_a0_05_a0⟩,
    ⟨948, 30, 30, 0x1_03_05_90_02_90_90_04_90_90_05_90_a0_03_a0⟩,
    ⟨4458, 30, 30, 0x1_02_04_90_02_90_90_03_90_90_05_90_b0_04_b0⟩,
    ⟨1388, 30, 30, 0x1_03_04_90_02_90_90_03_90_90_05_90_a0_04_a0⟩,
    ⟨940, 30, 30, 0x1_03_04_90_02_90_90_04_90_90_05_90_a0_03_a0⟩,
    ⟨17969, 30, 30, 0x1_01_05_90_02_90_a0_03_a0_a0_04_a0_c0_05_c0⟩,
    ⟨1848, 30, 30, 0x1_04_05_90_02_90_90_05_90_a0_03_a0_a0_04_a0⟩,
    ⟨1938, 30, 30, 0x1_02_05_90_04_90_90_05_90_a0_03_a0_a0_04_a0⟩,
    ⟨9777, 30, 30, 0x1_01_05_90_02_90_a0_03_a0_a0_04_a0_b0_05_b0⟩,
    ⟨1844, 30, 30, 0x1_03_05_90_02_90_90_05_90_a0_03_a0_a0_04_a0⟩,
    ⟨1874, 30, 30, 0x1_02_05_90_03_90_90_05_90_a0_03_a0_a0_04_a0⟩,
    ⟨6697, 30, 30, 0x1_01_04_90_02_90_a0_03_a0_a0_05_a0_b0_04_b0⟩,
    ⟨2732, 30, 30, 0x1_03_04_90_02_90_90_04_90_a0_03_a0_a0_05_a0⟩,
    ⟨2762, 30, 30, 0x1_02_04_90_03_90_90_04_90_a0_03_a0_a0_05_a0⟩,
    ⟨6737, 30, 30, 0x1_01_05_90_03_90_a0_03_a0_a0_05_a0_b0_04_b0⟩,
    ⟨4946, 30, 30, 0x1_02_05_90_03_90_90_05_90_a0_03_a0_b0_04_b0⟩,
    ⟨4916, 30, 30, 0x1_03_05_90_02_90_90_05_90_a0_03_a0_b0_04_b0⟩,
    ⟨9801, 30, 30, 0x1_01_04_90_03_90_a0_03_a0_a0_04_a0_b0_05_b0⟩,
    ⟨8906, 30, 30, 0x1_02_04_90_03_90_90_04_90_a0_03_a0_b0_05_b0⟩,
    ⟨8876, 30, 30, 0x1_03_04_90_02_90_90_04_90_a0_03_a0_b0_05_b0⟩,
    ⟨17993, 30, 30, 0x1_01_04_90_03_90_a0_03_a0_a0_04_a0_c0_05_c0⟩,
    ⟨17098, 30, 30, 0x1_02_04_90_03_90_90_04_90_a0_03_a0_c0_05_c0⟩,
    ⟨17068, 30, 30, 0x1_03_04_90_02_90_90_04_90_a0_03_a0_c0_05_c0⟩,
    ⟨3609, 24, 24, 0x1_01_04_05_a0_03_a0_a0_04_a0_a0_05_a0⟩,
    ⟨3605, 24, 24, 0x1_01_03_05_a0_03_a0_a0_04_a0_a0_05_a0⟩,
    ⟨3597, 24, 24, 0x1_01_03_04_a0_03_a0_a0_04_a0_a0_05_a0⟩,
    ⟨474, 24, 24, 0x1_02_04_05_90_03_90_90_04_90_90_05_90⟩,
    ⟨470, 24, 24, 0x1_02_03_05_90_03_90_90_04_90_90_05_90⟩,
    ⟨462, 24, 24, 0x1_02_03_04_90_03_90_90_04_90_90_05_90⟩,
    ⟨444, 24, 24, 0x1_03_04_05_90_02_90_90_04_90_90_05_90⟩,
    ⟨438, 24, 24, 0x1_02_03_05_90_02_90_90_04_90_90_05_90⟩,
    ⟨430, 24, 24, 0x1_02_03_04_90_02_90_90_04_90_90_05_90⟩,
    ⟨380, 24, 24, 0x1_03_04_05_90_02_90_90_03_90_90_05_90⟩,
    ⟨378, 24, 24, 0x1_02_04_05_90_02_90_90_03_90_90_05_90⟩,
    ⟨366, 24, 24, 0x1_02_03_04_90_02_90_90_03_90_90_05_90⟩,
    ⟨252, 24, 24, 0x1_03_04_05_90_02_90_90_03_90_90_04_90⟩,
    ⟨250, 24, 24, 0x1_02_04_05_90_02_90_90_03_90_90_04_90⟩,
    ⟨246, 24, 24, 0x1_02_03_05_90_02_90_90_03_90_90_04_90⟩,
    ⟨7071, 40, 40, 0x1_01_02_03_04_05_90_04_90_90_05_90_a0_03_a0_a0_05_a0_b0_04_b0⟩]

end StabilizerPrep.Bundled
