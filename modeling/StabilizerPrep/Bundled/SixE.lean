import StabilizerPrep.Bundled.Row

/-!
# The table for six qubits on the device E

The bundled template table, one row for each class.
-/

namespace StabilizerPrep.Bundled

set_option autoImplicit false

set_option maxRecDepth 20000 in
def sixE : List Row :=
  [⟨0, 0, 0, 0x1⟩,
    ⟨1, 1, 1, 0x1_01⟩,
    ⟨2, 7, 7, 0x1_81_12_81⟩,
    ⟨4, 1, 1, 0x1_03⟩,
    ⟨8, 7, 7, 0x1_81_14_81⟩,
    ⟨16, 13, 13, 0x1_81_92_25_92_81⟩,
    ⟨32, 1, 1, 0x1_12⟩,
    ⟨64, 7, 7, 0x1_90_03_90⟩,
    ⟨128, 1, 1, 0x1_14⟩,
    ⟨256, 7, 7, 0x1_92_25_92⟩,
    ⟨512, 13, 13, 0x1_a1_90_03_90_a1⟩,
    ⟨1024, 7, 7, 0x1_a1_14_a1⟩,
    ⟨2048, 1, 1, 0x1_25⟩,
    ⟨4096, 13, 13, 0x1_b0_81_14_81_b0⟩,
    ⟨8192, 19, 19, 0x1_b0_81_92_25_92_81_b0⟩,
    ⟨16384, 13, 13, 0x1_c1_92_25_92_c1⟩,
    ⟨16896, 26, 26, 0x1_a1_90_03_90_a1_c1_92_25_92_c1⟩,
    ⟨9216, 26, 23, 0x1_a1_14_a1_b0_81_92_25_92_81_b0⟩,
    ⟨6144, 14, 13, 0x1_25_b0_81_14_81_b0⟩,
    ⟨16448, 20, 20, 0x1_90_03_90_c1_92_25_92_c1⟩,
    ⟨8320, 20, 19, 0x1_14_b0_81_92_25_92_81_b0⟩,
    ⟨4352, 20, 17, 0x1_92_25_92_b0_81_14_81_b0⟩,
    ⟨16416, 14, 14, 0x1_12_c1_92_25_92_c1⟩,
    ⟨2176, 2, 1, 0x1_14_25⟩,
    ⟨1280, 14, 14, 0x1_92_25_92_a1_14_a1⟩,
    ⟨8224, 20, 19, 0x1_12_b0_81_92_25_92_81_b0⟩,
    ⟨2112, 8, 7, 0x1_25_90_03_90⟩,
    ⟨768, 20, 20, 0x1_92_25_92_a1_90_03_90_a1⟩,
    ⟨4128, 14, 13, 0x1_12_b0_81_14_81_b0⟩,
    ⟨1088, 14, 14, 0x1_90_03_90_a1_14_a1⟩,
    ⟨640, 14, 14, 0x1_14_a1_90_03_90_a1⟩,
    ⟨16388, 14, 13, 0x1_03_c1_92_25_92_c1⟩,
    ⟨8200, 26, 26, 0x1_81_14_81_b0_81_92_25_92_81_b0⟩,
    ⟨4112, 26, 26, 0x1_81_92_25_92_81_b0_81_14_81_b0⟩,
    ⟨16386, 20, 20, 0x1_81_12_81_c1_92_25_92_c1⟩,
    ⟨2056, 8, 7, 0x1_25_81_14_81⟩,
    ⟨1040, 20, 20, 0x1_81_92_25_92_81_a1_14_a1⟩,
    ⟨8194, 26, 26, 0x1_81_12_81_b0_81_92_25_92_81_b0⟩,
    ⟨2052, 2, 1, 0x1_03_25⟩,
    ⟨528, 26, 26, 0x1_81_92_25_92_81_a1_90_03_90_a1⟩,
    ⟨4098, 20, 20, 0x1_81_12_81_b0_81_14_81_b0⟩,
    ⟨1028, 8, 7, 0x1_03_a1_14_a1⟩,
    ⟨520, 20, 20, 0x1_81_14_81_a1_90_03_90_a1⟩,
    ⟨16385, 14, 14, 0x1_01_c1_92_25_92_c1⟩,
    ⟨264, 14, 14, 0x1_81_14_81_92_25_92⟩,
    ⟨144, 14, 14, 0x1_14_81_92_25_92_81⟩,
    ⟨8193, 20, 20, 0x1_01_b0_81_92_25_92_81_b0⟩,
    ⟨260, 8, 7, 0x1_03_92_25_92⟩,
    ⟨80, 20, 20, 0x1_81_92_25_92_81_90_03_90⟩,
    ⟨4097, 14, 14, 0x1_01_b0_81_14_81_b0⟩,
    ⟨132, 2, 1, 0x1_03_14⟩,
    ⟨72, 14, 14, 0x1_81_14_81_90_03_90⟩,
    ⟨2049, 2, 1, 0x1_01_25⟩,
    ⟨258, 14, 14, 0x1_81_12_81_92_25_92⟩,
    ⟨48, 14, 14, 0x1_12_81_92_25_92_81⟩,
    ⟨1025, 8, 8, 0x1_01_a1_14_a1⟩,
    ⟨130, 8, 8, 0x1_14_81_12_81⟩,
    ⟨40, 8, 8, 0x1_12_81_14_81⟩,
    ⟨513, 14, 14, 0x1_01_a1_90_03_90_a1⟩,
    ⟨66, 14, 14, 0x1_81_12_81_90_03_90⟩,
    ⟨36, 2, 1, 0x1_03_12⟩,
    ⟨16897, 27, 27, 0x1_01_a1_90_03_90_a1_c1_92_25_92_c1⟩,
    ⟨9217, 27, 24, 0x1_01_a1_14_a1_b0_81_92_25_92_81_b0⟩,
    ⟨6145, 15, 14, 0x1_01_25_b0_81_14_81_b0⟩,
    ⟨16450, 27, 27, 0x1_81_12_81_90_03_90_c1_92_25_92_c1⟩,
    ⟨8322, 27, 27, 0x1_14_81_12_81_b0_81_92_25_92_81_b0⟩,
    ⟨4354, 27, 24, 0x1_81_12_81_92_25_92_b0_81_14_81_b0⟩,
    ⟨16420, 15, 14, 0x1_03_12_c1_92_25_92_c1⟩,
    ⟨2180, 3, 1, 0x1_03_14_25⟩,
    ⟨1284, 15, 14, 0x1_03_92_25_92_a1_14_a1⟩,
    ⟨8232, 27, 27, 0x1_12_81_14_81_b0_81_92_25_92_81_b0⟩,
    ⟨2120, 15, 14, 0x1_25_81_14_81_90_03_90⟩,
    ⟨776, 27, 27, 0x1_81_14_81_92_25_92_a1_90_03_90_a1⟩,
    ⟨4144, 27, 27, 0x1_12_81_92_25_92_81_b0_81_14_81_b0⟩,
    ⟨1104, 27, 27, 0x1_81_92_25_92_81_90_03_90_a1_14_a1⟩,
    ⟨656, 27, 27, 0x1_14_81_92_25_92_81_a1_90_03_90_a1⟩,
    ⟨33, 2, 2, 0x1_01_12⟩,
    ⟨5, 2, 2, 0x1_01_03⟩,
    ⟨129, 2, 2, 0x1_01_14⟩,
    ⟨257, 8, 8, 0x1_01_92_25_92⟩,
    ⟨6, 8, 8, 0x1_03_81_12_81⟩,
    ⟨10, 14, 14, 0x1_81_12_81_81_14_81⟩,
    ⟨2050, 8, 7, 0x1_25_81_12_81⟩,
    ⟨12, 8, 8, 0x1_03_81_14_81⟩,
    ⟨20, 14, 14, 0x1_03_81_92_25_92_81⟩,
    ⟨24, 20, 20, 0x1_81_14_81_81_92_25_92_81⟩,
    ⟨96, 8, 8, 0x1_12_90_03_90⟩,
    ⟨160, 2, 2, 0x1_12_14⟩,
    ⟨2080, 2, 2, 0x1_12_25⟩,
    ⟨192, 8, 8, 0x1_14_90_03_90⟩,
    ⟨320, 14, 14, 0x1_90_03_90_92_25_92⟩,
    ⟨384, 8, 8, 0x1_14_92_25_92⟩,
    ⟨5120, 20, 17, 0x1_a1_14_a1_b0_81_14_81_b0⟩,
    ⟨2560, 14, 14, 0x1_25_a1_90_03_90_a1⟩,
    ⟨3072, 8, 8, 0x1_25_a1_14_a1⟩,
    ⟨20480, 26, 23, 0x1_b0_81_14_81_b0_c1_92_25_92_c1⟩,
    ⟨20512, 27, 23, 0x1_12_b0_81_14_81_b0_c1_92_25_92_c1⟩,
    ⟨3136, 15, 14, 0x1_25_90_03_90_a1_14_a1⟩,
    ⟨2688, 15, 14, 0x1_14_25_a1_90_03_90_a1⟩,
    ⟨5376, 27, 24, 0x1_92_25_92_a1_14_a1_b0_81_14_81_b0⟩,
    ⟨896, 21, 21, 0x1_14_92_25_92_a1_90_03_90_a1⟩,
    ⟨1344, 21, 21, 0x1_90_03_90_92_25_92_a1_14_a1⟩,
    ⟨2240, 9, 8, 0x1_14_25_90_03_90⟩,
    ⟨6176, 15, 13, 0x1_12_25_b0_81_14_81_b0⟩,
    ⟨8352, 21, 19, 0x1_12_14_b0_81_92_25_92_81_b0⟩,
    ⟨16480, 21, 21, 0x1_12_90_03_90_c1_92_25_92_c1⟩,
    ⟨536, 33, 33, 0x1_81_14_81_81_92_25_92_81_a1_90_03_90_a1⟩,
    ⟨1044, 21, 21, 0x1_03_81_92_25_92_81_a1_14_a1⟩,
    ⟨2060, 9, 8, 0x1_03_25_81_14_81⟩,
    ⟨20482, 33, 30, 0x1_81_12_81_b0_81_14_81_b0_c1_92_25_92_c1⟩,
    ⟨6146, 21, 20, 0x1_25_81_12_81_b0_81_14_81_b0⟩,
    ⟨9218, 33, 30, 0x1_81_12_81_a1_14_a1_b0_81_92_25_92_81_b0⟩,
    ⟨3076, 9, 8, 0x1_03_25_a1_14_a1⟩,
    ⟨16390, 21, 21, 0x1_03_81_12_81_c1_92_25_92_c1⟩,
    ⟨2568, 21, 20, 0x1_25_81_14_81_a1_90_03_90_a1⟩,
    ⟨5136, 33, 30, 0x1_81_92_25_92_81_a1_14_a1_b0_81_14_81_b0⟩,
    ⟨4353, 21, 18, 0x1_01_92_25_92_b0_81_14_81_b0⟩,
    ⟨8321, 21, 20, 0x1_01_14_b0_81_92_25_92_81_b0⟩,
    ⟨388, 9, 8, 0x1_03_14_92_25_92⟩,
    ⟨88, 27, 27, 0x1_81_14_81_81_92_25_92_81_90_03_90⟩,
    ⟨16389, 15, 14, 0x1_01_03_c1_92_25_92_c1⟩,
    ⟨328, 21, 21, 0x1_81_14_81_90_03_90_92_25_92⟩,
    ⟨148, 15, 14, 0x1_03_14_81_92_25_92_81⟩,
    ⟨208, 21, 21, 0x1_14_81_92_25_92_81_90_03_90⟩,
    ⟨268, 15, 15, 0x1_03_81_14_81_92_25_92⟩,
    ⟨20481, 27, 24, 0x1_01_b0_81_14_81_b0_c1_92_25_92_c1⟩,
    ⟨16417, 15, 15, 0x1_01_12_c1_92_25_92_c1⟩,
    ⟨2088, 9, 8, 0x1_12_25_81_14_81⟩,
    ⟨2178, 9, 8, 0x1_14_25_81_12_81⟩,
    ⟨1281, 15, 15, 0x1_01_92_25_92_a1_14_a1⟩,
    ⟨176, 15, 15, 0x1_12_14_81_92_25_92_81⟩,
    ⟨266, 21, 21, 0x1_81_12_81_81_14_81_92_25_92⟩,
    ⟨2177, 3, 2, 0x1_01_25_14⟩,
    ⟨3073, 9, 8, 0x1_01_25_a1_14_a1⟩,
    ⟨386, 15, 15, 0x1_14_81_12_81_92_25_92⟩,
    ⟨56, 21, 21, 0x1_12_81_14_81_81_92_25_92_81⟩,
    ⟨112, 21, 21, 0x1_12_81_92_25_92_81_90_03_90⟩,
    ⟨262, 15, 15, 0x1_03_81_12_81_92_25_92⟩,
    ⟨2053, 3, 2, 0x1_01_25_03⟩,
    ⟨8225, 21, 20, 0x1_01_12_b0_81_92_25_92_81_b0⟩,
    ⟨2561, 15, 14, 0x1_01_25_a1_90_03_90_a1⟩,
    ⟨322, 21, 21, 0x1_81_12_81_90_03_90_92_25_92⟩,
    ⟨2084, 3, 2, 0x1_03_12_25⟩,
    ⟨52, 15, 14, 0x1_03_12_81_92_25_92_81⟩,
    ⟨2114, 15, 14, 0x1_25_81_12_81_90_03_90⟩,
    ⟨769, 21, 21, 0x1_01_92_25_92_a1_90_03_90_a1⟩,
    ⟨5121, 21, 18, 0x1_01_a1_14_a1_b0_81_14_81_b0⟩,
    ⟨194, 15, 15, 0x1_14_81_12_81_90_03_90⟩,
    ⟨164, 3, 2, 0x1_03_12_14⟩,
    ⟨104, 15, 15, 0x1_12_81_14_81_90_03_90⟩,
    ⟨44, 9, 8, 0x1_03_12_81_14_81⟩,
    ⟨74, 21, 21, 0x1_81_12_81_81_14_81_90_03_90⟩,
    ⟨134, 9, 8, 0x1_03_14_81_12_81⟩,
    ⟨641, 15, 15, 0x1_01_14_a1_90_03_90_a1⟩,
    ⟨1029, 9, 8, 0x1_01_03_a1_14_a1⟩,
    ⟨4129, 15, 14, 0x1_01_12_b0_81_14_81_b0⟩,
    ⟨20513, 28, 24, 0x1_01_12_b0_81_14_81_b0_c1_92_25_92_c1⟩,
    ⟨3077, 10, 8, 0x1_01_25_03_a1_14_a1⟩,
    ⟨2689, 16, 15, 0x1_01_25_14_a1_90_03_90_a1⟩,
    ⟨5377, 28, 25, 0x1_01_92_25_92_a1_14_a1_b0_81_14_81_b0⟩,
    ⟨390, 16, 15, 0x1_03_14_81_12_81_92_25_92⟩,
    ⟨330, 28, 28, 0x1_81_12_81_81_14_81_90_03_90_92_25_92⟩,
    ⟨2242, 16, 15, 0x1_14_25_81_12_81_90_03_90⟩,
    ⟨2092, 10, 8, 0x1_03_12_25_81_14_81⟩,
    ⟨180, 16, 15, 0x1_03_12_14_81_92_25_92_81⟩,
    ⟨120, 28, 28, 0x1_12_81_14_81_81_92_25_92_81_90_03_90⟩,
    ⟨18944, 27, 27, 0x1_25_a1_90_03_90_a1_c1_92_25_92_c1⟩,
    ⟨11264, 27, 24, 0x1_25_a1_14_a1_b0_81_92_25_92_81_b0⟩,
    ⟨7168, 21, 18, 0x1_25_a1_14_a1_b0_81_14_81_b0⟩,
    ⟨16576, 21, 21, 0x1_14_90_03_90_c1_92_25_92_c1⟩,
    ⟨8576, 27, 24, 0x1_14_92_25_92_b0_81_92_25_92_81_b0⟩,
    ⟨4480, 21, 18, 0x1_14_92_25_92_b0_81_14_81_b0⟩,
    ⟨18464, 15, 14, 0x1_12_25_c1_92_25_92_c1⟩,
    ⟨2208, 3, 2, 0x1_12_14_25⟩,
    ⟨1312, 15, 15, 0x1_12_92_25_92_a1_14_a1⟩,
    ⟨10272, 21, 19, 0x1_12_25_b0_81_92_25_92_81_b0⟩,
    ⟨2144, 9, 8, 0x1_12_25_90_03_90⟩,
    ⟨800, 21, 21, 0x1_12_92_25_92_a1_90_03_90_a1⟩,
    ⟨4256, 15, 13, 0x1_12_14_b0_81_14_81_b0⟩,
    ⟨1120, 15, 15, 0x1_12_90_03_90_a1_14_a1⟩,
    ⟨672, 15, 15, 0x1_12_14_a1_90_03_90_a1⟩,
    ⟨16396, 21, 21, 0x1_03_81_14_81_c1_92_25_92_c1⟩,
    ⟨8204, 27, 27, 0x1_03_81_14_81_b0_81_92_25_92_81_b0⟩,
    ⟨4116, 27, 27, 0x1_03_81_92_25_92_81_b0_81_14_81_b0⟩,
    ⟨18434, 21, 20, 0x1_25_81_12_81_c1_92_25_92_c1⟩,
    ⟨2058, 15, 14, 0x1_25_81_12_81_81_14_81⟩,
    ⟨3088, 21, 20, 0x1_25_81_92_25_92_81_a1_14_a1⟩,
    ⟨10242, 27, 26, 0x1_25_81_12_81_b0_81_92_25_92_81_b0⟩,
    ⟨2054, 9, 8, 0x1_03_25_81_12_81⟩,
    ⟨2576, 27, 26, 0x1_25_81_92_25_92_81_a1_90_03_90_a1⟩,
    ⟨4102, 21, 21, 0x1_03_81_12_81_b0_81_14_81_b0⟩,
    ⟨1030, 15, 15, 0x1_03_81_12_81_a1_14_a1⟩,
    ⟨524, 21, 21, 0x1_03_81_14_81_a1_90_03_90_a1⟩,
    ⟨16513, 15, 15, 0x1_01_14_c1_92_25_92_c1⟩,
    ⟨265, 15, 15, 0x1_01_81_14_81_92_25_92⟩,
    ⟨145, 15, 15, 0x1_01_14_81_92_25_92_81⟩,
    ⟨8197, 21, 21, 0x1_01_03_b0_81_92_25_92_81_b0⟩,
    ⟨261, 9, 8, 0x1_01_03_92_25_92⟩,
    ⟨81, 21, 21, 0x1_01_81_92_25_92_81_90_03_90⟩,
    ⟨4225, 15, 14, 0x1_01_14_b0_81_14_81_b0⟩,
    ⟨133, 3, 2, 0x1_01_03_14⟩,
    ⟨73, 15, 15, 0x1_01_81_14_81_90_03_90⟩,
    ⟨2081, 3, 2, 0x1_01_25_12⟩,
    ⟨2306, 15, 14, 0x1_25_81_12_81_92_25_92⟩,
    ⟨2096, 15, 14, 0x1_12_25_81_92_25_92_81⟩,
    ⟨1057, 9, 9, 0x1_01_12_a1_14_a1⟩,
    ⟨131, 9, 9, 0x1_01_14_81_12_81⟩,
    ⟨41, 9, 9, 0x1_01_12_81_14_81⟩,
    ⟨517, 15, 14, 0x1_01_03_a1_90_03_90_a1⟩,
    ⟨67, 15, 15, 0x1_01_81_12_81_90_03_90⟩,
    ⟨37, 3, 2, 0x1_01_03_12⟩,
    ⟨18945, 28, 27, 0x1_01_25_a1_90_03_90_a1_c1_92_25_92_c1⟩,
    ⟨11265, 28, 24, 0x1_01_25_a1_14_a1_b0_81_92_25_92_81_b0⟩,
    ⟨7169, 22, 18, 0x1_01_25_a1_14_a1_b0_81_14_81_b0⟩,
    ⟨16578, 28, 28, 0x1_14_81_12_81_90_03_90_c1_92_25_92_c1⟩,
    ⟨8578, 34, 31, 0x1_14_81_12_81_92_25_92_b0_81_92_25_92_81_b0⟩,
    ⟨4482, 28, 25, 0x1_14_81_12_81_92_25_92_b0_81_14_81_b0⟩,
    ⟨18468, 16, 14, 0x1_03_12_25_c1_92_25_92_c1⟩,
    ⟨2212, 4, 2, 0x1_03_12_14_25⟩,
    ⟨1316, 16, 15, 0x1_03_12_92_25_92_a1_14_a1⟩,
    ⟨10280, 28, 27, 0x1_12_25_81_14_81_b0_81_92_25_92_81_b0⟩,
    ⟨2152, 16, 15, 0x1_12_25_81_14_81_90_03_90⟩,
    ⟨2824, 28, 27, 0x1_25_81_14_81_92_25_92_a1_90_03_90_a1⟩,
    ⟨4272, 28, 28, 0x1_12_14_81_92_25_92_81_b0_81_14_81_b0⟩,
    ⟨1136, 28, 28, 0x1_12_81_92_25_92_81_90_03_90_a1_14_a1⟩,
    ⟨688, 28, 28, 0x1_12_14_81_92_25_92_81_a1_90_03_90_a1⟩,
    ⟨16428, 22, 21, 0x1_03_12_81_14_81_c1_92_25_92_c1⟩,
    ⟨8236, 28, 27, 0x1_03_12_81_14_81_b0_81_92_25_92_81_b0⟩,
    ⟨4148, 28, 27, 0x1_03_12_81_92_25_92_81_b0_81_14_81_b0⟩,
    ⟨18498, 28, 27, 0x1_25_81_12_81_90_03_90_c1_92_25_92_c1⟩,
    ⟨2122, 22, 21, 0x1_25_81_12_81_81_14_81_90_03_90⟩,
    ⟨3152, 28, 27, 0x1_25_81_92_25_92_81_90_03_90_a1_14_a1⟩,
    ⟨8326, 28, 27, 0x1_03_14_81_12_81_b0_81_92_25_92_81_b0⟩,
    ⟨2182, 10, 8, 0x1_03_14_25_81_12_81⟩,
    ⟨660, 28, 27, 0x1_03_14_81_92_25_92_81_a1_90_03_90_a1⟩,
    ⟨4358, 28, 25, 0x1_03_81_12_81_92_25_92_b0_81_14_81_b0⟩,
    ⟨1286, 22, 22, 0x1_03_81_12_81_92_25_92_a1_14_a1⟩,
    ⟨780, 28, 28, 0x1_03_81_14_81_92_25_92_a1_90_03_90_a1⟩,
    ⟨17025, 28, 28, 0x1_01_14_a1_90_03_90_a1_c1_92_25_92_c1⟩,
    ⟨777, 28, 28, 0x1_01_81_14_81_92_25_92_a1_90_03_90_a1⟩,
    ⟨657, 28, 28, 0x1_01_14_81_92_25_92_81_a1_90_03_90_a1⟩,
    ⟨9221, 28, 24, 0x1_01_03_a1_14_a1_b0_81_92_25_92_81_b0⟩,
    ⟨1285, 16, 15, 0x1_01_03_92_25_92_a1_14_a1⟩,
    ⟨1105, 28, 28, 0x1_01_81_92_25_92_81_90_03_90_a1_14_a1⟩,
    ⟨6273, 16, 14, 0x1_01_25_14_b0_81_14_81_b0⟩,
    ⟨2181, 4, 2, 0x1_01_25_03_14⟩,
    ⟨2121, 16, 15, 0x1_01_25_81_14_81_90_03_90⟩,
    ⟨6177, 16, 14, 0x1_01_25_12_b0_81_14_81_b0⟩,
    ⟨6402, 28, 24, 0x1_25_81_12_81_92_25_92_b0_81_14_81_b0⟩,
    ⟨6192, 28, 27, 0x1_12_25_81_92_25_92_81_b0_81_14_81_b0⟩,
    ⟨9249, 28, 25, 0x1_01_12_a1_14_a1_b0_81_92_25_92_81_b0⟩,
    ⟨8323, 28, 28, 0x1_01_14_81_12_81_b0_81_92_25_92_81_b0⟩,
    ⟨8233, 28, 28, 0x1_01_12_81_14_81_b0_81_92_25_92_81_b0⟩,
    ⟨16901, 28, 27, 0x1_01_03_a1_90_03_90_a1_c1_92_25_92_c1⟩,
    ⟨16451, 28, 28, 0x1_01_81_12_81_90_03_90_c1_92_25_92_c1⟩,
    ⟨16421, 16, 15, 0x1_01_03_12_c1_92_25_92_c1⟩,
    ⟨3584, 21, 21, 0x1_25_a1_90_03_90_a1_a1_14_a1⟩,
    ⟨448, 15, 15, 0x1_14_90_03_90_92_25_92⟩,
    ⟨416, 9, 9, 0x1_12_14_92_25_92⟩,
    ⟨352, 15, 15, 0x1_12_90_03_90_92_25_92⟩,
    ⟨224, 9, 9, 0x1_12_14_90_03_90⟩,
    ⟨28, 21, 21, 0x1_03_81_14_81_81_92_25_92_81⟩,
    ⟨3074, 15, 14, 0x1_25_81_12_81_a1_14_a1⟩,
    ⟨2562, 21, 20, 0x1_25_81_12_81_a1_90_03_90_a1⟩,
    ⟨14, 15, 15, 0x1_03_81_12_81_81_14_81⟩,
    ⟨385, 9, 9, 0x1_01_14_92_25_92⟩,
    ⟨21, 15, 15, 0x1_01_03_81_92_25_92_81⟩,
    ⟨13, 9, 9, 0x1_01_03_81_14_81⟩,
    ⟨2082, 9, 8, 0x1_12_25_81_12_81⟩,
    ⟨161, 3, 3, 0x1_01_12_14⟩,
    ⟨7, 9, 9, 0x1_01_03_81_12_81⟩,
    ⟨3585, 22, 21, 0x1_01_25_a1_90_03_90_a1_a1_14_a1⟩,
    ⟨450, 22, 22, 0x1_14_81_12_81_90_03_90_92_25_92⟩,
    ⟨420, 10, 9, 0x1_03_12_14_92_25_92⟩,
    ⟨2600, 22, 21, 0x1_12_25_81_14_81_a1_90_03_90_a1⟩,
    ⟨240, 22, 22, 0x1_12_14_81_92_25_92_81_90_03_90⟩,
    ⟨60, 22, 21, 0x1_03_12_81_14_81_81_92_25_92_81⟩,
    ⟨3138, 22, 21, 0x1_25_81_12_81_90_03_90_a1_14_a1⟩,
    ⟨150, 22, 21, 0x1_03_14_81_12_81_81_92_25_92_81⟩,
    ⟨270, 22, 22, 0x1_03_81_12_81_81_14_81_92_25_92⟩,
    ⟨897, 22, 22, 0x1_01_14_92_25_92_a1_90_03_90_a1⟩,
    ⟨1045, 22, 22, 0x1_01_03_81_92_25_92_81_a1_14_a1⟩,
    ⟨2061, 10, 9, 0x1_01_25_03_81_14_81⟩,
    ⟨4385, 22, 19, 0x1_01_12_92_25_92_b0_81_14_81_b0⟩,
    ⟨8353, 22, 20, 0x1_01_12_14_b0_81_92_25_92_81_b0⟩,
    ⟨16391, 22, 22, 0x1_01_03_81_12_81_c1_92_25_92_c1⟩,
    ⟨17056, 28, 28, 0x1_12_14_a1_90_03_90_a1_c1_92_25_92_c1⟩,
    ⟨9312, 34, 31, 0x1_12_90_03_90_a1_14_a1_b0_81_92_25_92_81_b0⟩,
    ⟨6304, 16, 13, 0x1_12_14_25_b0_81_14_81_b0⟩,
    ⟨18528, 22, 21, 0x1_12_25_90_03_90_c1_92_25_92_c1⟩,
    ⟨10400, 22, 19, 0x1_12_14_25_b0_81_92_25_92_81_b0⟩,
    ⟨5408, 28, 25, 0x1_12_92_25_92_a1_14_a1_b0_81_14_81_b0⟩,
    ⟨20576, 34, 31, 0x1_12_90_03_90_b0_81_14_81_b0_c1_92_25_92_c1⟩,
    ⟨2752, 22, 21, 0x1_14_25_90_03_90_a1_90_03_90_a1⟩,
    ⟨5440, 34, 31, 0x1_90_03_90_92_25_92_a1_14_a1_b0_81_14_81_b0⟩,
    ⟨24736, 34, 29, 0x1_12_14_b0_81_92_25_92_81_b0_c1_92_25_92_c1⟩,
    ⟨3264, 16, 15, 0x1_14_25_90_03_90_a1_14_a1⟩,
    ⟨1920, 28, 28, 0x1_14_92_25_92_a1_90_03_90_a1_a1_14_a1⟩,
    ⟨22560, 28, 23, 0x1_12_25_b0_81_14_81_b0_c1_92_25_92_c1⟩,
    ⟨3392, 22, 21, 0x1_25_90_03_90_92_25_92_a1_14_a1⟩,
    ⟨2944, 22, 21, 0x1_14_25_92_25_92_a1_90_03_90_a1⟩,
    ⟨16908, 34, 34, 0x1_03_81_14_81_a1_90_03_90_a1_c1_92_25_92_c1⟩,
    ⟨9222, 34, 31, 0x1_03_81_12_81_a1_14_a1_b0_81_92_25_92_81_b0⟩,
    ⟨6150, 22, 21, 0x1_03_25_81_12_81_b0_81_14_81_b0⟩,
    ⟨18438, 22, 21, 0x1_03_25_81_12_81_c1_92_25_92_c1⟩,
    ⟨11272, 34, 30, 0x1_25_81_14_81_a1_14_a1_b0_81_92_25_92_81_b0⟩,
    ⟨7184, 34, 30, 0x1_25_81_92_25_92_81_a1_14_a1_b0_81_14_81_b0⟩,
    ⟨20486, 34, 31, 0x1_03_81_12_81_b0_81_14_81_b0_c1_92_25_92_c1⟩,
    ⟨2572, 22, 21, 0x1_03_25_81_14_81_a1_90_03_90_a1⟩,
    ⟨5140, 34, 31, 0x1_03_81_92_25_92_81_a1_14_a1_b0_81_14_81_b0⟩,
    ⟨25602, 46, 40, 0x1_81_12_81_a1_14_a1_b0_81_92_25_92_81_b0_c1_92_25_92_c1⟩,
    ⟨3084, 16, 15, 0x1_03_25_81_14_81_a1_14_a1⟩,
    ⟨1560, 40, 40, 0x1_81_14_81_81_92_25_92_81_a1_90_03_90_a1_a1_14_a1⟩,
    ⟨22530, 34, 30, 0x1_25_81_12_81_b0_81_14_81_b0_c1_92_25_92_c1⟩,
    ⟨3092, 22, 21, 0x1_03_25_81_92_25_92_81_a1_14_a1⟩,
    ⟨2584, 34, 33, 0x1_25_81_14_81_81_92_25_92_81_a1_90_03_90_a1⟩,
    ⟨16457, 28, 28, 0x1_01_81_14_81_90_03_90_c1_92_25_92_c1⟩,
    ⟨8325, 22, 21, 0x1_01_03_14_b0_81_92_25_92_81_b0⟩,
    ⟨4357, 22, 18, 0x1_01_03_92_25_92_b0_81_14_81_b0⟩,
    ⟨16517, 16, 15, 0x1_01_03_14_c1_92_25_92_c1⟩,
    ⟨8457, 34, 31, 0x1_01_81_14_81_92_25_92_b0_81_92_25_92_81_b0⟩,
    ⟨4241, 28, 28, 0x1_01_14_81_92_25_92_81_b0_81_14_81_b0⟩,
    ⟨20485, 28, 25, 0x1_01_03_b0_81_14_81_b0_c1_92_25_92_c1⟩,
    ⟨332, 22, 22, 0x1_03_81_14_81_90_03_90_92_25_92⟩,
    ⟨212, 22, 21, 0x1_03_14_81_92_25_92_81_90_03_90⟩,
    ⟨24705, 34, 30, 0x1_01_14_b0_81_92_25_92_81_b0_c1_92_25_92_c1⟩,
    ⟨396, 16, 15, 0x1_03_14_81_14_81_92_25_92⟩,
    ⟨216, 28, 28, 0x1_14_81_14_81_81_92_25_92_81_90_03_90⟩,
    ⟨20737, 34, 28, 0x1_01_92_25_92_b0_81_14_81_b0_c1_92_25_92_c1⟩,
    ⟨404, 22, 21, 0x1_03_14_81_92_25_92_81_92_25_92⟩,
    ⟨344, 34, 34, 0x1_81_14_81_81_92_25_92_81_90_03_90_92_25_92⟩,
    ⟨16425, 22, 22, 0x1_01_12_81_14_81_c1_92_25_92_c1⟩,
    ⟨2179, 10, 9, 0x1_01_25_14_81_12_81⟩,
    ⟨1283, 22, 22, 0x1_01_81_12_81_92_25_92_a1_14_a1⟩,
    ⟨16515, 22, 22, 0x1_01_14_81_12_81_c1_92_25_92_c1⟩,
    ⟨2089, 10, 9, 0x1_01_25_12_81_14_81⟩,
    ⟨1073, 22, 22, 0x1_01_12_81_92_25_92_81_a1_14_a1⟩,
    ⟨18465, 16, 15, 0x1_01_25_12_c1_92_25_92_c1⟩,
    ⟨2314, 22, 21, 0x1_25_81_12_81_81_14_81_92_25_92⟩,
    ⟨2224, 16, 15, 0x1_12_14_25_81_92_25_92_81⟩,
    ⟨3201, 10, 9, 0x1_01_25_14_a1_14_a1⟩,
    ⟨394, 22, 22, 0x1_14_81_12_81_81_14_81_92_25_92⟩,
    ⟨184, 22, 22, 0x1_12_14_81_14_81_81_92_25_92_81⟩,
    ⟨3329, 16, 15, 0x1_01_25_92_25_92_a1_14_a1⟩,
    ⟨2434, 16, 15, 0x1_14_25_81_12_81_92_25_92⟩,
    ⟨2104, 22, 21, 0x1_12_25_81_14_81_81_92_25_92_81⟩,
    ⟨8229, 22, 21, 0x1_01_03_12_b0_81_92_25_92_81_b0⟩,
    ⟨2115, 16, 15, 0x1_01_25_81_12_81_90_03_90⟩,
    ⟨773, 22, 21, 0x1_01_03_92_25_92_a1_90_03_90_a1⟩,
    ⟨8451, 34, 31, 0x1_01_81_12_81_92_25_92_b0_81_92_25_92_81_b0⟩,
    ⟨2085, 4, 2, 0x1_01_25_03_12⟩,
    ⟨561, 28, 28, 0x1_01_12_81_92_25_92_81_a1_90_03_90_a1⟩,
    ⟨10273, 22, 20, 0x1_01_25_12_b0_81_92_25_92_81_b0⟩,
    ⟨294, 16, 15, 0x1_03_12_81_12_81_92_25_92⟩,
    ⟨2160, 22, 21, 0x1_12_25_81_92_25_92_81_90_03_90⟩,
    ⟨2565, 16, 14, 0x1_01_25_03_a1_90_03_90_a1⟩,
    ⟨326, 22, 22, 0x1_03_81_12_81_90_03_90_92_25_92⟩,
    ⟨116, 22, 21, 0x1_03_12_81_92_25_92_81_90_03_90⟩,
    ⟨2817, 22, 21, 0x1_01_25_92_25_92_a1_90_03_90_a1⟩,
    ⟨2370, 22, 21, 0x1_25_81_12_81_90_03_90_92_25_92⟩,
    ⟨2100, 16, 14, 0x1_03_12_25_81_92_25_92_81⟩,
    ⟨4133, 16, 15, 0x1_01_03_12_b0_81_14_81_b0⟩,
    ⟨1091, 22, 22, 0x1_01_81_12_81_90_03_90_a1_14_a1⟩,
    ⟨645, 16, 15, 0x1_01_03_14_a1_90_03_90_a1⟩,
    ⟨4227, 22, 22, 0x1_01_14_81_12_81_b0_81_14_81_b0⟩,
    ⟨1061, 10, 9, 0x1_01_03_12_a1_14_a1⟩,
    ⟨553, 22, 22, 0x1_01_12_81_14_81_a1_90_03_90_a1⟩,
    ⟨5153, 22, 19, 0x1_01_12_a1_14_a1_b0_81_14_81_b0⟩,
    ⟨166, 10, 9, 0x1_03_12_14_81_12_81⟩,
    ⟨106, 22, 22, 0x1_12_81_12_81_81_14_81_90_03_90⟩,
    ⟨5125, 22, 18, 0x1_01_03_a1_14_a1_b0_81_14_81_b0⟩,
    ⟨198, 16, 15, 0x1_03_14_81_12_81_90_03_90⟩,
    ⟨108, 16, 15, 0x1_03_12_81_14_81_90_03_90⟩,
    ⟨1665, 22, 22, 0x1_01_14_a1_90_03_90_a1_a1_14_a1⟩,
    ⟨202, 22, 22, 0x1_14_81_12_81_81_14_81_90_03_90⟩,
    ⟨172, 10, 9, 0x1_03_12_14_81_14_81⟩,
    ⟨7040, 35, 31, 0x1_14_25_92_25_92_a1_90_03_90_a1_b0_81_14_81_b0⟩,
    ⟨7188, 35, 31, 0x1_03_25_81_92_25_92_81_a1_14_a1_b0_81_14_81_b0⟩,
    ⟨20741, 35, 28, 0x1_01_03_92_25_92_b0_81_14_81_b0_c1_92_25_92_c1⟩,
    ⟨2232, 23, 22, 0x1_12_14_25_81_14_81_81_92_25_92_81⟩,
    ⟨2164, 23, 21, 0x1_03_12_25_81_92_25_92_81_90_03_90⟩,
    ⟨5157, 23, 19, 0x1_01_03_12_a1_14_a1_b0_81_14_81_b0⟩,
    ⟨20640, 28, 23, 0x1_12_14_b0_81_14_81_b0_c1_92_25_92_c1⟩,
    ⟨3168, 16, 15, 0x1_12_25_90_03_90_a1_14_a1⟩,
    ⟨2720, 16, 15, 0x1_12_14_25_a1_90_03_90_a1⟩,
    ⟨5504, 28, 25, 0x1_14_92_25_92_a1_14_a1_b0_81_14_81_b0⟩,
    ⟨928, 22, 22, 0x1_12_14_92_25_92_a1_90_03_90_a1⟩,
    ⟨1376, 22, 22, 0x1_12_90_03_90_92_25_92_a1_14_a1⟩,
    ⟨2272, 10, 9, 0x1_12_14_25_90_03_90⟩,
    ⟨4512, 22, 19, 0x1_12_14_92_25_92_b0_81_14_81_b0⟩,
    ⟨8608, 28, 25, 0x1_12_14_92_25_92_b0_81_92_25_92_81_b0⟩,
    ⟨16608, 22, 22, 0x1_12_14_90_03_90_c1_92_25_92_c1⟩,
    ⟨540, 34, 34, 0x1_03_81_14_81_81_92_25_92_81_a1_90_03_90_a1⟩,
    ⟨1046, 28, 28, 0x1_03_81_12_81_81_92_25_92_81_a1_14_a1⟩,
    ⟨2062, 16, 15, 0x1_03_25_81_12_81_81_14_81⟩,
    ⟨21506, 40, 34, 0x1_81_12_81_a1_14_a1_b0_81_14_81_b0_c1_92_25_92_c1⟩,
    ⟨7170, 28, 24, 0x1_25_81_12_81_a1_14_a1_b0_81_14_81_b0⟩,
    ⟨11266, 34, 30, 0x1_25_81_12_81_a1_14_a1_b0_81_92_25_92_81_b0⟩,
    ⟨3078, 16, 15, 0x1_03_25_81_12_81_a1_14_a1⟩,
    ⟨16398, 28, 28, 0x1_03_81_12_81_81_14_81_c1_92_25_92_c1⟩,
    ⟨2570, 28, 27, 0x1_25_81_12_81_81_14_81_a1_90_03_90_a1⟩,
    ⟨3600, 34, 33, 0x1_25_81_92_25_92_81_a1_90_03_90_a1_a1_14_a1⟩,
    ⟨4481, 22, 19, 0x1_01_14_92_25_92_b0_81_14_81_b0⟩,
    ⟨8577, 28, 25, 0x1_01_14_92_25_92_b0_81_92_25_92_81_b0⟩,
    ⟨389, 10, 9, 0x1_01_03_14_92_25_92⟩,
    ⟨89, 28, 28, 0x1_01_81_14_81_81_92_25_92_81_90_03_90⟩,
    ⟨16397, 22, 22, 0x1_01_03_81_14_81_c1_92_25_92_c1⟩,
    ⟨329, 22, 22, 0x1_01_81_14_81_90_03_90_92_25_92⟩,
    ⟨149, 16, 15, 0x1_01_03_14_81_92_25_92_81⟩,
    ⟨209, 22, 22, 0x1_01_14_81_92_25_92_81_90_03_90⟩,
    ⟨269, 16, 16, 0x1_01_03_81_14_81_92_25_92⟩,
    ⟨20609, 28, 24, 0x1_01_14_b0_81_14_81_b0_c1_92_25_92_c1⟩,
    ⟨16545, 16, 16, 0x1_01_12_14_c1_92_25_92_c1⟩,
    ⟨2090, 16, 15, 0x1_12_25_81_12_81_81_14_81⟩,
    ⟨2210, 10, 9, 0x1_12_14_25_81_12_81⟩,
    ⟨1313, 16, 16, 0x1_01_12_92_25_92_a1_14_a1⟩,
    ⟨177, 16, 16, 0x1_01_12_14_81_92_25_92_81⟩,
    ⟨3330, 22, 21, 0x1_25_81_12_81_92_25_92_a1_14_a1⟩,
    ⟨2209, 4, 3, 0x1_01_25_12_14⟩,
    ⟨3105, 10, 9, 0x1_01_25_12_a1_14_a1⟩,
    ⟨387, 16, 16, 0x1_01_14_81_12_81_92_25_92⟩,
    ⟨57, 22, 22, 0x1_01_12_81_14_81_81_92_25_92_81⟩,
    ⟨113, 22, 22, 0x1_01_12_81_92_25_92_81_90_03_90⟩,
    ⟨263, 16, 16, 0x1_01_03_81_12_81_92_25_92⟩,
    ⟨2055, 10, 9, 0x1_01_25_03_81_12_81⟩,
    ⟨8481, 28, 25, 0x1_01_12_92_25_92_b0_81_92_25_92_81_b0⟩,
    ⟨2593, 16, 15, 0x1_01_25_12_a1_90_03_90_a1⟩,
    ⟨323, 22, 22, 0x1_01_81_12_81_90_03_90_92_25_92⟩,
    ⟨2086, 10, 8, 0x1_03_12_25_81_12_81⟩,
    ⟨53, 16, 15, 0x1_01_03_12_81_92_25_92_81⟩,
    ⟨2146, 16, 15, 0x1_12_25_81_12_81_90_03_90⟩,
    ⟨801, 22, 22, 0x1_01_12_92_25_92_a1_90_03_90_a1⟩,
    ⟨5249, 22, 19, 0x1_01_14_a1_14_a1_b0_81_14_81_b0⟩,
    ⟨195, 16, 16, 0x1_01_14_81_12_81_90_03_90⟩,
    ⟨165, 4, 3, 0x1_01_03_12_14⟩,
    ⟨105, 16, 16, 0x1_01_12_81_14_81_90_03_90⟩,
    ⟨45, 10, 9, 0x1_01_03_12_81_14_81⟩,
    ⟨75, 22, 22, 0x1_01_81_12_81_81_14_81_90_03_90⟩,
    ⟨135, 10, 9, 0x1_01_03_14_81_12_81⟩,
    ⟨673, 16, 16, 0x1_01_12_14_a1_90_03_90_a1⟩,
    ⟨1031, 16, 16, 0x1_01_03_81_12_81_a1_14_a1⟩,
    ⟨4257, 16, 14, 0x1_01_12_14_b0_81_14_81_b0⟩,
    ⟨480, 16, 16, 0x1_12_14_90_03_90_92_25_92⟩,
    ⟨3586, 28, 27, 0x1_25_81_12_81_a1_90_03_90_a1_a1_14_a1⟩,
    ⟨449, 16, 16, 0x1_01_14_90_03_90_92_25_92⟩,
    ⟨417, 10, 10, 0x1_01_12_14_92_25_92⟩,
    ⟨353, 16, 16, 0x1_01_12_90_03_90_92_25_92⟩,
    ⟨225, 10, 10, 0x1_01_12_14_90_03_90⟩,
    ⟨6324, 30, 28, 0x1_03_12_14_25_81_92_25_92_81_b0_81_14_81_b0⟩,
    ⟨6534, 30, 25, 0x1_03_14_25_81_12_81_92_25_92_b0_81_14_81_b0⟩,
    ⟨9606, 42, 38, 0x1_03_14_81_12_81_92_25_92_a1_14_a1_b0_81_92_25_92_81_b0⟩,
    ⟨10412, 30, 28, 0x1_03_12_14_25_81_14_81_b0_81_92_25_92_81_b0⟩,
    ⟨7429, 30, 25, 0x1_01_25_03_92_25_92_a1_14_a1_b0_81_14_81_b0⟩,
    ⟨11397, 30, 25, 0x1_01_25_03_14_a1_14_a1_b0_81_92_25_92_81_b0⟩,
    ⟨6801, 42, 38, 0x1_01_25_14_81_92_25_92_81_a1_90_03_90_a1_b0_81_14_81_b0⟩,
    ⟨22887, 51, 43, 0x1_01_25_03_12_81_12_81_90_03_90_92_25_92_b0_81_14_81_b0_c1_92_25_92_c1⟩,
    ⟨2776, 42, 41, 0x1_14_25_81_14_81_81_92_25_92_81_90_03_90_a1_90_03_90_a1⟩,
    ⟨18630, 30, 28, 0x1_03_14_25_81_12_81_90_03_90_c1_92_25_92_c1⟩,
    ⟨24742, 42, 38, 0x1_03_12_14_81_12_81_b0_81_92_25_92_81_b0_c1_92_25_92_c1⟩,
    ⟨3284, 30, 28, 0x1_03_14_25_81_92_25_92_81_90_03_90_a1_14_a1⟩,
    ⟨19077, 30, 28, 0x1_01_25_03_14_a1_90_03_90_a1_c1_92_25_92_c1⟩,
    ⟨2956, 30, 28, 0x1_03_14_25_81_14_81_92_25_92_a1_90_03_90_a1⟩,
    ⟨22565, 30, 25, 0x1_01_25_03_12_b0_81_14_81_b0_c1_92_25_92_c1⟩,
    ⟨17029, 29, 28, 0x1_01_03_14_a1_90_03_90_a1_c1_92_25_92_c1⟩,
    ⟨9283, 41, 38, 0x1_01_81_12_81_90_03_90_a1_14_a1_b0_81_92_25_92_81_b0⟩,
    ⟨6275, 23, 22, 0x1_01_25_14_81_12_81_b0_81_14_81_b0⟩,
    ⟨18499, 29, 28, 0x1_01_25_81_12_81_90_03_90_c1_92_25_92_c1⟩,
    ⟨10371, 29, 28, 0x1_01_25_14_81_12_81_b0_81_92_25_92_81_b0⟩,
    ⟨5379, 35, 32, 0x1_01_81_12_81_92_25_92_a1_14_a1_b0_81_14_81_b0⟩,
    ⟨20517, 29, 25, 0x1_01_03_12_b0_81_14_81_b0_c1_92_25_92_c1⟩,
    ⟨2693, 17, 15, 0x1_01_25_03_14_a1_90_03_90_a1⟩,
    ⟨5381, 29, 25, 0x1_01_03_92_25_92_a1_14_a1_b0_81_14_81_b0⟩,
    ⟨8428, 36, 35, 0x1_03_12_14_81_14_81_90_03_90_b0_81_92_25_92_81_b0⟩,
    ⟨3145, 23, 22, 0x1_01_25_81_14_81_90_03_90_a1_14_a1⟩,
    ⟨1801, 35, 35, 0x1_01_81_14_81_92_25_92_a1_90_03_90_a1_a1_14_a1⟩,
    ⟨20529, 41, 38, 0x1_01_12_81_92_25_92_81_b0_81_14_81_b0_c1_92_25_92_c1⟩,
    ⟨3153, 29, 28, 0x1_01_25_81_92_25_92_81_90_03_90_a1_14_a1⟩,
    ⟨2705, 29, 28, 0x1_01_25_14_81_92_25_92_81_a1_90_03_90_a1⟩,
    ⟨16937, 35, 35, 0x1_01_12_81_14_81_a1_90_03_90_a1_c1_92_25_92_c1⟩,
    ⟨9253, 29, 25, 0x1_01_03_12_a1_14_a1_b0_81_92_25_92_81_b0⟩,
    ⟨6181, 17, 15, 0x1_01_25_03_12_b0_81_14_81_b0⟩,
    ⟨18469, 17, 15, 0x1_01_25_03_12_c1_92_25_92_c1⟩,
    ⟨10281, 29, 28, 0x1_01_25_12_81_14_81_b0_81_92_25_92_81_b0⟩,
    ⟨5169, 35, 32, 0x1_01_12_81_92_25_92_81_a1_14_a1_b0_81_14_81_b0⟩,
    ⟨16590, 36, 35, 0x1_03_14_81_12_81_81_14_81_90_03_90_c1_92_25_92_c1⟩,
    ⟨2158, 24, 22, 0x1_03_12_25_81_12_81_81_14_81_90_03_90⟩,
    ⟨1142, 36, 35, 0x1_03_12_81_12_81_81_92_25_92_81_90_03_90_a1_14_a1⟩,
    ⟨24707, 41, 38, 0x1_01_14_81_12_81_b0_81_92_25_92_81_b0_c1_92_25_92_c1⟩,
    ⟨3205, 11, 9, 0x1_01_25_03_14_a1_14_a1⟩,
    ⟨1681, 35, 35, 0x1_01_14_81_92_25_92_81_a1_90_03_90_a1_a1_14_a1⟩,
    ⟨7554, 36, 32, 0x1_14_25_81_12_81_92_25_92_a1_14_a1_b0_81_14_81_b0⟩,
    ⟨3333, 17, 15, 0x1_01_25_03_92_25_92_a1_14_a1⟩,
    ⟨2825, 29, 28, 0x1_01_25_81_14_81_92_25_92_a1_90_03_90_a1⟩,
    ⟨16490, 35, 35, 0x1_12_81_12_81_81_14_81_90_03_90_c1_92_25_92_c1⟩,
    ⟨8358, 29, 28, 0x1_03_12_14_81_12_81_b0_81_92_25_92_81_b0⟩,
    ⟨4390, 29, 25, 0x1_03_12_81_12_81_92_25_92_b0_81_14_81_b0⟩,
    ⟨16550, 23, 22, 0x1_03_12_14_81_12_81_c1_92_25_92_c1⟩,
    ⟨8490, 41, 38, 0x1_12_81_12_81_81_14_81_92_25_92_b0_81_92_25_92_81_b0⟩,
    ⟨6320, 29, 28, 0x1_12_14_25_81_92_25_92_81_b0_81_14_81_b0⟩,
    ⟨21025, 41, 35, 0x1_01_12_a1_90_03_90_a1_b0_81_14_81_b0_c1_92_25_92_c1⟩,
    ⟨813, 30, 29, 0x1_01_03_12_81_14_81_92_25_92_a1_90_03_90_a1⟩,
    ⟨693, 30, 29, 0x1_01_03_12_14_81_92_25_92_81_a1_90_03_90_a1⟩,
    ⟨11649, 36, 32, 0x1_01_25_14_92_25_92_a1_14_a1_b0_81_92_25_92_81_b0⟩,
    ⟨1414, 23, 22, 0x1_03_14_81_12_81_92_25_92_a1_14_a1⟩,
    ⟨3280, 29, 28, 0x1_14_25_81_92_25_92_81_90_03_90_a1_14_a1⟩,
    ⟨22561, 29, 24, 0x1_01_25_12_b0_81_14_81_b0_c1_92_25_92_c1⟩,
    ⟨2438, 17, 15, 0x1_03_14_25_81_12_81_92_25_92⟩,
    ⟨2378, 29, 28, 0x1_25_81_12_81_81_14_81_90_03_90_92_25_92⟩,
    ⟨16492, 29, 28, 0x1_03_12_81_14_81_90_03_90_c1_92_25_92_c1⟩,
    ⟨2246, 17, 15, 0x1_03_14_25_81_12_81_90_03_90⟩,
    ⟨1350, 29, 29, 0x1_03_81_12_81_90_03_90_92_25_92_a1_14_a1⟩,
    ⟨16582, 29, 28, 0x1_03_14_81_12_81_90_03_90_c1_92_25_92_c1⟩,
    ⟨2156, 17, 15, 0x1_03_12_25_81_14_81_90_03_90⟩,
    ⟨1140, 29, 28, 0x1_03_12_81_92_25_92_81_90_03_90_a1_14_a1⟩,
    ⟨18949, 29, 27, 0x1_01_25_03_a1_90_03_90_a1_c1_92_25_92_c1⟩,
    ⟨812, 29, 28, 0x1_03_12_81_14_81_92_25_92_a1_90_03_90_a1⟩,
    ⟨692, 29, 28, 0x1_03_12_14_81_92_25_92_81_a1_90_03_90_a1⟩,
    ⟨7173, 23, 18, 0x1_01_25_03_a1_14_a1_b0_81_14_81_b0⟩,
    ⟨4486, 29, 25, 0x1_03_14_81_12_81_92_25_92_b0_81_14_81_b0⟩,
    ⟨4276, 29, 28, 0x1_03_12_14_81_92_25_92_81_b0_81_14_81_b0⟩,
    ⟨11269, 29, 24, 0x1_01_25_03_a1_14_a1_b0_81_92_25_92_81_b0⟩,
    ⟨8582, 35, 31, 0x1_03_14_81_12_81_92_25_92_b0_81_92_25_92_81_b0⟩,
    ⟨10284, 29, 27, 0x1_03_12_25_81_14_81_b0_81_92_25_92_81_b0⟩,
    ⟨8364, 29, 28, 0x1_03_12_14_81_14_81_b0_81_92_25_92_81_b0⟩,
    ⟨2250, 23, 22, 0x1_14_25_81_12_81_81_14_81_90_03_90⟩,
    ⟨908, 29, 28, 0x1_03_14_81_14_81_92_25_92_a1_90_03_90_a1⟩,
    ⟨8586, 41, 38, 0x1_14_81_12_81_81_14_81_92_25_92_b0_81_92_25_92_81_b0⟩,
    ⟨2220, 11, 9, 0x1_03_12_14_25_81_14_81⟩,
    ⟨696, 35, 35, 0x1_12_14_81_14_81_81_92_25_92_81_a1_90_03_90_a1⟩,
    ⟨11393, 29, 25, 0x1_01_25_14_a1_14_a1_b0_81_92_25_92_81_b0⟩,
    ⟨1324, 23, 22, 0x1_03_12_81_14_81_92_25_92_a1_14_a1⟩,
    ⟨1144, 35, 35, 0x1_12_81_14_81_81_92_25_92_81_90_03_90_a1_14_a1⟩,
    ⟨6785, 29, 25, 0x1_01_25_14_a1_90_03_90_a1_b0_81_14_81_b0⟩,
    ⟨4487, 30, 26, 0x1_01_03_14_81_12_81_92_25_92_b0_81_14_81_b0⟩,
    ⟨4277, 30, 29, 0x1_01_03_12_14_81_92_25_92_81_b0_81_14_81_b0⟩,
    ⟨19073, 29, 28, 0x1_01_25_14_a1_90_03_90_a1_c1_92_25_92_c1⟩,
    ⟨18658, 30, 29, 0x1_12_14_25_81_12_81_90_03_90_c1_92_25_92_c1⟩,
    ⟨18476, 23, 21, 0x1_03_12_25_81_14_81_c1_92_25_92_c1⟩,
    ⟨6196, 29, 27, 0x1_03_12_25_81_92_25_92_81_b0_81_14_81_b0⟩,
    ⟨3185, 30, 29, 0x1_01_25_12_81_92_25_92_81_90_03_90_a1_14_a1⟩,
    ⟨2737, 30, 29, 0x1_01_25_12_14_81_92_25_92_81_a1_90_03_90_a1⟩,
    ⟨6530, 29, 25, 0x1_14_25_81_12_81_92_25_92_b0_81_14_81_b0⟩,
    ⟨3335, 24, 23, 0x1_01_25_03_81_12_81_92_25_92_a1_14_a1⟩,
    ⟨2827, 36, 35, 0x1_01_25_81_12_81_81_14_81_92_25_92_a1_90_03_90_a1⟩,
    ⟨7425, 29, 25, 0x1_01_25_92_25_92_a1_14_a1_b0_81_14_81_b0⟩,
    ⟨2228, 17, 15, 0x1_03_12_14_25_81_92_25_92_81⟩,
    ⟨2168, 29, 28, 0x1_12_25_81_14_81_81_92_25_92_81_90_03_90⟩,
    ⟨11271, 36, 32, 0x1_01_25_03_81_12_81_a1_14_a1_b0_81_92_25_92_81_b0⟩,
    ⟨10434, 35, 34, 0x1_14_25_81_12_81_90_03_90_b0_81_92_25_92_81_b0⟩,
    ⟨8493, 36, 32, 0x1_01_03_12_81_14_81_92_25_92_b0_81_92_25_92_81_b0⟩,
    ⟨19105, 30, 29, 0x1_01_25_12_14_a1_90_03_90_a1_c1_92_25_92_c1⟩,
    ⟨18626, 29, 28, 0x1_14_25_81_12_81_90_03_90_c1_92_25_92_c1⟩,
    ⟨16564, 29, 28, 0x1_03_12_14_81_92_25_92_81_c1_92_25_92_c1⟩,
    ⟨20521, 35, 32, 0x1_01_12_81_14_81_b0_81_14_81_b0_c1_92_25_92_c1⟩,
    ⟨3139, 23, 22, 0x1_01_25_81_12_81_90_03_90_a1_14_a1⟩,
    ⟨2691, 23, 22, 0x1_01_25_14_81_12_81_a1_90_03_90_a1⟩,
    ⟨494, 31, 30, 0x1_03_12_14_81_12_81_81_14_81_90_03_90_92_25_92⟩,
    ⟨901, 23, 22, 0x1_01_03_14_92_25_92_a1_90_03_90_a1⟩,
    ⟨1347, 29, 29, 0x1_01_81_12_81_90_03_90_92_25_92_a1_14_a1⟩,
    ⟨2243, 17, 16, 0x1_01_25_14_81_12_81_90_03_90⟩,
    ⟨4389, 23, 19, 0x1_01_03_12_92_25_92_b0_81_14_81_b0⟩,
    ⟨8357, 23, 21, 0x1_01_03_12_14_b0_81_92_25_92_81_b0⟩,
    ⟨16489, 29, 29, 0x1_01_12_81_14_81_90_03_90_c1_92_25_92_c1⟩,
    ⟨569, 35, 35, 0x1_01_12_81_14_81_81_92_25_92_81_a1_90_03_90_a1⟩,
    ⟨1077, 23, 22, 0x1_01_03_12_81_92_25_92_81_a1_14_a1⟩,
    ⟨2093, 11, 9, 0x1_01_25_03_12_81_14_81⟩,
    ⟨20611, 35, 32, 0x1_01_14_81_12_81_b0_81_14_81_b0_c1_92_25_92_c1⟩,
    ⟨6306, 23, 22, 0x1_12_14_25_81_12_81_b0_81_14_81_b0⟩,
    ⟨8459, 41, 38, 0x1_01_81_12_81_81_14_81_92_25_92_b0_81_92_25_92_81_b0⟩,
    ⟨3109, 11, 9, 0x1_01_25_03_12_a1_14_a1⟩,
    ⟨16519, 23, 22, 0x1_01_03_14_81_12_81_c1_92_25_92_c1⟩,
    ⟨2601, 23, 22, 0x1_01_25_12_81_14_81_a1_90_03_90_a1⟩,
    ⟨5265, 35, 32, 0x1_01_14_81_92_25_92_81_a1_14_a1_b0_81_14_81_b0⟩,
    ⟨5409, 29, 26, 0x1_01_12_92_25_92_a1_14_a1_b0_81_14_81_b0⟩,
    ⟨10401, 23, 20, 0x1_01_25_12_14_b0_81_92_25_92_81_b0⟩,
    ⟨422, 17, 16, 0x1_03_12_14_81_12_81_92_25_92⟩,
    ⟨3523, 31, 30, 0x1_01_25_14_81_12_81_90_03_90_92_25_92_a1_14_a1⟩,
    ⟨18439, 23, 22, 0x1_01_25_03_81_12_81_c1_92_25_92_c1⟩,
    ⟨362, 29, 29, 0x1_12_81_12_81_81_14_81_90_03_90_92_25_92⟩,
    ⟨182, 23, 22, 0x1_03_12_14_81_12_81_81_92_25_92_81⟩,
    ⟨2288, 23, 22, 0x1_12_14_25_81_92_25_92_81_90_03_90⟩,
    ⟨302, 23, 22, 0x1_03_12_81_12_81_81_14_81_92_25_92⟩,
    ⟨21537, 35, 29, 0x1_01_12_a1_14_a1_b0_81_14_81_b0_c1_92_25_92_c1⟩,
    ⟨20487, 35, 32, 0x1_01_03_81_12_81_b0_81_14_81_b0_c1_92_25_92_c1⟩,
    ⟨2604, 23, 21, 0x1_03_12_25_81_14_81_a1_90_03_90_a1⟩,
    ⟨214, 29, 28, 0x1_03_14_81_12_81_81_92_25_92_81_90_03_90⟩,
    ⟨5141, 35, 32, 0x1_01_03_81_92_25_92_81_a1_14_a1_b0_81_14_81_b0⟩,
    ⟨244, 23, 22, 0x1_03_12_14_81_92_25_92_81_90_03_90⟩,
    ⟨334, 29, 29, 0x1_03_81_12_81_81_14_81_90_03_90_92_25_92⟩,
    ⟨2573, 23, 22, 0x1_01_25_03_81_14_81_a1_90_03_90_a1⟩,
    ⟨3589, 23, 21, 0x1_01_25_03_a1_90_03_90_a1_a1_14_a1⟩,
    ⟨454, 23, 22, 0x1_03_14_81_12_81_90_03_90_92_25_92⟩,
    ⟨124, 29, 28, 0x1_03_12_81_14_81_81_92_25_92_81_90_03_90⟩,
    ⟨248, 29, 29, 0x1_12_14_81_14_81_81_92_25_92_81_90_03_90⟩,
    ⟨398, 23, 22, 0x1_03_14_81_12_81_81_14_81_92_25_92⟩,
    ⟨3085, 17, 16, 0x1_01_25_03_81_14_81_a1_14_a1⟩,
    ⟨24737, 35, 30, 0x1_01_12_14_b0_81_92_25_92_81_b0_c1_92_25_92_c1⟩,
    ⟨3713, 23, 22, 0x1_01_25_14_a1_90_03_90_a1_a1_14_a1⟩,
    ⟨458, 29, 29, 0x1_14_81_12_81_81_14_81_90_03_90_92_25_92⟩,
    ⟨3116, 17, 15, 0x1_03_12_25_81_14_81_a1_14_a1⟩,
    ⟨188, 23, 22, 0x1_03_12_14_81_14_81_81_92_25_92_81⟩,
    ⟨3266, 23, 22, 0x1_14_25_81_12_81_90_03_90_a1_14_a1⟩,
    ⟨1921, 29, 29, 0x1_01_14_92_25_92_a1_90_03_90_a1_a1_14_a1⟩,
    ⟨3841, 29, 28, 0x1_01_25_92_25_92_a1_90_03_90_a1_a1_14_a1⟩,
    ⟨2498, 23, 22, 0x1_14_25_81_12_81_90_03_90_92_25_92⟩,
    ⟨3124, 23, 21, 0x1_03_12_25_81_92_25_92_81_a1_14_a1⟩,
    ⟨2616, 35, 34, 0x1_12_25_81_14_81_81_92_25_92_81_a1_90_03_90_a1⟩,
    ⟨2108, 23, 21, 0x1_03_12_25_81_14_81_81_92_25_92_81⟩,
    ⟨3394, 29, 28, 0x1_25_81_12_81_90_03_90_92_25_92_a1_14_a1⟩,
    ⟨406, 29, 28, 0x1_03_14_81_12_81_81_92_25_92_81_92_25_92⟩,
    ⟨2945, 23, 22, 0x1_01_25_14_92_25_92_a1_90_03_90_a1⟩,
    ⟨3093, 23, 22, 0x1_01_25_03_81_92_25_92_81_a1_14_a1⟩,
    ⟨20769, 35, 29, 0x1_01_12_92_25_92_b0_81_14_81_b0_c1_92_25_92_c1⟩,
    ⟨3617, 23, 22, 0x1_01_25_12_a1_90_03_90_a1_a1_14_a1⟩,
    ⟨451, 23, 23, 0x1_01_14_81_12_81_90_03_90_92_25_92⟩,
    ⟨421, 11, 10, 0x1_01_03_12_14_92_25_92⟩,
    ⟨361, 23, 23, 0x1_01_12_81_14_81_90_03_90_92_25_92⟩,
    ⟨241, 23, 23, 0x1_01_12_14_81_92_25_92_81_90_03_90⟩,
    ⟨61, 23, 22, 0x1_01_03_12_81_14_81_81_92_25_92_81⟩,
    ⟨3170, 23, 22, 0x1_12_25_81_12_81_90_03_90_a1_14_a1⟩,
    ⟨151, 23, 22, 0x1_01_03_14_81_12_81_81_92_25_92_81⟩,
    ⟨271, 23, 23, 0x1_01_03_81_12_81_81_14_81_92_25_92⟩,
    ⟨929, 23, 23, 0x1_01_12_14_92_25_92_a1_90_03_90_a1⟩,
    ⟨1377, 23, 23, 0x1_01_12_90_03_90_92_25_92_a1_14_a1⟩,
    ⟨2273, 11, 10, 0x1_01_25_12_14_90_03_90⟩,
    ⟨4513, 23, 20, 0x1_01_12_14_92_25_92_b0_81_14_81_b0⟩,
    ⟨8609, 29, 26, 0x1_01_12_14_92_25_92_b0_81_92_25_92_81_b0⟩,
    ⟨16609, 23, 23, 0x1_01_12_14_90_03_90_c1_92_25_92_c1⟩,
    ⟨481, 17, 17, 0x1_01_12_14_90_03_90_92_25_92⟩,
    ⟨20641, 29, 24, 0x1_01_12_14_b0_81_14_81_b0_c1_92_25_92_c1⟩,
    ⟨3079, 17, 16, 0x1_01_25_03_81_12_81_a1_14_a1⟩,
    ⟨2721, 17, 16, 0x1_01_25_12_14_a1_90_03_90_a1⟩,
    ⟨5505, 29, 26, 0x1_01_14_92_25_92_a1_14_a1_b0_81_14_81_b0⟩,
    ⟨391, 17, 16, 0x1_01_03_14_81_12_81_92_25_92⟩,
    ⟨331, 29, 29, 0x1_01_81_12_81_81_14_81_90_03_90_92_25_92⟩,
    ⟨2274, 17, 16, 0x1_12_14_25_81_12_81_90_03_90⟩,
    ⟨2094, 17, 15, 0x1_03_12_25_81_12_81_81_14_81⟩,
    ⟨181, 17, 16, 0x1_01_03_12_14_81_92_25_92_81⟩,
    ⟨121, 29, 29, 0x1_01_12_81_14_81_81_92_25_92_81_90_03_90⟩,
    ⟨17057, 29, 29, 0x1_01_12_14_a1_90_03_90_a1_c1_92_25_92_c1⟩,
    ⟨9223, 35, 32, 0x1_01_03_81_12_81_a1_14_a1_b0_81_92_25_92_81_b0⟩,
    ⟨6305, 17, 14, 0x1_01_25_12_14_b0_81_14_81_b0⟩,
    ⟨18530, 29, 28, 0x1_12_25_81_12_81_90_03_90_c1_92_25_92_c1⟩,
    ⟨8327, 29, 28, 0x1_01_03_14_81_12_81_b0_81_92_25_92_81_b0⟩,
    ⟨4359, 29, 26, 0x1_01_03_81_12_81_92_25_92_b0_81_14_81_b0⟩,
    ⟨16429, 23, 22, 0x1_01_03_12_81_14_81_c1_92_25_92_c1⟩,
    ⟨2183, 11, 9, 0x1_01_25_03_14_81_12_81⟩,
    ⟨1287, 23, 23, 0x1_01_03_81_12_81_92_25_92_a1_14_a1⟩,
    ⟨8237, 29, 28, 0x1_01_03_12_81_14_81_b0_81_92_25_92_81_b0⟩,
    ⟨2123, 23, 22, 0x1_01_25_81_12_81_81_14_81_90_03_90⟩,
    ⟨781, 29, 29, 0x1_01_03_81_14_81_92_25_92_a1_90_03_90_a1⟩,
    ⟨4149, 29, 28, 0x1_01_03_12_81_92_25_92_81_b0_81_14_81_b0⟩,
    ⟨3408, 35, 34, 0x1_25_81_92_25_92_81_90_03_90_92_25_92_a1_14_a1⟩,
    ⟨661, 29, 28, 0x1_01_03_14_81_92_25_92_81_a1_90_03_90_a1⟩,
    ⟨16549, 17, 16, 0x1_01_03_12_14_c1_92_25_92_c1⟩,
    ⟨11304, 35, 31, 0x1_12_25_81_14_81_a1_14_a1_b0_81_92_25_92_81_b0⟩,
    ⟨4273, 29, 29, 0x1_01_12_14_81_92_25_92_81_b0_81_14_81_b0⟩,
    ⟨16579, 29, 29, 0x1_01_14_81_12_81_90_03_90_c1_92_25_92_c1⟩,
    ⟨2153, 17, 16, 0x1_01_25_12_81_14_81_90_03_90⟩,
    ⟨1137, 29, 29, 0x1_01_12_81_92_25_92_81_90_03_90_a1_14_a1⟩,
    ⟨8579, 35, 32, 0x1_01_14_81_12_81_92_25_92_b0_81_92_25_92_81_b0⟩,
    ⟨2213, 5, 3, 0x1_01_25_03_12_14⟩,
    ⟨689, 29, 29, 0x1_01_12_14_81_92_25_92_81_a1_90_03_90_a1⟩,
    ⟨4483, 29, 26, 0x1_01_14_81_12_81_92_25_92_b0_81_14_81_b0⟩,
    ⟨1317, 17, 16, 0x1_01_03_12_92_25_92_a1_14_a1⟩,
    ⟨809, 29, 29, 0x1_01_12_81_14_81_92_25_92_a1_90_03_90_a1⟩,
    ⟨18977, 29, 28, 0x1_01_25_12_a1_90_03_90_a1_c1_92_25_92_c1⟩,
    ⟨2826, 35, 34, 0x1_25_81_12_81_81_14_81_92_25_92_a1_90_03_90_a1⟩,
    ⟨2736, 29, 28, 0x1_12_14_25_81_92_25_92_81_a1_90_03_90_a1⟩,
    ⟨11297, 29, 25, 0x1_01_25_12_a1_14_a1_b0_81_92_25_92_81_b0⟩,
    ⟨1318, 23, 22, 0x1_03_12_81_12_81_92_25_92_a1_14_a1⟩,
    ⟨3184, 29, 28, 0x1_12_25_81_92_25_92_81_90_03_90_a1_14_a1⟩,
    ⟨7201, 23, 19, 0x1_01_25_12_a1_14_a1_b0_81_14_81_b0⟩,
    ⟨2214, 11, 9, 0x1_03_12_14_25_81_12_81⟩,
    ⟨2154, 23, 22, 0x1_12_25_81_12_81_81_14_81_90_03_90⟩,
    ⟨7297, 23, 19, 0x1_01_25_14_a1_14_a1_b0_81_14_81_b0⟩,
    ⟨4422, 35, 32, 0x1_03_81_12_81_90_03_90_92_25_92_b0_81_14_81_b0⟩,
    ⟨4212, 35, 34, 0x1_03_12_81_92_25_92_81_90_03_90_b0_81_14_81_b0⟩,
    ⟨11521, 35, 31, 0x1_01_25_92_25_92_a1_14_a1_b0_81_92_25_92_81_b0⟩,
    ⟨2741, 31, 29, 0x1_01_25_03_12_14_81_92_25_92_81_a1_90_03_90_a1⟩,
    ⟨8300, 35, 34, 0x1_03_12_81_14_81_90_03_90_b0_81_92_25_92_81_b0⟩,
    ⟨19201, 35, 34, 0x1_01_25_92_25_92_a1_90_03_90_a1_c1_92_25_92_c1⟩,
    ⟨18754, 35, 34, 0x1_25_81_12_81_90_03_90_92_25_92_c1_92_25_92_c1⟩,
    ⟨16556, 23, 22, 0x1_03_12_14_81_14_81_c1_92_25_92_c1⟩,
    ⟨19233, 36, 35, 0x1_01_25_12_92_25_92_a1_90_03_90_a1_c1_92_25_92_c1⟩,
    ⟨11553, 36, 32, 0x1_01_25_12_92_25_92_a1_14_a1_b0_81_92_25_92_81_b0⟩,
    ⟨7329, 24, 20, 0x1_01_25_12_14_a1_14_a1_b0_81_14_81_b0⟩,
    ⟨18786, 36, 35, 0x1_12_25_81_12_81_90_03_90_92_25_92_c1_92_25_92_c1⟩,
    ⟨10658, 36, 32, 0x1_12_14_25_81_12_81_92_25_92_b0_81_92_25_92_81_b0⟩,
    ⟨4423, 36, 33, 0x1_01_03_81_12_81_90_03_90_92_25_92_b0_81_14_81_b0⟩,
    ⟨16557, 24, 23, 0x1_01_03_12_14_81_14_81_c1_92_25_92_c1⟩,
    ⟨2215, 12, 10, 0x1_01_25_03_12_14_81_12_81⟩,
    ⟨1319, 24, 23, 0x1_01_03_12_81_12_81_92_25_92_a1_14_a1⟩,
    ⟨8301, 36, 35, 0x1_01_03_12_81_14_81_90_03_90_b0_81_92_25_92_81_b0⟩,
    ⟨2155, 24, 23, 0x1_01_25_12_81_12_81_81_14_81_90_03_90⟩,
    ⟨811, 36, 36, 0x1_01_12_81_12_81_81_14_81_92_25_92_a1_90_03_90_a1⟩,
    ⟨4213, 36, 35, 0x1_01_03_12_81_92_25_92_81_90_03_90_b0_81_14_81_b0⟩,
    ⟨3440, 36, 35, 0x1_12_25_81_92_25_92_81_90_03_90_92_25_92_a1_14_a1⟩,
    ⟨725, 36, 35, 0x1_01_03_14_81_92_25_92_81_90_03_90_a1_90_03_90_a1⟩,
    ⟨18957, 36, 35, 0x1_01_25_03_81_14_81_a1_90_03_90_a1_c1_92_25_92_c1⟩,
    ⟨11277, 36, 32, 0x1_01_25_03_81_14_81_a1_14_a1_b0_81_92_25_92_81_b0⟩,
    ⟨7041, 36, 32, 0x1_01_25_14_92_25_92_a1_90_03_90_a1_b0_81_14_81_b0⟩,
    ⟨22626, 42, 38, 0x1_12_25_81_12_81_90_03_90_b0_81_14_81_b0_c1_92_25_92_c1⟩,
    ⟨8590, 42, 38, 0x1_03_14_81_12_81_81_14_81_92_25_92_b0_81_92_25_92_81_b0⟩,
    ⟨20743, 42, 36, 0x1_01_03_81_12_81_92_25_92_b0_81_14_81_b0_c1_92_25_92_c1⟩,
    ⟨18477, 24, 22, 0x1_01_25_03_12_81_14_81_c1_92_25_92_c1⟩,
    ⟨2236, 24, 22, 0x1_03_12_14_25_81_14_81_81_92_25_92_81⟩,
    ⟨3341, 24, 23, 0x1_01_25_03_81_14_81_92_25_92_a1_14_a1⟩,
    ⟨10285, 30, 28, 0x1_01_25_03_12_81_14_81_b0_81_92_25_92_81_b0⟩,
    ⟨2172, 30, 28, 0x1_03_12_25_81_14_81_81_92_25_92_81_90_03_90⟩,
    ⟨2829, 30, 29, 0x1_01_25_03_81_14_81_92_25_92_a1_90_03_90_a1⟩,
    ⟨5173, 36, 32, 0x1_01_03_12_81_92_25_92_81_a1_14_a1_b0_81_14_81_b0⟩,
    ⟨1148, 36, 35, 0x1_03_12_81_14_81_81_92_25_92_81_90_03_90_a1_14_a1⟩,
    ⟨700, 36, 35, 0x1_03_12_14_81_14_81_81_92_25_92_81_a1_90_03_90_a1⟩,
    ⟨20773, 36, 29, 0x1_01_03_12_92_25_92_b0_81_14_81_b0_c1_92_25_92_c1⟩,
    ⟨11308, 36, 31, 0x1_03_12_25_81_14_81_a1_14_a1_b0_81_92_25_92_81_b0⟩,
    ⟨7220, 36, 31, 0x1_03_12_25_81_92_25_92_81_a1_14_a1_b0_81_14_81_b0⟩,
    ⟨18627, 30, 29, 0x1_01_25_14_81_12_81_90_03_90_c1_92_25_92_c1⟩,
    ⟨2296, 30, 29, 0x1_12_14_25_81_14_81_81_92_25_92_81_90_03_90⟩,
    ⟨3281, 30, 29, 0x1_01_25_14_81_92_25_92_81_90_03_90_a1_14_a1⟩,
    ⟨8614, 36, 32, 0x1_03_12_14_81_12_81_92_25_92_b0_81_92_25_92_81_b0⟩,
    ⟨10405, 24, 21, 0x1_01_25_03_12_14_b0_81_92_25_92_81_b0⟩,
    ⟨10407, 31, 29, 0x1_01_25_03_12_14_81_12_81_b0_81_92_25_92_81_b0⟩,
    ⟨4518, 30, 26, 0x1_03_12_14_81_12_81_92_25_92_b0_81_14_81_b0⟩,
    ⟨5413, 30, 26, 0x1_01_03_12_92_25_92_a1_14_a1_b0_81_14_81_b0⟩,
    ⟨940, 30, 29, 0x1_03_12_14_81_14_81_92_25_92_a1_90_03_90_a1⟩,
    ⟨18985, 36, 35, 0x1_01_25_12_81_14_81_a1_90_03_90_a1_c1_92_25_92_c1⟩,
    ⟨2954, 36, 35, 0x1_14_25_81_12_81_81_14_81_92_25_92_a1_90_03_90_a1⟩,
    ⟨2744, 36, 35, 0x1_12_14_25_81_14_81_81_92_25_92_81_a1_90_03_90_a1⟩,
    ⟨11301, 30, 25, 0x1_01_25_03_12_a1_14_a1_b0_81_92_25_92_81_b0⟩,
    ⟨3845, 30, 28, 0x1_01_25_03_92_25_92_a1_90_03_90_a1_a1_14_a1⟩,
    ⟨3188, 30, 28, 0x1_03_12_25_81_92_25_92_81_90_03_90_a1_14_a1⟩,
    ⟨7205, 24, 19, 0x1_01_25_03_12_a1_14_a1_b0_81_14_81_b0⟩,
    ⟨2732, 24, 22, 0x1_03_12_14_25_81_14_81_a1_90_03_90_a1⟩,
    ⟨3180, 24, 22, 0x1_03_12_25_81_14_81_90_03_90_a1_14_a1⟩,
    ⟨2300, 31, 29, 0x1_03_12_14_25_81_14_81_81_92_25_92_81_90_03_90⟩,
    ⟨6470, 36, 32, 0x1_03_25_81_12_81_90_03_90_92_25_92_b0_81_14_81_b0⟩,
    ⟨6260, 36, 34, 0x1_03_12_25_81_92_25_92_81_90_03_90_b0_81_14_81_b0⟩,
    ⟨9861, 42, 38, 0x1_01_03_14_a1_90_03_90_a1_a1_14_a1_b0_81_92_25_92_81_b0⟩,
    ⟨2748, 37, 35, 0x1_03_12_14_25_81_14_81_81_92_25_92_81_a1_90_03_90_a1⟩,
    ⟨8876, 42, 38, 0x1_03_12_14_81_14_81_a1_90_03_90_a1_b0_81_92_25_92_81_b0⟩,
    ⟨19205, 36, 34, 0x1_01_25_03_92_25_92_a1_90_03_90_a1_c1_92_25_92_c1⟩,
    ⟨17606, 36, 35, 0x1_03_14_81_12_81_90_03_90_a1_14_a1_c1_92_25_92_c1⟩,
    ⟨3526, 31, 29, 0x1_03_14_25_81_12_81_90_03_90_92_25_92_a1_14_a1⟩,
    ⟨3969, 30, 29, 0x1_01_25_14_92_25_92_a1_90_03_90_a1_a1_14_a1⟩,
    ⟨26785, 36, 30, 0x1_01_25_12_14_b0_81_92_25_92_81_b0_c1_92_25_92_c1⟩,
    ⟨6246, 30, 28, 0x1_03_12_25_81_12_81_90_03_90_b0_81_14_81_b0⟩,
    ⟨3522, 30, 29, 0x1_14_25_81_12_81_90_03_90_92_25_92_a1_14_a1⟩,
    ⟨8869, 36, 32, 0x1_01_03_12_14_a1_90_03_90_a1_b0_81_92_25_92_81_b0⟩,
    ⟨462, 30, 29, 0x1_03_14_81_12_81_81_14_81_90_03_90_92_25_92⟩,
    ⟨3132, 30, 28, 0x1_03_12_25_81_14_81_81_92_25_92_81_a1_14_a1⟩,
    ⟨3117, 18, 16, 0x1_01_25_03_12_81_14_81_a1_14_a1⟩,
    ⟨3125, 24, 22, 0x1_01_25_03_12_81_92_25_92_81_a1_14_a1⟩,
    ⟨2620, 36, 34, 0x1_03_12_25_81_14_81_81_92_25_92_81_a1_90_03_90_a1⟩,
    ⟨2605, 24, 22, 0x1_01_25_03_12_81_14_81_a1_90_03_90_a1⟩,
    ⟨366, 30, 29, 0x1_03_12_81_12_81_81_14_81_90_03_90_92_25_92⟩,
    ⟨252, 30, 29, 0x1_03_12_14_81_14_81_81_92_25_92_81_90_03_90⟩,
    ⟨3395, 30, 29, 0x1_01_25_81_12_81_90_03_90_92_25_92_a1_14_a1⟩,
    ⟨246, 30, 29, 0x1_03_12_14_81_12_81_81_92_25_92_81_90_03_90⟩,
    ⟨23015, 52, 44, 0x1_01_25_03_12_14_81_12_81_90_03_90_92_25_92_b0_81_14_81_b0_c1_92_25_92_c1⟩]

end StabilizerPrep.Bundled
