import StabilizerPrep.Bundled.Row

/-!
# The table for six qubits on the device all

The bundled template table, one row for each class.
-/

namespace StabilizerPrep.Bundled

set_option autoImplicit false

set_option maxRecDepth 20000 in
def sixAll : List Row :=
  [⟨0, 0, 0, 0x1⟩,
    ⟨1, 1, 1, 0x1_01⟩,
    ⟨2, 1, 1, 0x1_02⟩,
    ⟨4, 1, 1, 0x1_03⟩,
    ⟨8, 1, 1, 0x1_04⟩,
    ⟨16, 1, 1, 0x1_05⟩,
    ⟨32, 1, 1, 0x1_12⟩,
    ⟨64, 1, 1, 0x1_13⟩,
    ⟨128, 1, 1, 0x1_14⟩,
    ⟨256, 1, 1, 0x1_15⟩,
    ⟨512, 1, 1, 0x1_23⟩,
    ⟨1024, 1, 1, 0x1_24⟩,
    ⟨2048, 1, 1, 0x1_25⟩,
    ⟨4096, 1, 1, 0x1_34⟩,
    ⟨8192, 1, 1, 0x1_35⟩,
    ⟨16384, 1, 1, 0x1_45⟩,
    ⟨16896, 2, 1, 0x1_23_45⟩,
    ⟨9216, 2, 1, 0x1_24_35⟩,
    ⟨6144, 2, 1, 0x1_25_34⟩,
    ⟨16448, 2, 1, 0x1_13_45⟩,
    ⟨8320, 2, 1, 0x1_14_35⟩,
    ⟨4352, 2, 1, 0x1_15_34⟩,
    ⟨16416, 2, 1, 0x1_12_45⟩,
    ⟨2176, 2, 1, 0x1_14_25⟩,
    ⟨1280, 2, 1, 0x1_15_24⟩,
    ⟨8224, 2, 1, 0x1_12_35⟩,
    ⟨2112, 2, 1, 0x1_13_25⟩,
    ⟨768, 2, 1, 0x1_15_23⟩,
    ⟨4128, 2, 1, 0x1_12_34⟩,
    ⟨1088, 2, 1, 0x1_13_24⟩,
    ⟨640, 2, 1, 0x1_14_23⟩,
    ⟨16388, 2, 1, 0x1_03_45⟩,
    ⟨8200, 2, 1, 0x1_04_35⟩,
    ⟨4112, 2, 1, 0x1_05_34⟩,
    ⟨16386, 2, 1, 0x1_02_45⟩,
    ⟨2056, 2, 1, 0x1_04_25⟩,
    ⟨1040, 2, 1, 0x1_05_24⟩,
    ⟨8194, 2, 1, 0x1_02_35⟩,
    ⟨2052, 2, 1, 0x1_03_25⟩,
    ⟨528, 2, 1, 0x1_05_23⟩,
    ⟨4098, 2, 1, 0x1_02_34⟩,
    ⟨1028, 2, 1, 0x1_03_24⟩,
    ⟨520, 2, 1, 0x1_04_23⟩,
    ⟨16385, 2, 1, 0x1_01_45⟩,
    ⟨264, 2, 1, 0x1_04_15⟩,
    ⟨144, 2, 1, 0x1_05_14⟩,
    ⟨8193, 2, 1, 0x1_01_35⟩,
    ⟨260, 2, 1, 0x1_03_15⟩,
    ⟨80, 2, 1, 0x1_05_13⟩,
    ⟨4097, 2, 1, 0x1_01_34⟩,
    ⟨132, 2, 1, 0x1_03_14⟩,
    ⟨72, 2, 1, 0x1_04_13⟩,
    ⟨2049, 2, 1, 0x1_01_25⟩,
    ⟨258, 2, 1, 0x1_02_15⟩,
    ⟨48, 2, 1, 0x1_05_12⟩,
    ⟨1025, 2, 1, 0x1_01_24⟩,
    ⟨130, 2, 1, 0x1_02_14⟩,
    ⟨40, 2, 1, 0x1_04_12⟩,
    ⟨513, 2, 1, 0x1_01_23⟩,
    ⟨66, 2, 1, 0x1_02_13⟩,
    ⟨36, 2, 1, 0x1_03_12⟩,
    ⟨16897, 3, 1, 0x1_01_23_45⟩,
    ⟨9217, 3, 1, 0x1_01_24_35⟩,
    ⟨6145, 3, 1, 0x1_01_25_34⟩,
    ⟨16450, 3, 1, 0x1_02_13_45⟩,
    ⟨8322, 3, 1, 0x1_02_14_35⟩,
    ⟨4354, 3, 1, 0x1_02_15_34⟩,
    ⟨16420, 3, 1, 0x1_03_12_45⟩,
    ⟨2180, 3, 1, 0x1_03_14_25⟩,
    ⟨1284, 3, 1, 0x1_03_15_24⟩,
    ⟨8232, 3, 1, 0x1_04_12_35⟩,
    ⟨2120, 3, 1, 0x1_04_13_25⟩,
    ⟨776, 3, 1, 0x1_04_15_23⟩,
    ⟨4144, 3, 1, 0x1_05_12_34⟩,
    ⟨1104, 3, 1, 0x1_05_13_24⟩,
    ⟨656, 3, 1, 0x1_05_14_23⟩,
    ⟨3, 2, 2, 0x1_01_02⟩,
    ⟨5, 2, 2, 0x1_01_03⟩,
    ⟨9, 2, 2, 0x1_01_04⟩,
    ⟨17, 2, 2, 0x1_01_05⟩,
    ⟨6, 2, 2, 0x1_02_03⟩,
    ⟨10, 2, 2, 0x1_02_04⟩,
    ⟨18, 2, 2, 0x1_02_05⟩,
    ⟨12, 2, 2, 0x1_03_04⟩,
    ⟨20, 2, 2, 0x1_03_05⟩,
    ⟨24, 2, 2, 0x1_04_05⟩,
    ⟨96, 2, 2, 0x1_12_13⟩,
    ⟨160, 2, 2, 0x1_12_14⟩,
    ⟨288, 2, 2, 0x1_12_15⟩,
    ⟨192, 2, 2, 0x1_13_14⟩,
    ⟨320, 2, 2, 0x1_13_15⟩,
    ⟨384, 2, 2, 0x1_14_15⟩,
    ⟨1536, 2, 2, 0x1_23_24⟩,
    ⟨2560, 2, 2, 0x1_23_25⟩,
    ⟨3072, 2, 2, 0x1_24_25⟩,
    ⟨12288, 2, 2, 0x1_34_35⟩,
    ⟨12320, 3, 2, 0x1_12_34_35⟩,
    ⟨3136, 3, 2, 0x1_13_24_25⟩,
    ⟨2688, 3, 2, 0x1_14_23_25⟩,
    ⟨1792, 3, 2, 0x1_15_23_24⟩,
    ⟨896, 3, 2, 0x1_14_23_15⟩,
    ⟨1344, 3, 2, 0x1_13_24_15⟩,
    ⟨2240, 3, 2, 0x1_13_25_14⟩,
    ⟨4384, 3, 2, 0x1_12_34_15⟩,
    ⟨8352, 3, 2, 0x1_12_35_14⟩,
    ⟨16480, 3, 2, 0x1_12_45_13⟩,
    ⟨536, 3, 2, 0x1_04_23_05⟩,
    ⟨1044, 3, 2, 0x1_03_24_05⟩,
    ⟨2060, 3, 2, 0x1_03_25_04⟩,
    ⟨12290, 3, 2, 0x1_02_34_35⟩,
    ⟨4114, 3, 2, 0x1_02_34_05⟩,
    ⟨8202, 3, 2, 0x1_02_35_04⟩,
    ⟨3076, 3, 2, 0x1_03_24_25⟩,
    ⟨16390, 3, 2, 0x1_02_45_03⟩,
    ⟨2568, 3, 2, 0x1_04_23_25⟩,
    ⟨1552, 3, 2, 0x1_05_23_24⟩,
    ⟨4113, 3, 2, 0x1_01_34_05⟩,
    ⟨8201, 3, 2, 0x1_01_35_04⟩,
    ⟨388, 3, 2, 0x1_03_14_15⟩,
    ⟨88, 3, 2, 0x1_04_13_05⟩,
    ⟨16389, 3, 2, 0x1_01_45_03⟩,
    ⟨328, 3, 2, 0x1_04_13_15⟩,
    ⟨148, 3, 2, 0x1_03_14_05⟩,
    ⟨208, 3, 2, 0x1_05_13_14⟩,
    ⟨268, 3, 2, 0x1_03_15_04⟩,
    ⟨12289, 3, 2, 0x1_01_34_35⟩,
    ⟨16387, 3, 2, 0x1_01_45_02⟩,
    ⟨296, 3, 2, 0x1_04_12_15⟩,
    ⟨146, 3, 2, 0x1_02_14_05⟩,
    ⟨1041, 3, 2, 0x1_01_24_05⟩,
    ⟨176, 3, 2, 0x1_05_12_14⟩,
    ⟨266, 3, 2, 0x1_02_15_04⟩,
    ⟨2057, 3, 2, 0x1_01_25_04⟩,
    ⟨3073, 3, 2, 0x1_01_24_25⟩,
    ⟨386, 3, 2, 0x1_02_14_15⟩,
    ⟨56, 3, 2, 0x1_04_12_05⟩,
    ⟨112, 3, 2, 0x1_05_12_13⟩,
    ⟨262, 3, 2, 0x1_02_15_03⟩,
    ⟨2053, 3, 2, 0x1_01_25_03⟩,
    ⟨8195, 3, 2, 0x1_01_35_02⟩,
    ⟨2561, 3, 2, 0x1_01_23_25⟩,
    ⟨322, 3, 2, 0x1_02_13_15⟩,
    ⟨292, 3, 2, 0x1_03_12_15⟩,
    ⟨52, 3, 2, 0x1_03_12_05⟩,
    ⟨82, 3, 2, 0x1_02_13_05⟩,
    ⟨529, 3, 2, 0x1_01_23_05⟩,
    ⟨1537, 3, 2, 0x1_01_23_24⟩,
    ⟨194, 3, 2, 0x1_02_13_14⟩,
    ⟨164, 3, 2, 0x1_03_12_14⟩,
    ⟨104, 3, 2, 0x1_04_12_13⟩,
    ⟨44, 3, 2, 0x1_03_12_04⟩,
    ⟨74, 3, 2, 0x1_02_13_04⟩,
    ⟨134, 3, 2, 0x1_02_14_03⟩,
    ⟨521, 3, 2, 0x1_01_23_04⟩,
    ⟨1029, 3, 2, 0x1_01_24_03⟩,
    ⟨4099, 3, 2, 0x1_01_34_02⟩,
    ⟨12291, 4, 2, 0x1_01_34_02_35⟩,
    ⟨3077, 4, 2, 0x1_01_24_03_25⟩,
    ⟨2569, 4, 2, 0x1_01_23_04_25⟩,
    ⟨1553, 4, 2, 0x1_01_23_05_24⟩,
    ⟨390, 4, 2, 0x1_02_14_03_15⟩,
    ⟨330, 4, 2, 0x1_02_13_04_15⟩,
    ⟨210, 4, 2, 0x1_02_13_05_14⟩,
    ⟨300, 4, 2, 0x1_03_12_04_15⟩,
    ⟨180, 4, 2, 0x1_03_12_05_14⟩,
    ⟨120, 4, 2, 0x1_04_12_05_13⟩,
    ⟨17920, 3, 2, 0x1_23_45_24⟩,
    ⟨9728, 3, 2, 0x1_23_24_35⟩,
    ⟨6656, 3, 2, 0x1_23_25_34⟩,
    ⟨16576, 3, 2, 0x1_13_45_14⟩,
    ⟨8384, 3, 2, 0x1_13_14_35⟩,
    ⟨4416, 3, 2, 0x1_13_15_34⟩,
    ⟨16544, 3, 2, 0x1_12_45_14⟩,
    ⟨2208, 3, 2, 0x1_12_14_25⟩,
    ⟨1312, 3, 2, 0x1_12_15_24⟩,
    ⟨8288, 3, 2, 0x1_12_35_13⟩,
    ⟨2144, 3, 2, 0x1_12_13_25⟩,
    ⟨800, 3, 2, 0x1_12_15_23⟩,
    ⟨4192, 3, 2, 0x1_12_34_13⟩,
    ⟨1120, 3, 2, 0x1_12_13_24⟩,
    ⟨672, 3, 2, 0x1_12_14_23⟩,
    ⟨16396, 3, 2, 0x1_03_45_04⟩,
    ⟨8204, 3, 2, 0x1_03_04_35⟩,
    ⟨4116, 3, 2, 0x1_03_05_34⟩,
    ⟨16394, 3, 2, 0x1_02_45_04⟩,
    ⟨2058, 3, 2, 0x1_02_04_25⟩,
    ⟨1042, 3, 2, 0x1_02_05_24⟩,
    ⟨8198, 3, 2, 0x1_02_35_03⟩,
    ⟨2054, 3, 2, 0x1_02_03_25⟩,
    ⟨530, 3, 2, 0x1_02_05_23⟩,
    ⟨4102, 3, 2, 0x1_02_34_03⟩,
    ⟨1030, 3, 2, 0x1_02_03_24⟩,
    ⟨522, 3, 2, 0x1_02_04_23⟩,
    ⟨16393, 3, 2, 0x1_01_45_04⟩,
    ⟨265, 3, 2, 0x1_01_04_15⟩,
    ⟨145, 3, 2, 0x1_01_05_14⟩,
    ⟨8197, 3, 2, 0x1_01_35_03⟩,
    ⟨261, 3, 2, 0x1_01_03_15⟩,
    ⟨81, 3, 2, 0x1_01_05_13⟩,
    ⟨4101, 3, 2, 0x1_01_34_03⟩,
    ⟨133, 3, 2, 0x1_01_03_14⟩,
    ⟨73, 3, 2, 0x1_01_04_13⟩,
    ⟨2051, 3, 2, 0x1_01_25_02⟩,
    ⟨259, 3, 2, 0x1_01_02_15⟩,
    ⟨49, 3, 2, 0x1_01_05_12⟩,
    ⟨1027, 3, 2, 0x1_01_24_02⟩,
    ⟨131, 3, 2, 0x1_01_02_14⟩,
    ⟨41, 3, 2, 0x1_01_04_12⟩,
    ⟨515, 3, 2, 0x1_01_23_02⟩,
    ⟨67, 3, 2, 0x1_01_02_13⟩,
    ⟨37, 3, 2, 0x1_01_03_12⟩,
    ⟨17921, 4, 2, 0x1_01_23_45_24⟩,
    ⟨9729, 4, 2, 0x1_01_23_24_35⟩,
    ⟨6657, 4, 2, 0x1_01_23_25_34⟩,
    ⟨16578, 4, 2, 0x1_02_13_45_14⟩,
    ⟨8386, 4, 2, 0x1_02_13_14_35⟩,
    ⟨4418, 4, 2, 0x1_02_13_15_34⟩,
    ⟨16548, 4, 2, 0x1_03_12_45_14⟩,
    ⟨2212, 4, 2, 0x1_03_12_14_25⟩,
    ⟨1316, 4, 2, 0x1_03_12_15_24⟩,
    ⟨8296, 4, 2, 0x1_04_12_35_13⟩,
    ⟨2152, 4, 2, 0x1_04_12_13_25⟩,
    ⟨808, 4, 2, 0x1_04_12_15_23⟩,
    ⟨4208, 4, 2, 0x1_05_12_34_13⟩,
    ⟨1136, 4, 2, 0x1_05_12_13_24⟩,
    ⟨688, 4, 2, 0x1_05_12_14_23⟩,
    ⟨16428, 4, 2, 0x1_03_12_45_04⟩,
    ⟨8236, 4, 2, 0x1_03_12_04_35⟩,
    ⟨4148, 4, 2, 0x1_03_12_05_34⟩,
    ⟨16458, 4, 2, 0x1_02_13_45_04⟩,
    ⟨2122, 4, 2, 0x1_02_13_04_25⟩,
    ⟨1106, 4, 2, 0x1_02_13_05_24⟩,
    ⟨8326, 4, 2, 0x1_02_14_35_03⟩,
    ⟨2182, 4, 2, 0x1_02_14_03_25⟩,
    ⟨658, 4, 2, 0x1_02_14_05_23⟩,
    ⟨4358, 4, 2, 0x1_02_15_34_03⟩,
    ⟨1286, 4, 2, 0x1_02_15_03_24⟩,
    ⟨778, 4, 2, 0x1_02_15_04_23⟩,
    ⟨16905, 4, 2, 0x1_01_23_45_04⟩,
    ⟨777, 4, 2, 0x1_01_23_04_15⟩,
    ⟨657, 4, 2, 0x1_01_23_05_14⟩,
    ⟨9221, 4, 2, 0x1_01_24_35_03⟩,
    ⟨1285, 4, 2, 0x1_01_24_03_15⟩,
    ⟨1105, 4, 2, 0x1_01_24_05_13⟩,
    ⟨6149, 4, 2, 0x1_01_25_34_03⟩,
    ⟨2181, 4, 2, 0x1_01_25_03_14⟩,
    ⟨2121, 4, 2, 0x1_01_25_04_13⟩,
    ⟨6147, 4, 2, 0x1_01_25_34_02⟩,
    ⟨4355, 4, 2, 0x1_01_34_02_15⟩,
    ⟨4145, 4, 2, 0x1_01_34_05_12⟩,
    ⟨9219, 4, 2, 0x1_01_24_35_02⟩,
    ⟨8323, 4, 2, 0x1_01_35_02_14⟩,
    ⟨8233, 4, 2, 0x1_01_35_04_12⟩,
    ⟨16899, 4, 2, 0x1_01_23_45_02⟩,
    ⟨16451, 4, 2, 0x1_01_45_02_13⟩,
    ⟨16421, 4, 2, 0x1_01_45_03_12⟩,
    ⟨3584, 3, 3, 0x1_23_24_25⟩,
    ⟨448, 3, 3, 0x1_13_14_15⟩,
    ⟨416, 3, 3, 0x1_12_14_15⟩,
    ⟨352, 3, 3, 0x1_12_13_15⟩,
    ⟨224, 3, 3, 0x1_12_13_14⟩,
    ⟨28, 3, 3, 0x1_03_04_05⟩,
    ⟨26, 3, 3, 0x1_02_04_05⟩,
    ⟨22, 3, 3, 0x1_02_03_05⟩,
    ⟨14, 3, 3, 0x1_02_03_04⟩,
    ⟨25, 3, 3, 0x1_01_04_05⟩,
    ⟨21, 3, 3, 0x1_01_03_05⟩,
    ⟨13, 3, 3, 0x1_01_03_04⟩,
    ⟨19, 3, 3, 0x1_01_02_05⟩,
    ⟨11, 3, 3, 0x1_01_02_04⟩,
    ⟨7, 3, 3, 0x1_01_02_03⟩,
    ⟨3585, 4, 3, 0x1_01_23_24_25⟩,
    ⟨450, 4, 3, 0x1_02_13_14_15⟩,
    ⟨420, 4, 3, 0x1_03_12_14_15⟩,
    ⟨360, 4, 3, 0x1_04_12_13_15⟩,
    ⟨240, 4, 3, 0x1_05_12_13_14⟩,
    ⟨60, 4, 3, 0x1_03_12_04_05⟩,
    ⟨90, 4, 3, 0x1_02_13_04_05⟩,
    ⟨150, 4, 3, 0x1_02_14_03_05⟩,
    ⟨270, 4, 3, 0x1_02_15_03_04⟩,
    ⟨537, 4, 3, 0x1_01_23_04_05⟩,
    ⟨1045, 4, 3, 0x1_01_24_03_05⟩,
    ⟨2061, 4, 3, 0x1_01_25_03_04⟩,
    ⟨4115, 4, 3, 0x1_01_34_02_05⟩,
    ⟨8203, 4, 3, 0x1_01_35_02_04⟩,
    ⟨16391, 4, 3, 0x1_01_45_02_03⟩,
    ⟨17056, 4, 2, 0x1_12_45_14_23⟩,
    ⟨9312, 4, 2, 0x1_12_35_13_24⟩,
    ⟨6240, 4, 2, 0x1_12_34_13_25⟩,
    ⟨17504, 4, 2, 0x1_12_45_13_24⟩,
    ⟨8864, 4, 2, 0x1_12_35_14_23⟩,
    ⟨4896, 4, 2, 0x1_12_34_15_23⟩,
    ⟨20576, 4, 2, 0x1_12_34_13_45⟩,
    ⟨2752, 4, 2, 0x1_13_25_14_23⟩,
    ⟨1856, 4, 2, 0x1_13_24_15_23⟩,
    ⟨12448, 4, 2, 0x1_12_34_14_35⟩,
    ⟨3264, 4, 2, 0x1_13_24_14_25⟩,
    ⟨1920, 4, 2, 0x1_14_23_15_24⟩,
    ⟨12576, 4, 3, 0x1_12_34_15_35⟩,
    ⟨3392, 4, 3, 0x1_13_24_15_25⟩,
    ⟨2944, 4, 3, 0x1_14_23_15_25⟩,
    ⟨16906, 4, 2, 0x1_02_45_04_23⟩,
    ⟨9222, 4, 2, 0x1_02_35_03_24⟩,
    ⟨6150, 4, 2, 0x1_02_34_03_25⟩,
    ⟨17414, 4, 2, 0x1_02_45_03_24⟩,
    ⟨8714, 4, 2, 0x1_02_35_04_23⟩,
    ⟨4626, 4, 2, 0x1_02_34_05_23⟩,
    ⟨20486, 4, 2, 0x1_02_34_03_45⟩,
    ⟨2572, 4, 2, 0x1_03_25_04_23⟩,
    ⟨1556, 4, 2, 0x1_03_24_05_23⟩,
    ⟨12298, 4, 2, 0x1_02_34_04_35⟩,
    ⟨3084, 4, 2, 0x1_03_24_04_25⟩,
    ⟨1560, 4, 2, 0x1_04_23_05_24⟩,
    ⟨12306, 4, 3, 0x1_02_34_05_35⟩,
    ⟨3092, 4, 3, 0x1_03_24_05_25⟩,
    ⟨2584, 4, 3, 0x1_04_23_05_25⟩,
    ⟨16457, 4, 2, 0x1_01_45_04_13⟩,
    ⟨8325, 4, 2, 0x1_01_35_03_14⟩,
    ⟨4357, 4, 2, 0x1_01_34_03_15⟩,
    ⟨16517, 4, 2, 0x1_01_45_03_14⟩,
    ⟨8265, 4, 2, 0x1_01_35_04_13⟩,
    ⟨4177, 4, 2, 0x1_01_34_05_13⟩,
    ⟨20485, 4, 2, 0x1_01_34_03_45⟩,
    ⟨332, 4, 2, 0x1_03_15_04_13⟩,
    ⟨212, 4, 2, 0x1_03_14_05_13⟩,
    ⟨12297, 4, 2, 0x1_01_34_04_35⟩,
    ⟨396, 4, 2, 0x1_03_14_04_15⟩,
    ⟨216, 4, 2, 0x1_04_13_05_14⟩,
    ⟨12305, 4, 3, 0x1_01_34_05_35⟩,
    ⟨404, 4, 3, 0x1_03_14_05_15⟩,
    ⟨344, 4, 3, 0x1_04_13_05_15⟩,
    ⟨16425, 4, 2, 0x1_01_45_04_12⟩,
    ⟨2179, 4, 2, 0x1_01_25_02_14⟩,
    ⟨1283, 4, 2, 0x1_01_24_02_15⟩,
    ⟨16515, 4, 2, 0x1_01_45_02_14⟩,
    ⟨2089, 4, 2, 0x1_01_25_04_12⟩,
    ⟨1073, 4, 2, 0x1_01_24_05_12⟩,
    ⟨17411, 4, 2, 0x1_01_24_02_45⟩,
    ⟨298, 4, 2, 0x1_02_15_04_12⟩,
    ⟨178, 4, 2, 0x1_02_14_05_12⟩,
    ⟨3081, 4, 2, 0x1_01_24_04_25⟩,
    ⟨394, 4, 2, 0x1_02_14_04_15⟩,
    ⟨184, 4, 2, 0x1_04_12_05_14⟩,
    ⟨3089, 4, 3, 0x1_01_24_05_25⟩,
    ⟨402, 4, 3, 0x1_02_14_05_15⟩,
    ⟨312, 4, 3, 0x1_04_12_05_15⟩,
    ⟨8229, 4, 2, 0x1_01_35_03_12⟩,
    ⟨2115, 4, 2, 0x1_01_25_02_13⟩,
    ⟨771, 4, 2, 0x1_01_23_02_15⟩,
    ⟨8259, 4, 2, 0x1_01_35_02_13⟩,
    ⟨2085, 4, 2, 0x1_01_25_03_12⟩,
    ⟨561, 4, 2, 0x1_01_23_05_12⟩,
    ⟨8707, 4, 2, 0x1_01_23_02_35⟩,
    ⟨294, 4, 2, 0x1_02_15_03_12⟩,
    ⟨114, 4, 2, 0x1_02_13_05_12⟩,
    ⟨2565, 4, 2, 0x1_01_23_03_25⟩,
    ⟨326, 4, 2, 0x1_02_13_03_15⟩,
    ⟨116, 4, 2, 0x1_03_12_05_13⟩,
    ⟨2577, 4, 3, 0x1_01_23_05_25⟩,
    ⟨338, 4, 3, 0x1_02_13_05_15⟩,
    ⟨308, 4, 3, 0x1_03_12_05_15⟩,
    ⟨4133, 4, 2, 0x1_01_34_03_12⟩,
    ⟨1091, 4, 2, 0x1_01_24_02_13⟩,
    ⟨643, 4, 2, 0x1_01_23_02_14⟩,
    ⟨4163, 4, 2, 0x1_01_34_02_13⟩,
    ⟨1061, 4, 2, 0x1_01_24_03_12⟩,
    ⟨553, 4, 2, 0x1_01_23_04_12⟩,
    ⟨4611, 4, 2, 0x1_01_23_02_34⟩,
    ⟨166, 4, 2, 0x1_02_14_03_12⟩,
    ⟨106, 4, 2, 0x1_02_13_04_12⟩,
    ⟨1541, 4, 2, 0x1_01_23_03_24⟩,
    ⟨198, 4, 2, 0x1_02_13_03_14⟩,
    ⟨108, 4, 2, 0x1_03_12_04_13⟩,
    ⟨1545, 4, 3, 0x1_01_23_04_24⟩,
    ⟨202, 4, 3, 0x1_02_13_04_14⟩,
    ⟨172, 4, 3, 0x1_03_12_04_14⟩,
    ⟨7040, 5, 3, 0x1_14_23_15_34_25⟩,
    ⟨6680, 5, 3, 0x1_04_23_05_34_25⟩,
    ⟨4440, 5, 3, 0x1_04_13_05_34_15⟩,
    ⟨1336, 5, 3, 0x1_04_12_05_24_15⟩,
    ⟨820, 5, 3, 0x1_03_12_05_23_15⟩,
    ⟨684, 5, 3, 0x1_03_12_04_23_14⟩,
    ⟨12384, 4, 3, 0x1_12_34_13_35⟩,
    ⟨3168, 4, 3, 0x1_12_13_24_25⟩,
    ⟨2720, 4, 3, 0x1_12_14_23_25⟩,
    ⟨1824, 4, 3, 0x1_12_15_23_24⟩,
    ⟨928, 4, 3, 0x1_12_14_23_15⟩,
    ⟨1376, 4, 3, 0x1_12_13_24_15⟩,
    ⟨2272, 4, 3, 0x1_12_13_25_14⟩,
    ⟨4448, 4, 3, 0x1_12_34_13_15⟩,
    ⟨8416, 4, 3, 0x1_12_35_13_14⟩,
    ⟨16608, 4, 3, 0x1_12_45_13_14⟩,
    ⟨538, 4, 3, 0x1_02_04_23_05⟩,
    ⟨1046, 4, 3, 0x1_02_03_24_05⟩,
    ⟨2062, 4, 3, 0x1_02_03_25_04⟩,
    ⟨12294, 4, 3, 0x1_02_34_03_35⟩,
    ⟨4118, 4, 3, 0x1_02_34_03_05⟩,
    ⟨8206, 4, 3, 0x1_02_35_03_04⟩,
    ⟨3078, 4, 3, 0x1_02_03_24_25⟩,
    ⟨16398, 4, 3, 0x1_02_45_03_04⟩,
    ⟨2570, 4, 3, 0x1_02_04_23_25⟩,
    ⟨1554, 4, 3, 0x1_02_05_23_24⟩,
    ⟨4117, 4, 3, 0x1_01_34_03_05⟩,
    ⟨8205, 4, 3, 0x1_01_35_03_04⟩,
    ⟨389, 4, 3, 0x1_01_03_14_15⟩,
    ⟨89, 4, 3, 0x1_01_04_13_05⟩,
    ⟨16397, 4, 3, 0x1_01_45_03_04⟩,
    ⟨329, 4, 3, 0x1_01_04_13_15⟩,
    ⟨149, 4, 3, 0x1_01_03_14_05⟩,
    ⟨209, 4, 3, 0x1_01_05_13_14⟩,
    ⟨269, 4, 3, 0x1_01_03_15_04⟩,
    ⟨12293, 4, 3, 0x1_01_34_03_35⟩,
    ⟨16395, 4, 3, 0x1_01_45_02_04⟩,
    ⟨297, 4, 3, 0x1_01_04_12_15⟩,
    ⟨147, 4, 3, 0x1_01_02_14_05⟩,
    ⟨1043, 4, 3, 0x1_01_24_02_05⟩,
    ⟨177, 4, 3, 0x1_01_05_12_14⟩,
    ⟨267, 4, 3, 0x1_01_02_15_04⟩,
    ⟨2059, 4, 3, 0x1_01_25_02_04⟩,
    ⟨3075, 4, 3, 0x1_01_24_02_25⟩,
    ⟨387, 4, 3, 0x1_01_02_14_15⟩,
    ⟨57, 4, 3, 0x1_01_04_12_05⟩,
    ⟨113, 4, 3, 0x1_01_05_12_13⟩,
    ⟨263, 4, 3, 0x1_01_02_15_03⟩,
    ⟨2055, 4, 3, 0x1_01_25_02_03⟩,
    ⟨8199, 4, 3, 0x1_01_35_02_03⟩,
    ⟨2563, 4, 3, 0x1_01_23_02_25⟩,
    ⟨323, 4, 3, 0x1_01_02_13_15⟩,
    ⟨293, 4, 3, 0x1_01_03_12_15⟩,
    ⟨53, 4, 3, 0x1_01_03_12_05⟩,
    ⟨83, 4, 3, 0x1_01_02_13_05⟩,
    ⟨531, 4, 3, 0x1_01_23_02_05⟩,
    ⟨1539, 4, 3, 0x1_01_23_02_24⟩,
    ⟨195, 4, 3, 0x1_01_02_13_14⟩,
    ⟨165, 4, 3, 0x1_01_03_12_14⟩,
    ⟨105, 4, 3, 0x1_01_04_12_13⟩,
    ⟨45, 4, 3, 0x1_01_03_12_04⟩,
    ⟨75, 4, 3, 0x1_01_02_13_04⟩,
    ⟨135, 4, 3, 0x1_01_02_14_03⟩,
    ⟨523, 4, 3, 0x1_01_23_02_04⟩,
    ⟨1031, 4, 3, 0x1_01_24_02_03⟩,
    ⟨4103, 4, 3, 0x1_01_34_02_03⟩,
    ⟨480, 4, 4, 0x1_12_13_14_15⟩,
    ⟨30, 4, 4, 0x1_02_03_04_05⟩,
    ⟨29, 4, 4, 0x1_01_03_04_05⟩,
    ⟨27, 4, 4, 0x1_01_02_04_05⟩,
    ⟨23, 4, 4, 0x1_01_02_03_05⟩,
    ⟨15, 4, 4, 0x1_01_02_03_04⟩,
    ⟨6324, 6, 3, 0x1_03_12_05_14_25_34⟩,
    ⟨17106, 6, 2, 0x1_02_13_45_05_14_23⟩,
    ⟨9336, 6, 2, 0x1_04_12_35_05_13_24⟩,
    ⟨5428, 6, 3, 0x1_03_12_05_24_15_34⟩,
    ⟨18001, 6, 2, 0x1_01_23_45_05_13_24⟩,
    ⟨8888, 6, 2, 0x1_04_12_35_05_14_23⟩,
    ⟨5458, 6, 3, 0x1_02_13_05_24_15_34⟩,
    ⟨13571, 6, 2, 0x1_01_24_35_02_15_34⟩,
    ⟨2776, 6, 2, 0x1_04_13_25_05_14_23⟩,
    ⟨18181, 6, 2, 0x1_01_23_45_03_15_24⟩,
    ⟨13361, 6, 2, 0x1_01_24_35_05_12_34⟩,
    ⟨3284, 6, 2, 0x1_03_14_25_05_13_24⟩,
    ⟨9098, 6, 2, 0x1_02_14_35_04_15_23⟩,
    ⟨2956, 6, 2, 0x1_03_14_25_04_15_23⟩,
    ⟨3404, 6, 2, 0x1_03_15_24_04_13_25⟩,
    ⟨17027, 5, 2, 0x1_01_23_45_02_14⟩,
    ⟨9283, 5, 2, 0x1_01_24_35_02_13⟩,
    ⟨6211, 5, 2, 0x1_01_25_34_02_13⟩,
    ⟨17475, 5, 2, 0x1_01_24_02_13_45⟩,
    ⟨8835, 5, 2, 0x1_01_23_02_14_35⟩,
    ⟨4867, 5, 2, 0x1_01_23_02_15_34⟩,
    ⟨20517, 5, 2, 0x1_01_34_03_12_45⟩,
    ⟨2693, 5, 2, 0x1_01_23_03_14_25⟩,
    ⟨1797, 5, 2, 0x1_01_23_03_15_24⟩,
    ⟨12329, 5, 2, 0x1_01_34_04_12_35⟩,
    ⟨3145, 5, 2, 0x1_01_24_04_13_25⟩,
    ⟨1816, 5, 2, 0x1_04_15_23_05_24⟩,
    ⟨12337, 5, 3, 0x1_01_34_05_12_35⟩,
    ⟨3153, 5, 3, 0x1_01_24_05_13_25⟩,
    ⟨2705, 5, 3, 0x1_01_23_05_14_25⟩,
    ⟨16937, 5, 2, 0x1_01_23_45_04_12⟩,
    ⟨9253, 5, 2, 0x1_01_24_35_03_12⟩,
    ⟨6181, 5, 2, 0x1_01_25_34_03_12⟩,
    ⟨17445, 5, 2, 0x1_01_24_03_12_45⟩,
    ⟨8745, 5, 2, 0x1_01_23_04_12_35⟩,
    ⟨4657, 5, 2, 0x1_01_23_05_12_34⟩,
    ⟨20547, 5, 2, 0x1_01_34_02_13_45⟩,
    ⟨2633, 5, 2, 0x1_01_23_04_13_25⟩,
    ⟨1617, 5, 2, 0x1_01_23_05_13_24⟩,
    ⟨12419, 5, 2, 0x1_01_34_02_14_35⟩,
    ⟨3205, 5, 2, 0x1_01_24_03_14_25⟩,
    ⟨1936, 5, 2, 0x1_05_14_23_15_24⟩,
    ⟨12578, 5, 2, 0x1_02_15_34_12_35⟩,
    ⟨3396, 5, 2, 0x1_03_15_24_13_25⟩,
    ⟨2952, 5, 2, 0x1_04_15_23_14_25⟩,
    ⟨16490, 5, 2, 0x1_02_13_45_04_12⟩,
    ⟨8358, 5, 2, 0x1_02_14_35_03_12⟩,
    ⟨4390, 5, 2, 0x1_02_15_34_03_12⟩,
    ⟨16550, 5, 2, 0x1_02_14_03_12_45⟩,
    ⟨8298, 5, 2, 0x1_02_13_04_12_35⟩,
    ⟨4210, 5, 2, 0x1_02_13_05_12_34⟩,
    ⟨20995, 5, 2, 0x1_01_23_45_02_34⟩,
    ⟨842, 5, 2, 0x1_02_13_04_15_23⟩,
    ⟨722, 5, 2, 0x1_02_13_05_14_23⟩,
    ⟨13315, 5, 2, 0x1_01_24_35_02_34⟩,
    ⟨1414, 5, 2, 0x1_02_14_03_15_24⟩,
    ⟨3280, 5, 2, 0x1_05_13_24_14_25⟩,
    ⟨14339, 5, 2, 0x1_01_25_34_02_35⟩,
    ⟨2948, 5, 2, 0x1_03_14_25_15_23⟩,
    ⟨3400, 5, 2, 0x1_04_13_25_15_24⟩,
    ⟨16492, 5, 2, 0x1_03_12_45_04_13⟩,
    ⟨2246, 5, 2, 0x1_02_13_03_14_25⟩,
    ⟨1350, 5, 2, 0x1_02_13_03_15_24⟩,
    ⟨16582, 5, 2, 0x1_02_13_45_03_14⟩,
    ⟨2156, 5, 2, 0x1_03_12_04_13_25⟩,
    ⟨1140, 5, 2, 0x1_03_12_05_13_24⟩,
    ⟨17925, 5, 2, 0x1_01_23_45_03_24⟩,
    ⟨812, 5, 2, 0x1_03_12_04_15_23⟩,
    ⟨692, 5, 2, 0x1_03_12_05_14_23⟩,
    ⟨22533, 5, 2, 0x1_01_25_34_03_45⟩,
    ⟨20742, 5, 2, 0x1_02_15_34_03_45⟩,
    ⟨12464, 5, 2, 0x1_05_12_34_14_35⟩,
    ⟨11269, 5, 2, 0x1_01_24_35_03_25⟩,
    ⟨8582, 5, 2, 0x1_02_14_35_03_15⟩,
    ⟨12584, 5, 2, 0x1_04_12_35_15_34⟩,
    ⟨8376, 5, 2, 0x1_04_12_35_05_14⟩,
    ⟨2264, 5, 2, 0x1_04_13_25_05_14⟩,
    ⟨906, 5, 2, 0x1_02_14_04_15_23⟩,
    ⟨8586, 5, 2, 0x1_02_14_35_04_15⟩,
    ⟨2444, 5, 2, 0x1_03_14_25_04_15⟩,
    ⟨696, 5, 2, 0x1_04_12_05_14_23⟩,
    ⟨11273, 5, 2, 0x1_01_24_35_04_25⟩,
    ⟨3340, 5, 2, 0x1_03_15_24_04_25⟩,
    ⟨1144, 5, 2, 0x1_04_12_05_13_24⟩,
    ⟨14345, 5, 2, 0x1_01_25_34_04_35⟩,
    ⟨12554, 5, 2, 0x1_02_15_34_04_35⟩,
    ⟨20592, 5, 2, 0x1_05_12_34_13_45⟩,
    ⟨18953, 5, 2, 0x1_01_23_45_04_25⟩,
    ⟨16714, 5, 2, 0x1_02_13_45_04_15⟩,
    ⟨16684, 5, 2, 0x1_03_12_45_04_15⟩,
    ⟨4404, 5, 3, 0x1_03_12_05_34_15⟩,
    ⟨1362, 5, 3, 0x1_02_13_05_24_15⟩,
    ⟨914, 5, 3, 0x1_02_14_05_23_15⟩,
    ⟨4434, 5, 3, 0x1_02_13_05_34_15⟩,
    ⟨1332, 5, 3, 0x1_03_12_05_24_15⟩,
    ⟨824, 5, 3, 0x1_04_12_05_23_15⟩,
    ⟨6673, 5, 3, 0x1_01_23_05_34_25⟩,
    ⟨3220, 5, 2, 0x1_03_14_25_05_24⟩,
    ⟨2648, 5, 2, 0x1_04_13_25_05_23⟩,
    ⟨13329, 5, 2, 0x1_01_24_35_05_34⟩,
    ⟨12434, 5, 2, 0x1_02_14_35_05_34⟩,
    ⟨8312, 5, 2, 0x1_04_12_35_05_13⟩,
    ⟨17937, 5, 2, 0x1_01_23_45_05_24⟩,
    ⟨16594, 5, 2, 0x1_02_13_45_05_14⟩,
    ⟨16564, 5, 2, 0x1_03_12_45_05_14⟩,
    ⟨12325, 5, 3, 0x1_01_34_03_12_35⟩,
    ⟨3139, 5, 3, 0x1_01_24_02_13_25⟩,
    ⟨2691, 5, 3, 0x1_01_23_02_14_25⟩,
    ⟨1795, 5, 3, 0x1_01_23_02_15_24⟩,
    ⟨899, 5, 3, 0x1_01_23_02_14_15⟩,
    ⟨1347, 5, 3, 0x1_01_24_02_13_15⟩,
    ⟨2243, 5, 3, 0x1_01_25_02_13_14⟩,
    ⟨4389, 5, 3, 0x1_01_34_03_12_15⟩,
    ⟨8357, 5, 3, 0x1_01_35_03_12_14⟩,
    ⟨16489, 5, 3, 0x1_01_45_04_12_13⟩,
    ⟨569, 5, 3, 0x1_01_23_04_12_05⟩,
    ⟨1077, 5, 3, 0x1_01_24_03_12_05⟩,
    ⟨2093, 5, 3, 0x1_01_25_03_12_04⟩,
    ⟨12355, 5, 3, 0x1_01_34_02_13_35⟩,
    ⟨4179, 5, 3, 0x1_01_34_02_13_05⟩,
    ⟨8267, 5, 3, 0x1_01_35_02_13_04⟩,
    ⟨3109, 5, 3, 0x1_01_24_03_12_25⟩,
    ⟨16519, 5, 3, 0x1_01_45_02_14_03⟩,
    ⟨2601, 5, 3, 0x1_01_23_04_12_25⟩,
    ⟨1585, 5, 3, 0x1_01_23_05_12_24⟩,
    ⟨4627, 5, 3, 0x1_01_23_02_34_05⟩,
    ⟨8715, 5, 3, 0x1_01_23_02_35_04⟩,
    ⟨422, 5, 3, 0x1_02_14_03_12_15⟩,
    ⟨122, 5, 3, 0x1_02_13_04_12_05⟩,
    ⟨17415, 5, 3, 0x1_01_24_02_45_03⟩,
    ⟨362, 5, 3, 0x1_02_13_04_12_15⟩,
    ⟨182, 5, 3, 0x1_02_14_03_12_05⟩,
    ⟨242, 5, 3, 0x1_02_13_05_12_14⟩,
    ⟨302, 5, 3, 0x1_02_15_03_12_04⟩,
    ⟨12803, 5, 3, 0x1_01_23_02_34_35⟩,
    ⟨20487, 5, 3, 0x1_01_34_02_45_03⟩,
    ⟨364, 5, 3, 0x1_03_12_04_13_15⟩,
    ⟨214, 5, 3, 0x1_02_13_03_14_05⟩,
    ⟨1557, 5, 3, 0x1_01_23_03_24_05⟩,
    ⟨244, 5, 3, 0x1_03_12_05_13_14⟩,
    ⟨334, 5, 3, 0x1_02_13_03_15_04⟩,
    ⟨2573, 5, 3, 0x1_01_23_03_25_04⟩,
    ⟨3589, 5, 3, 0x1_01_23_03_24_25⟩,
    ⟨454, 5, 3, 0x1_02_13_03_14_15⟩,
    ⟨124, 5, 3, 0x1_03_12_04_13_05⟩,
    ⟨248, 5, 3, 0x1_04_12_05_13_14⟩,
    ⟨398, 5, 3, 0x1_02_14_03_15_04⟩,
    ⟨3085, 5, 3, 0x1_01_24_03_25_04⟩,
    ⟨12299, 5, 3, 0x1_01_34_02_35_04⟩,
    ⟨3593, 5, 3, 0x1_01_23_04_25_24⟩,
    ⟨458, 5, 3, 0x1_02_13_04_15_14⟩,
    ⟨428, 5, 3, 0x1_03_12_04_15_14⟩,
    ⟨188, 5, 3, 0x1_03_12_04_05_14⟩,
    ⟨218, 5, 3, 0x1_02_13_04_05_14⟩,
    ⟨1561, 5, 3, 0x1_01_23_04_05_24⟩,
    ⟨3601, 5, 3, 0x1_01_23_05_24_25⟩,
    ⟨466, 5, 3, 0x1_02_13_05_14_15⟩,
    ⟨436, 5, 3, 0x1_03_12_05_14_15⟩,
    ⟨376, 5, 3, 0x1_04_12_05_13_15⟩,
    ⟨316, 5, 3, 0x1_03_12_04_15_05⟩,
    ⟨346, 5, 3, 0x1_02_13_04_15_05⟩,
    ⟨406, 5, 3, 0x1_02_14_03_15_05⟩,
    ⟨2585, 5, 3, 0x1_01_23_04_25_05⟩,
    ⟨3093, 5, 3, 0x1_01_24_03_25_05⟩,
    ⟨12307, 5, 3, 0x1_01_34_02_35_05⟩,
    ⟨3587, 5, 4, 0x1_01_23_02_24_25⟩,
    ⟨451, 5, 4, 0x1_01_02_13_14_15⟩,
    ⟨421, 5, 4, 0x1_01_03_12_14_15⟩,
    ⟨361, 5, 4, 0x1_01_04_12_13_15⟩,
    ⟨241, 5, 4, 0x1_01_05_12_13_14⟩,
    ⟨61, 5, 4, 0x1_01_03_12_04_05⟩,
    ⟨91, 5, 4, 0x1_01_02_13_04_05⟩,
    ⟨151, 5, 4, 0x1_01_02_14_03_05⟩,
    ⟨271, 5, 4, 0x1_01_02_15_03_04⟩,
    ⟨539, 5, 4, 0x1_01_23_02_04_05⟩,
    ⟨1047, 5, 4, 0x1_01_24_02_03_05⟩,
    ⟨2063, 5, 4, 0x1_01_25_02_03_04⟩,
    ⟨4119, 5, 4, 0x1_01_34_02_03_05⟩,
    ⟨8207, 5, 4, 0x1_01_35_02_03_04⟩,
    ⟨16399, 5, 4, 0x1_01_45_02_03_04⟩,
    ⟨31, 5, 5, 0x1_01_02_03_04_05⟩,
    ⟨12295, 5, 3, 0x1_01_34_02_35_03⟩,
    ⟨3079, 5, 3, 0x1_01_24_02_03_25⟩,
    ⟨2571, 5, 3, 0x1_01_23_02_04_25⟩,
    ⟨1555, 5, 3, 0x1_01_23_02_05_24⟩,
    ⟨391, 5, 3, 0x1_01_02_14_03_15⟩,
    ⟨331, 5, 3, 0x1_01_02_13_04_15⟩,
    ⟨211, 5, 3, 0x1_01_02_13_05_14⟩,
    ⟨301, 5, 3, 0x1_01_03_12_04_15⟩,
    ⟨181, 5, 3, 0x1_01_03_12_05_14⟩,
    ⟨121, 5, 3, 0x1_01_04_12_05_13⟩,
    ⟨16907, 5, 3, 0x1_01_23_45_02_04⟩,
    ⟨9223, 5, 3, 0x1_01_24_35_02_03⟩,
    ⟨6151, 5, 3, 0x1_01_25_34_02_03⟩,
    ⟨16459, 5, 3, 0x1_01_45_02_13_04⟩,
    ⟨8327, 5, 3, 0x1_01_35_02_14_03⟩,
    ⟨4359, 5, 3, 0x1_01_34_02_15_03⟩,
    ⟨16429, 5, 3, 0x1_01_45_03_12_04⟩,
    ⟨2183, 5, 3, 0x1_01_25_02_14_03⟩,
    ⟨1287, 5, 3, 0x1_01_24_02_15_03⟩,
    ⟨8237, 5, 3, 0x1_01_35_03_12_04⟩,
    ⟨2123, 5, 3, 0x1_01_25_02_13_04⟩,
    ⟨779, 5, 3, 0x1_01_23_02_15_04⟩,
    ⟨4149, 5, 3, 0x1_01_34_03_12_05⟩,
    ⟨1107, 5, 3, 0x1_01_24_02_13_05⟩,
    ⟨659, 5, 3, 0x1_01_23_02_14_05⟩,
    ⟨16549, 5, 3, 0x1_01_45_03_12_14⟩,
    ⟨8297, 5, 3, 0x1_01_35_04_12_13⟩,
    ⟨4209, 5, 3, 0x1_01_34_05_12_13⟩,
    ⟨16579, 5, 3, 0x1_01_45_02_13_14⟩,
    ⟨2153, 5, 3, 0x1_01_25_04_12_13⟩,
    ⟨1137, 5, 3, 0x1_01_24_05_12_13⟩,
    ⟨8387, 5, 3, 0x1_01_35_02_13_14⟩,
    ⟨2213, 5, 3, 0x1_01_25_03_12_14⟩,
    ⟨689, 5, 3, 0x1_01_23_05_12_14⟩,
    ⟨4419, 5, 3, 0x1_01_34_02_13_15⟩,
    ⟨1317, 5, 3, 0x1_01_24_03_12_15⟩,
    ⟨809, 5, 3, 0x1_01_23_04_12_15⟩,
    ⟨17923, 5, 3, 0x1_01_23_45_02_24⟩,
    ⟨810, 5, 3, 0x1_02_15_04_12_23⟩,
    ⟨690, 5, 3, 0x1_02_14_05_12_23⟩,
    ⟨9731, 5, 3, 0x1_01_23_02_35_24⟩,
    ⟨1318, 5, 3, 0x1_02_15_03_12_24⟩,
    ⟨1138, 5, 3, 0x1_02_13_05_12_24⟩,
    ⟨6659, 5, 3, 0x1_01_23_02_34_25⟩,
    ⟨2214, 5, 3, 0x1_02_14_03_12_25⟩,
    ⟨2154, 5, 3, 0x1_02_13_04_12_25⟩,
    ⟨6661, 5, 3, 0x1_01_23_03_25_34⟩,
    ⟨4422, 5, 3, 0x1_02_13_03_15_34⟩,
    ⟨4212, 5, 3, 0x1_03_12_05_13_34⟩,
    ⟨9733, 5, 3, 0x1_01_23_03_24_35⟩,
    ⟨8390, 5, 3, 0x1_02_13_03_14_35⟩,
    ⟨8300, 5, 3, 0x1_03_12_04_13_35⟩,
    ⟨17929, 5, 3, 0x1_01_23_45_04_24⟩,
    ⟨16586, 5, 3, 0x1_02_13_45_04_14⟩,
    ⟨16556, 5, 3, 0x1_03_12_45_04_14⟩,
    ⟨17931, 6, 4, 0x1_01_23_45_02_04_24⟩,
    ⟨9735, 6, 3, 0x1_01_23_02_35_03_24⟩,
    ⟨6663, 6, 3, 0x1_01_23_02_34_03_25⟩,
    ⟨16587, 6, 4, 0x1_01_45_02_13_04_14⟩,
    ⟨8391, 6, 3, 0x1_01_35_02_13_03_14⟩,
    ⟨4423, 6, 3, 0x1_01_34_02_13_03_15⟩,
    ⟨16557, 6, 4, 0x1_01_45_03_12_04_14⟩,
    ⟨2215, 6, 3, 0x1_01_25_02_14_03_12⟩,
    ⟨1319, 6, 3, 0x1_01_24_02_15_03_12⟩,
    ⟨8301, 6, 3, 0x1_01_35_03_12_04_13⟩,
    ⟨2155, 6, 3, 0x1_01_25_02_13_04_12⟩,
    ⟨811, 6, 3, 0x1_01_23_02_15_04_12⟩,
    ⟨4213, 6, 3, 0x1_01_34_03_12_05_13⟩,
    ⟨1139, 6, 3, 0x1_01_24_02_13_05_12⟩,
    ⟨691, 6, 3, 0x1_01_23_02_14_05_12⟩,
    ⟨17941, 6, 3, 0x1_01_23_45_03_24_05⟩,
    ⟨9753, 6, 3, 0x1_01_23_04_35_05_24⟩,
    ⟨6681, 6, 3, 0x1_01_23_04_25_05_34⟩,
    ⟨16598, 6, 3, 0x1_02_13_45_03_14_05⟩,
    ⟨8410, 6, 3, 0x1_02_13_04_35_05_14⟩,
    ⟨4442, 6, 3, 0x1_02_13_04_15_05_34⟩,
    ⟨16566, 6, 3, 0x1_02_14_03_12_45_05⟩,
    ⟨2236, 6, 3, 0x1_03_12_04_25_05_14⟩,
    ⟨1340, 6, 3, 0x1_03_12_04_15_05_24⟩,
    ⟨8314, 6, 3, 0x1_02_13_04_12_35_05⟩,
    ⟨2172, 6, 3, 0x1_03_12_04_13_25_05⟩,
    ⟨828, 6, 3, 0x1_03_12_04_15_23_05⟩,
    ⟨4218, 6, 3, 0x1_02_13_04_12_05_34⟩,
    ⟨1148, 6, 3, 0x1_03_12_04_13_05_24⟩,
    ⟨700, 6, 3, 0x1_03_12_04_23_05_14⟩,
    ⟨16628, 6, 3, 0x1_03_12_45_05_13_14⟩,
    ⟨8440, 6, 3, 0x1_04_12_35_05_13_14⟩,
    ⟨4472, 6, 3, 0x1_04_12_05_13_15_34⟩,
    ⟨16626, 6, 3, 0x1_02_13_45_05_12_14⟩,
    ⟨2296, 6, 3, 0x1_04_12_05_13_14_25⟩,
    ⟨1400, 6, 3, 0x1_04_12_05_13_24_15⟩,
    ⟨8434, 6, 3, 0x1_02_13_05_12_14_35⟩,
    ⟨2292, 6, 3, 0x1_03_12_05_13_14_25⟩,
    ⟨948, 6, 3, 0x1_03_12_05_14_23_15⟩,
    ⟨4458, 6, 3, 0x1_02_13_04_12_15_34⟩,
    ⟨1388, 6, 3, 0x1_03_12_04_13_15_24⟩,
    ⟨940, 6, 3, 0x1_03_12_04_15_23_14⟩,
    ⟨17969, 6, 3, 0x1_01_23_45_05_12_24⟩,
    ⟨1848, 6, 3, 0x1_04_12_05_23_15_24⟩,
    ⟨1938, 6, 3, 0x1_02_14_05_23_15_24⟩,
    ⟨9777, 6, 3, 0x1_01_23_05_12_24_35⟩,
    ⟨1844, 6, 3, 0x1_03_12_05_23_15_24⟩,
    ⟨1874, 6, 3, 0x1_02_13_05_23_15_24⟩,
    ⟨6697, 6, 3, 0x1_01_23_04_12_25_34⟩,
    ⟨2732, 6, 3, 0x1_03_12_04_23_14_25⟩,
    ⟨2762, 6, 3, 0x1_02_13_04_23_14_25⟩,
    ⟨6737, 6, 3, 0x1_01_23_05_13_25_34⟩,
    ⟨4946, 6, 3, 0x1_02_13_05_23_15_34⟩,
    ⟨4916, 6, 3, 0x1_03_12_05_23_15_34⟩,
    ⟨9801, 6, 3, 0x1_01_23_04_13_24_35⟩,
    ⟨8906, 6, 3, 0x1_02_13_04_23_14_35⟩,
    ⟨8876, 6, 3, 0x1_03_12_04_23_14_35⟩,
    ⟨17993, 6, 3, 0x1_01_23_45_04_13_24⟩,
    ⟨17098, 6, 3, 0x1_02_13_45_04_23_14⟩,
    ⟨17068, 6, 3, 0x1_03_12_45_04_23_14⟩,
    ⟨3609, 6, 3, 0x1_01_23_04_25_05_24⟩,
    ⟨9318, 6, 3, 0x1_02_13_03_12_24_35⟩,
    ⟨3597, 6, 3, 0x1_01_23_03_24_04_25⟩,
    ⟨474, 6, 3, 0x1_02_13_04_15_05_14⟩,
    ⟨8869, 6, 3, 0x1_01_23_03_12_14_35⟩,
    ⟨462, 6, 3, 0x1_02_13_03_14_04_15⟩,
    ⟨444, 6, 3, 0x1_03_12_04_15_05_14⟩,
    ⟨2755, 6, 3, 0x1_01_23_02_13_14_25⟩,
    ⟨430, 6, 3, 0x1_02_14_03_12_04_15⟩,
    ⟨8779, 6, 3, 0x1_01_23_02_13_04_35⟩,
    ⟨2605, 6, 3, 0x1_01_23_03_12_04_25⟩,
    ⟨366, 6, 3, 0x1_02_13_03_12_04_15⟩,
    ⟨252, 6, 3, 0x1_03_12_04_13_05_14⟩,
    ⟨250, 6, 3, 0x1_02_13_04_12_05_14⟩,
    ⟨246, 6, 3, 0x1_02_13_03_12_05_14⟩,
    ⟨19196, 9, 3, 0x1_03_12_45_04_13_25_05_14_23⟩]

end StabilizerPrep.Bundled
