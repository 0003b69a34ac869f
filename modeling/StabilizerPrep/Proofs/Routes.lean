import StabilizerPrep.Proofs.Board

/-!
# Routes to the representatives

For up to six vertices, `root` lists one board for each class of graphs under
local complementation. A root on some vertices together with the neighbours of
one more vertex is the board of a graph with one more vertex; `route` gives for
each of them a walk and the root to which it leads. That all walks arrive is
checked by evaluation.
-/

namespace StabilizerPrep.Board

set_option autoImplicit false

def packed (width : Nat) : List Nat → Nat
  | [] => 0
  | entry :: entries => Nat.add entry (Nat.shiftLeft (packed width entries) width)

def field (width table index : Nat) : Nat :=
  Nat.mod (Nat.shiftRight table (Nat.mul width index)) (2 ^ width)

def rootsTwo : Nat :=
  packed 48 [
    0x0, 0x102]

def rootsThree : Nat :=
  packed 48 [
    0x0, 0x20400, 0x10004, 0x102, 0x20502]

def rootsFour : Nat :=
  packed 48 [
    0x0, 0x102, 0x10004, 0x1000008, 0x20400, 0x2000800, 0x4080000, 0x40a0400, 0x4090004, 0x2000902,
    0x20502, 0x4080102, 0x2010804, 0x1020408, 0x101010e, 0x508010a, 0x301080c, 0x103040c]

def rootsFive : Nat :=
  packed 48 [
    0x0, 0x102, 0x10004, 0x1000008, 0x100000010, 0x20400, 0x2000800, 0x200001000, 0x4080000,
    0x400100000, 0x810000000, 0x814080000, 0x812000800, 0x400120400, 0x40a0400, 0x811000008,
    0x400110004, 0x4090004, 0x200001102, 0x2000902, 0x20502, 0x810020400, 0x402100800, 0x204081000,
    0x104080010, 0x401100008, 0x810010004, 0x810000102, 0x201001008, 0x102000810, 0x100020410,
    0x200011004, 0x400100102, 0x4080102, 0x2010804, 0x1020408, 0x202021c00, 0x10101001c,
    0x10100011a, 0x100010116, 0x101010e, 0x812020c00, 0x402120c00, 0x2040a1400, 0x104090014,
    0x40111000c, 0x81101000c, 0x81100010a, 0x20100110a, 0x102000912, 0x100020512, 0x200011106,
    0x400110106, 0x4090106, 0x2010906, 0x102050a, 0x10101011e, 0x814080102, 0x812010804,
    0x401120408, 0x1040a0410, 0x811020408, 0x402110804, 0x204091004, 0x204081102, 0x402100902,
    0x810020502, 0x4041a0502, 0x202031c04, 0x203021c08, 0x302021c10, 0x10103041c, 0x10301081c,
    0x30101101c, 0x10508011a, 0x50110011a, 0x910010116, 0x81103040c, 0x40311080c, 0x304091014,
    0x3040a1410, 0x403120c08, 0x812030c04, 0x8140a0502, 0x2050a1408, 0x502120c10, 0x912020c10,
    0x206091804, 0x406180902, 0x604181102, 0x602111804, 0xa11021408, 0x9140a0512]

def rootsSix : Nat :=
  packed 48 [
    0x0, 0x102, 0x10004, 0x1000008, 0x100000010, 0x10000000020, 0x20400, 0x2000800, 0x200001000,
    0x20000002000, 0x4080000, 0x400100000, 0x40000200000, 0x810000000, 0x80020000000,
    0x102000000000, 0x102004080000, 0x80420100000, 0x40810200000, 0x102002000800, 0x80220001000,
    0x20810002000, 0x102000020400, 0x40200201000, 0x20400102000, 0x80020020400, 0x40002200800,
    0x20004082000, 0x810020400, 0x402100800, 0x204081000, 0x102001000008, 0x80120000010,
    0x10810000020, 0x102000010004, 0x40100200010, 0x10400100020, 0x80020010004, 0x40001200008,
    0x10004080020, 0x810010004, 0x401100008, 0x104080010, 0x102000000102, 0x20100002010,
    0x10200001020, 0x80020000102, 0x20001002008, 0x10002000820, 0x810000102, 0x201001008,
    0x102000810, 0x40000200102, 0x20000012004, 0x10000020420, 0x400100102, 0x200011004,
    0x100020410, 0x4080102, 0x2010804, 0x1020408, 0x102004080102, 0x80420100102, 0x40810200102,
    0x102002010804, 0x80220011004, 0x20810012004, 0x102001020408, 0x40201201008, 0x20401102008,
    0x80120020410, 0x40102200810, 0x20104082010, 0x10810020420, 0x10402100820, 0x10204081020,
    0x20502, 0x2000902, 0x200001102, 0x20000002102, 0x4090004, 0x400110004, 0x40000210004,
    0x811000008, 0x80021000008, 0x102100000010, 0x40a0400, 0x400120400, 0x40000220400, 0x812000800,
    0x80022000800, 0x102200001000, 0x814080000, 0x80024080000, 0x102400100000, 0x102810000000,
    0x102810020400, 0x102402100800, 0x80224081000, 0x20814082000, 0x102204081000, 0x80422100800,
    0x40812200800, 0x40810220400, 0x80420120400, 0x1020040a0400, 0x102104080010, 0x80421100008,
    0x40811200008, 0x102810010004, 0x40810210004, 0x80420110004, 0x102401100008, 0x102004090004,
    0x80124080010, 0x10814080020, 0x20810002102, 0x80220001102, 0x102201001008, 0x102102000810,
    0x102002000902, 0x80122000810, 0x80221001008, 0x10812000820, 0x20811002008, 0x102810000102,
    0x102000020502, 0x40100220410, 0x40200211004, 0x20400102102, 0x10400120420, 0x20400112004,
    0x40200201102, 0x102400100102, 0x102200011004, 0x102100020410, 0x100040a0420, 0x20004092004,
    0x40002200902, 0x80020020502, 0x80024080102, 0x80022010804, 0x40001220408, 0x80021020408,
    0x40002210804, 0x20004082102, 0x814080102, 0x812010804, 0x401120408, 0x1040a0410, 0x811020408,
    0x402110804, 0x204091004, 0x204081102, 0x402100902, 0x810020502, 0x102810020502,
    0x102402100902, 0x80224081102, 0x20814082102, 0x102204091004, 0x80422110804, 0x40812210804,
    0x40811220408, 0x80421120408, 0x1021040a0410, 0x102404180000, 0x80424180000, 0x40814280000,
    0x102202001800, 0x80222001800, 0x20812002800, 0x102200021400, 0x40200221400, 0x20400122400,
    0x80022020c00, 0x40002220c00, 0x200040a2400, 0x812020c00, 0x402120c00, 0x2040a1400,
    0x102101000018, 0x80121000018, 0x10811000028, 0x102100010014, 0x40100210014, 0x10400110024,
    0x8002101000c, 0x4000121000c, 0x10004090024, 0x81101000c, 0x40111000c, 0x104090014,
    0x102100000112, 0x20100002112, 0x10200001122, 0x8002100010a, 0x2000100210a, 0x10002000922,
    0x81100010a, 0x20100110a, 0x102000912, 0x40000210106, 0x20000012106, 0x10000020522,
    0x400110106, 0x200011106, 0x100020512, 0x4090106, 0x2010906, 0x102050a, 0x102404180102,
    0x80424180102, 0x40814280102, 0x102202011804, 0x80222011804, 0x20812012804, 0x102201021408,
    0x40201221408, 0x20401122408, 0x80122020c10, 0x40102220c10, 0x201040a2410, 0x10812020c20,
    0x10402120c20, 0x102040a1420, 0x102101020418, 0x80121020418, 0x10811020428, 0x102102010814,
    0x40102210814, 0x10402110824, 0x8022101100c, 0x4020121100c, 0x10204091024, 0x2081101200c,
    0x2040111200c, 0x20104092014, 0x102104080112, 0x20104082112, 0x10204081122, 0x8042110010a,
    0x2040110210a, 0x10402100922, 0x4081120010a, 0x4020120110a, 0x40102200912, 0x40810210106,
    0x20810012106, 0x10810020522, 0x80420110106, 0x80220011106, 0x80120020512, 0x102004090106,
    0x102002010906, 0x10200102050a, 0x40404380000, 0x20202003800, 0x20200023400, 0x20002022c00,
    0x202021c00, 0x10101000038, 0x10100010034, 0x1000101002c, 0x10101001c, 0x10100000132,
    0x1000100012a, 0x10100011a, 0x10000010126, 0x100010116, 0x101010e, 0x40404380102,
    0x20202013804, 0x20201023408, 0x20102022c10, 0x10202021c20, 0x10101020438, 0x10102010834,
    0x1020101102c, 0x2010101201c, 0x10104080132, 0x1040110012a, 0x4010120011a, 0x10810010126,
    0x80120010116, 0x10200101010e, 0x102206081800, 0x80622101800, 0x40a10221400, 0x102406180800,
    0x80624181000, 0x20c10122400, 0x1028140a0400, 0x40a14281000, 0x20c12102800, 0x80c30120400,
    0x40c12300800, 0x20a14083000, 0xc0830220400, 0xc0422300800, 0xa0224083000, 0x102105080018,
    0x80521100018, 0x40910210014, 0x102405180008, 0x80524180010, 0x10c10110024, 0x102814090004,
    0x40914280010, 0x10c11100028, 0x80c30110004, 0x40c11300008, 0x10914080030, 0xc0830210004,
    0xc0421300008, 0x90124080030, 0x102103000818, 0x80321001018, 0x20910002112, 0x102203001808,
    0x80322001810, 0x10a10001122, 0x102812000902, 0x20912002810, 0x10a11001028, 0x80a30001102,
    0x20a11003008, 0x10912000830, 0xa0830002102, 0xa0221003008, 0x90122000830, 0x102100030414,
    0x40300211014, 0x20500102112, 0x102200031404, 0x40300221410, 0x10600101122, 0x102400120502,
    0x20500122410, 0x10600111024, 0x40600301102, 0x20600113004, 0x10500120430, 0x60400302102,
    0x60200213004, 0x50100220430, 0x8002103040c, 0x4000321080c, 0x2000508210a, 0x80022030c04,
    0x40003220c08, 0x10006080922, 0x800240a0502, 0x200050a2408, 0x10006090824, 0x40006280902,
    0x20006092804, 0x100050a0428, 0x60004282102, 0x60002212804, 0x50001220428, 0x81103040c,
    0x40311080c, 0x20508110a, 0x812030c04, 0x403120c08, 0x106080912, 0x8140a0502, 0x2050a1408,
    0x106090814, 0x406180902, 0x206091804, 0x1050a0418, 0x604181102, 0x602111804, 0x501120418,
    0x1228140a2400, 0x112814090024, 0x112812000922, 0x112400120522, 0x900240a0522, 0x9140a0512,
    0x808340a0400, 0x40406380800, 0x40604381000, 0x60404382000, 0x20206083800, 0x20602103800,
    0x60202203800, 0x20a10023400, 0xa0220023400, 0x122002022c00, 0x10105080038, 0x10501100038,
    0x50101200038, 0x80834090004, 0x10910010034, 0x90120010034, 0x40405380008, 0x11200101002c,
    0x40504380010, 0x50404380020, 0x10910000132, 0x90120000132, 0x20203003808, 0x10103000838,
    0x11200100012a, 0x20302003810, 0x10301001038, 0x30202003820, 0x30101002038, 0x80832000902,
    0x112000010126, 0x20300023410, 0x10300011034, 0x10500100132, 0x30200023420, 0x30100012034,
    0x50100200132, 0x40400320502, 0x20200033404, 0x10100030434, 0x30002022c20, 0x3000101202c,
    0x5000120012a, 0x90020010126, 0x400042a0502, 0x20002032c04, 0x20003022c08, 0x1000103042c,
    0x1000301082c, 0x1000508012a, 0x4041a0502, 0x202031c04, 0x203021c08, 0x302021c10, 0x10103041c,
    0x10301081c, 0x30101101c, 0x10508011a, 0x50110011a, 0x910010116, 0x20202023c00, 0x1010101003c,
    0x1010100013a, 0x10100010136, 0x1000101012e, 0x10101011e, 0x90622111824, 0x112206091824,
    0x1122050a1428, 0x90624181122, 0x112406180922, 0x112403120c28, 0xa0524182112, 0x1128140a0522,
    0x112812030c24, 0x12240518210a, 0x122814092106, 0x142812210906, 0x12240311280c, 0x12281103240c,
    0x14281122050a, 0x122004092106, 0xa0420112106, 0x40a10211106, 0x142002210906, 0xc0220211106,
    0x20c10112106, 0x18202102050a, 0xc022120110a, 0x20c1110210a, 0x182120020512, 0x142102200912,
    0x20914082112, 0x112810020522, 0x112402100922, 0x90224081122, 0x1120040a0522, 0x90420120522,
    0x40910220512, 0x14200122050a, 0xc0120220512, 0x10c10120522, 0x182022010906, 0xc0122200912,
    0x10c12100922, 0x182220011106, 0x14220120110a, 0x10a14081122, 0x122810012106, 0x12240110210a,
    0xa0124082112, 0x112002030c24, 0x90220031424, 0x20910032414, 0x12200103240c, 0xa0120032414,
    0x10a10031424, 0x182024090106, 0xa0124092014, 0x10a14091024, 0x182420110106, 0x12240111200c,
    0x10c12110824, 0x142810210106, 0x14220121100c, 0xc0122210814, 0x112003020c28, 0x50203201828,
    0x20503102818, 0x12200301280c, 0x60103202818, 0x10603101828, 0x14200528010a, 0x60105282018,
    0x10605181028, 0x14281120010a, 0x12281101200c, 0x10c11120428, 0x18242110010a, 0x18222101100c,
    0xc0121220418, 0x90320021430, 0x50302201830, 0x20305083018, 0xa0320013014, 0x60301203018,
    0x10306081830, 0xc0520300112, 0x60501302018, 0x10506180830, 0xc0930200112, 0xa0930012014,
    0x109140a0430, 0x182124080112, 0x182122010814, 0x142101220418, 0x30910022430, 0x30502102830,
    0x30205083028, 0x30a10013024, 0x30601103028, 0x30106082830, 0x50c10300122, 0x50601301028,
    0x50106280830, 0x90c30100122, 0x90a30011024, 0x901240a0430, 0x112814080122, 0x112812010824,
    0x112401120428, 0x8083103040c, 0x4040331080c, 0x40304291014, 0x30404192024, 0x2020508310a,
    0x20502102912, 0x50202201922, 0x20910022512, 0x90220021522, 0x112002020d22, 0x10106080932,
    0x1060110112a, 0x6010120211a, 0x80832030c04, 0x10a10011126, 0xa0120012116, 0x40403320c08,
    0x12200101210e, 0x403042a1410, 0x304041a2420, 0x10c10110126, 0xc0120210116, 0x202050a3408,
    0x10106090834, 0x14200121010e, 0x20502122c10, 0x1060111102c, 0x50202221c20, 0x6010121201c,
    0x808340a0502, 0x18202101010e, 0x20912022c10, 0x10a1101102c, 0x10c1110012a, 0x90222021c20,
    0xa012101201c, 0xc012120011a, 0x40406380902, 0x20206093804, 0x101050a0438, 0x112202021c20,
    0x12210101201c, 0x14210120011a, 0x182120010116, 0x40604381102, 0x20602113804, 0x20a11023408,
    0x10501120438, 0x10912010834, 0x10914080132, 0x60404382102, 0x60202213804, 0xa0221023408,
    0x122102022c10, 0x50101220438, 0x90122010834, 0x11220101102c, 0x90124080132, 0x11240110012a,
    0x112810010126, 0x404043a0502, 0x20202033c04, 0x20203023c08, 0x20302023c10, 0x30202023c20,
    0x1010103043c, 0x1010301083c, 0x1030101103c, 0x3010101203c, 0x1010508013a, 0x1050110013a,
    0x5010120013a, 0x10910010136, 0x90120010136, 0x11200101012e, 0x1010101013e, 0x102a10021502,
    0x102602101902, 0x80226081902, 0x20816082902, 0x102604191004, 0x80426190804, 0x40816290804,
    0x408152a0408, 0x804251a0408, 0x1025041a0410, 0x102104090116, 0x8042111010e, 0x4081121010e,
    0x102102010916, 0x8022101110e, 0x2081101210e, 0x10210102051a, 0x4020121110e, 0x2040111210e,
    0x8012102051a, 0x40102210916, 0x20104092116, 0x1081102052a, 0x10402110926, 0x10204091126,
    0x10220102150a, 0x80122020d12, 0x10812020d22, 0x102202011906, 0x40102220d12, 0x10402120d22,
    0x80222011906, 0x4020122150a, 0x102040a1522, 0x20812012906, 0x2040112250a, 0x201040a2512,
    0x102404190106, 0x201040b2414, 0x102040b1424, 0x80424190106, 0x2040113240c, 0x10402130c24,
    0x40814290106, 0x4020123140c, 0x40102230c14, 0x4081528010a, 0x2081301280c, 0x10813020c28,
    0x8042518010a, 0x8022301180c, 0x80123020c18, 0x102504180112, 0x102302011814, 0x102301021418,
    0x102504190116, 0x8042519010e, 0x4081529010e, 0x102302011916, 0x8022301190e, 0x2081301290e,
    0x10230102151a, 0x4020123150e, 0x2040113250e, 0x80123020d1a, 0x40102230d16, 0x201040b2516,
    0x10813020d2a, 0x10402130d26, 0x102040b1526, 0x182124090116, 0x18242111010e, 0x14281121010e,
    0x182122010916, 0x18222101110e, 0x12281101210e, 0x14210122051a, 0x14220121110e, 0x12240111210e,
    0xc012122051a, 0xc0122210916, 0xa0124092116, 0x10c1112052a, 0x10c12110926, 0x10a14091126,
    0x18222102150a, 0x182122020d12, 0x112812020d22, 0x142202211906, 0x142102220d12, 0x112402120d22,
    0xc0222211906, 0xc022122150a, 0x902240a1522, 0x20c12112906, 0x20c1112250a, 0x209140a2512,
    0x122404192106, 0x1221040b2414, 0x1122040b1424, 0xa0424192106, 0xa042113240c, 0x90422130c24,
    0x40a14291106, 0x40a1123140c, 0x40912230c14, 0x6081528210a, 0x6081321280c, 0x50813220c28,
    0x8062518110a, 0x8062311180c, 0x80523120c18, 0x102506180912, 0x102306091814, 0x1023050a1418,
    0x50504380132, 0x5040538012a, 0x90834090126, 0x30302013834, 0x3020301382c, 0x90832010926,
    0x30301023438, 0x3020103342c, 0x5040132052a, 0x30103022c38, 0x30102032c34, 0x501042a0532,
    0xa083102250a, 0x60402312906, 0x60204293106, 0x1529162a0d32]

def roots : Nat → Nat
  | 2 => rootsTwo
  | 3 => rootsThree
  | 4 => rootsFour
  | 5 => rootsFive
  | 6 => rootsSix
  | _ => 0

def routesOne : Nat :=
  packed 80 ([
    [0xf000, 0xf001]].map (packed 40))

def routesTwo : Nat :=
  packed 160 ([
    [0xf000, 0xf002, 0xf001, 0xf12004],
    [0xf003, 0xf10004, 0xf004, 0xf1004]].map (packed 40))

def routesThree : Nat :=
  packed 320 ([
    [0xf000, 0xf003, 0xf005, 0xf13009, 0xf006, 0xf23008, 0xf23007, 0xf0300e],
    [0xf004, 0xf00d, 0xf21007, 0xf0213011, 0xf007, 0xf03011, 0xf2007, 0xf032011],
    [0xf002, 0xf20008, 0xf00c, 0xf010, 0xf008, 0xf2008, 0xf02010, 0xf0010],
    [0xf001, 0xf10009, 0xf009, 0xf1009, 0xf00b, 0xf00f, 0xf0100f, 0xf000f],
    [0xf00a, 0xf21011, 0xf0100e, 0xf021011, 0xf013200f, 0xf030010, 0xf01300f,
      0xf03010]].map (packed 40))

def routesFour : Nat :=
  packed 640 ([
    [0xf000, 0xf004, 0xf007, 0xf14012, 0xf009, 0xf24010, 0xf2400d, 0xf04027, 0xf00a, 0xf3400f,
      0xf3400c, 0xf04026, 0xf3400b, 0xf04025, 0xf14024, 0xf04038],
    [0xf001, 0xf10012, 0xf012, 0xf1012, 0xf020, 0xf24034, 0xf0124034, 0xf024034, 0xf01b, 0xf3402f,
      0xf013402f, 0xf03402f, 0xf34039, 0xf1024043, 0xf24043, 0xf124043],
    [0xf002, 0xf20010, 0xf01f, 0xf14033, 0xf010, 0xf2010, 0xf0142033, 0xf014033, 0xf01a, 0xf3402e,
      0xf3403a, 0xf1204044, 0xf023402e, 0xf03402e, 0xf14044, 0xf142044],
    [0xf003, 0xf3000f, 0xf01c, 0xf14030, 0xf019, 0xf2402d, 0xf2403b, 0xf1304045, 0xf00f, 0xf300f,
      0xf0143030, 0xf014030, 0xf024302d, 0xf02402d, 0xf14045, 0xf143045],
    [0xf005, 0xf01e, 0xf2100d, 0xf04032, 0xf00d, 0xf0124032, 0xf200d, 0xf041032, 0xf015, 0xf3403d,
      0xf34029, 0xf0214047, 0xf1234029, 0xf04047, 0xf134029, 0xf042047],
    [0xf006, 0xf01d, 0xf3100c, 0xf04031, 0xf016, 0xf2403e, 0xf2402a, 0xf0314048, 0xf00c,
      0xf0134031, 0xf300c, 0xf041031, 0xf124302a, 0xf04048, 0xf12402a, 0xf043048],
    [0xf008, 0xf018, 0xf017, 0xf14040, 0xf3200b, 0xf0402c, 0xf1402b, 0xf032404a, 0xf00b,
      0xf023402c, 0xf123402b, 0xf0404a, 0xf300b, 0xf04202c, 0xf14202b, 0xf04304a],
    [0xf00e, 0xf03c, 0xf02b, 0xf050, 0xf12024, 0xf12046, 0xf102b, 0xf1050, 0xf12029, 0xf12056,
      0xf12102a, 0xf121055, 0xf123029, 0xf123056, 0xf1202a, 0xf12055],
    [0xf011, 0xf02c, 0xf03f, 0xf04f, 0xf02025, 0xf002c, 0xf02049, 0xf004f, 0xf0202e, 0xf02002d,
      0xf14057, 0xf1234054, 0xf02302e, 0xf0202d, 0xf143057, 0xf1342054],
    [0xf013, 0xf031, 0xf01026, 0xf0031, 0xf041, 0xf231404e, 0xf0104b, 0xf0231404e, 0xf0102f,
      0xf010030, 0xf01302f, 0xf01030, 0xf24058, 0xf2134051, 0xf243058, 0xf2341051],
    [0xf014, 0xf032, 0xf01027, 0xf0032, 0xf01034, 0xf010033, 0xf012034, 0xf01033, 0xf042,
      0xf213404d, 0xf0104c, 0xf0213404d, 0xf34053, 0xf3124052, 0xf234053, 0xf2134052],
    [0xf021, 0xf10040, 0xf040, 0xf1040, 0xf32039, 0xf10059, 0xf059, 0xf1059, 0xf039, 0xf1023059,
      0xf23059, 0xf123059, 0xf3039, 0xf102059, 0xf2059, 0xf12059],
    [0xf022, 0xf2003e, 0xf3103a, 0xf2005a, 0xf03e, 0xf203e, 0xf05a, 0xf205a, 0xf03a, 0xf120305a,
      0xf303a, 0xf12005a, 0xf1305a, 0xf12305a, 0xf105a, 0xf1205a],
    [0xf023, 0xf3003d, 0xf2103b, 0xf3005b, 0xf03b, 0xf123005b, 0xf203b, 0xf13005b, 0xf03d,
      0xf303d, 0xf05b, 0xf305b, 0xf1205b, 0xf12305b, 0xf105b, 0xf1305b],
    [0xf028, 0xf038, 0xf41049, 0xf4049, 0xf4204b, 0xf404b, 0xf341005b, 0xf130405b, 0xf4304c,
      0xf404c, 0xf241005a, 0xf120405a, 0xf1420059, 0xf1024059, 0xf141046, 0xf14046],
    [0xf23035, 0xf04a, 0xf234104f, 0xf23404f, 0xf10058, 0xf1230053, 0xf102305c, 0xf210305c,
      0xf1023043, 0xf10234059, 0xf2143050, 0xf1234050, 0xf102058, 0xf1023053, 0xf123005c,
      0xf0123005c],
    [0xf13036, 0xf048, 0xf20057, 0xf2130052, 0xf04e, 0xf204e, 0xf0213405c, 0xf034105c, 0xf1203044,
      0xf1203405a, 0xf120057, 0xf1203052, 0xf1243055, 0xf1324055, 0xf034205c, 0xf03405c],
    [0xf12037, 0xf047, 0xf30054, 0xf3120051, 0xf1230045, 0xf1230405b, 0xf130054, 0xf1230051,
      0xf04d, 0xf304d, 0xf213405c, 0xf234105c, 0xf1342056, 0xf1234056, 0xf34205c,
      0xf23405c]].map (packed 40))

set_option maxRecDepth 20000 in
def routesFive : Nat :=
  packed 1280 ([
    [0xf000, 0xf005, 0xf009, 0xf1504f, 0xf00c, 0xf25052, 0xf25058, 0xf0510c, 0xf00e, 0xf35054,
      0xf3505a, 0xf0510a, 0xf3505d, 0xf05107, 0xf15103, 0xf051be, 0xf00f, 0xf45055, 0xf4505b,
      0xf05109, 0xf4505e, 0xf05106, 0xf15102, 0xf051bd, 0xf4505f, 0xf05105, 0xf15101, 0xf051bc,
      0xf25100, 0xf051bb, 0xf151ba, 0xf05274],
    [0xf001, 0xf1004f, 0xf04f, 0xf104f, 0xf034, 0xf250ca, 0xf01250ca, 0xf0250ca, 0xf02e, 0xf350c4,
      0xf01350c4, 0xf0350c4, 0xf3508c, 0xf10251aa, 0xf251aa, 0xf1251aa, 0xf02b, 0xf450c1,
      0xf01450c1, 0xf0450c1, 0xf45085, 0xf10251a3, 0xf251a3, 0xf1251a3, 0xf4507d, 0xf103519b,
      0xf3519b, 0xf13519b, 0xf2510f, 0xf1025265, 0xf25265, 0xf125265],
    [0xf002, 0xf20052, 0xf035, 0xf150cb, 0xf052, 0xf2052, 0xf01520cb, 0xf0150cb, 0xf025, 0xf350bb,
      0xf3508d, 0xf12051ab, 0xf02350bb, 0xf0350bb, 0xf151ab, 0xf1521ab, 0xf022, 0xf450b8, 0xf45086,
      0xf12051a4, 0xf02450b8, 0xf0450b8, 0xf151a4, 0xf1521a4, 0xf4506d, 0xf203518b, 0xf15110,
      0xf1205266, 0xf3518b, 0xf23518b, 0xf15266, 0xf152266],
    [0xf003, 0xf30054, 0xf02f, 0xf150c5, 0xf026, 0xf250bc, 0xf2508e, 0xf13051ac, 0xf054, 0xf3054,
      0xf01530c5, 0xf0150c5, 0xf02530bc, 0xf0250bc, 0xf151ac, 0xf1531ac, 0xf01f, 0xf450b5,
      0xf45076, 0xf1305194, 0xf45070, 0xf230518e, 0xf15111, 0xf1305267, 0xf03450b5, 0xf0450b5,
      0xf15194, 0xf153194, 0xf2518e, 0xf25318e, 0xf15267, 0xf153267],
    [0xf004, 0xf40055, 0xf02c, 0xf150c2, 0xf023, 0xf250b9, 0xf2507f, 0xf140519d, 0xf020, 0xf350b6,
      0xf35079, 0xf1405197, 0xf35072, 0xf2405190, 0xf15112, 0xf1405268, 0xf055, 0xf4055,
      0xf01540c2, 0xf0150c2, 0xf02540b9, 0xf0250b9, 0xf1519d, 0xf15419d, 0xf03540b6, 0xf0350b6,
      0xf15197, 0xf154197, 0xf25190, 0xf254190, 0xf15268, 0xf154268],
    [0xf006, 0xf036, 0xf21058, 0xf050cc, 0xf058, 0xf01250cc, 0xf2058, 0xf0510cc, 0xf019, 0xf3508f,
      0xf350af, 0xf02151ad, 0xf12350af, 0xf051ad, 0xf1350af, 0xf0521ad, 0xf016, 0xf45087, 0xf450ac,
      0xf02151a5, 0xf12450ac, 0xf051a5, 0xf1450ac, 0xf0521a5, 0xf45060, 0xf05114, 0xf213517e,
      0xf021526a, 0xf3517e, 0xf0526a, 0xf23517e, 0xf05226a],
    [0xf007, 0xf030, 0xf3105a, 0xf050c6, 0xf01a, 0xf25090, 0xf250b0, 0xf03151ae, 0xf05a,
      0xf01350c6, 0xf305a, 0xf0510c6, 0xf12530b0, 0xf051ae, 0xf1250b0, 0xf0531ae, 0xf013, 0xf45077,
      0xf450a9, 0xf0315195, 0xf45061, 0xf05115, 0xf231517f, 0xf031526b, 0xf13450a9, 0xf05195,
      0xf1450a9, 0xf053195, 0xf2517f, 0xf0526b, 0xf25317f, 0xf05326b],
    [0xf008, 0xf02d, 0xf4105b, 0xf050c3, 0xf017, 0xf25080, 0xf250ad, 0xf041519e, 0xf014, 0xf3507a,
      0xf350aa, 0xf0415198, 0xf35062, 0xf05116, 0xf2415180, 0xf041526c, 0xf05b, 0xf01450c3,
      0xf405b, 0xf0510c3, 0xf12540ad, 0xf0519e, 0xf1250ad, 0xf05419e, 0xf13540aa, 0xf05198,
      0xf1350aa, 0xf054198, 0xf25180, 0xf0526c, 0xf254180, 0xf05426c],
    [0xf00a, 0xf027, 0xf01b, 0xf15091, 0xf3205d, 0xf050bd, 0xf150b1, 0xf03251af, 0xf05d,
      0xf02350bd, 0xf12350b1, 0xf051af, 0xf305d, 0xf0520bd, 0xf1520b1, 0xf0531af, 0xf010, 0xf4506a,
      0xf45064, 0xf05118, 0xf450a6, 0xf0325188, 0xf1325182, 0xf032526e, 0xf23450a6, 0xf05188,
      0xf15182, 0xf0526e, 0xf2450a6, 0xf053188, 0xf153182, 0xf05326e],
    [0xf00b, 0xf024, 0xf018, 0xf15081, 0xf4205e, 0xf050ba, 0xf150ae, 0xf042519f, 0xf011, 0xf3506b,
      0xf35065, 0xf05119, 0xf350a7, 0xf0425189, 0xf1425183, 0xf042526f, 0xf05e, 0xf02450ba,
      0xf12450ae, 0xf0519f, 0xf405e, 0xf0520ba, 0xf1520ae, 0xf05419f, 0xf23540a7, 0xf05189,
      0xf15183, 0xf0526f, 0xf2350a7, 0xf054189, 0xf154183, 0xf05426f],
    [0xf00d, 0xf021, 0xf015, 0xf15074, 0xf012, 0xf2506e, 0xf25067, 0xf0511b, 0xf4305f, 0xf050b7,
      0xf150ab, 0xf0435192, 0xf250a8, 0xf043518c, 0xf1435185, 0xf0435271, 0xf05f, 0xf03450b7,
      0xf13450ab, 0xf05192, 0xf23450a8, 0xf0518c, 0xf15185, 0xf05271, 0xf405f, 0xf0530b7,
      0xf1530ab, 0xf054192, 0xf2530a8, 0xf05418c, 0xf154185, 0xf054271],
    [0xf05c, 0xf073, 0xf063, 0xf1509f, 0xf0a8, 0xf0435132, 0xf1435123, 0xf043523d, 0xf23100,
      0xf23191, 0xf23181, 0xf15278, 0xf20a8, 0xf04352132, 0xf14352123, 0xf0435223d, 0xf230a6,
      0xf05138, 0xf15129, 0xf0525a, 0xf2320a7, 0xf0345135, 0xf1345126, 0xf034524a, 0xf2340a6,
      0xf054138, 0xf154129, 0xf05425a, 0xf230a7, 0xf0453135, 0xf1453126, 0xf045324a],
    [0xf059, 0xf07b, 0xf0ab, 0xf0435141, 0xf066, 0xf250a2, 0xf2435120, 0xf0435237, 0xf13101,
      0xf13199, 0xf10ab, 0xf04351141, 0xf13184, 0xf2527b, 0xf12435120, 0xf04351237, 0xf130a9,
      0xf05147, 0xf1310aa, 0xf0345144, 0xf25128, 0xf05259, 0xf2345125, 0xf0345249, 0xf1340a9,
      0xf054147, 0xf130aa, 0xf0453144, 0xf254128, 0xf054259, 0xf2453125, 0xf0453249],
    [0xf057, 0xf082, 0xf0ae, 0xf0425150, 0xf12102, 0xf121a0, 0xf10ae, 0xf04251150, 0xf068,
      0xf350a4, 0xf342511f, 0xf0425234, 0xf12186, 0xf3527d, 0xf1342511f, 0xf04251234, 0xf120ac,
      0xf05156, 0xf1210ad, 0xf0245153, 0xf1240ac, 0xf054156, 0xf120ad, 0xf0452153, 0xf35127,
      0xf05258, 0xf3245122, 0xf0245243, 0xf354127, 0xf054258, 0xf3452122, 0xf0452243],
    [0xf056, 0xf088, 0xf0b1, 0xf032515f, 0xf12103, 0xf121a6, 0xf10b1, 0xf0325115f, 0xf120af,
      0xf05165, 0xf1210b0, 0xf0235162, 0xf1230af, 0xf053165, 0xf120b0, 0xf0352162, 0xf069,
      0xf450a5, 0xf324511e, 0xf0325233, 0xf12187, 0xf4527e, 0xf1324511e, 0xf03251233, 0xf45124,
      0xf05250, 0xf4235121, 0xf0235240, 0xf345124, 0xf053250, 0xf3245121, 0xf0352240],
    [0xf053, 0xf0b7, 0xf07c, 0xf143513e, 0xf06c, 0xf243512f, 0xf250a3, 0xf1435230, 0xf03105,
      0xf00b7, 0xf0319a, 0xf0143513e, 0xf0318a, 0xf0243512f, 0xf2527c, 0xf01435230, 0xf030b5,
      0xf0300b6, 0xf15146, 0xf1345143, 0xf25137, 0xf2345134, 0xf15257, 0xf1345248, 0xf0340b5,
      0xf030b6, 0xf154146, 0xf1453143, 0xf254137, 0xf2453134, 0xf154257, 0xf1453248],
    [0xf051, 0xf0ba, 0xf083, 0xf142514d, 0xf02106, 0xf00ba, 0xf021a1, 0xf0142514d, 0xf06f,
      0xf342512e, 0xf350a1, 0xf142522e, 0xf0218d, 0xf0342512e, 0xf3527a, 0xf0142522e, 0xf020b8,
      0xf0200b9, 0xf15155, 0xf1245152, 0xf0240b8, 0xf020b9, 0xf154155, 0xf1452152, 0xf35136,
      0xf3245131, 0xf15256, 0xf1245242, 0xf354136, 0xf3452131, 0xf154256, 0xf1452242],
    [0xf050, 0xf0bd, 0xf089, 0xf132515c, 0xf02107, 0xf00bd, 0xf021a7, 0xf0132515c, 0xf020bb,
      0xf0200bc, 0xf15164, 0xf1235161, 0xf0230bb, 0xf020bc, 0xf153164, 0xf1352161, 0xf071,
      0xf324512d, 0xf450a0, 0xf132522d, 0xf0218f, 0xf0324512d, 0xf45279, 0xf0132522d, 0xf45133,
      0xf4235130, 0xf1524f, 0xf123523f, 0xf345133, 0xf3245130, 0xf15324f, 0xf135223f],
    [0xf04e, 0xf0c3, 0xf01109, 0xf00c3, 0xf084, 0xf241514c, 0xf011a2, 0xf0241514c, 0xf075,
      0xf341513d, 0xf01193, 0xf0341513d, 0xf3509e, 0xf241522b, 0xf35277, 0xf0241522b, 0xf010c1,
      0xf0100c2, 0xf0140c1, 0xf010c2, 0xf25154, 0xf214514f, 0xf254154, 0xf245114f, 0xf35145,
      0xf3145140, 0xf354145, 0xf3451140, 0xf25255, 0xf214523b, 0xf254255, 0xf245123b],
    [0xf04d, 0xf0c6, 0xf0110a, 0xf00c6, 0xf08a, 0xf231515b, 0xf011a8, 0xf0231515b, 0xf010c4,
      0xf0100c5, 0xf0130c4, 0xf010c5, 0xf25163, 0xf213515e, 0xf253163, 0xf235115e, 0xf078,
      0xf314513c, 0xf01196, 0xf0314513c, 0xf4509d, 0xf231522a, 0xf45276, 0xf0231522a, 0xf45142,
      0xf413513f, 0xf345142, 0xf314513f, 0xf2524e, 0xf2135239, 0xf25324e, 0xf2351239],
    [0xf04c, 0xf0cc, 0xf0110c, 0xf00cc, 0xf010ca, 0xf0100cb, 0xf0120ca, 0xf010cb, 0xf08b,
      0xf213515a, 0xf011a9, 0xf0213515a, 0xf35160, 0xf312515d, 0xf235160, 0xf213515d, 0xf07e,
      0xf214514b, 0xf0119c, 0xf0214514b, 0xf45151, 0xf412514e, 0xf245151, 0xf214514e, 0xf4509c,
      0xf2135229, 0xf45275, 0xf02135229, 0xf35246, 0xf3125236, 0xf235246, 0xf2135236],
    [0xf01c, 0xf049, 0xf21067, 0xf050f9, 0xf067, 0xf01250f9, 0xf2067, 0xf0510f9, 0xf43060,
      0xf050e4, 0xf2112a, 0xf0528b, 0xf12a, 0xf012528b, 0xf212a, 0xf05128b, 0xf060, 0xf03450e4,
      0xf213412a, 0xf034528b, 0xf3412a, 0xf01234528b, 0xf23412a, 0xf0345128b, 0xf4060, 0xf0530e4,
      0xf21312a, 0xf05328b, 0xf312a, 0xf0125328b, 0xf2312a, 0xf051328b],
    [0xf01d, 0xf04a, 0xf31065, 0xf050f3, 0xf42061, 0xf050e7, 0xf3112b, 0xf0528c, 0xf065,
      0xf01350f3, 0xf3065, 0xf0510f3, 0xf12b, 0xf013528c, 0xf312b, 0xf05128c, 0xf061, 0xf02450e7,
      0xf231412b, 0xf024528c, 0xf4061, 0xf0520e7, 0xf23112b, 0xf05228c, 0xf2412b, 0xf01243528c,
      0xf23412b, 0xf0245128c, 0xf212b, 0xf0135228c, 0xf2312b, 0xf051228c],
    [0xf01e, 0xf04b, 0xf41064, 0xf050f0, 0xf32062, 0xf050ea, 0xf3212c, 0xf0528d, 0xf062,
      0xf02350ea, 0xf12c, 0xf023528d, 0xf3062, 0xf0520ea, 0xf312c, 0xf05228d, 0xf064, 0xf01450f0,
      0xf4064, 0xf0510f0, 0xf132412c, 0xf014528d, 0xf13212c, 0xf05128d, 0xf1412c, 0xf01234528d,
      0xf112c, 0xf0235128d, 0xf13412c, 0xf0145228d, 0xf1312c, 0xf051228d],
    [0xf02a, 0xf4006a, 0xf048, 0xf150ef, 0xf32072, 0xf3213b, 0xf150de, 0xf15299, 0xf072, 0xf13b,
      0xf12350de, 0xf1235299, 0xf3072, 0xf313b, 0xf1520de, 0xf152299, 0xf06a, 0xf406a, 0xf01540ef,
      0xf0150ef, 0xf032413b, 0xf03213b, 0xf0154299, 0xf015299, 0xf0413b, 0xf013b, 0xf012354299,
      0xf01235299, 0xf03413b, 0xf0313b, 0xf01524299, 0xf0152299],
    [0xf029, 0xf3006b, 0xf045, 0xf150f2, 0xf42070, 0xf3013a, 0xf150db, 0xf15298, 0xf06b, 0xf306b,
      0xf01530f2, 0xf0150f2, 0xf13a, 0xf313a, 0xf0153298, 0xf015298, 0xf070, 0xf230413a,
      0xf12450db, 0xf1245298, 0xf4070, 0xf23013a, 0xf1520db, 0xf152298, 0xf2413a, 0xf23413a,
      0xf012453298, 0xf01245298, 0xf213a, 0xf2313a, 0xf01523298, 0xf0152298],
    [0xf028, 0xf2006e, 0xf042, 0xf150f8, 0xf06e, 0xf206e, 0xf01520f8, 0xf0150f8, 0xf4306d,
      0xf20139, 0xf150d8, 0xf15297, 0xf139, 0xf2139, 0xf0152297, 0xf015297, 0xf06d, 0xf2034139,
      0xf13450d8, 0xf1345297, 0xf34139, 0xf234139, 0xf013452297, 0xf01345297, 0xf406d, 0xf203139,
      0xf1530d8, 0xf153297, 0xf3139, 0xf23139, 0xf01523297, 0xf0153297],
    [0xf031, 0xf10074, 0xf074, 0xf1074, 0xf03f, 0xf250f7, 0xf01250f7, 0xf0250f7, 0xf4307d,
      0xf10148, 0xf148, 0xf1148, 0xf250d5, 0xf252a0, 0xf01252a0, 0xf0252a0, 0xf07d, 0xf1034148,
      0xf34148, 0xf134148, 0xf23450d5, 0xf23452a0, 0xf0123452a0, 0xf023452a0, 0xf407d, 0xf103148,
      0xf3148, 0xf13148, 0xf2530d5, 0xf2532a0, 0xf012532a0, 0xf02532a0],
    [0xf032, 0xf3007a, 0xf41076, 0xf30149, 0xf044, 0xf250e9, 0xf250da, 0xf252a1, 0xf07a, 0xf307a,
      0xf149, 0xf3149, 0xf02530e9, 0xf0250e9, 0xf02532a1, 0xf0252a1, 0xf076, 0xf1304149, 0xf4076,
      0xf130149, 0xf12540da, 0xf12542a1, 0xf1250da, 0xf1252a1, 0xf14149, 0xf134149, 0xf1149,
      0xf13149, 0xf0125342a1, 0xf012542a1, 0xf012532a1, 0xf01252a1],
    [0xf033, 0xf40077, 0xf31079, 0xf3114a, 0xf047, 0xf250e6, 0xf250dd, 0xf252a2, 0xf079, 0xf14a,
      0xf3079, 0xf314a, 0xf12530dd, 0xf12532a2, 0xf1250dd, 0xf1252a2, 0xf077, 0xf4077, 0xf031414a,
      0xf03114a, 0xf02540e6, 0xf0250e6, 0xf02542a2, 0xf0252a2, 0xf0414a, 0xf014a, 0xf03414a,
      0xf0314a, 0xf0125342a2, 0xf012532a2, 0xf012542a2, 0xf01252a2],
    [0xf039, 0xf40087, 0xf2107f, 0xf21159, 0xf07f, 0xf159, 0xf207f, 0xf2159, 0xf046, 0xf350e3,
      0xf350dc, 0xf352a8, 0xf12350dc, 0xf12352a8, 0xf1350dc, 0xf1352a8, 0xf087, 0xf4087,
      0xf0214159, 0xf021159, 0xf04159, 0xf0159, 0xf024159, 0xf02159, 0xf03540e3, 0xf0350e3,
      0xf03542a8, 0xf0352a8, 0xf0123542a8, 0xf012352a8, 0xf013542a8, 0xf01352a8],
    [0xf038, 0xf20080, 0xf41086, 0xf20158, 0xf080, 0xf2080, 0xf158, 0xf2158, 0xf041, 0xf350e8,
      0xf350d7, 0xf352a7, 0xf02350e8, 0xf0350e8, 0xf02352a7, 0xf0352a7, 0xf086, 0xf1204158,
      0xf4086, 0xf120158, 0xf14158, 0xf124158, 0xf1158, 0xf12158, 0xf13540d7, 0xf13542a7,
      0xf1350d7, 0xf1352a7, 0xf0123542a7, 0xf013542a7, 0xf012352a7, 0xf01352a7],
    [0xf037, 0xf10081, 0xf081, 0xf1081, 0xf42085, 0xf10157, 0xf157, 0xf1157, 0xf03e, 0xf350f1,
      0xf01350f1, 0xf0350f1, 0xf350d4, 0xf352a6, 0xf01352a6, 0xf0352a6, 0xf085, 0xf1024157,
      0xf24157, 0xf124157, 0xf4085, 0xf102157, 0xf2157, 0xf12157, 0xf23540d4, 0xf23542a6,
      0xf0123542a6, 0xf023542a6, 0xf2350d4, 0xf2352a6, 0xf012352a6, 0xf02352a6],
    [0xf03a, 0xf10091, 0xf091, 0xf1091, 0xf3208c, 0xf10166, 0xf166, 0xf1166, 0xf08c, 0xf1023166,
      0xf23166, 0xf123166, 0xf308c, 0xf102166, 0xf2166, 0xf12166, 0xf03d, 0xf450ee, 0xf01450ee,
      0xf0450ee, 0xf450d3, 0xf452a9, 0xf01452a9, 0xf0452a9, 0xf23450d3, 0xf23452a9, 0xf0123452a9,
      0xf023452a9, 0xf2450d3, 0xf2452a9, 0xf012452a9, 0xf02452a9],
    [0xf03b, 0xf20090, 0xf3108d, 0xf20167, 0xf090, 0xf2090, 0xf167, 0xf2167, 0xf08d, 0xf1203167,
      0xf308d, 0xf120167, 0xf13167, 0xf123167, 0xf1167, 0xf12167, 0xf040, 0xf450e5, 0xf450d6,
      0xf452aa, 0xf02450e5, 0xf0450e5, 0xf02452aa, 0xf0452aa, 0xf13450d6, 0xf13452aa, 0xf1450d6,
      0xf1452aa, 0xf0123452aa, 0xf013452aa, 0xf012452aa, 0xf01452aa],
    [0xf03c, 0xf3008f, 0xf2108e, 0xf21168, 0xf08e, 0xf168, 0xf208e, 0xf2168, 0xf08f, 0xf308f,
      0xf0213168, 0xf021168, 0xf03168, 0xf0168, 0xf023168, 0xf02168, 0xf043, 0xf450e2, 0xf450d9,
      0xf452ab, 0xf12450d9, 0xf12452ab, 0xf1450d9, 0xf1452ab, 0xf03450e2, 0xf0450e2, 0xf03452ab,
      0xf0452ab, 0xf0123452ab, 0xf012452ab, 0xf013452ab, 0xf01452ab],
    [0xf104, 0xf113, 0xf1ba, 0xf269, 0xf52184, 0xf244, 0xf5184, 0xf2244, 0xf53186, 0xf24b,
      0xf5186, 0xf324b, 0xf35212c, 0xf0252f6, 0xf3512c, 0xf252f6, 0xf54187, 0xf251, 0xf5187,
      0xf4251, 0xf352112b, 0xf0252f5, 0xf231512b, 0xf252f5, 0xf253112a, 0xf0352f4, 0xf213512a,
      0xf352f4, 0xf252181, 0xf12123c, 0xf25181, 0xf2123c],
    [0xf108, 0xf1bb, 0xf117, 0xf26d, 0xf5218a, 0xf518a, 0xf245, 0xf2245, 0xf5318d, 0xf518d,
      0xf24c, 0xf324c, 0xf35213b, 0xf3513b, 0xf1252f3, 0xf252f3, 0xf5418f, 0xf518f, 0xf252,
      0xf4252, 0xf352013a, 0xf230513a, 0xf1252f0, 0xf252f0, 0xf2530139, 0xf2035139, 0xf1352ed,
      0xf352ed, 0xf252191, 0xf25191, 0xf02022c, 0xf2022c],
    [0xf10b, 0xf1bc, 0xf5119a, 0xf519a, 0xf11a, 0xf270, 0xf235, 0xf1235, 0xf53193, 0xf5193,
      0xf35114a, 0xf3514a, 0xf24d, 0xf324d, 0xf1512f2, 0xf152f2, 0xf54196, 0xf5196, 0xf3510149,
      0xf1305149, 0xf253, 0xf4253, 0xf1512ef, 0xf152ef, 0xf1530148, 0xf1035148, 0xf151199,
      0xf15199, 0xf2352ea, 0xf352ea, 0xf01022f, 0xf1022f],
    [0xf10d, 0xf1bd, 0xf511a1, 0xf51a1, 0xf521a2, 0xf51a2, 0xf251159, 0xf25159, 0xf11c, 0xf272,
      0xf238, 0xf1238, 0xf23e, 0xf223e, 0xf1512f1, 0xf152f1, 0xf5419c, 0xf519c, 0xf2510158,
      0xf1205158, 0xf1520157, 0xf1025157, 0xf1511a0, 0xf151a0, 0xf254, 0xf4254, 0xf1512ec,
      0xf152ec, 0xf2522e9, 0xf252e9, 0xf010231, 0xf10231],
    [0xf10e, 0xf1be, 0xf511a7, 0xf51a7, 0xf521a8, 0xf51a8, 0xf251168, 0xf25168, 0xf531a9, 0xf51a9,
      0xf2510167, 0xf1205167, 0xf1520166, 0xf1025166, 0xf1511a6, 0xf151a6, 0xf11d, 0xf273, 0xf23a,
      0xf123a, 0xf241, 0xf2241, 0xf1512ee, 0xf152ee, 0xf247, 0xf3247, 0xf1512eb, 0xf152eb,
      0xf2522e8, 0xf252e8, 0xf010232, 0xf10232],
    [0xf0b2, 0xf0df, 0xf43185, 0xf05290, 0xf43120, 0xf04351f2, 0xf243120, 0xf043521f2, 0xf2117e,
      0xf052a5, 0xf21512a, 0xf052b8, 0xf4213123, 0xf0124351e3, 0xf2143123, 0xf0142531e3, 0xf21124,
      0xf0215216, 0xf2431127, 0xf021345207, 0xf1214178, 0xf0142352c7, 0xf214178, 0xf0125432c7,
      0xf214124, 0xf02154216, 0xf2143127, 0xf021453207, 0xf121178, 0xf0245312c7, 0xf21178,
      0xf0123452c7],
    [0xf0b3, 0xf0e0, 0xf42183, 0xf05293, 0xf3117f, 0xf0529f, 0xf31512b, 0xf052b9, 0xf4211f,
      0xf0425201, 0xf34211f, 0xf04253201, 0xf4312126, 0xf0134251e6, 0xf3142126, 0xf0143521e6,
      0xf31121, 0xf0315213, 0xf3421128, 0xf0231451f8, 0xf314121, 0xf03154213, 0xf3142128,
      0xf0234511f8, 0xf1254178, 0xf0142352c8, 0xf12534178, 0xf0135422c8, 0xf125178, 0xf0245312c8,
      0xf1253178, 0xf0132452c8],
    [0xf0b4, 0xf0e1, 0xf32182, 0xf05296, 0xf41180, 0xf0529c, 0xf32512c, 0xf052ba, 0xf41122,
      0xf0415204, 0xf4321125, 0xf0234151f5, 0xf341122, 0xf04153204, 0xf3241125, 0xf0243511f5,
      0xf3211e, 0xf0325210, 0xf32411e, 0xf03254210, 0xf3412129, 0xf0132451e9, 0xf3241129,
      0xf0134521e9, 0xf2454178, 0xf0132452c9, 0xf245178, 0xf0145322c9, 0xf2345178, 0xf0235412c9,
      0xf2453178, 0xf0142352c9],
    [0xf0c0, 0xf32188, 0xf0ed, 0xf1528a, 0xf40190, 0xf32513b, 0xf1529b, 0xf152b7, 0xf40131,
      0xf4320134, 0xf1f4, 0xf232203, 0xf340131, 0xf3240134, 0xf31f4, 0xf32203, 0xf3212d, 0xf32412d,
      0xf132520d, 0xf1325420d, 0xf3402138, 0xf3240138, 0xf1032451da, 0xf1034521da, 0xf2454179,
      0xf245179, 0xf1032452d5, 0xf1045322d5, 0xf2345179, 0xf2453179, 0xf1235402d5, 0xf1042352d5],
    [0xf0bf, 0xf42189, 0xf0ec, 0xf15287, 0xf3018e, 0xf30513a, 0xf1529e, 0xf152b4, 0xf4212e,
      0xf34212e, 0xf14251fe, 0xf142531fe, 0xf4302135, 0xf3042135, 0xf1034251d7, 0xf1043521d7,
      0xf30130, 0xf3420137, 0xf1f7, 0xf242212, 0xf304130, 0xf3042137, 0xf41f7, 0xf42212,
      0xf0254179, 0xf02534179, 0xf1042352d4, 0xf1035422d4, 0xf025179, 0xf0253179, 0xf1245302d4,
      0xf1032452d4],
    [0xf0be, 0xf4318c, 0xf0eb, 0xf15284, 0xf4312f, 0xf24312f, 0xf14351ef, 0xf143521ef, 0xf2018b,
      0xf205139, 0xf152a4, 0xf152b1, 0xf4203132, 0xf2043132, 0xf1024351d4, 0xf1042531d4, 0xf20133,
      0xf2430136, 0xf206, 0xf343215, 0xf0204179, 0xf204179, 0xf1042352d3, 0xf1025432d3, 0xf204133,
      0xf2043136, 0xf4206, 0xf43215, 0xf020179, 0xf20179, 0xf1245302d3, 0xf1023452d3],
    [0xf0c7, 0xf43192, 0xf4313e, 0xf14313e, 0xf0f4, 0xf25281, 0xf24351e0, 0xf124351e0, 0xf1019b,
      0xf105148, 0xf4103141, 0xf1043141, 0xf252a3, 0xf252ae, 0xf2014351d1, 0xf1024351d1, 0xf10142,
      0xf1430145, 0xf010417a, 0xf10417a, 0xf205, 0xf343214, 0xf1025432dc, 0xf2015432dc, 0xf104142,
      0xf1043145, 0xf01017a, 0xf1017a, 0xf4205, 0xf43214, 0xf1023452dc, 0xf2013452dc],
    [0xf0c8, 0xf41198, 0xf30194, 0xf305149, 0xf0f5, 0xf25286, 0xf25295, 0xf252b3, 0xf4113d,
      0xf34113d, 0xf4301144, 0xf3041144, 0xf1d6, 0xf31d6, 0xf0301fd, 0xf301fd, 0xf3013f,
      0xf3410146, 0xf30413f, 0xf3041146, 0xf1e8, 0xf14120f, 0xf41e8, 0xf4120f, 0xf015417a,
      0xf0153417a, 0xf01517a, 0xf015317a, 0xf2041352dd, 0xf2035412dd, 0xf2145302dd, 0xf2031452dd],
    [0xf0c9, 0xf31195, 0xf40197, 0xf31514a, 0xf0f6, 0xf25289, 0xf25292, 0xf252b6, 0xf40140,
      0xf4310143, 0xf340140, 0xf3140143, 0xf1e5, 0xf131200, 0xf31e5, 0xf31200, 0xf3113c, 0xf31413c,
      0xf3401147, 0xf3140147, 0xf1d9, 0xf41d9, 0xf04020c, 0xf4020c, 0xf145417a, 0xf14517a,
      0xf134517a, 0xf145317a, 0xf2031452de, 0xf2045312de, 0xf2135402de, 0xf2041352de],
    [0xf0cf, 0xf211a5, 0xf4019d, 0xf215159, 0xf4014f, 0xf4210152, 0xf24014f, 0xf2140152, 0xf0fc,
      0xf35288, 0xf3528f, 0xf352b5, 0xf1e2, 0xf1211f1, 0xf21e2, 0xf211f1, 0xf2114b, 0xf21414b,
      0xf2401156, 0xf2140156, 0xf145417b, 0xf14517b, 0xf124517b, 0xf145217b, 0xf1d8, 0xf41d8,
      0xf04020b, 0xf4020b, 0xf2135402e4, 0xf2130452e4, 0xf3125402e4, 0xf3041252e4],
    [0xf0ce, 0xf4119e, 0xf201a4, 0xf205158, 0xf4114c, 0xf24114c, 0xf4201153, 0xf2041153, 0xf0fb,
      0xf35283, 0xf35294, 0xf352b0, 0xf1d3, 0xf21d3, 0xf0201ee, 0xf201ee, 0xf2014e, 0xf2410155,
      0xf20414e, 0xf2041155, 0xf015417b, 0xf0152417b, 0xf01517b, 0xf015217b, 0xf1e7, 0xf14120e,
      0xf41e7, 0xf4120e, 0xf2035412e3, 0xf3025412e3, 0xf2031452e3, 0xf3021452e3],
    [0xf0cd, 0xf4219f, 0xf4214d, 0xf14214d, 0xf101a3, 0xf105157, 0xf4102150, 0xf1042150, 0xf0fa,
      0xf35280, 0xf1d0, 0xf11d0, 0xf3529d, 0xf352ad, 0xf0101df, 0xf101df, 0xf10151, 0xf1420154,
      0xf010417b, 0xf10417b, 0xf104151, 0xf1042154, 0xf01017b, 0xf1017b, 0xf1f6, 0xf242211,
      0xf1035422e2, 0xf3015422e2, 0xf41f6, 0xf42211, 0xf1032452e2, 0xf3012452e2],
    [0xf0d0, 0xf321af, 0xf3215c, 0xf13215c, 0xf101aa, 0xf105166, 0xf310215f, 0xf103215f, 0xf10160,
      0xf1320163, 0xf010317c, 0xf10317c, 0xf103160, 0xf1032163, 0xf01017c, 0xf1017c, 0xf0fd,
      0xf4527f, 0xf1cf, 0xf11cf, 0xf4529a, 0xf452ac, 0xf0101de, 0xf101de, 0xf1f3, 0xf232202,
      0xf1032452e5, 0xf3102452e5, 0xf31f3, 0xf32202, 0xf1042352e5, 0xf4012352e5],
    [0xf0d1, 0xf311ae, 0xf201ab, 0xf205167, 0xf3115b, 0xf23115b, 0xf3201162, 0xf2031162, 0xf2015d,
      0xf2310164, 0xf20315d, 0xf2031164, 0xf015317c, 0xf0152317c, 0xf01517c, 0xf015217c, 0xf0fe,
      0xf45282, 0xf45291, 0xf452af, 0xf1d2, 0xf21d2, 0xf0201ed, 0xf201ed, 0xf1e4, 0xf1311ff,
      0xf31e4, 0xf311ff, 0xf2031452e6, 0xf3140252e6, 0xf2041352e6, 0xf4021352e6],
    [0xf0d2, 0xf211ad, 0xf301ac, 0xf215168, 0xf3015e, 0xf3210161, 0xf23015e, 0xf2130161, 0xf2115a,
      0xf21315a, 0xf2301165, 0xf2130165, 0xf135317c, 0xf13517c, 0xf123517c, 0xf135217c, 0xf0ff,
      0xf45285, 0xf4528e, 0xf452b2, 0xf1e1, 0xf1211f0, 0xf21e1, 0xf211f0, 0xf1d5, 0xf31d5,
      0xf0301fc, 0xf301fc, 0xf2130452e7, 0xf2140352e7, 0xf3041252e7, 0xf4031252e7],
    [0xf1bf, 0xf274, 0xf5126d, 0xf526d, 0xf52270, 0xf5270, 0xf25125f, 0xf2525f, 0xf53272, 0xf5272,
      0xf351260, 0xf35260, 0xf352262, 0xf35262, 0xf451025e, 0xf140525e, 0xf54273, 0xf5273,
      0xf451261, 0xf45261, 0xf452263, 0xf45263, 0xf351025d, 0xf130525d, 0xf453264, 0xf45264,
      0xf251025c, 0xf120525c, 0xf152025b, 0xf102525b, 0xf151269, 0xf15269],
    [0xf092, 0xf1009f, 0xf09f, 0xf109f, 0xf0d5, 0xf43220, 0xf0143220, 0xf043220, 0xf2310f,
      0xf102325b, 0xf2325b, 0xf12325b, 0xf20d5, 0xf243220, 0xf01243220, 0xf0243220, 0xf230d3,
      0xf226, 0xf01226, 0xf0226, 0xf2320d4, 0xf343223, 0xf01343223, 0xf0343223, 0xf2340d3, 0xf4226,
      0xf014226, 0xf04226, 0xf230d4, 0xf43223, 0xf0143223, 0xf043223],
    [0xf093, 0xf200a2, 0xf0d8, 0xf4321d, 0xf0a2, 0xf20a2, 0xf024321d, 0xf04321d, 0xf13110,
      0xf120325c, 0xf10d8, 0xf14321d, 0xf1325c, 0xf12325c, 0xf0124321d, 0xf014321d, 0xf130d6,
      0xf227, 0xf1310d7, 0xf343224, 0xf02227, 0xf0227, 0xf02343224, 0xf0343224, 0xf1340d6, 0xf4227,
      0xf130d7, 0xf43224, 0xf024227, 0xf04227, 0xf0243224, 0xf043224],
    [0xf094, 0xf300a4, 0xf0db, 0xf4221e, 0xf12111, 0xf123025d, 0xf10db, 0xf14221e, 0xf0a4,
      0xf30a4, 0xf034221e, 0xf04221e, 0xf1225d, 0xf12325d, 0xf0134221e, 0xf014221e, 0xf120d9,
      0xf228, 0xf1210da, 0xf242221, 0xf1240d9, 0xf4228, 0xf120da, 0xf42221, 0xf03228, 0xf0228,
      0xf02342221, 0xf0242221, 0xf034228, 0xf04228, 0xf0342221, 0xf042221],
    [0xf095, 0xf400a5, 0xf0de, 0xf3221f, 0xf12112, 0xf124025e, 0xf10de, 0xf13221f, 0xf120dc,
      0xf225, 0xf1210dd, 0xf232222, 0xf1230dc, 0xf3225, 0xf120dd, 0xf32222, 0xf0a5, 0xf40a5,
      0xf032421f, 0xf03221f, 0xf1225e, 0xf12425e, 0xf0132421f, 0xf013221f, 0xf04225, 0xf0225,
      0xf02324222, 0xf0232222, 0xf034225, 0xf03225, 0xf0324222, 0xf032222],
    [0xf096, 0xf0e4, 0xf210a3, 0xf4321a, 0xf0a3, 0xf124321a, 0xf20a3, 0xf14321a, 0xf03114,
      0xf00e4, 0xf021325f, 0xf04321a, 0xf0325f, 0xf0124321a, 0xf02325f, 0xf014321a, 0xf030e2,
      0xf0300e3, 0xf0213219, 0xf0213020a, 0xf03219, 0xf03020a, 0xf023219, 0xf023020a, 0xf0340e2,
      0xf030e3, 0xf02134219, 0xf021320a, 0xf034219, 0xf0320a, 0xf0234219, 0xf02320a],
    [0xf097, 0xf0e7, 0xf310a1, 0xf4221b, 0xf02115, 0xf00e7, 0xf0231260, 0xf04221b, 0xf0a1,
      0xf134221b, 0xf30a1, 0xf14221b, 0xf02260, 0xf0134221b, 0xf023260, 0xf014221b, 0xf020e5,
      0xf0200e6, 0xf0231218, 0xf020311fb, 0xf0240e5, 0xf020e6, 0xf02314218, 0xf02311fb, 0xf02218,
      0xf0201fb, 0xf023218, 0xf02031fb, 0xf024218, 0xf021fb, 0xf0234218, 0xf0231fb],
    [0xf098, 0xf0ea, 0xf410a0, 0xf3221c, 0xf02116, 0xf00ea, 0xf0241261, 0xf03221c, 0xf020e8,
      0xf0200e9, 0xf0241209, 0xf020411fa, 0xf0230e8, 0xf020e9, 0xf02341209, 0xf02411fa, 0xf0a0,
      0xf132421c, 0xf40a0, 0xf13221c, 0xf02261, 0xf0132421c, 0xf024261, 0xf013221c, 0xf02209,
      0xf0201fa, 0xf024209, 0xf02041fa, 0xf023209, 0xf021fa, 0xf0234209, 0xf0241fa],
    [0xf099, 0xf0f0, 0xf01118, 0xf00f0, 0xf3209e, 0xf321dd, 0xf0132262, 0xf0321dd, 0xf09e, 0xf1dd,
      0xf01262, 0xf01dd, 0xf309e, 0xf31dd, 0xf013262, 0xf031dd, 0xf010ee, 0xf0100ef, 0xf0140ee,
      0xf010ef, 0xf0132217, 0xf010321ec, 0xf01324217, 0xf01321ec, 0xf01217, 0xf0101ec, 0xf014217,
      0xf011ec, 0xf013217, 0xf01031ec, 0xf0134217, 0xf0131ec],
    [0xf09a, 0xf0f3, 0xf01119, 0xf00f3, 0xf4209d, 0xf421dc, 0xf0142263, 0xf0421dc, 0xf010f1,
      0xf0100f2, 0xf0130f1, 0xf010f2, 0xf0142208, 0xf010421eb, 0xf01342208, 0xf01421eb, 0xf09d,
      0xf1dc, 0xf01263, 0xf01dc, 0xf409d, 0xf41dc, 0xf014263, 0xf041dc, 0xf01208, 0xf0101eb,
      0xf013208, 0xf011eb, 0xf014208, 0xf01041eb, 0xf0134208, 0xf0141eb],
    [0xf09b, 0xf0f9, 0xf0111b, 0xf00f9, 0xf010f7, 0xf0100f8, 0xf0120f7, 0xf010f8, 0xf4309c,
      0xf431db, 0xf0143264, 0xf0431db, 0xf01431f9, 0xf010431ea, 0xf012431f9, 0xf01431ea, 0xf09c,
      0xf1db, 0xf01264, 0xf01db, 0xf011f9, 0xf0101ea, 0xf0121f9, 0xf011ea, 0xf409c, 0xf41db,
      0xf014264, 0xf041db, 0xf0141f9, 0xf01041ea, 0xf01241f9, 0xf0141ea],
    [0xf1b0, 0xf5023c, 0xf32278, 0xf523c, 0xf265, 0xf05022c, 0xf525b, 0xf0522c, 0xf0129d,
      0xf01032d9, 0xf014532208, 0xf0132d9, 0xf01329d, 0xf0102d9, 0xf013425208, 0xf012d9, 0xf0129a,
      0xf01042d6, 0xf013542217, 0xf0142d6, 0xf01429a, 0xf0102d6, 0xf013245217, 0xf012d6,
      0xf014531f9, 0xf01322df, 0xf03212a3, 0xf30122df, 0xf01451f9, 0xf03212df, 0xf01322a3,
      0xf032102df],
    [0xf1b1, 0xf50244, 0xf266, 0xf05022f, 0xf3127b, 0xf5244, 0xf525c, 0xf0522f, 0xf02294,
      0xf02032d0, 0xf023294, 0xf0202d0, 0xf024531209, 0xf0232d0, 0xf023415209, 0xf022d0, 0xf02291,
      0xf02042cd, 0xf024291, 0xf0202cd, 0xf023541218, 0xf0242cd, 0xf023145218, 0xf022cd,
      0xf024531ea, 0xf02312e0, 0xf02451ea, 0xf03122e0, 0xf03122a4, 0xf30212e0, 0xf02312a4,
      0xf031202e0],
    [0xf1b2, 0xf5024b, 0xf267, 0xf050231, 0xf03295, 0xf02302d1, 0xf023295, 0xf0302d1, 0xf2127d,
      0xf524b, 0xf525d, 0xf05231, 0xf0241531fa, 0xf0232d1, 0xf0324151fa, 0xf032d1, 0xf0328e,
      0xf03042ca, 0xf03428e, 0xf0302ca, 0xf034521eb, 0xf03212da, 0xf03451eb, 0xf02132da,
      0xf021453219, 0xf0342ca, 0xf021345219, 0xf032ca, 0xf021329e, 0xf20312da, 0xf032129e,
      0xf021302da],
    [0xf1b3, 0xf50251, 0xf268, 0xf050232, 0xf04292, 0xf02402ce, 0xf024292, 0xf0402ce, 0xf0428f,
      0xf03402cb, 0xf03428f, 0xf0402cb, 0xf034521ec, 0xf04212d7, 0xf03451ec, 0xf02142d7, 0xf2127e,
      0xf5251, 0xf525e, 0xf05232, 0xf0231541fb, 0xf0242ce, 0xf0314251fb, 0xf042ce, 0xf02135420a,
      0xf0342cb, 0xf02143520a, 0xf042cb, 0xf021429b, 0xf20412d7, 0xf042129b, 0xf021402d7],
    [0xf1b4, 0xf26a, 0xf51245, 0xf151235, 0xf3027c, 0xf525f, 0xf5245, 0xf15235, 0xf12288,
      0xf123288, 0xf12132c4, 0xf1212c4, 0xf353225, 0xf35225, 0xf1232c4, 0xf122c4, 0xf12285,
      0xf124285, 0xf12142c1, 0xf1212c1, 0xf454228, 0xf45228, 0xf1242c1, 0xf122c1, 0xf124531db,
      0xf12451db, 0xf12302e1, 0xf13022e1, 0xf13022a5, 0xf12302a5, 0xf31202e1, 0xf031202e1],
    [0xf1b5, 0xf26b, 0xf5124c, 0xf151238, 0xf13289, 0xf123289, 0xf12312c5, 0xf1312c5, 0xf2027a,
      0xf5260, 0xf524c, 0xf15238, 0xf252222, 0xf25222, 0xf1232c5, 0xf132c5, 0xf13282, 0xf134282,
      0xf13142be, 0xf1312be, 0xf134521dc, 0xf13451dc, 0xf13202db, 0xf12032db, 0xf454227, 0xf45227,
      0xf1342be, 0xf132be, 0xf120329f, 0xf132029f, 0xf21302db, 0xf021302db],
    [0xf1b6, 0xf26c, 0xf51252, 0xf15123a, 0xf14286, 0xf124286, 0xf12412c2, 0xf1412c2, 0xf14283,
      0xf134283, 0xf13412bf, 0xf1412bf, 0xf134521dd, 0xf13451dd, 0xf14202d8, 0xf12042d8, 0xf20279,
      0xf5261, 0xf5252, 0xf1523a, 0xf252221, 0xf25221, 0xf1242c2, 0xf142c2, 0xf353224, 0xf35224,
      0xf1342bf, 0xf142bf, 0xf120429c, 0xf142029c, 0xf21402d8, 0xf021402d8],
    [0xf1b7, 0xf26e, 0xf2328a, 0xf12328a, 0xf5224d, 0xf25223e, 0xf12322c6, 0xf2322c6, 0xf10277,
      0xf5262, 0xf15121f, 0xf1521f, 0xf524d, 0xf2523e, 0xf1232c6, 0xf232c6, 0xf2327f, 0xf23427f,
      0xf15121c, 0xf1521c, 0xf23242bb, 0xf2322bb, 0xf10232d2, 0xf21032d2, 0xf454226, 0xf45226,
      0xf2103296, 0xf1023296, 0xf2342bb, 0xf232bb, 0xf12302d2, 0xf012302d2],
    [0xf1b8, 0xf26f, 0xf24287, 0xf124287, 0xf52253, 0xf252241, 0xf12422c3, 0xf2422c3, 0xf24280,
      0xf234280, 0xf15121b, 0xf1521b, 0xf23422bc, 0xf2422bc, 0xf10242cf, 0xf21042cf, 0xf10276,
      0xf5263, 0xf15121e, 0xf1521e, 0xf5253, 0xf25241, 0xf1242c3, 0xf242c3, 0xf353223, 0xf35223,
      0xf2104293, 0xf1024293, 0xf2342bc, 0xf242bc, 0xf12402cf, 0xf012402cf],
    [0xf1b9, 0xf271, 0xf34284, 0xf134284, 0xf34281, 0xf234281, 0xf15121a, 0xf1521a, 0xf53254,
      0xf353247, 0xf13432c0, 0xf3432c0, 0xf23432bd, 0xf3432bd, 0xf10342cc, 0xf31042cc, 0xf10275,
      0xf5264, 0xf15121d, 0xf1521d, 0xf252220, 0xf25220, 0xf3104290, 0xf1034290, 0xf5254, 0xf35247,
      0xf1342c0, 0xf342c0, 0xf2342bd, 0xf342bd, 0xf13402cc, 0xf013402cc],
    [0xf169, 0xf1228b, 0xf431ef, 0xf121431e0, 0xf1243230, 0xf1243521a, 0xf1431ef, 0xf12431e0,
      0xf229, 0xf124351db, 0xf01512e0, 0xf1502df, 0xf122f4, 0xf0122b8, 0xf0152e0, 0xf0152df,
      0xf12541d5, 0xf124541d8, 0xf1cd, 0xf1211ce, 0xf014522ca, 0xf014522cb, 0xf11cd, 0xf121ce,
      0xf1251d5, 0xf12451d8, 0xf41cd, 0xf12141ce, 0xf012452ca, 0xf012452cb, 0xf141cd, 0xf1241ce],
    [0xf16a, 0xf1328c, 0xf421fe, 0xf1511d0, 0xf22a, 0xf134251dc, 0xf01512da, 0xf1502d9,
      0xf134222e, 0xf1342521b, 0xf1421fe, 0xf151d0, 0xf132f5, 0xf0132b9, 0xf0152da, 0xf0152d9,
      0xf13541d2, 0xf134541d9, 0xf1cc, 0xf034501ce, 0xf1351d2, 0xf13451d9, 0xf41cc, 0xf43051ce,
      0xf014532cd, 0xf014532ce, 0xf11cc, 0xf103451ce, 0xf013452cd, 0xf013452ce, 0xf141cc,
      0xf104531ce],
    [0xf132416b, 0xf1428d, 0xf3220d, 0xf1511cf, 0xf22b, 0xf132451dd, 0xf01512d7, 0xf1502d6,
      0xf14531d3, 0xf134531d6, 0xf0120511cc, 0xf021501cd, 0xf1451d3, 0xf13451d6, 0xf302151cc,
      0xf302151cd, 0xf132422d, 0xf1324521c, 0xf13220d, 0xf151cf, 0xf142f6, 0xf0142ba, 0xf0152d7,
      0xf0152d6, 0xf013542d0, 0xf013542d1, 0xf012051cc, 0xf12051cd, 0xf014352d0, 0xf014352d1,
      0xf153021cc, 0xf120531cd],
    [0xf032416e, 0xf32210, 0xf04299, 0xf0501de, 0xf23b, 0xf01502d8, 0xf032451ec, 0xf05142d6,
      0xf04531e2, 0xf0121501c5, 0xf034531e5, 0xf021501c8, 0xf0451e2, 0xf305121c5, 0xf03451e5,
      0xf312051c8, 0xf0324233, 0xf032210, 0xf0324521f, 0xf051de, 0xf042f3, 0xf0152d8, 0xf0412b7,
      0xf1452d6, 0xf035412c4, 0xf012151c5, 0xf034512c5, 0xf02151c8, 0xf041352c4, 0xf053121c5,
      0xf041352c5, 0xf021531c8],
    [0xf16d, 0xf42201, 0xf03298, 0xf0501df, 0xf239, 0xf01502db, 0xf034251eb, 0xf05132d9,
      0xf0342234, 0xf042201, 0xf0342521e, 0xf051df, 0xf032f0, 0xf0152db, 0xf0312b4, 0xf1352d9,
      0xf03541e1, 0xf1c5, 0xf034541e8, 0xf134511cb, 0xf0351e1, 0xf41c5, 0xf03451e8, 0xf43151cb,
      0xf045312c1, 0xf01c5, 0xf034512c2, 0xf013451cb, 0xf031452c1, 0xf041c5, 0xf031452c2,
      0xf014531cb],
    [0xf16c, 0xf431f2, 0xf02297, 0xf020431d1, 0xf0243237, 0xf0431f2, 0xf0243521d, 0xf02431d1,
      0xf236, 0xf01502e1, 0xf024351ea, 0xf05122df, 0xf022ed, 0xf0152e1, 0xf0212b1, 0xf1252df,
      0xf02541e4, 0xf1c8, 0xf024541e7, 0xf0201cb, 0xf045212be, 0xf01c8, 0xf024512bf, 0xf021cb,
      0xf0251e4, 0xf41c8, 0xf02451e7, 0xf02041cb, 0xf021452be, 0xf041c8, 0xf021452bf, 0xf0241cb],
    [0xf16f, 0xf431e3, 0xf014323d, 0xf0431e3, 0xf012a0, 0xf010431d4, 0xf01435220, 0xf01431d4,
      0xf246, 0xf21502e1, 0xf012ea, 0xf2152e1, 0xf014351f9, 0xf05212e0, 0xf0122ae, 0xf1252e0,
      0xf01541f3, 0xf1c7, 0xf045122bb, 0xf01c7, 0xf014541f6, 0xf0101ca, 0xf014522bc, 0xf011ca,
      0xf0151f3, 0xf41c7, 0xf012452bb, 0xf041c7, 0xf01451f6, 0xf01041ca, 0xf012452bc, 0xf0141ca],
    [0xf170, 0xf41204, 0xf23f, 0xf02502d2, 0xf032a1, 0xf0501ee, 0xf034151fa, 0xf05232d0,
      0xf0341243, 0xf041204, 0xf032ef, 0xf0252d2, 0xf03415221, 0xf051ee, 0xf0322b3, 0xf2352d0,
      0xf03541f0, 0xf1c2, 0xf0351f0, 0xf41c2, 0xf034541f7, 0xf234521ca, 0xf03451f7, 0xf43251ca,
      0xf0152342c1, 0xf01c2, 0xf015232c1, 0xf041c2, 0xf034522c3, 0xf023451ca, 0xf032452c3,
      0xf024531ca],
    [0xf0314171, 0xf31213, 0xf242, 0xf02502cf, 0xf042a2, 0xf0501ed, 0xf031451fb, 0xf05242cd,
      0xf04531f1, 0xf0121501c2, 0xf0451f1, 0xf305211c2, 0xf034531f4, 0xf012501c7, 0xf03451f4,
      0xf321051c7, 0xf0314240, 0xf031213, 0xf042f2, 0xf0252cf, 0xf03145222, 0xf051ed, 0xf0422b6,
      0xf2452cd, 0xf0152342c4, 0xf012151c2, 0xf015242c4, 0xf053211c2, 0xf034522c6, 0xf01251c7,
      0xf042352c6, 0xf012531c7],
    [0xf0214174, 0xf21216, 0xf248, 0xf03502cc, 0xf0452200, 0xf0131501c1, 0xf045200, 0xf205311c1,
      0xf042a8, 0xf0501fc, 0xf0214520a, 0xf05342ca, 0xf02452203, 0xf013501c4, 0xf0245203,
      0xf231051c4, 0xf0214250, 0xf021216, 0xf042f1, 0xf0352cc, 0xf0152342c5, 0xf013151c1,
      0xf015342c5, 0xf052311c1, 0xf02145225, 0xf051fc, 0xf0432b5, 0xf3452ca, 0xf0321542c6,
      0xf01351c4, 0xf034152c6, 0xf013521c4],
    [0xf173, 0xf411f5, 0xf24f, 0xf32502d2, 0xf0241249, 0xf0411f5, 0xf022ec, 0xf3252d2, 0xf022a7,
      0xf0501fd, 0xf02415209, 0xf05322d1, 0xf02415224, 0xf051fd, 0xf0232b0, 0xf2352d1, 0xf02541ff,
      0xf1c1, 0xf0251ff, 0xf41c1, 0xf0153242be, 0xf01c1, 0xf015322be, 0xf041c1, 0xf02454206,
      0xf245321c9, 0xf0245206, 0xf42351c9, 0xf024532c0, 0xf032451c9, 0xf023452c0, 0xf034521c9],
    [0xf172, 0xf421e6, 0xf014224a, 0xf0421e6, 0xf24e, 0xf31502db, 0xf012e9, 0xf3152db, 0xf012a6,
      0xf010421d7, 0xf01425223, 0xf01421d7, 0xf01425208, 0xf05312da, 0xf0132ad, 0xf1352da,
      0xf0154202, 0xf1c4, 0xf0132542bb, 0xf01c4, 0xf015202, 0xf41c4, 0xf013252bb, 0xf041c4,
      0xf01454205, 0xf0101c9, 0xf014532bd, 0xf011c9, 0xf0145205, 0xf01041c9, 0xf013452bd,
      0xf0141c9],
    [0xf175, 0xf321e9, 0xf013225a, 0xf0321e9, 0xf255, 0xf41502d8, 0xf012e8, 0xf4152d8, 0xf0153211,
      0xf1c3, 0xf0142532bc, 0xf01c3, 0xf015211, 0xf31c3, 0xf014252bc, 0xf031c3, 0xf012a9,
      0xf010321da, 0xf01325226, 0xf01321da, 0xf01325217, 0xf05412d7, 0xf0142ac, 0xf1452d7,
      0xf01353214, 0xf0101c6, 0xf0124532bd, 0xf011c6, 0xf0135214, 0xf01031c6, 0xf012452bd,
      0xf0131c6],
    [0xf176, 0xf311f8, 0xf256, 0xf42502cf, 0xf0231259, 0xf0311f8, 0xf022eb, 0xf4252cf, 0xf025320e,
      0xf1c0, 0xf02520e, 0xf31c0, 0xf0153422bf, 0xf01c0, 0xf015422bf, 0xf031c0, 0xf022aa,
      0xf05020c, 0xf02315218, 0xf05422ce, 0xf02315227, 0xf0520c, 0xf0242af, 0xf2452ce, 0xf02353215,
      0xf235421c6, 0xf0235215, 0xf32451c6, 0xf0214532c0, 0xf042351c6, 0xf021452c0, 0xf034521c6],
    [0xf0213177, 0xf21207, 0xf257, 0xf43502cc, 0xf035220f, 0xf0141501c0, 0xf03520f, 0xf205411c0,
      0xf0213258, 0xf021207, 0xf032ee, 0xf4352cc, 0xf0152432c2, 0xf014151c0, 0xf015432c2,
      0xf052411c0, 0xf032ab, 0xf05020b, 0xf02135219, 0xf05432cb, 0xf02352212, 0xf014501c3,
      0xf0235212, 0xf241051c3, 0xf02135228, 0xf0520b, 0xf0342b2, 0xf3452cb, 0xf0314522c3,
      0xf01451c3, 0xf031452c3, 0xf014521c3],
    [0xf17d, 0xf13432c7, 0xf2d5, 0xf232501c4, 0xf01032dc, 0xf10342d3, 0xf501321c3, 0xf13432d4,
      0xf21402e4, 0xf02402e7, 0xf12142de, 0xf204531c1, 0xf512431cd, 0xf14351ce, 0xf12432dd,
      0xf1203451c0, 0xf02322e5, 0xf51c7, 0xf01032c9, 0xf10342c8, 0xf01322e2, 0xf10351ca,
      0xf03251c6, 0xf051321c9, 0xf121541c8, 0xf04232e6, 0xf024511c5, 0xf02451c2, 0xf013242e3,
      0xf103541cb, 0xf0513241cc, 0xf22f7]].map (packed 40))

/-- The routes from the roots on some number of vertices and the neighbours of
one more: the last three hexadecimal digits are the number of the root to which
the route leads, and the others are the word of the walk. -/
def routes : Nat → Nat
  | 1 => routesOne
  | 2 => routesTwo
  | 3 => routesThree
  | 4 => routesFour
  | 5 => routesFive
  | _ => 0xf000

def classes : Nat → Nat
  | 2 => 2
  | 3 => 5
  | 4 => 18
  | 5 => 93
  | 6 => 760
  | _ => 1

def root (size number : Nat) : Nat :=
  field 48 (roots size) number

def route (size number mask : Nat) : Nat :=
  field 40 (routes size) (Nat.add (Nat.mul (2 ^ size) number) mask)

def longestWalk : Nat :=
  8

def arrives (size number mask : Nat) : Bool :=
  let route := route size number mask
  Nat.blt (Nat.mod route 4096) (classes (size + 1)) &&
    Nat.beq
      (walk (size + 1) longestWalk (extend size (root size number) mask) (Nat.div route 4096))
      (root (size + 1) (Nat.mod route 4096))

theorem roots_fit : ∀ size < 7, ∀ number < classes size, fits size (root size number) = true := by
  have evaluated : (List.range 7).all (fun size => (List.range (classes size)).all fun number =>
      fits size (root size number)) = true := by
    decide +kernel
  intro size small number inside
  have each := List.all_eq_true.1 evaluated size (List.mem_range.2 small)
  exact List.all_eq_true.1 each number (List.mem_range.2 inside)

theorem routes_arrive : ∀ size < 6, ∀ number < classes size, ∀ mask < 2 ^ size,
    arrives size number mask = true := by
  have evaluated : (List.range 6).all (fun size => (List.range (classes size)).all fun number =>
      (List.range (2 ^ size)).all fun mask => arrives size number mask) = true := by
    decide +kernel
  intro size small number inside mask bound
  have each := List.all_eq_true.1 evaluated size (List.mem_range.2 small)
  have every := List.all_eq_true.1 each number (List.mem_range.2 inside)
  exact List.all_eq_true.1 every mask (List.mem_range.2 bound)

end StabilizerPrep.Board
