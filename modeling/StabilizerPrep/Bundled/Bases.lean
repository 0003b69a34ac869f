/-!
# Tables of mutually unbiased bases

The bundled tables of mutually unbiased bases. Up to four qubits they come
with readout circuits.
-/

namespace StabilizerPrep.Bundled

set_option autoImplicit false

def basesTwoAll : String :=
  "2:1:1
XI,IX:h0 s0 h0 h1 s1 h1 h1 h0
ZI,IZ:h0 h1 h1 h0
YI,IY:s0 s1 h1 h0 x1 x0
ZX,XY:h0 s0 s1 cz0,1 h1 h0 x1 x0
YX,XZ:s1 cz0,1 h1 h0
"

def basesThreeAll : String :=
  "12:2:2
XII,IXI,IIX:h0 s0 h0 h1 s1 h1 h2 s2 h2 h2 h1 h0
ZII,IZI,IIZ:h0 h1 h2 h2 h1 h0
YII,IYI,IIY:s0 s1 s2 h2 h1 h0 x2 x1 x0
ZXI,XZX,IXY:s0 s2 cz0,2 cz0,1 h2 h1 h0 x2 x0
YXI,XYX,IXZ:s0 h0 h2 cz0,2 cz0,1 h2 h1 h0 x2 x1
ZIX,IYX,XXY:h1 s1 h2 s2 h2 cz0,2 cz0,1 h2 h1 h0
YIX,IZX,XXZ:h0 s0 h0 s1 h1 h2 s2 h2 cz0,2 cz0,1 h2 h1 h0 x0
ZXX,XYI,XIZ:h0 h1 s1 h2 cz0,2 cz0,1 h2 h1 h0
YXX,XZI,XIY:h0 s0 s1 h1 s2 cz0,2 cz0,1 h2 h1 h0 x2 x0
"

def basesThreeLinear : String :=
  "12:2:2
XII,IXI,IIX:h0 s0 h0 h1 s1 h1 h2 s2 h2 h2 h1 h0
ZII,IZI,IIZ:h0 h1 h2 h2 h1 h0
YII,IYI,IIY:s0 s1 s2 h2 h1 h0 x2 x1 x0
ZXI,XZX,IXY:h0 h1 s1 s2 cz1,2 cz0,1 h2 h1 h0 x2 x1
YXI,XYX,IXZ:h0 s0 h1 s1 h2 cz1,2 cz0,1 h2 h1 h0
ZIX,IYX,XXY:s0 h0 s1 h1 h2 s2 h2 cz1,2 cz0,1 h2 h1 h0 x2 x1 x0
YIX,IZX,XXZ:s0 h2 s2 h2 cz1,2 cz0,1 h2 h1 h0 x1 x0
ZXX,XYI,XIZ:h0 s0 h0 s1 h1 h2 cz1,2 cz0,1 h2 h1 h0 x2 x1 x0
YXX,XZI,XIY:s2 cz1,2 cz0,1 h2 h1 h0 x2
"

def basesFourAll : String :=
  "40:3:2
XIII,IXII,IIXI,IIIX:h0 s0 h0 h1 s1 h1 h2 s2 h2 h3 s3 h3 h3 h2 h1 h0
ZIII,IZII,IIZI,IIIZ:h0 h1 h2 h3 h3 h2 h1 h0
YIII,IYII,IIYI,IIIY:s0 s1 s2 s3 h3 h2 h1 h0 x3 x2 x1 x0
ZXII,XYII,IIZX,IIXY:h0 s0 s1 h2 s2 s3 cz2,3 cz0,1 h3 h2 h1 h0 x3 x2 x1 x0
YXII,XZII,IIYX,IIXZ:s1 s3 cz2,3 cz0,1 h3 h2 h1 h0
ZIXI,IZIX,XIZX,IXXY:h3 s3 h3 cz1,3 cz0,2 cz0,1 h3 h2 h1 h0
YIXI,IYIX,XIYX,IXXZ:s0 h0 s1 h1 h3 s3 h3 cz1,3 cz0,2 cz0,1 h3 h2 h1 h0 x3 x2 x0
ZXXI,XYIX,XIZI,IXIZ:h0 s0 h1 s1 s2 h2 h3 cz1,3 cz0,2 cz0,1 h3 h2 h1 h0 x0
YXXI,XZIX,XIYI,IXIY:h0 s0 h1 s1 h2 s2 s3 cz1,3 cz0,2 cz0,1 h3 h2 h1 h0 x3 x1
ZIIX,IZXX,IXYX,XXXZ:h1 s1 h1 s2 h2 h3 s3 h3 cz1,2 cz0,3 cz0,1 h3 h2 h1 h0 x2 x1
YIIX,IYXX,IXZX,XXXY:s0 h0 s1 h2 s2 h3 s3 h3 cz1,2 cz0,3 cz0,1 h3 h2 h1 h0 x3 x2 x0
ZXIX,XYXX,IXYI,XXIY:s0 h0 h1 h2 s2 h3 cz1,2 cz0,3 cz0,1 h3 h2 h1 h0
YXIX,XZXX,IXZI,XXIZ:h1 s2 h2 s3 cz1,2 cz0,3 cz0,1 h3 h2 h1 h0 x1
ZIXX,IZXI,XXYI,XIIY:h0 s0 s1 s3 cz1,2 cz0,3 cz0,1 h3 h2 h1 h0 x3 x0
YIXX,IYXI,XXZI,XIIZ:h0 s0 h1 s1 h1 h3 cz1,2 cz0,3 cz0,1 h3 h2 h1 h0
ZXXX,XYXI,XXYX,XIXZ:s0 h0 s1 h1 s2 h2 h3 cz1,3 cz0,2 cz0,1 h3 h2 h1 h0 x3 x0
YXXX,XZXI,XXZX,XIXY:h2 s2 s3 cz1,3 cz0,2 cz0,1 h3 h2 h1 h0 x3 x2
"

def basesFourLinear : String :=
  "184:15:14
XIII,IXII,IIXI,IIIX:h0 s0 h0 h1 s1 h1 h2 s2 h2 h3 s3 h3 h3 h2 h1 h0
ZIII,IZII,IIZI,IIIZ:h0 h1 h2 h3 h3 h2 h1 h0
YIII,IYII,IIYI,IIIY:s0 s1 s2 s3 h3 h2 h1 h0 x3 x2 x1 x0
ZXII,XYII,IIZX,IIXY:h0 s0 s1 h2 s2 s3 cz2,3 cz0,1 h3 h2 h1 h0 x3 x2 x1 x0
YXII,XZII,IIYX,IIXZ:s1 s3 cz2,3 cz0,1 h3 h2 h1 h0
ZIXI,IZIX,XIZX,IXXY:s0 h0 s1 h1 h2 s2 h3 swap1,2 cz2,3 swap1,2 swap0,1 cz1,2 swap0,1 cz2,3 h3 h2 h1 h0 x2
YIXI,IYIX,XIYX,IXXZ:h0 s0 h1 s1 h2 s2 h3 swap1,2 cz2,3 swap1,2 swap0,1 cz1,2 swap0,1 cz2,3 h3 h2 h1 h0
ZXXI,XYIX,XIZI,IXIZ:s3 swap1,2 cz2,3 swap1,2 swap0,1 cz1,2 swap0,1 cz2,3 h3 h2 h1 h0
YXXI,XZIX,XIYI,IXIY:s2 h2 h3 s3 h3 swap1,2 cz2,3 swap1,2 swap0,1 cz1,2 swap0,1 cz2,3 h3 h2 h1 h0 x3 x0
ZIIX,IZXX,IXYX,XXXZ:s0 h0 s1 h3 swap0,1 swap1,2 cz2,3 swap1,2 swap0,1 cz2,3 cz1,2 h3 h2 h1 h0 x3
YIIX,IYXX,IXZX,XXXY:h0 s0 h1 s2 h2 h3 swap0,1 swap1,2 cz2,3 swap1,2 swap0,1 cz2,3 cz1,2 h3 h2 h1 h0
ZXIX,XYXX,IXYI,XXIY:h0 s0 h1 s1 h1 s2 h2 s3 swap0,1 swap1,2 cz2,3 swap1,2 swap0,1 cz2,3 cz1,2 h3 h2 h1 h0 x2 x1 x0
YXIX,XZXX,IXZI,XXIZ:s0 h0 h1 s1 h1 h3 s3 h3 swap0,1 swap1,2 cz2,3 swap1,2 swap0,1 cz2,3 cz1,2 h3 h2 h1 h0 x3 x0
ZIXX,IZXI,XXYI,XIIY:h1 h2 s2 h3 s3 h3 swap0,1 swap1,2 cz2,3 swap1,2 swap0,1 cz2,3 cz1,2 h3 h2 h1 h0
YIXX,IYXI,XXZI,XIIZ:s1 h2 s2 s3 swap0,1 swap1,2 cz2,3 swap1,2 swap0,1 cz2,3 cz1,2 h3 h2 h1 h0 x2 x1
ZXXX,XYXI,XXYX,XIXZ:h0 s0 h1 s1 s3 swap1,2 cz2,3 swap1,2 swap0,1 cz1,2 swap0,1 cz2,3 h3 h2 h1 h0 x0
YXXX,XZXI,XXZX,XIXY:s0 h0 s1 h1 s2 h2 h3 s3 h3 swap1,2 cz2,3 swap1,2 swap0,1 cz1,2 swap0,1 cz2,3 h3 h2 h1 h0
"

def basesFourStar : String :=
  "124:9:9
XIII,IXII,IIXI,IIIX:h0 s0 h0 h1 s1 h1 h2 s2 h2 h3 s3 h3 h3 h2 h1 h0
ZIII,IZII,IIZI,IIIZ:h0 h1 h2 h3 h3 h2 h1 h0
YIII,IYII,IIYI,IIIY:s0 s1 s2 s3 h3 h2 h1 h0 x3 x2 x1 x0
ZXII,XYII,IIZX,IIXY:h0 s0 s1 h2 s2 s3 swap2,0 cz0,3 swap2,0 cz0,1 h3 h2 h1 h0 x3 x2 x1 x0
YXII,XZII,IIYX,IIXZ:s1 s3 swap2,0 cz0,3 swap2,0 cz0,1 h3 h2 h1 h0
ZIXI,IZIX,XIZX,IXXY:h3 s3 h3 swap1,0 cz0,3 swap1,0 cz0,2 cz0,1 h3 h2 h1 h0
YIXI,IYIX,XIYX,IXXZ:s0 h0 s1 h1 h3 s3 h3 swap1,0 cz0,3 swap1,0 cz0,2 cz0,1 h3 h2 h1 h0 x3 x2 x0
ZXXI,XYIX,XIZI,IXIZ:h0 s0 h1 s1 s2 h2 h3 swap1,0 cz0,3 swap1,0 cz0,2 cz0,1 h3 h2 h1 h0 x0
YXXI,XZIX,XIYI,IXIY:h0 s0 h1 s1 h2 s2 s3 swap1,0 cz0,3 swap1,0 cz0,2 cz0,1 h3 h2 h1 h0 x3 x1
ZIIX,IZXX,IXYX,XXXZ:h1 s1 h1 s2 h2 h3 s3 h3 swap1,0 cz0,2 swap1,0 cz0,3 cz0,1 h3 h2 h1 h0 x2 x1
YIIX,IYXX,IXZX,XXXY:s0 h0 s1 h2 s2 h3 s3 h3 swap1,0 cz0,2 swap1,0 cz0,3 cz0,1 h3 h2 h1 h0 x3 x2 x0
ZXIX,XYXX,IXYI,XXIY:s0 h0 h1 h2 s2 h3 swap1,0 cz0,2 swap1,0 cz0,3 cz0,1 h3 h2 h1 h0
YXIX,XZXX,IXZI,XXIZ:h1 s2 h2 s3 swap1,0 cz0,2 swap1,0 cz0,3 cz0,1 h3 h2 h1 h0 x1
ZIXX,IZXI,XXYI,XIIY:h0 s0 s1 s3 swap1,0 cz0,2 swap1,0 cz0,3 cz0,1 h3 h2 h1 h0 x3 x0
YIXX,IYXI,XXZI,XIIZ:h0 s0 h1 s1 h1 h3 swap1,0 cz0,2 swap1,0 cz0,3 cz0,1 h3 h2 h1 h0
ZXXX,XYXI,XXYX,XIXZ:s0 h0 s1 h1 s2 h2 h3 swap1,0 cz0,3 swap1,0 cz0,2 cz0,1 h3 h2 h1 h0 x3 x0
YXXX,XZXI,XXZX,XIXY:h2 s2 s3 swap1,0 cz0,3 swap1,0 cz0,2 cz0,1 h3 h2 h1 h0 x3 x2
"

def basesFourCycle : String :=
  "46:4:2
XIII,IXII,IIXI,IIIX:h0 s0 h0 h1 s1 h1 h2 s2 h2 h3 s3 h3 h3 h2 h1 h0
ZIII,IZII,IIZI,IIIZ:h0 h1 h2 h3 h3 h2 h1 h0
YIII,IYII,IIYI,IIIY:s0 s1 s2 s3 h3 h2 h1 h0 x3 x2 x1 x0
ZXII,XYII,IIZX,IIXY:h0 s0 s1 h2 s2 s3 cz2,3 cz0,1 h3 h2 h1 h0 x3 x2 x1 x0
YXII,XZII,IIYX,IIXZ:s1 s3 cz2,3 cz0,1 h3 h2 h1 h0
ZIXI,IZIX,XIZX,IXXY:h0 h1 h3 s3 h3 cz1,2 cz0,3 cz2,3 cz0,1 h3 h2 h1 h0
YIXI,IYIX,XIYX,IXXZ:s0 s1 h3 s3 h3 cz1,2 cz0,3 cz2,3 cz0,1 h3 h2 h1 h0 x2 x1
ZXXI,XYIX,XIZI,IXIZ:h0 s0 h0 h1 s1 h1 s2 h2 h3 cz1,2 cz0,3 cz2,3 cz0,1 h3 h2 h1 h0 x3 x1
YXXI,XZIX,XIYI,IXIY:h0 s0 h0 h1 s1 h1 h2 s2 s3 cz1,2 cz0,3 cz2,3 cz0,1 h3 h2 h1 h0 x3 x2 x0
ZIIX,IZXX,IXYX,XXXZ:h1 s1 h1 s2 h2 h3 s3 h3 cz1,2 cz0,3 cz0,1 h3 h2 h1 h0 x2 x1
YIIX,IYXX,IXZX,XXXY:s0 h0 s1 h2 s2 h3 s3 h3 cz1,2 cz0,3 cz0,1 h3 h2 h1 h0 x3 x2 x0
ZXIX,XYXX,IXYI,XXIY:s0 h0 h1 h2 s2 h3 cz1,2 cz0,3 cz0,1 h3 h2 h1 h0
YXIX,XZXX,IXZI,XXIZ:h1 s2 h2 s3 cz1,2 cz0,3 cz0,1 h3 h2 h1 h0 x1
ZIXX,IZXI,XXYI,XIIY:h0 s0 s1 s3 cz1,2 cz0,3 cz0,1 h3 h2 h1 h0 x3 x0
YIXX,IYXI,XXZI,XIIZ:h0 s0 h1 s1 h1 h3 cz1,2 cz0,3 cz0,1 h3 h2 h1 h0
ZXXX,XYXI,XXYX,XIXZ:s0 s1 s2 h2 h3 cz1,2 cz0,3 cz2,3 cz0,1 h3 h2 h1 h0 x1
YXXX,XZXI,XXZX,XIXY:h0 h1 h2 s2 s3 cz1,2 cz0,3 cz2,3 cz0,1 h3 h2 h1 h0 x3 x2
"

def basesFiveAll : String :=
  "XZYIY,YZYIX,ZXXXZ,XYIYX,XXZYY
XXXYZ,YYYIY,YZZIY,ZXXZZ,XYZYI
IYZYX,IXIIZ,XYYXX,YZXXY,IZIIY
ZYZYY,XZZXX,ZXZYZ,YIYXX,ZIIZX
YIIZI,ZIYYZ,ZYIYI,XZYYY,YZXII
IZXIY,ZZXYI,IXIXZ,IIZXZ,ZYXXX
IIYIX,IIXXZ,XYXYY,XXZIY,YYIXI
ZZYZY,XZIYY,IZXZZ,IXYIZ,ZYYYY
YIZIZ,IYIZZ,XZIZY,XXIZX,XIYII
ZXZXY,XYXZY,IZYII,ZZIXZ,XZYZI
YXYXZ,IYZII,YXYYY,ZIIYZ,XYIXZ
ZXIYX,YIZYY,YYYXY,ZXYII,YIXZI
XZIIZ,YZZXY,YZIZX,IZZYZ,ZZZZY
XIIZZ,YYXZX,XXXXY,XIXYX,XIXZZ
XXYXI,XIIXY,IYZXI,ZZZYI,YXIYI
YZZZZ,IZYXI,YXXXX,IYYZZ,ZZIIX
ZIXZX,YIIXX,XIIIY,XIYXY,YYZYZ
XZZZI,XXXIY,IYIYZ,IXXZI,IIIZY
YYYYZ,IZXYZ,XZZIX,YZYYX,ZXYXY
ZIYIY,XYYIX,ZXIXI,XYIIX,XXIYZ
YXXYI,ZIXXI,IIYZI,ZYYZI,YXZXZ
IZYZX,IXZZI,YIIIX,IYXII,IXYXX
ZYIXX,YXXIX,XIZZX,YYIIY,IZZZX
XYYYI,XXYZX,ZIYZZ,YIXYY,IYYYX
YYXXI,ZXZZZ,ZYZXZ,YXIZY,IYXXY
IYIXY,ZZYXZ,ZZYIZ,YXZIX,ZIZIY
IIXZY,ZYZIZ,ZZXZI,XZXXX,XXZXI
IXIYY,ZYIZI,IXZYI,ZYXIZ,XZXIZ
IXZXX,IIYYI,YIZZY,ZIZXI,YIYIZ
ZZXIX,YXYZY,YYXYX,IZIXI,IXXYY
XYXXZ,YZIYX,XXYYX,YYZZX,ZXXYX
XIZII,XIZYX,ZIXII,XYZZY,YZYZZ
YZIII,ZXIII,IIXIZ,IIIYI,IIZIX
"

def basesFiveLinear : String :=
  "ZZYYZ,ZXIZI,YXYXX,YIXYI,XXZYY
XYXZX,ZYYYY,IIXZI,IIXIX,YXIII
YXZXY,IZYXY,YXZYX,YIIYX,ZIZYY
YZXIX,XZIZZ,YIIXI,XXYYZ,ZZIZY
ZZZYI,XYZIY,XXYXY,XYXZZ,ZIXXI
ZYIXX,YZXII,XYXIY,XXIXX,XXXZZ
IZYXZ,YIYXI,XXIYI,ZIIZY,XZXXY
IIXIZ,YZZZY,ZIIIZ,ZYIXZ,YXYZY
IZIYX,IYZXX,ZYIYY,IIZZZ,IZXIX
YYIIY,IIZZI,IIZIY,YYIII,IYIIY
YIIYZ,ZYIXI,YYIZX,YZXIZ,XXZIX
XYZIZ,XIZYZ,YZXZY,ZIYII,ZXIXZ
ZIIZI,XXYYI,ZIYZX,XIXXY,IYYZI
ZXXZZ,IYXYZ,XIXYZ,YZZZX,ZZYII
YYYZI,YYYZX,YZZII,XYZIX,XYIXX
IYXYY,XXIXY,XYZZI,ZZXXI,ZYXZX
ZXZIX,YIIYY,ZZXYX,XZIZI,YZYXZ
IIZZX,IXYZZ,XZIIX,IYZXY,ZXYYX
YXXYI,YXZXZ,IYZYZ,XIZYI,YIZZX
IXIII,ZIIZX,XIZXX,IXYZI,XIYIY
XIZYY,YYIIZ,IXYIX,ZXZIZ,YYZXI
IYZXI,ZZXXZ,ZXZZY,IZYXX,YYXYY
XZYII,IZIYI,IZYYI,IZIYZ,IIIYZ
YZZZZ,ZXXZY,IZIXY,YXXYY,YZIYX
XXYYX,ZXZII,YXXXZ,IYXYI,XZZYI
XXIXZ,XZYIX,IYXXX,ZYYYX,IZZZZ
ZZXXY,ZIYIZ,ZYYXI,YYYZY,YIXIZ
XIXXI,IIXIY,YYYIZ,IXIIY,ZYZIZ
YIYXX,XIXXX,IXIZZ,XZYIY,IXZXY
ZIYIY,ZZZYX,XZYZZ,YIYXZ,XYYYZ
XZIZY,YXXYX,YIYYY,ZZZYY,XIIZI
IXYZY,XYXZI,ZZZXZ,ZXXZX,IIYXX
ZYYYZ,IXIIX,ZXXII,YXZXI,IXXYI
"

def basesFiveStar : String :=
  "YZXYZ,IIIIZ,YXYIZ,XZYYZ,ZXZXZ
IXYZZ,YIYZZ,ZYYXI,XZXZZ,XZXYY
YYZXI,YIYZI,XZIXZ,IIZXI,YYYZX
IXYZI,IXIZI,YXIZZ,YYYYI,XXYIY
YIIZI,ZZIXI,IZXIZ,XXYXZ,IIZIY
XYIXI,XXXYI,ZIXZI,IIZXZ,IZIZY
ZIXYI,YYXXZ,YXIZI,IZIYZ,IYIYX
IZXXZ,ZZIXZ,YYZII,IYIZI,ZXIXX
XYIXZ,ZIZYZ,YZZXZ,ZXIII,IXZXY
XXZYZ,ZXZZI,XIZYZ,IXZIZ,XXYIX
XIZZI,IYZII,YIIYI,XXYXI,YXXIX
YZZII,ZYIIZ,ZIXZZ,YXXXI,XIYXX
XZIIZ,YYXXI,IIYZZ,XIYII,ZZZZY
IZXXI,XYYXI,ZXXYZ,ZZZYZ,ZZZZX
ZZYXI,YZXII,XYIII,ZZZYI,XYXZY
IYXII,IIIYZ,XYIIZ,XYXYZ,IXZXX
YXIYZ,IIIYI,ZZYII,IXZII,ZIIIY
YXIYI,YXYYZ,YIIYZ,ZIIXZ,ZYZYY
IIYYZ,ZYIII,XXZZI,ZYZZZ,YXXIY
XZIII,IZZXZ,XZIXI,YXXXZ,ZXIXY
YYZXZ,IXIZZ,IIYZI,ZXIIZ,YIXXX
YIIZZ,XYYXZ,XIZYI,YIXII,IYIYY
ZZYXZ,IYZIZ,IXYYZ,IYIZZ,XIYXY
YZZIZ,XZYII,YZZXI,XIYIZ,XYXZX
ZYYII,ZXZZZ,ZXXYI,XYXYI,YIXXY
XIZZZ,YZXIZ,ZZYIZ,YIXIZ,YZYYX
IYXIZ,YXYYI,IXYYI,YZYZI,IZIZX
IIYYI,XZYIZ,IYXXZ,IZIYI,YZYYY
ZYYIZ,XIXZI,YYZIZ,YZYZZ,YYYZY
ZXXZI,ZIZYI,IYXXI,YYYYZ,ZIIIX
XXZYI,XIXZZ,IZXII,ZIIXI,XZXYX
ZXXZZ,XXXYZ,XXZZZ,XZXZI,ZYZYX
ZIXYZ,IZZXI,ZYYXZ,ZYZZI,IIZIX
"

def basesFiveCycle : String :=
  "IXIYI,ZZIZX,XXIYY,IIZII,YXIYZ
ZZIII,IZIXY,IIXII,YYIZI,ZZIZZ
ZYIYI,ZIIYZ,XXXYY,YYZZI,XYIXI
IIIZX,XYIZI,IIYII,IZIXZ,YZIZX
YYIYY,IZZXY,YXXYZ,ZYIZY,IIZIY
ZZZII,YYIZX,XIXIY,XXZIX,IZIZY
XYIYZ,XZIXI,ZZYZX,XYIZX,YZZZX
YZIIY,ZIZYZ,ZIXIX,ZYZZY,YXZYX
IIZZX,ZZIXZ,XIYIY,ZIZYY,XZIZI
IZIIX,XZZXI,XYYXY,IYIZZ,XIIII
YZZIY,XXZII,YIXIZ,IXIIZ,XXZYI
YXZXY,YZIXX,YZXZZ,IIZYZ,IZZZY
XZIIZ,YIIYX,YYYXZ,XYZZX,IYZXY
XIIZZ,YXZIX,ZIYIX,XZZXX,ZXZYZ
XXZXZ,ZZZXZ,ZXYYX,YIZYI,YIZIX
IZZIX,ZYZZZ,IYYXI,ZXZIY,YIIIX
IYZYX,IXZIY,XZYZY,ZXIIY,IXIYY
ZXZXI,XIZYI,XZXZY,XIIYX,XXIYI
YIZZY,XIIYI,ZYXXX,IIIYZ,YYZXX
YIIZY,ZXIIZ,YYXXZ,ZZZXY,XYZXI
IXIXX,YXIIX,XXYYY,IZZXZ,IYIXY
XXIXZ,XYZZI,YXYYZ,XZIXX,XIZII
YYZYY,YYZZX,ZXXYX,IXZIZ,ZIZIZ
XYZYZ,ZYIZZ,YZYZZ,YXZII,XZZZI
IYIYX,YIZYX,IZYZI,IYZZZ,ZXIYZ
XIZZZ,IIZYY,YIYIZ,YIIYI,IXZYY
ZIZZI,YZZXX,IYXXI,XIZYX,ZIIIZ
XZZIZ,IXIIY,ZYYXX,YXIII,ZYZXZ
ZXIXI,ZXZIZ,IZXZI,YZZXI,YXIYX
IXZXX,IIIYY,IXYYI,ZIIYY,ZYIXZ
ZIIZI,IYZZY,XYXXY,YZIXI,IIIIY
ZYZYI,XXIII,IXXYI,XXIIX,YYIXX
YXIXY,IYIZY,ZZXZX,ZZIXY,ZZZZZ
"

def basesFiveT : String :=
  "ZZXXX,YYIZY,ZYXZX,YYXXX,XXZYX
IZIIZ,YYXZY,IZXZZ,YZXIZ,ZYZXX
ZIXXY,IIXII,ZXIIY,IXIXY,YZIZI
YXIZX,XIIIZ,YXIYY,ZYYYY,ZZZZX
ZXXZY,IIIYZ,XYYXY,YYXYZ,ZYYZY
YXXXY,ZZYXZ,IYXXZ,YZIYI,XXXIX
XYZYY,YZXXY,IZIXI,IIZXZ,XXYYI
IYIYZ,YYIXX,YIZYZ,IIIZY,YZXXZ
IZXYI,IXZYY,YIIIY,ZYZIX,XIXYX
YIYXZ,IXIIZ,XYZZX,IXZZZ,XXZIZ
YIXZY,ZZZZI,YXZIZ,IIXXX,IIZIZ
XYYIX,IIZIY,YIXYX,XXXXX,ZZIXI
YXYZZ,IXXYI,ZXXYX,YYYIY,IIXIX
YIIXX,XIXYI,IYYZY,XXZXZ,YYXZZ
ZXIXX,YZYZZ,ZXZYZ,ZZZYX,XIIIY
IYZIY,XIZYY,XZZXX,IXYXI,ZYXXZ
ZXYXZ,ZYZXI,YXYYI,YZZIX,YZYZY
XZYYX,IIYYX,IZZZX,ZYIYI,YYYXY
YXZXI,YYZZI,XYIXI,ZZIII,YYZZX
IZYIX,ZZIXX,XZIZI,ZZXYZ,IXXYX
XYXYI,ZYIZX,XZXXZ,XIZZZ,YYIXI
XZXII,ZYXXY,ZIZIZ,ZZYIY,ZZYXY
XZIYZ,XXZIY,XZYZY,YYIII,XXIYY
ZIYZZ,ZYYZZ,IYIZI,IIYZI,ZYIZI
XZZIY,YZIZX,YIYII,YZYYY,IIIYY
IYXII,IXYIX,IZYXY,XXYZI,IXZYZ
YIZZI,YYYXZ,ZXYII,XIXZX,ZZXZZ
IZZYY,XIYIX,ZIXIX,YYZYX,YZZXX
ZXZZI,XXXII,IYZXX,ZYXIZ,IXIIY
ZIIZX,YZZXI,XYXZZ,XIYXI,IXYII
IYYYX,ZZXZY,ZIYYI,XIIXY,XIZYZ
XYIIZ,XXYYX,ZIIYY,IXXZX,IIYYI
ZIZXI,XXIYZ,YXXIX,XXIZY,XIYII
"

def basesFiveQ : String :=
  "YXYZZ,IIIIZ,YYYXI,XYYZZ,XXXZI
XZIXZ,IZXII,ZYZXZ,XXYYZ,ZZIXY
ZYYYI,IZXIZ,XIXIZ,IZIXI,YYXYY
XZIXI,YXZXI,YIXYI,IIZXZ,ZIIZX
ZXYIZ,XXZZZ,YZYYZ,XYYII,YXYYY
IXYYI,XYIZI,ZXZZI,IZIXZ,IIZZY
IYXYZ,IIXYZ,YIXYZ,YYXIZ,YYYIY
XIIZI,XXZZI,IXIZZ,IIIZZ,ZIZXY
IXYYZ,ZIYYI,YZXIZ,XYXYZ,IZZXX
YIZZZ,XYZXI,ZXIXZ,YXXYI,ZIIZY
IYYIZ,IIYII,IYIXI,XYYIZ,IZIZY
XIZXZ,ZZYIZ,ZXZZZ,YXYIZ,XYXIX
YZZXI,IIXYI,IYZZZ,ZIZZI,ZZZZY
XIIZZ,ZZXYI,XZYII,XXXIZ,ZZZZX
YZIZZ,YYIXZ,ZYIZZ,XXXII,XXXYX
ZYXII,IZYYI,ZYIZI,ZZZXI,IZZXY
XZZZZ,IZYYZ,XIYYI,YXXYZ,XYYYY
XZZZI,YXIZZ,IYIXZ,ZIIXZ,XXYIX
ZXXYI,ZZYII,XZXYZ,ZZIZI,IZIZX
YZZXZ,YYZZI,XIXII,YXYII,ZIZXX
ZYYYZ,YXZXZ,IYZZI,XYXYI,YXXIX
ZXYII,ZZXYZ,ZXIXI,IZZZI,YYYIX
YZIZI,IIYIZ,YIYII,IIIZI,XYXIY
XIZXI,XXIXZ,YZXII,ZIZZZ,XXXYY
IXXII,XYZXZ,XZYIZ,ZZZXZ,YXXIY
IYYII,YYIXI,XIYYZ,IZZZZ,IIIXX
ZYXIZ,YXIZI,YIYIZ,YYYYI,IIZZX
ZXXYZ,XXIXI,IXZXI,YYXII,IIIXY
IXXIZ,ZIXIZ,IXIZI,YYYYZ,YYXYX
YIIXI,ZIYYZ,IXZXZ,IIZXI,XYYYX
YIZZI,ZIXII,YZYYI,ZIIXI,ZZIXX
YIIXZ,XYIZZ,XZXYI,XXYYI,XXYIY
IYXYI,YYZZZ,ZYZXI,ZZIZZ,YXYYX
"

def basesSixAll : String :=
  "ZZYXZI,IIIIIZ,ZXXZYI,XYZXYI,YZXXZI,ZYXZXI
XXXZXI,XZZYYI,XYYYYI,ZXXYXI,XYZYZI,IIIIIX
YYZYYI,XZZYYZ,YZZXII,YZYZZI,ZXYZII,ZYXZXX
XXXZXZ,YYYXII,IIXZII,XYIZYI,YIYXYI,ZZYXZY
YIIIZI,IXIZII,ZXZZXI,IZIXII,YXXZIZ,ZXXZYY
IZYYZI,ZIYZXI,YIZXZI,IYZZYZ,YZYXXZ,YZYYIX
ZYIYYI,YXYXZI,YXIZXZ,IIIXZZ,ZXXIZI,ZXYIXX
YZIIII,YIXZXZ,YZZXIZ,XYZIXI,YZXYYI,XXIYYX
YYZYYZ,YYYXIZ,ZXIIYI,IIZYII,IZZIXI,IXZYYY
YIIIZZ,ZIXIYI,YZIYZI,YIXIZI,XZIIXZ,IYZYXX
ZYZXXI,YYXYZI,IZYIII,ZIYIZZ,XIIIYI,XYZXYY
YIZZII,IYZIII,XZXIIZ,ZZYIII,IIIZXZ,XYIYXX
IIXXZI,XYIIIZ,XIXIZI,YZYZZZ,IIZIYI,YIYYZX
XIYXZZ,XXIIZI,IIXZIZ,YZXIII,ZYXIII,XIZIIY
XZYXII,IXIZIZ,IIYIZI,XXZIYI,IYIYZZ,IZIIZY
IZYYZZ,IXZIZI,ZYIIXI,YXYYXZ,XXZYIZ,XIIZZY
IZXXII,ZZXIXI,IYXYYZ,ZYXYYZ,IYZXIZ,IIZZZY
ZXZXYI,IZIYYZ,XXYYXZ,YXXXYZ,XYIXIZ,ZYYIYX
IXYZXZ,XIZYXZ,IYYXXZ,ZXYXYZ,YIXYXI,ZIXYZY
XYXZYZ,IZZXXZ,XYXXXZ,IZZYZI,YYYIIZ,XZZIZX
IXXIYZ,XZIXXZ,YIIYII,IXIIYZ,IXIYII,XZIZIX
XXYIYZ,YXXYII,YYZIXZ,YYYYYI,IXZXZI,XIZIIX
YZZZZI,YZYIXZ,IXXYXI,YYXXXI,IYIYZI,ZYXZXY
YXIXYZ,IIIYXI,IXYXYI,YXYYXI,YIYXYZ,IYZYXY
IYYZYI,IIZXYI,IYXYYI,IZIXIZ,XIIIYZ,YZYYIY
IYXIXI,IZIYYI,YIZXZZ,ZZYIIZ,ZXXIZZ,IIZZZX
IXYZXI,YXYXZZ,XIXIZZ,XYZIXZ,XYIXII,IZZZIX
YZIIIZ,XXIIZZ,ZXIIYZ,ZXYXYI,XXIXZI,YYYZXY
XZYXIZ,ZIXIYZ,XYXXXI,ZYYXXI,ZIXXYZ,ZIYXIX
ZYZXXZ,XZIXXI,XXXXYI,XZZXIZ,YYXZZI,YXXIXX
XXYIYI,XIIXYI,ZIIXZZ,IXZZXI,ZZYYYI,YZXXZY
XYYIXI,ZXXXZZ,YYIZYI,XIIYII,ZXYZIZ,IZIIZX
ZZZIIZ,YZXZYI,ZZZYZI,XYIZYZ,XXZYII,YXXIXY
YXZYXI,ZYYYZI,ZXZZXZ,ZYXYYI,ZZYYYZ,XYIYXY
ZIIZII,ZIYZXZ,XXYYXI,XIIYIZ,IIZIYZ,XXZXXX
ZYIYYZ,XIZYXI,ZZZYZZ,YZXIIZ,IZIZYI,IYIXYY
XYXZYI,ZYYYZZ,IIYIZZ,YIYZII,XIZZXZ,YIXXIY
ZIIZIZ,IXZIZZ,IZXZZI,ZZXZZZ,ZYYZZZ,YYXIYY
IZXXIZ,IYIZZI,XIYZIZ,XXIZXZ,ZIYYXZ,ZZXYIX
IIYYII,XXZZIZ,ZYZZYZ,XZIYZZ,YXYIZI,IZZZIY
XZXYZZ,ZZYZYZ,ZIZYIZ,IYIIXI,XXIXZZ,XZZIZY
ZXIYXZ,ZXYYIZ,YXZIYI,ZYYXXZ,IXIYIZ,YYXIYX
ZZIZZZ,YIYIYI,XXXXYZ,YYYYYZ,ZIYYXI,IYIXYX
YYIXXI,XIIXYZ,IXXYXZ,XZIYZI,XIZZXI,XXIYYY
XYYIXZ,IIIYXZ,ZIZYII,ZZXZZI,IZZIXZ,ZIYXIY
IYYZYZ,ZXYYII,XIYZII,YIXIZZ,YYXZZZ,XIIZZX
ZZIZZI,XXZZII,IZYIIZ,IXZZXZ,IYZXII,ZXYIXY
XZXYZI,IYZIIZ,YYIZYZ,YXXXYI,YZXYYZ,YIXXIX
IIXXZZ,YZXZYZ,IYYXXI,IIZYIZ,ZYYZZI,XZIZIY
YXZYXZ,IZZXXI,YZIYZZ,XXIZXI,IXZXZZ,YXYZYX
IXXIYI,YYXYZZ,ZYZZYI,YYXXXZ,ZZXXXI,YIYYZY
YIZZIZ,ZZYZYI,IXYXYZ,XIZXZI,ZYXIIZ,YXYZYY
ZXIYXI,IIZXYZ,ZZIXII,XXZIYZ,ZZXXXZ,XXZXXY
IYXIXZ,ZYXXII,ZYIIXZ,XIZXZZ,IZIZYZ,ZZXYIY
ZIZIZI,ZZXIXZ,ZZIXIZ,YIYZIZ,YXYIZZ,ZYYIYY
ZXZXYZ,ZYXXIZ,IZXZZZ,IYIIXZ,YIXYXZ,IXIXXY
ZIZIZZ,IYIZZZ,YXZIYZ,IZZYZZ,XZZZYZ,IXIXXX
IIYYIZ,YIYIYZ,YIIYIZ,ZIXZIZ,XZZZYI,ZIXYZX
YYIXXZ,YXXYIZ,XZYZZZ,ZIXZII,YYYIII,YYYZXX
YZZZZZ,XYZZZZ,XZYZZI,IXIIYI,ZIXXYI,IXZYYX
XIXYIZ,XYZZZI,YYZIXI,XZZXII,XZIIXI,ZZYXZX
XIXYII,YZYIXI,ZIIXZI,ZIYIZI,YXXZII,IIIIIY
YXIXYI,ZXXXZI,XZXIII,IYZZYI,XYZYZZ,ZXXZYX
ZZZIII,XYIIII,YXIZXI,ZXXYXZ,YZYXXI,XYZXYX
XIYXZI,YIXZXI,XYYYYZ,IIIXZI,IIIZXI,YZXXZX
"

end StabilizerPrep.Bundled
