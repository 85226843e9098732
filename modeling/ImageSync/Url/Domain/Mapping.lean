import ImageSync.Unicode.Packed

/-!
# `ImageSync.Url.Domain.Mapping`: the characters of domain names

A domain name may be typed in many ways. Each character is valid as it is, is dropped, stands
for other characters (as a capital letter does for a small one), or is not allowed.
-/

set_option autoImplicit false

namespace ImageSync.Url.Domain

open ImageSync.Text (CharSet)
open ImageSync.Unicode

/-- The packed table of the characters that are valid as they are, as gaps. -/
def packedValid : String :=
  String.join [
    "0Y0PX4X0600010001312020M06X0000000000000000000000000000000000000000000000000002001000000200000",
    "0010000000000000000000000000000000000000000000001000000010001021301022101000001001001020001206",
    "9000000000000001000000000000000001302000000000000000000000000000000000000000000000000000000000",
    "06101100300000000Z08U514YQ10280V0000000022H0QX27000000000000000000000000020100011XIXF000000000",
    "0000000000000000000000008000000000000000000000000000000000000000000000000000000100000000000010",
    "0000000000000000000000000000000000000000000000000000000000000000000000000000000000000000000000",
    "0X8XD02120XM7Q35GL0YN3Z30XF1XQ1Z4DXQ1XG1E0R100A4U8Y90ZK7X307111L06002318111370731O1205311L0600",
    "10111004311220908G9208020L06010419020210E31B660207111L06010418111262641H9105220321000121222B34",
    "22031050DK4C020M0F18020361021013196L020M09041802036151031902BC020XI02053F1P020H2N0800162035000",
    "75912BXH063SX4100040N000B091400060931VB0XL03030303030B023100460G03030303030B020E0CX4aVXFXB0Z11",
    "d7031600031X8031X0031600031E0XO031Y21V2P5YL9pV0R2YO6L8N8JBC0201BXJ1X719595A495YO6XA4Y59U0B3B30",
    "2X914AXB3P5A2XT1Y00S1A595D1UXGYC2XE0ZJ7XR2E2XIXV77XA4XB20A0H0RC0X1X4XV000000000000000000000000",
    "0000000000000000000000000000000000000000000000000000000000000000000000000000000000000000000000",
    "0000000000000000000000000000000411000000000000000000000000000000000000000000000000000000000000",
    "0000000000000000000000000000000000000875977775977770000000000000XI130E082217203D0K110040B20721",
    "01300072C06Y070NEX0I020A011412000000030A05345XF204013aR101dN1dROAaVXf00Z62Z40aM1V0Z8XFXF002100",
    "0000300105400000000000000000000000000000000000000000000000000000000000000000000000000000000000",
    "00000000000000070003004XC00401XN70DN86060606060606060ZTX1P030YIeD00XI00240YL11110YU5XAYV1DY3BF",
    "Y77XE0hVyaC2XM8gRK00000000000000000000000000000000000000000000I00000000000000000000000000001YP",
    "7X10000000000000200000000000000000000000000000000000000000000000000000000000000070000100000000",
    "3000100020000000000000000000040400000000000000030005000000000R11XI295XN7Y57B5ZJAT2YD0A3X00XM8D",
    "191Z6NR95151586060XB3801YJXD195gz3BM3XGemH1000190000112dJ0aIGhQHZU0XC2VFK1XB0iBB0P0I010E1DX1ZQ",
    "423XC2YN0C20XEXDa1S2XGER3X38T4XA4T0X43DYHZL19XDX33X77XJA0X6A0E0601Y2fM8L97N0ZU5100XB01201M0Y77",
    "8XFI014X02Q40XVXN3J1XH0147020S1239686XVVX63B8XL2S1Q4P63B6YFY8ZMXI6XD79f5U0X90211YAXA7X9LPX5RJM",
    "8YD3X38XT04CO695XK0H7X68YV0JAH0XEXT600030E0A5XQ495307111L0601040911121050461624aAYR04TY779b5XL",
    "1X5X1Y4A95CIXP59XLQ1E3MbOXRa3XIB71017010T011B89Y571XD1AQY77YICY869dL80XC0D9S2V1L0DY86010XB2001",
    "087955010X4010569fLO6G0X82RYL0EXHCyQZ5ZE04Ac3YoBZ2CXXFFLZz9o6ejOnO6U093YG095T159Y599060K4IsFXQ",
    "Z4YA3XO6GXV4A1Db-N7XcLX98et6306010f2E0S210D37iBYe3ZA4C286913aoVXD1M8ZJXRdL9X61XK6D7XV5X9KY5ZPJ",
    "BJBYM8OXa6qBE40EXYFU55cK60G160104Z30ZFXC2D1931fVUGXP40kFX9t5603010E0c41FYAX93931uGY3YBXSjH1eDX",
    "B3Z3BE1E0E0X4K4U0VP2X20SXNPYV5aP+N3G2C2ZM3YU5B30EB3XN795X77T11YDgJBD1C286XD067D38686aI0XMXXKXf",
    "sVVaXP5cT1bq1DdfGbWUawA4aYV"]

/-- The characters that are valid as they are. -/
def validChars : CharSet := .ofGaps (Packed.numbers packedValid)

/-- The packed table of the characters that are dropped, as gaps. -/
def packedDropped : String :=
  "bD0r00ZmE1XoI1YK4X-Q0YJ445adJ0XpaQFdE0aV0XldU3bcE7uhy4dF"

/-- The characters that are dropped. -/
def droppedChars : CharSet := .ofGaps (Packed.numbers packedDropped)

/-- Neighbouring characters that stand for others: for a text each, of which the last
character goes up by one from each of them to the next. -/
structure Replacement where
  start : Nat
  /-- One less than the number of characters. -/
  extra : Nat
  /-- What the first one stands for. -/
  text : List Nat
  deriving DecidableEq, Repr

/-- The replacements of a list of groups: the gap to the one before, the number of further
characters, and the text. -/
def replacementsFrom (next : Nat) : List (List Nat) → List Replacement
  | (gap :: extra :: text) :: r =>
    ⟨next + gap, extra, text⟩ :: replacementsFrom (next + gap + extra + 1) r
  | _ => []

/-- The packed replacements, each after its size. -/
def packedReplacements : String :=
  String.join [
    "3Y1PZ13Y50X0470X0u8310Z1440X0u4321XI400X0u1300zS420X0v7300XH300ZF510XHeY4XK500XHeY4XI500XJeY4X",
    "K31Md0316dO3X10e1310e3310e5310e7310e9310eB310eD310eF310eH310eJ310eL310eN310eP310eR310eT310eV31",
    "0f1310f3310f5310f7310f9310fB310fD310fF410Z9u7410Z9ZA400Z9ZA300fL310fN320fQ310fS310fU410ZCbN400",
    "ZCbN300g2310g4310g6310g8410rSZE300gB310gD310gF310gH310gJ310gL310gN310gP310gR310gT310gV310h1310",
    "h3310h5310h7310h9310hB310hD310hF310hH310hJ310hL310hN310dV300hQ310hS310hU310ZJ310oJ300i3310i531",
    "0oK300i8311oM300iC320kT300oP300oR300iI310p0300p3310p9300p8300iP330pF300pI310pL300j1310j3310j53",
    "10q0300j8310q3320jD310q8300jG311qA300jK310jM310qI300jP330jT470Z4hU400Z4hU400Z4hU400ZCZA400ZCZA",
    "400ZCZA400ZEZA400ZEZA400ZEZA300kE310kG310kI310kK310kM310kO310kQ310kS320kV310l1310l3310l5310l73",
    "10l9310lB310lD310lF420Z4ZQ400Z4ZQ400Z4ZQ300lL310iL300jV300lP310lR310lT310lV310m1310m3310m5310m",
    "7310m9310mB310mD310mF310mH310mJ310mL310mN310mP310mR310mT310mV310iU310n3310n5310n7310n9310nB310",
    "nD310nF310nH310nJ370hZ5300nS310iQ300hZ6320o2310i0300q9300qC300o7310o9310oB310oD310oF3Z10Z8300p",
    "6300ZA300ZI300pP300pR300q1300ZN300ZP4V0X0u6400X0u7400X0uA400X0v8400X0u3400X0uB320p3300ZC300ZJ3",
    "00ZO300qL3YR1u0310uJ400u8u1300zP3XA0xH310xJ310rP310xN430X0zP330XR300-J440X0u1500X0u8u1300zC300",
    "bN302zD310+C311+D31GzH318+33X30+N300zI300zO300+5300+D300+B300+6300+0310+P310+R310+T310+V310-13",
    "10-3310-5310-7310-9310-B310-D310-F310zQ300+1300+3310zO300zL310-O310+3300-R322xR30FXYG30VXXG3XG",
    "0XZ1310XZ3310XZ5310XZ7310XZ9310XZB310XZD310XZF310XZH310XZJ310XZL310XZN310XZP310XZR310XZT310XZV",
    "310Xa1390XaB310XaD310XaF310XaH310XaJ310XaL310XaN310XaP310XaR310XaT310XaV310Xb1310Xb3310Xb5310X",
    "b7310Xb9310XbB310XbD310XbF310XbH310XbJ310XbL310XbN310XbP310XbR310XbT310XbV310XcF300Xc2310Xc431",
    "0Xc6310Xc8310XcA310XcC310XcE320XcH310XcJ310XcL310XcN310XcP310XcR310XcT310XcV310Xd1310Xd3310Xd5",
    "310Xd7310Xd9310XdB310XdD310XdF310XdH310XdJ310XdL310XdN310XdP310XdR310XdT310XdV310Xe1310Xe3310X",
    "e5310Xe7310Xe9310XeB310XeD310XeF310XeH310XeJ310XeL310XeN310XeP310XeR310XeT310XeV310Xf1310Xf331",
    "0Xf5310Xf7310Xf9310XfB310XfD310XfF32X5Xh14XG0Xh5Xi24dD0Xn7XpK400Xo8XpK400Xs7XpK400XoAXpK4sV0Ye",
    "LYfS400YeMYfS400YeNYfS400YeSYfS400Yf1YfS400Yf2YfS400YfBYfS400YfFYfS4ZS0Yj1YjS400Yj2YjS410YjFYj",
    "S4YJ0YnIYnS420YnOYnS4X20YmMYnS400YmNYnS400YmSYnS420YnBYnS4dT0Yv1YvS400Yv2YvS4sL0ZoDZnI4ZV0ZsDZ",
    "rI4X80ZrBZqP400ZrBZr13XE0ZuB4XM0Zw2ZzN490ZwCZzN440ZwHZzN440ZwMZzN440ZwRZzN4C0Zw0ZzL490ZxHZxI41",
    "0ZxHZxK400ZzIZy0500ZzIZxHZy0400ZzJZy0500ZzJZxHZy0470ZxHZy04H0ZyIZzN490ZySZzN440Zz1ZzN440Zz6ZzN",
    "440ZzBZzN4C0ZyGZzL3d6X5he0310hf7350hfD3XE0acS3tR5a-G3Ya20XXI300XXK300XXU301XY1300XY2300XYA300X",
    "Z3300XfoB37XAacG322adT3ZC0Z1300d6300Z2311Z4300kT307Z7310ZF300n3300ZG300ZI301ZK300ZN300Z1301oG3",
    "00de2300Z2301Z4300oP301oR300Z7310ZB300ZD300gB300ZF300oK301deM300ZG301ZK300deT300pF300ZM300df53",
    "02zI301+6300Z9300ZI301ZL301zI300+1301+63D0XXT3X20oI300Z3300oL300dG300oS300Z6300oV300p1300p5302",
    "p8300dhR300qT300pD300di5300qV300pH300pG303pI300pO301q2300jB301q9300deS301qB300ZQ302qG300zO3Y00",
    "dm1310dm3310dm5310dm7310dm9310dmB310dmD310dmF310dmH310dmJ310dmL310dmN310dmP310dmR310dmT310dmV3",
    "10dn1310dn3310dn5310dn7310dn9310dnB310dnD310dnF310dnH310dnJ310dnL310dnN310dnP310dnR310dnT310dn",
    "V310do1310do3310do5310do7310do9310doB310doD310doF310doH310doJ310doL310doN310doP310doR310doT310",
    "doV310dp1310dp3310dp5310dp7310dp9310dpB310dpD310dpF310dpH310dpJ310dpL310dpN310dpP310dpR310dpT3",
    "10dpV310dq1310dq3310dq5310dq7310dq9310dqB310dqD310dqF310dqH310dqJ310dqL450Z1rU300dp1320cV310dr",
    "1310dr3310dr5310dr7310dr9310drB310drD310drF310drH310drJ310drL310drN310drP310drR310drT310drV310",
    "ds1310ds3310ds5310ds7310ds9310dsB310dsD310dsF310dsH310dsJ310dsL310dsN310dsP310dsR310dsT310dsV3",
    "10dt1310dt3310dt5310dt7310dt9310dtB310dtD310dtF310dtH310dtJ310dtL310dtN310dtP310dtR310dtT310dt",
    "V397du0385duG3A7dv0387dvG385dw03B0dwH310dwJ310dwL310dwN387dx0310zC310zD310zE310zF310+C310+D310",
    "+E420du0zP400du1zP400du2zP400du3zP400du4zP400du5zP400du6zP400du7zP400du0zP400du1zP400du2zP400d",
    "u3zP400du4zP400du5zP400du6zP400du7zP400dv0zP400dv1zP400dv2zP400dv3zP400dv4zP400dv5zP400dv6zP40",
    "0dv7zP400dv0zP400dv1zP400dv2zP400dv3zP400dv4zP400dv5zP400dv6zP400dv7zP400dx0zP400dx1zP400dx2zP",
    "400dx3zP400dx4zP400dx5zP400dx6zP400dx7zP400dx0zP400dx1zP400dx2zP400dx3zP400dx4zP400dx5zP400dx6",
    "zP400dx7zP420dxGzP400zHzP400zCzP420dzMzP301dzG300dxG300zC400zHzP400X0uJ300zP400X0uJ400X0w2500X",
    "0u8w2400dxKzP400zNzP400zEzP420d+6zP300dxI300zD300dxK300zE400zNzP500X0uJu0500X0uJu1500X0uJw2330",
    "yG341d+G300dxM300zF510X0uKu0500X0uKu1500X0uKw2330zG341d-0300dxQ300+D300d-5500X0u8u0500X0u8u130",
    "0Z0420dxSzP400+9zP400+EzP420d-MzP300dxO300+C300dxS300+E400+9zP400X0u1400X0uK310X0300X0300X0300",
    "X0300X0300X0300X0300X0300X0300X0300X0360eWG450X0vJ3N0X0430eXIeXI500eXIeXIeXI410eXLeXL500eXLeXL",
    "eXL440X1X1410X0u5480XVXV400XVX1400X1XV6D0eXIeXIeXIeXI370X03G0XG300Z9325XK300XB300emI300XT301X8",
    "300ZE309XG300XB300emI300XT301X8310Z1300Z5300ZF300ZO300oP300Z8303ZB300ZG301ZJ4B0ZIZJ5YN0Z1XFZ35",
    "00Z1XFZJ300Z3400bGZ3510Z3XFZF500Z3XFZL300oR410bGZ6301Z7300Z8300Z8300Z8300f7300Z9300Z9300ZC300Z",
    "C310ZE400ZEZF322ZG300ZI300ZI420ZJZD500ZKZ5ZC400ZKZD310ZQ310+9310ZQ310ZB300d5301Z2310Z5301Z5300",
    "egE300ZD300ZF303XkG300Z9510Z6Z1ZO300+0300zJ300zJ300+0300emH340Z4301Z4301Z9560XHeY4XN500XHeY4XP",
    "600XHeY4XHXG500XHeY4XJ500XIeY4XJ500XHeY4XL500XIeY4XL500XJeY4XL500XKeY4XL500XHeY4XM500XLeY4XM50",
    "0XHeY4XO500XJeY4XO500XLeY4XO500XNeY4XO400XHeY4300Z9400Z9Z9500Z9Z9Z9400Z9ZM300ZM400ZMZ9500ZMZ9Z",
    "9600ZMZ9Z9Z9400Z9ZO300ZO400ZOZ9500ZOZ9Z9300ZC301Z3300ZD300Z9400Z9Z9500Z9Z9Z9400Z9ZM300ZM400ZMZ",
    "9500ZMZ9Z9600ZMZ9Z9Z9400Z9ZO300ZO400ZOZ9500ZOZ9Z9300ZC301Z3300ZD330ei4550XGeY4XJ4b20enBenB500e",
    "nBenBenB410enEenE500enEenEenE3dO1iW83fL8XH400XHXG400XHXH400XHXI400XHXJ400XHXK400XHXL400XHXM400",
    "XHXN400XHXO400XHXP400XIXG500X8XHX9500X8XIX9500X8XJX9500X8XKX9500X8XLX9500X8XMX9500X8XNX9500X8X",
    "OX9500X8XPX9600X8XHXGX9600X8XHXHX9600X8XHXIX9600X8XHXJX9600X8XHXKX9600X8XHXLX9600X8XHXMX9600X8",
    "XHXNX9600X8XHXOX9600X8XHXPX9600X8XIXGX95K0X8Z1X9500X8Z2X9500X8Z3X9500X8Z4X9500X8Z5X9500X8Z6X95",
    "00X8Z7X9500X8Z8X9500X8Z9X9500X8ZAX9500X8ZBX9500X8ZCX9500X8ZDX9500X8ZEX9500X8ZFX9500X8ZGX9500X8",
    "ZHX9500X8ZIX9500X8ZJX9500X8ZKX9500X8ZLX9500X8ZMX9500X8ZNX9500X8ZOX9500X8ZPX9500X8ZQX930PZ130PZ",
    "1300XG6Xf10enBenBenBenB5Z70XQXQXT400XTXT500XTXTXT4Z50gsTvO3f3XFhXG3XG0hZ1310pB300dhT300pT320hZ",
    "8310hZA310hZC310oH300pH300oG300oI310hZJ320hZM360ZA300ZM301nV300ha1310ha3310ha5310ha7310ha9310h",
    "aB310haD310haF310haH310haJ310haL310haN310haP310haR310haT310haV310hb1310hb3310hb5310hb7310hb931",
    "0hbB310hbD310hbF310hbH310hbJ310hbL310hbN310hbP310hbR310hbT310hbV310hc1310hc3310hc5310hc7310hc9",
    "310hcB310hcD310hcF310hcH310hcJ310hcL310hcN310hcP310hcR310hcT310hcV310hd1310hd3380hdC310hdE340h",
    "dJ3ZS0hh13fF0w+D3YJ0XdyV3C0pm0300pn8300pnM300pnV300poP300pq5300pqC300pr0300prQ300qfV300qh5300q",
    "hB300qi2300qiM300qjB300ql0300qlL300qm0300qqR300qtP300quL300quQ300qvO300qw1300qwS300qx9300qy230",
    "0qzM300q+8300q-3300rsN300ruV300sdB300se2300seA300seL300sf7300shJ300swG300sy0300s-O300tWF300tX2",
    "300tXO300tZE300tZH300tkR300tl5300tlH300tlU300tpI300tpQ300tpV300ttK300ttU300tuB300tuJ300twG300t",
    "x1300txJ300t+3300um8300unM300uoB300vfF300vfK300vi7300viN300vj4300vjP300vl0300vl5300vtG300vu830",
    "0vv8300wv0300wx2300wxP300wzJ300w+B300w+K300w+R300xWF300xWK300xXK300yZB300ynA300ynM300ynR300ynV",
    "300yo7300yoP300yoR300yrC300yy4300yy9300zcS300zd6300zeO300zeV300zf8300zfG300ziB300ziI300zpM300z",
    "pT300zrE300zrV300ztE300z+R300z-2300z-J300+fQ300+jO300+jU300+pK300+sB300+tP300-ZJ300-dO300-vM30",
    "0-wH300-yA300-zT300XWW1300XWWC300XWWI300XWXJ300XWZV300XWa9300XWl3300XWlA300XWlJ300XWlS300XWmC3",
    "00XWmR300XWmV300XWpE300XWpI300XWpO300XXoD300XXpB300XYY0300XYYC300XYZ3300XYhU300XYiB300XYkI300X",
    "Ym0300XZXN300XZY6300XZYL300XZZO300XZaT300XZh4300XZhG300XZjJ300XZrB300XZsA300XZyR300XZzG300XZzL",
    "300XaaH300Xag9300Xak6300XakC300XakH300XbhN300Xbi0300XbmS300XbrM300XbrP300Xbt8300XbwH300XbwU300",
    "Xbx2300Xbx9300Xb+B300Xb-D300Xb-J300XcW1300Xcb8300XccR300XccV300XciM300XciP300XcjC300Xcr8300Xcs",
    "O300XcsV300Xcv5300XcvF300XcvI300XcvS300XcwQ300Xdd5300XdpL300XdpV300Xdr5300XdrR300Xds3300XdsD30",
    "0XdsH300XdtP300XdtT300XduE300XduJ300Xdv0300XdvR300XdwA300XdwI300XdyD300XdyS300Xdz03XA0X0310XE3",
    "XJ0iWI310qw1301qw44Z00X0iaP400X0iaQ420ia8iaA4YV0ibJic83XH1ae0300ajA300ae2301ajC302ae3305ajG300",
    "aeQ302ae6300af1309ae930Kah1311aeK301ak7300akC300akE300akJ300akN300akP300aeS300akT300akV301aeT3",
    "00af0301af2300af7300af9304afB300afI300afM300ag0300ag7300agC301alH302agN301ai4300ai8301aiH300ai",
    "K300aiU300aj1330pm0300pqC300pm9300rsR300pmA300pnD300pmB300zfI300poP300pmP300pm1300sf9300rvG300",
    "prQ5Z00X8ae0X9500X8ae2X9500X8ae3X9500X8ae5X9500X8ae6X9500X8ae7X9500X8ae9X9500X8aeBX9500X8aeCX9",
    "500X8aeEX9500X8aeFX9500X8aeGX9500X8aeHX9500X8aeIX9500X8XhW0X9500X8XiaOX9500X8Xit4X9500X8XjxSX9",
    "500X8Xkk8X9500X8XlWKX9500X8XmbCX9500X8Xng4X9500X8XnyGX9500X8XpX8X9500X8XppKX9500X8Xqc0X9500X8X",
    "quCX9500X8XrgOX9500X8XodSX9600X8Xnn4XoW4X9600X8Xnn4Xrs4X9510X8pm0X9500X8pqCX9500X8pm9X9500X8rs",
    "RX9500X8pqKX9500X8qhDX9500X8pm3X9500X8qhBX9500X8poTX9500X8qw1X9500X8vu8X9500X8yZBX9500X8xXKX95",
    "00X8vv8X9500X8XakHX9500X8ruVX9500X8vl5X9500X8wXAX9500X8vu9X9500X8+fUX9500X8rWDX9500X8ypPX9500X",
    "8XZb1X9500X8+gTX9500X8qrKX9500X8pt3X9500X8rZSX9500X8sx6X9500X8zt3X9500X8pu1X9500X8XZc7X9500X8q",
    "wKX9500X8+hDX9500X8puHX9500X8XWlAX9500X8XWlJX9300rgF300tpS300vi7300+yF580ZGZKZ5400XIXH400XIXI4",
    "00XIXJ400XIXK400XIXL400XIXM400XIXN400XIXO400XIXP400XJXG400XJXH400XJXI400XJXJ400XJXK400XJXL300a",
    "e0301ae2302ae5300ae9301aeB304aeE300XhW0300XiaO300Xit4300XjxS300Xkk8300XlWK300XmbC300Xng4300Xny",
    "G300XpX8300XppK300Xqc0300XquC300XrgO400XpXOXhd0400XodSXnwO300XnrG310pm0300pqC300pm9300rsR300pq",
    "K300qhD300pm3300qhB300poT300qw1300vu8300yZB300xXK300vv8300XakH300ruV300vl5300wXA300vu9300+fU30",
    "0rWD300ypP300XZb1300+gT300qrK300+kO300zfN300shJ300XaZ9300qfA300qxG300xd8300XcW5300puH300qiP300",
    "wx3300pmA300pnD300pmB300tl6300q-J300qvR300syN300sx6300zt3300pu1300XZc7300qwK300seS400XJXM400XJ",
    "XN400XJXO400XJXP400XKXG400XKXH400XKXI400XKXJ400XKXK400XKXL400XKXM400XKXN400XKXO400XKXP400XLXG4",
    "00XHvu8400XIvu8400XJvu8400XKvu8400XLvu8400XMvu8400XNvu8400XOvu8400XPvu8500XHXGvu8500XHXHvu8500",
    "XHXIvu8400Z8Z7500Z5ZIZ7400Z5ZM500ZCZKZ4300ib2300ib4300ib6300ib8301ibA300ibD300ibF300ibH300ibJ3",
    "00ibL300ibN300ibP300ibR300ibT300ibV300ic1300ic4300ic6300ic8305icA300icI300icL300icO300icR304ic",
    "U300id4300id6305id8303idF400pt4raC600ib2icHidSic8600ib2idBicLib1600ib2idJicQib2500ib2idSidB600",
    "ib4icBidJibG500ib4idJic1500ib6ib9idJ700ib8ibPibFidSic9600ib8idSibBidS500ibAidJibP500ibAidSid05",
    "00ibBib4idA600ibBid9ic3ic8600ibBidDidAidS500ibCidDidJ500ibCidJicU400ibEibC500ibEicBidS600ibDid",
    "5idAidS600ibEidBic0idS400ibDidD700ibDidDibGid9id0800ibDidDid1idSic8idB700ibDidDidFic3ic8500ibG",
    "id9id0700ibGid9id0ic8idJ700ibFidBibSib4idD600ibFidDidSicD500ibHidSibP500ibJidBicA500ibJidSicT6",
    "00ibLib4ibFidB700ibLidJic1idSid0600ibNidAidJibG500ibRidJic1500ibRidJic8500ic0idSibP400ic7ibN40",
    "0ic9idB400ic8idJ400icAicE500icEic3ic8500icFib4ic4700icHidSibRidJic8500icHidSic4600icGidSidCidB",
    "700icKib2ibPic8idB500icKibFidB400icKibJ400icJidB700icLib1id9ic3ic9600icLib3idSic8700icMic3ibNi",
    "b7idB500icLid9idJ700icOibFibVidSidB400icQibT500icQicBicI500icOidBic4500icQidJibP500icQidSibO50",
    "0icPidSibV600icTib4idJic8500icSidBic8400icRidJ500icTidJic9500icRidSidB500icRidSidJ600icUib4ibF",
    "idD500icUib4idB500icUic3icF500icUidBibF700icUidJibNid7idJ600icVibFidDidJ400icVidA700icVidAicGi",
    "dSidB400id1ibC600id1ibCic8idJ600id1idSic8idB500id4idSic9500id4idSidB500id6ib2idJ600idAic3ic8id",
    "B400idAid9500idBicKidS600idBidSicMidB400idCid0700idCidJic8ibIidJ500idFic3ic8400XGybP400XHybP40",
    "0XIybP400XJybP400XKybP400XLybP400XMybP400XNybP400XOybP400XPybP500XHXGybP500XHXHybP500XHXIybP50",
    "0XHXJybP500XHXKybP500XHXLybP500XHXMybP500XHXNybP500XHXOybP500XHXPybP500XIXGybP500XIXHybP500XIX",
    "IybP500XIXJybP500XIXKybP500Z8ZGZ1400Z4Z1400Z1ZL500Z2Z1ZI400ZFZM400ZGZ3400Z4ZD500Z4ZDXI500Z4ZDX",
    "J400Z9ZL400tpJumG400vnDraC400sf7wx3400vmExbR600wXAtuFpuQ+fU400ZGZ1400ZEZ1400zSZ1400ZDZ1400ZBZ1",
    "400ZBZ2400ZDZ2400Z7Z2500Z3Z1ZC600ZBZ3Z1ZC400ZGZ6400ZEZ6400zSZ6400zSZ7400ZDZ7400ZBZ7400Z8ZQ500Z",
    "BZ8ZQ500ZDZ8ZQ500Z7Z8ZQ500ZKZ8ZQ400zSZC400ZDZC400Z4ZC400ZBZC400Z6ZD400ZEZD400zSZD400ZDZD400Z3Z",
    "D400ZBZD500ZDZDXI500Z3ZDXI400ZDXI500ZBZDXI500ZDZDXJ500Z3ZDXJ400ZDXJ500ZBZDXJ500ZDemLZJ600ZDemL",
    "ZJXI400ZGZ1500ZBZGZ1500ZDZGZ1500Z7ZGZ1500ZIZ1Z4700ZIZ1Z4emLZJ800ZIZ1Z4emLZJXI400ZGZJ400ZEZJ400",
    "zSZJ400ZDZJ400ZGZM400ZEZM400zSZM400ZDZM400ZBZM400ZDZM400ZGZN400ZEZN400zSZN400ZDZN400ZBZN400ZDZ",
    "N400ZB+9400ZD+9410Z2ZH400Z3Z3400Z3Z4600Z3emLZBZ7410Z4Z2400Z7ZP400Z8Z1400Z8ZG400Z9ZE400ZBZB400Z",
    "BZD400ZBZK400ZCZD400ZCZE500ZCZFZ7400ZCZO400ZDZ2500ZDZ9ZC500ZDZFZC400ZGZ8510ZGZGZD400ZGZI400ZJZ",
    "I400ZJZM400ZNZ2500ZMemLZD500Z1emLZD400XHvl5400XIvl5400XJvl5400XKvl5400XLvl5400XMvl5400XNvl5400",
    "XOvl5400XPvl5500XHXGvl5500XHXHvl5500XHXIvl5500XHXJvl5500XHXKvl5500XHXLvl5500XHXMvl5500XHXNvl55",
    "00XHXOvl5500XHXPvl5500XIXGvl5500XIXHvl5500XIXIvl5500XIXJvl5500XIXKvl5500XIXLvl5500XIXMvl5500XI",
    "XNvl5500XIXOvl5500XIXPvl5500XJXGvl5500XJXHvl5500Z7Z1ZC3yo00Xfo1310Xfo3310Xfo5310Xfo7310Xfo9310",
    "XfoB310XfoD310XfoF310XfoH310XfoJ310XfoL310XfoN310XfoP310XfoR310XfoT310XfoV310Xfp1310Xfp3310Xfp",
    "5310Xfp7310Xfp9310XfpB310XfpD3J0Xfq1310Xfq3310Xfq5310Xfq7310Xfq9310XfqB310XfqD310XfqF310XfqH31",
    "0XfqJ310XfqL310XfqN310XfqP310XfqR310XYA300XYC3a40Xfv3310Xfv5310Xfv7310Xfv9310XfvB310XfvD310Xfv",
    "F330XfvJ310XfvL310XfvN310XfvP310XfvR310XfvT310XfvV310Xfw1310Xfw3310Xfw5310Xfw7310Xfw9310XfwB31",
    "0XfwD310XfwF310XfwH310XfwJ310XfwL310XfwN310XfwP310XfwR310XfwT310XfwV310Xfx1310Xfx3310Xfx5310Xf",
    "x7310Xfx9310XfxB310XfxD310XfxF310XfxF380XfxQ310XfxS310dhP300XfxV310Xfy1310Xfy3310Xfy5310Xfy734",
    "0XfyC310p5320XfyH310XfyJ330XfyN310XfyP310XfyR310XfyT310XfyV310Xfz1310Xfz3310Xfz5310Xfz7310Xfz9",
    "310p6300oS300p1300pC300pA310qU300q7300qT300XgwJ300XfzL310XfzN310XfzP310XfzR310XfzT310XfzV310Xf",
    "+1310Xf+3310XfyK300q2300diE300Xf+8310Xf+A360Xf+H350Xf+N310Xf+P3P0Z3300Z6300ZH300Xf-M320f7300gJ",
    "3x20Xfv7300XgvN300pB300XgwI390qD36YFaz03pg00XZY8300vtK300XZsA300XZc8300xsH300pnI300q-5300XdyS3",
    "00XdyS300sgH300XakH300ri7300sg8300ulM300zp9300-y5300XXnV300XXzQ300XYdO300XaaF300wm2300xeR300yc",
    "P300y+U300XXXT300XahA300XclH300pq2300qxL300wu4300ymR300XXnD300XdmU300tgG300x-B300XXkD300XYh430",
    "0us9300XWkO300XYWV300tsA300vuN300xhA300ytS300XacE300py6300qjN300qsU300vc4300wsJ300ymG300zt7300",
    "XWW1300XXm6300XXoS300XZlF300XbvI300XcxF300XdlQ300+aC300+hV300-j0300XW+9300Xau4300XdpV300XYsM30",
    "0scV300tu4300-Z0300XWZU300yp2300+cA300XZc2300XbtN300scO300tZ2300wmJ300xkQ300xuF300-fF300-nN300",
    "XboB300qsI300XWaB300qkS300qkC300+mS300-jU300XW-H300XbpL300XYy0300usF300wm2300XYtU300pnP300s-73",
    "00uWI300yy7300zhG300quN300+dR300pzV300tz9300pmD300xcC300vhO300-f2300q+3300sYU300zu1300XXY9300X",
    "YrA300wzQ300XZzG300xa8300utU300XWt5300uz0300zh5300prE300qh9300qk9300wa1300-d7300XWpF300XYsI300",
    "XakF300qtL300rY2300shJ300ttC300vk5300x-U300+fA300XbjD300XcpA300XdqN300XdsE300qqR300vs6300wxN30",
    "0XZx2300tpK300uiG300um0300vaQ300xv3300yg9300za9300+kA300-lK300XWZF300XZv6300XXdE300XaX3300XawA",
    "300qmN300qr3300rbT300yc8300XYc2300XYrA300ts9300t-L300uxR300wzE300-XU300yxL300pt4300rtP300s-730",
    "0tjQ300uWS300yzI300zZ9300-yQ300XWY6300XanK300XbtM300Xbw8300XcWO300pyB300+jE300XajK300XbrO300ud",
    "1300pq6300qcQ300s-E300tXV300viP300wm2300ykE300zo2300XXdS300XaZS300XdyD300vq8300XbnE300qq9300vx",
    "R300v-J300xg1300xqS300zW9300zgP300+ZB300-eG300XcYU300qhD300unE300XbpO300qXB300teP300xlA300XZvA",
    "300tyB300ug4300wWN300yy7300Xbq6300qn9300rWF300tZ5300vmJ300vwE300wb8300xd5300zW6300zl2300-xP300",
    "XYcF300XYd1300XakC300Xbt2300qvV300xrQ300rWT300ykG300zaO300XXlQ300Xbr3300XdYN300XdqV300vyN300xk",
    "B300XWl8300+sB300+v0300-aI300ys0300yaP300XYwO300ps0300XWvM300qnQ300qm7300tr6300usJ300-cM300sy5",
    "300xeU300vrK300XZvR300XYYC300XboD300XYiB300tsJ300qg0300rk0320sYQ310vpK320qkU300yvA300zsA300+fS",
    "300+gU300+h5300+iF300XbwM300-bU300-zT310XXmI310XYtO320XaXO300XadT330XcdF300XcdS300Xcf8300XdjK3",
    "00XacU300XbrN300pzE300qd7300qgD300qs9300qt4300qwH300riT300rm6300rp8300sY0300sb8300tZ4300tZE300",
    "uaK300uh8300uiE300ulI300vgF300vl2300vqH300wa5300xhN300xmQ300xv2300yhE300ynB300zX2300+aH300+fU3",
    "00+g9300+g8300+gG300+gM300+gT301+iD300+o0300+q1300++0300-lK300-m9300-o1300-xI300XWW5300XWlD300",
    "XWpP300XWpP300XXYN300XYeG300XYiM300XYu1300XYvP300XZcJ300XZe8300XZzM300XaXO300Xbt3300Xb-V300XcX",
    "R300uZL300amtE300XWmO320pn6300qjL300qh8300py0300qg5300qi0300qs7300qtQ300riT300rgL300riP300rl23",
    "00sYQ300sbJ300sg4300sgK300sp2300sv8300tsI300tsP300tx9300tzD300ucO300ugE300ue8300uiE300uh0300ul",
    "I300unK300u+4300vWS300vYI300vgM300vpK300vuN300vuR300vwM300wxP300wzQ300xg1300xsR300xsB300xv2300",
    "yWU300yhE300zz7300ynL300yrF300yvA300zZH300ze6300zfR300zmT300zmV300zsA300zsR300ztK300zwA300zw03",
    "00+cC300+rH300++0300-ZR300-gR300-lK300-vU300XWW5300XWwI300XW-F300XXxP300XYg1300XYi6300XYiM300X",
    "YrV300XYtO300XYsB300XYu1300XYtU300XYtD300XYvP300XYyA300XZe8300XZvO300XaZI300XaiP300XapM300XbpS",
    "300Xbt3300XbwM300Xb+R300Xb-V300XcWB300XcXR300XcuI300XdyS300agYA300agY4300ai+L300kyT300mWO300mX",
    "P300aqo9300atcG300a-sJ300Xdw3300XdyE4X60Z6Z6400Z6Z9400Z6ZC500Z6Z6Z9500Z6Z6ZC400ZJZK400ZJZK4C0X",
    "hKXhM400XhKXh5400XhKXhB400XhUXhM400XhKXhD450XkPXjK410XlIXjN300Xl2300XkG301XkJ302XkR300Xl8300Xl",
    "A300XB400Xl9Xk1400Xl9Xk2500Xl9XjSXk1500Xl9XjSXk2400XkGXjN400XkGXjO400XkGXjS400XkHXjS400XkIXjS4",
    "00XkJXjS400XkKXjS400XkLXjS400XkMXjS410XkOXjS400XkPXjS400XkQXjS400XkRXjS400XkSXjS410XkUXjS410Xl",
    "0XjS400Xl1XjS410Xl3XjS400Xl4XjS410Xl6XjS400Xl7XjS400Xl8XjS400Xl9XjS400XlAXjS400XkLXjP400XkHXjV",
    "400XkRXjV400Xl4XjV400XkGXkS300XpH300XpH300XpR300XpR300XpR300XpR300XpU300XpU300XpU300XpU300Xq03",
    "00Xq0300Xq0300Xq0300XpQ300XpQ300XpQ300XpQ300XpV300XpV300XpV300XpV300XpP300XpP300XpP300XpP300Xr",
    "4300Xr4300Xr4300Xr4300Xr6300Xr6300Xr6300Xr6300Xq4300Xq4300Xq4300Xq4300Xq3300Xq3300Xq3300Xq3300",
    "Xq6300Xq6300Xq6301Xq6300Xq7300Xq7300Xq7300XqD300XqD300XqC300XqC300XqE300XqE300Xq8300Xq8300XqO3",
    "00XqO300XqH300XqH300Xr9300Xr9300Xr9300Xr9300XrF300XrF300XrF300XrF300XrJ300XrJ300XrJ300XrJ300Xr",
    "H300XrH300XrH300XrH300XrQ301XrQ300XrR300XrR300XrR300Xs0301Xs0300Xs1300Xs1300Xs1300XrU300XrU300",
    "XrU300XrU300XsI301XsI300XsJ3X10XrD300XrD300XrD300XrD300Xs7300Xs7300Xs6300Xs6300Xs8300Xs8400Xs7",
    "XpK300XsB300XsB300Xs5300Xs5300Xs9300Xs9300XsG300XsG300XsG300XsG300Xo9300Xo9400Xn6Xn7400Xn6Xn74",
    "00Xn6XsL400Xn6XsL400Xn6Xo8400Xn6Xo8400Xn6Xs7400Xn6Xs7400Xn6Xs6400Xn6Xs6400Xn6Xs8400Xn6Xs8400Xn",
    "6XsG400Xn6XsG400Xn6XsG400Xn6Xo9400Xn6Xo9400Xn6Xo9300XsC300XsC300XsC300XsC400Xn6XnC400Xn6XnD400",
    "Xn6Xo5400Xn6Xo9400Xn6XoA400Xn8XnC400Xn8XnD400Xn8XnE400Xn8Xo5400Xn8Xo9400Xn8XoA400XnAXnC400XnAX",
    "nD400XnAXnE400XnAXo5400XnAXo9400XnAXoA400XnBXnC400XnBXo5400XnBXo9400XnBXoA400XnCXnD400XnCXo540",
    "0XnDXnC400XnDXo5400XnEXnC400XnEXnD400XnEXo5400XnJXnC400XnJXnD400XnJXnE400XnJXo5400XnLXnD400XnL",
    "Xo5400XnMXnC400XnMXnD400XnMXnE400XnMXo5400XnNXnD400XnNXo5400XnOXo5400XnPXnC400XnPXo5400XnQXnC4",
    "00XnQXo5400Xo1XnC400Xo1XnD400Xo1XnE400Xo1Xo5400Xo1Xo9400Xo1XoA400Xo2XnD400Xo2Xo5400Xo2Xo9400Xo",
    "2XoA400Xo3Xn7400Xo3XnC400Xo3XnD400Xo3XnE400Xo3Xo4400Xo3Xo5400Xo3Xo9400Xo3XoA400Xo4XnC400Xo4XnD",
    "400Xo4XnE400Xo4Xo5400Xo4Xo9400Xo4XoA400Xo5XnC400Xo5XnD400Xo5XnE400Xo5Xo5400Xo5Xo9400Xo5XoA400X",
    "o6XnC400Xo6XnD400Xo6XnE400Xo6Xo5400Xo6Xo9400Xo6XoA400Xo7XnC400Xo7Xo5400Xo7Xo9400Xo7XoA400XoAXn",
    "C400XoAXnD400XoAXnE400XoAXo5400XoAXo9400XoAXoA400XnGXpG400XnHXpG400Xo9XpG500X0XoCXoH500X0XoDXo",
    "H500X0XoEXoH500X0XoFXoH500X0XoGXoH500X0XoHXpG400Xn6XnH400Xn6XnI400Xn6Xo5400Xn6Xo6400Xn6Xo9400X",
    "n6XoA400Xn8XnH400Xn8XnI400Xn8Xo5400Xn8Xo6400Xn8Xo9400Xn8XoA400XnAXnH400XnAXnI400XnAXo5400XnAXo",
    "6400XnAXo9400XnAXoA400XnBXnH400XnBXnI400XnBXo5400XnBXo6400XnBXo9400XnBXoA400Xo1Xo9400Xo1XoA400",
    "Xo2Xo9400Xo2XoA400Xo3Xn7400Xo3Xo4400Xo3Xo5400Xo3Xo9400Xo3XoA400Xo4Xo5400Xo4Xo9400Xo4XoA400Xo5X",
    "n7400Xo5Xo5400Xo6XnH400Xo6XnI400Xo6Xo5400Xo6Xo6400Xo6Xo9400Xo6XoA400Xo9XpG400XoAXnH400XoAXnI40",
    "0XoAXo5400XoAXo6400XoAXo9400XoAXoA400Xn6XnC400Xn6XnD400Xn6XnE400Xn6Xo5400Xn6Xo7400Xn8XnC400Xn8",
    "XnD400Xn8XnE400Xn8Xo5400Xn8Xo7400XnAXnC400XnAXnD400XnAXnE400XnAXo5400XnAXo7400XnBXo5400XnCXnD4",
    "00XnCXo5400XnDXnC400XnDXo5400XnEXnC400XnEXo5400XnJXnC400XnJXnD400XnJXnE400XnJXo5400XnLXnD400Xn",
    "LXnE400XnLXo5400XnMXnC400XnMXnD400XnMXnE400XnMXo5400XnNXnD400XnOXo5400XnPXnC400XnPXo5400XnQXnC",
    "400XnQXo5400Xo1XnC400Xo1XnD400Xo1XnE400Xo1Xo5400Xo2XnD400Xo2Xo5400Xo3XnC400Xo3XnD400Xo3XnE400X",
    "o3Xo4400Xo3Xo5400Xo4XnC400Xo4XnD400Xo4XnE400Xo4Xo5400Xo4Xo7400Xo5XnC400Xo5XnD400Xo5XnE400Xo5Xo",
    "5400Xo6XnC400Xo6XnD400Xo6XnE400Xo6Xo5400Xo6Xo7400Xo7XnC400Xo7Xo5400Xo7XpG400XoAXnC400XoAXnD400",
    "XoAXnE400XoAXo5400XoAXo7400Xn6Xo5400Xn6Xo7400Xn8Xo5400Xn8Xo7400XnAXo5400XnAXo7400XnBXo5400XnBX",
    "o7400XnJXo5400XnJXo7400XnKXo5400XnKXo7400Xo3Xo4400Xo3Xo5400Xo4Xo5400Xo6Xo5400Xo6Xo7400XoAXo540",
    "0XoAXo7500Xo0XoEXoH500Xo0XoFXoH500Xo0XoGXoH400XnNXo9400XnNXoA400XnPXo9400XnPXoA400XnQXo9400XnQ",
    "XoA400XnJXo9400XnJXoA400XnKXo9400XnKXoA400XnDXo9400XnDXoA400XnCXo9400XnCXoA400XnEXo9400XnEXoA4",
    "00XnLXo9400XnLXoA400XnMXo9400XnMXoA400XnKXnC400XnKXnD400XnKXnE400XnKXo5400XnKXnH400XnJXnH400Xn",
    "LXnH400XnMXnH400XnNXo9400XnNXoA400XnPXo9400XnPXoA400XnQXo9400XnQXoA400XnJXo9400XnJXoA400XnKXo9",
    "400XnKXoA400XnDXo9400XnDXoA400XnCXo9400XnCXoA400XnEXo9400XnEXoA400XnLXo9400XnLXoA400XnMXo9400X",
    "nMXoA400XnKXnC400XnKXnD400XnKXnE400XnKXo5400XnKXnH400XnJXnH400XnLXnH400XnMXnH400XnKXnC400XnKXn",
    "D400XnKXnE400XnKXo5400XnJXo7400XnKXo7400XnNXo5400XnJXnC400XnJXnD400XnJXnE400XnKXnC400XnKXnD400",
    "XnKXnE400XnNXo5400XnOXo5400Xn7XoB400Xn7XoB5I0XnAXnCXo5500XnAXnDXnC500XnAXnDXnC500XnAXnDXo5500X",
    "nAXnEXo5500XnAXo5XnC500XnAXo5XnD500XnAXo5XnE500XnCXo5XnD500XnCXo5XnD500XnDXo5XoA500XnDXo5Xo950",
    "0XnJXnDXnC500XnJXnCXnD500XnJXnCXo9500XnJXo5XnD500XnJXo5XnD500XnJXo5XnC500XnJXo5Xo5500XnJXo5Xo5",
    "500XnLXnDXnD500XnLXnDXnD500XnLXo5Xo5500XnKXnDXo5500XnKXnDXo5500XnKXnCXoA500XnKXo5XnE500XnKXo5X",
    "nE500XnKXo5Xo5500XnKXo5Xo5500XnMXnDXo9500XnMXnEXo5500XnMXnEXo5500XnNXo5XnD500XnNXo5XnD500XnNXo",
    "5Xo5500XnNXo5XoA500XnPXnCXo5500XnPXo5Xo5500XnPXo5Xo5500XnPXo5Xo9500XnQXo5Xo5500XnQXo5XoA500XnQ",
    "Xo5Xo9500Xo1XnEXo5500Xo1XnEXo5500Xo2Xo5XnD500Xo2Xo5Xo5500Xo4XnDXo5500Xo4XnDXoA500Xo4XnDXo9500X",
    "o4XnCXnC500Xo4XnCXnC500Xo4XnEXo5500Xo4XnEXo5500Xo4Xo5XnD500Xo4Xo5XnD500Xo5XnDXnC500Xo5XnDXo550",
    "0Xo5XnDXoA500Xo5XnCXnD500Xo5XnCXo5500Xo5XnEXnC500Xo5XnEXo5520Xo5XnCXnE500Xo7Xo5XnC500Xo7Xo5Xo5",
    "500Xo6XnDXo5500Xo6XnDXo9500Xo6XnCXo5500Xo6XnCXo5500Xo6XnCXo9500Xo6Xo5XoA500Xo6Xo5Xo9500XoAXo5X",
    "o5500XoAXo5Xo5500Xn8XnEXoA500XnAXnCXoA500XnAXnCXo9500XnAXnEXoA500XnAXnEXo9500XnAXo5XoA500XnAXo",
    "5Xo9500XnCXo5XoA500XnCXnDXo9500XnCXo5Xo9500XnJXnEXo9500XnLXnDXoA500XnKXnDXoA500XnMXnDXoA500Xo4",
    "XnCXoA500Xo4Xo5XoA500XoAXnDXoA500XoAXnCXoA500XoAXo5XoA500Xo5Xo5XoA500Xo2Xo5XoA500Xo6XnDXoA500X",
    "o2Xo5XnD500Xo4XnDXo5500XnPXo5XoA500Xo3Xo5XoA500Xo6XnCXnD500Xo5XnEXoA500Xo4XnCXo5500Xo3Xo5Xo550",
    "0Xo4XnCXo5500Xo6XnCXnD500XnCXnDXoA500XnDXnCXoA500Xo5XnCXoA500Xo1Xo5XoA500Xn8XnDXoA500Xo3Xo5Xo5",
    "500XnPXnCXo5500XnLXo5Xo5500XnJXnEXoA500Xo6XnCXoA5X80XnLXo4XsI500Xo2Xo4XsI600Xn7Xo4Xo4Xo7600Xn7",
    "Xo3Xn8XnH600Xo5XnDXo5XnF600XnLXo4XnPXo5600XnHXnJXo8Xo4600XnPXo4XoAXo7600Xo8XnJXo4Xo5500XnLXo4X",
    "o9K00XnLXo4Xo9X0Xn7Xo4Xo4Xo7X0XnPXo4XoAXo7X0Xo8XnJXo4Xo5A00XnCXo4X0XnCXo4Xn7Xo4Xo7600XnHXsCXn7",
    "Xo43J0XC300iW1311XQ300X1300XV301iWM3O0eWK300eWJ300YV300YV301X8300ZR300ZT301iWK301iWG301iWA301i",
    "W8303iWC320YR300YT400X0u5400X0u5400X0u5400X0u5300YV300YV300YV300XC300iW1320XR300XQ300XV300X130",
    "0eWK301X8300ZR300ZT301iWK300X3300X6301XA300XD300XS300XU300XT310YS301X4300Y0440X0XoB400Xo0XoB40",
    "0X0XoC410X0XoD410X0XoE400Xo0XoE400X0XoF400Xo0XoF400X0XoG400Xo0XoG400X0XoH400Xo0XoH400X0XoI400X",
    "o0XoI301Xn1301Xn2301Xn3301Xn4301Xn5300Xn6300Xn6301Xn6301Xn7300Xn8300Xn8301Xn8301Xn9300XnA300Xn",
    "A301XnA300XnB300XnB301XnB300XnC300XnC301XnC300XnD300XnD301XnD300XnE300XnE301XnE301XnF301XnG301",
    "XnH301XnI300XnJ300XnJ301XnJ300XnK300XnK301XnK300XnL300XnL301XnL300XnM300XnM301XnM300XnN300XnN3",
    "01XnN300XnO300XnO301XnO300XnP300XnP301XnP300XnQ300XnQ300XnQ300Xo1300Xo1300Xo1301Xo1300Xo2300Xo",
    "2301Xo2300Xo3300Xo3301Xo3300Xo4300Xo4301Xo4300Xo5300Xo5301Xo5300Xo6300Xo6301Xo6300Xo7300Xo7301",
    "Xo7301Xo8301Xo9300XoA300XoA300XoA400Xo4Xn2400Xo4Xn2400Xo4Xn3400Xo4Xn3400Xo4Xn5400Xo4Xn5400Xo4X",
    "n7400Xo4Xn734VX130PZ130X3YR301gi5300XE301iWC300iW1300idR300idI300ib1300ib3300ib5300ib7300ib930",
    "0id3300id5300id7300ic3300idS300ib2300ib4300ib6300ib8301ibA300ibD300ibF300ibH300ibJ300ibL300ibN",
    "300ibP300ibR300ibT300ibV300ic1300ic4300ic6300ic8305icA300icI300icL300icO300icR304icU300id4300i",
    "d6305id8300idF300idJ301iaP311ae0300ajA300ae2301ajC302ae3305ajG300aeQ302ae6300af1309ae9335ah132",
    "5ah7325ahD322ahJ331b2300bC400X0u4300b6300b5300eb9310fe2303eiG300fj0300fkB3XWHX7YXX83a8X3YXcO3a",
    "SAYXiN31EYXj3316YXjJ311YXjR3lB1sG300d6300qP300oJ310r3300Xgx6300r5300r4301oM300diH300oO300oU300",
    "r9300p4300p2300p0300qR300f7300qS300p7300q4301rA300pC300Ztu4300XfyE300pE300Ztu5300qE300Ztu6300d",
    "O301pM300ZH300pQ300Ztu8301pT300q0300r8300r6300Xgx7300r7300q8300hZH310qF301r1300qO302k0300ZtuA3",
    "00ZtuU3Xc5XIYZc03Y-DVYcc03ri0VYxp04utU0ZqgNZqh5400ZqgOZqh5500ZqgOZqh5ZqhE500ZqgOZqh5ZqhF500Zqg",
    "OZqh5ZqhG500ZqgOZqh5ZqhH500ZqgOZqh5ZqhI4YM0ZqjPZqh5400ZqjQZqh5500ZqjPZqh5ZqhE500ZqjQZqh5ZqhE50",
    "0ZqjPZqh5ZqhF500ZqjQZqh5ZqhF3nVPZ130PZ130PZ1306Z131HZ930PZ130PZ1300Z1311Z3320Z7321ZA323ZE317ZJ",
    "303Z1310Z6316Z831AZG30PZ130PZ1301Z1313Z4327ZA316ZJ31PZ1301Z1313Z4314Z9310ZF336ZJ31PZ130PZ130PZ",
    "130PZ130PZ130PZ130PZ130PZ130PZ130PZ130PZ130PZ130PZ1300fH300nN32GzH300zO306+3300em730GzH300+330",
    "6+3300em2300zL300zO300zQ300+6300+1300+030GzH300zO306+3300em730GzH300+3306+3300em2300zL300zO300",
    "zQ300+6300+1300+030GzH300zO306+3300em730GzH300+3306+3300em2300zL300zO300zQ300+6300+1300+030GzH",
    "300zO306+3300em730GzH300+3306+3300em2300zL300zO300zQ300+6300+1300+030GzH300zO306+3300em730GzH3",
    "00+3306+3300em2300zL300zO300zQ300+6300+1300+0300+T300+T329XG309XG309XG309XG309XG3YXG8XXG302XXQ",
    "30AXXU300XYB301XYD300Xfq9300XcP300XYM300XYO300Xd9300XbF300XcF308XXG301XXQ301XXU300XY1305XY3301",
    "XYA300XaH300XYM300XYL300XYV300XbB300XfoH300XbH3YaIX1Zwf23XcU1Xn7300XnC300XnF310Xo8300XnI300XnD",
    "300XnN300XoA303Xo3300XnJ300XnP300Xo1300XnL300Xo2300XnH300XnK301XnA300XnE300XnG300XnM300XnO300X",
    "nQ300XpE300XrQ300Xr1300XpF310Xn8300XnC310Xo7320XnD310XoA303Xo3300XnJ300XnP300Xo1300XnL300Xo231",
    "0XnK301XnA300XnE310XnM310XnQ360XnC340XnD310XoA310Xo4310Xo6300XnJ300XnP310XnL300Xo2310XnK320XnE",
    "310XnM310XnQ310XrQ310XpF310Xn8300XnC310Xo7320XnD300XnN300XoA300Xo3311Xo5300XnJ300XnP300Xo1300X",
    "nL300Xo2310XnK301XnA300XnE310XnM300XnO300XnQ300XpE310Xr1311Xn7300XnC300XnF301Xo7300XnI300XnD30",
    "0XnN300XoA312Xo4300XnJ300XnP300Xo1300XnL300Xo2300XnH300XnK301XnA300XnE300XnG300XnM300XnO300XnQ",
    "350Xn8300XnC300XnF310Xo8300XnI300XnD300XnN300XoA312Xo4300XnJ300XnP300Xo1300XnL300Xo2300XnH300X",
    "nK301XnA300XnE300XnG300XnM300XnO300XnQ4o50XGXC400XHXC400XIXC400XJXC400XKXC400XLXC400XMXC400XNX",
    "C400XOXC400XPXC550X8Z1X9500X8Z2X9500X8Z3X9500X8Z4X9500X8Z5X9500X8Z6X9500X8Z7X9500X8Z8X9500X8Z9",
    "X9500X8ZAX9500X8ZBX9500X8ZCX9500X8ZDX9500X8ZEX9500X8ZFX9500X8ZGX9500X8ZHX9500X8ZIX9500X8ZJX950",
    "0X8ZKX9500X8ZLX9500X8ZMX9500X8ZNX9500X8ZOX9500X8ZPX9500X8ZQX9500iWKZJiWL300Z3300ZI400Z3Z4400ZN",
    "ZQ31PZ1400Z8ZM400ZDZM400ZJZ4400ZJZJ500ZGZGZM400ZNZ34Q0ZDZ3400ZDZ4400ZDZI4X30Z4ZA4ZF0iZRiYB400i",
    "bJibJ300ibL3D0uoB300swN300q+C300ic7300pqC300seQ300XYl3300sf9300pr4300vn0300yf1300viP300qoD300t",
    "yC300qiD300vjG300qmT300-g2300zeV300XZb9300sdG300rXP300xuK300uqL300uwL300pm0300pm9300XaYA300tl6",
    "300pnD300q-J300uu7300XZhG300uoJ300+i1300+pQ300rW8300xq0300vu9300vu8300zfJ300qpI300rjM300XagD54",
    "0iWKvvCiWL500iWKpm9iWL500iWKpqCiWL500iWKsy9iWL500iWKybPiWL500iWKuoJiWL500iWKzsNiWL500iWKqsTiWL",
    "500iWKvgNiWL370tyN300q-F3YiU9XG3X-W60pnT300pnO300po1300aWf2300px0300pzE300pzR300qW2300qZQ300qa",
    "P300qd7300qcF300jaU300aXnQ300qgD300qgK300qh4300qhN300aXeS300jbP300qh7300qiD300aXgB300qiN300qj4",
    "300psC300qjC300qjL300bakV300qlL300qm3300jcV300qnR300qo6300qpI300qpN300jeL300qs7300qs9300qt4300",
    "qtQ301qu5300quN300qw9300qwH300qwQ300qxJ300qxT300qxV300qxV300qxV300aYnC300yZG300q+A300q+V300aYx",
    "3300q-B300q-H300rW6300raU300rXO300rY8300rZ8300rb2300rdM300reG300rgJ300rh3300ri4300ri4300riP300",
    "rjB300rjJ300rk2300ruM300rm6300ruN300roH300rpK300qm7300sdE300r+E300r-K300sWD300ryB300sXI300sXH3",
    "00sbC300abd4300sdI300sdN300se6300seQ300sf2300sh2300abr8300abtA300slC300smR300sn7300skO300sp630",
    "0jtE300jtS300su8300svU300svU300ack8300s+3300s+O300s-7300s-J300acuO300s-V300tW6300twJ300tX2300j",
    "y1300tZ0300tZE300tc0300taD300adl4300tg3300adl6300thE300thB300thS301tl1300kXF300tlT300tn8300tnT",
    "300tp9300kZ2300aei3300kZS300trG300trJ300trM300tsA300beyI300ttU300aevH300aevH300XWm1300tv2300tv",
    "2300kc7300airO300aukQ300tx2300txB300kd3300tyQ300t+D300t+N300t-P300ua1300kfQ300keS300uaK300afsK",
    "300uc7300ug8300ugC300ugE300ugC300uhQ300uiE300ujI300uj4300ujF300ukU300ulI300ulM300umG300umR300u",
    "oT300urH300usK300uwG300aguC300uvT300utS300ux8300uy3300u-4300ag-H300vX2300u+5300uz9300knE300vZ9",
    "300vZU300vaT300vZN300kpC300vgF300vhC300aiWA300vl3300vtO300vo9300kuP300vqH300ku8300kt4300qiI300",
    "qiL300vu0300vqS300XWbD300m+P300vuN300vuR300vv1300vwU300vwJ300ai+3300kw9300v-Q300vy5300wYI300wa",
    "5300ajZD300waE300wWV300weK300kyT300wg2300wj3300wlA300wr8300ajr3300wsR300lWO300wv1300akb7300wwK",
    "300lYE300wxI300wyV301wzQ300akqD300adeB300aktQ300xYE300albS300xbV300xcD300xZ7300xeM300xfU300xhN",
    "300xg1300xh9300xhO300xi5300aleU300xfK300xnF300xpE300lfJ300xsB300xs7300alsH300xlP300xxE300alwU3",
    "00alyE300x+6300yXP300yWU300yWR300liM300yYA300yZT300yZN300ybD300aXf5300yg5300amp3300yiS300amzB3",
    "00yn8300ynL300yoG300anm8300yq0300yqL300anvL300aoWK300yxQ300yyB300lrC300yz5300lrO300lrO300zY730",
    "0zYS300zZH300za5300zcA300luR300zf4300apXM300zfU300apaI300zhG300aeiV300zmG300apz1300apzO300aqY4",
    "300l-S300mW8300ztK300aqdJ300aqdI300aqeP300aqfJ301zuU300zuV300zwA300mXP300zyB300mY6300maM300arW",
    "T300+YE300+aC300+cC300md3300arn6300+gM300arqQ300ars5300+iF300+lB300mfF300+o0300+oA300+oF300ash",
    "S300asr7300asr7300+tE300mm2300aszB300++6300++9300mn7300ata0300-cI300mr0300-d8300-d3300-e0300at",
    "y6300-h3300mu1300-k7300-m2300-o5300mvK300aun8300auo7300mwP300ausP300-xQ300auvU300-yL300--Q300X",
    "WW5300avcQ300avf3300XWZ0300avj8300XWZG300aiwV300m+L300XWbI300XWe3300nWB300XWfU300srL300avz7300",
    "avzL300aiyJ300aiyS300XWm1300XWm4300XZyU300nZB300XWqH300XWqB300XWqT300qrJ300XWrH300XWrJ300XWrT3",
    "00XWt6300awvS300XWt5300XWuT300XWx3300XWzD300XWv3300XWzT300XW-7300XXYN300XWwJ300XW+A300XW+C300X",
    "W+S300axXM300axhB300axcL300nfB300XXdH300XXdJ300XXeM300ay+A300XXh4300axvC300ngT300nh1300axzH300",
    "aycI300nhB300XXoG300XXoS300XXp7300XXp9300XXr9300XXq8300XXuE300XXt2300XXxP300XXv8300XXxB300XXy6",
    "300nkN300XX-1300XYW1300nlP300XYZ0300XYZ3300azp7300XYcN300XYcU300nnL300XYdQ300jbR300a+bE300a+h6",
    "300nrU300ns7300XYr0300XYtD300XYyA300XZYL300a-b8300XZbB300XZc1300XZeR300XZhN300a-vF300aYW4300XZ",
    "kB300XZjS300XZlG300aYcU300XZsK300XZvO300bXkI300bXlD300XaaK300XadH300XaeH300bXvE300XaeR300XanO3",
    "01XasN300XapS300Xa-P300XbWL300bY-Q300XbiB300oiL300XbjN300bZhN300ol6300Xbs3300tjI300Xbv3300bag5",
    "300bamQ300opE300opM300Xb-0300bbWA300orI300bbaM300XcWB300XcWB300XcX9300bbjM300Xcd2300ovJ300Xcf9",
    "300Xcj7300Xck2300XclU300o+E300bcvG300XcuI300XdY0300XddT300pcE300pdD300Xdh7300becE300pdO300bee5",
    "300bemE300beqH300XdrR300pgM300XdtP300XdtU300Xdu5300XduF300XduM300XdvR300bfm0"]

/-- The replacements in the order of their code points. -/
def replacements : List Replacement :=
  replacementsFrom 0 (Packed.groups (Packed.numbers packedReplacements))

/-- What a character stands for according to a replacement. -/
def Replacement.textFor (r : Replacement) (n : Nat) : List Char :=
  match r.text with
  | [m] => [Char.ofNat (m + (n - r.start))]
  | text => text.map Char.ofNat

/-- What a character of a domain name becomes, if it is allowed. -/
def mapped? (c : Char) : Option (List Char) :=
  let n := c.toNat
  if validChars.containsCode n then some [c]
  else if droppedChars.containsCode n then some []
  else (replacements.find? fun r => r.start ≤ n && n ≤ r.start + r.extra).map (·.textFor n)

end ImageSync.Url.Domain
