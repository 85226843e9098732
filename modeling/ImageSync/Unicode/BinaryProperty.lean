import ImageSync.Unicode.Packed

/-!
# `ImageSync.Unicode.BinaryProperty`: properties a character has or has not

For each property the packed list of code points at which it begins or ends to hold.
`table` gives them with the names of the properties, `members` unpacks one, and the sets
that other modules ask for by name stand at the end.
-/

set_option autoImplicit false

namespace ImageSync.Unicode.BinaryProperty

/-- The packed toggles of ASCII_Hex_Digit. -/
def asciiHexDigit : String :=
  "XG965P5"

/-- The packed toggles of Alphabetic. -/
def alphabetic : String :=
  String.join [
    "Y1P5PXE090304M0U0k93BD46000YL0X940113005002000J0YI0aA7b50X5105X8X6D000101007Q33SA4XN06DZ507373",
    "29210FXFCZ4NX081304N1IIO6A4N05GX99B265YB0F023ECI07111L06002327111100703104B1903205311L06010101",
    "343111306300G5A208020L06010428020120E3K33207111L060104271111813104C0F105220321000121222B342202",
    "2050X7C020M0F27020271021013R307020M0904270202715103C2BC020X8170202004364L5020H2N080016750007H1",
    "CXP4650XI100040N000I02140050D3V0XU70X33I3F0X3Y2XM0014FXV931X500401XA0gC031600031X8031X00316000",
    "31E0XO031Y2X4FFYL152pB1G0P4YA2A6JAKBJBC0201BXJ1ID030Y2YO6XA4Y59U0B38MT14AXB3PXLR3XU1JXH0M1A2XG",
    "XJ0E07XIX9139XB0ADXML29X3186XA12X830501204bVX6DAeL151X515170000000U1XK0600220623153C4206ZJ0C0F",
    "CZ4030190024500000030A134430GX8vCXJXuLd45321BX500401XN60FM86060606060606060VXE0kK2O864143YL520",
    "YP034XA0YTGVXFFlVcjVXVrqCY2XD1eC2F91JXE472ZGX681Z61XV410004NJ0X0NXJBY300XB520029X04X2CS2XI0BE0",
    "FF940XM8DHM2Y40000N21F13A5151586060XA0D5ZQKgz3BM3XGee3hD1Z9X56B44B0C040001010ZBX0hAHXV1XLX7BZJ",
    "40a6X3P5PAYO25151512X2B0P0I010E1DX1ZQY4XKeAS2XGXEVCT4XA4T1X33704X9aTHX33X33X77XJBA0E06010A0E06",
    "01Y2fM8L97N50X908Y45100XB01201M9M8UY0I019L9PY5XN51XV30147020SX9S2SX270RQXL9L9ICHZDY8XMXICXICX7",
    "gNX90121YDS907LX9HXDKQM8Y5XA49XO80COMXIG37X2208XV03819000X2H0X11053XT600030E096XOM307111L06010",
    "4271111205046aRY10203J2TY11100bNXL16O5X1XU0020XQXL10Y6Q1DK6bOXOZ6XVU71017010T011113YS71XD15000",
    "1QXI19GY740HY8e680XC0600XGT1L0DY86010XB2001020011N5010X4010300g6M8G0X822ZE0YEyPZ5ZEGc3YoBZ0EXX",
    "FG5ZzOo6ejOnO6UGYEGTHXFF3UK4IrFXVZVYA3XO6GXV100B1Db-N7XcLX98et6306010f2E0S210D37iBYe3ZA4C28693",
    "0bx0YK0Y6011011130B00060Y00317060R030400260gJ1O0O0U0O0U0O0U0O0U0O07XvJU55cK60G1601044XTX00ZFXC",
    "96F0g0THXBl3RtJ603010E0c4XQY32020XbJ30Q0100100903000050300000020100100000000001001306030300090",
    "G42040GpJP5P5PZpLXfsVVaXP5cT1bq1DdfGZWUmTXl1awA4aYV"]

/-- The packed toggles of Bidi_Control. -/
def bidiControl : String :=
  "XmS0clG1P4XM3"

/-- The packed toggles of Bidi_Mirrored. -/
def bidiMirrored : String :=
  String.join [
    "X81H000R000S000XC0E0ZpT3XwS1YiR191XL1D1bG0bV32520212303000038400H438100071U1340811I4184113N1F7",
    "3J161XXSDY9013010243422DiIL150D7065203401143002119511BI03100010034152N1A13301113XA170X74000244",
    "2302400dV0m232101D119XA7jA917XpnS541b11H000R000S0000101XrxM0XO0XO0XO0XO0"]

/-- The packed toggles of Case_Ignorable. -/
def caseIgnorable : String :=
  String.join [
    "X7050A0X2000Y6030003011lMbV31308100dQ6cE040XGXC00010100XB0A59A00X209KF0Z470903X0000TQYQAXPA301",
    "0NNXA2XB06157X8XPXM00037302691C0E0XP03370J1P011XO031311220T120A1XO0340130J1L500XP010037061A1T0",
    "XS0B0XH020XM002420361A1S0XP0105041J1R1XO13370J1S0Y706200YP016A8Z10188006Y81Q00000XMD04014A0X38",
    "0Z53050111O132F3C01150E0YT0oV2zH2S1T1T1XV106701A2040XC4XI0Y01X10ZL2318052cQ110XP0060000175910X",
    "607UXG3XF0040040X78B1V31102XN0012002XP711XV5YH20C06305021XHXUC0X1Z4jS002A2C2C2C1B471901014XG40",
    "900C0FCXIX0YyA1ZG2ZS0E0YVVXE0kK0X332440YS5YS2xuL0Xd15eD0Z130900R3YF1DX1YD0M2Z6221702030O140aM1",
    "PHC0X57OAXD2XF01311G0K1Y151111B070X20A0XI002114100Q0D14100Z3482ZO01030pvF0aIGnSF20BFX1010b8060",
    "50A0X2000XE0XC1Y20K2m00d10aK4XW450X908o520143X7230b41nS3i21YF2Y5AXG3ZQ0XLEX801192XG311103090XH",
    "2X3407XT0B1XJ89310YU210015010aS027K1XO120X4624c271200M0YJ5003101dD35101Q1YK71001Z90001500Z4213",
    "04e2801dV10030aF31130V9X7513708512XDC01iL60500YHL160101ZP520010600Y712000gQ1A1XJ44000bdCG5EjqP",
    "4XQ683XWA0XUGXV101mWA30601ZaT103aoRXD1MmV28F16T3aJ2XzQXM3XH70D0L40EXgF60G1601044XTX00aVDhF0XS3",
    "lQ4+V6ZC7YrE4uZW00TYVZVdF"]

/-- The packed toggles of Cased. -/
def cased : String :=
  String.join [
    "Y1P5PXE090304M0U0c2033cF0X361T4YV0X931113005002000J0YI0aA7b50X58X8YuMX500401XA03qVYL15Ya186XA1",
    "2XVbVXVeL151X515170000000U1XK0600220623153C4206ZJ0C0FCZ4030190024500000030530134430GV21vGXJXuL",
    "d45321BX50040+eHXDHTa3Z5230XQ410004N402vKXA0D5YFpvV6B4XW8P5PXb4YFYVX33X3ZJA0E06010A0E0601k2012",
    "0X908Xc4XICXIYzCXVrgVXVvhVYK0Y6011011130B00060Y00317060R030400260gJ1O0O0U0O0U0O0U0O0U0O07XvJ90",
    "J55e4XTYaHY3X-BP5P5P"]

/-- The packed toggles of Changes_When_Casefolded. -/
def changesWhenCasefolded : String :=
  String.join [
    "Y1PYP09M07V00000000000000000000000000000000000000000000000000000001000000000000000010000000000",
    "0000000000000000000000000000000000010000000100010213010221010000010010010200012061010100000000",
    "0000000010000000000000000011000200000000000000000000000000000000000000000000000000000000006101",
    "100300000000dL0X90002070500200010G08L0B221000000000000000000000000011100011XIXF000000000000000",
    "0000000000000000008000000000000000000000000000000000000000000000000000000100000000000010000000",
    "00000000000000000000000000000000000000000000000000000000000000000000000000000000000000001X5XF0",
    "YuNX50040v95Ya186XA12fV00000000000000000000000000000000000000000000000000000000000000000000000",
    "0000000000000000000000000000000000000000000000000000000000000000000000000000004110000000000000",
    "0000000000000000000000000000000000000000000000000000000000000000000000000000000000008775977775",
    "A000000077FXF12154215A3B44215f802150XCFI0vHPXvFXFXF0021000000300107200000000000000000000000000",
    "000000000000000000000000000000000000000000000000000000000000000000000000700030+gC0000000000000",
    "00000000000000000000000000000000I000000000000000000000000000a600000000000002000000000000000000",
    "0000000000000000000000000000000000000000000900001000000003000100020000000000000000000040400000",
    "0000000000300504000R0xPYFpvV6B4XW8PXc4X7a7X3aRA0E0601Xt9XIY-CVrhVV+qVX1"]

/-- The packed toggles of Changes_When_Casemapped. -/
def changesWhenCasemapped : String :=
  String.join [
    "Y1P5PXP09M0U0XV0YJ0C0D1D11003YS0H5Q01000121000104100110601001254091b50X931122005002000J0XE2X00",
    "40a47b50X59X6YuNX500401XA12qVYL15Ya186XA12bO020F0ZGaR100ZL151X515170000000U1XK0600220623153C42",
    "06f802150Q0GV21vGXJXuLZG01016Z56321BX50040+eHXDHRa5D1XT8E22140O0Q4133Q1wR0RYFpvV6B4XW8P5PXb4YF",
    "YVX33X3ZJA0E06010A0E0601Xs2XICXIYzCXVrgVXV+pVY3"]

/-- The packed toggles of Changes_When_Lowercased. -/
def changesWhenLowercased : String :=
  String.join [
    "Y1PZ4M06X0000000000000000000000000000000000000000000000000000000010000000000000001000000000000",
    "0000000000000000000000000000000000100002100010213010221010000010010010200012061010100000000000",
    "0000010000000000000000011000200000000000000000000000000000000000000000000000000000000006101100",
    "300000000f00002070500200010G08X207000000000000000000000004010011XIXF00000000000000000000000000",
    "0000000800000000000000000000000000000000000000000000000000000010000000000001000000000000000000",
    "000000000000000000000000000000000000000000000000000000000000000000000000000001X5Yw8X50040sHYLY",
    "aPXA12fV00000000000000000000000000000000000000000000000000000000000000000000000000000000000000",
    "0000000000000000000000000000000000000000000000000000000000000008000000000000000000000000000000",
    "00000000000000000000000000000000000000000000000000000000000000000008775977775A000000077N777777",
    "4A4A3B4A4f802150XCFI0vHPXvFXFXF002100000030010720000000000000000000000000000000000000000000000",
    "0000000000000000000000000000000000000000000000000000700030+gC000000000000000000000000000000000",
    "000000000000I000000000000000000000000000a60000000000000200000000000000000000000000000000000000",
    "000000000000000000000009000010000000030001000200000000000000000000404000000000000000300504000R",
    "0rvAPXc4X7a7X3aRA0E0601Xt9XIY-CVrhVV+qVX1"]

/-- The packed toggles of Changes_When_Titlecased. -/
def changesWhenTitlecased : String :=
  String.join [
    "Z1PXP0X8N0700000000000000000000000000000000000000000000000000000000100000000000000100000000000",
    "0000000000000000000000000000000000010000210001020401021201000001030102000102000300101000000000",
    "0000000010000000000000000020000200000000000000000000000000000000000000020000000000000000070110",
    "0300000000501000121000104100110601001254091b50XA0002022H0QX20122000000000000000000000004001010",
    "XJXF000000000000000000000000000000000080000000000000000000000000000000000000000000000000000010",
    "0000000000010000000000000000000000000000000000000000000000000000000000000000000000000000000000",
    "00000000000000XGX6ZpF5Ya18dF020F0ZH00000000000000000000000000000000000000000000000000000000000",
    "0000000000000000000000000000000000000000000000000000000000000000000000000000000000000000064000",
    "0000000000000000000000000000000000000000000000000000000000000000000000000000000000000000000875",
    "97777597777D17777774015022017311779201gL0X0F30wAPXw5XF0021000000501090000000000000000000000000",
    "00000000000000000000000000000000000000000000000000000000000000000000000000700030BX50040+eI0000",
    "00000000000000000000000000000000000000000I000000000000000000000000000a600000000000002000000000",
    "00000000000000000000000000000000000000000000000000009000100000000030300110000000000000000000A0",
    "000000000000003000504000R0wR0RYFpvV6B4XX8PXcCX7a7X3aQA0E0601Xu2XIY+CVrhVV+r1X1"]

/-- The packed toggles of Changes_When_Uppercased. -/
def changesWhenUppercased : String :=
  String.join [
    "Z1PXP0X8N0700000000000000000000000000000000000000000000000000000000100000000000000100000000000",
    "0000000000000000000000000000000000010000210001020401021201000001030102000102000410101000000000",
    "0000001000000000000000001010020000000000000000000000000000000000000002000000000000000007011003",
    "00000000501000121000104100110601001254091b50XA0002022H0QX20122000000000000000000000004001010XJ",
    "XF00000000000000000000000000000000008000000000000000000000000000000000000000000000000000001000",
    "0000000001000000000000000000000000000000000000000000000000000000000000000000000000000000000000",
    "000000000000XGX6Yw7XA12tN5Ya18dF020F0ZH0000000000000000000000000000000000000000000000000000000",
    "0000000000000000000000000000000000000000000000000000000000000000000000000000000000000000000006",
    "4000000000000000000000000000000000000000000000000000000000000000000000000000000000000000000000",
    "087597777597777D1XK013000220130231177920130gG0X0F30wAPXw5XF00210000005010900000000000000000000",
    "0000000000000000000000000000000000000000000000000000000000000000000000000000000700030BX50040+e",
    "I000000000000000000000000000000000000000000000I000000000000000000000000000a6000000000000020000",
    "0000000000000000000000000000000000000000000000000000000009000100000000030300110000000000000000",
    "000A0000000000000003000504000R0wR0RYFpvV6B4XX8PXcCX7a7X3aQA0E0601Xu2XIY+CVrhVV+r1X1"]

/-- The packed toggles of Dash. -/
def dash : String :=
  "XD0XgR0XI0Zo00XW40YW85XS0X60E0i50ZW3010U130R0jT0I0ZE0XpiF1X4090b80ZyU0"

/-- The packed toggles of Default_Ignorable_Code_Point. -/
def defaultIgnorableCodePoint : String :=
  "bD0r00sB0Yw11XoI1YK4X-Q4P4XGFadJ0XpaQFdE0aV0YE8Xlb63bcE7uhq4Z-V"

/-- The packed toggles of Deprecated. -/
def deprecated : String :=
  "g90Xf80Ye2000YX81Yc45rO1xtcL0"

/-- The packed toggles of Diacritic. -/
def diacritic : String :=
  String.join [
    "YU000Y60503011lMaU0745G13081dS4cG0XMG0Q000100a5731a513122Y2QYQAXPAX11ZT7X89FRXS0F023R0Y90F0ZD0",
    "F0ZD0F0XE2XR0F060ZM0ZD0F0ZD0F0ZC1F0ZR0ZR500ZA0C4YA1Q0000031Y1201XT0ZF001X7134O60091s02zJ1bIA80",
    "gQ2fO710XFE1AZ70E0X58XL1a91XV5YHO305012XHXUYOBX4AjS002A2C2C2C1ZdF2fS0lP5Z83YU0zhH0B100R1YH1DX1",
    "Z52ZC1c90QHXO3X30YU0B0X30aK2Y03XI0Z3482ZV1pvF0u0FeD000XE0XC1Y20tR0XaU50X908v91nQ5kK2Y5AXG3bV0X",
    "80Y71ZN1XT0YB082Z71bH1YG0F0N624cC020ZQ1dQ1ZT0ZL1ZI0eC1e1130aR0YI0H0YG0j40e1001YG0brEEjqP4XQ6XY",
    "NGYF1l-T30601du0XD1MmV2257716T3Zq1XTc16hM0XS3XkV6ZC202"]

/-- The packed toggles of Emoji. -/
def emoji : String :=
  String.join [
    "X305049ZE030dyC0B0cN0L0YP5E1hE1B0b50OA32c60d619080XP304801011103010011020217240004BA1100100H01",
    "1H5000121401131A14110410001J14503103010150010000050205091E01030003200A1XF280D0D0hJ1kE2I1XI030X",
    "cP0B0oO000Zlh90c90aV1B1D019YAP01M0J018K1bDX11ZF11021YI120e60XUA50N6117B0131031C110718042B27210",
    "003050205YLXFY547123920012019d2B30eQXE090bOZFC286XD067D3868"]

/-- The packed toggles of Emoji_Component. -/
def emojiComponent : String :=
  "X305049d+I0cK0XtfA0Xy+LPlQ4XjF3uXpBYV"

/-- The packed toggles of Emoji_Modifier. -/
def emojiModifier : String :=
  "Zy-R4"

/-- The packed toggles of Emoji_Modifier_Base. -/
def emojiModifierBase : String :=
  String.join [
    "fmT0cQ0F3ZpZM0XR21012ZK11AKI2032026000N0c8130K031bD224YI0F280A0nU01077508912XN0XS10100G20Cd42X",
    "98"]

/-- The packed toggles of Emoji_Presentation. -/
def emojiPresentation : String :=
  String.join [
    "euQ1cC32010m81K1XHBXA0I0C071G1417040K0610030106031R0X20003200XS2N0D0wQ1XI030ZnbD0c90bT019YAP00",
    "N0J01402K1bDX0B80Y50LBXA34BG202Y6000bQ1XUC30NH0P1C0YLYKXFY550221233A168d2B30eQXE090bOZFC286XD0",
    "67D3868"]

/-- The packed toggles of Extended_Pictographic. -/
def extendedPictographic : String :=
  String.join [
    "b9030dyC0B0cN0L0YP5E1hE1B0YU0Y50OA32c60d619080XP3050B0ZH9ZL1A000050205091E01030003200A4XC280D0",
    "D0hJ1kE2I1XI030XcP0B0oO000Zlh5dVC2U0XR5B1D019HXOQE90J018038jH4fT7e9XFZVZJBYKXAB3XN795X77TYHBXE",
    "090jOdV-T"]

/-- The packed toggles of Extender. -/
def extender : String :=
  String.join [
    "bN0mN1xD0jO0wP0tF0ZU0Yg20XN0p20iD0Y30ay80XA4Z61YS2xuL0XlL0+10L0a80ZB0K1rZQ0YWF1Y+P0p72XcE0qb81",
    "XaR100ygN1YW52"]

/-- The packed toggles of Grapheme_Base. -/
def graphemeBase : String :=
  String.join [
    "X0YUX0C0oHZF71536000J0cV6b50X51XH12XD00010108Q35G9A00XDKF0Z47051103V100TSYOA0DXA862N3080206E0O",
    "400A4UGX9XOXM00037302691S0107111L0600232001511100C1023N4005311L0601010132N300691200B008020L060",
    "10423700120E13B607107111L06010420105111E1023HA005220321000121222B4001220220KK5207020M0F2023I21",
    "01139690A020M09042101011101G1013902DA020X8100142020132093P110H2N08001681566912BXF01A77CX410004",
    "0N0009018014008913VN1Q00000D0X3H04014XG7050CX4XC3050111O132F3C01150E0X700401hO031600031X8031X0",
    "031600031E0XO031Y24S2P5YL151qS2YO6H208I128HDC02EXJ106701A829595A495YO641X1004Y59U33123105602X9",
    "14AXB3P5A2XO112XN00800175C9595DYLXF6004092Q8A2V31102XN001200217XF714E2XR6XA1AA0C0630502104bVXV",
    "eL151X515170000000U1XK0E0D150I12080A4N6XGF11Q0C2X0XUaB3qMOAKXuJ1V0gN214XC00401XN61EM8606060606",
    "060606X0YTX1P0YOBcLPB3X95F0YL3Z44XA0YT0YJBXE0ypC2XM8gRJXE309V1YF157cA410004NF02030O14395XN7Y39",
    "BNC0X57OA1AT5XF01311F0A360O0X85111A20700191V0XI0021141000NG17A5151586060XR3ZK0103295gz3BM3XGee",
    "3hD1Z9X56B4400N040001010ZSFjS1XL60VFF9LX20I03340a63aS1U251515122606C11B0P0I010E1DX1ZQ423XC2YN0",
    "C20XEXCa2S2XGFQ3X38T4X59T0X43DX9aT195X33X33X77XJAB0E06010A0E0601Y2fM8L97N50X908Y45100XB01201M0",
    "Y778XFI014X02Q40XVXN3J1XEE3020S98686XVVX45B8XL2S1Q4P63B6YFY8XMXICXI6X9B9f5U0X92011YDX77LA8LH33",
    "X5RJM800XLE63T0110BXG311103DO698X3408H7X202AXJ89310F0JAH0R21001501XU600030E0A5XE02C97107111L06",
    "0104200003111210B6aRXN71200K0002TXF01500100101379b5XE0153101QX3XI710013A95CIXA0001500159XLQ413",
    "08MbOXE8010Z3YIB71017010N040130030289Y571X97303Q09X7513780512XDC018CY869dL80X5D0059S2VO06010YA",
    "6010X5K08955010X431000069fLI138E0X371000MYL0EXHCyQZ5ZE04Ac3YoBZ2CXXFG5ZzOo6ejOnO6U093YG095T609",
    "XF6E99060K4IrFYQZ4YA4XNACXV3B1Db-N7XcLX98et6306010f2E0S210D37iBYe3ZA4C28691010arFZJXRdL9X61XR0",
    "023K16T3XSKY120ZPJBJBYM8Oa6YK0Y6011011130B00060Y00317060R030400260gJ1f31nHXM3XH70D06XZJU55e4XT",
    "aHXC961931fVTHXB3940kFR39t5603010E0c418XFY3603931uGY3YBXSc130Q01001009030000503000000201001000",
    "00000001001306030300090G42040GXJ1eDXB3Z3BE1E0E0X49bDXNSCXB3861D5aP+N3G2C2ZM3YU5B30EB3XN795X77T",
    "11YDgJBD1C286XD067D38686aI0XMX49XW5XfsVVaXP5cT1bq1DdfGZWUmTXl1awA4aYV"]

/-- The packed toggles of Grapheme_Extend. -/
def graphemeExtend : String :=
  String.join [
    "u0ZFeI6e6XC00010100Y7AXFKF0Z46151103X20TQYQAXP880N3080204XA2XR7X9N0VXM00037302691S0XP000137080",
    "91P011XO031311220T120A1XO0340130J1L500XP00103706291T0XQ000B080X7020XM002420361A1S0XP0101020416",
    "1A1R1XO10013708091S0Y7030120070YG016B7Z1018A6Y81Q00000XMD04014A0X380Z53050111O132F3C01150E0rU2",
    "zH2S1T1T1XV106701A80XC200ZK1X10ZL2318052cQ110XP0060000175910XFUXG3XF60040X78B1V31102XN0012002X",
    "P711aN20C06305021c5XVmB0c2X0Y-T2aC0YVVn95Z81zkJ309V1YF1eF02030O140aM1PHC0X57OAXD2XF01311X60Y25",
    "1111B070XE0XI002114100X9170dD01030pvF0t0FFFhD1oS0d10aK4Xq520143X7230b41nS3i21YF2Y5AXG3ZQ0XLEX8",
    "01192XG31160XS2X3407XT0B1XJ89310YU210015010aS027K1XO10000L0D624c271200M0YG01500100101dA0135101",
    "Q1YK71001Z90001500Z421304e2801dK0910030aF31130V9X7513708512XDC01iL60500YHL160101ZP520010600Y71",
    "2000gQ1A1XJ44000bdS05EjqP4XQ6XWN0XU3YG0pbN1ap0XD1MmT002347716T3aJ2XzQXM3XH70D0L40EXgF60G160104",
    "Z30aV6hM0XS3lR3+V6ZC6ubsKYVZVdF"]

/-- The packed toggles of Hex_Digit. -/
def hexDigit : String :=
  "XG965P5X-r8965P5"

/-- The packed toggles of IDS_Binary_Operator. -/
def idsBinaryOperator : String :=
  "h-G117"

/-- The packed toggles of IDS_Trinary_Operator. -/
def idsTrinaryOperator : String :=
  "h-I1"

/-- The packed toggles of ID_Continue. -/
def idContinue : String :=
  String.join [
    "XG96P300PXE09000104M0U0k93BD46000GZK01130054000J0YI0aA041b50X5105X87XC000101007Q33SA4Y93Z50719",
    "0I10FXQ1Z4DXL30101XDHR3A4N058Y90a0190I07111L0600231811137031041B90001205311L060101011004311220",
    "63006FA208020L06010419020210E319860207111L0601041811126231041900F105220321000121222B3422031050",
    "D9FC020M0F1802036102101319F307020M09041802036151031902BC020XI020443641995020H2N080016203500075",
    "911CXP4E09X6100040N000M1400060913V0M159A00000390X33J0H0X380XOY95YD1X500401XA0gC031600031X8031X",
    "0031600031E0XO031Y21288DFFYL152pB1G0P4YA2A6L8LAJBC0201BYJ203119X020A5YO6XA4Y59U0B3B9X714AXB3P5",
    "AX4R3XU0S1A59C07D0FXGYC29G8BZJBXN792XG186XA12F20X64mL151X515170000000U1XK0600220623153C4206Y11",
    "I0R0C0FCXIC302BG0301900155000000F134430GX8YpMd458BX500401XN60EN86060606060606060Vm42OE04143YL1",
    "60YP034XA0YTGVXFFlVcjVXVrqCY2XD1eC2RJXF390ZIX481Z61XV410004NXL30IXJBY5995N200XG1X3BS2Y0DA5U0XM",
    "8D195M2Y8N21F1495151586060XA0D5ZQ01195gz3BM3XGee3hD1Z9X56B44B0C040001010ZBX0hAHXV1XLX7B3FFF21N",
    "2V40a6I96P300PAYO25151512X2B0P0I010E1DX1ZQY4XKa70a1S2XGE0UVCT4XA4T1X33704X9aT195X33X33X77XJBA0",
    "E06010A0E0601Y2fM8L97N50X908Y45100XB01201M9M8UY0I019L9PY5XN51XV30147020S1230VS2SX270TOXL9L9ICH",
    "ZDY8XMXICXICX779g5X90121YAV907X0ULX9KQM8Y6UF8XR60CO695XK09337X3108Y4330C00X2H0X453XT600030E096",
    "XQ495307111L0601040911121050461624aAYA4933TY50079b5XL18M5X1Y020A9X5XO69XLQ1E3956bOXQZ4Y9K71017",
    "010T0118B9Y571XD1701QXU707Y920HY8e680XC08E9NT1L0DY86010XB2001087955010X4010569fLM8G0X824C9YL0Y",
    "EyPZ5ZEGc3YoBZ0EXXFFLZz9o6ejOnO6U095YE095T14AXM83B98K4IrFXVZVYA3XO6GXV101A1Db-N7XcLX98et630601",
    "0f2E0S210D37iBYe3ZA4C286921ap0XD1MmT4257716T3aJ2jQYK0Y6011011130B00060Y00317060R030400260gJ1O0",
    "O0U0O0U0O0U0O0U0O071XHlVXM3XH70D0L40EXYFU55cK60G1601044XTX00ZFXC2D1930g0UGXPkLX9t5603010E0c4A6",
    "X8YB39Xb530Q0100100903000050300000020100100000000001001306030300090G42040GZfJ9XW5XfsVVaXP5cT1b",
    "q1DdfGZWUmTXl1awA4aYVrtgFdF"]

/-- The packed toggles of ID_Start. -/
def idStart : String :=
  String.join [
    "Y1P5PXE090304M0U0k93BD46000a040113005002000J0YI0aA7b50X5105X8Y6Q33XCXAX210Z200E1619210F00TSYOA",
    "0NX081304L308020MO6A4N05GX9XPXL20H069EF37111L06002320F0C102D19075311L06010101U300I2F8020L06010",
    "420H0E1M0A7111L06010420T102E0G005220321000121222BL0XJ7020M0F20P21011T037020M090420U101E1G8020X",
    "810F04272N54H2N080016XPXF01B6XP100040N000901801400K3V0XU70X3Q4ZIXAJ0F5332021623CB0GX500401XA0g",
    "C031600031X8031X0031600031E0XO031Y2X4FFYL152pB1G0P4YA2A6HCIDHDC02EXJX2030Y2YO6X8004Y59UXGT14AX",
    "B3PXLM8XKYH0YSXEG7XLTC19XBPX3X829X3186XA12X830501204bVXVeL151X515170000000U1XK0600220623153C42",
    "06ZJ0C0FCZ40301900155000000F134430GX8YpMd45321BX500401XN60FM8606060606060606n52O864143YL340YP0",
    "34XA0YTGVXFFlVcjVXVrqCY2XD1eC2F91JXEFU1YFX681Z61XV410004NF02030MSXJDXHXT52001AR9MOS6XER0F40994",
    "0X8M207JM202XH0021141000N21A62B5151586060XA0D5ZISgz3BM3XGee3hD1Z9X56B440090C040001010ZBX0hAHXV",
    "1XLX7BZJ40a6X3P5PAYO25151512X2B0P0I010E1DX1ZQY4XKeAS2XGXEVCT4X59T1X33704X9aTHX33X33X77XJBA0E06",
    "010A0E0601Y2fM8L97N50X908Y45100XB01201M9M8UY0I019L9PY5XN51XV0E3020SX9S2SX270RQXL9L9ICHZDY8XMXI",
    "CXICX3gRX951YDS907LX9HXDKQMBXKXO110CXCVOPX3S0107X220BXFD3K000X2H0OI1XU600030E096XEX57111L06010",
    "420H0B4aTXKH3J2TXFJ100bNXEX83X3XFJ0XQXAC0Y6QX46bOXBZJXVU71017010NE000YT71X6F000R09X760K0AXDI0H",
    "Y8e680X4G0XGTZF6010X5K0O5010VD0g6IE00C0X1ZR0YEyPZ5ZEGc3YoBZ0EXXFG5ZzOo6ejOnO6UGYEGTHXFF3UK4IrF",
    "XVZVYA40Y1CXV100Rb-N7XcLX98et6306010f2E0S210D37iBYe3ZA4C2869bx5YK0Y6011011130B00060Y00317060R0",
    "30400260gJ1O0O0U0O0U0O0U0O0U0O07XvJU55e4XTaHXC96F0g0THXBl3RtJ603010E0c4XQY360XbJ30Q01001009030",
    "00050300000020100100000000001001306030300090G42040Gag3XfsVVaXP5cT1bq1DdfGZWUmTXl1awA4aYV"]

/-- The packed toggles of Ideographic. -/
def ideographic : String :=
  "iW61O8D2+4cjVXVqlVsdVhD1Z9ze90Qb-N7XcLX98fZ6iBpe3XfsVVaXP5cT1bq1DdfGZWUmTXl1awA4aYV"

/-- The packed toggles of Join_Control. -/
def joinControl : String :=
  "eWC1"

/-- The packed toggles of Logical_Order_Exception. -/
def logicalOrderException : String :=
  "Zo04ZQ4YtF210XadP11001"

/-- The packed toggles of Lowercase. -/
def lowercase : String :=
  String.join [
    "Z1PXE09030X3N070000000000000000000000000000000000000000000000000000000100000000000000010000000",
    "0000000000000000000000000000000000000001000021000102130102210100000100100102000111250101000000",
    "0000000000100000000000000000110002000000000000000000000000000000000000000000000000000000000061",
    "01100300000000Y40X361T4YV0XA0002013H0QX20122000000000000000000000004001011XIXF0000000000000000",
    "0000000000000000008000000000000000000000000000000000000000000000000000001000000000000100000000",
    "0000000000000000000000000000000000000000000000000000000000000000000000000000000000000000XFX8Yw",
    "6XA03tN5Ya18ZMbVY00000000000000000000000000000000000000000000000000000000000000000000000000000",
    "0000000000000000000000000000000000000000000000000000000000000000000000008000000000000000000000",
    "000000000000000000000000000000000000000000000000000000000000000000000000000087597777597777D177",
    "77774015022017311779201ZO0C0FCZC02120Q03030117330X0F30wAPXw5XF00210000003001072000000000000000",
    "000000000000000000000000000000000000000000000000000000000000000000000000000000000001600030BX50",
    "040+eI000000000000000000000000000000000000000000000I000000000000000000000000002a40000000000002",
    "0000000000000000000000000000000000000000000000000000000000000900001000000000300010020000000000",
    "000000000040400000000000000030005000000000N20002vKXA0D5YFpvV6B4XX8PXcCX7a7X3aQA0E0601k20120X90",
    "8Xe4XIY+CVrhVVviPPP60HPPP300060APPPPPPPPPPPPPPPPPRRO05PO05PO05PO05PO0500XvJ90J55e4XTYbJX1"]

/-- The packed toggles of Math. -/
def math : String :=
  String.join [
    "XB0F2U0S000XC030X40U0sN210P112mE2cmC0Q2A020C0D3K4A4Y0C302134H03019001550211102052D00Y3N0501313",
    "V0051DeB73J1YP0TQ00N0A6jS1B935311124D00015A741XO000S382gFXVdVlVXFK15Xp+R0vM500b10F2S000S000a20",
    "53XrWIYK0Y6011011130B00060Y00317060R030400260gJ1f31XHblV30Q01001009030000503000000201001000000",
    "00001001306030300090G42040GXJ1"]

/-- The packed toggles of Noncharacter_Code_Point. -/
def noncharacterCodePoint : String :=
  "X-kGVmD1X--T1X--T1X--T1X--T1X--T1X--T1X--T1X--T1X--T1X--T1X--T1X--T1X--T1X--T1X--T1X--T"

/-- The packed toggles of Pattern_Syntax. -/
def patternSyntax : String :=
  "X1E96P300P3X1600010001303020M0U0duNN7E1I09fGsFaVpLTXZBlVZVi023OE0XpeC1e41"

/-- The packed toggles of Pattern_White_Space. -/
def patternWhiteSpace : String :=
  "94H0Z30dy71N1"

/-- The packed toggles of Prepended_Concatenation_Mark. -/
def prependedConcatenationMark : String :=
  "Xm05cM0XG0hV1YF0YX+P0E0"

/-- The packed toggles of Quotation_Mark. -/
def quotationMark : String :=
  "X2030a20E0dwR7O1Zm60k83C2Xpn03bS030YP1"

/-- The packed toggles of Radical. -/
def radical : String :=
  "hq0P0YOBcL"

/-- The packed toggles of Regional_Indicator. -/
def regionalIndicator : String :=
  "Zyl6P"

/-- The packed toggles of Sentence_Terminal. -/
def sentenceTerminal : String :=
  String.join [
    "X10B0F0Xg80aI2bJ0XA2dL0XS00021f41Xt31uL031u40c51cB040fP1h13bD111S1bR1Y01zR182Zl30C0L1jC0zdR0eD",
    "1d2020hT1YL1YU0aN1aI2aF1dO0qp5021b80B0F0Y00YtJ1XdS4XB3bS1ZK3ZU2a0150F1YN101ZB0j01hK14EZ81dO2m4",
    "000dQ1YM1j31rJ1Y91ov81a40Y01A0wI0pm50dl70"]

/-- The packed toggles of Soft_Dotted. -/
def softDotted : String :=
  String.join [
    "Z91c30eO0T0XJ0J0fV0Z1000ce80XI0C020a30aS0j40cL1YvH0Zfz41XH1XH1XH1XH1XH1XH1XH1XH1XH1XH1XH1XH1Ya",
    "50fG1P0"]

/-- The packed toggles of Terminal_Punctuation. -/
def terminalPunctuation : String :=
  String.join [
    "X109000A120vT070m00XO0Y70D002bJ0XAA00dA1XLEU0e41XdJ1bB035fM1uK7u40ZR2Y61aS220X6311fP1h13bD102S",
    "1bR4XT1zR182Zl30C030900121jB1zdQ1eC2d24hT1YL1YU0aM2aI2ZU0F1dO0qp3203b809000A120Y0010XXP0XF0Xa5",
    "0c60fL1aN5Y35YO3zN4XB3bS6ZF3ZU2a0150F1YN4ZB0j02B1h532EZ81dO2m4000dQ1YM131iT2XC0q41Y91XfA4nlO1a",
    "40Y0290wH1pm50dl63"]

/-- The packed toggles of Unified_Ideograph. -/
def unifiedIdeograph : String :=
  "jW0cjVXVqlVsmD1000190000112YXkLXfsVVaXP5cT1bq1DdfGbWUawA4aYV"

/-- The packed toggles of Uppercase. -/
def uppercase : String :=
  String.join [
    "Y1PZ4M06X0000000000000000000000000000000000000000000000000000000010000000000000001000000000000",
    "0000000000000000000000000000000000100002100010213010221010000010010010200012060101010000000000",
    "0000010000000000000000010100200000000000000000000000000000000000000000000000000000000006101100",
    "300000000f00002070500200010G08X20122000000000000000000000004010011XIXF000000000000000000000000",
    "0000000008000000000000000000000000000000000000000000000000000000100000000000010000000000000000",
    "00000000000000000000000000000000000000000000000000000000000000000000000000000001X5Yw8X50040sHY",
    "LYaPXA12fV000000000000000000000000000000000000000000000000000000000000000000000000000000000000",
    "0000000000000000000000000000000000000000000000000000000000000000080000000000000000000000000000",
    "0000000000000000000000000000000000000000000000000000000000000000000008775977775A000000077Y73B3",
    "B3B4A3e50302212102450000003139140PFI0vHPXvFXFXF00210000003001072000000000000000000000000000000",
    "00000000000000000000000000000000000000000000000000000000000000000000700030+gC00000000000000000",
    "0000000000000000000000000000I000000000000000000000000000a6000000000000020000000000000000000000",
    "0000000000000000000000000000000000000009000010000000030001000200000000000000000000404000000000",
    "000000300504000R0rvAPXc4X7a7X3aRA0E0601Xt9XIY-CVrhVVviVPPPPPP00110111307PPP1031706Q103040026QP",
    "PPPPPPPPPPTOX0OX0OX0OX0OX00afKX1YWDP5P5P"]

/-- The packed toggles of Variation_Selector. -/
def variationSelector : String :=
  "cWB200XvlFFwWtFdF"

/-- The packed toggles of White_Space. -/
def whiteSpace : String :=
  "94H0Z30P0bkU0YhUAS140XE0ZyV0"

/-- The packed toggles of XID_Continue. -/
def xidContinue : String :=
  String.join [
    "XG96P300PXE09000104M0U0k93BD46000GZK01220054000J0YI0aA041b50X5105X87XC000101007Q33SA4Y93Z50719",
    "0I10FXQ1Z4DXL30101XDHR3A4N058Y90a0190I07111L0600231811137031041B90001205311L060101011004311220",
    "63006FA208020L06010419020210E319860207111L0601041811126231041900F105220321000121222B3422031050",
    "D9FC020M0F1802036102101319F307020M09041802036151031902BC020XI020443641995020H2N080016203500075",
    "911CXP4E09X6100040N000M1400060913V0M159A00000390X33J0H0X380XOY95YD1X500401XA0gC031600031X8031X",
    "0031600031E0XO031Y21288DFFYL152pB1G0P4YA2A6L8LAJBC0201BYJ203119X020A5YO6XA4Y59U0B3B9X714AXB3P5",
    "AX4R3XU0S1A59C07D0FXGYC29G8BZJBXN792XG186XA12F20X64mL151X515170000000U1XK0600220623153C4206Y11",
    "I0R0C0FCXIC302BG0301900155000000F134430GX8YpMd458BX500401XN60EN86060606060606060Vm42OE04143YL1",
    "1120YP034XA0YTGVXFFlVcjVXVrqCY2XD1eC2RJXF390ZIX481Z61XV410004NXL30IXJBY5995N200XG1X3BS2Y0DA5U0",
    "XM8D195M2Y8N21F1495151586060XA0D5ZQ01195gz3BM3XGee3hD1Z9X56B44B0C040001010ZBX0aA5cPHXV1XLX795F",
    "FF21N2X0000200000000ZTI96P300PAYO25151512X2B0P0I010E1DX1ZQY4XKa70a1S2XGE0UVCT4XA4T1X33704X9aT1",
    "95X33X33X77XJBA0E06010A0E0601Y2fM8L97N50X908Y45100XB01201M9M8UY0I019L9PY5XN51XV30147020S1230VS",
    "2SX270TOXL9L9ICHZDY8XMXICXICX779g5X90121YAV907X0ULX9KQM8Y6UF8XR60CO695XK09337X3108Y4330C00X2H0",
    "X453XT600030E096XQ495307111L0601040911121050461624aAYA4933TY50079b5XL18M5X1Y020A9X5XO69XLQ1E39",
    "56bOXQZ4Y9K71017010T0118B9Y571XD1701QXU707Y920HY8e680XC08E9NT1L0DY86010XB2001087955010X4010569",
    "fLM8G0X824C9YL0YEyPZ5ZEGc3YoBZ0EXXFFLZz9o6ejOnO6U095YE095T14AXM83B98K4IrFXVZVYA3XO6GXV101A1Db-",
    "N7XcLX98et6306010f2E0S210D37iBYe3ZA4C286921ap0XD1MmT4257716T3aJ2jQYK0Y6011011130B00060Y0031706",
    "0R030400260gJ1O0O0U0O0U0O0U0O0U0O071XHlVXM3XH70D0L40EXYFU55cK60G1601044XTX00ZFXC2D1930g0UGXPkL",
    "X9t5603010E0c4A6X8YB39Xb530Q0100100903000050300000020100100000000001001306030300090G42040GZfJ9",
    "XW5XfsVVaXP5cT1bq1DdfGZWUmTXl1awA4aYVrtgFdF"]

/-- The packed toggles of XID_Start. -/
def xidStart : String :=
  String.join [
    "Y1P5PXE090304M0U0k93BD46000a040122005002000J0YI0aA7b50X5105X8Y6Q33XCXAX210Z200E1619210F00TSYOA",
    "0NX081304L308020MO6A4N05GX9XPXL20H069EF37111L06002320F0C102D19075311L06010101U300I2F8020L06010",
    "420H0E1M0A7111L06010420T102E0G005220321000121222BL0XJ7020M0F20P21011T037020M090420U101E1G8020X",
    "810F04272N54H2N080016XPXF00C6XP100040N000900901400K3V0XU70X3Q4ZIXAJ0F5332021623CB0GX500401XA0g",
    "C031600031X8031X0031600031E0XO031Y2X4FFYL152pB1G0P4YA2A6HCIDHDC02EXJX2030Y2YO6X8004Y59UXGT14AX",
    "B3PXLM8XKYH0YSXEG7XLTC19XBPX3X829X3186XA12X830501204bVXVeL151X515170000000U1XK0600220623153C42",
    "06ZJ0C0FCZ40301900155000000F134430GX8YpMd45321BX500401XN60FM8606060606060606n52O864143YL520YP0",
    "34XA0YTGVXFFlVcjVXVrqCY2XD1eC2F91JXEFU1YFX681Z61XV410004NF02030MSXJDXHXT52001AR9MOS6XER0F40994",
    "0X8M207JM202XH0021141000N21A62B5151586060XA0D5ZISgz3BM3XGee3hD1Z9X56B440090C040001010ZBX0aA5cP",
    "HXV1XLX79ZM000200000000ZTX3P5PAXN1U25151512X2B0P0I010E1DX1ZQY4XKeAS2XGXEVCT4X59T1X33704X9aTHX3",
    "3X33X77XJBA0E06010A0E0601Y2fM8L97N50X908Y45100XB01201M9M8UY0I019L9PY5XN51XV0E3020SX9S2SX270RQX",
    "L9L9ICHZDY8XMXICXICX3gRX951YDS907LX9HXDKQMBXKXO110CXCVOPX3S0107X220BXFD3K000X2H0OI1XU600030E09",
    "6XEX57111L06010420H0B4aTXKH3J2TXFJ100bNXEX83X3XFJ0XQXAC0Y6QX46bOXBZJXVU71017010NE000YT71X6F000",
    "R09X760K0AXDI0HY8e680X4G0XGTZF6010X5K0O5010VD0g6IE00C0X1ZR0YEyPZ5ZEGc3YoBZ0EXXFG5ZzOo6ejOnO6UG",
    "YEGTHXFF3UK4IrFXVZVYA40Y1CXV100Rb-N7XcLX98et6306010f2E0S210D37iBYe3ZA4C2869bx5YK0Y6011011130B0",
    "0060Y00317060R030400260gJ1O0O0U0O0U0O0U0O0U0O07XvJU55e4XTaHXC96F0g0THXBl3RtJ603010E0c4XQY360Xb",
    "J30Q0100100903000050300000020100100000000001001306030300090G42040Gag3XfsVVaXP5cT1bq1DdfGZWUmTX",
    "l1awA4aYV"]

/-- The names of each property and its packed toggles. -/
def table : List (List String × String) :=
  [(["AHex", "ASCII_Hex_Digit"], asciiHexDigit),
    (["Alpha", "Alphabetic"], alphabetic),
    (["Bidi_C", "Bidi_Control"], bidiControl),
    (["Bidi_M", "Bidi_Mirrored"], bidiMirrored),
    (["CI", "Case_Ignorable"], caseIgnorable),
    (["Cased"], cased),
    (["CWCF", "Changes_When_Casefolded"], changesWhenCasefolded),
    (["CWCM", "Changes_When_Casemapped"], changesWhenCasemapped),
    (["CWL", "Changes_When_Lowercased"], changesWhenLowercased),
    (["CWT", "Changes_When_Titlecased"], changesWhenTitlecased),
    (["CWU", "Changes_When_Uppercased"], changesWhenUppercased),
    (["Dash"], dash),
    (["DI", "Default_Ignorable_Code_Point"], defaultIgnorableCodePoint),
    (["Dep", "Deprecated"], deprecated),
    (["Dia", "Diacritic"], diacritic),
    (["Emoji"], emoji),
    (["EComp", "Emoji_Component"], emojiComponent),
    (["EMod", "Emoji_Modifier"], emojiModifier),
    (["EBase", "Emoji_Modifier_Base"], emojiModifierBase),
    (["EPres", "Emoji_Presentation"], emojiPresentation),
    (["ExtPict", "Extended_Pictographic"], extendedPictographic),
    (["Ext", "Extender"], extender),
    (["Gr_Base", "Grapheme_Base"], graphemeBase),
    (["Gr_Ext", "Grapheme_Extend"], graphemeExtend),
    (["Hex", "Hex_Digit"], hexDigit),
    (["IDSB", "IDS_Binary_Operator"], idsBinaryOperator),
    (["IDST", "IDS_Trinary_Operator"], idsTrinaryOperator),
    (["IDC", "ID_Continue"], idContinue),
    (["IDS", "ID_Start"], idStart),
    (["Ideo", "Ideographic"], ideographic),
    (["Join_C", "Join_Control"], joinControl),
    (["LOE", "Logical_Order_Exception"], logicalOrderException),
    (["Lower", "Lowercase"], lowercase),
    (["Math"], math),
    (["NChar", "Noncharacter_Code_Point"], noncharacterCodePoint),
    (["Pat_Syn", "Pattern_Syntax"], patternSyntax),
    (["Pat_WS", "Pattern_White_Space"], patternWhiteSpace),
    (["PCM", "Prepended_Concatenation_Mark"], prependedConcatenationMark),
    (["QMark", "Quotation_Mark"], quotationMark),
    (["Radical"], radical),
    (["RI", "Regional_Indicator"], regionalIndicator),
    (["STerm", "Sentence_Terminal"], sentenceTerminal),
    (["SD", "Soft_Dotted"], softDotted),
    (["Term", "Terminal_Punctuation"], terminalPunctuation),
    (["UIdeo", "Unified_Ideograph"], unifiedIdeograph),
    (["Upper", "Uppercase"], uppercase),
    (["VS", "Variation_Selector"], variationSelector),
    (["WSpace", "White_Space", "Space"], whiteSpace),
    (["XIDC", "XID_Continue"], xidContinue),
    (["XIDS", "XID_Start"], xidStart)]

/-- The characters that have the property with the given packed toggles. -/
def members (packed : String) : Text.CharSet := .ofGaps (Packed.numbers packed)

/-- The characters with the property Alphabetic. -/
def alphabeticChars : Text.CharSet := members alphabetic

/-- The characters with the property White_Space. -/
def whiteSpaceChars : Text.CharSet := members whiteSpace

/-- The characters with the property Join_Control. -/
def joinControlChars : Text.CharSet := members joinControl

/-- The characters with the property Grapheme_Extend. -/
def graphemeExtendChars : Text.CharSet := members graphemeExtend

end ImageSync.Unicode.BinaryProperty
