import ImageSync.Unicode.Packed

/-!
# `ImageSync.Unicode.Direction`: the direction of characters

Scripts run from left to right or from right to left. The direction class of a character says
which way it runs, or how it follows its neighbours.
-/

set_option autoImplicit false

namespace ImageSync.Unicode

/-- How a character takes part in the direction of a text. -/
inductive Direction where
  | leftToRight
  | rightToLeft
  | arabicLetter
  | arabicNumber
  | europeanNumber
  | europeanSeparator
  | commonSeparator
  | europeanTerminator
  | otherNeutral
  | boundaryNeutral
  | mark
  /-- Separators of lines and words, and controls of direction. -/
  | control
  deriving DecidableEq, Repr

/-- The packed table: the length of each run of code points of one class, and one more than
the place of the class, or zero for controls. -/
def packedDirections : String :=
  String.join [
    "8A40DA4019284906070617950759P159P1395A00PA0709383901190A191815090129050149M109U109k011961D911D",
    "9418901G9ZFB3119710941190109ZD109aB16BdV10911190802XCB020B021B021B020BXN25419031803070319ABXF3",
    "KB940814230BZ436B04095B131B093B1395M30BT3QBYQ3ABE3XA28B1239220BN23B028B022B024BXA22B32XF314537",
    "BX93NB04VBXM10B010B317B310B216B911BS10BXP10B313B710BJ11BD1186108110B111BXO10B311B311B112B210BT",
    "11B210BA11BXO10B314B011B310BJ11BC108715B010BXP10B110B013B710B611BA11BT10BXS10BB10BX41590809410",
    "B210BXM10B012B412B013B611BA11BJ169110BXP10BE11BJ11BR11BXO11B313B710BJ11BS10BY710B612B010BYP10B",
    "116B3108617BZ110B118BA16BY811BQ10B010B010B39XI1DB014B011B41AB01X3B810BZ513B015B011B111BO11B312",
    "BF13BC10B111B510BE10BrU12BXF199Z5109pU100P119ZK12BS11BT11BT11BXV11B016B710B11AB6108010BH19951A",
    "92B0A0BZK11BX110BZL12B311B810B512B31092119aN1X19M11B110BXP10B016B010B010B117B519B110BXF1UBXG13",
    "BXF10B014B010B410BX718BB11BV13B111B012BXN10B011B210B012BXP17B111BaN12B01CB016B310B510B211Bc51X",
    "VBjS1090129A129C129C129C11901A02A0102N9600748E907P9005A305A052155162901951629G1XF8X0BE11901390",
    "1199109012941590109010901093108A1193149413911F9X812931a190608f19Y41P901aG9O1A9K1X79J5YD1k1901g",
    "I9dV1pJ911V901Z89d4159312B6169ZU10BYV1VBYT9X11P901YO9B1cL9P1B931003921O9813B110941194129YO11B1",
    "92109YP109c31X39XO119XG1F9R129XH1E9B139b6139Z2119U109cjV1XV9rqF1XM9g5129YU13B099B19T11BYF11BD1",
    "X19Z5109ZO10B210B310BO11B01390BA118XP139YB11BP1HBC10BX517BO1ABXD12BXF10B113B111BX610BY215B111B",
    "111BB10B710BXE10BXI10B012B111B411B010BX911B710BZI119ZO10B110B310BpvE1020B9206X52lD3H9ZU309VAC3",
    "29FB9951FBV907090701090789081916290109180931aE30A0119284906070617950759P159P1A9ZP1182918016901",
    "8A491Ae0109XT1YC921C92109YR10Bd110BQ5ZP14BXa41eU209d022B021B423BX722B320Bb421BYH269jV2X333B739",
    "453eV2U4XB21BI2XS32BXF2L3ABU3H23BZP2010BXL1EBA1J9910B111B912BXG13B111B610BXS12BX314B017BXT10BB",
    "11BXJ18B913B110BYU12B110B011B510B110BaS10B217BK11BXO11B210BX416B214Bc217B112B010BM10BYJ15B010B",
    "311B011BdD13B511B011BQ11BYK17B110B011BU1C9XT10B010B115B010BZ412B113B014Be218B011BdV11B010B310B",
    "aF13B111B310BV15B111BX715B113B710B815B112BXD1CB011BiL16B015BYJ1LB116B011B011BZP15B210B011B016B",
    "010BY711B210B010BgQ11BA11BXJ14B410B010BaH17938G9bYD10B51EBjqP14BXQ16BXWN10BXU13BYE109010BpbN11",
    "B013AaoR1XDB11MBmV12B817A7B116BT13BXQ119K1Y192B09bP1YM9y3109XO109XO109XO109XO10991XH5lV1XMB31X",
    "HB710BD10BL14B01EBXgF16B01GB116B011B014BZ310BaV16BhM10BXS13BE108lB13BuF1cF26BZC26Bv42YF3XV2YF3",
    "bF2dF319D3dV2XB931Z39B1E911E901E901X4991A549U109XP159XS109bH159aP1+N931G921C921ZM931YU951B9310",
    "9E1B931XN9719951X7971T91119YD1gJ9B1D911C9218961XD9016971D93189618961aI901XM9X4195XW311AX--T11A",
    "X--T11AX--T11AX--T11AX--T11AX--T11AX--T11AX--T11AX--T11AX--T11AX--T11AX--T1e1AdFBZmFAXx-T11AX-",
    "-T11AX--T11A"]

/-- The runs of code points that share a direction class. -/
def directionRuns : List Packed.Run := Packed.runs packedDirections

/-- The class with a label of the table. -/
def Direction.ofLabel : Nat → Direction
  | 1 => leftToRight
  | 2 => rightToLeft
  | 3 => arabicLetter
  | 4 => arabicNumber
  | 5 => europeanNumber
  | 6 => europeanSeparator
  | 7 => commonSeparator
  | 8 => europeanTerminator
  | 9 => otherNeutral
  | 10 => boundaryNeutral
  | 11 => mark
  | _ => control

/-- The direction class of a character. -/
def direction (c : Char) : Direction := .ofLabel (Packed.labelAt directionRuns c.toNat)

end ImageSync.Unicode
