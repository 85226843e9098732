import ImageSync.Unicode.Packed

/-!
# `ImageSync.Unicode.Age`: the version of the standard that assigned a character

`Age.members` gives the characters that a version knows: those assigned in it or before.
-/

set_option autoImplicit false

namespace ImageSync.Unicode.Age

/-- The versions in ascending order. A version is named by its number or by `V` and the
number with a low line. -/
def versions : List (Nat × Nat) :=
  [(1, 1), (2, 0), (2, 1), (3, 0), (3, 1), (3, 2), (4, 0), (4, 1), (5, 0), (5, 1), (5, 2), (6, 0), (6, 1), (6, 2), (6, 3), (7, 0),
    (8, 0), (9, 0), (10, 0), (11, 0), (12, 0), (12, 1), (13, 0), (14, 0), (15, 0)]

/-- The packed table: the length of each run of code points that were assigned together,
and one more than the place of their version, or zero for none. -/
def packed : String :=
  String.join [
    "lL134T1740607H427A8D9YO14417XE1049144G7Y5184067748271104C63A111A100129010G3061000100J100XB10A6",
    "104160104010401040104H11506473804B104Y1104B104X810A141634XK1161116111609R11471181159F639FA1B1C",
    "7G00X5110610KX610K0104101G0D00G208C2910981022870Q1300K41A0370D0G4A0801874A010F0O08010CP14AI124",
    "27580CD116Y71144104E104T117914407D400T427Q41027T8HAXG406D0XQ9102KXDB10EB00RC100C00AJ40UO001O50",
    "7O0D0GAD5G1H0O7I9NAO0KEI0HQD0G0B2107XK11CH10B0C410B1CO11A4C0G1B1908190G210071101110L1006100012",
    "03110010761101110210870013011004110K10B1J0K100701070051301110L10061001100110011100100413011102",
    "1200A6031000160E10A0K902100610701002100L10061001100411091002100211001E0012710910D07600H5J00210",
    "071101110L10061001100073110710A10111021600N11301100211A10A1075C9011005120210031201100010011201",
    "1202120710821304120210031100A5001D008B177400G210K71002100M100910G41100O0A61002100316011001A0H1",
    "00O10111A1091600L7A0I0G110K71002100M100910041101761002100316011500O01001119109100190PB00J0G110",
    "N71002100M10CF10C1J0A510A002100310C0I302I016I0H111A10915A2I6A000N1400H420N40084000410642004305",
    "400040074509G1024B0XP130S1X40110001000L110L01000L015L310L610L21000100011L110LC10L2110410001005",
    "10P009110111DV0Y7200X02041A30Q23C52040200K2246204022400E4000A04182A3B1CX40X140A440A140A642A345",
    "AP4XVA3B1AX51000D400D10X61161801082DYP14BY314BYH15B6408XU40804003410640004003410X640804003410U",
    "4080400341064000400341064086400M408U408040034106408X6408I4101C18R420P850YK40H105H100BpL48BS420",
    "YG47G60C60O660O800OM680J6B0C600260016B0YS4071094509750E40O9450YN40K60X940A40Y5B90S71G00B730B73",
    "00720X971047A0X981B30P850980B2018V7R81018XUB00SB10AB509B50DB10EG1NDOXG0YB90O20XC91O00XAA2DBA5D",
    "XJC703CXNA20EA20XIA8I60XAK102K7D70X2B3D0J1G0L40ZB7YN869RAEG3J0O0I0C0B19aQ1023AYP15AL1105110X51",
    "1051107100010001000100U110XK100E100D1105100I11021008100XE104M106544617180668460A003F610610Q100",
    "487C20A102032416382B0C0E2G0H0J0OE0H1146608390AE0XO1140708E608190A2BXF104093A0B1H30YQ184B6dH1D6",
    "0104ZO10406T4XJ617A8B90BAC6G3I0JX4114O0A1K0aA1J607aL196YF17476J117160804YL114B6189677A80A1B17F",
    "8099A2B3A9B0CIB0C0B3CNB0G310C311CR10CX210C010C312C010B611C61D6U12CN10CD10C68390D0A0D1CR63AF6dV",
    "4lV6D758694A39X8A2G4A4BPG10VG000NX1G2KBG0L7G0JOK3HEK0LXE80OXE80OC92A0B2A395A1BZA86B1D40XC8000D",
    "400D10XL81D60080CD00CM88068006800680068006800680068006800VAN83A18IA0B9D6G1I4J4K0L2NAOX10P400YO",
    "4B0cL4P0B430XN12426040100YJ116105116YT10640X710A0J0K00YT100F1N42C4NF8JAB0F6S11700X31BB07E6R117",
    "08XH1E6B137XE10MZM137Z2117U107cjL49NXV7qj51L87A7B0D8HKJ4KCN2OXaC420H416F406B40624060480XFBfBAJ",
    "0VA1CHA7DRA5G0H0DYNB70M8394A19ZAA1C0H1C1DBG9C0D2G0I0K1G5H1K5L1O4L3N401O000O004ON02O1N0G1D0C4AX",
    "B80N209B50XN970Y4A0I70BA50RB1H1KYJAA00ASB20YDB00AB301BUG00XMA80DA109A103ARB3GY2BN04BMD905C105C",
    "105C806C006C00XFG3H1G1L3N30YFHXDB109B50gz32B0MB30XGB30X-V2cnD11DXQ62B10Z98X5061B0414004O100410",
    "0010011001100ZB1FC0OF0hC1FOXV110XL1600OV5B106071OF69850312A6G1HK116179100I100313021060100a6110",
    "0100YT116YT120511051105110212061006190240321B700P700I7001700E710D7X10ZQ7402730XC72087YA81G1I00",
    "BA0N200GXE0XDAa10SA20XGAE0RG30U50G35802JQ540XAG40T70007X3830D8X90X5517X55YF7109750X3I30X3I30X7",
    "G70XJGA00GAO00EO006O001O00AO00EO006O001OY20fMG80LG907GN05O00X9O008OY4057100700XB7001720071007L",
    "B008BXUG708GXF0IH001H404HP91B2009PA400AXV0XND301H1DFH10XDH3800184078002800Q81K102830880K608860",
    "VBVGV0X6G30BG80XLB20SB10QB407BHG603GB06GYF0Y8BXM0XIHC0XIH605HX7K709Kf50UB00X9N002N101NYA02PX7K",
    "70X9KL0POX50RNJ0ML80YDC30TC5O800GY1B0O900K10OD609D50XKD00DD2K0N70X6G80Y8D3H0G1N9D0G4H00JGA0HG0",
    "0XAG0I2PXT06H000H003H00EH00AH50XQG409G500H2G007G101G10LG006G001G004G000K8G101G102G100H500G406G",
    "106G204GaA0YPI0N0I000I0K0L1NT0Y7G709Gb50XLG10HGJHX10Y4GA09G50CII0XND0L0O509DXL0PH0K10EH30FH6Ob",
    "O0XRKZ30YIGB00G6N100N107N001N00TN001N10BN809NY507L10XDL10ALQ0Y7J70XJJ1LMJ0K4JC0FOXOG609PdL08I0",
    "0XCI00DI90SI20VI10LI00DIY806J001J00XBJ200J001J008J709J505K001K00X4K001K005K609KfL0OK60GP00X8P2",
    "0RPYL00NE0XHLC00LxE9X9G0HZ50Z29BG00390GA0c3HYoB0Z2OC0XXEB0P8LSPZz90o6HejO0nOC60UG009G301GYEO00",
    "9O50TG105G90Y5G909G006G00KG40IGrF0YQKZ40Y4D5L300LXED8L60GDXV00I0J1L0NA01ND0b-CI4K5L70tIIl2NX90",
    "8Net603O006O001O001CeSJ3OE00PS02L100PD03L70iBJYe30ZAG40CG208G609G107GaoR0XDO10MO80ZJOXR0dL590X",
    "65100AbJ5AH1OK0Y58ZP0JPB0JKB0YM780H96Ka60YK500Y65001510051015103500B500050035071500Y0500351075",
    "006500R5003500450005206500gH51810f151910XH5qBHE04H00EHXYF0UO505PcK06I00GI106I001I004I40XTPX000",
    "PZF0XCL20DL109L301LfV0UOG0XPL400LkF0X9Pt506O003O001O00EO00c4G10FGX80YAI0L309I301IuG0Y3KYB0XSLc",
    "103D00QD001D000D100D009D003D000D000D500D300D000D000D002D001D000D100D000D000D000D000D001D000D10",
    "3D006D003D003D000D009D00GD402D004D00GDXJ01DeD0XBA30Z3AB0EC10DC0G00EC00ECLG90AB1G2NUB0K0C0BAC0B",
    "0C0B1C0B2C0B2C4B7C0B6C0B9C1D0L2N8C0B0C1B1C0B9C3B1C0B9CHI0NXN0PC0B1CC0X1B8C0I308B601CD05JaP0X0C",
    "BG2H5C0GY5C0G1HJCBGX4C0G4C3G4HBGGC6G7HXUC0G0C0GbLC0G3C1G0HXTC1G3D6G4HNCHG0IX8G0IYLG4C0DFC0D2C0",
    "D0C0D0C0D0C0D2C0D5C1D3C0D0C1D3C0DBC1G1HACXFGY5C9G0H1I1J0L1N300P2OCG203G2I1J0K0L1N20ZJC2P304PYK",
    "G3K0P50BL300OE0BG30XNG709G50X7G70TG101NYD0BJ0N2L8H5I0J7I7J0I1JBI0LBI0J2KEICJ4K0L0N3K1N0O0K0L3K",
    "4HCI5JAK1N5L2N1L9K5L0H1K7L0N0O2LMJOKYJLB0DK103L0N2P2L1O202L3N1P605LIN3O2P6N3O2P000P2N2O701P6N2",
    "O1P307O0P606O1P60aIN00XMNX409NXW3012XfsM56N1OV0aXKB3O0P50cTC10bq1HD0dfGJZWU0mT5XkV012awAN40aYV",
    "PXtYD012X--T012X--T012X--T012X--T012X--T012X--T012X--T012X--T012X--T012X--T0120005T0YV5ZV0dF7X",
    "-mD0aWW12"]

/-- The runs of code points that were assigned together, in ascending order. -/
def runs : List Packed.Run := Packed.runs packed

/-- The names of a version. -/
def versionNames (v : Nat × Nat) : List String :=
  [toString v.1 ++ "." ++ toString v.2, "V" ++ toString v.1 ++ "_" ++ toString v.2]

/-- The characters that the version at a place of the list knows. -/
def members (place : Nat) : Text.CharSet :=
  Packed.charsWhere (fun n => 0 < n && n ≤ place + 1) runs

end ImageSync.Unicode.Age
