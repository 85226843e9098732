import ImageSync.Unicode.Packed

/-!
# `ImageSync.Unicode.GeneralCategory`: the general category of every code point

The general category sorts the code points into thirty classes such as uppercase letters
or decimal digits. `GeneralCategory.runs` is the table of the standard, `ofChar` looks a
character up, `members` gives the characters of some classes, and `names` lists the classes
that a category name stands for; the names are those of the standard, for single classes and
for their groups.
-/

set_option autoImplicit false

namespace ImageSync.Unicode

/-- The thirty classes of the general category. -/
inductive GeneralCategory where
  | uppercaseLetter | lowercaseLetter | titlecaseLetter | modifierLetter | otherLetter
  | nonspacingMark | spacingMark | enclosingMark
  | decimalNumber | letterNumber | otherNumber
  | connectorPunctuation | dashPunctuation | openPunctuation | closePunctuation
  | initialPunctuation | finalPunctuation | otherPunctuation
  | mathSymbol | currencySymbol | modifierSymbol | otherSymbol
  | spaceSeparator | lineSeparator | paragraphSeparator
  | control | format | surrogate | privateUse | unassigned
  deriving DecidableEq, Repr

namespace GeneralCategory

/-- The classes in the order of their labels in the table. -/
def all : List GeneralCategory :=
  [.uppercaseLetter, .lowercaseLetter, .titlecaseLetter, .modifierLetter, .otherLetter,
    .nonspacingMark, .spacingMark, .enclosingMark, .decimalNumber, .letterNumber, .otherNumber,
    .connectorPunctuation, .dashPunctuation, .openPunctuation, .closePunctuation,
    .initialPunctuation, .finalPunctuation, .otherPunctuation, .mathSymbol, .currencySymbol,
    .modifierSymbol, .otherSymbol, .spaceSeparator, .lineSeparator, .paragraphSeparator,
    .control, .format, .surrogate, .privateUse, .unassigned]

/-- The packed table: the length and the label of each run of code points of one class. -/
def packed : String :=
  String.join [
    "VP0M2H0J2H0D0E0H0I0H0C1H981H2I1HP00D0H0E0K0B0KP10D0I0E0IX0P0M0H3J0L0H0K0L040F0I0Q0L0K0L0I1A0K0",
    "11H0K0A040G2A0HM00I60N10I710001000100010001000100010001000100010001000100010001000100010001000",
    "1000100010001000100010001000100010001000100110001000100010001000100010001001100010001000100010",
    "0010001000100010001000100010001000100010001000100010001000100010001000100011001000100211001000",
    "1100120113001100120211001100100010001100100110001100120010001101104002134000201000201000201000",
    "1000100010001000100010001001100010001000100010001000100010001001100020100012001000100010001000",
    "1000100010001000100010001000100010001000100010001000100010001000100010001000100010001000100010",
    "0010061100110110001300100010001000100Y4104Q1H33KB3DK436K030K03GKZF500010001030K00011T03210H003",
    "T1K000H200T000T1001G00T80X210011202100010001000100010001000100010001000100010001004100010I0001",
    "1011XI0XF1000100010001000100010001000100010001000100010001000100010001000100010L45170001000100",
    "0100010001000100010001000100010001000100010001000100010001000100010001000100010001000100010001",
    "0001100100010001000100010001001100010001000100010001000100010001000100010001000100010001000100",
    "0100010001000100010001000100010001000100010001000100010001000100010001000100010001000100010001",
    "0001000100010001000100010001000100010TX501T035HX810H0C1T1L0J0TXC50C050H150H150H057TQ43T341HAT5",
    "Q2I1H0J1H1LA50H0Q2HV40394K5983H1405Z240H04650Q0L5513150L351498241L04DH0T0Q0405T4Q51TYO4A504DT9",
    "8X0485130L2H031T051JL4350385032503451TEH0TO4251T0H0TA44TN40K540T1Q5T75X8403N50QV506XL405060504",
    "2675360516046594151H980H03E405160T741T141TL40T640T042T341T050426351T161T1605047T063T140T24151T",
    "98141J5A0L0J040H051T15060T543T141TL40T640T140T140T141T050T26153T151T252T056T340T046T981524050H",
    "9T15060T840T240TL40T640T140T441T050426450T15060T16051T04ET14151T980H0J6T04550T05160T741T141TL4",
    "0T640T140T441T0504060506351T161T16056T15063T140T24151T980L045A9T05040T542T240T342T140T040T142T",
    "142T242TB43T1605162T260T26051T045T06DT982A5L0J0L4T052605740T240TM40TF41T050425360T250T356T150T",
    "241T041T14151T986T0H6A0L0405160H740T240TM40T940T441T05040605460T05160T16156T165T140T14151T980T",
    "1406BT1516840T240TX84150426350T260T2605040L3T24066A24151T988A0L540T05160TH42TN40T840T041T642T0",
    "53T26250T050T765T981T160HBTXF40514653T0J5403750H981HX4T140T040T440TN40T040T94051485041T440T030",
    "T650T981T34VT042LEH0L0H2L155L989A0L050L050L050D0E0D0E16740TX343TD506450H1544A50TX350T7L055L0T1",
    "L4H3L1HX4TXA4163506550615161504985H5416153425042614662435C4051615560504069826051LX500T004T001T",
    "XA10H0321g840T341T640T040T341TX840T341TX040T341T640T040T341TE40TXO40T341TY241T258HJA2TF49L5TYL",
    "01T511T0CpB40L0HG40MP40D0E2TYA42H29746TH425068TI415061H8TH415BTC40T240T15BTXJ4150665760516A52H",
    "032H0J04051T985T9A5T5H0C3H250Q05985TX2403XK46T4415X1405044TY549TU40T253615263T160556253T0L2T1H",
    "98T41T44ATXB43TP45T980A2TX1LM41516051T1HXK4060506650T050605167556951T05985T985T6H035H1TD507F5X",
    "GT3506XE40506450605460516742T986H9L858L1H0T1506T40635161506251498XB405061526050625167T3HX34767",
    "516152T4H982T2498T4531H816TXA01T207H7T250HC5066534055405140615044TXB1XU3C103X11X43XV5000100010",
    "0010001000100010001000100010001000100010001000100010001000100010001000100010001000100010001000",
    "1000100010001000100010001000100010001000100010001000100010001000100010001000100010001000100010",
    "0010001000100010001000100010001000100010001000100010001000100010001000100010001000100010001000",
    "1000100810001000100010001000100010001000100010001000100010001000100010001000100010001000100010",
    "0010001000100010001000100010001000100010001000100010001000100010001000100010001000100010001000",
    "1000100010001008170511T501T71707170511T501T710T000T000T000T007170D11T717271727172410T1130020K0",
    "12K210T1130022K311T11300T2K71402K1T210T1130021K0TAM4Q5C1H0F0G0D1F0G0D0F7H0N0O4Q0M8H0F0G3H1B2H0",
    "I0D0EAH0I0H0B9H0M4Q0T9Q0A031T5A2I0D0E039A2I0D0E0TC32TX0JETC5370527B5ET1L003L001L01201120010L00",
    "1L0I405L000L000L000L300L01300134011L11104I00310L0I1L010LFAX290001390A1L3T4I4L1I3L0I1L0I1L0I6L0",
    "IUL1I1L0I0L0IULeBI7L0D0E0D0EJL1I6L0D0EYGL0ITLOIX7L5IY4LOTALKTXRAYDLLAbML0I8L0IXLL7IZEL0IdNL0D0",
    "E0D0E0D0E0D0E0D0E0D0E0D0ETAXBL4I0D0EUI0D0E0D0E0D0E0D0E0D0EFIdVLa2I0D0E0D0E0D0E0D0E0D0E0D0E0D0E",
    "0D0E0D0E0D0E0D0EXUI0D0E0D0EVI0D0Ee1IXFLKI1L5IX6L1TVL0TZ8LXF0XF10001201100010001000130010011005",
    "1132001000100010001000100010001000100010001000100010001000100010001000100010001000100010001000",
    "1000100010001000100010001000100010001000100010001000100010001000100010001000100010001000100010",
    "0010001000100115L000100012500014T3H0A1HX510T014T011TXN46T030HDT05M48T640T640T640T640T640T640T6",
    "40T640TV51H0F0G0F0G2H0F0G0H0F0G8H0C1H0C0H0F0G1H0F0G0D0E0D0E0D0E0D0E4H039H1C3H0C0H0DCH1L2H0D0E0",
    "D0E0D0E0D0E0CX1TPL0TYOLBTcLLPTBL3T0M2H0L0304090D0E0D0E0D0E0D0E0D0E1L0D0E0D0E0D0E0D0E0C0D1E0L89",
    "35160C431L2903040H1L0TYL41T151K13040CYP40H23044TXA40TYT40T1L3A9LV4X3LBTF4UL0T9ATL7A0LEAVL9AX6L",
    "EAfVLcjV4XVLqmK403XZM42TXML8TX74531HeB4032HF49814JT0001000100010001000100010001000100010001000",
    "10001000100010001000100010001000100010001000100010405270H950H030001000100010001000100010001000",
    "10001000100010001000100011315Y5499155H7TMK831K000100010001000100010001002100010001000100010001",
    "0001000100010001000100010001000100010001000100010001000100010001000100010001000100010001000100",
    "010001000103710001000110010001000100010001031K000100010400010021000100010001000100010001000100",
    "0100010001400140010001000100010001000100010001300100014T00010T010T0100010001NT2300010413016405",
    "24053405M41615063L052T5A1L0J0L5TXJ43H7T16XH4F6157T1H985TH5542H040H140598R4751HM4A516AT0HS42T25",
    "06XE4051635161526CH0T03983T1H4405038498440TX8455161516158T24057405061T981T3HF403542L04060506XH",
    "405042514154415040504NT14031HA40615161H041306059T541T541T548T640T640TXA10K3381031K3TYF1X241605",
    "1605160H06051T985Tgz34BTM43TXG43TX-VRcdVShD41TZ94X5T61BT414T0405940IC40T440T040T140T140TZB4GKF",
    "ThA40E0DFLXV41TXL46T0LVTB40J2LF56H0D0E0H5TF50H1C1B0D0E0D0E0D0E0D0E0D0E0D0E0D0E0D0E1H0D0E3H2B2H",
    "0T3H0C0D0E0D0E0D0E2H0I0C2I0T0H0J1H3T440Ta641T0Q0T2H0J2H0D0E0H0I0H0C1H981H2I1HP00D0H0E0K0B0KP10",
    "D0I0E0I0D0E0H0D0E1H9403XC413U42T541T541T541T242T1J0I0K0L1J0T0L3I1L9T2Q1L1TB40TP40TI40T140TE41T",
    "D4X1TZQ44T2H3TXCA2T8LXK93AGL1A2L0TCL2T0LXETXCL05a1TS42TXG4ET05QA3TV43A8TJ40974094TX54454TT40T0",
    "HX343T740H49X9TX70X71YD41T985TX303TX313TX747TXJ4AT0HA00TE00T600T100TA10TE10T610T11Y2TfM48TL49T",
    "74NT530TX930T83Y4T541T040TXB40T142T041TM40T0H7AM41L6AU47T8AXFTI40T144T4AL45A2T0HP44T0HXVTXN43T",
    "1A14FA1TXDA04250T154T35340T240TS41T253T058A6T8H6TS41A0HS42AVT740LR4153T4A6H8TXL42T6HL41T7AI44T",
    "7AH46T3HBT6AYFTY84XMTXI0CTXI16T5AX34357T98f5TUA0TX940T150C1T14YAT25S49A047TL4A53A4HLTH4353HX5T",
    "K46AJTM48T060506XK4E56H3TJA98051415048T2506XC4263516151H0Q3H059T0Q1TO46T985T25X344506750T983H0",
    "416047TX24051H048T1506XF4268516343H350H060598040H042H0TJAATH40TO42625160506155H051405XTT640T04",
    "0T340TE40T940H5TXE40526754T985T15160T741T141TL40T640T140T440T15041605361T161T261T045T064T44161",
    "T652T45aATXK4267516250605344H981H0T0H0524TTXF42655060536150615140H047T98b5TXE426351T36150615MH",
    "3415X1TXF42675160506152H04AT985TCHITXA405060516550605040H5T98XLTQ41T25163506453T981A2H0L64bOTX",
    "B4268506150HZ3TV0V1988ABT741T041T740T140TN4560T161T15060504060406052H8T98Y5T741TX6426351T15360",
    "5040H0406QT0495X74550604357H057T04551625XD4C506152H044HCTY846T9HdLT840TX4406650T550605044H9T98",
    "IA2T1HT41TL50T066506150615Y8T640T140TX54552T050T150T6504057T985T540T140TV4460T150T16050605046T",
    "98fLTI415161H6T150406C40TX1416452T16050605CH98YLT04ETKA7L3JGLCT0HyP4Z5TZE90T4HATc34YoBTZ041HCT",
    "XXF4FQ0554E5Zz9To64ejOTnO46TU40T983T1HYE40T985TT41T450H9TXF4654H3L330H0L9T980T6A0TK44TI4rFTV0V",
    "1MA3HZ4TYA43T0504XM66T35C3XVT130H0305AT16DTb-N47TXcL4X9T84et6T330T630T130Tf24ET04ST241T04DT347",
    "TiB4Ye3TZA44TC42T846T941T0L150H3QaoRTXD51TM58TZJLXRTdLL9TX6L1TXRL16252L567Q751L65TL35XSLKTY1L2",
    "50LZPTJABTJABTYML8TOAa6TP0P1P0610TH1P0P1000T101T001T101T300T70310T010T610TA1P0P1100T301T700T60",
    "0TP1100T300T400T002T600TP1P0P1P0P1P0P1P0P1P0P1P0R11TO00IO10I51O00IO10I51O00IO10I51O00IO10I51O0",
    "0IO10I5100011TXH8lVLXM53LXH57L05DL051L4HET450TE5XYFT9104J15T51cKT650TG51T650T150T454TXT3X0T05Z",
    "FTXC42T65631T983T040LfVTT405GTXB435984T0JkFTQ4033598t5T640T340T140TE40Tc441T8A65X8TX10X1165033",
    "T983T1HuGTXQA0L2A0J3AYBTXCA0LEAc1T340TQ40T140T041T040T940T340T040T045T043T040T040T040T240T140T",
    "041T040T040T040T040T040T140T041T340T640T340T340T040T940TG44T240T440TG4XJT1IeDTXBL3TZ3LBTEL1TEL",
    "0TEL0TX4L9TCAb0LXNTSLCTXBL3T8L6T1LDT5LaPTdQL4KsNL3TGL2TCL2TZML3TYUL5TBL3T0LETBL3TXNL7T9L5TX7L7",
    "TTL1T1LYDTgJLBTDL1TCL2T8L6TXDL0T6L7TDL3T8L6T8L6TaIL0TXMLX4T98XW5TXfsV4VTaXP45TcT41Tbq14DTdfG4Z",
    "WUTmT4Xl1TawA44TaYV4rtYGT0QTTYVQZVTdF5X-mFTX--TS1TX--TS1T"]

/-- The runs of code points of one class, in ascending order. -/
def runs : List Packed.Run := Packed.runs packed

/-- The class of a label. -/
def ofLabel (n : Nat) : GeneralCategory := all.getD n .unassigned

/-- The class of a character. -/
def ofChar (c : Char) : GeneralCategory := ofLabel (Packed.labelAt runs c.toNat)

/-- The characters whose class is in a list. -/
def members (classes : List GeneralCategory) : Text.CharSet :=
  Packed.charsWhere (fun n => classes.contains (ofLabel n)) runs

/-- The names of the classes and of their groups, and the classes each name stands for.
Surrogates have no name, for no character is one. -/
def names : List (List String × List GeneralCategory) :=
  [(["Lu", "Uppercase_Letter"], [.uppercaseLetter]),
    (["Ll", "Lowercase_Letter"], [.lowercaseLetter]),
    (["Lt", "Titlecase_Letter"], [.titlecaseLetter]),
    (["LC", "Cased_Letter"], [.uppercaseLetter, .lowercaseLetter, .titlecaseLetter]),
    (["Lm", "Modifier_Letter"], [.modifierLetter]),
    (["Lo", "Other_Letter"], [.otherLetter]),
    (["L", "Letter"],
      [.uppercaseLetter, .lowercaseLetter, .titlecaseLetter, .modifierLetter, .otherLetter]),
    (["Mn", "Nonspacing_Mark"], [.nonspacingMark]),
    (["Mc", "Spacing_Mark"], [.spacingMark]),
    (["Me", "Enclosing_Mark"], [.enclosingMark]),
    (["M", "Mark", "Combining_Mark"], [.nonspacingMark, .spacingMark, .enclosingMark]),
    (["Nd", "Decimal_Number", "digit"], [.decimalNumber]),
    (["Nl", "Letter_Number"], [.letterNumber]),
    (["No", "Other_Number"], [.otherNumber]),
    (["N", "Number"], [.decimalNumber, .letterNumber, .otherNumber]),
    (["Pc", "Connector_Punctuation"], [.connectorPunctuation]),
    (["Pd", "Dash_Punctuation"], [.dashPunctuation]),
    (["Ps", "Open_Punctuation"], [.openPunctuation]),
    (["Pe", "Close_Punctuation"], [.closePunctuation]),
    (["Pi", "Initial_Punctuation"], [.initialPunctuation]),
    (["Pf", "Final_Punctuation"], [.finalPunctuation]),
    (["Po", "Other_Punctuation"], [.otherPunctuation]),
    (["P", "Punctuation", "punct"],
      [.connectorPunctuation, .dashPunctuation, .openPunctuation, .closePunctuation,
        .initialPunctuation, .finalPunctuation, .otherPunctuation]),
    (["Sm", "Math_Symbol"], [.mathSymbol]),
    (["Sc", "Currency_Symbol"], [.currencySymbol]),
    (["Sk", "Modifier_Symbol"], [.modifierSymbol]),
    (["So", "Other_Symbol"], [.otherSymbol]),
    (["S", "Symbol"], [.mathSymbol, .currencySymbol, .modifierSymbol, .otherSymbol]),
    (["Zs", "Space_Separator"], [.spaceSeparator]),
    (["Zl", "Line_Separator"], [.lineSeparator]),
    (["Zp", "Paragraph_Separator"], [.paragraphSeparator]),
    (["Z", "Separator"], [.spaceSeparator, .lineSeparator, .paragraphSeparator]),
    (["Cc", "Control", "cntrl"], [.control]),
    (["Cf", "Format"], [.format]),
    (["Co", "Private_Use"], [.privateUse]),
    (["Cn", "Unassigned"], [.unassigned]),
    (["C", "Other"], [.control, .format, .privateUse, .unassigned])]

end GeneralCategory

end ImageSync.Unicode
