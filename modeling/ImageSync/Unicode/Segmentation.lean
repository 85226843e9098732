import ImageSync.Unicode.Packed

/-!
# `ImageSync.Unicode.Segmentation`: the break properties of a character

The standard divides texts into grapheme clusters, words and sentences by three
properties. For each of them the names of its values in the order of their labels, and
the packed table.
-/

set_option autoImplicit false

namespace ImageSync.Unicode.Segmentation

/-- A break property: the names of its values in the order of their labels, and its packed
table. -/
structure BreakProperty where
  values : List (List String)
  packed : String

/-- The characters with the value of a given label. -/
def BreakProperty.members (b : BreakProperty) (label : Nat) : Text.CharSet :=
  Packed.charsWhere (· == label) (Packed.runs b.packed)

/-- Where a text may be divided into grapheme clusters. -/
def graphemeClusterBreak : BreakProperty where
  values :=
    [["CR"], ["CN", "Control"], ["EX", "Extend"], ["L"], ["LF"], ["LV"], ["LVT"], ["XX", "Other"],
      ["PP", "Prepend"], ["RI", "Regional_Indicator"], ["SM", "SpacingMark"], ["T"], ["V"],
      ["ZWJ"]]
  packed :=
    String.join [
      "91041100H1YU7X01C701oH7ZF2eI762e67XC20702071207120702XN75897A20701XD7K2F702Z476208075217120732",
      "X07080702T7Q2YQ7A2XP7828702N732078207220742XA722XJ7185772X97N208V20AXL7020A02072A723A021A07629",
      "712S7021AXN70207021A32171A171A0287029712P70217120AXN702072A12371217222702T7122702A7120AXN70207",
      "2A4207120A071A02J712L75207021AXN70207120A32171A171A0267229712T702XQ7020A021A272A072A028702X770",
      "22A02XM70207223A072207326712A712S7021AXN702070A021A021A07021A071A126712A712E70AB7121AXM7120702",
      "1A32072A072A020877029712S7021AY570237021A220702076A02H71AXS702070A62B772Z1702070A82A762Y8712Q7",
      "0207020702371AXG7D20A42071247A207X328702Z57320A5207121A12M71A123722F732C702070A125702E702Z17YV",
      "3Y7CYNBgS722zH7220AR7120AS712T712XV7120A627A021AA28702XC7220102ZK712X1702ZL7223A122A371A025A22",
      "cQ7121A02XO70A020A620702070217725A921702XF7U2XG7320AXE7620A024A021AX5782B7120AT70A321A120A22XN",
      "7020A122A020A221AXF77A721A12aN72207C20A6237025702170A12c57XV2mA701020D11N761XG7F1YV7X02Y-T722a",
      "C702YV7V2n9752Z8712zkJ7320792V712YF712eF70227023702M71A120A3702YI71AXH7FA12P7H2C702X5772O7A21A",
      "B7S327220AXE7021A321A122AX3702Y27521A121A12B70277020AXD702XI7020722171247120702X870A121A470A02",
      "dB71A021A021A070A02H705Q605Q605Q605Q605Q605Q605Q605Q605Q605Q605Q605Q605Q605Q605Q605Q605Q605Q60",
      "5Q605Q605Q605Q605Q605Q605Q605Q605Q605Q605Q605Q605Q605Q605Q605Q605Q605Q605Q605Q605Q605Q605Q605Q",
      "605Q605Q605Q605Q605Q605Q605Q605Q605Q605Q605Q605Q605Q605Q605Q605Q605Q605Q605Q605Q605Q605Q605Q60",
      "5Q605Q605Q605Q605Q605Q605Q605Q605Q605Q605Q605Q605Q605Q605Q605Q605Q605Q605Q605Q605Q605Q605Q605Q",
      "605Q605Q605Q605Q605Q605Q605Q605Q605Q605Q605Q605Q605Q605Q605Q605Q605Q605Q605Q605Q605Q605Q605Q60",
      "5Q605Q605Q605Q605Q605Q605Q605Q605Q605Q605Q605Q605Q605Q605Q605Q605Q605Q605Q605Q605Q605Q605Q605Q",
      "605Q605Q605Q605Q605Q605Q605Q605Q605Q605Q605Q605Q605Q605Q605Q605Q605Q605Q605Q605Q605Q605Q605Q60",
      "5Q605Q605Q605Q605Q605Q605Q605Q605Q605Q605Q605Q605Q605Q605Q605Q605Q605Q605Q605Q605Q605Q605Q605Q",
      "605Q605Q605Q605Q605Q605Q605Q605Q605Q605Q605Q605Q605Q605Q605Q605Q605Q605Q605Q605Q605Q605Q605Q60",
      "5Q605Q605Q605Q605Q605Q605Q605Q605Q605Q605Q605Q605Q605Q605Q605Q605Q605Q605Q605Q605Q605Q605Q605Q",
      "605Q605Q605Q605Q605Q605Q605Q605Q605Q605Q605Q605Q605Q605Q605Q605Q605Q605Q605Q605Q605Q605Q605Q60",
      "5Q605Q605Q605Q605Q605Q605Q605Q605Q605Q605Q605Q605Q605Q605Q605Q605Q605Q605Q605Q605Q605Q605Q605Q",
      "605Q605Q605Q605Q605Q605Q605Q605Q605Q605Q605Q605Q605Q605Q605Q605Q605Q605Q605Q605Q605Q605Q605Q60",
      "5Q605Q605Q605Q605Q605Q605Q605Q605Q605Q605Q605Q605Q605Q605Q605Q605Q605Q605Q605Q605Q605Q605Q605Q",
      "605Q605Q605Q605Q605Q605Q605Q605Q605Q605Q605Q605Q605Q605Q605Q605Q605Q605Q605Q605Q605Q605Q605Q60",
      "5Q605Q605Q605Q605Q605Q605Q605Q605Q605Q605Q605Q605Q605Q605Q605Q605Q605Q605Q605Q605Q605Q605Q605Q",
      "605Q605Q605Q605Q605Q605Q605Q605Q605Q605Q605Q605Q605Q605Q605Q605Q605Q605Q605Q605Q605Q605Q605Q60",
      "5Q605Q605Q605Q605Q6B7MC37XGBev1702t07F2F7F2cE701aT712YF7B1m0702d1702aK742Xq572207124732X772237",
      "02b4712nS732i2712YF722Y57A2XG732ZP70A020AXK7E2X8702171297220AXC72A321A12170837029708XH722X3742",
      "0A72F71AXB702B7120AXF72A821A07184732070A02YR72A221A020A1257021702aS7022A72K7121AXM71207020A023",
      "A171A172A8702971A17622742bV72A721A220A02M702YG7021A520A021A020A120A12dA7021A32173A120A12Q712YH",
      "72A721A020A12Z97020A021A520A02Z472217320A42dV72A820A12dK7024A071A17120A02080A080A02aC72A321712",
      "3A02270AR792X77520A0832770287521A22X7758C20A12iK70A6207520A02YH7L2070A620A120A12ZP752270207120",
      "7620802Y174A0712071A020A02gQ7121A8712080AXF71A42271A020A02bdC7F10257E2jqP742XQ762XWN70207XMA67",
      "32YG702A71ApbA7120731aoR7XD217M2mT7020A22270A4271721762T732aJ722XzQ7XM237XH27702D702L74207E2Xg",
      "F76207G2176207120742Z3702aV762hM702XS732lR732+V762ZC762YaQ7P9lQ742uY-V7V1YV2ZV1dF2ZmF1bx-V7"]

/-- Where a text may be divided into words. -/
def wordBreak : BreakProperty where
  values :=
    [["LE", "ALetter"], ["CR"], ["DQ", "Double_Quote"], ["Extend"], ["EX", "ExtendNumLet"],
      ["FO", "Format"], ["HL", "Hebrew_Letter"], ["KA", "Katakana"], ["LF"], ["ML", "MidLetter"],
      ["MN", "MidNum"], ["MB", "MidNumLet"], ["NL", "Newline"], ["NU", "Numeric"], ["XX", "Other"],
      ["RI", "Regional_Indicator"], ["SQ", "Single_Quote"], ["WSegSpace"], ["ZWJ"]]
  packed :=
    String.join [
      "9E081C01HE0H0E023E0G3E0A0E0B0E9D090A4EP03E040EP09E0CX3E001E056E000E091E004EM00EU00EkV05EX10ZF3",
      "400E101E300A005E0009200E000EJ00EYI00EaA00E63b500EX501E300E0009X800A005EXC30E030E130E130E037EQ6",
      "3E360009AE555E1A1EA30E052EXA0K39D0E0D0A0E1003Z200E0063050E5310130E33109D201E00EE050003T0Q31EYO",
      "0A300DE9DX0083101E0A0E001E031EL033008300230043HEO0233EA04EN00E500E155E73X90N305X03XL02300H3006",
      "390131E9D0EF0230E701E101EL00E600E002E301E0300631E131E23007E033E100E20131E9D109E000E031E230E503",
      "E101EL00E600E100E100E101E030E433E131E232E036E300E006E9D132003AE230E800E200EL00E600E100E401E030",
      "0730E230E231E00EE10131E9D8E00530E230E701E101EL00E600E100E401E0300631E131E236E233E100E20131E9D0",
      "E00FE03000E502E200E302E100E000E102E102E202EB03E432E230E331E005E03DE9DFE43700E200EM00EF01E03006",
      "30E230E336E130E201E001E10131E9DFE00230E700E200EM00E900E401E0300630E230E336E135E100E10131E9D0E1",
      "003BE33800E200EX801300630E230E33004E20036E20131E9D9E500E230EH02EN00E800E001E602E033E530E030E73",
      "5E9D1E13XSE031E63BE730E9DYME031E83AE630E9DX5E00ME135E9DAE030E030E033E13700EX303EJ30E1340A30EX3",
      "38E03Z3EJ30E9DBE333E230E231E632E33CEB30E039D331EX500E004E001EXA00EgC00E301E600E000E301EX800E30",
      "1EX000E301E600E000E301EE00EXO00E301EY201E23VEF0FEYL01E502EpB01EG00HP04EYA02EA06EH0338EI023AEH0",
      "13BEC00E200E13XVEV38E031E9DX0E2305039D5EYO06E4013X1003004EY509EU00EB33EB39E9DZVE9DX5EM043XOE93",
      "0ES31E039D5E9DLEU3XGE43XE0G3702E9DGE83BE23T0C3109DXB0D3BEX30J37E9D2E209DX301E806EXA01E20FE230E",
      "K3300350031023004EbV0XV3eL01E501EX501E501E700E000E000E000EU01EXK00E600E002E200E602E301E503EC04",
      "E200E602E6H0E2H0E030I157E1B9E0B1E091C4504EE142E0AEE049E0H450E950E00CE00FEC0XIEX03GE003E001E900",
      "E002E405E000E000E000E300EA01E304E403E00GEX80vCEXJ0XuLEd405E302310BEX500E004E001EXN06E00EE03M08",
      "E600E600E600E600E600E600E600E600EV3XEE00kFE0H3E00X3E530E474E10YRE13172EYQ70E374EXA00EYT0GEV0XF",
      "EF7cFEXE70EYN7xb7EXaC0Y2EXD01EeC02EF09D10JEXE0330E930EU013YF013LEc204E100E000E40NEF00320033003",
      "M0433E03IEXJ0BE13XH0H39E9D5EH3502E000E10039DR0731EM0C3BES02E33XE0D3DE009DAE039E9D5EX80D38E2003",
      "70131E9DX0E23XHE030E231E134E130E03TEA0431E20139E501E501E508E600E600EXP05EZI0730E131E9D5Egz30BE",
      "M03EXG0eu3E60BE404E0603960EC60E460E060E160E160E96Z10X0EhA0HEXV01EXL0X7EB03EF30A1E090AAEF32E14N",
      "E240A0E0B0E0A09PE400Ea601E056E0B3E0A0E0B0E9D090A4EP03E040EP0AEXN713U02E501E501E501E20RE253EB00",
      "EP00EI00E100EE01ED0X1EZQ0Y4EXK0a7E03a1ES02EXG0EE03UEV0CET04EX50434ET01EX303E700E40X9EaT01E9D5E",
      "X303EX303EX707EXJ0BEA00EE00E600E100EA00EE00E600E10Y2EfM08EL09E70NE500EX900E80Y4E501E000EXB00E1",
      "02E001EM09EM08EU0Y0EI00E109EL09EP0Y5EXN05E10XVE00230E134E33300E200ES01E233E03VES02ES0X2E700ER0",
      "13OEXL09EL09EI0CEH0ZDEY80XMEXI0CEXI0CEX30337E9Dg5EX900E132E10YAE23S09E007EL0A3UEH033X9EK0QEM08",
      "E23XK0E3UE9D031013008E33XC0A31E053E039E051EO06E9D5E23X30D30E9D3E0013007EX20031E008E23XF0D3303E",
      "330E139D000E00X2EH00EO0B35E031003XTE600E000E300EE00E906EXE0B34E9D5E330E701E101EL00E600E100E400",
      "E1300631E131E231E005E034E40131E632E43aAEXK0H3304E9D3E0320TEXF0J3100E007E9Db5EXE0631E83ME3013X1",
      "EXF0G32E00AE9DX5EXA0C3006E9DYIEE33E9Dc5EXB0E3Z4EXV09DKE701E001E700E100EN0530E131E3300030013BE9",
      "DY5E701EX60631E63000E0003QE0093X706300337E037E00A3XD0F32E00HEY80e6E800EX40730E7300EE9DNET01EL3",
      "0ED3Y8E600E100EX50532E030E130E6300037E9D5E500E100EV0430E130E43006E9DfLEI0338E130003C00EX10632E",
      "43CE9DYLE00YEEyP0Z5EZE0GEc30YoBEZ00EEXXF0F50350E3Zz9Eo60ejOEnO06EU00E9D5EYE00E9D5ET01E43AEXF06",
      "38E30BE9D8EK04EI0rFEXV0ZVEYA03E0300XM36E33C0XVE100E0003AE13l-TE370E670E170E07eUE27XHE07DE37YqN",
      "EZA04EC02E806E902E130E35aoREXD31EM3mTE432E5375731E63TE33aJE23jQEYK00EY600E101E001E101E300EB00E",
      "000E600EY000E301E700E600ER00E300E400E002E600EgJ01EO00EO00EU00EO00EU00EO00EU00EO00EU00EO00E701E",
      "XHDlVEXM33EXH37E03DE03LE430EE3XYFEU05E50cKE630EG31E630E130E434EXT0X0E03ZFEXC02E63601E9D3E00g0E",
      "T003GEXB0339DkLER0339Dt5E600E300E100EE00Ec40AE63X8EY3063003E9DXb5E300EQ00E100E001E000E900E300E",
      "000E005E003E000E000E000E200E100E001E000E000E000E000E000E100E001E300E600E300E300E000E900EG04E20",
      "0E400EG0pJEP05EP05EP0YREPFlQE43X-FE9DuXW6E05TEYV3ZVEdF3b-mFE"]

/-- Where a text may be divided into sentences. -/
def sentenceBreak : BreakProperty where
  values :=
    [["AT", "ATerm"], ["CR"], ["CL", "Close"], ["EX", "Extend"], ["FO", "Format"], ["LF"],
      ["LO", "Lower"], ["NU", "Numeric"], ["LE", "OLetter"], ["XX", "Other"], ["SC", "SContinue"],
      ["ST", "STerm"], ["SE", "Sep"], ["SP", "Sp"], ["UP", "Upper"]]
  packed :=
    String.join [
      "890D051D01H90D0B023922191A0009970A390B09PE02090229P6020902690CP90D8906020904690639060239ME096E",
      "N609760E060E060E060E060E060E060E060E060E060E060E060E060E060E060E060E060E060E060E060E060E060E06",
      "0E060E060E060E060E060E160E060E060E060E060E060E060E060E160E060E060E060E060E060E060E060E060E060E",
      "060E060E060E060E060E060E060E060E060E060E060E060E060E061E060E060E261E060E061E062E163E061E062E26",
      "1E061E060E060E061E060E160E061E062E060E061E16080E26381E061E061E060E060E060E060E060E060E060E060E",
      "160E060E060E060E060E060E060E060E060E161E060E062E060E060E060E060E060E060E060E060E060E060E060E06",
      "0E060E060E060E060E060E060E060E060E060E060E060E060E060E060E060E060E060E661E061E160E063E060E060E",
      "060E060EY4608X36681639B8D94669080908G9ZF30E060E0608090E061936090E590E092E090E091E06GE098EX260E",
      "162E260E060E060E060E060E060E060E060E060E060E060E060E460E06090E061E16XIEXF60E060E060E060E060E06",
      "0E060E060E060E060E060E060E060E060E060E060E060E0609630E060E060E060E060E060E060E060E060E060E060E",
      "060E060E060E060E060E060E060E060E060E060E060E060E060E060E060E060E061E060E060E060E060E060E060E16",
      "0E060E060E060E060E060E060E060E060E060E060E060E060E060E060E060E060E060E060E060E060E060E060E060E",
      "060E060E060E060E060E060E060E060E060E060E060E060E060E060E060E060E060E060E060E060E060E060E060E06",
      "0E0609X5E1908290A19X860B69XC3090309130913090379Q83948B954591A19A309042BXA8K3970917091803Z280B0",
      "8630409531813093318972819082BB9040803T8Q319YO8A308D997X088318190A0B08190319L833088308230843890",
      "B090B291B09O82339A849N8095809145973X98N304X03XL82308H3086398131B9709F8230978191819L80968090829",
      "38190308631913192308790339180928131997189908090319230958391819L8096809180918091819030943391319",
      "232903693809086997132803A9230988092809L809680918094819030873092309231908E918131997890853092309",
      "78191819L809680918094819030863191319236923391809281319970908F903080958292809382918090809182918",
      "292829B839432923093319085903D997F94378092809M809F819030863092309336913092819081918131997F90823",
      "0978092809M8099809481903086309230933691359180918131997091803B93388092809X881308630923093308492",
      "80369281319979958092309H829N8098809081968290339530903097359971913C9XF80318634968730997X6918090",
      "8094809N8090809980318830819480908096309971938V908M9135997A9030903090332137809X3839J3091348A309",
      "X338903XO9XA8J308971B3958333823082318632833C8B30803973319X5E090E490E19XA80906gB809381968090809",
      "3819X88093819X08093819680908093819E809XO8093819Y281923190B391BM9F8F9YLE195629pB8090BG80DP81229",
      "YA829A869H83389I8231B89H813B9C809280913B9XJ8V329083908031997N90A0B390A0B092304039759YO8694813X",
      "18030849Y5899U809B339B3791B97T81948A9XB839P85997X59M84339XK89309S31903975997C9083B39U3XG943XE8",
      "G37829971B191BA983891B0923T8C31897XB8D3B9X38J3291B2997292897X381B8669XA81928F92309K33803580318",
      "230849bV6XV30E060E060E060E060E060E060E060E060E060E060E060E060E060E060E060E060E060E060E060E060E",
      "060E060E060E060E060E060E060E060E060E060E060E060E060E060E060E060E060E060E060E060E060E060E060E06",
      "0E060E060E060E060E060E060E060E060E060E060E060E060E060E060E060E060E060E060E060E060E060E060E060E",
      "060E060E060E060E060E060E060E860E060E060E060E060E060E060E060E060E060E060E060E060E060E060E060E06",
      "0E060E060E060E060E060E060E060E060E060E060E060E060E060E060E060E060E060E060E060E060E060E060E060E",
      "060E060E060E060E060E060E060E060E060E867E56195E19767E767E56195E1976090E090E090E090E767ED619767E",
      "767E767E4609164E0906292609164E293619163E39764E492609164E29AD041314291A29723900291C440D8912091B",
      "69122BK90D4409940906A91206C91209C6XI9X03G90E390E19062E162E06090E294E590E090E090E093E09063E0638",
      "0619161E490E363906G9FEF6280E0638hU932S912iA9PEP6pG95269D2YE912U992iI9L2XU932V912m19XFEXF60E062",
      "E160E060E060E063E060E160E762E060E060E060E060E060E060E060E060E060E060E060E060E060E060E060E060E0",
      "60E060E060E060E060E060E060E060E060E060E060E060E060E060E060E060E060E060E060E060E060E060E060E060",
      "E060E060E060E060E060E060E060E060E060E16590E060E06230E06B9X560906490619XN86908E903M889680968096",
      "80968096809680968096809V3D2D9121992390B08B90B4902F91B72j290D0A0B192892197209220988530948194839",
      "YL81913192809YP8093849XA809YT8G9V8XF9F8lV9cjV8XV9rqC8Y29XD8090BeC8091BF89718J90E060E060E060E06",
      "0E060E060E060E060E060E060E060E060E060E060E060E060E060E060E060E060E060E060E060833099309080E060E",
      "060E060E060E060E060E060E060E060E060E060E060E060E2613YF813090B290BU988190E060E060E060E060E060E0",
      "60E260E060E060E060E060E060E060E060E060E060E060E060E060E060E060E060E060E060E060E060E060E060E060",
      "E060E060E060E060E060E060E060E060E960E060E061E060E060E060E060E0608190E060E06080E060E260E060E060",
      "E060E060E060E060E060E060E060E064E064E060E060E060E060E060E060E060E063E060E06490E06090609060E060",
      "E06N9260E060826680328033803M8433903I9XJ8191B7913XH8H3791B9759H358290809180397R873090BM8C3B9S82",
      "933XE8D3691B49089759480398974809X88D389280378131997292BM8290823XH803082318134813080308N92819A8",
      "431B28139958195819588968096809XA609D659YF6X28730B13199759gz38B9M839XG8ee39hD819Z98X5966B946490",
      "8039809C8094809080918091809ZB8X09hA812F9XV819XL8X79B839F31A090A291269F3091A19F21912691A00190A1",
      "B0A52390AB94809a681904090B5912191A0009970A390B09PE02090229P602090209120B120A09XN813U8295819581",
      "9581928R92439B809P809I8091809E819D8X19ZQ8Y49XK8a7903a19S829XG8E903U9V8C9T849X584349T819X383978",
      "0948X99X7EX76YD8199759X3E39X3639X7879XJ8B9AE09EE096E091E09A609E609660916Y29fM889L89978N9061826",
      "09X960986Y4958190809XB80918290819M899M889U8Y09I8091899L899P8Y59XN85918XV908230913493338092809S",
      "819233903L91B79S829S8X297809R813O9XL899L899I8C9H8ZD9Y88XM9XIEC9XI6C9X38337997g59X9809132918YA9",
      "23S8990879L8A3394BL9H8333BX59K8Q9M88923XK8E31BS997031813088933XC8A319043B03990419O869975923X38",
      "D30997092B08130879X280319088923XF8D3381B19330B1397080908091BV9H809O8B31B091B09031803XT96809080",
      "93809E809980B59XE8B3499759330978191819L809680918094809130863191319231908590349481319632943aA9X",
      "K8H3381B2997390328T9XF8J31809087997b59XE8631983091B49EB3813X19XF8G31B0908A997X59XA8C3086997XL9",
      "Q819E33997192B0968bO9XB8E3Z49VEV697K97819081978091809N85309131933080308130B090B8997Y597819X686",
      "3196308090803Q90893X78630833291B29037908A3XD8F3091B08H9Y88e698809X48730973081BC997N9T819L309D3",
      "Y8968091809X5853290309130963080379975958091809V84309130943086997fL9I8331B69130803C809X18632943",
      "1BA997YL908YE9yP8Z59ZE8G9c38YoB9Z08E9XXF8F40358E3Zz99o68ejO9nO869U80997391BYE8099759T819430B99",
      "XF8631B69380BA99789K849I8rF9VEV6N90BZ69YA8390308XM36933C8XV918090803A913D9b-N879XcL8X9988et693",
      "80968091809f28E908S9281908D93879iB8Ye39ZA849C82988699829130B34aoR9XD319M3mT943295374731963T933",
      "aJ923jQ9PEP6PE6609H6PEP60E091E190E191E193E097E360906096609A6PEP61E093E197E096E09P61E093E094E09",
      "0E296E09P6PEP6PEP6PEP6PEP6PEP6PER619OE09O60956OE09O60956OE09O60956OE09O60956OE09O609560E0619XH",
      "7lV9XM339XH37903D903290BH94309E3XYF99608J65956cK96309G319630913094349XT6X0903ZF9XC829636819973",
      "908g09T803G9XB83397kL9R83397t59680938091809E809c48A963X89X1EX1663083997Xb593809Q80918090819080",
      "9980938090809085908390809080908092809180908190809080908090809080918090819380968093809380908099",
      "809G84928094809G8pJ9PE59PE59PEXdB922XhM997XW59XfsV8V9aXP859cT819bq18D9dfG8ZWU9mT8Xl19awA849aYV",
      "8rtYG904T9YV3ZV9dF3b-mF9"]

end ImageSync.Unicode.Segmentation
