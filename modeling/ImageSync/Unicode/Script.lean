import ImageSync.Unicode.Packed

/-!
# `ImageSync.Unicode.Script`: the scripts a character is written in

Every character has one script, and a set of scripts it is used in, its script extensions.
`Script.names` are the names of the scripts, `members` gives the characters of a script and
`extensionMembers` those that are used in it.
-/

set_option autoImplicit false

namespace ImageSync.Unicode

/-- A script, by its place in the list of scripts. -/
structure Script where
  label : Nat
  deriving DecidableEq, Repr

namespace Script

/-- The names of the scripts, separated by blanks, in the order of their labels. -/
def names : List String :=
  ["Adlm Adlam", "Ahom", "Hluw Anatolian_Hieroglyphs", "Arab Arabic", "Armn Armenian",
    "Avst Avestan", "Bali Balinese", "Bamu Bamum", "Bass Bassa_Vah", "Batk Batak",
    "Beng Bengali", "Bhks Bhaiksuki", "Bopo Bopomofo", "Brah Brahmi", "Brai Braille",
    "Bugi Buginese", "Buhd Buhid", "Cans Canadian_Aboriginal", "Cari Carian",
    "Aghb Caucasian_Albanian", "Cakm Chakma", "Cham", "Cher Cherokee", "Chrs Chorasmian",
    "Zyyy Common", "Copt Coptic Qaac", "Xsux Cuneiform", "Cprt Cypriot", "Cpmn Cypro_Minoan",
    "Cyrl Cyrillic", "Dsrt Deseret", "Deva Devanagari", "Diak Dives_Akuru", "Dogr Dogra",
    "Dupl Duployan", "Egyp Egyptian_Hieroglyphs", "Elba Elbasan", "Elym Elymaic",
    "Ethi Ethiopic", "Geor Georgian", "Glag Glagolitic", "Goth Gothic", "Gran Grantha",
    "Grek Greek", "Gujr Gujarati", "Gong Gunjala_Gondi", "Guru Gurmukhi", "Hani Han",
    "Hang Hangul", "Rohg Hanifi_Rohingya", "Hano Hanunoo", "Hatr Hatran", "Hebr Hebrew",
    "Hira Hiragana", "Armi Imperial_Aramaic", "Zinh Inherited Qaai",
    "Phli Inscriptional_Pahlavi", "Prti Inscriptional_Parthian", "Java Javanese", "Kthi Kaithi",
    "Knda Kannada", "Kana Katakana", "Kawi", "Kali Kayah_Li", "Khar Kharoshthi",
    "Kits Khitan_Small_Script", "Khmr Khmer", "Khoj Khojki", "Sind Khudawadi", "Laoo Lao",
    "Latn Latin", "Lepc Lepcha", "Limb Limbu", "Lina Linear_A", "Linb Linear_B", "Lisu",
    "Lyci Lycian", "Lydi Lydian", "Mahj Mahajani", "Maka Makasar", "Mlym Malayalam",
    "Mand Mandaic", "Mani Manichaean", "Marc Marchen", "Gonm Masaram_Gondi", "Medf Medefaidrin",
    "Mtei Meetei_Mayek", "Mend Mende_Kikakui", "Merc Meroitic_Cursive",
    "Mero Meroitic_Hieroglyphs", "Plrd Miao", "Modi", "Mong Mongolian", "Mroo Mro",
    "Mult Multani", "Mymr Myanmar", "Nbat Nabataean", "Nagm Nag_Mundari", "Nand Nandinagari",
    "Talu New_Tai_Lue", "Newa", "Nkoo Nko", "Nshu Nushu", "Hmnp Nyiakeng_Puachue_Hmong",
    "Ogam Ogham", "Olck Ol_Chiki", "Hung Old_Hungarian", "Ital Old_Italic",
    "Narb Old_North_Arabian", "Perm Old_Permic", "Xpeo Old_Persian", "Sogo Old_Sogdian",
    "Sarb Old_South_Arabian", "Orkh Old_Turkic", "Ougr Old_Uyghur", "Orya Oriya", "Osge Osage",
    "Osma Osmanya", "Hmng Pahawh_Hmong", "Palm Palmyrene", "Pauc Pau_Cin_Hau", "Phag Phags_Pa",
    "Phnx Phoenician", "Phlp Psalter_Pahlavi", "Rjng Rejang", "Runr Runic", "Samr Samaritan",
    "Saur Saurashtra", "Shrd Sharada", "Shaw Shavian", "Sidd Siddham", "Sgnw SignWriting",
    "Sinh Sinhala", "Sogd Sogdian", "Sora Sora_Sompeng", "Soyo Soyombo", "Sund Sundanese",
    "Sylo Syloti_Nagri", "Syrc Syriac", "Tglg Tagalog", "Tagb Tagbanwa", "Tale Tai_Le",
    "Lana Tai_Tham", "Tavt Tai_Viet", "Takr Takri", "Taml Tamil", "Tnsa Tangsa", "Tang Tangut",
    "Telu Telugu", "Thaa Thaana", "Thai", "Tibt Tibetan", "Tfng Tifinagh", "Tirh Tirhuta",
    "Toto", "Ugar Ugaritic", "Zzzz Unknown", "Vaii Vai", "Vith Vithkuqi", "Wcho Wancho",
    "Wara Warang_Citi", "Yezi Yezidi", "Yiii Yi", "Zanb Zanabazar_Square"]

/-- The packed table of scripts: the length and the label of each run of one script. -/
def packed : String :=
  String.join [
    "Y0OPY65OPY6XEO0Y6EO0Y64OMY60OUY60Ok0Y6X6O4Y64O1CJOZFXN3XB0O2XB1aS3XB0O0XB3aS0XB0O0XB0O2XB0aS0X",
    "B0aSJXB0aSXUXBDPFXBa4T1XNb8T0aSX541aSXH41aS240aSXMXK7aSQXK3aS5XKAaS430O530OD30O230OV30O93AXNP3",
    "0XNZB30OX13DaA0aSXRaA1aS2aAXF3XHaLDaSXQZ51aS2Z5XDZU1aSEZU0aSRYH1aS0YH0aSAaA4aSU30aS135aSY930OS",
    "3YGV3XNEV1OPV3A0aS7A1aS1A1aSLA0aS6A0aS0A2aS3A1aS8A1aS1A1aS3A7aS0A3aS1A0aS4A1aSOA1aS2XE0aS5XE3a",
    "S1XE1aSLXE0aS6XE0aS1XE0aS1XE0aS1XE1aS0XE0aS4XE3aS1XE1aS2XE2aS0XE6aS3XE0aS0XE6aSGXE9aS2XC0aS8XC",
    "0aS2XC0aSLXC0aS6XC0aS1XC0aS4XC1aS9XC0aS2XC0aS2XC1aS0XCEaS3XC1aSBXC6aS6XC0aS2ZJ0aS7ZJ1aS1ZJ1aSL",
    "ZJ0aS6ZJ0aS1ZJ0aS4ZJ1aS8ZJ1aS1ZJ1aS2ZJ6aS2ZJ3aS1ZJ0aS4ZJ1aSHZJ9aS1aH0aS5aH2aS2aH0aS3aH2aS1aH0a",
    "S0aH0aS1aH2aS1aH2aS2aH2aSBaH3aS4aH2aS2aH0aS3aH1aS0aH5aS0aHDaSKaH4aSCaK0aS2aK0aSMaK0aSFaK1aS8aK",
    "0aS2aK0aS3aK6aS1aK0aS2aK1aS0aK1aS3aK1aS9aK6aS8aKCXS0aS2XS0aSMXS0aS9XS0aS4XS1aS8XS0aS2XS0aS3XS6",
    "aS1XS5aS1XS0aS3XS1aS9XS0aS2XSBaSCYG0aS2YG0aSXIYG0aS2YG0aS5YG3aSFYG1aSPYG0aS2a40aSHa42aSNa40aS8",
    "a40aS0a41aS6a42aS0a43aS5a40aS0a40aS7a45aS9a41aS2a4BaSXPaM3aS0ORaMX4aS1Y50aS0Y50aS4Y50aSNY50aS0",
    "Y50aSMY51aS4Y50aS0Y50aS6Y50aS9Y51aS3Y5VaSY7aN0aSX3aN3aSX6aN0aSX3aN0aSEaN0aS6aN3O1aNX4aSaVYVX5X",
    "70aS0X74aS0X71aSXAX70O3X7dVXGY8X60aS3X61aS6X60aS0X60aS3X61aSX8X60aS3X61aSX0X60aS3X61aS6X60aS0X",
    "60aS3X61aSEX60aSXOX60aS3X61aSY2X61aSVX62aSPX65aSYLM1aS5M1aSpVHSZ82aSYAZT2OAZT6aSLaB8aS0aBKXI1O",
    "8aSJGBaSCaC0aS2aC0aS1aCBaSYTY21aS9Y25aS9Y25aS1YS1O0YS0OJYS5aSYOYS6aSXAYS4aSY5H9aSUY80aSBY83aSB",
    "Y83aS0Y82aSBY8TaD1aS4aDAaSXBZ33aSPZ35aSAZ32aS1Z3VY2RF1aS1FXUaE0aSSaE1aSAaE5aS9aE5aSDaE1aSUXNXG",
    "aSYC62aSXE60aSXVa8XJ97aS39XNY72aSEY72aS2Y7XFZ98T6aSXAX71aS2X77a87aS2XN0OCXN0O6XN3O0XN5O0XN2O1X",
    "N0O4aSX5Y64XB0TXGY64XB3Y64XBCY60TY5Y60XBXVXNdVY6LXB1aS5XB1aSX5XB1aS5XB1aS7XB0aS0XB0aS0XB0aS0XB",
    "0aSUXB1aSXKXB0aSEXB0aSDXB1aS5XB0aSIXB1aS2XB0aS8XB0aSBO1XNYMO0aSAO0Y61aSAO0Y6EO0aSCY62aSX0OEaSX",
    "0XNEaSX5O0XB2O1Y65O0Y6QO0Y6GOX8Y62O3aSqMOOaSAOKaSyVOdVEpJO1aSVO0aSZ8OYVX8VY6ZJP4aS6PX5X70aS0X7",
    "4aS0X71aSXNaO6aS1aODaS0aOMX68aS6X60aS6X60aS6X60aS6X60aS6X60aS6X60aS6X60aS6X60aSVTYTOX1aSPXF0aS",
    "YOXFBaScLXFPaSBO3aS4O0XF0O0XFOO8XF3XN1XG7O3XF3O0aSYLXL1aS1XN1O2XL0OYPXT1O2XT4aSXAC0aSYTXG0aSFO",
    "VCX3OBaSFXTUXG0aSXVOUXGYGOXEXT0OYNXTb7OcjVXFXVOqlVXFXaCb22aSXMb28aSXFYBfBaTJaSYVTYN77aSX1OZ5Y6",
    "2OXVY64aS1Y60aS0Y60aS4Y6NaSDY6XCa92aS9O5aSXNZP7aSY5ZV7aSBZV5aSVVXDXV0O0XVX3ZSAaS0ZSSXG2aSYDXQ0",
    "aS0O9XQ3aS1XQUYV0aSXML8aSDL1aS9L1aS3LVYVY2aFNaS4aFMYM9aS5X61aS5X61aS5X68aS6X60aS6X60aSXAY60O8Y",
    "60XB3Y61O3aSYFMXDYM1aS9YM5aSgz3XGBaSMXG3aSXGXGee3aShDXF1aSZ9XFX5aS6Y6BaS444aSPXK0aS4XK0aS0XK0a",
    "S1XK0aS1XK0aS9XKZI3FaShA31OYF31aSXL36aS03VaSF3FXN9O5aSDXN1TX2O0aSIO0aS3O3aS430aSa631aS0O0aSVOP",
    "Y65OPY6AO9XT0OXCXT1OUXG2aS5XG1aS5XG1aS5XG1aS2XG2aS6O0aS6O9aS4O1aSBYA0aSPYA0aSIYA0aS1YA0aSEYA1a",
    "SDYAX1aSZQYA4aS2O3aSXCO2aS8OYEXB0aSCO2aS0XBXEaSXCO0XNa1aSSYC2aSXGIEaS0XNQO3aSX3ZB8aS2ZBQX94aSX",
    "AZD4aSTaR0aS0aRX3ZE3aSDZEX9aSYFUXFa1TZL1aS9ZL5aSX3ZK3aSX3ZK3aSX7X47aSXJJAaS0JAaU0aSEaU0aS6aU0a",
    "S1aU0aSAaU0aSEaU0aS6aU0aS1aUY2aSfMY98aSLY99aS7Y9NaS5Y60aSX9Y60aS8Y6Y4aS5R1aS0R0aSXBR0aS1R2aS0R",
    "1aS0RLXM0aS8XMVZNUZ07aS8Z0XFaSIXJ0aS1XJ4aS4XJRZQ2aS0ZQPYD4aS0YDXVaSVYPNYO3aSJYO1aSXDYO3Y00aS1Y",
    "04aS7Y00aS2Y00aSSY01aS2Y03aS9Y06aS8Y06aSVZGVZCVaSX6YI3aSBYI8aSXL52aS65LXP1aS7XPIXO4aS7XOHZR6aS",
    "3ZRBaS6ZRYFaSY8ZHXMaSXIZACaSXIZA6aS5ZAX7XH7aS9XHf5aSU30aSX9b10aS2b11aS1b1YAaS23X7ZF7aSX9a5LaSP",
    "ZIX5aSRNJaSMX58aSYDD3aSX3D8aS0DY2XR9aS0XR1aSOa66aS9a65aSXKK0aSHK7aSX6YE8aSYVa00aSJa4AaSHY30aSX",
    "EY3XTaS6YU0aS0YU0aS3YU0aSEYU0aSAYU5aSXQY44aS9Y45aS3XA0aS7XA1aS1XA1aSLXA0aS6XA0aS1XA0aS4XA0aS0X",
    "N8XA1aS1XA1aS2XA1aS0XA5aS0XA4aS6XA1aS6XA2aS4XAaAaSYRZ40aS4Z4TaSY7aP7aS9aPb5aSXLa21aSX5a2X1aSY4",
    "YRAaS9YR5aSCYSIaSXPaG5aS9aGXLaSQ11aSE13aSM1bOaSXRX1Z3aSYIb0BaS0b06X01aS0X01aS7X00aS1X00aSTX00a",
    "S1X01aSBX08aS9X0Y5aS7Z21aSXDZ21aSAZ2QaSY7b37aSYIa7CaSFHXOZO6aS9VdLaS8B0aSXCB0aSDB9aSSB2aSVYJ1a",
    "SLYJ0aSDYJY8aS6YK0aS1YK0aSXBYK2aS0YK0aS1YK0aS8YK7aS9YK5aS5XD0aS1XD0aSX4XD0aS1XD0aS5XD6aS9XDfLa",
    "SOYF6aSGXU0aSX8XU2aSRXUYLaS0YBEaSXHaHCaS0aHyPQZ5aSZEQ0aS4QAaSc3QYoBaSZ2SCaSXYLX3Zz9aSo62ejOaSn",
    "O76aSUYT0aS9YT3aS1YTYEaI0aS9aI5aST81aS589aSY5ZM9aS9ZM0aS6ZM0aSKZM4aSIZMrFaSYQYLZ4aSYAYQ3aSXOYQ",
    "6aSGYQXVaS0aJ0Z61XF0Y1AaS1XFDaSb-NaJ7aStVaJkLY1X9aS8aJet6aS3XT0aS6XT0aS1XT0aS0XTeUXL2XTEaS0XLS",
    "aS2XL1aS0XTDaS3XT7aSiBZ6Ye3aSZAX24aSCX22aS8X26aS9X21aS3X23OaoRaSXDXN1aSMXN8aSZJOXRaSdLO9aSX6O1",
    "aSXTO2XNGO7XN1O6XNTO3XNXSOKaSY5XBZPaSJOBaSJOBaSYMO8aSOOa6aSYKO0aSY6O0aS1O1aS0O1aS1O1aS3O0aSBO0",
    "aS0O0aS6O0aSY0O0aS3O1aS7O0aS6O0aSRO0aS3O0aS4O0aS0O2aS6O0aSgJO1aSf3O1aSXHOqBa3EaS4a30aSEa3XYFaS",
    "UY65aS5Y6cKaS6X80aSGX81aS6X80aS1X80aS4X84aSXTTX0aS0TZFaSXCZ72aSDZ71aS9Z73aS1Z7fVaSUaQGaSXPaV4a",
    "S0aVkFaSX9Z1t5aS6X60aS3X60aS1X60aSEX60aSc4YN1aSFYNX8aSYB03aS903aS10uGaSY3OYBaSXSOc1aS330aSQ30a",
    "S130aS031aS030aS930aS330aS030aS035aS033aS030aS030aS030aS230aS130aS031aS030aS030aS030aS030aS030",
    "aS130aS031aS330aS630aS330aS330aS030aS930aSG34aS230aS430aSG3XJaS13eDaSXBO3aSZ3OBaSEO1aSEO0aSEO0",
    "aSX4O9aSbDOXNaSPO0XL1OCaSXBO3aS8O6aS1ODaS5OaPaS+NO3aSGO2aSCO2aSZMO3aSYUO5aSBO3aS0OEaSBO3aSXNO7",
    "aS9O5aSX7O7aSTO1aS1OYDaSgJOBaSDO1aSCO2aS8O6aSXDO0aS6O7aSDO3aS8O6aS8O6aSaIO0aSXMOX4aS9OXW5aSXfs",
    "VXFVaSaXPXF5aScTXF1aSbq1XFDaSdfGXFZWUaSmTXFXl1aSawAXF4aSaYVXFrtYGaS0OTaSYVOZVaSdFXNb-mFaS"]

/-- The packed table of script extensions; its labels count the entries of `extensionSets`. -/
def packedExtensions : String :=
  String.join [
    "Y00P150P1XE001E00140M100U100k01X60414012J0Y13041304S3C134002415340004350400040024050405J405XU4",
    "D6F4a2708091A09b7705X5B15XHB152B05XMC75QC355CA54D005D0EDD0E0F1D0GVD0H9DAI9D9J5D0IZ2D0K7D00X1DD",
    "L05XRL152LXFDXHMD5XQN152NXDO15EO05RP150P05AL45UD051D55Y9D00SDYGQ0R0S13EQ0T0U9VFQ3X0057X0151X01",
    "5LX0056X0050X0253X0158X0151X0153X0750X0351X0054X0159X1EX0152X2055X2351X215LX2056X2051X2051X205",
    "1X2150X2054X2351X2152X2250X2653X2050X2659X36X2952X4058X4052X405LX4056X4051X4054X4159X4052X4052",
    "X4150X4E53X4159X51X4656X4052X6057X6151X615LX6056X6051X6054X6158X6151X6152X6652X6351X6054X615HX",
    "6951X7055X7252X7053X7251X7050X7051X7251X7252X725BX7354X7252X7053X7150X7550X7D5DX86X745CX9052X9",
    "05MX905FX9158X9052X9053X9651X9052X9150X9153X9159X9658X9CXA052XA05MXA059XA054XA158XA052XA053XA6",
    "51XA551XA053XA159XB052XAB5CXC052XC05XIXC052XC055XC35FXC15PXC052XD05HXD25NXD058XD050XD156XD250X",
    "D355XD050XD057XD559XD152XDB5XPXE3500RXEX451XF050XF054XF05NXF050XF05MXF154XF050XF056XF059XF153X",
    "FV5Y7XG05X3XG35X6XG05X3XG05EXG056XG301XGX45XVXH9XIYLXHX5XJ050XJ450XJ15XAXJ0XK3XJdVXLY8XM053XM1",
    "56XM050XM053XM15X8XM053XM15X0XM053XM156XM050XM053XM15EXM05XOXM053XM15Y2XM15VXM25PXM55YLXN155XN",
    "15pVXOSXP25YAXQ20AXQ65LXR850XRKXS1XT85JXUB5CXV052XV051XVB5YTY0159Y0559Y0551Y11Y20Y10Y2JY155YOY",
    "165XAY145Y5XO95UY305BY335BY3350Y325BY3TY4154Y4A5XBY535PY555AY5251Y5VY0RY6151Y6XUY705SY715AY755",
    "9Y755DY715U3XG5YCY825XEY805XVY9XJYA753YAXNYB25EYB252YBXFYC8765XAXJ152XJ7Y9750YD0Q0YD0YE0Q1YF0Y",
    "G0YF0YG0YH0Q1YG1Q0YG0YF6Q0YI0YF1Q0YF3Q0YJ0YE0YK1YF0X01YE0YL45X514407XG1443144C107Y5124XL30YM03",
    "0L43dV1L4155415X541554157405040504050405U415XK405E405D4155405I41524058405B013X000YNXK005A00115",
    "A001E005C125X00E5V30YOE5X500420115001Q001G0X812035qM0O5A0K5yV0dVYPpJ015V005Z80YVYQV1ZJ64566X5X",
    "J050XJ450XJ15XNYR651YRD50YRMXM856XM056XM056XM056XM056XM056XM056XM056XM05V7Y2009P0X15PYS05YOYSB",
    "5cLYSP5B035001YT0YU002YS9YT000YU7YT3YU008YS3YV1XL0YU4Z0000YU3YS1Z11YS05YLZ2153Z02Z20Z0YPZ30YT0",
    "Z02Z345XA205YTXL05FYSV2X3YSB5FZ3UXL05X7YSN0UXL00XGYSE0BYS30XEZ30YSYNZ3OYS904YSYV0UYS00cjVYSXV0",
    "qlVYSXaCZ425XMZ485XFZ5fBZ6J5XE709XF7YNZ7757Z8P0Z5120XV1451105010541N5D1XCZ9252ZA2ZB3ZC55XNZD75",
    "Y5ZE75BZE55GQ0YF0Q0ZFBQXDZG0ZH0ZGX3ZIA50ZISXL25YDZJ050ZK9ZJ351ZJUXH05XMZL85DZL159ZL153ZLVXHY2Z",
    "MN54ZMMZN955XM155XM155XM856XM056XM05XA1008104311035YFXNXDZN159ZN55gz3XLB5MXL35XGXLee35hDYS15Z9",
    "YSX5561B54B45PC054C050C051C051C059CZIDF5hAD1ZOYFD15XLD650DV51D0ZP9D0ZP1DF39055D317K01YUB005I00",
    "530354D05a6D150005V0P150P1504YT9Z30Z0XCZ31Z0UXL255XL155XL155XL152XL25600560954015BZQ05PZQ05IZQ",
    "051ZQ05EZQ15DZQX15ZQZQ451ZR0ZS35XCZT258ZSYE405C02504XE5XC003a15SZU25XGZVE5Ra035X3a1852a1Qa245X",
    "Aa345Ta4050a4X3a535Da5X95YFa6XFa7Ta8159a855X3a935X3a935X7aA75XJaBA50aBAaC05EaC056aC051aC05AaC0",
    "5EaC056aC051aCY25fMaD85LaD957aDN55105X910581Y455aE150aE05XBaE051aE250aE150aELaF058aFVaGUaH758a",
    "HXF5IaI051aI454aIRaJ250aJPaK450aKXV5VaLNaM35JaM15XDaM3aN051aN457aN052aN05SaN152aN359aN658aN65V",
    "aOVaPV5X6aQ356aQ0aR3aQ85XLaS256aSLaT157aTIaU457aUHaV653aVB56aVYF5Y8b0XM5XIb1C5XIb1655b1X7b2759",
    "b2f55UD05X9b3052b3151b3YA52DX7b475X9b5L5Pb6X55Rb7J5Mb885YDb935X3b9850b9Y2bA950bA15ObB659bB55XK",
    "bC05HbC75X6bD85YVbE05JXDA5HbF05XEbFXT56bG050bG053bG05EbG05AbG55XQbH459bH550bI0X80bI0X8057bI151",
    "bI15LbI056bI051bI054bI051X87bI151bI152bI150bI550bI456bI156bI254bIaA5YRbJ054bJT5Y7bK759bKb55XLb",
    "L15X5bLX15Y4bMA59bM55CY1I5XPbN559bNXL5QbO15EbO35MbObO5XRbPZ35YIbQB50bQ6bR150bR157bR051bR05TbR0",
    "51bR15BbR859bRY557YL15XDYL15AYLQ5Y7bS75YIbTC5FXOXObU659QdL58bV05XCbV05DbV95SbV25Vc015Lc005Dc0Y",
    "856c1051c105XBc1250c1051c1058c1759c1555c2051c205X4c2051c2055c2659c2fL5Oc365Gc405X8c425Rc4YL50Z",
    "5E5FX71X80X70X8TX7C50X7yPc5Z55ZEc5054c5A5c3c5YoB5Z2c6C5XYLc7Zz95o6c8ejO5nOZ765Uc9059c9351c9YEc",
    "A059cA55TcB155cB95Y5cC959cC056cC05KcC45IcCrF5YQcDZ45YAcE35XOcE65GcEXV50cF0cG1YS0cHA51YSD5b-NcF",
    "75tVcFkLcHX958cFet653Z3056Z3051Z3050Z3eUZ22Z3E50Z2S52Z2150Z3D53Z375iBcGYe35ZAcI45CcI258cI659cI",
    "157cIaoR5XD315M385ZJ0XR5dL095X6015XT023G0731063T033XS0K5Y54ZP5J0B5J0B5YM085HYS60a65YK005Y60051",
    "015001510153005B00500056005Y0005301570056005R0053005400500256005gJ015f3015XH0qBcJE54cJ05EcJXYF",
    "5U15551cK56YQ05GYQ156YQ051YQ054YQ45XT7X0507ZF5XCcK25DcK159cK351cKfV5UcLG5XPcM450cMkF5X9cNt556X",
    "M053XM051XM05EXM05c4cO15FcOX85YBcP359cP351cPuG5Y30YB5XS0c153D05QD051D050D150D059D053D050D050D5",
    "50D350D050D050D052D051D050D150D050D050D050D050D051D050D153D056D053D053D050D059D05GD452D054D05G",
    "DXJ51DeD5XB035Z30B5E015E005E005X4095bD0XN5P00Z210C5XB03580651YSD550aP5+N035G025C025ZM035YU055B",
    "03500E5B035XN0759055X7075T01510YD5gJ0B5D015C0258065XD0056075D03580658065aI005XM0X4590XW55XfsVY",
    "SV5aXPYS55cTYS15bq1YSD5dfGYSZWU5mTYSXl15awAYS45aYVYSrtYG500T5YV0ZV5dF3b-mF5"]

/-- The sets of scripts that occur as script extensions, each after its size. -/
def packedExtensionSets : String :=
  String.join [
    "1O1Y61C1XN1XB1aS1P1T2TZD2TX82TY6141XK1363Z5XHaAaLb133aAaL703Z5XHaAaLb1903YHYIZIZRXHa5aA23aA33a",
    "Lb123XH1aA1aL1Z51ZU1YH1VDAVXAXCXEXSY6YGZJa0aHaKaPCAVXAXCXEXSY6YGZJaHaKaPKAVX1XDYKXAXCXEXSYEYGZ",
    "2ZJY4a4a9aGaHaKaPLAVX1XDYKXAXCXEXSY8YEYGZ2ZJY4a4a9aGaHaKaP4VX1XRYE1A3AKa91XE2XEYU1XC2XCY31ZJ1a",
    "H2XAaH1aK1XS2XSZ21YG1a41aM1Y51aN1YV3KYVaD1X72X7Y61XG1X61M1H1Z81ZT1aB1XI4GXIaCaB1G1aC1Y21YS2YSZ",
    "P1Y81aD1Z31F1aE161a8191Y71Z94AVXAXS2VXA2AV2Va06VXSYGZJaHaK2VZ28AVXAXSZ2ZJaKaP3VXAXS1Z22TaA2Y6Y",
    "S3VXAY61E1X81aO1XF6CXGXFXLXTb25CXGXFXLXT2CXF2XLXT3XFXLXT1XL1XT1b21YB1aT172XFY61a9EVX1XCXEY3XSX",
    "RYEYGYRZ2Y4aGaPDVX1XCXEY3XSXRYEYRZ2Y4aGaPBVX1XCXEY3XRYEYRY4aGaP1ZP1ZV2VaH1XV3XVY6YV1ZS1XQ2FXQ1",
    "L1aF1YM23Z523aL1YA3SRYA2RYA3RY9YA1YC1I23P1ZB1X91ZD1aR1ZE1U1a11ZL1ZK1X41J1aU1Y91R1XM1ZN1Z01XJ1Z",
    "Q1YD1YP1YO1Y01ZG1ZC1YI2YIZI151XP1XO1ZR1ZH1ZA1XH1b11ZF1a51ZI1N1X51D1XR1a61K1YE1a01Y31YU1Y41XA1Z",
    "41aP1a21YR1aG111X11b01X01b31a71ZO1B1YJ1YK1XD1YF1XU1Q1S1X3121YT1aI181ZM1YL1YQ1aJ1Z61Y11X21a31Z7",
    "1aQ1aV1Z11YN10"]

/-- The runs of code points of one script, in ascending order. -/
def runs : List Packed.Run := Packed.runs packed

/-- The runs of code points of equal script extensions, in ascending order. -/
def extensionRuns : List Packed.Run := Packed.runs packedExtensions

/-- The sets of scripts that occur as script extensions. -/
def extensionSets : List (List Nat) := Packed.groups (Packed.numbers packedExtensionSets)

/-- The characters of a script. -/
def members (s : Script) : Text.CharSet := Packed.charsWhere (· == s.label) runs

/-- The characters that are used in a script. -/
def extensionMembers (s : Script) : Text.CharSet :=
  Packed.charsWhere (fun n => (extensionSets.getD n []).contains s.label) extensionRuns

end Script

end ImageSync.Unicode
