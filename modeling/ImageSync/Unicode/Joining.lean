import ImageSync.Unicode.Packed

/-!
# `ImageSync.Unicode.Joining`: how characters join their neighbours

In cursive scripts a character joins the one before it, the one after it, or both.
Transparent characters do not count between two that join.
-/

set_option autoImplicit false

namespace ImageSync.Unicode

/-- The packed table: the length of each run of code points, and what joins: 1 for
transparent characters, 2 for both sides, 3 for the side of the next character, 4 for the
side of the one before, 5 for characters that cause joining. -/
def packedJoining : String :=
  String.join [
    "bC001oH0ZF1eI061e60XC10001001100110001Y70A1000120020034020402044234C205620412K1D01201240024F2H",
    "4X520412840204020412140004611051101100311490221002E0010401224432048204020402041204Q11004A224E2",
    "1432040214221452X50A1O0X028150051001N031008100210041H004421402049204022421300200320004021440I4",
    "250210420480719224000412145204E200N100V1XM00100013071300120619011S001XP00130317001J011P0011011",
    "XO0013011301110212001T0112001A011XO001304100113001J011L0510001XP0011001003170016011A011T001XS0",
    "01B001XH0012001XM0010021402100316011A011S001XP001100150014011J011R011XO01130317001J011S001Y700",
    "160210001YP0011061B071Z10011081A061Y8011Q00100010001XM0D10041001140A100X318001Z503100510011101",
    "1O0113021F031C00110115001E001rU021zH021S011T011T011XV0110061700110A18001X80021005210001F0YO2B0",
    "11X120102ZK021301180015021cQ0111001XP001006100010001107150911001XF0U1XG031XF001004100014001X70",
    "81B011V03110110021XN001001120010021XP0711011aN02100C10061300150012011c50XV1mA001000511P041XG04",
    "14051YV0X01Y-T021aC001YV0V1n9031ZA011zkJ0310091V011YF011eF00120013001O0114001I0XH203YG011P0H1C",
    "001X5071O0A1XD021XF00110311011X6001Y205110111011B0017001XE001XI0010021101140110001X90117001dD0",
    "0110013001pvF001t00F1F0F1cE001dO021m0001d1001aK041Xq502100114031X70213001ZV0420400040014100344",
    "320342042204100411303204aF0020402242204120402140204M03412gG003X02040231i2011YF021XF02204G200A1",
    "2204Q03214B231X90020012240002141204120002140230040203XK001XL0E1X800110119021XG03110116001XS021",
    "X30410071XT001B011XJ08190311001YU0211001001150011001aS0012071K011XO0112001X40612041c2071102100",
    "01M001YJ051000130110011dD03150110011Q011YK07110010011Z9001000110510001Z402110310041e20810011dV",
    "01100013001aF03110113001V091X70511031700180511021XD0C10011iL06100510001YH0L1106100110011ZP0512",
    "001001100610001Y701120010001gQ011A011XJ04140010001bdC0G150E1jqP041XQ061XWN001XU031YG001pbN0110",
    "031aoR0XD110M1mV02180F11061T031aJ021XzQ0XM130XH17001D001L04100E1XgF06100G1106100110041Z3001aV0",
    "61hM001XS031lR031+V061X80Y3271ubrK001T0YV1ZV0dF1b-mF0"]

/-- The runs of code points that join in the same way. -/
def joiningRuns : List Packed.Run := Packed.runs packedJoining

/-- How a character joins, as in the table. -/
def joining (c : Char) : Nat := Packed.labelAt joiningRuns c.toNat

/-- Whether a character does not count between two that join. -/
def isTransparent (c : Char) : Bool := joining c == 1

/-- Whether a character joins the one after it. -/
def joinsNext (c : Char) : Bool := joining c == 2 || joining c == 3

/-- Whether a character joins the one before it. -/
def joinsPrevious (c : Char) : Bool := joining c == 2 || joining c == 4

end ImageSync.Unicode
