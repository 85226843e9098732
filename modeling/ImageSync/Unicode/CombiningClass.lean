import ImageSync.Unicode.Packed

/-!
# `ImageSync.Unicode.CombiningClass`: the order of marks on a character

Every character has a combining class. Marks of different classes stand in different places
around a character, so their order does not matter; it is made ascending. Class zero holds
the characters that marks do not move across.
-/

set_option autoImplicit false

namespace ImageSync.Unicode

/-- The packed table: the length of each run of code points of one class, and the class. -/
def packedCombiningClasses : String :=
  String.join [
    "tV0Kd60d83cS0d80cO4cS1cA3cS1cAAcS413cS7d60dG0d62cS2d61cS002d63cS0d60d81cS0d60d91dA0d91dA0d9Cd6",
    "eI04d6e800cS3d60cS2d60cU0cS5d65cS1d60cS1d60cU0d40d60A0B0C0D0E0F0G0H0I1J0K0L0M000N000O0P000d60c",
    "S000IY707d60U0V0X0XF00R0S0T0U0V0X00X10X21d61cS4d60cS1d60cSF00X3Z406d6103d60cS0d6101d6000cS1d60",
    "cSX200X4T00d60cS1d60cS1d62cS0d61cS0d60cS2d60cS0d60cS0d60cS0d60cS1d6aV06d60cS0d6800cSN03d6008d6",
    "002d6004d6XA02cSXR00d62cS3d6X904d64cSDd6000cS1d60cS1d60cS2d62cS0R0S0T2d60cS1d61cS4d6XR007F0092",
    "00d60cS1d6Z6007F009XF00d6XS007F009ZD007F009ZD007F009ZU009ZD007F009600YK0YRZ4007F009ZC019F009ZR",
    "009ZC01Z709C03ZBZB01ZM09C03ZQYB01cSQ00cS000cS000cOXM00a10a2000a4403a2100a2001d609001d6XT00cSZF",
    "0070019YH00cSsE02d6zJ019T009aS009900d6cA00d4aE00cU0d60cScQ00d60cSY6009J07d6100cSXF04d65cS1d60c",
    "S001cS1d61cS4d60cS3d6Z4007E009X500d60cS6d6XL019XP007A019Y2007aN02d600014cS1d63cS0d60061300cS50",
    "0d6201d6c501d60cS6d60cS1d60dA0cM0cS0cAX4d60d81d40cS0cQ0d60d90cS0d60cSsF01d6113d6211d6300d62011",
    "0d60cS0d6113cS0d6Y-T02d6aC009YV0Vd6n900cQ0d40d80cU1d0Z8018zkJ00d6309d6V01d6YF01d6eJ009X4009aM0",
    "09Q0Hd6XO02cSX4009YU007B009dE00d6001d60cS101d6401d6000d6XJ009dL009pvF00Qu006d66cS1d6+C00cSd100",
    "cSaK04d6XqH00cS000d6X700d6010cS3009b400d60cSnS03d6i201d6YF02cSY501cS2d60cS0d63cSXG00d60cS0d60c",
    "SbV009X8009D009XO00907Y402d6XF019XT007YB0098007Z900907bH00709YF017F009N06d6204d6cC0092007M00d6",
    "Z200907dQ00907ZT009ZL00907ZI009eC00907e10193007aR009YI009H009YG009j4009e10070019YG009j8019ozC0",
    "41XQ06d6XbO016pbB001bc501cO21200d24cO707cS104d61cST03d6aJ02d6ZjQ06d600Gd6106d6001d6004d6Z300d6",
    "aV06d6hM00d6XS03d6lR01d80cS0d6+V06cSZC05d607+brK0"]

/-- The runs of code points that share a combining class. -/
def combiningClassRuns : List Packed.Run := Packed.runs packedCombiningClasses

/-- The combining class of a character. -/
def combiningClass (c : Char) : Nat := Packed.labelAt combiningClassRuns c.toNat

/-- The class of the marks that silence a vowel. -/
def viramaClass : Nat := 9

end ImageSync.Unicode
