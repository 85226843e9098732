import ImageSync.Unicode.Packed

/-!
# `ImageSync.Unicode.CaseFold`: characters that differ in case only

Simple case folding sends every character to one character; those sent to the same one
differ in case only and form an orbit. `caseOrbits` lists the orbits of more than one
character, `caseMates` gives the orbit of a character, and `withCaseMates` adds to a set
every character that differs in case only from a member.
-/

set_option autoImplicit false

namespace ImageSync.Unicode

open ImageSync.Text (CharSet)

/-- The packed orbits: the gap to the first member of the orbit before, the number of
further members, and the gap to each of them. -/
def packedCaseOrbits : String :=
  String.join [
    "Y11X011X011X011X011X011X011X011X011X011X012X0ebV11X011X011X011X011X011X011X012X0eC11X011X011X0",
    "11X011X011X011X0YR2t7X0B1X011X011X011X011X012X0eY611X011X011X011X011X011X011X011X011X011X011X0",
    "11X011X011X011X011X011X021X011X011X011X011X011X011X011djVX01ZP11121121121121121121121121121121",
    "1211211211211211211211211211211211211211411211211311211211211211211211211311211211211211211211",
    "21121121121121121121121121121121121121121121121131121121131c311cI11121121cE11121cD11cD11131YF1",
    "1cA11cB11121cD11cF11Z111cJ11cH11121b321cJ11cL11a211cM11121121121cQ11121cQ31121cQ11121cP11cP111",
    "21121cR11141131XO52113211321131121121121121121121121131121121121121121121121121132113114112112",
    "1121121121121121121121121121121121121121121121121121141121121121121121121121121181gnB11131gn81",
    "1gnV11gnV11131Y511Y711121121121121121gmV11gmS11gmUA1XfgF51XfgB41Xff811Xfg441Xfg411glN11Xfg151g",
    "lTC1gl751Xfg351XffAM1XfeL11XfeIb73YKX0dW5XB1121141151a211a211a221ZK71X621X511X511X521Y021XV11X",
    "V21X012X0U11X011X012X0Y011X011X013X0PX322X0XM11X021X011X011X012X0M12X0XG22V111X011X012X0F11X01",
    "1X012X0dgT11X011X0X41891121121121121121121121121121121121141751131161YG11YG11YG11YG11YG11YG11Y",
    "G11YG11YG11YG11YG11YG11YG11YG11YG11YG11X011X012X0cYE11X012X0cYD11X011X011X011X011X011X011X011X",
    "011X012X0cY411X011X012X0cY213X0cY2111X011X011X011X011X011X011X012X0cXS11X011X011X011X011X0XH11",
    "221cX4211211211211211211211211211211211211211211211A112112112112112112112112112112112112112112",
    "1121121121121121121121121121121121121121F11121121121121121121131121121121121121121121121121121",
    "1211211211211211211211211211211211211211211211211211211211211211211211211211211211211211211211",
    "21121121121121121131XG11XG11XG11XG11XG11XG11XG11XG11XG11XG11XG11XG11XG11XG11XG11XG11XG11XG11XG",
    "11XG11XG11XG11XG11XG11XG11XG11XG11XG11XG11XG11XG11XG11XG11XG11XG11XG11XG11XGYwA1dZ011dZ011dZ01",
    "1dZ011dZ011dZ011dZ011dZ011dZ011dZ011dZ011dZ011dZ011dZ011dZ011dZ011dZ011dZ011dZ011dZ011dZ011dZ0",
    "11dZ011dZ011dZ011dZ011dZ011dZ011dZ011dZ011dZ011dZ011dZ011dZ011dZ011dZ011dZ011dZ021dZ061dZ031Y+",
    "011Y+011Y+011Y+011Y+011Y+011Y+011Y+011Y+011Y+011Y+011Y+011Y+011Y+011Y+011Y+011Y+011Y+011Y+011Y",
    "+011Y+011Y+011Y+011Y+011Y+011Y+011Y+011Y+011Y+011Y+011Y+011Y+011Y+011Y+011Y+011Y+011Y+011Y+011",
    "Y+011Y+011Y+011Y+011Y+031Y+011Y+011Y+0r11Xb+G11Xb+G11Xb+G11Xb+G11Xb+G11Xb+G11Xb+G11Xb+G11Xb+G1",
    "1Xb+G11Xb+G11Xb+G11Xb+G11Xb+G11Xb+G11Xb+G11Xb+G11Xb+G11Xb+G11Xb+G11Xb+G11Xb+G11Xb+G11Xb+G11Xb+",
    "G11Xb+G11Xb+G11Xb+G11Xb+G11Xb+G11Xb+G11Xb+G11Xb+G11Xb+G11Xb+G11Xb+G11Xb+G11Xb+G11Xb+G11Xb+G11X",
    "b+G11Xb+G11Xb+G11Xb+G11Xb+G11Xb+G11Xb+G11Xb+G11Xb+G11Xb+G11Xb+G11Xb+G11Xb+G11Xb+G11Xb+G11Xb+G1",
    "1Xb+G11Xb+G11Xb+G11Xb+G11Xb+G11Xb+G11Xb+G11Xb+G11Xb+G11Xb+G11Xb+G11Xb+G11Xb+G11Xb+G11Xb+G11Xb+",
    "G11Xb+G11Xb+G11Xb+G11Xb+G11Xb+G11Xb+G11Xb+G11Xb+G118118118118118118YaJ2XYk21dH1XYm441Zt6H1XYnO",
    "ZI11211211211211211211211211211211211211211211211211211211211211211211211211211211211211211211",
    "211211211211211211211211211211211211211211211211211221XQ21121121121121121121121121121121121121",
    "1211211211211211211211211211211211211211C11211211211211211211211211211211211211211211211211211",
    "2112112112112112112112112112112112112112112112112112112112112112112112112112112112112112112181",
    "18118118118118118118918118118118118118B1811811811811811811811891811811811811811811811891811811",
    "8118118118C1821821821891811811811811811811811891YA11YA11YM11YM11YM11YM11Z411Z411a011a011ZG11ZG",
    "11ZU11ZU318118118118118118118118918118118118118118118118918118118118118118118118918118219G19D1",
    "8118F18118417E19fV1SXE1G11G11G11G11G11G11G11G11G11G11G11G11G11G11G11GK11vJ1Q11Q11Q11Q11Q11Q11Q",
    "11Q11Q11Q11Q11Q11Q11Q11Q11Q11Q11Q11Q11Q11Q11Q11Q11Q11Q11QXvH1XG11XG11XG11XG11XG11XG11XG11XG11X",
    "G11XG11XG11XG11XG11XG11XG11XG11XG11XG11XG11XG11XG11XG11XG11XG11XG11XG11XG11XG11XG11XG11XG11XG1",
    "1XG11XG11XG11XG11XG11XG11XG11XG11XG11XG11XG11XG11XG11XG11XG11XGXH11711211211711311B11211211211",
    "2112112112112112112112112112112112112112112112112112112112112112112112112112112112112112112112",
    "11211211211211211211211211211211211211211211911211511+gE11211211211211411211211211211211211211",
    "211211211211211211211211211K11211211211211211211211211211211211211211a811211211211211211211411",
    "211211211211211211211211211211211211211211211211211211211211211211211211211211211211211211B112",
    "1131121121121121151151121121XG211211211211211211211211211211B1z0111211211211211211211211511211",
    "711611211T11rvC1X011X011X011X011X011X011X011X011X011X011X011X011X011X011X011X011X011X011X011X0",
    "11X011X011X011X011X011X0Xc61X811X811X811X811X811X811X811X811X811X811X811X811X811X811X811X811X8",
    "11X811X811X811X811X811X811X811X811X811X811X811X811X811X811X811X811X811X811X811X811X811X811X8a9",
    "1X811X811X811X811X811X811X811X811X811X811X811X811X811X811X811X811X811X811X811X811X811X811X811X",
    "811X811X811X811X811X811X811X811X811X811X811X811X8aT1X711X711X711X711X711X711X711X711X711X711X7",
    "21X711X711X711X711X711X711X711X711X711X711X711X711X711X711X721X711X711X711X711X711X711X721X711",
    "X7XtB1Y011Y011Y011Y011Y011Y011Y011Y011Y011Y011Y011Y011Y011Y011Y011Y011Y011Y011Y011Y011Y011Y011",
    "Y011Y011Y011Y011Y011Y011Y011Y011Y011Y011Y011Y011Y011Y011Y011Y011Y011Y011Y011Y011Y011Y011Y011Y0",
    "11Y011Y011Y011Y011Y0Y-E1X011X011X011X011X011X011X011X011X011X011X011X011X011X011X011X011X011X0",
    "11X011X011X011X011X011X011X011X011X011X011X011X011X011X0ri11X011X011X011X011X011X011X011X011X0",
    "11X011X011X011X011X011X011X011X011X011X011X011X011X011X011X011X011X011X011X011X011X011X011X0+r",
    "11X211X211X211X211X211X211X211X211X211X211X211X211X211X211X211X211X211X211X211X211X211X211X211",
    "X211X211X211X211X211X211X211X211X211X211X2"]

/-- The running sums of a list of gaps. -/
def runningSums (start : Nat) : List Nat → List Nat
  | [] => []
  | g :: gs => (start + g) :: runningSums (start + g) gs

/-- The orbits that a list of numbers describes; `start` is the first member of the orbit
before. -/
def orbitsOf (start : Nat) (ns : List Nat) : List (List Nat) :=
  match ns with
  | gap :: more :: r =>
    ((start + gap) :: runningSums (start + gap) (r.take more)) ::
      orbitsOf (start + gap) (r.drop more)
  | _ => []
  termination_by ns.length
  decreasing_by simp only [List.length_drop, List.length_cons]; omega

/-- The orbits of more than one character, as ascending code points. -/
def caseOrbits : List (List Nat) := orbitsOf 0 (Packed.numbers packedCaseOrbits)

/-- The code points that differ from a character in case only, if there are others. -/
def caseMates (c : Char) : List Nat := (caseOrbits.find? (·.contains c.toNat)).getD []

/-- The members of a set and all characters that differ from one of them in case only. -/
def withCaseMates (s : CharSet) : CharSet :=
  let extra := (caseOrbits.filter (·.any s.containsCode)).flatten
  s.union (.unionAll (extra.map fun n => .range n n))

/-- The members of a set and, for each ASCII letter in it, the letter of the other case. -/
def withAsciiCaseMates (s : CharSet) : CharSet :=
  let letters := (List.range 26).flatMap fun i =>
    let upper := 'A'.toNat + i
    let lower := 'a'.toNat + i
    if s.containsCode upper || s.containsCode lower then [upper, lower] else []
  s.union (.unionAll (letters.map fun n => .range n n))

end ImageSync.Unicode
