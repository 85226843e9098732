import ImageSync.Regex.Span

/-!
# `ImageSync.Regex.Reach`: where an expression can end

Whether an expression matches somewhere in a text needs no search. A set of places of the
text is a number whose binary digits say which places are in it, and `Node.ends` gives the
places at which the expression can end when it starts in a set of places. Each part of the
expression acts on the whole set at once, so no way of matching is tried twice.

Main statements: `testBit_charPlaces` and `testBit_lookPlaces` say which places the two
basic sets hold.
-/

set_option autoImplicit false

namespace ImageSync.Regex

open ImageSync.Text (CharSet)

/-- The set of places that has the first place if `first`, and the places after it that
follow a place of `rest`. -/
def consPlace (first : Bool) (rest : Nat) : Nat := 2 * rest + first.toNat

/-- The places of a text at which a character of a set stands. -/
def charPlaces (s : CharSet) : List Char → Nat
  | [] => 0
  | c :: r => consPlace (s.contains c) (charPlaces s r)

/-- The places of a text at which a test holds; `before` is the character before it. -/
def lookPlaces (l : Look) (before : Option Char) : List Char → Nat
  | [] => consPlace (l.holds before none) 0
  | c :: r => consPlace (l.holds before (some c)) (lookPlaces l (some c) r)

/-- All places of a text. -/
def allPlaces (t : List Char) : Nat := 1 <<< (t.length + 1) - 1

/-- A step repeated `n` times, or until it changes nothing. -/
def repeatStep (step : Nat → Nat) : Nat → Nat → Nat
  | 0, places => places
  | n + 1, places =>
    let next := step places
    if next = places then places else repeatStep step n next

/-- The places at which an expression can end when it starts at one of `places`. An
unbounded repetition needs no more rounds than the text has characters, for a round that
takes nothing leads nowhere new. -/
def Node.ends (t : List Char) : Node → Nat → Nat
  | .empty, places => places
  | .one s, places => (places &&& charPlaces s t) <<< 1
  | .look l, places => places &&& lookPlaces l none t
  | .seq a b, places => b.ends t (a.ends t places)
  | .alt a b, places => a.ends t places ||| b.ends t places
  | .group _ a, places => a.ends t places
  | .rep min max _ a, places =>
    let rounds := match max with
      | none => t.length + 1
      | some m => m - min
    repeatStep (fun p => p ||| a.ends t p) rounds (repeatStep (a.ends t) min places)

/-- Whether an expression matches somewhere in a text. -/
def Node.matchesIn (e : Node) (t : List Char) : Bool := e.ends t (allPlaces t) != 0

/-- The lowest bit says whether the first place is in. -/
@[simp] theorem consPlace_mod_two_eq_one (first : Bool) (rest : Nat) :
    consPlace first rest % 2 = 1 ↔ first = true := by
  cases first
  · simp only [consPlace, Bool.toNat_false, Bool.false_eq_true, iff_false]
    omega
  · simp only [consPlace, Bool.toNat_true, iff_true]
    omega

/-- The other bits are those of the rest, one place further on. -/
@[simp] theorem testBit_consPlace_succ (first : Bool) (rest i : Nat) :
    (consPlace first rest).testBit (i + 1) = rest.testBit i := by
  rw [Nat.testBit_succ, consPlace]
  congr 1
  cases first
  · rw [Bool.toNat_false, Nat.add_zero, Nat.mul_div_cancel_left rest (by decide)]
  · rw [Bool.toNat_true]
    omega

/-- The places of a set of characters are those where one of them stands. -/
theorem testBit_charPlaces (s : CharSet) (t : List Char) (i : Nat) :
    (charPlaces s t).testBit i = (t[i]?).any s.contains := by
  induction t generalizing i with
  | nil => simp [charPlaces]
  | cons c r ih => cases i <;> simp [charPlaces, ih]

/-- The places of a test are those where it holds between the two characters there. -/
theorem testBit_lookPlaces (l : Look) (before : Option Char) (t : List Char) (i : Nat) :
    (lookPlaces l before t).testBit i =
      (decide (i ≤ t.length) &&
        l.holds (if i = 0 then before else t[i - 1]?) t[i]?) := by
  induction t generalizing i before with
  | nil => cases i <;> simp [lookPlaces]
  | cons c r ih =>
    cases i with
    | zero => simp [lookPlaces]
    | succ i => cases i <;> simp [lookPlaces, ih]

end ImageSync.Regex
