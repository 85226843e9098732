import ImageSync.Text.CharSet

/-!
# `ImageSync.Unicode.Packed`: packed tables of character properties

The property tables of this library are texts. A table is a list of numbers, each written
with digits to the base 32: a digit of at least 32 says that another one follows. Such a
list stands either for the gaps between the code points at which a property begins or ends
to hold, or for runs of code points that share a label.

Main statement: `containsCode_charsWhere` ties a set taken from labelled runs to the label
of each code point.
-/

set_option autoImplicit false

namespace ImageSync.Text.CharSet

/-- The ascending numbers from `next` on with the given gaps between them. -/
def ascending (next : Nat) : List Nat → List Nat
  | [] => []
  | g :: gs => (next + g) :: ascending (next + g + 1) gs

/-- No code point is below the one that the list starts from. -/
theorem le_of_mem_ascending {next : Nat} {gs : List Nat} {t : Nat}
    (h : t ∈ ascending next gs) : next ≤ t := by
  induction gs generalizing next with
  | nil => simp [ascending] at h
  | cons g gs ih =>
    rcases List.mem_cons.1 h with rfl | h
    · omega
    · have := ih h; omega

/-- The code points of a list come in ascending order. -/
theorem pairwise_ascending (next : Nat) (gs : List Nat) :
    (ascending next gs).Pairwise (· < ·) := by
  induction gs generalizing next with
  | nil => exact .nil
  | cons g gs ih =>
    exact List.pairwise_cons.2 ⟨fun _ h => by have := le_of_mem_ascending h; omega, ih _⟩

/-- The set whose membership changes at code points with the given gaps between them. -/
def ofGaps (gs : List Nat) : CharSet := ⟨ascending 0 gs, pairwise_ascending 0 gs⟩

end ImageSync.Text.CharSet

namespace ImageSync.Unicode.Packed

open ImageSync.Text (CharSet)

/-- The value of a digit of a packed table. -/
def digitValue (c : Char) : Nat :=
  if c.isDigit then c.toNat - '0'.toNat
  else if c.isUpper then c.toNat - 'A'.toNat + 10
  else if c.isLower then c.toNat - 'a'.toNat + 36
  else if c = '+' then 62
  else 63

/-- The numbers of a packed table; `n` is what the digits of an unfinished number give. -/
def numbersFrom (n : Nat) : List Char → List Nat
  | [] => []
  | c :: cs =>
    let d := digitValue c
    if d < 32 then (32 * n + d) :: numbersFrom 0 cs else numbersFrom (32 * n + (d - 32)) cs

/-- The numbers of a packed table. -/
def numbers (packed : String) : List Nat := numbersFrom 0 packed.toList

/-- The groups of numbers that stand one after the other, each after its size. -/
def groups (ns : List Nat) : List (List Nat) :=
  match ns with
  | [] => []
  | n :: r => r.take n :: groups (r.drop n)
  termination_by ns.length
  decreasing_by simp only [List.length_drop, List.length_cons]; omega

/-- Neighbouring code points that share a label. -/
structure Run where
  /-- One less than the number of code points. -/
  extra : Nat
  label : Nat
  deriving DecidableEq, Repr

/-- The numbers of a table, taken as the runs of code points from zero on. -/
def runsOf : List Nat → List Run
  | extra :: label :: r => ⟨extra, label⟩ :: runsOf r
  | _ => []

/-- The runs of code points that a packed table describes. -/
def runs (packed : String) : List Run := runsOf (numbers packed)

/-- The label of the code point that is `n` places into the runs; beyond them it is zero. -/
def labelAt : List Run → Nat → Nat
  | [], _ => 0
  | r :: rs, n => if n ≤ r.extra then r.label else labelAt rs (n - (r.extra + 1))

/-- The places, from `next` on, at which the labels begin or cease to satisfy `p`; `inside`
says whether the label before does. -/
def changes (p : Nat → Bool) (inside : Bool) (next : Nat) : List Run → List Nat
  | [] => if inside then [next] else []
  | r :: rs =>
    let rest := changes p (p r.label) (next + r.extra + 1) rs
    if p r.label = inside then rest else next :: rest

/-- No change is below the code point that the runs start from. -/
theorem le_of_mem_changes {p : Nat → Bool} {inside : Bool} {next t : Nat} {rs : List Run}
    (h : t ∈ changes p inside next rs) : next ≤ t := by
  induction rs generalizing inside next with
  | nil => unfold changes at h; split at h <;> simp_all
  | cons r rs ih =>
    unfold changes at h
    split at h
    · have := ih h; omega
    · rcases List.mem_cons.1 h with rfl | h
      · omega
      · have := ih h; omega

/-- The changes come in ascending order. -/
theorem pairwise_changes (p : Nat → Bool) (inside : Bool) (next : Nat) (rs : List Run) :
    (changes p inside next rs).Pairwise (· < ·) := by
  induction rs generalizing inside next with
  | nil => unfold changes; split <;> simp
  | cons r rs ih =>
    unfold changes
    split
    · exact ih _ _
    · exact List.pairwise_cons.2 ⟨fun _ h => by have := le_of_mem_changes h; omega, ih _ _⟩

/-- The code points whose label satisfies `p`. -/
def charsWhere (p : Nat → Bool) (rs : List Run) : CharSet :=
  ⟨changes p false 0 rs, pairwise_changes p false 0 rs⟩

/-- Counted from the start of the runs, a code point is inside exactly if its label is one of those
asked for. -/
theorem insideAt_changes {p : Nat → Bool} (h0 : p 0 = false) (inside : Bool) (next n : Nat)
    (rs : List Run) :
    CharSet.insideAt inside (changes p inside next rs) (next + n) = p (labelAt rs n) := by
  induction rs generalizing inside next n with
  | nil => cases inside <;> simp [changes, CharSet.insideAt, labelAt, h0]
  | cons r rs ih =>
    -- In the first run its label counts. Behind it the other runs do, from where it ends.
    have hrest : CharSet.insideAt (p r.label)
        (changes p (p r.label) (next + r.extra + 1) rs) (next + n) =
          p (labelAt (r :: rs) n) := by
      by_cases hn : n ≤ r.extra
      · rw [CharSet.insideAt_of_lt fun t ht => by have := le_of_mem_changes ht; omega]
        simp [labelAt, hn]
      · have := ih (p r.label) (next + r.extra + 1) (n - (r.extra + 1))
        rw [show next + r.extra + 1 + (n - (r.extra + 1)) = next + n by omega] at this
        simp [labelAt, hn, this]
    unfold changes
    split
    · next h => rw [← h]; exact hrest
    · next h =>
      have hflip : (!inside) = p r.label := by
        cases inside <;> cases hp : p r.label <;> simp_all
      rw [CharSet.insideAt, if_neg (by omega), hflip]
      exact hrest

/-- A code point is in the set exactly when its label satisfies `p`, where no label at all
counts as zero. -/
theorem containsCode_charsWhere {p : Nat → Bool} (h0 : p 0 = false) (rs : List Run) (n : Nat) :
    (charsWhere p rs).containsCode n = p (labelAt rs n) := by
  simpa [charsWhere, CharSet.containsCode] using insideAt_changes h0 false 0 n rs

end ImageSync.Unicode.Packed
