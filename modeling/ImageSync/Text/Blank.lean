/-!
# `ImageSync.Text.Blank`: blank characters and trimming

`isBlank` is the Unicode property White_Space: the twenty-five characters that separate
words and lines. `trim` removes them from both ends of a text, `trimStart` and `trimEnd`
from one end.

Main statements: every character that core calls whitespace is blank
(`isBlank_of_isWhitespace`), a trimmed text starts and ends with no blank
(`not_isBlank_of_head_trimStart`, `not_isBlank_of_getLast_trimEnd`).
-/

set_option autoImplicit false

namespace ImageSync.Text

/-- Whether a character has the Unicode property White_Space. -/
def isBlank (c : Char) : Bool :=
  let n := c.toNat
  (0x09 ≤ n && n ≤ 0x0D) || n == 0x20 || n == 0x85 || n == 0xA0 || n == 0x1680 ||
    (0x2000 ≤ n && n ≤ 0x200A) || n == 0x2028 || n == 0x2029 || n == 0x202F ||
    n == 0x205F || n == 0x3000

/-- The text without the blanks at its start. -/
def trimStart (cs : List Char) : List Char := cs.dropWhile isBlank

/-- The text without the blanks at its end. -/
def trimEnd (cs : List Char) : List Char := (cs.reverse.dropWhile isBlank).reverse

/-- The text without the blanks at its two ends. -/
def trim (cs : List Char) : List Char := trimEnd (trimStart cs)

/-- The text without the copies of `c` at its start. -/
def trimStartOf (c : Char) (cs : List Char) : List Char := cs.dropWhile (· == c)

/-- The text without the copies of `c` at its end. -/
def trimEndOf (c : Char) (cs : List Char) : List Char :=
  (cs.reverse.dropWhile (· == c)).reverse

/-- The five characters that core calls whitespace are blank. -/
theorem isBlank_of_isWhitespace {c : Char} (h : c.isWhitespace = true) : isBlank c = true := by
  simp only [Char.isWhitespace, Bool.or_eq_true, decide_eq_true_eq] at h
  rcases h with ((rfl | rfl) | rfl) | rfl <;> decide

/-- What is left after trimming the start does not start with a blank. -/
theorem not_isBlank_of_head_trimStart {cs r : List Char} {c : Char}
    (h : trimStart cs = c :: r) : isBlank c = false := by
  induction cs with
  | nil => simp [trimStart] at h
  | cons a as ih =>
    rw [trimStart, List.dropWhile_cons] at h
    split at h
    · exact ih h
    · next ha => cases h; simpa using ha

/-- What is left after trimming the end does not end with a blank. -/
theorem not_isBlank_of_getLast_trimEnd {cs r : List Char} {c : Char}
    (h : trimEnd cs = r ++ [c]) : isBlank c = false := by
  have hrev : trimStart cs.reverse = c :: r.reverse := by
    have := congrArg List.reverse h
    simpa [trimEnd, trimStart] using this
  exact not_isBlank_of_head_trimStart hrev

end ImageSync.Text
