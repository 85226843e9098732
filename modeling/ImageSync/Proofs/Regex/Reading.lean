import ImageSync.Regex.Pattern

/-!
# `ImageSync.Proofs.Regex.Reading`: reading a pattern with its closing behind it

An anchored pattern is the text of a pattern with an opening in front and `closing` behind it.
The theorems compare the readers on what is left of the pattern alone (`cs`) with what they
do when the closing stands behind it (`cs'`). Every reader that succeeds on the first gives
the same on the second, and what it leaves is again related in this way (`SameRead`).

Usually `cs'` is `cs ++ closing`. There is one exception, and it is why `Longer` has two
constructors: in a verbose pattern a comment runs to the end of the line, so a comment at the
end of the pattern swallows the closing.

The main statement is `readPiece_longer`, for one piece of a pattern. A reader that looks
ahead sees the closing parenthesis where the pattern alone ends, and no reader takes it for
anything that it looks for.
-/

set_option autoImplicit false

namespace ImageSync.Regex

open ImageSync.Text (isBlank)

/-- What stands behind the pattern in an anchored one. -/
def closing : List Char := [')', '$']

/-- What is left of a text alone, and what is left of it with the closing behind it. -/
inductive Longer : List Char → List Char → Prop where
  | behind (cs : List Char) : Longer cs (cs ++ closing)
  /-- A comment has swallowed the closing. -/
  | swallowed : Longer [] []

/-- The same first part, and second parts that are related. -/
def Beside {α β : Type} (rel : β → β → Prop) (p q : α × β) : Prop :=
  p.1 = q.1 ∧ rel p.2 q.2

/-- A reading that succeeds alone succeeds in a longer text, and the results are related. -/
def SameRead {α : Type} (rel : α → α → Prop) (x x' : Option α) : Prop :=
  ∀ a, x = some a → ∃ a', x' = some a' ∧ rel a a'

namespace SameRead

variable {α β : Type} {rel : α → α → Prop} {rel' : β → β → Prop}

/-- Where the text alone cannot be read, nothing is said about the longer one. -/
theorem none (x' : Option α) : SameRead rel Option.none x' := fun _ h => nomatch h

/-- Readings that both succeed are the same if their results are related. -/
theorem some {a a' : α} (h : rel a a') : SameRead rel (Option.some a) (Option.some a') := by
  intro b hb
  cases hb
  exact ⟨a', rfl, h⟩

/-- Readings one after the other. -/
theorem bind {x x' : Option α} {k k' : α → Option β} (hx : SameRead rel x x')
    (hk : ∀ a a', rel a a' → SameRead rel' (k a) (k' a')) :
    SameRead rel' (x >>= k) (x' >>= k') := by
  intro b hb
  obtain ⟨a, ha, hb⟩ := Option.bind_eq_some_iff.1 hb
  obtain ⟨a', ha', hrel⟩ := hx a ha
  obtain ⟨b', hb', hrel'⟩ := hk a a' hrel b hb
  exact ⟨b', by rw [ha']; exact hb', hrel'⟩

/-- A step that does not look at the text, between readings. -/
theorem bind_left (x : Option α) {k k' : α → Option β}
    (hk : ∀ a, SameRead rel' (k a) (k' a)) : SameRead rel' (x >>= k) (x >>= k') := by
  intro b hb
  obtain ⟨a, ha, hb⟩ := Option.bind_eq_some_iff.1 hb
  obtain ⟨b', hb', hrel'⟩ := hk a b hb
  exact ⟨b', by rw [ha]; exact hb', hrel'⟩

/-- What is made of the result of a reading. -/
theorem map {x x' : Option α} {g g' : α → β} (hx : SameRead rel x x')
    (hg : ∀ a a', rel a a' → rel' (g a) (g' a')) : SameRead rel' (x.map g) (x'.map g') := by
  intro b hb
  obtain ⟨a, ha, rfl⟩ := Option.map_eq_some_iff.1 hb
  obtain ⟨a', ha', hrel⟩ := hx a ha
  exact ⟨g' a', by rw [ha']; rfl, hg a a' hrel⟩

/-- What is made of something that does not look at the text. -/
theorem map_left (x : Option α) {g g' : α → β} (hg : ∀ a, rel' (g a) (g' a)) :
    SameRead rel' (x.map g) (x.map g') := by
  intro b hb
  obtain ⟨a, rfl, rfl⟩ := Option.map_eq_some_iff.1 hb
  exact ⟨g' a, rfl, hg a⟩

/-- A branch on something that holds for both texts or for none. -/
theorem ite {p p' : Prop} [Decidable p] [Decidable p'] {x x' y y' : Option α} (hp : p' ↔ p)
    (hx : SameRead rel x x') (hy : SameRead rel y y') :
    SameRead rel (if p then x else y) (if p' then x' else y') := by
  by_cases h : p
  · rw [if_pos h, if_pos (hp.2 h)]
    exact hx
  · rw [if_neg h, if_neg (mt hp.1 h)]
    exact hy

end SameRead

/-! ### What does not count -/

namespace Longer

variable {cs cs' : List Char}

/-- A text that has a character left was not swallowed. -/
theorem of_cons {c : Char} {r : List Char} (h : Longer (c :: r) cs') :
    cs' = c :: (r ++ closing) := by
  cases h
  rfl

/-- Behind a text with nothing left stands the closing, if anything. -/
theorem of_nil (h : Longer [] cs') : cs' = closing ∨ cs' = [] := by
  cases h with
  | behind => exact .inl rfl
  | swallowed => exact .inr rfl

/-- A longer text starts with a character other than the closing's only if the text does. -/
theorem ne_cons {c : Char} (h : Longer cs cs') (hc : c ≠ ')') (hne : ∀ r, cs ≠ c :: r) :
    ∀ r, cs' ≠ c :: r := by
  intro r hr
  -- Either the first character is that of the text alone, or it is the parenthesis.
  cases cs with
  | nil =>
    rcases h.of_nil with rfl | rfl
    · cases hr
      exact hc rfl
    · cases hr
  | cons d s =>
    rw [h.of_cons] at hr
    cases hr
    exact hne s rfl

/-- The closing makes a text longer. -/
theorem length_le (h : Longer cs cs') : cs.length ≤ cs'.length := by
  cases h with
  | behind => simp
  | swallowed => exact Nat.le_refl _

/-- Text that does not count is skipped before the closing, or together with it. -/
theorem skipComments (inComment : Bool) (h : Longer cs cs') :
    Longer (Flags.skipComments inComment cs) (Flags.skipComments inComment cs') := by
  cases h with
  | swallowed => exact .swallowed
  | behind =>
    -- Only where the text ends in a comment does the comment run on over the closing.
    induction cs generalizing inComment with
    | nil =>
      cases inComment with
      | false => exact .behind []
      | true => exact .swallowed
    | cons c r ih =>
      rw [List.cons_append, Flags.skipComments, Flags.skipComments]
      split
      · exact ih _
      · split
        · exact ih _
        · split
          · exact ih _
          · exact .behind (c :: r)

/-- What a pattern skips between its pieces: in a verbose one blanks and comments, else nothing. -/
theorem skip (f : Flags) (h : Longer cs cs') : Longer (f.skip cs) (f.skip cs') := by
  unfold Flags.skip
  split
  · exact h.skipComments false
  · exact h

end Longer

/-- The closing does not start with a blank. -/
theorem dropWhile_isBlank_closing (cs : List Char) :
    (cs ++ closing).dropWhile isBlank = cs.dropWhile isBlank ++ closing := by
  induction cs with
  | nil => rfl
  | cons c r ih =>
    rw [List.cons_append, List.dropWhile_cons, List.dropWhile_cons]
    split
    · exact ih
    · rfl

/-- Blanks are dropped from both texts alike. -/
theorem Longer.dropBlanks {cs cs' : List Char} (h : Longer cs cs') :
    Longer (cs.dropWhile isBlank) (cs'.dropWhile isBlank) := by
  cases h with
  | swallowed => exact .swallowed
  | behind =>
    rw [dropWhile_isBlank_closing]
    exact .behind _

/-- Skipping makes no text longer. -/
theorem length_skip_le (f : Flags) (cs : List Char) : (f.skip cs).length ≤ cs.length := by
  have key : ∀ (inComment : Bool) (cs : List Char),
      (Flags.skipComments inComment cs).length ≤ cs.length := by
    intro inComment cs
    induction cs generalizing inComment with
    | nil => exact Nat.le_refl _
    | cons c r ih =>
      rw [Flags.skipComments]
      repeat' split
      all_goals first
        | exact Nat.le_succ_of_le (ih _)
        | exact Nat.le_refl _
  unfold Flags.skip
  split
  · exact key _ _
  · exact Nat.le_refl _

/-- What stands before and after the first separator, if the closing does not hold it. -/
theorem cutFirst?_closing {sep : Char} (hsep : sep ∉ closing) (cs : List Char) :
    Text.cutFirst? sep (cs ++ closing) =
      (Text.cutFirst? sep cs).map fun p => (p.1, p.2 ++ closing) := by
  induction cs with
  | nil =>
    have hparen : ')' ≠ sep := fun h => hsep (by simp [closing, ← h])
    have hdollar : '$' ≠ sep := fun h => hsep (by simp [closing, ← h])
    simp [closing, Text.cutFirst?, hparen, hdollar]
  | cons c r ih =>
    rw [List.cons_append, Text.cutFirst?, Text.cutFirst?]
    split
    · rfl
    · rw [ih, Option.map_map, Option.map_map]
      rfl

/-- A separator that the closing does not hold is found where it is found alone. -/
theorem cutFirst?_longer {sep : Char} (hsep : sep ∉ closing) {cs cs' : List Char}
    (h : Longer cs cs') :
    SameRead (Beside Longer) (Text.cutFirst? sep cs) (Text.cutFirst? sep cs') := by
  cases h with
  | swallowed => exact .none _
  | behind =>
    rintro ⟨before, rest⟩ hcut
    exact ⟨(before, rest ++ closing), by rw [cutFirst?_closing hsep, hcut]; rfl, rfl,
      .behind rest⟩

/-- The text before a closing brace does not reach beyond it. -/
theorem untilBrace_longer (f : Flags) (inComment : Bool) {cs cs' : List Char}
    (h : Longer cs cs') :
    SameRead (Beside Longer) (f.untilBrace inComment cs) (f.untilBrace inComment cs') := by
  cases h with
  | swallowed => exact .none _
  | behind =>
    -- Without a brace the text alone is refused, so the closing is not reached.
    induction cs generalizing inComment with
    | nil => exact .none _
    | cons c r ih =>
      rw [List.cons_append, Flags.untilBrace, Flags.untilBrace]
      split
      · exact ih _
      · split
        · exact .some ⟨rfl, .behind r⟩
        · split
          · exact ih _
          · split
            · exact ih _
            · refine .map (ih _) ?_
              rintro ⟨name, rest⟩ ⟨_, rest'⟩ ⟨rfl, hrest⟩
              exact ⟨rfl, hrest⟩

/-! ### Escapes -/

section Escapes

variable (f : Flags) {cs cs' : List Char}

/-- A fixed number of digits is taken from the text alone, or there are too few. -/
theorem takeCounted_longer (n : Nat) (h : Longer cs cs') :
    SameRead (Beside Longer) (takeCounted f n cs) (takeCounted f n cs') := by
  induction n generalizing cs cs' with
  | zero => exact .some ⟨rfl, h⟩
  | succ n ih =>
    cases cs with
    | nil => exact .none _
    | cons c r =>
      rw [h.of_cons]
      refine .map (ih ((Longer.behind r).skip f)) ?_
      rintro ⟨taken, rest⟩ ⟨_, rest'⟩ ⟨rfl, hrest⟩
      exact ⟨rfl, hrest⟩

/-- The code of a character is the same in a longer text. Escapes that have no braces have at least
one digit. -/
theorem readHex_longer {count : Nat} (hcount : count ≠ 0) (h : Longer cs cs') :
    SameRead (Beside Longer) (readHex f count cs) (readHex f count cs') := by
  have hs := h.skip f
  unfold readHex
  generalize f.skip cs = x at hs
  generalize f.skip cs' = x' at hs
  -- The value of the digits does not depend on what follows them.
  have finish : ∀ p p' : List Char × Bool × List Char, Beside (Beside Longer) p p' →
      SameRead (Beside Longer)
        (hexValue? p.1 >>= fun n => charOfCode? n >>= fun c =>
          some (Primitive.literal c p.2.1, p.2.2))
        (hexValue? p'.1 >>= fun n => charOfCode? n >>= fun c =>
          some (Primitive.literal c p'.2.1, p'.2.2)) := by
    rintro ⟨digits, asByte, rest⟩ ⟨_, _, rest'⟩ ⟨rfl, rfl, hrest⟩
    exact .bind_left _ fun n => .bind_left _ fun c => .some ⟨rfl, hrest⟩
  cases x with
  | nil =>
    -- There have to be digits, and the text is at its end.
    obtain ⟨n, rfl⟩ := Nat.exists_eq_succ_of_ne_zero hcount
    exact .none _
  | cons c r =>
    rw [hs.of_cons]
    split
    · next heq =>
      cases heq
      refine .bind (.map (untilBrace_longer f false (.behind r)) ?_) finish
      rintro ⟨digits, rest⟩ ⟨_, rest'⟩ ⟨rfl, hrest⟩
      exact ⟨rfl, rfl, hrest⟩
    · next hne =>
      split
      · next heq =>
        cases heq
        exact absurd rfl (hne r)
      · refine .bind (.map (takeCounted_longer f count (.behind (c :: r))) ?_) finish
        rintro ⟨digits, rest⟩ ⟨_, rest'⟩ ⟨rfl, hrest⟩
        exact ⟨rfl, rfl, hrest⟩

/-- A property is the same in a longer text. -/
theorem readProperty_longer (negated : Bool) (h : Longer cs cs') :
    SameRead (Beside Longer) (readProperty f negated cs) (readProperty f negated cs') := by
  have hs := h.skip f
  unfold readProperty
  generalize f.skip cs = x at hs
  generalize f.skip cs' = x' at hs
  -- The set does not depend on what follows the property.
  have finish : ∀ p p' : Option Text.CharSet × List Char, Beside Longer p p' →
      SameRead (Beside Longer)
        (p.1 >>= fun set => f.negateIf? negated (f.foldCase set) >>= fun s =>
          some (Primitive.chars s, p.2))
        (p'.1 >>= fun set => f.negateIf? negated (f.foldCase set) >>= fun s =>
          some (Primitive.chars s, p'.2)) := by
    rintro ⟨named, rest⟩ ⟨_, rest'⟩ ⟨rfl, hrest⟩
    exact .bind_left _ fun set => .bind_left _ fun s => .some ⟨rfl, hrest⟩
  refine .bind_left _ fun _ => ?_
  cases x with
  | nil => exact .none _
  | cons c r =>
    rw [hs.of_cons]
    split
    · next heq => cases heq
    · next heq =>
      cases heq
      refine .bind (.map (untilBrace_longer f false (.behind r)) ?_) finish
      rintro ⟨text, rest⟩ ⟨_, rest'⟩ ⟨rfl, hrest⟩
      exact ⟨rfl, hrest⟩
    · next c' r' hne heq =>
      cases heq
      split
      · next heq => cases heq
      · next heq =>
        cases heq
        exact absurd rfl hne
      · next heq =>
        cases heq
        exact .bind (.some ⟨rfl, .behind r⟩) finish

/-- A word boundary with a brace behind it. Only a name in the brace makes it a kind of its own. -/
theorem readBoundary_brace (r : List Char) :
    readBoundary f ('\x7b' :: r) =
      match f.skip r with
      | [] => none
      | c :: _ =>
        if c.isAlpha || c == '-' then do
          let (name, rest) ← f.untilBrace false r
          return (.look (← boundaryNamed? f name), rest)
        else some (.look (.wordBoundary f.wordChars), '\x7b' :: r) := rfl

/-- A word boundary without a brace behind it. -/
theorem readBoundary_of_ne (hne : ∀ r, cs ≠ '\x7b' :: r) :
    readBoundary f cs = some (.look (.wordBoundary f.wordChars), cs) := by
  unfold readBoundary
  split
  · exact absurd rfl (hne _)
  · rfl

/-- A word boundary is the same in a longer text. Where the text alone ends behind the brace it is
refused, so nothing has to be shown. -/
theorem readBoundary_longer (h : Longer cs cs') :
    SameRead (Beside Longer) (readBoundary f cs) (readBoundary f cs') := by
  by_cases hbrace : ∃ r, cs = '\x7b' :: r
  · obtain ⟨r, rfl⟩ := hbrace
    have hs := (Longer.behind r).skip f
    rw [h.of_cons, readBoundary_brace, readBoundary_brace]
    cases hskip : f.skip r with
    | nil => exact .none _
    | cons d r' =>
      rw [hskip] at hs
      rw [hs.of_cons]
      dsimp only
      split
      · refine .bind (untilBrace_longer f false (.behind r)) ?_
        rintro ⟨name, rest⟩ ⟨_, rest'⟩ ⟨rfl, hrest⟩
        exact .bind_left _ fun l => .some ⟨rfl, hrest⟩
      · exact .some ⟨rfl, .behind _⟩
  · have hne : ∀ r, cs ≠ '\x7b' :: r := fun r hr => hbrace ⟨r, hr⟩
    rw [readBoundary_of_ne f hne, readBoundary_of_ne f (h.ne_cons (by decide) hne)]
    exact .some ⟨rfl, h⟩

/-- An escape is the same in a longer text. A backslash at the end of the text alone is refused. -/
theorem readEscape_longer (h : Longer cs cs') :
    SameRead (Beside Longer) (readEscape f cs) (readEscape f cs') := by
  cases cs with
  | nil => exact .none _
  | cons c r =>
    rw [h.of_cons]
    have hr : Longer r (r ++ closing) := .behind r
    have hclass : ∀ (set : Text.CharSet) (negated : Bool),
        SameRead (Beside Longer) ((f.negateIf? negated set).map fun s => (Primitive.chars s, r))
          ((f.negateIf? negated set).map fun s => (Primitive.chars s, r ++ closing)) := by
      intro set negated
      exact .map_left _ fun s => ⟨rfl, hr⟩
    unfold readEscape
    dsimp only
    split
    -- The escapes that go on read what is behind their letter; the other ones end with it.
    all_goals first
      | exact readHex_longer f (by decide) hr
      | exact readProperty_longer f _ hr
      | exact hclass _ _
      | exact readBoundary_longer f hr
      | exact .some ⟨rfl, hr⟩
      | skip
    split
    · exact .some ⟨rfl, hr⟩
    · exact .none _

/-- A character of a class, escaped or not, is the same in a longer text. -/
theorem readPrimitive_longer (h : Longer cs cs') :
    SameRead (Beside Longer) (readPrimitive f cs) (readPrimitive f cs') := by
  cases cs with
  | nil => exact .none _
  | cons c r =>
    rw [h.of_cons]
    unfold readPrimitive
    split
    · next heq => cases heq
    · next heq =>
      cases heq
      exact readEscape_longer f (.behind r)
    · next hne heq =>
      cases heq
      split
      · next heq => cases heq
      · next heq =>
        cases heq
        exact absurd rfl hne
      · next heq =>
        cases heq
        exact .some ⟨rfl, .behind r⟩

end Escapes

/-! ### Classes between brackets -/

section Brackets

variable (f : Flags) {cs cs' : List Char}

/-- What is read of an ASCII class after its colon, and the caret that negates it. -/
def asciiClassRest (negated : Bool) (cs : List Char) :
    Option (Option Text.CharSet × List Char) := do
  let (name, rest) ← Text.cutFirst? ':' cs
  match rest with
  | ']' :: r => do
    let set ← Flags.asciiClass? (String.ofList name)
    return (f.negateIf? negated (f.foldCase set), r)
  | _ => none

/-- An ASCII class that is not negated. -/
theorem readAsciiClass_colon {r : List Char} (hne : ∀ s, r ≠ '^' :: s) :
    readAsciiClass f (':' :: r) = asciiClassRest f false r := by
  unfold readAsciiClass
  split
  · next heq =>
    cases heq
    exact absurd rfl (hne _)
  · next heq =>
    cases heq
    rfl
  · next hcolon => exact absurd rfl (hcolon r)

/-- Without a colon there is no ASCII class. -/
theorem readAsciiClass_of_ne (hne : ∀ r, cs ≠ ':' :: r) : readAsciiClass f cs = none := by
  unfold readAsciiClass
  split
  · exact absurd rfl (hne _)
  · exact absurd rfl (hne _)
  · rfl

/-- The name of an ASCII class ends with a colon and a bracket, which the closing does not supply.
-/
theorem asciiClassRest_closing (negated : Bool) (cs : List Char) :
    asciiClassRest f negated (cs ++ closing) =
      (asciiClassRest f negated cs).map fun p => (p.1, p.2 ++ closing) := by
  unfold asciiClassRest
  rw [cutFirst?_closing (by decide)]
  cases Text.cutFirst? ':' cs with
  | none => rfl
  | some p =>
    obtain ⟨name, rest⟩ := p
    -- What follows the second colon has to be a bracket, and the closing has none.
    by_cases hbracket : ∃ r, rest = ']' :: r
    · obtain ⟨r, rfl⟩ := hbracket
      show (Flags.asciiClass? (String.ofList name) >>= _) =
        (Flags.asciiClass? (String.ofList name) >>= _).map _
      cases Flags.asciiClass? (String.ofList name) <;> rfl
    · have hne : ∀ r, rest ≠ ']' :: r := fun r hr => hbracket ⟨r, hr⟩
      have hne' := (Longer.behind rest).ne_cons (by decide) hne
      show (match rest ++ closing with | ']' :: r => _ | _ => none) =
        (match rest with | ']' :: r => _ | _ => none : Option _).map _
      split
      · exact absurd ‹_› (hne' _)
      · rfl

/-- An ASCII class is one with the closing behind it, and what is no such class stays none. -/
theorem readAsciiClass_closing (cs : List Char) :
    readAsciiClass f (cs ++ closing) =
      (readAsciiClass f cs).map fun p => (p.1, p.2 ++ closing) := by
  by_cases hcolon : ∃ r, cs = ':' :: r
  · obtain ⟨r, rfl⟩ := hcolon
    by_cases hcaret : ∃ s, r = '^' :: s
    · obtain ⟨s, rfl⟩ := hcaret
      exact asciiClassRest_closing f true s
    · have hne : ∀ s, r ≠ '^' :: s := fun s hs => hcaret ⟨s, hs⟩
      rw [List.cons_append, readAsciiClass_colon f hne,
        readAsciiClass_colon f ((Longer.behind r).ne_cons (by decide) hne)]
      exact asciiClassRest_closing f false r
  · have hne : ∀ r, cs ≠ ':' :: r := fun r hr => hcolon ⟨r, hr⟩
    rw [readAsciiClass_of_ne f hne,
      readAsciiClass_of_ne f ((Longer.behind cs).ne_cons (by decide) hne)]
    rfl

/-- A hyphen at the start of a class is a character of it. -/
theorem readHyphens_hyphen (n : Nat) (l : Level) (r : List Char) :
    readHyphens f (n + 1) l ('-' :: r) = readHyphens f n (l.addChar '-') (f.skip r) := rfl

/-- What is no hyphen ends the hyphens at the start of a class. -/
theorem readHyphens_of_ne (n : Nat) (l : Level) (hne : ∀ r, cs ≠ '-' :: r) :
    readHyphens f n l cs = (l, cs) := by
  unfold readHyphens
  split
  · exact absurd rfl (hne _)
  · rfl

/-- The bounds on the steps are those that the lengths of the texts give. -/
theorem readHyphens_longer {n n' : Nat} (l : Level) (hn : cs.length ≤ n)
    (hn' : cs'.length ≤ n') (h : Longer cs cs') :
    Beside Longer (readHyphens f n l cs) (readHyphens f n' l cs') := by
  -- By induction on the steps that the text alone may take. The longer one may take more of them.
  induction n generalizing n' l cs cs' with
  | zero =>
    obtain rfl : cs = [] := List.length_eq_zero_iff.1 (Nat.le_zero.1 hn)
    have hne : ∀ r, ([] : List Char) ≠ '-' :: r := fun _ hr => nomatch hr
    rw [readHyphens_of_ne f 0 l hne, readHyphens_of_ne f n' l (h.ne_cons (by decide) hne)]
    exact ⟨rfl, h⟩
  | succ n ih =>
    by_cases hhyphen : ∃ r, cs = '-' :: r
    · obtain ⟨r, rfl⟩ := hhyphen
      obtain rfl := h.of_cons
      cases n' with
      | zero => simp at hn'
      | succ n' =>
        rw [readHyphens_hyphen, readHyphens_hyphen]
        refine ih _ ?_ ?_ ((Longer.behind r).skip f)
        · exact Nat.le_trans (length_skip_le f r) (Nat.le_of_succ_le_succ hn)
        · exact Nat.le_trans (length_skip_le f _) (Nat.le_of_succ_le_succ hn')
    · have hne : ∀ r, cs ≠ '-' :: r := fun r hr => hhyphen ⟨r, hr⟩
      rw [readHyphens_of_ne f _ l hne, readHyphens_of_ne f _ l (h.ne_cons (by decide) hne)]
      exact ⟨rfl, h⟩

/-- What opens a class after the caret that negates it, if it has one. -/
def openRest (negated : Bool) (cs : List Char) : Level × List Char :=
  let (l, cs) := readHyphens f cs.length { negated } cs
  match cs with
  | ']' :: r => if l.count = 0 then (l.addChar ']', f.skip r) else (l, cs)
  | _ => (l, cs)

/-- The start of a class behind its caret is the same in a longer text. -/
theorem openRest_longer (negated : Bool) (h : Longer cs cs') :
    Beside Longer (openRest f negated cs) (openRest f negated cs') := by
  have hyphens := readHyphens_longer f { negated } (Nat.le_refl _) (Nat.le_refl _) h
  unfold openRest
  generalize readHyphens f cs.length { negated } cs = p at hyphens
  generalize readHyphens f cs'.length { negated } cs' = p' at hyphens
  obtain ⟨l, x⟩ := p
  obtain ⟨_, x'⟩ := p'
  obtain ⟨rfl, hx⟩ := hyphens
  dsimp only at hx ⊢
  -- A bracket that comes first is a character, and it is one of the text alone.
  by_cases hbracket : ∃ r, x = ']' :: r
  · obtain ⟨r, rfl⟩ := hbracket
    obtain rfl := hx.of_cons
    show Beside Longer (if l.count = 0 then _ else _) (if l.count = 0 then _ else _)
    split
    · exact ⟨rfl, (Longer.behind r).skip f⟩
    · exact ⟨rfl, .behind _⟩
  · have hne : ∀ r, x ≠ ']' :: r := fun r hr => hbracket ⟨r, hr⟩
    have hne' := hx.ne_cons (by decide) hne
    split
    · exact absurd rfl (hne _)
    · exact ⟨rfl, hx⟩

/-- A class with a caret is opened as a negated one. -/
theorem openBracket_caret {r : List Char} (hcaret : f.skip cs = '^' :: r) :
    openBracket f cs = openRest f true (f.skip r) := by
  unfold openBracket
  rw [hcaret]
  rfl

/-- A class without a caret is opened as it is. -/
theorem openBracket_of_ne (hne : ∀ r, f.skip cs ≠ '^' :: r) :
    openBracket f cs = openRest f false (f.skip cs) := by
  unfold openBracket
  split
  next heq =>
    split at heq
    · next hcaret => exact absurd hcaret (hne _)
    · cases heq
      rfl

/-- The start of a class is the same in a longer text, with a caret or without. -/
theorem openBracket_longer (h : Longer cs cs') :
    Beside Longer (openBracket f cs) (openBracket f cs') := by
  have hs := h.skip f
  by_cases hcaret : ∃ r, f.skip cs = '^' :: r
  · obtain ⟨r, hr⟩ := hcaret
    rw [hr] at hs
    rw [openBracket_caret f hr, openBracket_caret f hs.of_cons]
    exact openRest_longer f true ((Longer.behind r).skip f)
  · have hne : ∀ r, f.skip cs ≠ '^' :: r := fun r hr => hcaret ⟨r, hr⟩
    rw [openBracket_of_ne f hne, openBracket_of_ne f (hs.ne_cons (by decide) hne)]
    exact openRest_longer f false hs

/-- Looking ahead behind a hyphen at the end of a text shows the closing. -/
theorem afterHyphen_closing (cs : List Char) :
    afterHyphen f (cs ++ closing) = some ((afterHyphen f cs).getD ')') := by
  have hhead : ∀ x : List Char, (x ++ closing).head? = some (x.head?.getD ')') := by
    intro x
    cases x <;> rfl
  unfold afterHyphen
  split
  · exact hhead cs
  · rw [dropWhile_isBlank_closing]
    generalize cs.dropWhile isBlank = x
    by_cases hnote : ∃ r, x = '#' :: r
    · obtain ⟨r, rfl⟩ := hnote
      show ((r ++ closing).dropWhile isBlank).head? =
        some (((r.dropWhile isBlank).head?).getD ')')
      rw [dropWhile_isBlank_closing]
      exact hhead _
    · have hne : ∀ r, x ≠ '#' :: r := fun r hr => hnote ⟨r, hr⟩
      have hne' := (Longer.behind x).ne_cons (by decide) hne
      split
      · exact absurd ‹_› (hne' _)
      · exact hhead x

/-- A hyphen makes a range in a longer text exactly where it makes one alone. -/
theorem afterHyphen_closing_iff {c : Char} (hc : c ≠ ')') (cs : List Char) :
    afterHyphen f (cs ++ closing) = some c ↔ afterHyphen f cs = some c := by
  rw [afterHyphen_closing]
  cases afterHyphen f cs with
  | none => simp [Ne.symm hc]
  | some d => simp

/-- An item of a class is the same in a longer text: the hyphen that makes a range of it is followed
by the same character, or by the closing. -/
theorem readItem_longer (h : Longer cs cs') :
    SameRead (Beside Longer) (readItem f cs) (readItem f cs') := by
  unfold readItem
  refine .bind (readPrimitive_longer f h) ?_
  rintro ⟨first, rest⟩ ⟨_, rest'⟩ ⟨rfl, hrest⟩
  have hs := hrest.skip f
  dsimp only at hs ⊢
  generalize f.skip rest = x at hs
  generalize f.skip rest' = x' at hs
  -- Without a hyphen the item is one character.
  by_cases hhyphen : ∃ r, x = '-' :: r
  · obtain ⟨r, rfl⟩ := hhyphen
    obtain rfl := hs.of_cons
    have hclosed := afterHyphen_closing_iff f (show ']' ≠ ')' by decide) r
    have hhyphens := afterHyphen_closing_iff f (show '-' ≠ ')' by decide) r
    refine .ite (or_congr hclosed hhyphens) ?_ ?_
    · exact .bind_left _ fun s => .some ⟨rfl, .behind _⟩
    · refine .bind (readPrimitive_longer f ((Longer.behind r).skip f)) ?_
      rintro ⟨last, rest⟩ ⟨_, rest'⟩ ⟨rfl, hrest⟩
      exact .bind_left _ fun s => .some ⟨rfl, hrest⟩
  · have hne : ∀ r, x ≠ '-' :: r := fun r hr => hhyphen ⟨r, hr⟩
    have hne' := hs.ne_cons (by decide) hne
    split
    · exact absurd rfl (hne _)
    · exact .bind_left _ fun s => .some ⟨rfl, hs⟩

/-- A class is read up to the bracket that closes it, and not beyond. -/
theorem readLevels_open (n : Nat) (l : Level) (outer : List Level) {r : List Char}
    (h : f.skip cs = '[' :: r) :
    readLevels f (n + 1) l outer cs =
      match readAsciiClass f r with
      | some (set, rest) => do readLevels f n (l.add ⟨← set, 0⟩) outer rest
      | none =>
        let (inner, rest) := openBracket f r
        readLevels f n inner (l :: outer) rest := by
  rw [readLevels, h]
  rfl

/-- The inside of a class is the same in a longer text, for any number of classes around it. -/
theorem readLevels_longer {n n' : Nat} (l : Level) (outer : List Level) (hn : n ≤ n')
    (h : Longer cs cs') :
    SameRead (Beside Longer) (readLevels f n l outer cs) (readLevels f n' l outer cs') := by
  -- The induction is on the steps that the text alone has left. The longer text has at least
  -- as many, so that it never stops before.
  induction n generalizing n' l outer cs cs' with
  | zero => exact .none _
  | succ n ih =>
    obtain ⟨n', rfl⟩ : ∃ m, n' = m + 1 := ⟨n' - 1, by omega⟩
    have hle : n ≤ n' := Nat.le_of_succ_le_succ hn
    have hs := h.skip f
    rw [readLevels]
    generalize f.skip cs = x at hs
    split
    · exact .none _
    · next r =>
      rw [readLevels_open f n' l outer hs.of_cons, readAsciiClass_closing]
      cases readAsciiClass f r with
      | some p =>
        obtain ⟨set, rest⟩ := p
        exact .bind_left _ fun s => ih _ _ hle (.behind rest)
      | none =>
        have hopen := openBracket_longer f (.behind r)
        dsimp only [Option.map_none]
        generalize openBracket f r = p at hopen
        generalize openBracket f (r ++ closing) = p' at hopen
        obtain ⟨inner, rest⟩ := p
        obtain ⟨_, rest'⟩ := p'
        obtain ⟨rfl, hrest⟩ := hopen
        exact ih _ _ hle hrest
    · next r =>
      rw [readLevels, hs.of_cons]
      refine .bind_left _ fun closed => ?_
      cases outer with
      | nil => exact .some ⟨rfl, .behind r⟩
      | cons l' outer => exact ih _ _ hle (.behind r)
    · next r =>
      rw [readLevels, hs.of_cons]
      exact ih _ _ hle (.behind r)
    · next r =>
      rw [readLevels, hs.of_cons]
      exact ih _ _ hle (.behind r)
    · next r =>
      rw [readLevels, hs.of_cons]
      exact ih _ _ hle (.behind r)
    · next c r hopen hclose hinter hdiff hsymm =>
      rw [readLevels, hs.of_cons]
      -- A sign of two characters is not made of the last character and the closing.
      have hsign : ∀ a, a ≠ ')' → (∀ s, c = a → r = a :: s → False) →
          ∀ s, c :: (r ++ closing) = a :: a :: s → False := by
        intro a ha hno s heq
        obtain ⟨hca, htail⟩ := List.cons.inj heq
        exact (Longer.behind r).ne_cons ha (fun s' => hno s' hca) s htail
      split
      · next heq => cases heq
      · next heq => exact absurd (List.cons.inj heq).1 hopen
      · next heq => exact absurd (List.cons.inj heq).1 hclose
      · next heq => exact (hsign '&' (by decide) hinter _ heq).elim
      · next heq => exact (hsign '-' (by decide) hdiff _ heq).elim
      · next heq => exact (hsign '~' (by decide) hsymm _ heq).elim
      · next heq =>
        cases heq
        refine .bind (readItem_longer f (.behind (c :: r))) ?_
        rintro ⟨set, rest⟩ ⟨_, rest'⟩ ⟨rfl, hrest⟩
        exact ih _ _ hle hrest

/-- A class between brackets is the same in a longer text. -/
theorem readBracket_longer (h : Longer cs cs') :
    SameRead (Beside Longer) (readBracket f cs) (readBracket f cs') := by
  have hopen := openBracket_longer f h
  unfold readBracket
  generalize openBracket f cs = p at hopen
  generalize openBracket f cs' = p' at hopen
  obtain ⟨l, rest⟩ := p
  obtain ⟨_, rest'⟩ := p'
  obtain ⟨rfl, hrest⟩ := hopen
  exact readLevels_longer f _ _ (Nat.succ_le_succ hrest.length_le) hrest

end Brackets

/-! ### Groups and repetitions -/

section Groups

variable (f : Flags) {cs cs' : List Char}

/-- The flags of a group end with a colon or a parenthesis of their own. -/
theorem readFlags_longer (g : Flags) (seen : List Char) (on bare : Bool) (h : Longer cs cs') :
    SameRead (Beside (Beside (Beside Longer))) (readFlags g seen on bare cs)
      (readFlags g seen on bare cs') := by
  cases h with
  | swallowed => exact .none _
  | behind =>
    -- Flags without an end are refused, so the closing is not reached.
    induction cs generalizing g seen on bare with
    | nil => exact .none _
    | cons c r ih =>
      rw [List.cons_append, readFlags, readFlags]
      split
      · split
        · exact .none _
        · exact .some ⟨rfl, rfl, rfl, .behind r⟩
      · split
        · split
          · exact ih _ _ _ _
          · exact .none _
        · split
          · exact .none _
          · cases g.switch? c on with
            | none => exact .none _
            | some g' => exact ih _ _ _ _

/-- The name of a group is the same in a longer text. -/
theorem readName_longer (h : Longer cs cs') :
    SameRead (Beside Longer) (readName cs) (readName cs') := by
  refine .bind (cutFirst?_longer (by decide) h) ?_
  rintro ⟨name, rest⟩ ⟨_, rest'⟩ ⟨rfl, hrest⟩
  cases name with
  | nil => exact .none _
  | cons c r => exact .bind_left _ fun _ => .some ⟨rfl, hrest⟩

/-- A digit is read as long as there are some; the bounds are those that the lengths give. -/
theorem readDigits_longer {n n' : Nat} (hn : cs.length ≤ n) (hn' : cs'.length ≤ n')
    (h : Longer cs cs') : Beside Longer (readDigits f n cs) (readDigits f n' cs') := by
  -- What is no digit ends the digits, with any number of steps left.
  have hstop : ∀ (m : Nat) (x : List Char), (∀ c r, x = c :: r → c.isDigit = false) →
      readDigits f m x = ([], x) := by
    intro m x hx
    unfold readDigits
    split
    · rw [if_neg (by simp [hx _ _ rfl])]
    · rfl
  have hend : ∀ (m m' : Nat) {x' : List Char}, Longer [] x' →
      Beside Longer (readDigits f m []) (readDigits f m' x') := by
    intro m m' x' hx
    rw [hstop m [] (fun _ _ hc => nomatch hc)]
    rcases hx.of_nil with rfl | rfl
    · rw [hstop m' closing (by rintro _ _ ⟨⟩; decide)]
      exact ⟨rfl, hx⟩
    · rw [hstop m' [] (fun _ _ hc => nomatch hc)]
      exact ⟨rfl, hx⟩
  induction n generalizing n' cs cs' with
  | zero =>
    obtain rfl : cs = [] := List.length_eq_zero_iff.1 (Nat.le_zero.1 hn)
    exact hend _ _ h
  | succ n ih =>
    cases cs with
    | nil => exact hend _ _ h
    | cons c r =>
      obtain rfl := h.of_cons
      obtain ⟨n', rfl⟩ : ∃ m, n' = m + 1 :=
        ⟨n' - 1, by simp only [List.length_cons] at hn'; omega⟩
      by_cases hdigit : c.isDigit = true
      · have htail : Beside Longer (readDigits f n (f.skip r))
            (readDigits f n' (f.skip (r ++ closing))) := by
          refine ih ?_ ?_ ((Longer.behind r).skip f)
          · exact Nat.le_trans (length_skip_le f r) (Nat.le_of_succ_le_succ hn)
          · exact Nat.le_trans (length_skip_le f _) (Nat.le_of_succ_le_succ hn')
        rw [readDigits, readDigits, if_pos hdigit, if_pos hdigit]
        exact ⟨congrArg (c :: ·) htail.1, htail.2⟩
      · have hno : ∀ s d r', c :: s = d :: r' → d.isDigit = false := by
          rintro s d r' ⟨⟩
          simpa using hdigit
        rw [hstop _ (c :: r) (hno r), hstop _ (c :: (r ++ closing)) (hno _)]
        exact ⟨rfl, .behind _⟩

/-- A number with blanks around it is the same in a longer text. -/
theorem readDecimal_longer (h : Longer cs cs') :
    SameRead (Beside Longer) (readDecimal f cs) (readDecimal f cs') := by
  have hdigits := readDigits_longer f (Nat.le_refl _) (Nat.le_refl _) h.dropBlanks
  unfold readDecimal
  dsimp only
  generalize readDigits f _ (cs.dropWhile isBlank) = p at hdigits
  generalize readDigits f _ (cs'.dropWhile isBlank) = p' at hdigits
  obtain ⟨digits, rest⟩ := p
  obtain ⟨_, rest'⟩ := p'
  obtain ⟨rfl, hrest⟩ := hdigits
  dsimp only
  split
  · exact .some ⟨rfl, hrest.dropBlanks⟩
  · split
    · exact .some ⟨rfl, hrest.dropBlanks⟩
    · exact .none _

/-- The upper bound of a repetition is the same in a longer text. -/
theorem readUpper_longer (min : Nat) (h : Longer cs cs') :
    SameRead (Beside (Beside Longer)) (readUpper f min cs) (readUpper f min cs') := by
  unfold readUpper
  refine .bind (readDecimal_longer f h) ?_
  rintro ⟨max?, rest⟩ ⟨_, rest'⟩ ⟨rfl, hrest⟩
  refine .bind_left _ fun max => .bind_left _ fun _ => ?_
  dsimp only at hrest ⊢
  split
  · next r =>
    obtain rfl := hrest.of_cons
    exact .some ⟨rfl, rfl, .behind r⟩
  · exact .none _

/-- The bounds of a repetition behind the comma are the same in a longer text. -/
theorem boundsRest_longer (min? : Option Nat) (h : Longer cs cs') :
    SameRead (Beside (Beside Longer)) (boundsRest f min? cs) (boundsRest f min? cs') := by
  have hs := h.skip f
  unfold boundsRest
  generalize f.skip cs = x at hs
  generalize f.skip cs' = x' at hs
  split
  · next r =>
    obtain rfl := hs.of_cons
    exact .bind_left _ fun n => .some ⟨rfl, rfl, .behind r⟩
  · next hne =>
    split
    · exact absurd rfl (hs.ne_cons (by decide) hne _)
    · exact .bind_left _ fun min => readUpper_longer f min hs

/-- The bounds of a repetition are the same in a longer text. They end with a brace, so the closing
is never taken for a part of them. -/
theorem readBounds_longer (h : Longer cs cs') :
    SameRead (Beside (Beside Longer)) (readBounds f cs) (readBounds f cs') := by
  unfold readBounds
  refine .bind (readDecimal_longer f (h.skip f)) ?_
  rintro ⟨min?, rest⟩ ⟨_, rest'⟩ ⟨rfl, hrest⟩
  dsimp only at hrest ⊢
  split
  · next r =>
    obtain rfl := hrest.of_cons
    exact .bind_left _ fun n => .bind_left _ fun n' => .some ⟨rfl, rfl, .behind r⟩
  · next r =>
    obtain rfl := hrest.of_cons
    exact boundsRest_longer f min? (.behind r)
  · exact .none _

/-- A repetition is lazy in a longer text exactly if it is lazy alone: the closing does not start
with a question mark. -/
theorem repetitionPiece_longer (min : Nat) (max : Option Nat) (h : Longer cs cs') :
    Beside Longer (repetitionPiece min max cs) (repetitionPiece min max cs') := by
  by_cases hlazy : ∃ r, cs = '?' :: r
  · obtain ⟨r, rfl⟩ := hlazy
    obtain rfl := h.of_cons
    exact ⟨rfl, .behind r⟩
  · have hne : ∀ r, cs ≠ '?' :: r := fun r hr => hlazy ⟨r, hr⟩
    have hgreedy : ∀ x : List Char, (∀ r, x ≠ '?' :: r) →
        repetitionPiece min max x = (.repetition min max false, x) := by
      intro x hx
      unfold repetitionPiece
      split
      · exact absurd rfl (hx _)
      · rfl
    rw [hgreedy cs hne, hgreedy cs' (h.ne_cons (by decide) hne)]
    exact ⟨rfl, h⟩

/-- The opening of a group is the same in a longer text. A group at the end of the text alone is
numbered, and the parenthesis of the closing makes it no other kind. -/
theorem readGroup_longer (h : Longer cs cs') :
    SameRead (Beside Longer) (readGroup f cs) (readGroup f cs') := by
  have hs := h.skip f
  unfold readGroup
  generalize f.skip cs = x at hs
  generalize f.skip cs' = x' at hs
  split
  · next r =>
    obtain rfl := hs.of_cons
    refine .bind (readName_longer (.behind r)) ?_
    rintro ⟨name, rest⟩ ⟨_, rest'⟩ ⟨rfl, hrest⟩
    exact .some ⟨rfl, hrest⟩
  · next r =>
    obtain rfl := hs.of_cons
    refine .bind (readName_longer (.behind r)) ?_
    rintro ⟨name, rest⟩ ⟨_, rest'⟩ ⟨rfl, hrest⟩
    exact .some ⟨rfl, hrest⟩
  · next r hpname hname =>
    obtain rfl := hs.of_cons
    have hname' := (Longer.behind r).ne_cons (by decide) hname
    -- The sign of a named group has two characters, and either of them may be the last one of the
    -- text.
    have hpname' : ∀ s, r ++ closing ≠ 'P' :: '<' :: s := by
      intro s hs
      by_cases hp : ∃ r', r = 'P' :: r'
      · obtain ⟨r', rfl⟩ := hp
        have hangle : ∀ s', r' ≠ '<' :: s' := fun s' hs' => hpname s' (by rw [hs'])
        exact (Longer.behind r').ne_cons (by decide) hangle s (List.cons.inj hs).2
      · exact (Longer.behind r).ne_cons (by decide) (fun r' hr' => hp ⟨r', hr'⟩) _ hs
    split
    · next heq => exact absurd (List.cons.inj heq).2 (hpname' _)
    · next heq => exact absurd (List.cons.inj heq).2 (hname' _)
    · next heq =>
      cases heq
      refine .bind (readFlags_longer f [] true false (.behind r)) ?_
      rintro ⟨flags, seen, terminator, rest⟩ ⟨_, _, _, rest'⟩ ⟨rfl, rfl, rfl, hrest⟩
      dsimp only at hrest ⊢
      split
      · exact .some ⟨rfl, hrest⟩
      · split
        · exact .none _
        · exact .some ⟨rfl, hrest⟩
    · next hno => exact absurd rfl (hno _)
  · -- The group has no question mark, and the closing does not start with one.
    next _ _ hno =>
    have hno' := hs.ne_cons (by decide) hno
    split
    · exact absurd rfl (hno' _)
    · exact absurd rfl (hno' _)
    · exact absurd rfl (hno' _)
    · exact .some ⟨rfl, hs⟩

/-- One piece of a pattern is the same piece in a longer text. -/
theorem readPiece_longer (c : Char) (h : Longer cs cs') :
    SameRead (Beside Longer) (readPiece f c cs) (readPiece f c cs') := by
  unfold readPiece
  -- The first character decides how a piece is read, and it is the same in both texts.
  split
  · exact readGroup_longer f h
  · exact .some ⟨rfl, h⟩
  · exact .some ⟨rfl, h⟩
  · refine .map (readBracket_longer f h) ?_
    rintro ⟨set, rest⟩ ⟨_, rest'⟩ ⟨rfl, hrest⟩
    exact ⟨rfl, hrest⟩
  · exact .some (repetitionPiece_longer 0 (some 1) h)
  · exact .some (repetitionPiece_longer 0 none h)
  · exact .some (repetitionPiece_longer 1 none h)
  · refine .map (readBounds_longer f h) ?_
    rintro ⟨min, max, rest⟩ ⟨_, _, rest'⟩ ⟨rfl, rfl, hrest⟩
    exact repetitionPiece_longer min max (hrest.skip f)
  · exact .map_left _ fun s => ⟨rfl, h⟩
  · exact .some ⟨rfl, h⟩
  · exact .some ⟨rfl, h⟩
  · refine .bind (readEscape_longer f h) ?_
    rintro ⟨p, rest⟩ ⟨_, rest'⟩ ⟨rfl, hrest⟩
    exact .bind_left _ fun node => .some ⟨rfl, hrest⟩
  · exact .map_left _ fun node => ⟨rfl, h⟩

end Groups

end ImageSync.Regex
