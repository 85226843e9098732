import ImageSync.Text.Utf8

/-!
# `ImageSync.Proofs.Text.Bytes`: texts by their bytes

`Encodes` says in numbers which bytes a character has. The first one announces how many others
there are and bounds the second one, so the bytes of a character are read as this character,
whatever stands behind them (`Encodes.charsFrom_eq`), and the bytes of a text are read back as
the text (`decodeUtf8?_utf8`).

A place in a text can be given as a number of bytes. `cutAt?` cuts a text there, if two characters
meet at that place (`cutAt?_eq_some_iff`). Where a run of ASCII characters ends can be told from the
bytes alone (`takeWhile_utf8`), because the bytes of all other characters are no ASCII ones.
-/

set_option autoImplicit false

namespace ImageSync.Text

/-! ### The bytes of a character -/

/-- The bytes of the character with a number. Each byte but the first holds six bits of it. -/
inductive Encodes (v : Nat) : List UInt8 → Prop where
  | one {a : UInt8} (hhigh : v < 0x80) (ha : a.toNat = v) : Encodes v [a]
  | two {a b : UInt8} (hlow : 0x80 ≤ v) (hhigh : v < 0x800) (ha : a.toNat = 0xC0 + v / 64)
      (hb : b.toNat = 0x80 + v % 64) : Encodes v [a, b]
  | three {a b c : UInt8} (hlow : 0x800 ≤ v) (hhigh : v < 0x10000)
      (hchar : v < 0xD800 ∨ 0xDFFF < v) (ha : a.toNat = 0xE0 + v / 4096)
      (hb : b.toNat = 0x80 + v / 64 % 64) (hc : c.toNat = 0x80 + v % 64) : Encodes v [a, b, c]
  | four {a b c d : UInt8} (hlow : 0x10000 ≤ v) (hhigh : v < 0x110000)
      (ha : a.toNat = 0xF0 + v / 262144) (hb : b.toNat = 0x80 + v / 4096 % 64)
      (hc : c.toNat = 0x80 + v / 64 % 64) (hd : d.toNat = 0x80 + v % 64) : Encodes v [a, b, c, d]

/-- The bytes of a character encode its number. There are as many of them as the number needs. -/
theorem encodes_utf8EncodeChar (c : Char) : Encodes c.toNat (String.utf8EncodeChar c) := by
  -- No character is a surrogate, so all numbers of three bytes are allowed.
  have hvalid : c.val.toNat < 0xD800 ∨ 0xDFFF < c.val.toNat ∧ c.val.toNat < 0x110000 := c.valid
  have hbyte : ∀ n m, n = m → m < 256 → (UInt8.ofNat n).toNat = m := by
    rintro n m rfl hn
    exact Nat.mod_eq_of_lt hn
  change Encodes c.val.toNat _
  unfold String.utf8EncodeChar
  dsimp only
  generalize c.val.toNat = v at hvalid ⊢
  split
  · exact .one (by omega) (hbyte _ _ rfl (by omega))
  · split
    · exact .two (by omega) (by omega) (hbyte _ _ (by omega) (by omega))
        (hbyte _ _ (by omega) (by omega))
    · split
      · exact .three (by omega) (by omega) (by omega) (hbyte _ _ (by omega) (by omega))
          (hbyte _ _ (by omega) (by omega)) (hbyte _ _ (by omega) (by omega))
      · exact .four (by omega) (by omega) (hbyte _ _ (by omega) (by omega))
          (hbyte _ _ (by omega) (by omega)) (hbyte _ _ (by omega) (by omega))
          (hbyte _ _ (by omega) (by omega))

/-- A text is encoded character by character. -/
theorem utf8_cons (c : Char) (cs : List Char) :
    utf8 (c :: cs) = String.utf8EncodeChar c ++ utf8 cs := List.flatMap_cons

/-- Texts in a row are encoded one after the other. -/
theorem utf8_append (cs ds : List Char) : utf8 (cs ++ ds) = utf8 cs ++ utf8 ds :=
  List.flatMap_append

/-- A character of ASCII is one byte. -/
theorem utf8EncodeChar_of_ascii {c : Char} (h : c.toNat < 0x80) :
    String.utf8EncodeChar c = [c.toUInt8] := if_pos (Nat.le_of_lt_succ h)

/-- An ASCII character is its own byte. -/
theorem toNat_toUInt8 {c : Char} (h : c.toNat < 0x80) : c.toUInt8.toNat = c.toNat :=
  Nat.mod_eq_of_lt (Nat.lt_trans h (by decide))

/-- No byte of any other character is one of ASCII. -/
theorem Encodes.le_of_mem {v : Nat} {bytes : List UInt8} (h : Encodes v bytes) (hv : 0x80 ≤ v) :
    ∀ b ∈ bytes, 0x80 ≤ b.toNat := by
  cases h with
  | one hhigh => exact absurd hhigh (Nat.not_lt.2 hv)
  | two | three | four =>
    simp only [List.mem_cons, List.not_mem_nil, or_false, forall_eq_or_imp, forall_eq]
    omega

/-! ### Reading bytes -/

/-- A byte that may come next goes on with a character. -/
theorem readNext_of_le {p : Broken} {b : Nat} (hlow : p.low ≤ b) (hhigh : b ≤ p.high) :
    readNext p b =
      if p.missing ≤ 1 then ([some (Char.ofNat (p.value * 64 + (b - 0x80)))], none)
      else ([], some ⟨p.missing - 1, p.value * 64 + (b - 0x80), 0x80, 0xBF⟩) :=
  if_pos ⟨hlow, hhigh⟩

/-- A first byte that announces others gives no character yet. -/
theorem readFirst_of_announced {b : Nat} {p : Broken} (hb : 0x80 ≤ b)
    (h : announced? b = some p) : readFirst b = ([], some p) := by
  rw [readFirst, if_neg (Nat.not_lt.2 hb), h]

/-- The first byte of a character with two bytes announces one more. -/
theorem announced?_two {v : Nat} (hlow : 0x80 ≤ v) (hhigh : v < 0x800) :
    announced? (0xC0 + v / 64) = some ⟨1, v / 64, 0x80, 0xBF⟩ := by
  rw [announced?, if_pos (by omega), Nat.add_sub_cancel_left]

/-- The first of three bytes bounds the second one: a character has no shorter form, and is no
surrogate. -/
theorem announced?_three {v : Nat} (hlow : 0x800 ≤ v) (hhigh : v < 0x10000)
    (hchar : v < 0xD800 ∨ 0xDFFF < v) :
    ∃ low high, announced? (0xE0 + v / 4096) = some ⟨2, v / 4096, low, high⟩ ∧
      low ≤ 0x80 + v / 64 % 64 ∧ 0x80 + v / 64 % 64 ≤ high := by
  rw [announced?, if_neg (by omega)]
  split
  · exact ⟨_, _, by rw [show v / 4096 = 0 by omega], by omega, by omega⟩
  · split
    · exact ⟨_, _, by rw [show v / 4096 = 0xD by omega], by omega, by omega⟩
    · rw [if_pos (by omega), Nat.add_sub_cancel_left]
      exact ⟨_, _, rfl, by omega, by omega⟩

/-- The first of four bytes bounds the second one: a character has no shorter form, and is none
behind the last one. -/
theorem announced?_four {v : Nat} (hlow : 0x10000 ≤ v) (hhigh : v < 0x110000) :
    ∃ low high, announced? (0xF0 + v / 262144) = some ⟨3, v / 262144, low, high⟩ ∧
      low ≤ 0x80 + v / 4096 % 64 ∧ 0x80 + v / 4096 % 64 ≤ high := by
  rw [announced?, if_neg (by omega), if_neg (by omega), if_neg (by omega), if_neg (by omega)]
  split
  · exact ⟨_, _, by rw [show v / 262144 = 0 by omega], by omega, by omega⟩
  · split
    · rw [Nat.add_sub_cancel_left]
      exact ⟨_, _, rfl, by omega, by omega⟩
    · rw [if_pos (by omega)]
      exact ⟨_, _, by rw [show v / 262144 = 4 by omega], by omega, by omega⟩

/-- The bytes of a character are read as this character. -/
theorem Encodes.charsFrom_eq {v : Nat} {bytes : List UInt8} (h : Encodes v bytes)
    (r : List UInt8) : charsFrom none (bytes ++ r) = some (Char.ofNat v) :: charsFrom none r := by
  have hnone : ∀ b r, charsFrom none (b :: r) =
      (readFirst b.toNat).1 ++ charsFrom (readFirst b.toNat).2 r := fun _ _ => rfl
  have hsome : ∀ p b r, charsFrom (some p) (b :: r) =
      (readNext p b.toNat).1 ++ charsFrom (readNext p b.toNat).2 r := fun _ _ _ => rfl
  -- One case for each number of bytes. The bytes in between only collect the number; the last one
  -- gives the character.
  cases h with
  | one hhigh ha =>
    rw [List.singleton_append, hnone, ha, readFirst, if_pos hhigh]
    rfl
  | two hlow hhigh ha hb =>
    rw [List.cons_append, List.singleton_append, hnone, ha,
      readFirst_of_announced (by omega) (announced?_two hlow hhigh), List.nil_append, hsome, hb,
      readNext_of_le (by dsimp only; omega) (by dsimp only; omega)]
    dsimp only
    rw [if_pos (by omega), show v / 64 * 64 + (0x80 + v % 64 - 0x80) = v by omega]
    rfl
  | three hlow hhigh hchar ha hb hc =>
    obtain ⟨low, high, hfirst, hle, hle'⟩ := announced?_three hlow hhigh hchar
    rw [List.cons_append, List.cons_append, List.singleton_append, hnone, ha,
      readFirst_of_announced (by omega) hfirst, List.nil_append, hsome, hb, readNext_of_le hle hle']
    dsimp only
    rw [if_neg (by omega), List.nil_append, hsome, hc,
      readNext_of_le (by dsimp only; omega) (by dsimp only; omega)]
    dsimp only
    rw [if_pos (by omega), show (v / 4096 * 64 + (0x80 + v / 64 % 64 - 0x80)) * 64 +
      (0x80 + v % 64 - 0x80) = v by omega]
    rfl
  | four hlow hhigh ha hb hc hd =>
    obtain ⟨low, high, hfirst, hle, hle'⟩ := announced?_four hlow hhigh
    rw [List.cons_append, List.cons_append, List.cons_append, List.singleton_append, hnone, ha,
      readFirst_of_announced (by omega) hfirst, List.nil_append, hsome, hb, readNext_of_le hle hle']
    dsimp only
    rw [if_neg (by omega), List.nil_append, hsome, hc,
      readNext_of_le (by dsimp only; omega) (by dsimp only; omega)]
    dsimp only
    rw [if_neg (by omega), List.nil_append, hsome, hd,
      readNext_of_le (by dsimp only; omega) (by dsimp only; omega)]
    dsimp only
    rw [if_pos (by omega), show ((v / 262144 * 64 + (0x80 + v / 4096 % 64 - 0x80)) * 64 +
      (0x80 + v / 64 % 64 - 0x80)) * 64 + (0x80 + v % 64 - 0x80) = v by omega]
    rfl

/-- The bytes of a text are read as its characters, none of which is broken. -/
theorem charsFrom_utf8 (cs : List Char) : charsFrom none (utf8 cs) = cs.map some := by
  induction cs with
  | nil => rfl
  | cons c r ih =>
    rw [utf8_cons, (encodes_utf8EncodeChar c).charsFrom_eq, ih, Char.ofNat_toNat, List.map_cons]

/-- The bytes of a text are read back as the text. -/
theorem decodeUtf8?_utf8 (cs : List Char) : decodeUtf8? (utf8 cs) = some cs := by
  rw [decodeUtf8?, charsFrom_utf8]
  induction cs with
  | nil => rfl
  | cons c r ih =>
    rw [List.map_cons, List.mapM_cons, ih]
    rfl

/-! ### Places in bytes -/

/-- Cuts a text behind so many bytes, unless that is within a character or behind the end. -/
def cutAt? : Nat → List Char → Option (List Char × List Char)
  | 0, cs => some ([], cs)
  | _ + 1, [] => none
  | k + 1, c :: r =>
    if c.utf8Size ≤ k + 1 then
      (cutAt? (k + 1 - c.utf8Size) r).map fun (front, rest) => (c :: front, rest)
    else none

/-- A text has the bytes of its first character and those of the rest. -/
theorem length_utf8_cons (c : Char) (cs : List Char) :
    (utf8 (c :: cs)).length = c.utf8Size + (utf8 cs).length := by
  rw [utf8_cons, List.length_append, String.length_utf8EncodeChar]

/-- A text of ASCII characters has as many bytes. -/
theorem length_utf8_of_ascii {cs : List Char} (h : ∀ c ∈ cs, c.toNat < 0x80) :
    (utf8 cs).length = cs.length := by
  induction cs with
  | nil => rfl
  | cons c r ih =>
    obtain ⟨hc, hr⟩ := List.forall_mem_cons.1 h
    rw [utf8_cons, utf8EncodeChar_of_ascii hc, List.singleton_append, List.length_cons, ih hr,
      List.length_cons]

/-- Every character has a byte. -/
theorem length_utf8_eq_zero_iff {cs : List Char} : (utf8 cs).length = 0 ↔ cs = [] := by
  cases cs with
  | nil => exact iff_of_true rfl rfl
  | cons c r =>
    have hpos := c.utf8Size_pos
    rw [length_utf8_cons]
    exact iff_of_false (by omega) (List.cons_ne_nil c r)

/-- Behind no bytes a text is cut at its start. -/
theorem cutAt?_zero_eq_some_iff {cs front rest : List Char} :
    cutAt? 0 cs = some (front, rest) ↔ cs = front ++ rest ∧ (utf8 front).length = 0 := by
  rw [cutAt?, length_utf8_eq_zero_iff, Option.some.injEq, Prod.mk.injEq]
  constructor
  · rintro ⟨rfl, rfl⟩
    exact ⟨rfl, rfl⟩
  · rintro ⟨hcs, rfl⟩
    exact ⟨rfl, hcs⟩

/-- The step of cutting: the first character is cut off if its bytes are among those that are
wanted. -/
theorem cutAt?_succ_cons_eq_some_iff {k : Nat} {c : Char} {r front rest : List Char} :
    cutAt? (k + 1) (c :: r) = some (front, rest) ↔
      c.utf8Size ≤ k + 1 ∧
        ∃ front', front = c :: front' ∧ cutAt? (k + 1 - c.utf8Size) r = some (front', rest) := by
  rw [cutAt?]
  split
  · next hle =>
    rw [Option.map_eq_some_iff, and_iff_right hle]
    constructor
    · rintro ⟨⟨front', rest'⟩, hcut, heq⟩
      cases heq
      exact ⟨front', rfl, hcut⟩
    · rintro ⟨front', rfl, hcut⟩
      exact ⟨(front', rest), hcut, rfl⟩
  · next hlt => exact iff_of_false nofun fun h => hlt h.1

/-- A text is cut where two of its characters meet behind so many bytes. -/
theorem cutAt?_eq_some_iff {k : Nat} {cs front rest : List Char} :
    cutAt? k cs = some (front, rest) ↔ cs = front ++ rest ∧ (utf8 front).length = k := by
  -- By induction on the text: a character is cut off as a whole, or the cut is inside it and fails.
  induction cs generalizing k front with
  | nil =>
    cases k with
    | zero => exact cutAt?_zero_eq_some_iff
    | succ k =>
      rw [cutAt?]
      refine iff_of_false nofun ?_
      rintro ⟨hcs, hlength⟩
      rw [(List.append_eq_nil_iff.1 hcs.symm).1] at hlength
      cases hlength
  | cons c r ih =>
    cases k with
    | zero => exact cutAt?_zero_eq_some_iff
    | succ k =>
      rw [cutAt?_succ_cons_eq_some_iff]
      constructor
      · rintro ⟨hle, front', rfl, hcut⟩
        obtain ⟨hr, hlength⟩ := ih.1 hcut
        rw [length_utf8_cons]
        exact ⟨congrArg (c :: ·) hr, by omega⟩
      · rintro ⟨hcs, hlength⟩
        cases front with
        | nil => cases hlength
        | cons d front =>
          obtain ⟨rfl, hr⟩ := List.cons.inj hcs
          rw [length_utf8_cons] at hlength
          exact ⟨by omega, front, rfl, ih.2 ⟨hr, by omega⟩⟩

/-- A class of ASCII characters, and the class of their bytes. -/
structure AsciiClass (p : Char → Bool) (q : UInt8 → Bool) : Prop where
  ascii : ∀ c, c.toNat < 0x80 → q c.toUInt8 = p c
  char : ∀ c, 0x80 ≤ c.toNat → p c = false
  byte : ∀ b, 0x80 ≤ b.toNat → q b = false

/-- The characters of an ASCII class are ASCII characters. -/
theorem AsciiClass.toNat_lt {p : Char → Bool} {q : UInt8 → Bool} (h : AsciiClass p q) {c : Char}
    (hc : p c = true) : c.toNat < 0x80 := by
  refine Nat.lt_of_not_le fun hle => ?_
  rw [h.char c hle] at hc
  cases hc

/-- A run of ASCII characters ends where the run of their bytes does. -/
theorem takeWhile_utf8 {p : Char → Bool} {q : UInt8 → Bool} (h : AsciiClass p q)
    (cs : List Char) : (utf8 cs).takeWhile q = utf8 (cs.takeWhile p) := by
  induction cs with
  | nil => rfl
  | cons c r ih =>
    rw [utf8_cons]
    by_cases hc : c.toNat < 0x80
    · rw [utf8EncodeChar_of_ascii hc, List.singleton_append, List.takeWhile_cons,
        List.takeWhile_cons, h.ascii c hc]
      split
      · rw [ih, utf8_cons, utf8EncodeChar_of_ascii hc, List.singleton_append]
      · rfl
    · -- The first byte of such a character already ends the run.
      have hlarge := (encodes_utf8EncodeChar c).le_of_mem (Nat.not_lt.1 hc)
      obtain ⟨b, bytes, hbytes⟩ :=
        List.exists_cons_of_ne_nil (String.utf8EncodeChar_ne_nil (c := c))
      rw [hbytes] at hlarge ⊢
      rw [List.cons_append, List.takeWhile_cons, List.takeWhile_cons,
        h.byte b (hlarge b List.mem_cons_self), h.char c (Nat.not_lt.1 hc)]
      rfl

/-- A text starts with an ASCII character if its bytes start with the byte of this. -/
theorem head?_utf8_eq_iff {d : Char} (hd : d.toNat < 0x80) {cs : List Char} :
    (utf8 cs).head? = some d.toUInt8 ↔ cs.head? = some d := by
  cases cs with
  | nil => exact iff_of_false nofun nofun
  | cons c r =>
    obtain ⟨b, bytes, hbytes⟩ := List.exists_cons_of_ne_nil (String.utf8EncodeChar_ne_nil (c := c))
    rw [utf8_cons, hbytes, List.cons_append, List.head?_cons, List.head?_cons, Option.some.injEq,
      Option.some.injEq]
    by_cases hc : c.toNat < 0x80
    · rw [utf8EncodeChar_of_ascii hc] at hbytes
      cases hbytes
      rw [← UInt8.toNat_inj, toNat_toUInt8 hc, toNat_toUInt8 hd, Char.toNat_inj]
    · -- Bytes of a character that is not in ASCII are 0x80 and more.
      have hlarge := (encodes_utf8EncodeChar c).le_of_mem (Nat.not_lt.1 hc)
      rw [hbytes] at hlarge
      refine iff_of_false ?_ ?_
      · rintro rfl
        have hb := hlarge _ List.mem_cons_self
        rw [toNat_toUInt8 hd] at hb
        exact Nat.not_lt.2 hb hd
      · rintro rfl
        exact hc hd

end ImageSync.Text
