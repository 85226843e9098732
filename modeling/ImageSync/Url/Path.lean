import ImageSync.Url.Percent
import ImageSync.Url.Scheme

/-!
# `ImageSync.Url.Path`: paths of URLs

A path is read segment by segment: a single dot names the place itself and a double dot the
one above, written plainly or as `%2e`; both are taken away as they are read. A path never
climbs above its root, and never out of a drive letter (`C:`). `walk` takes the segments of a
text, one after the other, from a place on.

Main statements: walking plain segments adds them to the place (`walk_of_plain`).
-/

set_option autoImplicit false

namespace ImageSync.Url

/-- The path of a URL. -/
inductive Path where
  /-- A text without structure, in a URL without a host. -/
  | text (cs : List Char)
  /-- Segments, each of them after a slash. -/
  | segments (list : List (List Char))
  deriving DecidableEq, Repr

/-- A path as a text. -/
def Path.render : Path → List Char
  | text cs => cs
  | segments list => list.flatMap fun s => '/' :: s

/-- Whether a character separates segments. -/
def isSeparator (kind : SchemeKind) (c : Char) : Bool :=
  c == '/' || (c == '\\' && kind != .other)

/-- The pieces of a text between its separators; always at least one. -/
def cutSegments (kind : SchemeKind) : List Char → List (List Char)
  | [] => [[]]
  | c :: r =>
    if isSeparator kind c then [] :: cutSegments kind r
    else match cutSegments kind r with
      | [] => [[c]]
      | p :: ps => (c :: p) :: ps

/-- A segment with its escaped dots written plainly. -/
def plainDots : List Char → List Char
  | '%' :: '2' :: 'e' :: r => '.' :: plainDots r
  | '%' :: '2' :: 'E' :: r => '.' :: plainDots r
  | c :: r => c :: plainDots r
  | [] => []

/-- Whether a segment names the place itself. -/
def isDot (s : List Char) : Bool := plainDots s == ['.']

/-- Whether a segment names the place above. -/
def isDoubleDot (s : List Char) : Bool := plainDots s == ['.', '.']

/-- Whether a segment is a drive letter: a letter and `:` or `|`. -/
def isDriveLetter : List Char → Bool
  | [a, b] => a.isAlpha && (b == ':' || b == '|')
  | _ => false

/-- Whether a segment is a drive letter with a colon. -/
def isPlainDriveLetter (s : List Char) : Bool := isDriveLetter s && s.getLast? == some ':'

/-- The place above, unless the place is a drive letter. -/
def climb (place : List (List Char)) : List (List Char) :=
  if place.getLast?.any isDriveLetter then place else place.dropLast

/-- The form that a segment has at a place: the first one of a file path writes its drive
letter with a colon. -/
def settle (kind : SchemeKind) (place : List (List Char)) (s : List Char) : List Char :=
  if kind = .file ∧ place = [] ∧ isDriveLetter s then s.take 1 ++ [':'] else s

/-- Walks segments from a place on. The last one always leaves a segment, even if empty. -/
def walk (kind : SchemeKind) (place : List (List Char)) :
    List (List Char) → List (List Char)
  | [] => place
  | raw :: rest =>
    let s := percentEncode pathSet raw
    -- A dot at the end names a directory, whose own last segment is empty.
    let final := if rest.isEmpty then [[]] else []
    if isDoubleDot s then walk kind (climb place ++ final) rest
    else if isDot s then walk kind (place ++ final) rest
    else walk kind (place ++ [settle kind place s]) rest

/-- The segments of a file path without the empty ones in front. -/
def dropEmptyFront (segments : List (List Char)) : List (List Char) :=
  match segments.dropWhile List.isEmpty with
  | [] => [[]]
  | first :: rest => first :: rest

/-- The path that a text, read from a place on, leads to. -/
def walkText (kind : SchemeKind) (place : List (List Char)) (cs : List Char) :
    List (List Char) :=
  let reached := walk kind place (cutSegments kind cs)
  if kind = .file then dropEmptyFront reached else reached

/-- A segment that is taken as it is. -/
def IsPlain (s : List Char) : Prop :=
  (∀ c ∈ s, isEscaped pathSet c = false) ∧ isDot s = false ∧ isDoubleDot s = false

/-- Outside files, walking plain segments adds them to the place. -/
theorem walk_of_plain {kind : SchemeKind} (hkind : kind ≠ .file)
    {place list : List (List Char)} (h : ∀ s ∈ list, IsPlain s) :
    walk kind place list = place ++ list := by
  induction list generalizing place with
  | nil => simp [walk]
  | cons s r ih =>
    -- A plain segment is its own encoding and no dot, so the last arm of `walk` takes it.
    obtain ⟨henc, hdot, hdouble⟩ := h s (by simp)
    rw [walk, percentEncode_of_forall henc]
    simp only [hdot, hdouble, settle, hkind, false_and, if_false, Bool.false_eq_true]
    rw [ih fun t ht => h t (by simp [ht])]
    simp

end ImageSync.Url
