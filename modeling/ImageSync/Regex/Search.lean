import Std.Data.HashSet
import ImageSync.Regex.Span

/-!
# `ImageSync.Regex.Search`: the preferred match and its groups

Of all ways an expression can match, a search prefers the one that starts first, and among
those the one found first when every choice is tried in the order of preference. This
module finds it and remembers what the groups took.

The search tries one way after the other. A way that comes to a part of the expression at a
place where another way has been before is given up: what follows is the same, and the
earlier way is preferred. So the expression is unfolded into a `Track`, in which every
branching and every single character has a label of its own, and the search notes the
labels it has been at, each with the place. This bounds the work by the number of labels
times the number of places.
-/

set_option autoImplicit false

namespace ImageSync.Regex

open ImageSync.Text (CharSet)

/-! ### Places -/

/-- A place in a text: how many characters stand before it, the last of them, and the text
after it. -/
structure Place where
  pos : Nat
  before : Option Char
  rest : List Char

namespace Place

/-- The first place of a text. -/
def start (t : List Char) : Place := ⟨0, none, t⟩

/-- The place after the next character. -/
def next? (p : Place) : Option Place :=
  match p.rest with
  | [] => none
  | c :: r => some ⟨p.pos + 1, some c, r⟩

/-- The text between two places. -/
def upTo (p q : Place) : List Char := p.rest.take (q.pos - p.pos)

end Place

/-! ### Tracks -/

/-- An expression in which every branching and every single character is labelled, and
counted repetitions are written out. -/
inductive Track where
  | empty
  | one (label : Nat) (set : CharSet)
  | look (l : Look)
  | seq (a b : Track)
  | alt (label : Nat) (a b : Track)
  | group (index : Nat) (a : Track)
  /-- At most once. -/
  | maybe (label : Nat) (greedy : Bool) (a : Track)
  /-- Any number of times, for a part that always takes a character. -/
  | many (label : Nat) (greedy : Bool) (a : Track)
  /-- At least once; the label is met after each time. -/
  | again (label : Nat) (greedy : Bool) (a : Track)

namespace Track

/-- So many copies of a part, labelled from `label` on, and the next free label. -/
def copies (part : Nat → Track × Nat) : Nat → Nat → Track × Nat
  | 0, label => (.empty, label)
  | n + 1, label =>
    let (a, label) := part label
    let (r, label) := copies part n label
    (.seq a r, label)

/-- At most so many copies of a part, labelled from `label` on, and the next free label. -/
def maybes (greedy : Bool) (part : Nat → Track × Nat) : Nat → Nat → Track × Nat
  | 0, label => (.empty, label)
  | n + 1, label =>
    let (a, next) := part (label + 1)
    let (r, next) := maybes greedy part n next
    (.maybe label greedy (.seq a r), next)

/-- How many parts a track has. -/
def size : Track → Nat
  | .empty | .one _ _ | .look _ => 1
  | .seq a b | .alt _ a b => a.size + b.size + 1
  | .group _ a | .maybe _ _ a | .many _ _ a | .again _ _ a => a.size + 1

/-- The track of an expression, labelled from `label` on, and the next free label. A part
that may take nothing is not entered a second time at the same place, so of it the first
time alone may take nothing. -/
def ofNode : Node → Nat → Track × Nat
  | .empty, label => (.empty, label)
  | .one s, label => (.one label s, label + 1)
  | .look l, label => (.look l, label)
  | .seq a b, label =>
    let (x, label) := ofNode a label
    let (y, label) := ofNode b label
    (.seq x y, label)
  | .alt a b, label =>
    let (x, next) := ofNode a (label + 1)
    let (y, next) := ofNode b next
    (.alt label x y, next)
  | .group i a, label =>
    let (x, label) := ofNode a label
    (.group i x, label)
  | .rep min (some max) greedy a, label =>
    let (x, label) := copies (ofNode a) min label
    let (y, label) := maybes greedy (ofNode a) (max - min) label
    (.seq x y, label)
  | .rep 0 none greedy a, label =>
    -- A part that may take nothing is met again after itself, not before.
    if a.takesSomething then
      let (x, next) := ofNode a (label + 1)
      (.many label greedy x, next)
    else
      let (x, next) := ofNode a (label + 2)
      (.maybe label greedy (.again (label + 1) greedy x), next)
  | .rep (min + 1) none greedy a, label =>
    -- The last of the required copies is the one that is repeated.
    let (x, label) := copies (ofNode a) min label
    let (y, next) := ofNode a (label + 1)
    (.seq x (.again label greedy y), next)

end Track

/-! ### The search -/

/-- What is still to be done on one way. -/
inductive Task where
  | enter (t : Track)
  /-- Remembers what a group took from a place on. -/
  | leave (index : Nat) (start : Place)
  /-- Decides whether to repeat a part that was just passed. -/
  | loop (label : Nat) (greedy : Bool) (t : Track)

/-- What a group took: its number and the two places. -/
structure Capture where
  index : Nat
  start : Place
  stop : Place

/-- One way of matching that is still open: what is to be done, the place reached, and what
the groups took so far, the last one first. -/
structure Way where
  tasks : List Task
  place : Place
  captures : List Capture

/-- The labels that were met, each with the place. -/
abbrev Met := Std.HashSet (Nat × Nat)

/-- What becomes of a way in one step. -/
inductive Outcome where
  /-- The way is a match. -/
  | found
  /-- The way goes on as these ways, the preferred one first. -/
  | goOn (ways : List Way)
  /-- The way goes on as these ways unless the label was met at the place before. -/
  | goOnAt (label : Nat) (ways : List Way)

/-- The two ways out of a branching, in the order of preference. -/
def choose (greedy : Bool) (more enough : Way) : List Way :=
  if greedy then [more, enough] else [enough, more]

/-- One step of a way. -/
def Way.step (w : Way) : Outcome :=
  match w.tasks with
  | [] => .found
  | .leave i start :: ts =>
    .goOn [{ w with tasks := ts, captures := ⟨i, start, w.place⟩ :: w.captures }]
  | .loop label greedy t :: ts =>
    .goOnAt label (choose greedy
      { w with tasks := .enter t :: .loop label greedy t :: ts } { w with tasks := ts })
  | .enter t :: ts =>
    match t with
    | .empty => .goOn [{ w with tasks := ts }]
    | .one label s =>
      match w.place.rest with
      | [] => .goOn []
      | c :: r =>
        if s.contains c then
          .goOnAt label [{ w with tasks := ts, place := ⟨w.place.pos + 1, some c, r⟩ }]
        else .goOn []
    | .look l =>
      if l.holds w.place.before w.place.rest.head? then .goOn [{ w with tasks := ts }]
      else .goOn []
    | .seq a b => .goOn [{ w with tasks := .enter a :: .enter b :: ts }]
    | .alt label a b =>
      .goOnAt label [{ w with tasks := .enter a :: ts }, { w with tasks := .enter b :: ts }]
    | .group i a => .goOn [{ w with tasks := .enter a :: .leave i w.place :: ts }]
    | .maybe label greedy a =>
      .goOnAt label (choose greedy { w with tasks := .enter a :: ts } { w with tasks := ts })
    | .many label greedy a =>
      .goOnAt label (choose greedy
        { w with tasks := .enter a :: .enter (.many label greedy a) :: ts }
        { w with tasks := ts })
    | .again label greedy a => .goOn [{ w with tasks := .enter a :: .loop label greedy a :: ts }]

/-- Follows some ways, the preferred one first, to the first match. The number bounds the
steps. -/
def follow : Nat → Met → List Way → Option Way × Met
  | 0, met, _ => (none, met)
  | _, met, [] => (none, met)
  | n + 1, met, w :: ws =>
    match w.step with
    | .found => (some w, met)
    | .goOn more => follow n met (more ++ ws)
    | .goOnAt label more =>
      if met.contains (label, w.place.pos) then follow n met ws
      else follow n (met.insert (label, w.place.pos)) (more ++ ws)

/-- A match: its two ends and what the groups took, the last one first. -/
structure Match where
  start : Place
  stop : Place
  captures : List Capture

/-- A track with the number of its labels, ready to be searched with. -/
structure Searcher where
  track : Track
  labels : Nat

/-- The searcher of an expression. -/
def Searcher.ofNode (e : Node) : Searcher :=
  let (track, labels) := Track.ofNode e 0
  ⟨track, labels⟩

/-- A bound for the steps at a text of some length: a way branches only at a label, and
between two labels it passes each part at most twice. -/
def Searcher.steps (s : Searcher) (length : Nat) : Nat :=
  (2 * s.labels * (length + 1) + 2) * (2 * s.track.size + 3)

/-- The preferred match that starts at a place or later. -/
def Searcher.find (s : Searcher) (steps : Nat) (met : Met) (before : Option Char) (pos : Nat)
    (rest : List Char) : Option Match :=
  let p : Place := ⟨pos, before, rest⟩
  match follow steps met [⟨[.enter s.track], p, []⟩] with
  | (some w, _) => some ⟨p, w.place, w.captures⟩
  | (none, met) =>
    -- What was met from earlier starts leads nowhere from later ones either.
    match rest with
    | [] => none
    | c :: r => s.find steps met (some c) (pos + 1) r

/-- The preferred match that starts at a place or later. -/
def Searcher.find? (s : Searcher) (p : Place) : Option Match :=
  s.find (s.steps p.rest.length) ∅ p.before p.pos p.rest

/-- The preferred match from a place on, which must not be empty where the match before it
ended. -/
def Searcher.findAfter? (s : Searcher) (last : Option Nat) (p : Place) : Option Match :=
  match s.find? p with
  | none => none
  | some m =>
    -- An empty match right behind another match is passed over.
    if m.start.pos = m.stop.pos ∧ last = some m.stop.pos then p.next?.bind s.find?
    else some m

/-- The matches from a place on, each the preferred one after the one before. The number
bounds how many there are. -/
def Searcher.matchesFrom (s : Searcher) : Nat → Option Nat → Place → List Match
  | 0, _, _ => []
  | n + 1, last, p =>
    match s.findAfter? last p with
    | none => []
    | some m => m :: s.matchesFrom n (some m.stop.pos) m.stop

/-- The matches in a text that a search finds one after the other. -/
def Searcher.matchesIn (s : Searcher) (t : List Char) : List Match :=
  s.matchesFrom (t.length + 1) none (.start t)

/-- What a group of a match took, if it took part; the number zero is the whole match. -/
def Match.groupText? (m : Match) (index : Nat) : Option (List Char) :=
  if index = 0 then some (m.start.upTo m.stop)
  else (m.captures.find? (·.index == index)).map fun c => c.start.upTo c.stop

end ImageSync.Regex
