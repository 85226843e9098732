import ImageSync.Proofs.Regex.Reach
import ImageSync.Regex.Pattern

/-!
# `ImageSync.Proofs.Regex.Proper`: what is read has its bounds in order

The reader refuses a repetition whose least number of times is above its greatest
(`le_of_readBounds`), and no other piece makes a repetition. `Draft.Proper` is the invariant:
all that a draft holds, in the innermost open group and in the groups around it, is proper.
`Draft.Proper.add` is its step, and `proper_of_readPattern` the result: the theorems on
proper expressions hold of every pattern that is read.
-/

set_option autoImplicit false

namespace ImageSync.Regex

/-! ### Pieces -/

/-- A piece that makes a draft no less proper. -/
def Piece.Proper : Piece → Prop
  | .atom node _ => node.Proper
  | .repetition min max _ => ∀ m, max = some m → min ≤ m
  | _ => True

/-- A reading that goes on has passed its test. -/
theorem of_guard {p : Prop} [Decidable p] {u : Unit}
    (h : (guard p : Option Unit) = some u) : p := by
  change (if p then some () else none) = some u at h
  split at h
  · assumption
  · cases h

/-- An upper bound below the lower one is refused. -/
theorem le_of_readUpper {f : Flags} {cs rest : List Char} {n min : Nat} {max : Option Nat}
    (h : readUpper f n cs = some (min, max, rest)) : ∀ m, max = some m → min ≤ m := by
  unfold readUpper at h
  obtain ⟨⟨max?, r⟩, -, h⟩ := Option.bind_eq_some_iff.1 h
  obtain ⟨b, -, h⟩ := Option.bind_eq_some_iff.1 h
  obtain ⟨_, hguard, h⟩ := Option.bind_eq_some_iff.1 h
  have hle : n ≤ b := of_guard hguard
  split at h
  · cases h
    intro m hm
    cases hm
    exact hle
  · cases h

/-- Bounds that are read are in order. -/
theorem le_of_readBounds {f : Flags} {cs rest : List Char} {min : Nat} {max : Option Nat}
    (h : readBounds f cs = some (min, max, rest)) : ∀ m, max = some m → min ≤ m := by
  unfold readBounds at h
  obtain ⟨⟨min?, r⟩, -, h⟩ := Option.bind_eq_some_iff.1 h
  dsimp only at h
  split at h
  · obtain ⟨n, hn, h⟩ := Option.bind_eq_some_iff.1 h
    obtain ⟨n', hn', h⟩ := Option.bind_eq_some_iff.1 h
    obtain rfl : n = n' := Option.some.inj (hn.symm.trans hn')
    cases h
    intro m hm
    cases hm
    exact Nat.le_refl _
  · unfold boundsRest at h
    split at h
    · obtain ⟨n, -, h⟩ := Option.bind_eq_some_iff.1 h
      cases h
      exact fun _ hm => nomatch hm
    · obtain ⟨n, -, h⟩ := Option.bind_eq_some_iff.1 h
      exact le_of_readUpper h
  · cases h

/-- A literal takes one character. -/
theorem proper_of_literal? {f : Flags} {c : Char} {asByte : Bool} {node : Node}
    (h : f.literal? c asByte = some node) : node.Proper := by
  unfold Flags.literal? at h
  split at h
  · cases h
  · split at h
    · cases h
      trivial
    · split at h
      · split at h
        · cases h
          trivial
        · cases h
          trivial
      · cases h
        trivial

/-- An escape outside brackets takes one character, or none. -/
theorem proper_of_node? {f : Flags} {p : Primitive} {node : Node} (h : p.node? f = some node) :
    node.Proper := by
  cases p with
  | literal c asByte => exact proper_of_literal? h
  | chars s => cases h; trivial
  | look l => cases h; trivial

/-- Groups and flags repeat nothing. -/
theorem proper_of_readGroup {f : Flags} {cs rest : List Char} {piece : Piece}
    (h : readGroup f cs = some (piece, rest)) : piece.Proper := by
  unfold readGroup at h
  split at h
  · obtain ⟨_, -, h⟩ := Option.bind_eq_some_iff.1 h
    cases h
    trivial
  · obtain ⟨_, -, h⟩ := Option.bind_eq_some_iff.1 h
    cases h
    trivial
  · obtain ⟨⟨flags, seen, terminator, r⟩, -, h⟩ := Option.bind_eq_some_iff.1 h
    dsimp only at h
    by_cases hcolon : terminator = ':'
    · rw [if_pos hcolon] at h
      cases h
      trivial
    · rw [if_neg hcolon] at h
      split at h
      · cases h
      · cases h
        trivial
  · cases h
    trivial

/-- Whether it is lazy or not, a repetition keeps its bounds. -/
theorem proper_of_repetitionPiece (min : Nat) (max : Option Nat)
    (hle : ∀ m, max = some m → min ≤ m) (cs : List Char) :
    (repetitionPiece min max cs).1.Proper := by
  unfold repetitionPiece
  split
  · exact hle
  · exact hle

/-- Every piece that is read is proper. -/
theorem proper_of_readPiece {f : Flags} {c : Char} {r rest : List Char} {piece : Piece}
    (h : readPiece f c r = some (piece, rest)) : piece.Proper := by
  unfold readPiece at h
  split at h
  · exact proper_of_readGroup h
  · cases h; trivial
  · cases h; trivial
  · obtain ⟨_, -, h⟩ := Option.map_eq_some_iff.1 h
    cases h
    trivial
  · -- The three repetitions of one sign have bounds in order by themselves.
    have hp := proper_of_repetitionPiece 0 (some 1) (fun m _ => Nat.zero_le m) r
    rwa [Option.some.inj h] at hp
  · have hp := proper_of_repetitionPiece 0 none (fun m _ => Nat.zero_le m) r
    rwa [Option.some.inj h] at hp
  · have hp := proper_of_repetitionPiece 1 none (fun _ hm => nomatch hm) r
    rwa [Option.some.inj h] at hp
  · obtain ⟨⟨min, max, r'⟩, hbounds, h⟩ := Option.map_eq_some_iff.1 h
    have hp := proper_of_repetitionPiece min max (le_of_readBounds hbounds) (f.skip r')
    rwa [show repetitionPiece min max (f.skip r') = (piece, rest) from h] at hp
  · obtain ⟨_, -, h⟩ := Option.map_eq_some_iff.1 h
    cases h
    trivial
  · cases h; trivial
  · cases h; trivial
  · obtain ⟨⟨p, r'⟩, -, h⟩ := Option.bind_eq_some_iff.1 h
    obtain ⟨node, hnode, h⟩ := Option.bind_eq_some_iff.1 h
    cases h
    exact proper_of_node? hnode
  · obtain ⟨node, hnode, h⟩ := Option.map_eq_some_iff.1 h
    cases h
    exact proper_of_literal? hnode

/-! ### Drafts -/

/-- Every item of a list is proper. -/
def ProperItems (items : List Item) : Prop := ∀ item ∈ items, item.node.Proper

/-- All that a draft holds is proper. -/
structure Draft.Proper (d : Draft) : Prop where
  items : ProperItems d.items
  alternatives : ProperItems d.alternatives
  frames : ∀ fr ∈ d.frames, ProperItems fr.items ∧ ProperItems fr.alternatives

namespace ProperItems

/-- No items are proper. -/
theorem nil : ProperItems [] := fun _ h => nomatch h

/-- A proper item in front of proper ones. -/
theorem cons {item : Item} {items : List Item} (h : item.node.Proper) (hs : ProperItems items) :
    ProperItems (item :: items) := by
  intro x hx
  rcases List.mem_cons.1 hx with rfl | hx
  · exact h
  · exact hs x hx

/-- A sequence of proper expressions is proper. -/
theorem seqAll {nodes : List Node} (h : ∀ a ∈ nodes, a.Proper) : (Node.seqAll nodes).Proper := by
  fun_induction Node.seqAll nodes with
  | case1 => trivial
  | case2 a => exact h a (by simp)
  | case3 a r _ ih => exact ⟨h a (by simp), ih fun b hb => h b (by simp [hb])⟩

/-- A choice between proper expressions is proper. -/
theorem altAll {nodes : List Node} (h : ∀ a ∈ nodes, a.Proper) : (Node.altAll nodes).Proper := by
  fun_induction Node.altAll nodes with
  | case1 => trivial
  | case2 a => exact h a (by simp)
  | case3 a r _ ih => exact ⟨h a (by simp), ih fun b hb => h b (by simp [hb])⟩

/-- The nodes of proper items, put in order. -/
theorem nodes {items : List Item} (h : ProperItems items) :
    ∀ a ∈ items.reverse.map Item.node, a.Proper := by
  intro a ha
  obtain ⟨item, hitem, rfl⟩ := List.mem_map.1 ha
  exact h item (List.mem_reverse.1 hitem)

/-- Proper items in a row make a proper part. -/
theorem sequence {items : List Item} (h : ProperItems items) :
    (Item.sequence items).node.Proper := by
  unfold Item.sequence
  split
  · trivial
  · exact h _ (by simp)
  · exact seqAll h.nodes

/-- Proper alternatives make a proper part. -/
theorem choice {items : List Item} (h : ProperItems items) :
    (Item.choice items).node.Proper := by
  unfold Item.choice
  split
  · trivial
  · exact h _ (by simp)
  · exact altAll h.nodes

end ProperItems

/-- Repetition of a proper expression, with bounds in order, is proper. -/
theorem Node.Proper.repeated {a : Node} {min : Nat} {max : Option Nat} (greedy : Bool)
    (ha : a.Proper) (hle : ∀ m, max = some m → min ≤ m) :
    (Node.repeated min max greedy a).Proper := by
  unfold Node.repeated
  split
  · refine ⟨?_, ha⟩
    intro m hm
    cases hm
    cases max with
    | none => exact Nat.min_le_right _ _
    | some b =>
      have hb : min ≤ b := hle b rfl
      exact Nat.le_min.2 ⟨Nat.min_le_right _ _, Nat.le_trans (Nat.min_le_left _ _) hb⟩
  · exact ⟨hle, ha⟩

namespace Draft.Proper

variable {d : Draft}

/-- All that stands in the innermost open group is proper. -/
theorem body (hd : d.Proper) : d.body.node.Proper :=
  ProperItems.choice (.cons (ProperItems.sequence hd.items) hd.alternatives)

/-- Opening a group keeps what is around it. -/
theorem openGroup (hd : d.Proper) (index : Option Nat) (flags : Flags) :
    (d.openGroup index flags).Proper where
  items := .nil
  alternatives := .nil
  frames := by
    intro fr hfr
    rcases List.mem_cons.1 hfr with rfl | hfr
    · exact ⟨hd.items, hd.alternatives⟩
    · exact hd.frames fr hfr

/-- A proper piece leaves a proper draft. -/
theorem add {piece : Piece} {e : Draft} (hd : d.Proper) (hp : piece.Proper)
    (h : d.add piece = some e) : e.Proper := by
  -- One case for each kind of piece: what it adds is proper, and what it takes from the stack was.
  cases piece with
  | atom node depth =>
    cases h
    exact ⟨.cons hp hd.items, hd.alternatives, hd.frames⟩
  | openGroup kind flags =>
    cases kind with
    | silent =>
      cases h
      exact hd.openGroup _ _
    | numbered =>
      cases h
      have ho := hd.openGroup (some (d.groups + 1)) flags
      exact ⟨ho.items, ho.alternatives, ho.frames⟩
    | named name =>
      simp only [Draft.add] at h
      split at h
      · cases h
      · cases h
        have ho := hd.openGroup (some (d.groups + 1)) flags
        exact ⟨ho.items, ho.alternatives, ho.frames⟩
  | closeGroup =>
    simp only [Draft.add] at h
    split at h
    · cases h
    · next fr frames hframes =>
      cases h
      have houter := hd.frames fr (by rw [hframes]; simp)
      refine ⟨.cons ?_ houter.1, houter.2, fun fr' hfr' => hd.frames fr' (by simp [hframes, hfr'])⟩
      -- A group that is remembered is as proper as what it holds.
      cases fr.index with
      | none => exact hd.body
      | some i => exact hd.body
  | setFlags flags =>
    cases h
    exact ⟨.cons trivial hd.items, hd.alternatives, hd.frames⟩
  | bar =>
    cases h
    exact ⟨.nil, .cons (ProperItems.sequence hd.items) hd.alternatives, hd.frames⟩
  | repetition min max lazily =>
    simp only [Draft.add] at h
    split at h
    · cases h
    · next item items hitems =>
      split at h
      · cases h
      · cases h
        have hitem : item.node.Proper := hd.items item (by rw [hitems]; simp)
        have hrest : ProperItems items := fun x hx => hd.items x (by simp [hitems, hx])
        exact ⟨.cons (hitem.repeated _ hp) hrest, hd.alternatives, hd.frames⟩

/-- Reading on leaves a proper draft. -/
theorem addAll {n : Nat} {cs : List Char} {e : Draft} (hd : d.Proper)
    (h : Draft.addAll n d cs = some e) : e.Proper := by
  induction n generalizing d cs with
  | zero => cases h
  | succ n ih =>
    rw [Draft.addAll] at h
    split at h
    · cases h
      exact hd
    · obtain ⟨⟨piece, rest⟩, hread, h⟩ := Option.bind_eq_some_iff.1 h
      obtain ⟨e', hadd, h⟩ := Option.bind_eq_some_iff.1 h
      exact ih (hd.add (proper_of_readPiece hread) hadd) h

end Draft.Proper

/-- Every pattern that is read is proper. -/
theorem proper_of_readPattern {cs : List Char} {p : Pattern} (h : readPattern cs = some p) :
    p.root.Proper := by
  obtain ⟨d, hd, h⟩ := Option.bind_eq_some_iff.1 h
  obtain ⟨_, -, h⟩ := Option.bind_eq_some_iff.1 h
  cases h
  have hempty : ({} : Draft).Proper := ⟨.nil, .nil, fun _ h => nomatch h⟩
  exact (hempty.addAll hd).body

end ImageSync.Regex
