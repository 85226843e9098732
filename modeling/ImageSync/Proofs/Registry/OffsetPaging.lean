import ImageSync.Proofs.Registry.EcrPaging

/-!
# `ImageSync.Proofs.Registry.OffsetPaging`: how far a listing goes that is paged by offset

A list that is paged by offset serves its names in order, as many on each page as are asked for, and
a token says where the next page starts. A listing of it has all names if it is unbounded.
Otherwise it has the names on the fewest pages that reach the bound: `listedCount` says how many
these are, and `pagesFor` how many pages of a size so many names take.

`retrieve_listed` says of every list that the names that a listing comes to are the first ones of
it, in order, and that there are as many calls as their pages, one at least. It follows from the
general law of listings (`retrieve_eq`) once the replies are known. They are `offsetReplies`,
because each token stands for the place where its page ended (`gives_listed`), and the last one of
them is told by `last_listed`.

The main statement is `retrieve_counted`, about a collection of numbered repositories. No two of
these share a name (`nodup_numberedNames`), so that no name is listed twice.
-/

set_option autoImplicit false

namespace ImageSync

/-! ### Counting pages -/

/-- How many pages of a size so many names take. -/
def pagesFor (size count : Nat) : Nat := (count + size - 1) / size

/-- How many of all names a listing comes to: all of them without a bound, and otherwise those on
the pages that the bound takes. -/
def listedCount (total size bound : Nat) : Nat :=
  if bound = 0 then total else min total (size * pagesFor size bound)

section Count

variable {total size bound count i : Nat}

/-- So many pages are enough exactly if they have room for all names. -/
theorem pagesFor_le_iff (hsize : 0 < size) : pagesFor size count ≤ i ↔ count ≤ i * size := by
  rw [pagesFor, ← Nat.lt_succ_iff, Nat.div_lt_iff_lt_mul hsize, Nat.succ_mul]
  omega

/-- Pages with a place for one name more are needed exactly if there is such a name. -/
theorem lt_pagesFor_iff (hsize : 0 < size) : i < pagesFor size count ↔ i * size < count := by
  rw [← Nat.not_le, pagesFor_le_iff hsize, Nat.not_le]

/-- A listing comes to no more than all names. -/
theorem listedCount_le : listedCount total size bound ≤ total := by
  unfold listedCount
  split
  · exact Nat.le_refl _
  · exact Nat.min_le_left _ _

/-- Behind so many full pages a listing goes on exactly if there are more names, and it wants
them. -/
theorem mul_lt_listedCount_iff (hsize : 0 < size) :
    i * size < listedCount total size bound ↔
      i * size < total ∧ wantsMore bound (i * size) = true := by
  unfold listedCount
  split
  · next hzero =>
    subst hzero
    simp [wantsMore]
  · next hbound =>
    rw [Nat.lt_min, Nat.mul_comm size, Nat.mul_lt_mul_right hsize, lt_pagesFor_iff hsize]
    simp [wantsMore, hbound]

/-- The pages of a listing hold no more than what it comes to. -/
theorem min_pages_eq_listedCount (hsize : 0 < size) {pages : Nat}
    (hpages : pages = max 1 (pagesFor size (listedCount total size bound))) :
    min (pages * size) total = listedCount total size bound := by
  have hle : listedCount total size bound ≤ total := listedCount_le
  have hroom : listedCount total size bound ≤ pages * size :=
    (pagesFor_le_iff hsize).1 (by omega)
  refine Nat.le_antisymm ?_ (Nat.le_min.2 ⟨hroom, hle⟩)
  by_cases hall : listedCount total size bound = total
  · rw [hall]
    exact Nat.min_le_right _ _
  -- Short of all names, a listing comes to full pages.
  have hbound : bound ≠ 0 := fun hzero => hall (if_pos hzero)
  have hfull : listedCount total size bound = pagesFor size bound * size := by
    rw [listedCount, if_neg hbound, Nat.mul_comm] at hall ⊢
    omega
  have hpos : 0 < pagesFor size bound := by
    rw [lt_pagesFor_iff hsize]
    omega
  have hfew : pagesFor size (listedCount total size bound) ≤ pagesFor size bound :=
    (pagesFor_le_iff hsize).2 (Nat.le_of_eq hfull)
  have hmul : pages * size ≤ pagesFor size bound * size :=
    Nat.mul_le_mul_right size (by omega)
  omega

end Count

/-! ### The names of a numbered collection -/

namespace Holdings

/-- The number in the name of a repository can be read back. -/
theorem numberedName_injective {m n : Nat} (h : numberedName m = numberedName n) : m = n := by
  have hread : ∀ k : Nat, Nat.ofDigitChars 10 ((numberedName k).toList.drop 5) 0 = k := by
    intro k
    have hchars : (numberedName k).toList.drop 5 =
        List.replicate (3 - (toString k).length) '0' ++ (toString k).toList := by
      simp [numberedName]
    rw [hchars, Nat.ofDigitChars_append, Nat.ofDigitChars_replicate_zero]
    exact (digits_toString k).2
  rw [← hread m, ← hread n, h]

/-- No two repositories share a name. -/
theorem nodup_numberedNames (count : Nat) : ((List.range count).map numberedName).Nodup :=
  List.Pairwise.map _ (fun _ _ hne heq => hne (numberedName_injective heq)) List.nodup_range

end Holdings

namespace EcrConfig

open Holdings (numberedName listedPage)

/-! ### The replies of a list -/

/-- The pages of a list, each from where the one before it ended. -/
def offsetReplies (names : List String) (size : Nat) : Replies := fun i =>
  .ok (listedPage names size (i * size))

/-- The token that a listing hands on: none for the first page, and then the place where the page
starts. -/
def offsetToken (size i : Nat) : Option String :=
  if i = 0 then none else some (toString (i * size))

section Replies

variable {c : EcrConfig} {names : List String} {bound i last : Nat}

/-- The names on the pages up to one of them are the first ones of the list. -/
theorem names_offsetReplies (c : EcrConfig) (names : List String) (size count : Nat) :
    (c.pages (offsetReplies names size)).names count = names.take (count * size) := by
  induction count with
  | zero => simp [Pages.names]
  | succ count ih =>
    -- The names so far are a front of those up to the end of this page.
    have htake : names.take (count * size) =
        (names.take (min (count * size + size) names.length)).take (count * size) := by
      rw [← List.take_eq_take_min, List.take_take, Nat.min_eq_left (Nat.le_add_right _ _)]
    rw [Pages.names_succ, ih, pages, offsetReplies, readAnswer, Pages.namesOf, listedPage, htake,
      List.take_append_drop, ← List.take_eq_take_min, Nat.succ_mul]

/-- A listing stops at a page exactly if it is to go no further than all names so far. -/
theorem ends_offsetReplies_iff {size : Nat} (hsize : 0 < size) :
    (c.pages (offsetReplies names size)).Ends bound i ↔
      ¬(i + 1) * size < listedCount names.length size bound := by
  rw [ends_iff_of_ok rfl, listedPage_nextToken, names_offsetReplies,
    mul_lt_listedCount_iff hsize, Nat.succ_mul, List.length_take]
  by_cases hmore : i * size + size < names.length
  · rw [if_pos hmore, Nat.min_eq_left (Nat.le_of_lt hmore)]
    simp [hmore]
  · rw [if_neg hmore]
    simp [hmore]

/-- A listing stops at the last page that it takes to get as far as it is to go. -/
theorem last_listed (hsize : 0 < c.pageSize)
    (hlast : last + 1 = max 1 (pagesFor c.pageSize (listedCount names.length c.pageSize bound))) :
    (c.pages (offsetReplies names c.pageSize)).Last bound last where
  ends := by
    rw [ends_offsetReplies_iff hsize, ← lt_pagesFor_iff hsize]
    omega
  goesOn i hi := by
    rw [ends_offsetReplies_iff hsize, ← lt_pagesFor_iff hsize]
    omega

/-- Up to the last page, the token of a page stands for the place where it starts. -/
theorem token_offsetReplies (hsize : 0 < c.pageSize)
    (hlast : (c.pages (offsetReplies names c.pageSize)).Last bound last) (hi : i ≤ last) :
    (offsetReplies names c.pageSize).token i = offsetToken c.pageSize i := by
  cases i with
  | zero => rfl
  | succ i =>
    have hmore := hlast.goesOn i hi
    rw [ends_offsetReplies_iff hsize, Decidable.not_not] at hmore
    have hlt : i * c.pageSize + c.pageSize < names.length :=
      Nat.succ_mul i c.pageSize ▸ Nat.lt_of_lt_of_le hmore listedCount_le
    have hpage : offsetReplies names c.pageSize i =
        .ok (listedPage names c.pageSize (i * c.pageSize)) := rfl
    rw [Replies.token_succ hpage, listedPage_nextToken, if_pos hlt, offsetToken,
      if_neg (Nat.succ_ne_zero i), Nat.succ_mul]

/-- A list gives these replies to the requests of a listing. -/
theorem gives_listed (hsize : 0 < c.pageSize)
    (hlast : (c.pages (offsetReplies names c.pageSize)).Last bound last) :
    c.Gives (fun _ => .listed names) (offsetReplies names c.pageSize) last := by
  intro i hi
  have hoffset : Holdings.offset (offsetToken c.pageSize i) = i * c.pageSize := by
    rw [offsetToken]
    split
    · next hzero => rw [hzero, Nat.zero_mul, Holdings.offset]
    · exact Holdings.offset_toString _
  rw [token_offsetReplies hsize hlast hi, Holdings.describe_listed, pageRequest, hoffset]
  rfl

end Replies

/-! ### Listings -/

section Listings

variable {c : EcrConfig} {bound : Nat} {s s₁ : EcrState}

/-- With a handle, a listing of names that are paged by offset comes to the first ones of them: to
all without a bound, and otherwise to those on the fewest pages that reach the bound, as far as
there are so many. Each of their pages takes one call, an empty listing takes one too, and the call
for a page asks for it by its offset. -/
theorem retrieve_listed {names : List String} (hhandle : c.ensureHandle s = (.ok (), s₁))
    (hheld : s₁.service.holdings = .listed names) (hsize : 0 < c.pageSize) :
    let count := listedCount names.length c.pageSize bound
    c.retrieve bound s =
      (.ok (names.take count),
        { s₁ with service := { s₁.service with
            calls := s₁.service.calls ++
              (List.range (max 1 (pagesFor c.pageSize count))).map fun i =>
                .describeRepositories ⟨c.account, c.pageSize, offsetToken c.pageSize i⟩ } }) := by
  intro count
  obtain ⟨last, hpages⟩ : ∃ last, last + 1 = max 1 (pagesFor c.pageSize count) :=
    ⟨max 1 (pagesFor c.pageSize count) - 1, by omega⟩
  have hlast : (c.pages (offsetReplies names c.pageSize)).Last bound last :=
    last_listed hsize hpages
  have hretrieve := (retrieve_eq hhandle hheld.symm (gives_listed hsize hlast) hlast).1
  have hnames : (c.pages (offsetReplies names c.pageSize)).outcome last =
      .ok (names.take count) := by
    show Except.ok ((c.pages (offsetReplies names c.pageSize)).names (last + 1)) = _
    rw [names_offsetReplies, List.take_eq_take_min, min_pages_eq_listedCount hsize hpages]
  -- The token of each page is the offset that the one before has left.
  have hcalls : (List.range (last + 1)).map (fun i => EcrCall.describeRepositories
        ⟨c.account, c.pageSize, (offsetReplies names c.pageSize).token i⟩) =
      (List.range (last + 1)).map fun i => EcrCall.describeRepositories
        ⟨c.account, c.pageSize, offsetToken c.pageSize i⟩ := by
    refine List.map_congr_left fun i hi => ?_
    rw [token_offsetReplies hsize hlast (Nat.le_of_lt_succ (List.mem_range.1 hi))]
  rw [hretrieve, hnames, hcalls, ← hpages, ← hheld]

/-- With a handle, a listing of a numbered collection comes to the first names of it: to all of
them without a bound, and otherwise to those on the fewest pages that reach the bound, as far as
there are so many. They are in order, and no name is there twice. Each of their pages takes one
call, an empty listing takes one too, and the call for a page asks for it by its offset. -/
theorem retrieve_counted {total : Nat} (hhandle : c.ensureHandle s = (.ok (), s₁))
    (hheld : s₁.service.holdings = .counted total) (hsize : 0 < c.pageSize) :
    let count := listedCount total c.pageSize bound
    c.retrieve bound s =
        (.ok ((List.range count).map numberedName),
          { s₁ with service := { s₁.service with
              calls := s₁.service.calls ++
                (List.range (max 1 (pagesFor c.pageSize count))).map fun i =>
                  .describeRepositories ⟨c.account, c.pageSize, offsetToken c.pageSize i⟩ } }) ∧
      ((List.range count).map numberedName).Nodup := by
  intro count
  refine ⟨?_, Holdings.nodup_numberedNames count⟩
  have hfront : ((List.range total).map numberedName).take count =
      (List.range count).map numberedName := by
    rw [← List.map_take, List.take_range, Nat.min_eq_left listedCount_le]
  have hlisted := @retrieve_listed c bound s s₁ _ hhandle hheld hsize
  rw [List.length_map, List.length_range] at hlisted
  rw [← hfront]
  exact hlisted

/-- Of five repositories on pages of two, a listing of at least three gets four with two calls, and
leaves the third page alone. -/
theorem retrieve_counted_two_pages :
    let c : EcrConfig := ⟨"registry", "region", "account", 2⟩
    c.retrieve 3 ⟨false, ⟨[], [], .counted 5, []⟩⟩ =
      (.ok ["repo-000", "repo-001", "repo-002", "repo-003"],
        ⟨true, ⟨[], [], .counted 5, [.connect "region",
          .describeRepositories ⟨"account", 2, none⟩,
          .describeRepositories ⟨"account", 2, some "2"⟩]⟩⟩) := by
  intro c
  have hhandle : c.ensureHandle ⟨false, ⟨[], [], .counted 5, []⟩⟩ =
      (.ok (), ⟨true, ⟨[], [], .counted 5, [.connect "region"]⟩⟩) := rfl
  exact (retrieve_counted hhandle rfl (by decide)).1.trans (by cbv)

end Listings

end EcrConfig

end ImageSync
