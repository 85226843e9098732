import ImageSync.Proofs.Registry.Pagers

/-!
# `ImageSync.Proofs.Registry.EcrPaging`: the pages of a managed registry

A listing asks for one page after the other. Here the service is any sequence of replies: the
first one answers a request without a token, and each later one answers a request with the
token of the reply before it. As pages of a listing (`EcrConfig.pages`) they say where it stops
(`Pages.Ends`): at a failure, at a page without a token, and at a page that reaches the bound.

The main statement is `retrieve_eq`: a listing makes one call for each reply up to the first
that it stops at, and ends with all their names, or with the failure. The replies make up a
`Pager.Trail` (`trail`), and a trail is what the loop goes along (`Pager.Trail.list_eq`).

The loop of the model counts its pages down from `Holdings.pageLimit`. That this never ends a
listing early is `lt_pageLimit`: a script fails behind its last page, and a page of a list that has
a page behind it gets nearer to the end of the list. Nor does it leave any replies out: a script
gives whichever are wanted (`gives_script`).
-/

set_option autoImplicit false

namespace ImageSync

/-- What a service answers to the requests of one listing, in order. -/
abbrev Replies := Nat → Except String Page

namespace Replies

/-- The token that a request carries: none at first, and then that of the reply before. -/
def token (p : Replies) : Nat → Option String
  | 0 => none
  | i + 1 =>
    match p i with
    | .ok page => page.nextToken
    | .error _ => none

/-- Behind a page the request carries its token. -/
theorem token_succ {p : Replies} {i : Nat} {page : Page} (h : p i = .ok page) :
    p.token (i + 1) = page.nextToken := by
  rw [token, h]

end Replies

namespace EcrConfig

/-- What the replies are as the pages of a listing. -/
def pages (c : EcrConfig) (p : Replies) : Pages RegistryError (Option String) := fun i =>
  c.readAnswer (p i)

/-- A service gives some replies, up to the last one, to requests that hand the tokens on.
Between the requests it changes as listed. -/
def Gives (c : EcrConfig) (held : Nat → Holdings) (p : Replies) (last : Nat) : Prop :=
  ∀ i ≤ last, (held i).describe (c.pageRequest (p.token i)) = (p i, held (i + 1))

/-- The state after so many requests. -/
def afterRequests (c : EcrConfig) (p : Replies) (held : Nat → Holdings) (s : EcrState)
    (count : Nat) : EcrState :=
  { s with service := { s.service with
      holdings := held count
      calls := s.service.calls ++ (List.range count).map fun i =>
        .describeRepositories (c.pageRequest (p.token i)) } }

variable {c : EcrConfig} {bound i last : Nat} {p : Replies} {held : Nat → Holdings}
  {s : EcrState} {page : Page} {names : List String}

/-- A listing stops at a page that has no token or that it wants no more names after. -/
theorem ends_iff_of_ok (h : p i = .ok page) :
    (c.pages p).Ends bound i ↔
      page.nextToken = none ∨ wantsMore bound ((c.pages p).names (i + 1)).length = false := by
  have hpage : c.pages p i = .ok (page.names, page.nextToken.map some) := by
    rw [pages, h, readAnswer]
  rw [Pages.ends_iff_of_ok hpage, Option.map_eq_none_iff]

/-- Before the last page a listing gets pages only, and each has a token. -/
theorem exists_token_of_not_ends (h : ¬(c.pages p).Ends bound i) :
    ∃ page token, p i = .ok page ∧ page.nextToken = some token := by
  obtain ⟨more, next, hpage, -⟩ := Pages.not_ends_iff.1 h
  rw [pages] at hpage
  cases hreply : p i with
  | error reason =>
    rw [hreply] at hpage
    cases hpage
  | ok page =>
    rw [hreply, readAnswer] at hpage
    cases hnext : page.nextToken with
    | none =>
      rw [hnext] at hpage
      cases hpage
    | some token => exact ⟨page, token, rfl, hnext⟩

/-- A fetch gets the reply, and its call is the last one so far. -/
theorem pager_afterRequests (hgives : c.Gives held p last) (hi : i ≤ last) :
    c.pager (p.token i) (c.afterRequests p held s i) =
      (c.pages p i, c.afterRequests p held s (i + 1)) := by
  -- The service answers with the reply and goes on to the next holdings. What is left is that the
  -- call is put behind those before it.
  rw [pager, EcrService.describeRepositories, afterRequests, hgives i hi]
  simp [pages, afterRequests, List.range_succ]

/-- The listing that a service gives these replies. -/
def trail (hheld : held 0 = s.service.holdings) (hgives : c.Gives held p last)
    (hlast : (c.pages p).Last bound last) : c.pager.Trail bound none s where
  key := p.token
  before := c.afterRequests p held s
  page := c.pages p
  last := last
  key_zero := rfl
  before_zero := by
    rw [afterRequests, hheld, List.range_zero, List.map_nil, List.append_nil]
  fetched _ hi := pager_afterRequests hgives hi
  leads i hi := by
    obtain ⟨page, token, hreply, hnext⟩ := exists_token_of_not_ends (hlast.goesOn i hi)
    rw [pages, hreply, Replies.token_succ hreply, hnext, readAnswer, hnext]
    rfl
  isLast := hlast

/-! ### The limit on the pages -/

/-- A page of a list has a token unless the list ends with it. -/
theorem listedPage_nextToken (names : List String) (size start : Nat) :
    (Holdings.listedPage names size start).nextToken =
      if start + size < names.length then some (toString (start + size)) else none := by
  simp only [Holdings.listedPage]
  split
  · next hlt =>
    rw [if_pos (by omega), Nat.min_eq_left (by omega)]
  · next hle =>
    rw [if_neg (by omega)]

/-- A page that may hold no names holds none. -/
theorem listedPage_zero_names (names : List String) (start : Nat) :
    (Holdings.listedPage names 0 start).names = [] := by
  have hmin : min start names.length ≤ start := Nat.min_le_left start names.length
  simp only [Holdings.listedPage, Nat.add_zero, List.drop_eq_nil_iff, List.length_take]
  omega

/-- A script loses an answer with each request. -/
theorem Gives.held_pages (hgives : c.Gives held p last) {answers : List (Except String Page)}
    (hpages : held 0 = .pages answers) (hi : i ≤ last + 1) : held i = .pages (answers.drop i) := by
  induction i with
  | zero => exact hpages
  | succ i ih =>
    have hstep := congrArg Prod.snd (hgives i (Nat.le_of_succ_le_succ hi))
    rw [ih (Nat.le_of_succ_le hi)] at hstep
    rw [← List.drop_drop, show held (i + 1) = _ from hstep.symm]
    cases answers.drop i with
    | nil => rfl
    | cons answer rest => rfl

/-- A list stays as it is. -/
theorem Gives.held_listed (hgives : c.Gives held p last) (hlisted : held 0 = .listed names)
    (hi : i ≤ last + 1) : held i = .listed names := by
  induction i with
  | zero => exact hlisted
  | succ i ih =>
    have hstep := congrArg Prod.snd (hgives i (Nat.le_of_succ_le_succ hi))
    rw [ih (Nat.le_of_succ_le hi)] at hstep
    exact hstep.symm

/-- A script fails behind its last page. -/
theorem lt_pageLimit_pages (hgives : c.Gives held p last) (hlast : (c.pages p).Last bound last)
    {answers : List (Except String Page)} (hpages : held 0 = .pages answers) :
    last < (Holdings.pages answers).pageLimit := by
  refine Nat.lt_of_not_le fun hle => ?_
  have hlt : answers.length < last := Nat.lt_of_succ_le hle
  have hreply := congrArg Prod.fst (hgives _ (Nat.le_of_lt hlt))
  rw [hgives.held_pages hpages (by omega), List.drop_length] at hreply
  obtain ⟨page, token, hpage, -⟩ := exists_token_of_not_ends (hlast.goesOn _ hlt)
  rw [hpage] at hreply
  cases hreply

/-- The replies of a list are its pages, and each starts where the one before it ended. -/
theorem Gives.reply_listed (hgives : c.Gives held p last) (hlast : (c.pages p).Last bound last)
    (hlisted : held 0 = .listed names) (hi : i ≤ last) :
    p i = .ok (Holdings.listedPage names c.pageSize (i * c.pageSize)) := by
  have hreply : ∀ i ≤ last,
      p i = .ok (Holdings.listedPage names c.pageSize (Holdings.offset (p.token i))) := by
    intro i hi
    have h := congrArg Prod.fst (hgives i hi)
    rw [hgives.held_listed hlisted (by omega)] at h
    exact h.symm
  rw [hreply i hi]
  congr 2
  -- The token of a page that is not the last says where the page ended.
  induction i with
  | zero => exact (Nat.zero_mul _).symm
  | succ i ih =>
    have hok := hreply i (Nat.le_of_succ_le hi)
    rw [ih (Nat.le_of_succ_le hi)] at hok
    obtain ⟨page, token, hpage, hnext⟩ := exists_token_of_not_ends (hlast.goesOn i hi)
    cases hok.symm.trans hpage
    rw [Replies.token_succ hok, hnext, Nat.succ_mul]
    rw [listedPage_nextToken] at hnext
    split at hnext
    · next hlt =>
      cases hnext
      exact Holdings.offset_toString _
    · cases hnext

/-- A list has no more pages than names, and one if it has none. -/
theorem lt_pageLimit_listed (hgives : c.Gives held p last) (hlast : (c.pages p).Last bound last)
    (hlisted : held 0 = .listed names) : last < (Holdings.listed names).pageLimit := by
  have hreply : ∀ i ≤ last, _ := fun i hi => hgives.reply_listed hlast hlisted hi
  show last < names.length + 1
  cases last with
  | zero => omega
  | succ last =>
    obtain ⟨page, token, hpage, hnext⟩ :=
      exists_token_of_not_ends (hlast.goesOn last (Nat.lt_succ_self last))
    cases (hreply last (Nat.le_succ last)).symm.trans hpage
    rw [listedPage_nextToken] at hnext
    have hlt : last * c.pageSize + c.pageSize < names.length :=
      Decidable.of_not_not fun hle => by
        rw [if_neg hle] at hnext
        cases hnext
    -- The page before the last one had a token, so it ended before the list did. With names on each
    -- page that bounds their number.
    rcases Nat.eq_zero_or_pos c.pageSize with hzero | hpos
    · -- Pages without names go on for ever, so that there is no last one.
      exfalso
      have hnames : (c.pages p).names (last + 1 + 1) = [] := by
        rw [Pages.names, List.flatMap_eq_nil_iff]
        intro i hi
        rw [pages, hreply i (Nat.le_of_lt_succ (List.mem_range.1 hi)), hzero]
        exact listedPage_zero_names _ _
      rcases (ends_iff_of_ok (hreply _ (Nat.le_refl _))).1 hlast.ends with hnone | hfull
      · rw [listedPage_nextToken, hzero, if_pos (by omega)] at hnone
        cases hnone
      · rw [hnames] at hfull
        simp [wantsMore] at hfull
    · have hle := Nat.le_mul_of_pos_right last hpos
      omega

/-- No listing is cut short. -/
theorem lt_pageLimit (hgives : c.Gives held p last) (hlast : (c.pages p).Last bound last) :
    last < (held 0).pageLimit := by
  cases hheld : held 0 with
  | pages answers => exact lt_pageLimit_pages hgives hlast hheld
  | listed names => exact lt_pageLimit_listed hgives hlast hheld

/-! ### Listings -/

/-- With a handle, a listing makes one call for each reply up to the first that it stops at.
It comes to all their names in order, or to the failure if that is the last reply. Before the
last reply there are fewer names than the bound, and if no page is empty there are no more
calls than it. -/
theorem retrieve_eq {s₁ : EcrState} (hhandle : c.ensureHandle s = (.ok (), s₁))
    (hheld : held 0 = s₁.service.holdings) (hgives : c.Gives held p last)
    (hlast : (c.pages p).Last bound last) :
    c.retrieve bound s =
        ((c.pages p).outcome last,
          { s₁ with service := { s₁.service with
              holdings := held (last + 1)
              calls := s₁.service.calls ++ (List.range (last + 1)).map fun i =>
                .describeRepositories ⟨c.account, c.pageSize, p.token i⟩ } }) ∧
      (0 < bound → ((c.pages p).names last).length < bound) ∧
      (0 < bound → (∀ i ≤ last, ∀ page, p i = .ok page → page.names ≠ []) →
        last + 1 ≤ bound) := by
  refine ⟨?_, hlast.length_names_lt, ?_⟩
  · have hlimit : last < s₁.service.holdings.pageLimit := by
      rw [← hheld]
      exact lt_pageLimit hgives hlast
    rw [retrieve_apply, hhandle]
    exact (trail hheld hgives hlast).list_eq hlimit _
  · intro hbound hpages
    -- Every reply before the last one is a page, and holds a name.
    have hle : last ≤ ((c.pages p).names last).length := by
      refine Pages.le_length_names fun i hi => ?_
      obtain ⟨page, token, hreply, -⟩ := exists_token_of_not_ends (hlast.goesOn i hi)
      rw [pages, hreply]
      exact hpages i (Nat.le_of_lt hi) page hreply
    have hlt := hlast.length_names_lt hbound
    omega

/-- A listing of at least two names goes through an empty page, keeps the page that holds
them whole, and leaves the next one alone. -/
theorem retrieve_scripted_pages :
    let c : EcrConfig := ⟨"registry", "region", "account", 100⟩
    let request : Option String → EcrCall := fun token =>
      .describeRepositories ⟨"account", 100, token⟩
    c.retrieve 2 ⟨false, ⟨[], [], .pages [.ok ⟨[], some "t"⟩, .ok ⟨["a", "b", "c"], some "u"⟩,
        .error "refused"], []⟩⟩ =
      (.ok ["a", "b", "c"],
        ⟨true, ⟨[], [], .pages [.error "refused"],
          [.connect "region", request none, request (some "t")]⟩⟩) := by
  intro c request
  let answers : List (Except String Page) :=
    [.ok ⟨[], some "t"⟩, .ok ⟨["a", "b", "c"], some "u"⟩, .error "refused"]
  let p : Replies := fun i => answers[i]?.getD (.error "unscripted page")
  have hhandle : c.ensureHandle ⟨false, ⟨[], [], .pages answers, []⟩⟩ =
      (.ok (), ⟨true, ⟨[], [], .pages answers, [.connect "region"]⟩⟩) := rfl
  have hgives : c.Gives (fun i => .pages (answers.drop i)) p 1 := by
    intro i hi
    rcases Nat.le_one_iff_eq_zero_or_eq_one.1 hi with rfl | rfl
    · rfl
    · rfl
  have hlast : (c.pages p).Last 2 1 := by
    refine ⟨(ends_iff_of_ok rfl).2 (.inr (by decide)), fun i hi => ?_⟩
    obtain rfl : i = 0 := Nat.lt_one_iff.1 hi
    rw [ends_iff_of_ok rfl]
    decide
  exact (retrieve_eq hhandle rfl hgives hlast).1

/-- Any replies whatever are those of a service: of one with a script of them. -/
theorem gives_script (c : EcrConfig) (p : Replies) (last : Nat) :
    c.Gives (fun i => .pages (((List.range (last + 1)).map p).drop i)) p last := by
  intro i hi
  dsimp only
  -- A script answers with its first entry and keeps the others, so before request `i` it begins
  -- with reply `i`.
  rw [List.drop_eq_getElem_cons (by simpa using Nat.lt_succ_of_le hi)]
  simp

end EcrConfig

end ImageSync
