import ImageSync.Proofs.Http.Script
import ImageSync.Proofs.Registry.Continuations

/-!
# `ImageSync.Proofs.Registry.LastPage`: the continuation of the page that reaches the bound

A listing keeps the page that reaches its bound, and does not follow its continuation. So what that
continuation is should make no difference.

For a managed registry it makes none. For a catalog it makes one: where a link leads is found out
before the names on its page are read and counted. With a link that leads nowhere the listing fails,
although it has all the names it asks for and would not follow the link. Otherwise the link does not
matter, and in no case does it change what is requested. `TokenIdle` and `LinkIdle` say this for the
two kinds of registry, and the main statement is `retrieve_last_page`.

The argument is about two scripts that are the same but for the last page. Each page before it is
read off a front of the script (`Trail.ReadsOff`), whatever stands behind it. So over the other
script a listing comes to the last page all the same (`Trail.list_front`), and the bound is reached
there, too.
-/

set_option autoImplicit false

namespace ImageSync

open Http (Network Request Response Reply)
open Pages (continuation?)

/-! ### Listings over a script -/

namespace Pager

namespace Trail

variable {ε σ κ ρ : Type} {fetch : Pager ε σ κ} {bound : Nat} {first : κ} {s : σ}
  {script : σ → List ρ} {load : σ → List ρ → σ}

/-- The first page is what is asked for first. -/
theorem page_zero (t : fetch.Trail bound first s) : t.page 0 = (fetch first s).1 := by
  have hfetched := t.fetched 0 (Nat.zero_le _)
  rw [t.key_zero, t.before_zero] at hfetched
  exact (congrArg Prod.fst hfetched).symm

/-- If it reaches the bound, it is the last one. -/
theorem last_eq_zero (t : fetch.Trail bound first s) (hpos : 0 < bound) {names : List String}
    {next : Option κ} (hpage : (fetch first s).1 = .ok (names, next))
    (hreach : bound ≤ names.length) : t.last = 0 := by
  refine Nat.eq_zero_of_not_pos fun hlast => t.isLast.goesOn 0 hlast (.inr (.inr ⟨hpos, ?_⟩))
  rw [Pages.names_succ, t.page_zero, hpage]
  exact hreach

/-- Each page before the last is read off a front of the script. With another rest behind this
front, the fetch comes to the same page and leaves that rest. -/
def ReadsOff (t : fetch.Trail bound first s) (script : σ → List ρ) (load : σ → List ρ → σ) : Prop :=
  ∀ i < t.last, ∃ used, used ≠ [] ∧ script (t.before i) = used ++ script (t.before (i + 1)) ∧
    ∀ rest, fetch (t.key i) (load (t.before i) (used ++ rest)) =
      (t.page i, load (t.before (i + 1)) rest)

variable (t : fetch.Trail bound first s)

/-- With another rest of the script, a listing goes through the same pages. -/
theorem exists_front (h : t.ReadsOff script load) {i : Nat} (hi : i ≤ t.last) :
    ∃ used, i ≤ used.length ∧ script s = used ++ script (t.before i) ∧
      ∀ rest, fetch.stage first (load s (used ++ rest)) i = (t.key i, load (t.before i) rest) ∧
        ∀ j < i, fetch.pages first (load s (used ++ rest)) j = t.page j := by
  -- By induction on the pages: what has been read up to here, and what this page reads of the rest.
  induction i with
  | zero =>
    refine ⟨[], Nat.le_refl 0, by rw [t.before_zero, List.nil_append], fun rest => ⟨?_, nofun⟩⟩
    rw [t.key_zero, t.before_zero]
    rfl
  | succ i ih =>
    obtain ⟨used, hlength, hscript, hrest⟩ := ih (Nat.le_of_succ_le hi)
    obtain ⟨more, hmore, hpage, hfetch⟩ := h i hi
    refine ⟨used ++ more, ?_, by rw [hscript, hpage, List.append_assoc], fun rest => ?_⟩
    · have hpos := List.length_pos_iff.2 hmore
      rw [List.length_append]
      omega
    · obtain ⟨hstage, hpages⟩ := hrest (more ++ rest)
      rw [List.append_assoc]
      have hnow : fetch.pages first (load s (used ++ (more ++ rest))) i = t.page i := by
        rw [pages, hstage, hfetch]
      obtain ⟨names, hnames⟩ := Pages.exists_of_continuation? (t.leads i hi)
      refine ⟨Prod.ext (stage_succ_fst (hnow.trans hnames)) ?_, fun j hj => ?_⟩
      · rw [stage_succ_snd, hstage, hfetch]
      · rcases Nat.lt_succ_iff_lt_or_eq.1 hj with hj | rfl
        · exact hpages j hj
        · exact hnow

/-- With another rest of the script, a listing comes to each page of its trail all the same, with
the names of the pages before it. -/
theorem list_front (h : t.ReadsOff script load) {i : Nat} (hi : i ≤ t.last) :
    ∃ used, i ≤ used.length ∧ script s = used ++ script (t.before i) ∧
      ∀ rest tooMany fuel, fetch.list tooMany bound (fuel + i) first [] (load s (used ++ rest)) =
        fetch.list tooMany bound fuel (t.key i) (t.page.names i) (load (t.before i) rest) := by
  obtain ⟨used, hlength, hscript, hrest⟩ := t.exists_front h hi
  refine ⟨used, hlength, hscript, fun rest tooMany fuel => ?_⟩
  obtain ⟨hstage, hpages⟩ := hrest rest
  rw [list_of_goesOn, hstage, Pages.names_congr hpages]
  intro j hj hends
  refine t.isLast.goesOn j (Nat.lt_of_lt_of_le hj hi) ?_
  exact (Pages.ends_congr fun k hk => hpages k (Nat.lt_of_le_of_lt hk hj)).1 hends

end Trail

/-- With a page that reaches the bound the loop comes to its end. -/
theorem list_of_reached {ε σ κ : Type} {fetch : Pager ε σ κ} {tooMany : ε} {bound : Nat} {key : κ}
    {names more : List String} {next : Option κ} {s s' : σ} (hpos : 0 < bound)
    (hfetch : fetch key s = (.ok (more, next), s')) (hreach : bound ≤ (names ++ more).length)
    (fuel : Nat) :
    fetch.list tooMany bound (fuel + 1) key names s = (.ok (names ++ more), s') := by
  rw [list, hfetch]
  cases next with
  | none => rfl
  | some next =>
    dsimp only
    rw [wantsMore_eq_false_iff.2 ⟨hpos, hreach⟩]
    rfl

end Pager

/-! ### Managed registries -/

/-- The answers that are still to come, if they are scripted. -/
def EcrState.script (s : EcrState) : List (Except String Page) :=
  match s.service.holdings with
  | .pages answers => answers
  | .listed _ => []

/-- The state with other answers to come. -/
def EcrState.scripted (s : EcrState) (answers : List (Except String Page)) : EcrState :=
  { s with service := { s.service with holdings := .pages answers } }

namespace EcrConfig

variable {c : EcrConfig} {bound : Nat} {token : Option String} {s s₁ s' : EcrState}
  {answer : Except String Page} {answers : List (Except String Page)}
  {page : Except RegistryError (List String × Option (Option String))}

/-- A fetch reads the first answer of a script. Whatever the other ones are, they are left. -/
theorem pager_scripted (h : c.pager token s = (page, s'))
    (hs : s.service.holdings = .pages (answer :: answers)) :
    page = c.readAnswer answer ∧ s'.service.holdings = .pages answers ∧
      ∀ answer' rest, c.pager token (s.scripted (answer' :: rest)) =
        (c.readAnswer answer', s'.scripted rest) := by
  obtain ⟨connected, connects, probes, holdings, calls⟩ := s
  obtain rfl : holdings = .pages (answer :: answers) := hs
  have hread : ∀ answer' rest, c.pager token
      ⟨connected, connects, probes, .pages (answer' :: rest), calls⟩ =
        (c.readAnswer answer', ⟨connected, connects, probes, .pages rest,
          calls ++ [.describeRepositories (c.pageRequest token)]⟩) := by
    intro answer' rest
    cases answer' <;> rfl
  rw [hread] at h
  cases h
  exact ⟨rfl, rfl, hread⟩

/-- Behind the script there are no pages. -/
theorem pager_of_no_answers (hs : s.service.holdings = .pages []) (token : Option String) :
    (c.pager token s).1 = .error (.listFailed c.registry "unscripted page") := by
  obtain ⟨connected, connects, probes, holdings, calls⟩ := s
  obtain rfl : holdings = .pages [] := hs
  rfl

/-- Along a trail an answer is used up for each page. -/
theorem holdings_before (t : c.pager.Trail bound none s)
    (hs : s.service.holdings = .pages answers) {i : Nat} (hi : i ≤ t.last) :
    (t.before i).service.holdings = .pages (answers.drop i) := by
  induction i with
  | zero => rw [t.before_zero, hs, List.drop_zero]
  | succ i ih =>
    have hfetched := congrArg Prod.snd (t.fetched i (Nat.le_of_succ_le hi))
    rw [← show (c.pager (t.key i) (t.before i)).2 = t.before (i + 1) from hfetched,
      holdings_pager (ih (Nat.le_of_succ_le hi)), List.tail_drop]

/-- A page comes from the next answer of the script. -/
theorem exists_answer (t : c.pager.Trail bound none s) (hs : s.service.holdings = .pages answers)
    {i : Nat} (hi : i ≤ t.last) {names : List String} {next : Option (Option String)}
    (hpage : t.page i = .ok (names, next)) :
    ∃ answer rest, (t.before i).service.holdings = .pages (answer :: rest) := by
  have hholdings := holdings_before t hs hi
  cases hdrop : answers.drop i with
  | nil =>
    rw [hdrop] at hholdings
    have hnone := pager_of_no_answers (c := c) hholdings (t.key i)
    rw [t.fetched i hi, hpage] at hnone
    cases hnone
  | cons answer rest => exact ⟨answer, rest, by rw [hholdings, hdrop]⟩

/-- The pages of a managed registry are read off the script of its service. -/
theorem readsOff (t : c.pager.Trail bound none s) (hs : s.service.holdings = .pages answers) :
    t.ReadsOff EcrState.script EcrState.scripted := by
  intro i hi
  obtain ⟨names, hnames⟩ := Pages.exists_of_continuation? (t.leads i hi)
  obtain ⟨answer, rest, hholdings⟩ := exists_answer t hs (Nat.le_of_lt hi) hnames
  obtain ⟨hpage, hafter, hothers⟩ := pager_scripted (t.fetched i (Nat.le_of_lt hi)) hholdings
  refine ⟨[answer], List.cons_ne_nil _ _, ?_, fun rest' => ?_⟩
  · rw [EcrState.script, EcrState.script, hholdings, hafter]
    rfl
  · rw [List.singleton_append, hothers, hpage]

/-- Getting a service handle does not depend on the script. -/
theorem ensureHandle_scripted (h : c.ensureHandle s = (.ok (), s₁))
    (answers : List (Except String Page)) :
    c.ensureHandle (s.scripted answers) = (.ok (), s₁.scripted answers) := by
  cases hconnected : s.connected with
  | true =>
    rw [ensureHandle_of_connected c hconnected] at h
    cases h
    exact ensureHandle_of_connected c hconnected
  | false =>
    obtain ⟨connected, connects, probes, holdings, calls⟩ := s
    obtain rfl : connected = false := hconnected
    rw [ensureHandle_of_not_connected c rfl] at h
    rw [EcrState.scripted, ensureHandle_of_not_connected c rfl]
    rcases connects with _ | ⟨_ | reason, connects⟩
    · cases h
      rfl
    · cases h
      rfl
    · cases h

/-- The token of a page of a script is idle: with any token in its place the listing comes to these
names, and makes the same calls. -/
def TokenIdle (c : EcrConfig) (bound : Nat) (s : EcrState) (answers : List (Except String Page))
    (page : Page) (names : List String) : Prop :=
  ∃ used left, answers = used ++ .ok page :: left ∧ ∀ token,
    c.retrieve bound (s.scripted (used ++ .ok ⟨page.names, token⟩ :: left)) =
      (.ok names, (c.retrieve bound s).2)

/-- Where the last page reaches the bound, its token is idle. -/
theorem tokenIdle_of_reached (t : c.pager.Trail bound none s₁) (ht : c.GoesAlong s t)
    (hhandle : c.ensureHandle s = (.ok (), s₁)) (hs : s₁.service.holdings = .pages answers)
    (hpos : 0 < bound) {page : Page}
    (hpage : t.page t.last = .ok (page.names, page.nextToken.map some))
    (hreach : bound ≤ (t.page.names t.last ++ page.names).length) :
    c.TokenIdle bound s answers page (t.page.names t.last ++ page.names) := by
  obtain ⟨answer, left, hholdings⟩ := exists_answer t hs (Nat.le_refl _) hpage
  obtain ⟨hanswer, hafter, hothers⟩ := pager_scripted (t.fetched t.last (Nat.le_refl _)) hholdings
  obtain ⟨used, hlength, hused, hlist⟩ := t.list_front (readsOff t hs) (Nat.le_refl _)
  -- The answer behind the page is known from what was read of it.
  obtain rfl : answer = .ok page := by
    rw [hpage] at hanswer
    obtain ⟨names, token⟩ := page
    cases answer with
    | error reason => cases hanswer
    | ok page' =>
      obtain ⟨names', token'⟩ := page'
      simp only [readAnswer, Except.ok.injEq, Prod.mk.injEq] at hanswer
      obtain ⟨rfl, htoken⟩ := hanswer
      rw [(Option.map_inj_right fun _ _ => Option.some.inj).1 htoken]
  refine ⟨used, left, ?_, fun token => ?_⟩
  · rw [EcrState.script, EcrState.script, hs, hholdings] at hused
    exact hused
  · have hscripted : (t.before (t.last + 1)).scripted left = t.before (t.last + 1) := by
      rw [EcrState.scripted, ← hafter]
    have hother := hothers (.ok ⟨page.names, token⟩) left
    rw [hscripted] at hother
    -- The loop has steps enough to come to the last page.
    obtain ⟨fuel, hfuel⟩ : ∃ fuel,
        (used ++ .ok ⟨page.names, token⟩ :: left).length + 1 = fuel + 1 + t.last :=
      ⟨(used ++ .ok ⟨page.names, token⟩ :: left).length - t.last, by
        rw [List.length_append]
        omega⟩
    rw [ht.comes, retrieve_apply, ensureHandle_scripted hhandle]
    show c.pager.list _ bound ((used ++ .ok ⟨page.names, token⟩ :: left).length + 1) none [] _ = _
    rw [hfuel, hlist, Pager.list_of_reached hpos hother hreach]

end EcrConfig

/-! ### Catalogs -/

namespace CatalogSource

variable {s : CatalogSource} {bound : Nat} {first url : Url} {n n₁ : Network} {r r' : Response}
  {names : List String}

/-- A request that gets an answer of success has read a front of the script, of which this answer is
the last. With other links in it, and any replies behind it, the request does the same. -/
theorem request_scripted (h : s.request url n = (.ok r, n₁)) (hsuccess : r.isSuccess = true) :
    ∃ used, n.replies = used ++ .answered r :: n₁.replies ∧
      ∀ r' rest, Response.SameBut "link" r r' →
        s.request url (n.scripted (used ++ .answered r' :: rest)) = (.ok r', n₁.scripted rest) := by
  simp only [request_apply] at h ⊢
  cases hcredentials : s.credentialsFor url with
  | error e =>
    rw [hcredentials] at h
    cases h
  | ok a =>
    rw [hcredentials] at h
    dsimp only at h ⊢
    rcases hsend : Http.send s.config.client url a n with ⟨fault | r₀, n₀⟩
    · rw [hsend] at h
      cases h
    · rw [hsend] at h
      cases h
      -- Whether an answer redirects does not depend on its link, so one with another link may stand
      -- in its place.
      obtain ⟨used, hused, hothers⟩ := Http.send_scripted hsend hsuccess
      refine ⟨used, hused, fun r' rest hr' => ?_⟩
      have hlocation : ∀ url, Http.redirectTarget? url r' = Http.redirectTarget? url r :=
        fun url => (hr'.redirectTarget?_eq (by decide) url).symm
      rw [hothers r' rest hlocation]
      rfl

/-- A page comes from an answer of success. -/
theorem request_of_pager {next : Option Url} (h : s.pager url n = (.ok (names, next), n₁)) :
    ∃ r, s.request url n = (.ok r, n₁) ∧ r.isSuccess = true ∧ s.readPage r = .ok ⟨names, next⟩ := by
  rw [pager] at h
  rcases hrequest : s.request url n with ⟨e | r, n₀⟩
  · rw [hrequest] at h
    cases h
  · rw [hrequest] at h
    dsimp only at h
    cases hread : s.readPage r with
    | error e =>
      rw [hread] at h
      cases h
    | ok page =>
      rw [hread] at h
      cases h
      refine ⟨r, rfl, ?_, hread⟩
      rw [readPage_eq] at hread
      split at hread
      · next hsuccess => exact hsuccess
      · cases hread

/-- The pages of a catalog are read off the replies of the network. -/
theorem readsOff (t : s.pager.Trail bound first n) :
    t.ReadsOff Network.replies Network.scripted := by
  intro i hi
  obtain ⟨names, hnames⟩ := Pages.exists_of_continuation? (t.leads i hi)
  have hfetched := t.fetched i (Nat.le_of_lt hi)
  rw [hnames] at hfetched ⊢
  obtain ⟨r, hrequest, hsuccess, hread⟩ := request_of_pager hfetched
  obtain ⟨used, hused, hothers⟩ := request_scripted hrequest hsuccess
  refine ⟨used ++ [.answered r], by simp, by rw [hused, List.append_assoc]; rfl, fun rest => ?_⟩
  rw [List.append_assoc, List.singleton_append, pager, hothers r rest (.refl "link" r)]
  dsimp only
  rw [hread]
  rfl

/-- An answer of success that lists names is a page with these names, if its link can be
followed. -/
theorem readPage_of_lists (hsuccess : r.isSuccess = true) (hnames : Lists r "repositories" names) :
    s.readPage r = (s.nextPage r).map fun next => ⟨names, next⟩ := by
  rw [readPage_eq, if_pos hsuccess, readNames_eq_ok_iff.2 hnames]
  cases s.nextPage r <;> rfl

/-- The names of an answer do not depend on its link. -/
theorem lists_of_sameBut (h : Response.SameBut "link" r r')
    (hnames : Lists r "repositories" names) : Lists r' "repositories" names := by
  have hread : readNames "" "repositories" r' = .ok names := by
    rw [readNames, ← h.content?_eq]
    exact readNames_eq_ok_iff.2 hnames
  exact readNames_eq_ok_iff.1 hread

/-- What a listing comes to with these names, by where the link of their last page leads. -/
def goOn (s : CatalogSource) (bound fuel : Nat) (names : List String) (n : Network) :
    Except RegistryError (Option Url) → Except RegistryError (List String) × Network
  | .error e => (.error e, n)
  | .ok none => (.ok names, n)
  | .ok (some next) =>
    if wantsMore bound names.length then
      s.pager.list (.httpError 0 "the pages did not end") bound fuel next names n
    else (.ok names, n)

/-- With enough names a listing does not go on. -/
theorem goOn_of_reached (hpos : 0 < bound) (hreach : bound ≤ names.length) (s : CatalogSource)
    (fuel : Nat) (n : Network) (next : Except RegistryError (Option Url)) :
    s.goOn bound fuel names n next = (next.map fun _ => names, n) := by
  rcases next with e | _ | next
  · rfl
  · rfl
  · rw [goOn, wantsMore_eq_false_iff.2 ⟨hpos, hreach⟩]
    rfl

/-- A page of a listing can have any link instead of its own. The listing comes to it all the same,
with the names of the pages before it, and goes on with that link. -/
theorem retrieve_other_link (t : s.pager.Trail bound first n) (hfirst : s.firstPage = .ok first)
    {i : Nat} (hi : i ≤ t.last) (hrequest : (s.request (t.key i) (t.before i)).1 = .ok r)
    (hsuccess : r.isSuccess = true) (hnames : Lists r "repositories" names) :
    ∃ used left fuel, n.replies = used ++ .answered r :: left ∧
      ∀ r', Response.SameBut "link" r r' →
        s.retrieve bound (n.scripted (used ++ .answered r' :: left)) =
          s.goOn bound fuel (t.page.names i ++ names) (t.before (i + 1)) (s.nextPage r') := by
  have hanswer : s.request (t.key i) (t.before i) = (.ok r, t.before (i + 1)) := by
    refine Prod.ext hrequest ?_
    rw [← pager_snd, t.fetched i hi]
  obtain ⟨front, hlength, hfront, hlist⟩ := t.list_front (readsOff t) hi
  obtain ⟨used, hused, hothers⟩ := request_scripted hanswer hsuccess
  let left := (t.before (i + 1)).replies
  refine ⟨front ++ used, left, (front ++ used).length + left.length + 1 - i, ?_, fun r' hr' => ?_⟩
  · rw [hfront, hused, List.append_assoc]
  · -- The listing has steps enough to come to the page.
    have hfuel : (front ++ (used ++ .answered r' :: left)).length + 1 =
        (front ++ used).length + left.length + 1 - i + 1 + i := by
      simp only [List.length_append, List.length_cons]
      omega
    have hpage : s.pager (t.key i) ((t.before i).scripted (used ++ .answered r' :: left)) =
        ((s.nextPage r').map fun next => (names, next), t.before (i + 1)) := by
      rw [pager, hothers r' _ hr']
      dsimp only
      rw [readPage_of_lists (hr'.isSuccess_eq.symm.trans hsuccess) (lists_of_sameBut hr' hnames)]
      cases s.nextPage r' <;> rfl
    rw [List.append_assoc, retrieve_apply, hfirst]
    show s.pager.list _ bound ((front ++ (used ++ .answered r' :: left)).length + 1) first [] _ = _
    rw [hfuel, hlist, Pager.list, hpage]
    rcases s.nextPage r' with e | _ | next
    · rfl
    · rfl
    · rfl

/-- A link can be followed if it has no target or one that leads somewhere from the base. Otherwise
its target is reported. -/
theorem nextPage_map (s : CatalogSource) (r : Response) (names : List String) :
    (((s.nextPage r).map fun _ => names) = .ok names ↔
        ∀ target, (r.plainHeader? "link").bind nextLink? = some target →
          (s.base.join? target).isSome = true) ∧
      ∀ target, (r.plainHeader? "link").bind nextLink? = some target →
        s.base.join? target = none →
          ((s.nextPage r).map fun _ => names) =
            .error (.invalidUrl (s.base.render ++ String.ofList target)) := by
  rw [nextPage]
  cases (r.plainHeader? "link").bind nextLink? with
  | none =>
    refine ⟨⟨?_, fun _ => rfl⟩, ?_⟩
    · intro _ target htarget
      cases htarget
    · intro target htarget
      cases htarget
  | some target =>
    dsimp only
    rw [endpoint]
    -- Without a URL to go on from, the call fails although the names are there.
    cases hjoin : s.base.join? target with
    | none =>
      refine ⟨⟨?_, ?_⟩, ?_⟩
      · intro hok
        cases hok
      · intro hall
        have hsome := hall target rfl
        rw [hjoin] at hsome
        cases hsome
      · intro target' htarget _
        cases htarget
        rfl
    | some url =>
      refine ⟨⟨?_, fun _ => rfl⟩, ?_⟩
      · intro _ target' htarget
        cases htarget
        rw [hjoin]
        rfl
      · intro target' htarget hnone
        cases htarget
        rw [hjoin] at hnone
        cases hnone

/-- The link of a page that an answer gives is idle: with any links in it the listing makes the same
requests. It comes to these names if the link can be followed, although it is not, and to the target
of the link otherwise. -/
def LinkIdle (s : CatalogSource) (bound : Nat) (n : Network) (r : Response)
    (names : List String) : Prop :=
  ∃ used left, n.replies = used ++ .answered r :: left ∧
    ∀ r', Response.SameBut "link" r r' →
      let other := s.retrieve bound (n.scripted (used ++ .answered r' :: left))
      other.2 = (s.retrieve bound n).2 ∧
      (other.1 = .ok names ↔
        ∀ target, (r'.plainHeader? "link").bind nextLink? = some target →
          (s.base.join? target).isSome = true) ∧
      ∀ target, (r'.plainHeader? "link").bind nextLink? = some target →
        s.base.join? target = none →
          other.1 = .error (.invalidUrl (s.base.render ++ String.ofList target))

/-- Where the last page reaches the bound, its link is idle. -/
theorem linkIdle_of_reached (t : s.pager.Trail bound first n) (ht : GoesAlong t) (hpos : 0 < bound)
    (hrequest : (s.request (t.key t.last) (t.before t.last)).1 = .ok r)
    (hsuccess : r.isSuccess = true) (hnames : Lists r "repositories" names)
    (hreach : bound ≤ (t.page.names t.last ++ names).length) :
    s.LinkIdle bound n r (t.page.names t.last ++ names) := by
  obtain ⟨used, left, fuel, hreplies, hother⟩ :=
    retrieve_other_link t ht.opens (Nat.le_refl _) hrequest hsuccess hnames
  refine ⟨used, left, hreplies, fun r' hr' => ?_⟩
  dsimp only
  rw [hother r' hr', goOn_of_reached hpos hreach, ht.comes]
  exact ⟨rfl, s.nextPage_map r' _⟩

end CatalogSource

/-! ### Listings -/

/-- The page that reaches the bound of a listing can have any other continuation, or none. A catalog
then gets the same requests. It is listed with the same names if the link can be followed, although
it is not, and otherwise the listing fails with the target of the link. A managed registry gets the
same calls and is listed with the same names, whatever the token is. -/
theorem retrieve_last_page {files : Files} {config : RegistryConfig} {s : CatalogSource}
    (hs : CatalogSource.create files config = .ok s) {bound : Nat} (hpos : 0 < bound)
    (n : Network) :
    (∃ first, ∃ t : s.pager.Trail bound first n, CatalogSource.GoesAlong t ∧
      ∀ r names, (s.request (t.key t.last) (t.before t.last)).1 = .ok r →
        r.isSuccess = true → CatalogSource.Lists r "repositories" names →
        bound ≤ (t.page.names t.last ++ names).length →
          s.LinkIdle bound n r (t.page.names t.last ++ names)) ∧
    ∀ (c : EcrConfig) (e e₁ : EcrState) (script : List (Except String Page)),
      c.ensureHandle e = (.ok (), e₁) → e₁.service.holdings = .pages script →
        ∃ t : c.pager.Trail bound none e₁, c.GoesAlong e t ∧
          ∀ page : Page, t.page t.last = .ok (page.names, page.nextToken.map some) →
            bound ≤ (t.page.names t.last ++ page.names).length →
              c.TokenIdle bound e script page (t.page.names t.last ++ page.names) := by
  constructor
  · obtain ⟨first, t, ht⟩ := CatalogSource.exists_trail hs bound n
    exact ⟨first, t, ht, fun _ _ => CatalogSource.linkIdle_of_reached t ht hpos⟩
  · intro c e e₁ script hhandle hscript
    obtain ⟨t, ht⟩ := EcrConfig.exists_trail hhandle hscript bound
    exact ⟨t, ht, fun _ => EcrConfig.tokenIdle_of_reached t ht hhandle hscript hpos⟩

/-- A catalog and a managed registry of which one name is asked for. It is on the first page, which
leads to another one. -/
theorem retrieve_last_page_first :
    let config : RegistryConfig := { url := "http://registry.test" }
    let s : CatalogSource := ⟨config, ⟨"http".toList,
      some ⟨[], [], .name "registry.test".toList, none⟩, .segments [[]], none, none⟩⟩
    let first : Url := ⟨"http".toList, some ⟨[], [], .name "registry.test".toList, none⟩,
      .segments ["v2".toList, "_catalog".toList], some "n=100".toList, none⟩
    let r : Response := {
      headers := [("Link", "</v2/_catalog?last=a>; rel=next")]
      body := Text.utf8 "\x7b\"repositories\": [\"a\"]\x7d".toList }
    let n : Network := ⟨["http".toList], [.answered r, .silent], []⟩
    let c : EcrConfig := ⟨"registry", "region", "account", 100⟩
    let page : Page := ⟨["a"], some "t"⟩
    let e : EcrState := ⟨true, ⟨[], [], .pages [.ok page, .error "gone"], []⟩⟩
    (CatalogSource.create (fun _ => .error .absent) config = .ok s ∧ 0 < 1 ∧
      (s.request first n).1 = .ok r ∧ r.isSuccess = true ∧
      CatalogSource.Lists r "repositories" ["a"] ∧ s.LinkIdle 1 n r ["a"]) ∧
    c.ensureHandle e = (.ok (), e) ∧
      c.TokenIdle 1 e [.ok page, .error "gone"] page ["a"] := by
  intro config s first r n c page e
  have hs : CatalogSource.create (fun _ => .error .absent) config = .ok s :=
    eq_ok_of_toOption (by decide +kernel)
  have hrequest : (s.request first n).1 = .ok r := eq_ok_of_toOption (by decide +kernel)
  have hsuccess : r.isSuccess = true := by decide
  have hnames : CatalogSource.Lists r "repositories" ["a"] :=
    (@CatalogSource.readNames_eq_ok_iff r "a page" _ _).1 (eq_ok_of_toOption (by decide +kernel))
  obtain ⟨hcatalog, hmanaged⟩ := retrieve_last_page hs (show 0 < 1 by decide) n
  refine ⟨⟨hs, by decide, hrequest, hsuccess, hnames, ?_⟩, rfl, ?_⟩
  · obtain ⟨first', t, ht, hother⟩ := hcatalog
    obtain rfl : first = first' :=
      Except.ok.inj ((eq_ok_of_toOption (by decide +kernel)).symm.trans ht.opens)
    have hpage : (s.pager first n).1 =
        .ok (["a"], some { first with query := some "last=a".toList }) :=
      eq_ok_of_toOption (by decide +kernel)
    -- The first page has the name that is asked for, so the trail is this page alone.
    have hlast := t.last_eq_zero (by decide) hpage (Nat.le_refl 1)
    rw [hlast, t.key_zero, t.before_zero] at hother
    exact hother r ["a"] hrequest hsuccess hnames (Nat.le_refl 1)
  · obtain ⟨t, -, hother⟩ := hmanaged c e e _ rfl rfl
    have hpage : (c.pager none e).1 = .ok (page.names, page.nextToken.map some) := rfl
    have hlast := t.last_eq_zero (by decide) hpage (Nat.le_refl 1)
    rw [hlast, t.page_zero, hpage] at hother
    exact hother page rfl (Nat.le_refl 1)

/-- The page that reaches the bound has a link that leads nowhere. The listing fails, and without
the link it has the name that it asks for. -/
theorem unused_link_unresolved :
    let config : RegistryConfig := { url := "http://registry.test" }
    let s : CatalogSource := ⟨config, ⟨"http".toList,
      some ⟨[], [], .name "registry.test".toList, none⟩, .segments [[]], none, none⟩⟩
    let r : Response := { body := Text.utf8 "\x7b\"repositories\": [\"a\"]\x7d".toList }
    let r' : Response := { r with headers := [("Link", "<http://[>; rel=\"next\"")] }
    let listing := fun r : Response => s.retrieve 1 ⟨["http".toList], [.answered r], []⟩
    let message := fun outcome : Except RegistryError (List String) =>
      match outcome with
      | .ok _ => none
      | .error e => some e.message
    (CatalogSource.create (fun _ => .error .absent) config).toOption = some s ∧
      Response.SameBut "link" r r' ∧ (listing r).1.toOption = some ["a"] ∧
      (listing r').1.toOption = none ∧
      message (listing r').1 = some "Invalid URL: http://registry.test/http://[" ∧
      (listing r).2.requests = (listing r').2.requests ∧
      (listing r').2.requests.map (·.url.render) = ["http://registry.test/v2/_catalog?n=100"] := by
  intro config s r r' listing message
  refine ⟨?_, ⟨rfl, rfl, rfl, rfl⟩, ?_, ?_, ?_, ?_, ?_⟩
  · decide +kernel
  · decide +kernel
  · decide +kernel
  · decide +kernel
  · decide +kernel
  · decide +kernel

end ImageSync
