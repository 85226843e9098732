import ImageSync.Proofs.Json.Field
import ImageSync.Proofs.Registry.Pagers

/-!
# `ImageSync.Proofs.Registry.CatalogPaging`: the pages of a catalog

A listing of a catalog requests one URL after the other. `Fetched` says what becomes of such a
request: the page that it comes to, and the network after it. A page is bad in five ways. Two
of them come before an answer, namely that there is no header for the credentials and that the
request fails; the others are ways to read an answer (`Reads`): its status is none of success,
its link leads nowhere, and its body lists no repositories (`Lists`).

`Course` is the course of a listing in these terms, up to the first page that it stops at, and
`Course.Taken` says what a listing comes to that takes it. The network is then the one after its
last page, and of the caller's requests, those for the pages are on record and no other. The main
statement is `retrieve_course`: every listing of a catalog takes a course, and so comes to an end.

The relations are exact: `fetched_iff` says that a fetch does nothing else. `Course` is then the
loop of `PageLoop`, whose fetches that lead on use up a reply each (`replies_pager_lt`).
-/

set_option autoImplicit false

namespace ImageSync

open Http (Network Request Response)

namespace CatalogSource

/-! ### Answers -/

/-- The body of an answer is a record, with this value for a field if it has one. -/
def HasField (r : Response) (field : String) (value : Option Json.Value) : Prop :=
  ∃ text, r.content?.bind Text.decodeUtf8? = some text ∧
    (Json.readDocument text).trailing = none ∧
    Json.FieldOf field (Json.readDocument text).value value

/-- An answer lists names under a field. No field and a null are an empty list. -/
inductive Lists (r : Response) (field : String) : List String → Prop where
  | absent (h : HasField r field none) : Lists r field []
  | null (h : HasField r field (some .null)) : Lists r field []
  | names {names : List String}
      (h : HasField r field (some (.array (names.map fun name => .text (.ok name)) none))) :
      Lists r field names

/-- An answer names the URL of the next page, or none that is of use. -/
inductive LeadsTo (s : CatalogSource) (r : Response) : Option Url → Prop where
  | nowhere (h : (r.plainHeader? "link").bind nextLink? = none) : LeadsTo s r none
  | next {target : List Char} {url : Url}
      (h : (r.plainHeader? "link").bind nextLink? = some target)
      (hurl : s.endpoint target = .ok url) : LeadsTo s r (some url)

/-- What an answer comes to as a page: its names and the URL of the next one, or what is wrong
with it. -/
inductive Reads (s : CatalogSource) (r : Response) :
    Except RegistryError (List String × Option Url) → Prop where
  | refused (h : r.isSuccess = false) : Reads s r (.error (.httpError r.status r.text))
  | lost {target : List Char} {e : RegistryError} (h : r.isSuccess = true)
      (hlink : (r.plainHeader? "link").bind nextLink? = some target)
      (hurl : s.endpoint target = .error e) : Reads s r (.error e)
  | malformed {next : Option Url} (h : r.isSuccess = true) (hlink : s.LeadsTo r next)
      (hbody : ∀ names, ¬Lists r "repositories" names) : Reads s r (.error .malformedResponse)
  | page {names : List String} {next : Option Url} (h : r.isSuccess = true)
      (hlink : s.LeadsTo r next) (hbody : Lists r "repositories" names) :
      Reads s r (.ok (names, next))

/-- What becomes of the request for a page: what it comes to, and the network after it. -/
inductive Fetched (s : CatalogSource) (url : Url) (n : Network) :
    Except RegistryError (List String × Option Url) → Network → Prop where
  | unsent {e : RegistryError} (hcredentials : s.credentialsFor url = .error e) :
      Fetched s url n (.error e) n
  | unanswered {a : Option String} {fault : Http.SendFault}
      (hcredentials : s.credentialsFor url = .ok a)
      (hsend : (Http.send s.config.client url a n).1 = .error fault) :
      Fetched s url n (.error (.ofSendFault fault)) (Http.send s.config.client url a n).2
  | answered {a : Option String} {r : Response}
      {page : Except RegistryError (List String × Option Url)}
      (hcredentials : s.credentialsFor url = .ok a)
      (hsend : (Http.send s.config.client url a n).1 = .ok r) (hpage : s.Reads r page) :
      Fetched s url n page (Http.send s.config.client url a n).2

/-! ### What the answers are read as -/

section Answers

variable {s : CatalogSource} {r : Response}

/-- The only field of a list of names. -/
def namesField (field : String) : Json.RecordField (List String) where
  name := field
  read := fun v _ => (Json.readOptionalStrings v).map (·.getD [])

/-- Names are read from an array of strings, or there are none for a null. -/
theorem names_eq_ok_iff {v : Json.Value} {names : List String} :
    (Json.readOptionalStrings v).map (·.getD []) = .ok names ↔
      v = .null ∧ names = [] ∨ v = .array (names.map fun name => .text (.ok name)) none := by
  rw [← Json.readStrings_eq_ok_iff]
  cases v with
  | null =>
    have hstrings : Json.readStrings .null ≠ .ok names := Json.unexpected_ne_ok
    simp [Json.readOptionalStrings, Except.map, hstrings, eq_comm]
  | _ =>
    rw [Json.readOptionalStrings]
    · cases Json.readStrings _ <;> simp [Except.map]
    · nofun

/-- Whatever is wrong with a body, the error is the same. -/
theorem readNames_eq (record field : String) (r : Response) :
    readNames record field r =
      match r.content?.bind Text.decodeUtf8? with
      | none => .error .malformedResponse
      | some text =>
        match Json.readRecord record [namesField field] [] text with
        | .ok names => .ok names
        | .error _ => .error .malformedResponse := by
  rw [readNames]
  cases r.content?.bind Text.decodeUtf8? with
  | none => rfl
  | some text =>
    dsimp only
    change (Json.readRecord record [namesField field] [] text).mapError _ = _
    cases Json.readRecord record [namesField field] [] text with
    | error e => rfl
    | ok names => rfl

/-- An answer is read as the names that it lists, and as no others. -/
theorem readNames_eq_ok_iff {record field : String} {names : List String} :
    readNames record field r = .ok names ↔ Lists r field names := by
  rw [readNames_eq]
  constructor
  · intro hread
    split at hread
    · cases hread
    · next text hbody =>
      split at hread
      · next names' hrecord =>
        cases hread
        obtain ⟨htrailing, ⟨hfield, rfl⟩ | ⟨v, hfield, hv⟩⟩ := Json.readRecord_eq_ok_iff.1 hrecord
        · exact .absent ⟨text, hbody, htrailing, hfield⟩
        · obtain ⟨rfl, rfl⟩ | rfl := names_eq_ok_iff.1 hv
          · exact .null ⟨text, hbody, htrailing, hfield⟩
          · exact .names ⟨text, hbody, htrailing, hfield⟩
      · cases hread
  · intro hlists
    -- In each case the field has a value that is read as these names, or none.
    have hfield : ∃ value, HasField r field value ∧
        (value = none ∧ names = [] ∨
          ∃ v, value = some v ∧ (namesField field).read v [] = .ok names) := by
      cases hlists with
      | absent h => exact ⟨_, h, .inl ⟨rfl, rfl⟩⟩
      | null h => exact ⟨_, h, .inr ⟨_, rfl, rfl⟩⟩
      | names h => exact ⟨_, h, .inr ⟨_, rfl, names_eq_ok_iff.2 (.inr rfl)⟩⟩
    obtain ⟨value, ⟨text, hbody, htrailing, hvalue⟩, hnames⟩ := hfield
    have hrecord : Json.readRecord record [namesField field] [] text = .ok names := by
      refine Json.readRecord_eq_ok_iff.2 ⟨htrailing, ?_⟩
      rcases hnames with ⟨rfl, rfl⟩ | ⟨v, rfl, hv⟩
      · exact .inl ⟨hvalue, rfl⟩
      · exact .inr ⟨v, hvalue, hv⟩
    rw [hbody]
    dsimp only
    rw [hrecord]

/-- A body lists names, or it is malformed. -/
theorem readNames_cases (record field : String) (r : Response) :
    (∃ names, Lists r field names ∧ readNames record field r = .ok names) ∨
      (∀ names, ¬Lists r field names) ∧ readNames record field r = .error .malformedResponse := by
  cases hread : readNames record field r with
  | ok names => exact .inl ⟨names, readNames_eq_ok_iff.1 hread, rfl⟩
  | error e =>
    refine .inr ⟨fun names hlists => ?_, ?_⟩
    · rw [readNames_eq_ok_iff.2 hlists] at hread
      cases hread
    · rw [readNames_eq] at hread
      split at hread
      · exact hread.symm
      · split at hread
        · cases hread
        · exact hread.symm

/-- Where an answer leads to is where the next page is looked for. -/
theorem nextPage_eq_ok_iff {next : Option Url} :
    s.nextPage r = .ok next ↔ s.LeadsTo r next := by
  rw [nextPage]
  constructor
  · intro hnext
    split at hnext
    · next hlink =>
      cases hnext
      exact .nowhere hlink
    · next target hlink =>
      cases hurl : s.endpoint target with
      | ok url =>
        rw [hurl] at hnext
        cases hnext
        exact .next hlink hurl
      | error e =>
        rw [hurl] at hnext
        cases hnext
  · intro hleads
    cases hleads with
    | nowhere hlink => rw [hlink]
    | next hlink hurl =>
      rw [hlink]
      dsimp only
      rw [hurl]
      rfl

/-- A page without a place to go on from has a link that cannot be resolved. -/
theorem nextPage_eq_error_iff {e : RegistryError} :
    s.nextPage r = .error e ↔
      ∃ target, (r.plainHeader? "link").bind nextLink? = some target ∧
        s.endpoint target = .error e := by
  rw [nextPage]
  cases (r.plainHeader? "link").bind nextLink? with
  | none => simp
  | some target =>
    simp only [Option.some.injEq, exists_eq_left']
    cases s.endpoint target <;> simp [Except.map]

/-- An answer is looked at in order: its status, its link, its body. -/
theorem readPage_eq (s : CatalogSource) (r : Response) :
    s.readPage r =
      if r.isSuccess then
        match s.nextPage r with
        | .error e => .error e
        | .ok next =>
          match readNames "a page of the catalog" "repositories" r with
          | .error e => .error e
          | .ok names => .ok ⟨names, next⟩
      else .error (.httpError r.status r.text) := by
  rw [readPage]
  cases r.isSuccess with
  | false => rfl
  | true =>
    show (s.nextPage r >>= fun next => _) = _
    cases s.nextPage r with
    | error e => rfl
    | ok next =>
      show (readNames "a page of the catalog" "repositories" r >>= fun names => _) = _
      cases readNames "a page of the catalog" "repositories" r with
      | error e => rfl
      | ok names => rfl

/-- There is one thing that an answer is read as. -/
theorem reads_iff {page : Except RegistryError (List String × Option Url)} :
    s.Reads r page ↔ (s.readPage r).map (fun p => (p.names, p.next)) = page := by
  rw [readPage_eq]
  constructor
  · intro hreads
    cases hreads with
    | refused h =>
      rw [h]
      rfl
    | lost h hlink hurl =>
      rw [h, nextPage_eq_error_iff.2 ⟨_, hlink, hurl⟩]
      rfl
    | malformed h hlink hbody =>
      rw [h, nextPage_eq_ok_iff.2 hlink]
      -- The link was fine, so the outcome is up to the names.
      rcases readNames_cases "a page of the catalog" "repositories" r with
        ⟨names, hlists, -⟩ | ⟨-, hread⟩
      · exact absurd hlists (hbody names)
      · rw [hread]
        rfl
    | page h hlink hbody =>
      rw [h, nextPage_eq_ok_iff.2 hlink, readNames_eq_ok_iff.2 hbody]
      rfl
  · rintro rfl
    cases hsuccess : r.isSuccess with
    | false => exact .refused hsuccess
    | true =>
      cases hnext : s.nextPage r with
      | error e =>
        obtain ⟨target, hlink, hurl⟩ := nextPage_eq_error_iff.1 hnext
        exact .lost hsuccess hlink hurl
      | ok next =>
        have hlink := nextPage_eq_ok_iff.1 hnext
        rcases readNames_cases "a page of the catalog" "repositories" r with
          ⟨names, hlists, hread⟩ | ⟨hbody, hread⟩
        · rw [hread]
          exact .page hsuccess hlink hlists
        · rw [hread]
          exact .malformed hsuccess hlink hbody

end Answers

/-! ### What a fetch does -/

section Fetch

variable {s : CatalogSource} {url : Url} {n n' : Network}
  {page : Except RegistryError (List String × Option Url)}

/-- A fetch does what `Fetched` says, and nothing else. -/
theorem fetched_iff : s.Fetched url n page n' ↔ s.pager url n = (page, n') := by
  rw [pager, request_apply]
  constructor
  · intro hfetched
    cases hfetched with
    | unsent hcredentials => rw [hcredentials]
    | unanswered hcredentials hsend =>
      rw [hcredentials]
      dsimp only
      rw [hsend]
      rfl
    | answered hcredentials hsend hpage =>
      rw [hcredentials]
      dsimp only
      rw [hsend, ← reads_iff.1 hpage]
      rfl
  · intro hpager
    -- A call can fail for the credentials, then for the network, and only then there is an answer
    -- to read.
    cases hcredentials : s.credentialsFor url with
    | error e =>
      rw [hcredentials] at hpager
      cases hpager
      exact .unsent hcredentials
    | ok a =>
      rw [hcredentials] at hpager
      dsimp only at hpager
      cases hsend : (Http.send s.config.client url a n).1 with
      | error fault =>
        rw [hsend] at hpager
        cases hpager
        exact .unanswered hcredentials hsend
      | ok r =>
        rw [hsend] at hpager
        cases hpager
        exact .answered hcredentials hsend (reads_iff.2 rfl)

/-- A fetch changes the network by the call of the client, if there is one. -/
theorem Fetched.after_eq (h : s.Fetched url n page n') :
    n' =
      match s.credentialsFor url with
      | .ok a => (Http.send s.config.client url a n).2
      | .error _ => n := by
  cases h with
  | unsent hcredentials => rw [hcredentials]
  | unanswered hcredentials hsend => rw [hcredentials]
  | answered hcredentials hsend hpage => rw [hcredentials]

/-- A fetch that comes to a page uses up a reply. -/
theorem replies_pager_lt {names : List String} {next : Option Url}
    (h : (s.pager url n).1 = .ok (names, next)) :
    (s.pager url n).2.replies.length < n.replies.length := by
  have hfetched : s.Fetched url n (.ok (names, next)) (s.pager url n).2 :=
    fetched_iff.2 (Prod.ext h rfl)
  generalize (s.pager url n).2 = n' at hfetched
  cases hfetched with
  | answered hcredentials hsend hpage =>
    cases hpage with
    | page hsuccess hlink hbody => exact Http.replies_send_lt hsend hsuccess

/-- It also goes on record. -/
theorem requests_pager_lt {names : List String} {next : Option Url}
    (h : (s.pager url n).1 = .ok (names, next)) :
    n.requests.length < (s.pager url n).2.requests.length := by
  have hfetched : s.Fetched url n (.ok (names, next)) (s.pager url n).2 :=
    fetched_iff.2 (Prod.ext h rfl)
  generalize (s.pager url n).2 = n' at hfetched
  cases hfetched with
  | answered hcredentials hsend hpage => exact Http.requests_send_lt hsend

end Fetch

/-! ### The course of a listing -/

/-- The course of a listing: its pages in order, up to the one that it stops at. -/
structure Course (s : CatalogSource) (bound : Nat) (n : Network) where
  /-- The URLs of the pages. -/
  url : Nat → Url
  /-- The network before the fetch of a page. -/
  before : Nat → Network
  page : Pages RegistryError Url
  /-- The page that the listing stops at. -/
  last : Nat
  /-- The first page is the catalog of the registry, asked for with the size of a page. -/
  opens : ∃ catalog, s.endpoint "v2/_catalog".toList = .ok catalog ∧
    url 0 = { catalog with query := some ("n=" ++ toString s.config.pageSize).toList }
  before_zero : before 0 = n
  /-- What the requests come to. -/
  fetched : ∀ i ≤ last, s.Fetched (url i) (before i) (page i) (before (i + 1))
  /-- A page leads to the next one. -/
  leads : ∀ i < last, ∃ names, page i = .ok (names, some (url (i + 1)))
  /-- The listing stops at the first page that is bad, or that no other is after, or that
  reaches the bound. -/
  isLast : page.Last bound last

namespace Course

variable {s : CatalogSource} {bound : Nat} {n : Network}

/-- How many requests a listing makes of the client: one for each page, unless there is no
header for the credentials of the last one. -/
def count (c : s.Course bound n) : Nat :=
  match s.credentialsFor (c.url c.last) with
  | .ok _ => c.last + 1
  | .error _ => c.last

/-- The request for a page as it goes on record, if the client can make it. -/
def asked (c : s.Course bound n) (i : Nat) : List Request :=
  match s.credentialsFor (c.url i) with
  | .ok a => Http.called s.config.client (c.url i) a (c.before i)
  | .error _ => []

/-- There is at most one request of its own for each page. -/
theorem count_le (c : s.Course bound n) : c.count ≤ c.last + 1 := by
  rw [count]
  split
  · exact Nat.le_refl _
  · exact Nat.le_succ _

/-- A page before the last is an answer to the one request for it. -/
theorem answered (c : s.Course bound n) {i : Nat} (hi : i < c.last) :
    (∃ a, s.credentialsFor (c.url i) = .ok a) ∧ (c.asked i).length = 1 := by
  obtain ⟨names, hpage⟩ := c.leads i hi
  have hfetched := c.fetched i (Nat.le_of_lt hi)
  rw [hpage] at hfetched
  generalize c.before (i + 1) = after at hfetched
  cases hfetched with
  | answered hcredentials hsend hreads =>
    refine ⟨⟨_, hcredentials⟩, ?_⟩
    rw [Http.send_eq] at hsend
    rw [asked, hcredentials]
    dsimp only
    rw [Http.called, Http.exchanged, Http.reaches_of_follow hsend]
    rfl

/-- The client is called for one page after the other, with the credentials for its URL. -/
theorem sent (c : s.Course bound n) {i : Nat} (hi : i < c.count) :
    ∃ a, s.credentialsFor (c.url i) = .ok a ∧
      c.before (i + 1) = (Http.send s.config.client (c.url i) a (c.before i)).2 := by
  have hle : i ≤ c.last := Nat.le_of_lt_succ (Nat.lt_of_lt_of_le hi c.count_le)
  have hcredentials : ∃ a, s.credentialsFor (c.url i) = .ok a := by
    rcases Nat.eq_or_lt_of_le hle with rfl | hlt
    · rw [count] at hi
      split at hi
      · next a ha => exact ⟨a, ha⟩
      · exact absurd hi (Nat.lt_irrefl _)
    · exact (c.answered hlt).1
  obtain ⟨a, ha⟩ := hcredentials
  have hafter := (c.fetched i hle).after_eq
  rw [ha] at hafter
  exact ⟨a, ha, hafter⟩

/-- After the last call the network stays as it is. -/
theorem before_succ_last (c : s.Course bound n) : c.before (c.last + 1) = c.before c.count := by
  have hafter := (c.fetched c.last (Nat.le_refl _)).after_eq
  rw [count]
  split at hafter
  · rfl
  · exact hafter

/-- Of the caller's requests, those for the pages are on record. -/
theorem own_before (c : s.Course bound n) {i : Nat} (hi : i ≤ c.last + 1) :
    (c.before i).own = n.own ++ (List.range i).flatMap c.asked := by
  induction i with
  | zero => simp [c.before_zero]
  | succ i ih =>
    have hle := Nat.le_of_succ_le_succ hi
    have hown : (c.before (i + 1)).own = (c.before i).own ++ c.asked i := by
      rw [(c.fetched i hle).after_eq, asked]
      cases s.credentialsFor (c.url i) with
      | ok a => exact Http.own_send s.config.client (c.url i) a (c.before i)
      | error e => exact (List.append_nil _).symm
    rw [hown, ih (Nat.le_succ_of_le hle), List.range_succ, List.flatMap_append,
      List.flatMap_singleton, List.append_assoc]

/-- A listing takes a course. -/
structure Taken (c : s.Course bound n) : Prop where
  /-- It comes to its end with the last page: to the names of all pages in order, or to the error
  of the last one if that is bad. -/
  comes : s.retrieve bound n = (c.page.outcome c.last, c.before c.count)
  /-- It calls the client for one page after the other, with the credentials for its URL. -/
  sends : ∀ i < c.count, ∃ a, s.credentialsFor (c.url i) = .ok a ∧
    c.before (i + 1) = (Http.send s.config.client (c.url i) a (c.before i)).2
  /-- Of the caller's requests, those for the pages are on record and no other. -/
  own : (c.before c.count).own = n.own ++ (List.range c.count).flatMap c.asked
  /-- Each page before the last has taken one. -/
  one : ∀ i < c.last, (c.asked i).length = 1

end Course

section Run

variable {files : Files} {config : RegistryConfig} {s : CatalogSource}

/-- A source keeps its configuration, and starts from the base URL of that. -/
theorem of_create (hs : create files config = .ok s) :
    s.config = config ∧ config.baseUrl = .ok s.base := by
  unfold create at hs
  cases hbase : config.baseUrl with
  | error e =>
    rw [hbase] at hs
    cases hs
  | ok base =>
    rw [hbase] at hs
    dsimp only [bind, Except.bind] at hs
    -- The certificate and the user agent are looked at, but not changed.
    have hbuilt : s = ⟨config, base⟩ := by
      split at hs
      · split at hs
        · cases hs
        · split at hs
          · cases hs
          · cases hs
            rfl
      · split at hs
        · cases hs
        · cases hs
          rfl
    rw [hbuilt]
    exact ⟨rfl, rfl⟩

/-- A plain path always leads somewhere. -/
theorem exists_endpoint (hs : create files config = .ok s) {text : List Char} {c : Char}
    {rest : List Char} (hread : Url.Reference.read text = ⟨none, c :: rest, none, none⟩)
    (hslash : Url.Reference.isSlash c = false) : ∃ url, s.endpoint text = .ok url := by
  obtain ⟨url, hurl⟩ := Option.isSome_iff_exists.1 (Url.join?_isSome_of_hasSegments
    (RegistryConfig.baseUrl_hasSegments (of_create hs).2) hread hslash)
  exact ⟨url, by rw [endpoint, hurl]⟩

/-- The first page of a catalog always has a URL. -/
theorem exists_firstPage (hs : create files config = .ok s) :
    ∃ catalog, s.endpoint "v2/_catalog".toList = .ok catalog ∧
      s.firstPage =
        .ok { catalog with query := some ("n=" ++ toString s.config.pageSize).toList } := by
  have hread : Url.Reference.read "v2/_catalog".toList =
      ⟨none, "v2/_catalog".toList, none, none⟩ := by decide
  obtain ⟨catalog, hcatalog⟩ := exists_endpoint hs hread rfl
  refine ⟨catalog, hcatalog, ?_⟩
  rw [firstPage, hcatalog]
  rfl

/-- Every listing takes a course: it comes to what the pages up to the last one come to, and asks
for these pages, one after the other, and for nothing else. -/
theorem retrieve_course (hs : create files config = .ok s) (bound : Nat) (n : Network) :
    ∃ c : s.Course bound n, c.Taken := by
  obtain ⟨catalog, hcatalog, hfirst⟩ := exists_firstPage hs
  generalize hopens : { catalog with
    query := some ("n=" ++ toString s.config.pageSize).toList } = first at hfirst
  -- Each page that leads on uses up a reply, so there is a last one.
  obtain ⟨last, hle, hlast⟩ := s.pager.exists_last first n bound (fun n => n.replies.length)
    fun url n names next h => replies_pager_lt h
  let c : s.Course bound n := {
    url := fun i => (s.pager.stage first n i).1
    before := fun i => (s.pager.stage first n i).2
    page := s.pager.pages first n
    last
    opens := ⟨catalog, hcatalog, hopens.symm⟩
    before_zero := rfl
    fetched := fun i _ => fetched_iff.2 (s.pager.fetch_stage first n i)
    leads := fun i hi => by
      obtain ⟨names, next, hpage, -⟩ := Pages.not_ends_iff.1 (hlast.goesOn i hi)
      exact ⟨names, by rw [hpage, Pager.stage_succ_fst hpage]⟩
    isLast := hlast }
  refine ⟨c, ⟨?_, fun i hi => c.sent hi, c.own_before c.count_le, fun i hi => (c.answered hi).2⟩⟩
  rw [← c.before_succ_last, retrieve_apply, hfirst]
  exact Pager.list_eq hlast (Nat.zero_le _) (by omega)

/-- A listing of two pages, of which the second one names no repositories and no next page. -/
theorem retrieve_course_two_pages :
    let config : RegistryConfig := { url := "http://registry.test" }
    let base : Url := ⟨"http".toList, some ⟨[], [], .name "registry.test".toList, none⟩,
      .segments [[]], none, none⟩
    let s : CatalogSource := ⟨config, base⟩
    let n : Network := ⟨["http".toList], [
      .answered {
        headers := [("Link", "</v2/_catalog?last=a>; rel=next")]
        body := Text.utf8 "\x7b\"repositories\": [\"a\"]\x7d".toList },
      .answered { body := Text.utf8 "\x7b\x7d".toList }], []⟩
    create (fun _ => .error .absent) config = .ok s ∧
      (s.retrieve 0 n).1.toOption = some ["a"] ∧
      (s.retrieve 0 n).2.requests.map (·.url.render) =
        ["http://registry.test/v2/_catalog?n=100", "http://registry.test/v2/_catalog?last=a"] ∧
      ∃ c : s.Course 0 n, c.Taken := by
  intro config base s n
  have hs : create (fun _ => .error .absent) config = .ok s :=
    eq_ok_of_toOption (by decide +kernel)
  refine ⟨hs, ?_, ?_, retrieve_course hs 0 n⟩
  · decide +kernel
  · decide +kernel

end Run

end CatalogSource

end ImageSync
