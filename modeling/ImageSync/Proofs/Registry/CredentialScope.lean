import ImageSync.Proofs.Http.Redirect
import ImageSync.Registry.CatalogSource

/-!
# `ImageSync.Proofs.Registry.CredentialScope`: where the credentials of a registry go

Two runs of a session with a catalog are compared that differ only in the credentials
(`CatalogSource.withAuth`). `Scoped` says how far a request of the one run may differ from
that of the other: it carries the credentials if its chain began at the origin of the base
and no redirect changed host or port, and otherwise it is the same in both. `Alike` carries
this through the actions of a session: the two runs get the same answers, and so make the
same requests but for the credentials.

The step is `alike_follow`, by induction over the redirects that are left. Its invariant is
`Carried`: credentials that differ are still held by the client. From it come the operations,
one after the other, and the main statement `session_scoped`: the requests of the two runs pair up
(`Paired`), and each pair is `Scoped`.

A foreign origin gets the credentials only by redirects that change nothing but the scheme
(`Scoped.foreign`). That happens: the client compares hosts and ports, not origins, so that a
redirect from `https` to `http` at a port that is written out keeps the credentials
(`redirect_to_other_scheme`).
-/

set_option autoImplicit false

namespace ImageSync

open Http (Network Request Response Reply SendFault)

namespace CatalogSource

/-! ### Sessions -/

/-- An operation of a session. -/
inductive Operation where
  | retrieve (bound : Nat)
  | ping
  | listTags (repository : String)
  deriving DecidableEq, Repr

/-- Performs an operation. A probe that succeeds lists nothing. -/
def perform (s : CatalogSource) : Operation → CatalogM (List String)
  | .retrieve bound => s.retrieve bound
  | .ping => do
    s.ping
    return []
  | .listTags repository => s.listTags repository

/-- Performs operations one after the other, whether those before succeed or not. -/
def session (s : CatalogSource) :
    List Operation → StateM Network (List (Except RegistryError (List String)))
  | [] => return []
  | op :: ops => do
    let outcome ← (s.perform op).run
    return outcome :: (← s.session ops)

/-- The source with other credentials. -/
def withAuth (s : CatalogSource) (auth : Credentials) : CatalogSource :=
  { s with config := { s.config with auth } }

/-- Where a target leads does not depend on the credentials. -/
theorem endpoint_withAuth (s : CatalogSource) (auth : Credentials) (target : List Char) :
    (s.withAuth auth).endpoint target = s.endpoint target := rfl

/-! ### The relation between two runs -/

/-- How far a request of a source may differ from that of the same source with other
credentials. -/
structure Scoped (s : CatalogSource) (r r' : Request) : Prop where
  /-- They differ in nothing but the credentials. -/
  same : { r with authorization := r'.authorization } = r'
  /-- They do not even differ in these once a chain has left the place where it began, or if
  it began at a foreign origin. -/
  dropped : Http.stillHolds s.base r.via r.url = false → r = r'
  /-- Otherwise the credentials are those of the source. -/
  kept : Http.stillHolds s.base r.via r.url = true → s.config.auth ≠ .anonymous →
    r.authorization = s.config.auth.headerValue

namespace Scoped

variable {s : CatalogSource} {r r' : Request}

/-- A request to a foreign origin is the same in both runs, unless redirects led there from
the origin of the base that changed neither host nor port. -/
theorem foreign (h : s.Scoped r r') (hforeign : r.url.sameOrigin s.base = false) :
    r = r' ∨ r.via ≠ [] ∧ Http.samePlace s.base r.url = true := by
  cases hholds : Http.stillHolds s.base r.via r.url with
  | false => exact .inl (h.dropped hholds)
  | true =>
    refine .inr ⟨fun hvia => ?_, Http.samePlace_of_stillHolds hholds⟩
    rw [hvia, Http.stillHolds_nil, hforeign] at hholds
    cases hholds

/-- What the source itself asks of the origin of the base carries its credentials. -/
theorem own (h : s.Scoped r r') (hvia : r.via = []) (hsame : r.url.sameOrigin s.base = true)
    (hauth : s.config.auth ≠ .anonymous) : r.authorization = s.config.auth.headerValue :=
  h.kept (by rw [hvia, Http.stillHolds_nil, hsame]) hauth

end Scoped

/-- Two requests at the same place of the two runs. -/
structure Paired (s : CatalogSource) (r r' : Request) : Prop where
  /-- They differ as far as they may. -/
  differ : s.Scoped r r'
  /-- To a foreign origin they only differ behind redirects from the origin of the base that changed
  neither host nor port. -/
  foreign : r.url.sameOrigin s.base = false →
    r = r' ∨ r.via ≠ [] ∧ Http.samePlace s.base r.url = true
  /-- What the source itself asks of the origin of the base carries its credentials. -/
  own : r.via = [] → r.url.sameOrigin s.base = true → s.config.auth ≠ .anonymous →
    r.authorization = s.config.auth.headerValue

/-- Two networks that only the credentials in the requests tell apart. -/
structure Alike (s : CatalogSource) (n n' : Network) : Prop where
  connects : n.connects = n'.connects
  replies : n.replies = n'.replies
  count : n.requests.length = n'.requests.length
  requests : ∀ p ∈ n.requests.zip n'.requests, s.Scoped p.1 p.2

/-- Two actions with the same outcome, on networks that stay alike. -/
def AlikeActs (s : CatalogSource) {α : Type} (x x' : StateM Network α) : Prop :=
  ∀ n n', s.Alike n n' → (x n).1 = (x' n').1 ∧ s.Alike (x n).2 (x' n').2

variable {s : CatalogSource}

namespace AlikeActs

variable {α β : Type}

/-- Doing nothing is alike. -/
theorem pure (a : α) : s.AlikeActs (pure a) (pure a) := fun _ _ h => ⟨rfl, h⟩

/-- Actions in a row are alike if each of them is. -/
theorem bind {x x' : StateM Network α} {k k' : α → StateM Network β} (hx : s.AlikeActs x x')
    (hk : ∀ a, s.AlikeActs (k a) (k' a)) : s.AlikeActs (x >>= k) (x' >>= k') := by
  intro n n' h
  obtain ⟨heq, halike⟩ := hx n n' h
  rw [Http.bind_apply, Http.bind_apply, heq]
  exact hk _ _ _ halike

/-- Operations one after the other. -/
theorem bindM {x x' : CatalogM α} {k k' : α → CatalogM β} (hx : s.AlikeActs x.run x'.run)
    (hk : ∀ a, s.AlikeActs (k a).run (k' a).run) :
    s.AlikeActs (x >>= k).run (x' >>= k').run := by
  rw [ExceptT.run_bind, ExceptT.run_bind]
  refine hx.bind fun outcome => ?_
  cases outcome with
  | error e => exact .pure _
  | ok a => exact hk a

/-- A result that does not look at the network. -/
theorem ofExcept (r : Except RegistryError α) :
    s.AlikeActs (CatalogM.ofExcept r).run (CatalogM.ofExcept r).run := .pure r

end AlikeActs

/-! ### Requests -/

/-- The credentials of the two runs on their way to a URL, to which the redirects of other
URLs led. -/
structure Carried (s : CatalogSource) (via : List Url) (url : Url) (a a' : Option String) :
    Prop where
  /-- If they differ, the client still holds them. -/
  dropped : Http.stillHolds s.base via url = false → a = a'
  /-- If it holds them, they are those of the source. -/
  kept : Http.stillHolds s.base via url = true → s.config.auth ≠ .anonymous →
    a = s.config.auth.headerValue

/-- Carried credentials make requests that differ as far as they may. -/
theorem Carried.scoped {via : List Url} {url : Url} {a a' : Option String}
    (h : s.Carried via url a a') (client : Http.Client) :
    s.Scoped (Http.requestFor client via url a) (Http.requestFor client via url a') where
  same := rfl
  dropped := by
    intro hholds
    have hholds := (Http.stillHolds_requestFor client via s.base url a).symm.trans hholds
    rw [h.dropped hholds]
  kept := by
    intro hholds hauth
    have hholds := (Http.stillHolds_requestFor client via s.base url a).symm.trans hholds
    exact h.kept hholds hauth

/-- On a redirect the credentials stay where they may be, or are lost. -/
theorem Carried.redirected {via : List Url} {url : Url} {a a' : Option String}
    (h : s.Carried via url a a') (next : Url) :
    s.Carried (url :: via) next (Http.keptCredentials url next a)
      (Http.keptCredentials url next a') := by
  cases hplace : Http.samePlace url next with
  | false =>
    rw [Http.keptCredentials_of_elsewhere hplace, Http.keptCredentials_of_elsewhere hplace]
    refine ⟨fun _ => rfl, fun hholds => ?_⟩
    rw [Http.stillHolds_of_elsewhere hplace] at hholds
    cases hholds
  | true =>
    rw [Http.keptCredentials_of_samePlace hplace, Http.keptCredentials_of_samePlace hplace]
    have hholds : Http.stillHolds s.base (url :: via) next = Http.stillHolds s.base via url :=
      Http.stillHolds_redirected hplace
    exact ⟨fun hno => h.dropped (hholds.symm.trans hno),
      fun hyes => h.kept (hholds.symm.trans hyes)⟩

/-- A single request leaves the networks alike. -/
theorem alike_ask {via : List Url} {url : Url} {a a' : Option String}
    (h : s.Carried via url a a') (client : Http.Client) :
    s.AlikeActs (Http.ask client via url a) (Http.ask client via url a') := by
  intro n n' hn
  rw [Http.ask_eq, Http.ask_eq, hn.connects, hn.replies]
  split
  · exact ⟨rfl, hn⟩
  · split
    · exact ⟨rfl, hn⟩
    · -- Both runs take the same reply from the script, and add one request.
      refine ⟨rfl, hn.connects, congrArg (List.drop 1) hn.replies, ?_, ?_⟩
      · simp [Http.exchange, hn.count]
      · intro p hp
        dsimp only [Http.exchange] at hp
        rw [List.zip_append hn.count] at hp
        rcases List.mem_append.1 hp with hp | hp
        · exact hn.requests p hp
        · obtain rfl := List.mem_singleton.1 hp
          exact h.scoped client

/-- A chain of redirects leaves the networks alike. -/
theorem alike_follow {left : Nat} {via : List Url} {url : Url} {a a' : Option String}
    (h : s.Carried via url a a') (client : Http.Client) :
    s.AlikeActs (Http.follow client left via url a) (Http.follow client left via url a') := by
  -- The same answer leads both runs to the same URL, with what they still carry.
  induction left generalizing via url a a' with
  | zero =>
    rw [Http.follow, Http.follow]
    refine (alike_ask h client).bind fun answer => ?_
    split
    · exact .pure _
    · split
      · exact .pure _
      · exact .pure _
  | succ left ih =>
    rw [Http.follow, Http.follow]
    refine (alike_ask h client).bind fun answer => ?_
    split
    · exact .pure _
    · split
      · exact .pure _
      · next next _ => exact ih (h.redirected next)

/-- A request is sent with the credentials for its URL. -/
theorem run_request {url : Url} {a : Option String} (h : s.credentialsFor url = .ok a) :
    (s.request url).run =
      Http.send s.config.client url a >>= fun answer =>
        pure (answer.mapError RegistryError.ofSendFault) := by
  have hlift : ∀ {α : Type} (x : StateM Network α),
      (liftM x : CatalogM α).run = x >>= fun a => pure (.ok a) := fun _ => rfl
  unfold request
  rw [h]
  simp only [CatalogM.ofExcept, ExceptT.run_bind, ExceptT.run_mk, pure_bind, hlift, bind_assoc]
  refine bind_congr fun answer => ?_
  cases answer with
  | error f => rfl
  | ok r => rfl

/-- Credentials come with a header. -/
theorem headerValue_isSome {auth : Credentials} (h : auth ≠ .anonymous) :
    auth.headerValue.isSome = true := by
  cases auth with
  | anonymous => exact absurd rfl h
  | basic username password => rfl
  | bearer token => rfl

/-- A header that can be sent holds the credentials. -/
theorem headerValue_of_header {auth : Credentials} {a : Option String}
    (h : auth.header = .ok a) : a = auth.headerValue := by
  unfold Credentials.header at h
  split at h
  · next hnone =>
    cases h
    exact hnone.symm
  · next v hv =>
    split at h
    · cases h
      exact hv.symm
    · cases h

/-- A request and the redirects after it leave the networks alike. -/
theorem alike_send {url : Url} {a a' : Option String} (h : s.Carried [] url a a')
    (client : Http.Client) :
    s.AlikeActs (Http.send client url a) (Http.send client url a') := by
  unfold Http.send
  split
  · next user _ =>
    have hholds : Http.stillHolds s.base [] url.withoutUser = Http.stillHolds s.base [] url := by
      rw [Http.stillHolds_nil, Http.stillHolds_nil, Url.sameOrigin, Http.origin?_withoutUser,
        Url.sameOrigin]
    refine alike_follow ⟨?_, ?_⟩ client
    · intro hno
      rw [h.dropped (hholds.symm.trans hno)]
    · -- The user that a URL names does not take the place of the credentials.
      intro hyes hauth
      rw [h.kept (hholds.symm.trans hyes) hauth]
      exact Option.or_of_isSome (headerValue_isSome hauth)
  · exact alike_follow h client

section Runs

variable {auth : Credentials} {v v' : Option String}

/-- The source and the source with other credentials carry what they may to a URL. -/
theorem carried_credentialsFor (hv : s.config.auth.header = .ok v) (hv' : auth.header = .ok v')
    (url : Url) :
    ∃ a a', s.credentialsFor url = .ok a ∧ (s.withAuth auth).credentialsFor url = .ok a' ∧
      s.Carried [] url a a' := by
  have hholds := Http.stillHolds_nil s.base url
  cases hsame : url.sameOrigin s.base with
  | true =>
    refine ⟨v, v', ?_, ?_, fun hno => ?_, fun _ _ => headerValue_of_header hv⟩
    · rw [credentialsFor, if_pos hsame, hv]
    · show (if url.sameOrigin s.base then auth.header else .ok none) = .ok v'
      rw [if_pos hsame, hv']
    · rw [hholds, hsame] at hno
      cases hno
  | false =>
    refine ⟨none, none, credentialsFor_of_foreign hsame, credentialsFor_of_foreign hsame,
      fun _ => rfl, fun hyes => ?_⟩
    rw [hholds, hsame] at hyes
    cases hyes

/-- A request is alike, for both headers go to the same hops of it. -/
theorem alike_request (hv : s.config.auth.header = .ok v) (hv' : auth.header = .ok v')
    (url : Url) : s.AlikeActs (s.request url).run ((s.withAuth auth).request url).run := by
  obtain ⟨a, a', ha, ha', hcarried⟩ := carried_credentialsFor hv hv' url
  rw [run_request ha, run_request ha']
  exact (alike_send hcarried s.config.client).bind fun _ => .pure _

/-- The rest of a listing is alike, from any page on. -/
theorem alike_listPages (hv : s.config.auth.header = .ok v) (hv' : auth.header = .ok v')
    (bound fuel : Nat) (url : Url) (names : List String) :
    s.AlikeActs (s.listPages bound fuel url names).run
      ((s.withAuth auth).listPages bound fuel url names).run := by
  -- By induction on the pages that may be asked for.
  induction fuel generalizing url names with
  | zero => exact .pure _
  | succ fuel ih =>
    rw [listPages, listPages]
    refine (alike_request hv hv' url).bindM fun r => ?_
    refine (AlikeActs.ofExcept (s.readPage r)).bindM fun page => ?_
    dsimp only
    split
    · split
      · exact ih _ _
      · exact .pure _
    · exact .pure _

/-- The bound on the pages of a listing is the same in both runs. -/
theorem alike_retrieve (hv : s.config.auth.header = .ok v) (hv' : auth.header = .ok v')
    (bound : Nat) :
    s.AlikeActs (s.retrieve bound).run ((s.withAuth auth).retrieve bound).run := by
  rw [retrieve, retrieve]
  refine (AlikeActs.ofExcept s.firstPage).bindM fun first => ?_
  intro n n' hn
  -- The number of replies to come bounds the pages, and is the same on both networks.
  have hlimit : n.replies.length + 1 = n'.replies.length + 1 := by rw [hn.replies]
  have hpages := alike_listPages hv hv' bound (n.replies.length + 1) first [] n n' hn
  rw [show ((s.withAuth auth).listPages bound (n.replies.length + 1) first []).run n' =
    ((s.withAuth auth).listPages bound (n'.replies.length + 1) first []).run n' by
      rw [hlimit]] at hpages
  exact hpages

/-- A probe is alike. -/
theorem alike_ping (hv : s.config.auth.header = .ok v) (hv' : auth.header = .ok v') :
    s.AlikeActs s.ping.run (s.withAuth auth).ping.run := by
  rw [ping, ping, endpoint_withAuth]
  refine (AlikeActs.ofExcept (s.endpoint "v2/".toList)).bindM fun url => ?_
  refine (alike_request hv hv' url).bindM fun r => ?_
  split
  · exact .pure _
  · exact .pure _

/-- A listing of tags is alike. -/
theorem alike_listTags (hv : s.config.auth.header = .ok v) (hv' : auth.header = .ok v')
    (repository : String) :
    s.AlikeActs (s.listTags repository).run ((s.withAuth auth).listTags repository).run := by
  rw [listTags, listTags, endpoint_withAuth]
  refine (AlikeActs.ofExcept (s.endpoint (tagsPath repository))).bindM fun url => ?_
  exact (alike_request hv hv' url).bindM fun r => .ofExcept _

/-- Each operation is alike. -/
theorem alike_perform (hv : s.config.auth.header = .ok v) (hv' : auth.header = .ok v')
    (op : Operation) :
    s.AlikeActs (s.perform op).run ((s.withAuth auth).perform op).run := by
  cases op with
  | retrieve bound => exact alike_retrieve hv hv' bound
  | ping => exact (alike_ping hv hv').bindM fun _ => .pure _
  | listTags repository => exact alike_listTags hv hv' repository

/-- A session is alike: its operations have the same outcomes, and make requests that differ in the
credentials only. -/
theorem alike_session (hv : s.config.auth.header = .ok v) (hv' : auth.header = .ok v')
    (ops : List Operation) : s.AlikeActs (s.session ops) ((s.withAuth auth).session ops) := by
  -- By induction on the operations. Each of them leaves alike networks for the next one.
  induction ops with
  | nil => exact .pure _
  | cons op ops ih =>
    rw [session, session]
    refine (alike_perform hv hv' op).bind fun outcome => ?_
    exact ih.bind fun outcomes => .pure _

/-- Two sessions with a catalog that differ in nothing but the credentials have the same
outcomes. They make the same requests, but for the credentials where the client still holds
them: to a foreign origin these only go by redirects from the origin of the base that changed
neither host nor port. What the source itself asks of that origin carries its credentials. -/
theorem session_scoped (hv : s.config.auth.header = .ok v) (hv' : auth.header = .ok v')
    (ops : List Operation) (connects : List (List Char)) (replies : List Reply) :
    (s.session ops ⟨connects, replies, []⟩).1 =
        ((s.withAuth auth).session ops ⟨connects, replies, []⟩).1 ∧
      (s.session ops ⟨connects, replies, []⟩).2.requests.length =
        ((s.withAuth auth).session ops ⟨connects, replies, []⟩).2.requests.length ∧
      ∀ p ∈ (s.session ops ⟨connects, replies, []⟩).2.requests.zip
          ((s.withAuth auth).session ops ⟨connects, replies, []⟩).2.requests,
        s.Paired p.1 p.2 := by
  have hstart : s.Alike ⟨connects, replies, []⟩ ⟨connects, replies, []⟩ :=
    ⟨rfl, rfl, rfl, fun _ hp => nomatch hp⟩
  obtain ⟨houtcomes, halike⟩ := alike_session hv hv' ops _ _ hstart
  refine ⟨houtcomes, halike.count, fun p hp => ?_⟩
  have hscoped := halike.requests p hp
  exact ⟨hscoped, hscoped.foreign, hscoped.own⟩

/-- A listing that a link leads to a mirror: the second request is the same with and without
credentials. -/
theorem session_scoped_mirror :
    let base : Url := ⟨"http".toList, some ⟨[], [], .name "registry.test".toList, none⟩,
      .segments [[]], none, none⟩
    let s : CatalogSource := ⟨{ url := "http://registry.test", auth := .bearer "t" }, base⟩
    let replies : List Reply := [
      .answered {
        headers := [("Link", "<http://mirror.test/v2/_catalog>; rel=next")]
        body := Text.utf8 "[[\"a\"]]".toList },
      .answered { body := Text.utf8 "[[\"b\"]]".toList }]
    let n : Network := ⟨["http".toList], replies, []⟩
    (s.session [.retrieve 0] n).1.map Except.toOption = [some ["a", "b"]] ∧
      (s.session [.retrieve 0] n).2.requests.map (·.authorization) = [some "Bearer t", none] ∧
      ∀ p ∈ (s.session [.retrieve 0] n).2.requests.zip
          ((s.withAuth .anonymous).session [.retrieve 0] n).2.requests,
        s.Paired p.1 p.2 := by
  intro base s replies n
  have hv : s.config.auth.header = .ok (some "Bearer t") := rfl
  have hv' : Credentials.anonymous.header = .ok none := rfl
  refine ⟨?_, ?_, (session_scoped hv hv' [.retrieve 0] ["http".toList] replies).2.2⟩
  · decide +kernel
  · decide +kernel

/-- A redirect to another scheme, with host and port as they were, leads to a foreign origin,
and takes the credentials there. -/
theorem redirect_to_other_scheme :
    let base : Url := ⟨"https".toList, some ⟨[], [], .name "registry.test".toList, some 5000⟩,
      .segments [[]], none, none⟩
    let s : CatalogSource :=
      ⟨{ url := "https://registry.test:5000", auth := .bearer "t" }, base⟩
    let replies : List Reply := [
      .answered {
        status := 302, headers := [("Location", "http://registry.test:5000/v2/_catalog")] },
      .answered { body := Text.utf8 "[[\"a\"]]".toList }]
    let requests := fun s : CatalogSource =>
      (s.session [.retrieve 0] ⟨["http".toList, "https".toList], replies, []⟩).2.requests.map
        fun r => (r.url.render, r.url.sameOrigin s.base, r.authorization)
    (create (fun _ => .error .absent) s.config).toOption = some s ∧
      requests s = [
        ("https://registry.test:5000/v2/_catalog?n=100", true, some "Bearer t"),
        ("http://registry.test:5000/v2/_catalog", false, some "Bearer t")] ∧
      requests (s.withAuth .anonymous) = [
        ("https://registry.test:5000/v2/_catalog?n=100", true, none),
        ("http://registry.test:5000/v2/_catalog", false, none)] := by
  decide +kernel

end Runs

end CatalogSource

end ImageSync
