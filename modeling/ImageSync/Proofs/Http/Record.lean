import ImageSync.Proofs.Http.Redirect

/-!
# `ImageSync.Proofs.Http.Record`: what a request leaves behind

A request and the redirects after it change a network in one way only: each exchange goes on
record and uses up a reply (`Network.record`). `follow_record` says which exchanges a chain
makes: first the request itself, if the client can make it (`reaches`), and then those that
redirects lead to, which name the URLs that they come from.

So what a caller asks of the client can be told from what redirects lead to (`Network.own`): a
call of `send` makes at most one request of the caller's (`own_send`), and uses up a reply if
it ends well (`replies_send_lt`).
-/

set_option autoImplicit false

namespace ImageSync.Http

/-- Whether the client can make a request for a URL. -/
def reaches (n : Network) (url : Url) : Bool := isSendable url && n.connects.contains url.scheme

namespace Network

/-- The network after some exchanges. -/
def record (n : Network) (made : List Request) : Network :=
  { n with replies := n.replies.drop made.length, requests := n.requests ++ made }

/-- Requests on record leave the replies to come as they are. -/
@[simp] theorem replies_record (n : Network) (made : List Request) :
    (n.record made).replies = n.replies.drop made.length := rfl

/-- Requests are put on record behind those before them. -/
@[simp] theorem requests_record (n : Network) (made : List Request) :
    (n.record made).requests = n.requests ++ made := rfl

/-- Nothing on record changes nothing. -/
@[simp] theorem record_nil (n : Network) : n.record [] = n := by
  simp [record]

/-- Requests can be put on record in two parts. -/
@[simp] theorem record_record (n : Network) (made more : List Request) :
    (n.record made).record more = n.record (made ++ more) := by
  simp [record]

/-- The requests that no redirect led to. -/
def own (n : Network) : List Request := n.requests.filter fun r => r.via.isEmpty

end Network

/-- The exchange of a single request, if the client can make it. -/
def exchanged (client : Client) (via : List Url) (url : Url) (authorization : Option String)
    (n : Network) : List Request :=
  if reaches n url then [requestFor client via url authorization] else []

/-- What a single request leaves: it is on record, if it could be sent, and one reply is gone, if it
was connected. -/
theorem ask_snd (client : Client) (via : List Url) (url : Url) (authorization : Option String)
    (n : Network) :
    (ask client via url authorization n).2 =
      n.record (exchanged client via url authorization n) := by
  rw [ask_eq, exchanged, reaches]
  cases isSendable url with
  | false => simp
  | true =>
    cases n.connects.contains url.scheme with
    | false => simp
    | true => rfl

/-- A request that is answered was made. -/
theorem reaches_of_ask {client : Client} {via : List Url} {url : Url}
    {authorization : Option String} {n : Network} {r : Response}
    (h : (ask client via url authorization n).1 = .ok r) : reaches n url = true := by
  rw [ask_eq] at h
  split at h
  · cases h
  · split at h
    · cases h
    · next hsend hconnect => simp_all [reaches]

/-- A chain goes on where an answer redirects it and redirects are left. -/
theorem follow_apply (client : Client) (left : Nat) (via : List Url) (url : Url)
    (authorization : Option String) (n : Network) :
    follow client left via url authorization n =
      match ask client via url authorization n with
      | (.error fault, n') => (.error fault, n')
      | (.ok r, n') =>
        match redirectTarget? url r, left with
        | none, _ => (.ok r, n')
        | some _, 0 => (.error (.redirectedTooOften url), n')
        | some next, left + 1 =>
          follow client left (url :: via) next (keptCredentials url next authorization) n' := by
  -- The recursion is on the redirects left, so both of its equations are needed for this one.
  cases left with
  | zero =>
    rw [follow, bind_apply]
    rcases ask client via url authorization n with ⟨fault | r, n'⟩
    · rfl
    · dsimp only
      cases redirectTarget? url r <;> rfl
  | succ left =>
    rw [follow, bind_apply]
    rcases ask client via url authorization n with ⟨fault | r, n'⟩
    · rfl
    · dsimp only
      cases redirectTarget? url r <;> rfl

/-- A request that names the URLs behind it is made by a redirect. -/
theorem via_of_mem_exchanged {client : Client} {via : List Url} {url : Url}
    {authorization : Option String} {n : Network} {r : Request}
    (h : r ∈ exchanged client via url authorization n) : r.via = via := by
  unfold exchanged at h
  split at h
  · obtain rfl := List.mem_singleton.1 h
    rfl
  · cases h

/-- A chain makes the request it starts with, if the client can, and then requests that
redirects lead to. -/
theorem follow_record (client : Client) (left : Nat) (via : List Url) (url : Url)
    (authorization : Option String) (n : Network) :
    ∃ later : List Request, (∀ r ∈ later, r.via ≠ []) ∧
      (follow client left via url authorization n).2 =
        n.record (exchanged client via url authorization n ++ later) := by
  induction left generalizing via url authorization n with
  | zero =>
    refine ⟨[], List.forall_mem_nil _, ?_⟩
    rw [List.append_nil, ← ask_snd, follow_apply]
    rcases ask client via url authorization n with ⟨fault | r, n'⟩
    · rfl
    · dsimp only
      cases redirectTarget? url r <;> rfl
  | succ left ih =>
    have hsnd := ask_snd client via url authorization n
    rw [follow_apply]
    rcases hask : ask client via url authorization n with ⟨fault | r, n'⟩
    · rw [hask] at hsnd
      exact ⟨[], List.forall_mem_nil _, by rw [List.append_nil, ← hsnd]⟩
    · rw [hask] at hsnd
      obtain rfl : n' = n.record (exchanged client via url authorization n) := hsnd
      dsimp only
      cases redirectTarget? url r with
      | none => exact ⟨[], List.forall_mem_nil _, by rw [List.append_nil]⟩
      | some next =>
        -- The rest of the chain starts with the request that this redirect leads to.
        obtain ⟨later, hlater, hrest⟩ := ih (url :: via) next
          (keptCredentials url next authorization)
          (n.record (exchanged client via url authorization n))
        refine ⟨exchanged client (url :: via) next (keptCredentials url next authorization)
          (n.record (exchanged client via url authorization n)) ++ later, ?_, ?_⟩
        · intro r' hr'
          rcases List.mem_append.1 hr' with hr' | hr'
          · rw [via_of_mem_exchanged hr']
            exact List.cons_ne_nil _ _
          · exact hlater r' hr'
        · dsimp only
          rw [hrest, Network.record_record]

/-- A chain that ends with an answer got through with its first request. -/
theorem reaches_of_follow {client : Client} {left : Nat} {via : List Url} {url : Url}
    {authorization : Option String} {n : Network} {r : Response}
    (h : (follow client left via url authorization n).1 = .ok r) : reaches n url = true := by
  rw [follow_apply] at h
  rcases hask : ask client via url authorization n with ⟨fault | r', n'⟩
  · rw [hask] at h
    cases h
  · exact reaches_of_ask (congrArg Prod.fst hask)

/-- Where no reply is left, a chain does not end well. -/
theorem follow_of_no_replies {client : Client} {left : Nat} {via : List Url} {url : Url}
    {authorization : Option String} {n : Network} {r : Response} (hreplies : n.replies = [])
    (h : (follow client left via url authorization n).1 = .ok r) : r.isSuccess = false := by
  -- A request without a script for it is answered with a failure, or does not get so far.
  have hunscripted : (ask client via url authorization n).1 =
      .ok { status := 500, body := Text.utf8 "unscripted request".toList } ∨
      ∃ fault, (ask client via url authorization n).1 = .error fault := by
    rw [ask_eq, hreplies]
    split
    · exact .inr ⟨_, rfl⟩
    · split
      · exact .inr ⟨_, rfl⟩
      · exact .inl rfl
  rw [follow_apply] at h
  rcases hask : ask client via url authorization n with ⟨fault | r', n'⟩
  · rw [hask] at h
    cases h
  · rw [hask] at h hunscripted
    rcases hunscripted with hok | ⟨fault, hfault⟩
    · cases hok
      cases h
      rfl
    · cases hfault

/-! ### Calls -/

/-- The request that a call starts with: a user that the URL names is left out of it. -/
def opening (url : Url) (authorization : Option String) : Url × Option String :=
  match userCredentials? url with
  | some user => (url.withoutUser, authorization.or (some user))
  | none => (url, authorization)

/-- A whole request is a chain with all redirects left and the credentials of the call. -/
theorem send_eq (client : Client) (url : Url) (authorization : Option String) :
    send client url authorization =
      follow client maxRedirects [] (opening url authorization).1
        (opening url authorization).2 := by
  rw [send, opening]
  cases userCredentials? url with
  | some user => rfl
  | none => rfl

/-- The request of the caller's that a call makes, if the client can. -/
def called (client : Client) (url : Url) (authorization : Option String) (n : Network) :
    List Request :=
  exchanged client [] (opening url authorization).1 (opening url authorization).2 n

/-- A call makes the caller's request, if the client can, and then requests that redirects
lead to. -/
theorem send_record (client : Client) (url : Url) (authorization : Option String)
    (n : Network) :
    ∃ later : List Request, (∀ r ∈ later, r.via ≠ []) ∧
      (send client url authorization n).2 =
        n.record (called client url authorization n ++ later) := by
  rw [send_eq]
  exact follow_record client maxRedirects [] _ _ n

/-- Of the caller's, a call puts one request on record. -/
theorem own_send (client : Client) (url : Url) (authorization : Option String) (n : Network) :
    (send client url authorization n).2.own =
      n.own ++ called client url authorization n := by
  obtain ⟨later, hlater, hsend⟩ := send_record client url authorization n
  have hcalled : (called client url authorization n).filter (fun r => r.via.isEmpty) =
      called client url authorization n := by
    refine List.filter_eq_self.2 fun r hr => ?_
    rw [via_of_mem_exchanged hr]
    rfl
  have hdropped : later.filter (fun r => r.via.isEmpty) = [] := by
    refine List.filter_eq_nil_iff.2 fun r hr hempty => hlater r hr ?_
    exact List.isEmpty_iff.1 hempty
  rw [hsend, Network.own, Network.requests_record, List.filter_append, List.filter_append,
    hcalled, hdropped, List.append_nil]
  rfl

/-- What is on record stays there. -/
theorem requests_prefix_send (client : Client) (url : Url) (authorization : Option String)
    (n : Network) : n.requests <+: (send client url authorization n).2.requests := by
  obtain ⟨later, -, hsend⟩ := send_record client url authorization n
  rw [hsend]
  exact List.prefix_append _ _

/-- A call that gets an answer makes the caller's request. -/
theorem length_called_of_send {client : Client} {url : Url} {authorization : Option String}
    {n : Network} {r : Response} (h : (send client url authorization n).1 = .ok r) :
    (called client url authorization n).length = 1 := by
  rw [send_eq] at h
  rw [called, exchanged, reaches_of_follow h]
  rfl

/-- A call that gets an answer goes on record. -/
theorem requests_send_lt {client : Client} {url : Url} {authorization : Option String}
    {n : Network} {r : Response} (h : (send client url authorization n).1 = .ok r) :
    n.requests.length < (send client url authorization n).2.requests.length := by
  obtain ⟨later, -, hsend⟩ := send_record client url authorization n
  have hcalled := length_called_of_send h
  rw [hsend, Network.requests_record, List.length_append, List.length_append, hcalled]
  omega

/-- A call that ends well uses up a reply. -/
theorem replies_send_lt {client : Client} {url : Url} {authorization : Option String}
    {n : Network} {r : Response} (h : (send client url authorization n).1 = .ok r)
    (hsuccess : r.isSuccess = true) :
    (send client url authorization n).2.replies.length < n.replies.length := by
  obtain ⟨later, -, hsend⟩ := send_record client url authorization n
  have hcalled := length_called_of_send h
  have hreplies : n.replies ≠ [] := fun hnil => by
    rw [send_eq] at h
    rw [follow_of_no_replies hnil h] at hsuccess
    cases hsuccess
  have hpos := List.length_pos_iff.2 hreplies
  rw [hsend, Network.replies_record, List.length_drop, List.length_append, hcalled]
  omega

end ImageSync.Http
