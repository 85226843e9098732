import ImageSync.Proofs.Http.Record
import ImageSync.Proofs.Url.Relative

/-!
# `ImageSync.Proofs.Http.Ending`: how a call ends

A call makes exchanges until an answer leads no further, or until there is none. Which exchange was
the last one can be told from the networks before and after the call (`LastExchange`), and so can
what the call comes to: `Ended` has one case for each way in which a call ends.

The main statement is `ended_send`. It is shown for a chain of redirects that is under way
(`ended_follow`), and the invariant of the chain is `Under`: the URL to go to next is the one that
the call is for, or one that the last answer so far redirects to.

Where the last reply is an answer that leads no further, the call ends with it (`Ended.eq_ok`). An
answer of success never leads further (`redirectTarget?_of_isSuccess`).
-/

set_option autoImplicit false

namespace ImageSync.Http

variable {n n₁ n₂ : Network} {first url next : Url} {request : Request} {reply : Reply}
  {r : Response}

/-! ### The last exchange -/

/-- The last of the exchanges that lead from one network to another. -/
def LastExchange (n n₁ : Network) (request : Request) (reply : Reply) : Prop :=
  ∃ front, n₁ = n.record (front ++ [request]) ∧ n.replies.getD front.length unscripted = reply

namespace LastExchange

/-- There is one last exchange. -/
theorem unique {request' : Request} {reply' : Reply} (h : LastExchange n n₁ request reply)
    (h' : LastExchange n n₁ request' reply') : request = request' ∧ reply = reply' := by
  obtain ⟨front, rfl, hreply⟩ := h
  obtain ⟨front', heq, hreply'⟩ := h'
  have hrequests := congrArg Network.requests heq
  rw [Network.requests_record, Network.requests_record, List.append_cancel_left_eq] at hrequests
  obtain ⟨rfl, hrequest⟩ := List.append_inj' hrequests rfl
  exact ⟨List.singleton_inj.1 hrequest, hreply.symm.trans hreply'⟩

/-- Without an exchange there is no last one. -/
theorem not_self : ¬LastExchange n n request reply := by
  rintro ⟨front, heq, -⟩
  have hlength := congrArg (fun n => n.requests.length) heq
  simp at hlength

/-- The exchanges before do not count. -/
theorem of_record {made : List Request} (h : LastExchange (n.record made) n₁ request reply) :
    LastExchange n n₁ request reply := by
  obtain ⟨front, rfl, hreply⟩ := h
  refine ⟨made ++ front, by rw [Network.record_record, List.append_assoc], ?_⟩
  rw [← hreply, Network.replies_record, List.getD_eq_getElem?_getD, List.getD_eq_getElem?_getD,
    List.getElem?_drop, List.length_append]

end LastExchange

/-! ### Redirects -/

/-- An answer of success redirects nowhere. -/
theorem redirectTarget?_of_isSuccess (h : r.isSuccess = true) (url : Url) :
    redirectTarget? url r = none := by
  have hstatus : isRedirect r.status = false := by
    rw [Response.isSuccess, Bool.and_eq_true, decide_eq_true_eq, decide_eq_true_eq] at h
    simp only [isRedirect, List.contains_eq_mem, decide_eq_false_iff_not, List.mem_cons,
      List.not_mem_nil, or_false]
    omega
  rw [redirectTarget?, hstatus]
  rfl

/-- Whether an answer redirects anywhere does not depend on the user and the fragment. -/
theorem redirectTarget?_requested_eq_none_iff :
    redirectTarget? url.withoutUser.withoutFragment r = none ↔ redirectTarget? url r = none := by
  have hsome : (redirectTarget? url.withoutUser.withoutFragment r).isSome =
      (redirectTarget? url r).isSome := by
    rw [redirectTarget?, redirectTarget?]
    split
    · cases r.header? "location" with
      | none => rfl
      | some target => exact Url.Reference.isSome_resolve?_congr rfl rfl
    · rfl
  rw [← Option.not_isSome_iff_eq_none, hsome, Option.not_isSome_iff_eq_none]

/-! ### Endings -/

/-- A call for a URL is about to go to another one: it has not begun, or the last answer so far
redirects it there. -/
inductive Under (first : Url) (n n₁ : Network) (via : List Url) (url : Url) : Prop where
  | begins (hnone : n₁ = n) (hvia : via = [])
      (hurl : url.withoutUser.withoutFragment = first.withoutUser.withoutFragment)
  | goesOn {request : Request} {source : Url} {r : Response}
      (hlast : LastExchange n n₁ request (.answered r))
      (hurl : request.url = source.withoutUser.withoutFragment)
      (hnext : redirectTarget? source r = some url) (hvia : via = source :: request.via)

/-- What a call for a URL comes to, with the networks before and after it. -/
inductive Ended (first : Url) (n n₁ : Network) : Except SendFault Response → Prop where
  /-- The last answer leads no further. -/
  | answered {request : Request} {r : Response} (hlast : LastExchange n n₁ request (.answered r))
      (hstays : redirectTarget? request.url r = none) : Ended first n n₁ (.ok r)
  /-- For the last request no connection came about. -/
  | refused {request : Request} {url : Url} (hlast : LastExchange n n₁ request .refused)
      (hurl : request.url = url.withoutUser.withoutFragment) :
      Ended first n n₁ (.error (.unconnected url))
  /-- The connection is closed, or the time is over. -/
  | unanswered {request : Request} {reply : Reply} {url : Url}
      (hlast : LastExchange n n₁ request reply)
      (hurl : request.url = url.withoutUser.withoutFragment)
      (hreply : reply = .closed ∨ reply = .silent) : Ended first n n₁ (.error (.unanswered url))
  /-- The last answer leads further, but no redirects are left. -/
  | redirectedTooOften {request : Request} {r : Response} {url : Url}
      (hlast : LastExchange n n₁ request (.answered r))
      (hurl : request.url = url.withoutUser.withoutFragment)
      (hon : (redirectTarget? url r).isSome = true) (hvia : request.via.length = maxRedirects) :
      Ended first n n₁ (.error (.redirectedTooOften url))
  /-- The URL to go to is not one that can be requested. -/
  | unsendable {via : List Url} {url : Url} (hunder : Under first n n₁ via url)
      (hsend : isSendable url = false) : Ended first n n₁ (.error (.unsendable url))
  /-- There are no connections for the scheme of the URL to go to. -/
  | unconnected {via : List Url} {url : Url} (hunder : Under first n n₁ via url)
      (hsend : isSendable url = true) (hconnect : n.connects.contains url.scheme = false) :
      Ended first n n₁ (.error (.unconnected url))

/-- What a call that is under way has done is on record. -/
theorem Under.exists_record {via : List Url} (h : Under first n n₁ via url) :
    ∃ made, n₁ = n.record made := by
  cases h with
  | begins hnone _ _ => exact ⟨[], by rw [hnone, Network.record_nil]⟩
  | goesOn hlast _ _ _ =>
    obtain ⟨front, hrecord, -⟩ := hlast
    exact ⟨_, hrecord⟩

section Chain

variable {client : Client} {via : List Url} {authorization : Option String}

/-- A single request is not made, or it comes to what its reply does. -/
theorem ask_cases (client : Client) (via : List Url) (url : Url) (authorization : Option String)
    (n : Network) :
    (isSendable url = false ∧
      ask client via url authorization n = (.error (.unsendable url), n)) ∨
    (isSendable url = true ∧ n.connects.contains url.scheme = false ∧
      ask client via url authorization n = (.error (.unconnected url), n)) ∨
    ∃ n₁ reply, LastExchange n n₁ (requestFor client via url authorization) reply ∧
      ask client via url authorization n = (reply.outcome url, n₁) := by
  rw [ask_eq]
  cases hsend : isSendable url with
  | false => exact .inl ⟨rfl, rfl⟩
  | true =>
    cases hconnect : n.connects.contains url.scheme with
    | false => exact .inr (.inl ⟨rfl, rfl, rfl⟩)
    | true =>
      have hreply : n.replies.getD 0 unscripted = n.replies.headD unscripted := by
        cases n.replies <;> rfl
      exact .inr (.inr ⟨_, _, ⟨[], rfl, hreply⟩, rfl⟩)

/-- A chain that is under way ends in one of the six ways. -/
theorem ended_follow {left : Nat} (h : Under first n n₁ via url)
    (hleft : via.length + left = maxRedirects) :
    Ended first n (follow client left via url authorization n₁).2
      (follow client left via url authorization n₁).1 := by
  induction left using Nat.strongRecOn generalizing n₁ via url authorization with
  | ind left ih =>
    -- What one request does to the network after the exchanges so far is told from the start.
    obtain ⟨made, rfl⟩ := h.exists_record
    rw [follow_apply]
    rcases ask_cases client via url authorization (n.record made) with
      ⟨hsend, hask⟩ | ⟨hsend, hconnect, hask⟩ | ⟨n₂, reply, hlast, hask⟩
    · rw [hask]
      exact .unsendable h hsend
    · rw [hask]
      exact .unconnected h hsend hconnect
    · rw [hask]
      cases reply with
      | refused => exact .refused hlast.of_record rfl
      | closed => exact .unanswered hlast.of_record rfl (.inl rfl)
      | silent => exact .unanswered hlast.of_record rfl (.inr rfl)
      | answered r =>
        dsimp only [Reply.outcome]
        cases hnext : redirectTarget? url r with
        | none => exact .answered hlast.of_record (redirectTarget?_requested_eq_none_iff.2 hnext)
        | some next =>
          cases left with
          | zero => exact .redirectedTooOften hlast.of_record rfl (by rw [hnext]; rfl) hleft
          | succ left =>
            -- The answer leads on, and the URL that it came from is put on the way.
            refine ih left (Nat.lt_succ_self left) (.goesOn hlast.of_record rfl hnext rfl) ?_
            rw [List.length_cons]
            omega

end Chain

/-- A call ends in one of the six ways. -/
theorem ended_send (client : Client) (url : Url) (authorization : Option String) (n : Network) :
    Ended url n (send client url authorization n).2 (send client url authorization n).1 := by
  have hopening : (opening url authorization).1.withoutUser.withoutFragment =
      url.withoutUser.withoutFragment := by
    rw [opening]
    split
    · obtain ⟨scheme, authority, path, query, fragment⟩ := url
      cases authority <;> rfl
    · rfl
  rw [send_eq]
  exact ended_follow (.begins rfl rfl hopening) rfl

/-- A call ends with an answer if this is the last reply and leads no further. -/
theorem Ended.eq_ok {outcome : Except SendFault Response} (h : Ended first n n₁ outcome)
    (hlast : LastExchange n n₁ request (.answered r))
    (hstays : redirectTarget? request.url r = none) : outcome = .ok r := by
  -- There is one last exchange, so it is the one that the end is about.
  have hunder : ∀ {via url}, ¬Under first n n₁ via url := by
    intro via url hunder
    cases hunder with
    | begins hnone _ _ => exact LastExchange.not_self (hnone ▸ hlast)
    | goesOn hlast' hurl hnext _ =>
      obtain ⟨rfl, hreply⟩ := hlast.unique hlast'
      cases hreply
      rw [hurl, redirectTarget?_requested_eq_none_iff, hnext] at hstays
      cases hstays
  cases h with
  | answered hlast' _ =>
    obtain ⟨-, hreply⟩ := hlast.unique hlast'
    cases hreply
    rfl
  | refused hlast' _ =>
    obtain ⟨-, hreply⟩ := hlast.unique hlast'
    cases hreply
  | unanswered hlast' _ hreply' =>
    obtain ⟨-, rfl⟩ := hlast.unique hlast'
    rcases hreply' with hreply' | hreply' <;> cases hreply'
  | redirectedTooOften hlast' hurl hon _ =>
    obtain ⟨rfl, hreply⟩ := hlast.unique hlast'
    cases hreply
    rw [hurl, redirectTarget?_requested_eq_none_iff] at hstays
    rw [hstays] at hon
    cases hon
  | unsendable hunder' _ => exact absurd hunder' hunder
  | unconnected hunder' _ _ => exact absurd hunder' hunder

end ImageSync.Http
