import ImageSync.Http.Charset
import ImageSync.Proofs.Http.Record

/-!
# `ImageSync.Proofs.Http.Script`: two runs over scripts that are alike

What a script of replies leads to is the same for another script as far as nobody looks at the
difference between the two. Here two networks are alike (`Network.Alike`) if their scripts have
the same length and their answers correspond, one by one, by some relation.

`Matched` says of two actions that they keep networks alike, and how their outcomes correspond.
It goes over from parts to what they are put together to (`Matched.bind`), so it is enough to
know what becomes of one reply (`matched_ask`). The client looks at nothing in an answer but
where it is sent to. So if this corresponds, a whole chain of redirects makes the same requests
(`matched_send`).

The relation that this is used for is `Response.SameBut`: two answers differ at most in the header
fields of one name. Whoever looks at other fields sees no difference (`SameBut.header?_eq`).
-/

set_option autoImplicit false

namespace ImageSync.Http

/-! ### Answers that differ in one header -/

namespace Response

/-- Two answers differ at most in the fields of a name. -/
structure SameBut (name : String) (r r' : Response) : Prop where
  status : r.status = r'.status
  body : r.body = r'.body
  declaredLength : r.declaredLength = r'.declaredLength
  others : r.headers.filter (fun h => !sameHeader h.1 name) =
    r'.headers.filter fun h => !sameHeader h.1 name

namespace SameBut

variable {name other : String} {r r' : Response}

/-- An answer differs from itself in nothing. -/
theorem refl (name : String) (r : Response) : SameBut name r r := ⟨rfl, rfl, rfl, rfl⟩

/-- The fields of the name may differ either way round. -/
theorem symm (h : SameBut name r r') : SameBut name r' r :=
  ⟨h.status.symm, h.body.symm, h.declaredLength.symm, h.others.symm⟩

/-- Fields of another name are the same. -/
theorem header?_eq (h : SameBut name r r') (hother : sameHeader other name = false) :
    r.header? other = r'.header? other := by
  have hfiltered : ∀ headers : List (String × String),
      (headers.filter fun h => !sameHeader h.1 name).find? (fun h => sameHeader h.1 other) =
        headers.find? fun h => sameHeader h.1 other := by
    intro headers
    rw [List.find?_filter]
    congr 1
    funext field
    -- No name is the same as two that are not the same.
    cases hfield : sameHeader field.1 other with
    | false => simp
    | true =>
      have hname : sameHeader field.1 name = false := by
        rw [sameHeader, beq_iff_eq] at hfield
        rw [sameHeader, hfield]
        exact hother
      simp [hname]
  rw [header?, header?, ← hfiltered, h.others, hfiltered]

/-- Both answers report success or none does. -/
theorem isSuccess_eq (h : SameBut name r r') : r.isSuccess = r'.isSuccess := by
  rw [isSuccess, isSuccess, h.status]

/-- Both answers have the same content, since it comes from the status, the body and the length that
were declared. -/
theorem content?_eq (h : SameBut name r r') : r.content? = r'.content? := by
  rw [content?, content?, h.status, h.body, h.declaredLength]

/-- Both answers have the same text, unless they differ in the field that says how it is encoded. -/
theorem text_eq (h : SameBut name r r') (hname : sameHeader "content-type" name = false) :
    r.text = r'.text := by
  rw [text, text, h.content?_eq, h.header?_eq hname]

/-- Both answers send to the same place, unless they differ in the field that says where. -/
theorem redirectTarget?_eq (h : SameBut name r r') (hname : sameHeader "location" name = false)
    (url : Url) : redirectTarget? url r = redirectTarget? url r' := by
  rw [redirectTarget?, redirectTarget?, h.status, h.header?_eq hname]

end SameBut

end Response

/-! ### Scripts -/

/-- Two scripts whose answers correspond, one by one. -/
inductive AlikeScripts (Q : Response → Response → Prop) : List Reply → List Reply → Prop where
  | nil : AlikeScripts Q [] []
  | same (reply : Reply) {replies replies' : List Reply} (h : AlikeScripts Q replies replies') :
      AlikeScripts Q (reply :: replies) (reply :: replies')
  | answered {r r' : Response} (hr : Q r r') {replies replies' : List Reply}
      (h : AlikeScripts Q replies replies') :
      AlikeScripts Q (.answered r :: replies) (.answered r' :: replies')

namespace AlikeScripts

variable {Q Q' : Response → Response → Prop} {replies replies' : List Reply}

/-- Scripts that are alike hold the same number of replies. -/
theorem length_eq (h : AlikeScripts Q replies replies') : replies.length = replies'.length := by
  induction h with
  | nil => rfl
  | same reply h ih => rw [List.length_cons, List.length_cons, ih]
  | answered hr h ih => rw [List.length_cons, List.length_cons, ih]

/-- A relation between answers may be replaced with a wider one. -/
theorem mono (hQ : ∀ r r', Q r r' → Q' r r') (h : AlikeScripts Q replies replies') :
    AlikeScripts Q' replies replies' := by
  induction h with
  | nil => exact .nil
  | same reply h ih => exact .same reply ih
  | answered hr h ih => exact .answered (hQ _ _ hr) ih

end AlikeScripts

/-- Two networks that only a correspondence between the answers to come tells apart. -/
structure Network.Alike (Q : Response → Response → Prop) (n n' : Network) : Prop where
  connects : n.connects = n'.connects
  replies : AlikeScripts Q n.replies n'.replies
  requests : n.requests = n'.requests

/-- Two outcomes that are the same, or correspond. -/
inductive AlikeOutcomes {ε : Type} (Q : Response → Response → Prop) :
    Except ε Response → Except ε Response → Prop where
  | same (outcome : Except ε Response) : AlikeOutcomes Q outcome outcome
  | answered {r r' : Response} (hr : Q r r') : AlikeOutcomes Q (.ok r) (.ok r')

/-! ### Actions -/

/-- Two actions lead from related networks to related outcomes and networks. -/
def Matched {α β : Type} (R : Network → Network → Prop) (J : α → β → Prop)
    (x : StateM Network α) (x' : StateM Network β) : Prop :=
  ∀ n n', R n n' → J (x n).1 (x' n').1 ∧ R (x n).2 (x' n').2

namespace Matched

variable {α β γ δ : Type} {R : Network → Network → Prop} {J : α → β → Prop} {K : γ → δ → Prop}

/-- Values that correspond make actions that do nothing else. -/
theorem pure {a : α} {b : β} (h : J a b) : Matched R J (pure a) (pure b) := fun _ _ hn => ⟨h, hn⟩

/-- Actions in a row are matched if the first ones are, and the second ones for all outcomes of
these that correspond. -/
theorem bind {x : StateM Network α} {x' : StateM Network β} {k : α → StateM Network γ}
    {k' : β → StateM Network δ} (hx : Matched R J x x')
    (hk : ∀ a b, J a b → Matched R K (k a) (k' b)) : Matched R K (x >>= k) (x' >>= k') := by
  intro n n' hn
  obtain ⟨houtcomes, hafter⟩ := hx n n' hn
  rw [bind_apply, bind_apply]
  exact hk _ _ houtcomes _ _ hafter

end Matched

section Chain

variable {Q : Response → Response → Prop}

/-- A single request gets corresponding answers. -/
theorem matched_ask (client : Client) (via : List Url) (url : Url)
    (authorization : Option String) :
    Matched (Network.Alike Q) (AlikeOutcomes Q) (ask client via url authorization)
      (ask client via url authorization) := by
  intro n n' hn
  rw [ask_eq, ask_eq, hn.connects]
  -- The request is refused for its header or has no connection before the script is looked at.
  split
  · exact ⟨.same _, hn⟩
  · split
    · exact ⟨.same _, hn⟩
    · have hrequests := congrArg (· ++ [requestFor client via url authorization]) hn.requests
      obtain ⟨connects, replies, requests⟩ := n
      obtain ⟨connects', replies', requests'⟩ := n'
      obtain ⟨hconnects, hreplies, -⟩ := hn
      cases hreplies with
      | nil => exact ⟨.same _, hconnects, .nil, hrequests⟩
      | same reply hrest => exact ⟨.same _, hconnects, hrest, hrequests⟩
      | answered hr hrest => exact ⟨.answered hr, hconnects, hrest, hrequests⟩

variable (hQ : ∀ r r', Q r r' → ∀ url, redirectTarget? url r = redirectTarget? url r')

include hQ

/-- A chain goes the same way where corresponding answers send it the same way. -/
theorem matched_follow (client : Client) (left : Nat) (via : List Url) (url : Url)
    (authorization : Option String) :
    Matched (Network.Alike Q) (AlikeOutcomes Q) (follow client left via url authorization)
      (follow client left via url authorization) := by
  -- By induction on the redirects that are left. The outcomes of the first request are the same or
  -- correspond, and both cases send the chain to the same place.
  induction left generalizing via url authorization with
  | zero =>
    rw [follow]
    refine (matched_ask client via url authorization).bind fun outcome outcome' h => ?_
    cases h with
    | same outcome =>
      split
      · exact .pure (.same _)
      · split
        · exact .pure (.same _)
        · exact .pure (.same _)
    | answered hr =>
      dsimp only
      rw [hQ _ _ hr url]
      split
      · exact .pure (.answered hr)
      · exact .pure (.same _)
  | succ left ih =>
    rw [follow]
    refine (matched_ask client via url authorization).bind fun outcome outcome' h => ?_
    cases h with
    | same outcome =>
      split
      · exact .pure (.same _)
      · split
        · exact .pure (.same _)
        · exact ih _ _ _
    | answered hr =>
      dsimp only
      rw [hQ _ _ hr url]
      split
      · exact .pure (.answered hr)
      · exact ih _ _ _

/-- A whole request, redirects included, is matched. -/
theorem matched_send (client : Client) (url : Url) (authorization : Option String) :
    Matched (Network.Alike Q) (AlikeOutcomes Q) (send client url authorization)
      (send client url authorization) := by
  rw [send_eq]
  exact matched_follow hQ client maxRedirects [] _ _

end Chain

/-! ### The end of a script -/

/-- The network with other replies to come. -/
def Network.scripted (n : Network) (replies : List Reply) : Network := { n with replies }

section End

variable {client : Client} {via : List Url} {url : Url} {authorization : Option String}
  {n n₁ : Network} {r : Response}

/-- A single request gets the first reply of a script. Whatever the other replies are, they are
left. -/
theorem ask_scripted (hreplies : n.replies ≠ [])
    (h : ask client via url authorization n = (.ok r, n₁)) :
    n.replies = .answered r :: n₁.replies ∧
      ∀ r' rest, ask client via url authorization (n.scripted (.answered r' :: rest)) =
        (.ok r', n₁.scripted rest) := by
  obtain ⟨connects, replies, requests⟩ := n
  -- An answer to a request that was made is the first reply, for nothing before that gives one.
  cases replies with
  | nil => exact absurd rfl hreplies
  | cons reply replies =>
    rw [ask_eq] at h
    split at h
    · cases h
    · next hsend =>
      split at h
      · cases h
      · next hconnect =>
        obtain rfl := Reply.outcome_eq_ok_iff.1 (congrArg Prod.fst h)
        cases h
        refine ⟨rfl, fun r' rest => ?_⟩
        rw [ask_eq, if_neg hsend, Network.scripted, if_neg hconnect]
        rfl

/-- A chain that ends with an answer ends with it at once, or got it behind a redirect. -/
theorem follow_cases {left : Nat}
    (h : follow client left via url authorization n = (.ok r, n₁)) :
    (ask client via url authorization n = (.ok r, n₁) ∧ redirectTarget? url r = none) ∨
      ∃ r₀ n₀ next fewer, left = fewer + 1 ∧
        ask client via url authorization n = (.ok r₀, n₀) ∧
        redirectTarget? url r₀ = some next ∧
        follow client fewer (url :: via) next (keptCredentials url next authorization) n₀ =
          (.ok r, n₁) := by
  rw [follow_apply] at h
  rcases hask : ask client via url authorization n with ⟨fault | r₀, n₀⟩
  · rw [hask] at h
    cases h
  · rw [hask] at h
    dsimp only at h
    split at h
    · next hlast =>
      cases h
      exact .inl ⟨rfl, hlast⟩
    · cases h
    · next next fewer hnext => exact .inr ⟨r₀, n₀, next, fewer, rfl, rfl, hnext, h⟩

/-- A chain that ends with an answer of success has read a front of the script, and this answer is
the last reply in it. With any answer in its place that redirects no further, and any replies
behind it, the chain makes the same requests. -/
theorem follow_scripted {left : Nat}
    (h : follow client left via url authorization n = (.ok r, n₁))
    (hsuccess : r.isSuccess = true) :
    ∃ used, n.replies = used ++ .answered r :: n₁.replies ∧
      ∀ r' rest, (∀ url, redirectTarget? url r' = redirectTarget? url r) →
        follow client left via url authorization (n.scripted (used ++ .answered r' :: rest)) =
          (.ok r', n₁.scripted rest) := by
  induction left using Nat.strongRecOn generalizing via url authorization n with
  | ind left ih =>
    -- At the end of a script requests get an answer that is none of success.
    have hreplies : n.replies ≠ [] := fun hnil => by
      rw [follow_of_no_replies hnil (congrArg Prod.fst h)] at hsuccess
      cases hsuccess
    rcases follow_cases h with ⟨hask, hlast⟩ | ⟨r₀, n₀, next, fewer, rfl, hask, hnext, hrest⟩
    · obtain ⟨hscript, hothers⟩ := ask_scripted hreplies hask
      refine ⟨[], hscript, fun r' rest hr' => ?_⟩
      rw [List.nil_append, follow_apply, hothers]
      dsimp only
      rw [hr', hlast]
    · -- The rest of the chain has read a front of what this answer has left.
      obtain ⟨hscript, hothers⟩ := ask_scripted hreplies hask
      obtain ⟨used, hused, hrest⟩ := ih fewer (Nat.lt_succ_self fewer) hrest
      refine ⟨.answered r₀ :: used, by rw [hscript, hused, List.cons_append], ?_⟩
      intro r' rest hr'
      rw [List.cons_append, follow_apply, hothers]
      dsimp only
      rw [hnext]
      exact hrest r' rest hr'

/-- A whole request that ends with an answer of success has read a front of the script, of which
this answer is the last. It makes the same requests with any answer in its place that redirects no
further. -/
theorem send_scripted (h : send client url authorization n = (.ok r, n₁))
    (hsuccess : r.isSuccess = true) :
    ∃ used, n.replies = used ++ .answered r :: n₁.replies ∧
      ∀ r' rest, (∀ url, redirectTarget? url r' = redirectTarget? url r) →
        send client url authorization (n.scripted (used ++ .answered r' :: rest)) =
          (.ok r', n₁.scripted rest) := by
  rw [send_eq] at h ⊢
  exact follow_scripted h hsuccess

end End

end ImageSync.Http
