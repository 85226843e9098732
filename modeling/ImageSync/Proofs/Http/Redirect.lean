import ImageSync.Http.Client

/-!
# `ImageSync.Proofs.Http.Redirect`: where a chain of redirects goes

`samePlace` is what the client asks of a redirect before it keeps the credentials. It is
coarser than sharing an origin (`samePlace_of_sameOrigin`): the scheme does not count as long
as host and port stay.

`stillHolds` follows credentials along a chain. They are held from the origin they were meant
for (`stillHolds_nil`) through every redirect that keeps host and port
(`stillHolds_redirected`), and lost for good at the first one that does not
(`stillHolds_of_elsewhere`).
-/

set_option autoImplicit false

namespace ImageSync.Http

/-! ### Places -/

/-- Two URLs that are at the same place are so either way round. -/
theorem samePlace_symm {u v : Url} (h : samePlace u v = true) : samePlace v u = true := by
  simp only [samePlace, Bool.and_eq_true, beq_iff_eq] at h ⊢
  exact ⟨h.1.symm, h.2.symm⟩

/-- Places are the same all along a row. -/
theorem samePlace_trans {u v w : Url} (huv : samePlace u v = true) (hvw : samePlace v w = true) :
    samePlace u w = true := by
  simp only [samePlace, Bool.and_eq_true, beq_iff_eq] at huv hvw ⊢
  exact ⟨huv.1.trans hvw.1, huv.2.trans hvw.2⟩

/-- A redirect to the same host and port keeps the credentials. -/
theorem keptCredentials_of_samePlace {url next : Url} (h : samePlace url next = true)
    (authorization : Option String) :
    keptCredentials url next authorization = authorization := by
  simp [keptCredentials, h]

/-- An origin holds the host and the port that a URL leads to. -/
theorem place_of_origin? {u : Url} {origin : Url.Origin} (h : u.origin? = some origin) :
    u.host? = (some origin.host).filter (fun h => !h.isEmpty) ∧
      effectivePort? u = some origin.port := by
  obtain ⟨default, hdefault, h⟩ := Option.bind_eq_some_iff.1 h
  obtain ⟨a, ha, h⟩ := Option.bind_eq_some_iff.1 h
  cases h
  refine ⟨by rw [Url.host?, ha]; rfl, ?_⟩
  rw [effectivePort?, ha, hdefault]
  show a.port.or (some default) = some (a.port.getD default)
  cases a.port <;> rfl

/-- URLs of one origin lead to one host and port. -/
theorem samePlace_of_sameOrigin {u v : Url} (h : u.sameOrigin v = true) :
    samePlace u v = true := by
  simp only [Url.sameOrigin, Bool.and_eq_true, beq_iff_eq] at h
  obtain ⟨hsome, heq⟩ := h
  obtain ⟨origin, horigin⟩ := Option.isSome_iff_exists.1 hsome
  obtain ⟨hu, hu'⟩ := place_of_origin? horigin
  obtain ⟨hv, hv'⟩ := place_of_origin? (heq.symm.trans horigin)
  simp only [samePlace, Bool.and_eq_true, beq_iff_eq]
  exact ⟨hu.trans hv.symm, hu'.trans hv'.symm⟩

/-- A user in the URL does not count for its origin. -/
theorem origin?_withoutUser (url : Url) : url.withoutUser.origin? = url.origin? := by
  obtain ⟨scheme, authority, path, query, fragment⟩ := url
  cases authority with
  | none => rfl
  | some a => rfl

/-- Neither the user nor the fragment of a URL changes where it leads to. -/
theorem origin?_requestFor (client : Client) (via : List Url) (url : Url)
    (authorization : Option String) :
    (requestFor client via url authorization).url.origin? = url.origin? := by
  obtain ⟨scheme, authority, path, query, fragment⟩ := url
  cases authority with
  | none => rfl
  | some a => rfl

/-- A request is made to the origin of the URL that it is for. -/
theorem sameOrigin_requestFor (client : Client) (via : List Url) (url v : Url)
    (authorization : Option String) :
    (requestFor client via url authorization).url.sameOrigin v = url.sameOrigin v := by
  rw [Url.sameOrigin, origin?_requestFor, Url.sameOrigin]

/-- A request is made to the host and port of the URL that it is for. -/
theorem samePlace_requestFor (client : Client) (via : List Url) (u url : Url)
    (authorization : Option String) :
    samePlace u (requestFor client via url authorization).url = samePlace u url := by
  obtain ⟨scheme, authority, path, query, fragment⟩ := url
  cases authority with
  | none => rfl
  | some a => rfl

/-! ### Chains -/

/-- Whether the client still has credentials that were meant for the origin of `home`: the
chain began there, and no redirect of it changed host or port. -/
def stillHolds (home : Url) (via : List Url) (url : Url) : Bool :=
  (via.getLastD url).sameOrigin home && (url :: via).all (samePlace home)

variable {home url next : Url} {via : List Url}

/-- Without redirects, the credentials are where they were meant for. -/
theorem stillHolds_nil (home url : Url) : stillHolds home [] url = url.sameOrigin home := by
  cases h : url.sameOrigin home with
  | false => simp [stillHolds, h]
  | true => simp [stillHolds, h, samePlace_symm (samePlace_of_sameOrigin h)]

/-- A redirect to the same host and port changes nothing. -/
theorem stillHolds_redirected (h : samePlace url next = true) :
    stillHolds home (url :: via) next = stillHolds home via url := by
  have hplace : samePlace home next = samePlace home url := by
    rw [Bool.eq_iff_iff]
    exact ⟨fun hnext => samePlace_trans hnext (samePlace_symm h),
      fun hurl => samePlace_trans hurl h⟩
  simp only [stillHolds, List.all_cons, hplace, List.getLastD_cons]
  cases samePlace home url <;> simp

/-- After a redirect to another host or port, the credentials are lost. -/
theorem stillHolds_of_elsewhere (h : samePlace url next = false) :
    stillHolds home (url :: via) next = false := by
  cases hholds : stillHolds home (url :: via) next with
  | false => rfl
  | true =>
    simp only [stillHolds, List.all_cons, Bool.and_eq_true] at hholds
    obtain ⟨-, hnext, hurl, -⟩ := hholds
    rw [samePlace_trans (samePlace_symm hurl) hnext] at h
    cases h

/-- Credentials that are still held are at the host and port they were meant for. -/
theorem samePlace_of_stillHolds (h : stillHolds home via url = true) :
    samePlace home url = true := by
  simp only [stillHolds, List.all_cons, Bool.and_eq_true] at h
  exact h.2.1

/-- What is still held of the credentials goes out with the request. -/
theorem stillHolds_requestFor (client : Client) (via : List Url) (home url : Url)
    (authorization : Option String) :
    stillHolds home via (requestFor client via url authorization).url =
      stillHolds home via url := by
  rw [stillHolds, stillHolds, List.all_cons, List.all_cons, samePlace_requestFor]
  cases via with
  | nil => rw [List.getLastD_nil, List.getLastD_nil, sameOrigin_requestFor]
  | cons u via => rw [List.getLastD_cons, List.getLastD_cons]

/-! ### Steps -/

/-- One action after the other. -/
theorem bind_apply {α β : Type} (x : StateM Network α) (k : α → StateM Network β)
    (n : Network) : (x >>= k) n = k (x n).1 (x n).2 := rfl

/-- A single request is not made, or it is exchanged for the next reply. -/
theorem ask_eq (client : Client) (via : List Url) (url : Url) (authorization : Option String)
    (n : Network) :
    ask client via url authorization n =
      if !isSendable url then (.error (.unsendable url), n)
      else if !n.connects.contains url.scheme then (.error (.unconnected url), n)
      else
        ((n.replies.headD unscripted).outcome url,
          (exchange (requestFor client via url authorization) n).2) := by
  rw [ask]
  split
  · rfl
  · show (ite (α := StateM Network _) _ _ _) n = _
    split
    · rfl
    · rfl

end ImageSync.Http
