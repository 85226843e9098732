import ImageSync.Proofs.Registry.FirstRequest
import ImageSync.Proofs.Text.Base64
import ImageSync.Proofs.Text.Bytes

/-!
# `ImageSync.Proofs.Registry.CredentialHeader`: credentials in a header

A user and a password are sent in base64, so their header can be sent whatever they are
(`header_basic`), and both can be read off it again if the user has no colon (`readBasic?`). A
token is sent as it is, so its header can be sent exactly if the token can stand in one
(`header_bearer`).

If the header cannot be sent, nothing is. All operations of a catalog start at the origin of the
base URL (`endpoint_v2_own`), so each of them needs the header before its first request
(`perform_refused`), and a session comes to nothing but errors (`session_refused`). The main
statement `credentials_intact_or_refused` has both.
-/

set_option autoImplicit false

namespace ImageSync

open Http (Network)
open Text

/-! ### Headers -/

/-- Text is allowed in a header if each part of it is. -/
theorem isHeaderValue_append (cs ds : List Char) :
    Http.isHeaderValue (cs ++ ds) = (Http.isHeaderValue cs && Http.isHeaderValue ds) := by
  rw [Http.isHeaderValue, utf8_append, List.all_append]
  rfl

/-- A text can stand in a header if each of its characters can. -/
theorem isHeaderValue_of_forall {cs : List Char} (h : ∀ c ∈ cs, Http.isHeaderValue [c] = true) :
    Http.isHeaderValue cs = true := by
  induction cs with
  | nil => rfl
  | cons c r ih =>
    obtain ⟨hc, hr⟩ := List.forall_mem_cons.1 h
    rw [← List.singleton_append, isHeaderValue_append, hc, ih hr]
    rfl

/-- Encoded bytes are always allowed in a header, whatever they are. -/
theorem isHeaderValue_base64 (bytes : List UInt8) : Http.isHeaderValue (base64 bytes) = true := by
  -- There are only so many digits, so each of them is checked.
  have hdigit : ∀ n < 64, Http.isHeaderValue [base64Digit n] = true := by decide
  refine isHeaderValue_of_forall fun c hc => ?_
  rcases mem_base64 hc with rfl | ⟨n, hn, rfl⟩
  · rfl
  · exact hdigit n hn

namespace Credentials

/-- What goes wrong if credentials cannot be sent. -/
def refusal : RegistryError :=
  .authenticationFailed "credentials contain invalid header characters"

/-- The user and the password that a header holds. -/
def readBasic? (value : String) : Option (String × String) := do
  let text ← stripPrefix? "Basic ".toList value.toList
  let (username, password) ← cutFirst? ':' (← decodeUtf8? (← decodeStandard? text))
  return (String.ofList username, String.ofList password)

/-- A user and a password in base64. -/
def basicText (username password : String) : List Char :=
  base64 (utf8 (username ++ ":" ++ password).toList)

/-- The value of the header, as characters. -/
theorem toList_basic (username password : String) :
    ("Basic " ++ String.ofList (basicText username password)).toList =
      "Basic ".toList ++ basicText username password :=
  String.toList_append.trans (congrArg _ String.toList_ofList)

/-- A user and a password can be sent, whatever they are. -/
theorem header_basic (username password : String) :
    (basic username password).header =
      .ok (some ("Basic " ++ String.ofList (basicText username password))) := by
  have hvalue : (basic username password).headerValue =
      some ("Basic " ++ String.ofList (basicText username password)) := by
    rw [headerValue, Http.basicCredentials, basicText, String.toList_append, String.toList_append,
      List.append_assoc]
    rfl
  have hsent : Http.isHeaderValue
      ("Basic " ++ String.ofList (basicText username password)).toList = true := by
    rw [toList_basic, isHeaderValue_append, basicText, isHeaderValue_base64]
    rfl
  rw [header, hvalue]
  exact if_pos hsent

/-- A user without a colon is read off the header again, and so is the password. -/
theorem readBasic?_basic {username : String} (h : ':' ∉ username.toList) (password : String) :
    readBasic? ("Basic " ++ String.ofList (basicText username password)) =
      some (username, password) := by
  have hcut : cutFirst? ':' (username ++ ":" ++ password).toList =
      some (username.toList, password.toList) := by
    refine cutFirst?_eq_some_iff.2 ⟨?_, h⟩
    rw [String.toList_append, String.toList_append, List.append_assoc]
    rfl
  rw [readBasic?, stripPrefix?_eq_some_iff.2 (toList_basic username password)]
  simp only [Option.bind_eq_bind, Option.bind_some, basicText, decodeStandard?_base64,
    decodeUtf8?_utf8, hcut, String.ofList_toList]
  rfl

/-- A token can be sent exactly if it can stand in a header. -/
theorem header_bearer (token : String) :
    (bearer token).header =
      if Http.isHeaderValue token.toList then .ok (some ("Bearer " ++ token))
      else .error refusal := by
  have hvalue : Http.isHeaderValue ("Bearer " ++ token).toList =
      Http.isHeaderValue token.toList := by
    rw [String.toList_append, isHeaderValue_append]
    rfl
  rw [header, headerValue]
  dsimp only
  rw [hvalue]
  rfl

end Credentials

/-! ### Sessions without a header -/

namespace CatalogSource

variable {s : CatalogSource} {e : RegistryError}

/-- The paths of the registry lead to the origin of the base URL. -/
theorem endpoint_v2_own (hbase : s.base.IsWeb) (hhost : s.base.host?.isSome = true)
    (rest : List Char) :
    ∃ url, s.endpoint ("v2/".toList ++ rest) = .ok url ∧
      ∀ query, { url with query := query }.sameOrigin s.base = true :=
  ⟨_, endpoint_v2 hbase rest, fun _ => sameOrigin_of_eq hbase.kind hhost rfl rfl⟩

/-- Without a header nothing is asked of the origin of the base URL. -/
theorem request_refused {url : Url} (hauth : s.config.auth.header = .error e)
    (hown : url.sameOrigin s.base = true) (n : Network) : s.request url n = (.error e, n) := by
  rw [request_apply, credentialsFor, if_pos hown, hauth]

/-- An operation of a source whose header cannot be sent fails for that, and leaves the network as
it was. -/
theorem perform_refused (hbase : s.base.IsWeb) (hhost : s.base.host?.isSome = true)
    (hauth : s.config.auth.header = .error e) (op : Operation) (n : Network) :
    s.perform op n = (.error e, n) := by
  -- Each operation first finds its URL, which needs no header, and then asks for it.
  cases op with
  | retrieve bound =>
    obtain ⟨url, hurl, hown⟩ := endpoint_v2_own hbase hhost "_catalog".toList
    have hfirst : s.firstPage =
        .ok { url with query := some ("n=" ++ toString s.config.pageSize).toList } := by
      rw [firstPage, show s.endpoint "v2/_catalog".toList = _ from hurl]
      rfl
    rw [perform, retrieve_apply, hfirst]
    dsimp only
    rw [Pager.list, pager, request_refused hauth (hown _)]
  | ping =>
    obtain ⟨url, hurl, hown⟩ := endpoint_v2_own hbase hhost []
    rw [perform, ping, show s.endpoint "v2/".toList = _ from hurl]
    show (((s.request url >>= _) >>= _ : CatalogM _) n) = _
    rw [bind_apply, bind_apply, request_refused hauth (hown url.query)]
  | listTags repository =>
    obtain ⟨url, hurl, hown⟩ := endpoint_v2_own hbase hhost
      (trimStartOf '/' repository.toList ++ "/tags/list".toList)
    rw [perform, listTags, show s.endpoint (tagsPath repository) = _ from hurl]
    show ((s.request url >>= _ : CatalogM _) n) = _
    rw [bind_apply, request_refused hauth (hown url.query)]

/-- A session without a header sends nothing. -/
theorem session_refused (hbase : s.base.IsWeb) (hhost : s.base.host?.isSome = true)
    (hauth : s.config.auth.header = .error e) (ops : List Operation) (n : Network) :
    s.session ops n = (ops.map fun _ => .error e, n) := by
  induction ops with
  | nil => rfl
  | cons op ops ih =>
    rw [session, Http.bind_apply, Http.bind_apply]
    -- The network is left as it was, so the next operation starts from the same one.
    rw [show (s.perform op).run n = _ from perform_refused hbase hhost hauth op n, ih]
    rfl

/-- Credentials are sent as they are, or not at all. The header of a user and a password holds both
in base64, whatever they are, so that a user without a colon and the password can be read off it.
With a token that cannot stand in a header, all operations of all sessions fail, and the network is
left as it was. -/
theorem credentials_intact_or_refused :
    (∀ username password : String, ∃ text : List Char,
      (Credentials.basic username password).header = .ok (some ("Basic " ++ String.ofList text)) ∧
        decodeStandard? text = some (utf8 (username ++ ":" ++ password).toList) ∧
        (':' ∉ username.toList →
          Credentials.readBasic? ("Basic " ++ String.ofList text) = some (username, password))) ∧
    ∀ (files : Files) (config : RegistryConfig) (s : CatalogSource) (token : String),
      create files config = .ok s → s.base.kind = .web → config.auth = .bearer token →
        Http.isHeaderValue token.toList = false →
          ∀ (ops : List Operation) (n : Network),
            s.session ops n = (ops.map fun _ => .error Credentials.refusal, n) := by
  constructor
  · intro username password
    exact ⟨Credentials.basicText username password, Credentials.header_basic username password,
      decodeStandard?_eq_some_iff.2 rfl, fun hcolon => Credentials.readBasic?_basic hcolon password⟩
  · intro files config s token hs hkind hauth htoken
    obtain ⟨hconfig, hbase⟩ := of_create hs
    have hrefused : s.config.auth.header = .error Credentials.refusal := by
      rw [hconfig, hauth, Credentials.header_bearer, htoken]
      rfl
    exact session_refused ⟨hkind, RegistryConfig.baseUrl_hasSegments hbase⟩
      (RegistryConfig.baseUrl_host hbase) hrefused

/-- A password with a colon, and a token of two lines. -/
theorem credentials_intact_or_refused_two_lines :
    let config : RegistryConfig := { url := "http://registry.test", auth := .bearer "t\nX: y" }
    let base : Url := ⟨"http".toList, some ⟨[], [], .name "registry.test".toList, none⟩,
      .segments [[]], none, none⟩
    let s : CatalogSource := ⟨config, base⟩
    let n : Network := ⟨["http".toList], [.answered { body := utf8 "[[\"a\"]]".toList }], []⟩
    ((Credentials.basic "ü" "a:b").header = .ok (some "Basic w7w6YTpi") ∧
      Credentials.readBasic? "Basic w7w6YTpi" = some ("ü", "a:b")) ∧
    create (fun _ => .error .absent) config = .ok s ∧
    s.session [.retrieve 0, .ping, .listTags "lib/x"] n =
      (List.replicate 3 (.error Credentials.refusal), n) := by
  intro config base s n
  obtain ⟨hbasic, hbearer⟩ := credentials_intact_or_refused
  have hs : create (fun _ => .error .absent) config = .ok s := eq_ok_of_toOption (by decide +kernel)
  refine ⟨?_, hs, hbearer _ config s _ hs (by decide +kernel) rfl (by decide) _ n⟩
  obtain ⟨text, hheader, -, hread⟩ := hbasic "ü" "a:b"
  have hvalue : (Credentials.basic "ü" "a:b").header = .ok (some "Basic w7w6YTpi") :=
    eq_ok_of_toOption (by decide +kernel)
  have htext : "Basic " ++ String.ofList text = "Basic w7w6YTpi" :=
    Option.some.inj (Except.ok.inj (hheader.symm.trans hvalue))
  exact ⟨hvalue, htext ▸ hread (by decide)⟩

end CatalogSource

end ImageSync
