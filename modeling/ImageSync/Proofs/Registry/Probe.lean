import ImageSync.Proofs.Http.Ending
import ImageSync.Proofs.Registry.CatalogPaging
import ImageSync.Registry.Source

/-!
# `ImageSync.Proofs.Registry.Probe`: what a probe reports

A probe asks a registry whether it is there. `Source.Answers` says what the registry answers in the
end, by the networks and the services before and after: for a managed registry the outcome of its
call, and for a catalog the last reply, if this is an answer that leads no further. The probe comes
to what is answered, and a fault is reported as that of the registry (`Source.ping_reports`).

A catalog may answer nothing: there is no connection, or it is closed or silent, and redirects do
not end or lead to where no request can go. The probe then fails as any other request does, and not
as a probe (`Source.ping_unanswered`).
-/

set_option autoImplicit false

namespace ImageSync

open Http (Network Reply Request Response SendFault LastExchange)

namespace Source

/-- The name that a source goes by in the report of a probe. -/
def name : Source → String
  | managed c => c.registry
  | catalog s => s.base.render

/-- A source that can ask: there is a handle, or the next attempt to connect succeeds, or the
credentials can be sent. -/
def IsReady : Source → SourceState → Prop
  | managed c, st => (c.ensureHandle st.ecr).1 = .ok ()
  | catalog s, _ => (∃ files config, CatalogSource.create files config = .ok s) ∧
    ∃ v, s.config.auth.header = .ok v

/-- What the service behind a managed registry answers a probe with. -/
def serviceAnswer : Option String → Except ProbeFault Unit
  | none => .ok ()
  | some reason => .error (.service reason)

/-- What a registry answers in the end, between two states. -/
inductive Answers (st st' : SourceState) : Source → Except ProbeFault Unit → Prop where
  | service {c : EcrConfig} (hcalled : st'.ecr.service.calls.getLast? = some .describeRegistry) :
      Answers st st' (managed c) (serviceAnswer (st.ecr.service.probes.headD none))
  | success {s : CatalogSource} {request : Request} {r : Response}
      (hlast : LastExchange st.network st'.network request (.answered r))
      (hsuccess : r.isSuccess = true) : Answers st st' (catalog s) (.ok ())
  | failure {s : CatalogSource} {request : Request} {r : Response}
      (hlast : LastExchange st.network st'.network request (.answered r))
      (hsuccess : r.isSuccess = false) (hstays : Http.redirectTarget? request.url r = none) :
      Answers st st' (catalog s) (.error (.status r.status r.text))

end Source

/-! ### Managed registries -/

namespace EcrConfig

variable {c : EcrConfig} {s : EcrState}

/-- An attempt to connect leaves the outcomes of the probes as they are. -/
theorem probes_ensureHandle (c : EcrConfig) (s : EcrState) :
    (c.ensureHandle s).2.service.probes = s.service.probes := by
  cases hconnected : s.connected with
  | true => rw [ensureHandle_of_connected c hconnected]
  | false =>
    rw [ensureHandle_of_not_connected c hconnected, EcrService.connect]
    rcases EcrService.nextOutcome s.service.connects with ⟨reason | ⟨⟩, rest⟩ <;> rfl

/-- With a handle the next outcome of a probe is reported. -/
theorem ping_of_handle (h : (c.ensureHandle s).1 = .ok ()) :
    (c.ping s).1 = (Source.serviceAnswer (s.service.probes.headD none)).mapError
        (.pingFailed c.registry) ∧
      (c.ping s).2.service.calls.getLast? = some .describeRegistry := by
  -- Getting the handle may use up an attempt to connect, but no outcome of a probe.
  have hprobes := c.probes_ensureHandle s
  rw [ping, bind_apply]
  rcases hensure : c.ensureHandle s with ⟨e | ⟨⟩, s'⟩
  · rw [hensure] at h
    cases h
  · rw [hensure] at hprobes
    obtain ⟨connected, connects, probes, holdings, calls⟩ := s'
    obtain rfl : probes = s.service.probes := hprobes
    refine ⟨?_, ?_⟩
    · rcases s.service.probes with _ | ⟨_ | reason, rest⟩ <;> rfl
    · rcases s.service.probes with _ | ⟨_ | reason, rest⟩ <;> exact List.getLast?_concat

end EcrConfig

/-! ### Catalogs -/

namespace CatalogSource

variable {files : Files} {config : RegistryConfig} {s : CatalogSource} {v : Option String}
  {n : Network}

/-- The credentials for a URL can be sent if the header can. -/
theorem exists_credentialsFor (hv : s.config.auth.header = .ok v) (url : Url) :
    ∃ a, s.credentialsFor url = .ok a := by
  rw [credentialsFor]
  split
  · exact ⟨v, hv⟩
  · exact ⟨none, rfl⟩

/-- What a probe reports of its call. -/
def report (s : CatalogSource) : Except SendFault Response → Except RegistryError Unit
  | .ok r =>
    if r.isSuccess then .ok () else .error (.pingFailed s.base.render (.status r.status r.text))
  | .error fault => .error (.ofSendFault fault)

/-- A probe is one call for a URL of the registry. -/
theorem exists_ping (hs : create files config = .ok s) (hv : s.config.auth.header = .ok v)
    (n : Network) :
    ∃ url a, s.endpoint "v2/".toList = .ok url ∧
      s.ping n = (s.report (Http.send s.config.client url a n).1,
        (Http.send s.config.client url a n).2) := by
  have hread : Url.Reference.read "v2/".toList = ⟨none, "v2/".toList, none, none⟩ := by decide
  obtain ⟨url, hurl⟩ := exists_endpoint hs hread rfl
  obtain ⟨a, ha⟩ := exists_credentialsFor hv url
  refine ⟨url, a, hurl, ?_⟩
  -- The credentials can be sent, so the request is the call itself.
  have hrequest : s.request url n =
      ((Http.send s.config.client url a n).1.mapError RegistryError.ofSendFault,
        (Http.send s.config.client url a n).2) := by
    rw [request_apply, ha]
  rw [ping, hurl]
  show (s.request url >>= _ : CatalogM _) n = _
  rw [bind_apply, hrequest]
  rcases Http.send s.config.client url a n with ⟨fault | r, n'⟩
  · rfl
  · show (ite (α := CatalogM _) _ _ _) n' = _
    rw [report]
    cases r.isSuccess <;> rfl

end CatalogSource

/-! ### Reports -/

namespace Source

variable {src : Source} {st : SourceState}

/-- The fault of a call is not reported as that of a probe. -/
theorem ofSendFault_ne_pingFailed (fault : SendFault) (registry : String) (probe : ProbeFault) :
    RegistryError.ofSendFault fault ≠ .pingFailed registry probe := by
  cases fault <;> nofun

/-- The report of a probe holds its answer. -/
theorem mapError_pingFailed_inj {registry : String} {answer answer' : Except ProbeFault Unit}
    (h : answer.mapError (RegistryError.pingFailed registry) =
      answer'.mapError (.pingFailed registry)) : answer = answer' := by
  cases answer with
  | ok =>
    cases answer' with
    | ok => rfl
    | error fault' => cases h
  | error fault =>
    cases answer' with
    | ok => cases h
    | error fault' =>
      cases h
      rfl

/-- What is reported of a call is what the registry answers, if it answers. -/
theorem answers_iff_report {s : CatalogSource} {st' : SourceState} {url : Url}
    {outcome : Except SendFault Response}
    (h : Http.Ended url st.network st'.network outcome) (answer : Except ProbeFault Unit) :
    Answers st st' (catalog s) answer ↔
      s.report outcome = answer.mapError (.pingFailed s.base.render) := by
  constructor
  · intro hanswer
    cases hanswer with
    | success hlast hsuccess =>
      rw [h.eq_ok hlast (Http.redirectTarget?_of_isSuccess hsuccess _)]
      exact if_pos hsuccess
    | failure hlast hsuccess hstays =>
      rw [h.eq_ok hlast hstays, CatalogSource.report, hsuccess]
      rfl
  · intro hreport
    -- A report that names the registry comes from an answer: the fault of a call is reported under
    -- another kind.
    cases outcome with
    | error fault =>
      cases answer with
      | ok => cases hreport
      | error probe =>
        exact absurd (Except.error.inj hreport) (ofSendFault_ne_pingFailed fault _ probe)
    | ok r =>
      obtain ⟨request, hlast, hstays⟩ : ∃ request,
          LastExchange st.network st'.network request (.answered r) ∧
            Http.redirectTarget? request.url r = none := by
        cases h with
        | answered hlast hstays => exact ⟨_, hlast, hstays⟩
      rw [CatalogSource.report] at hreport
      cases hsuccess : r.isSuccess with
      | true =>
        rw [hsuccess] at hreport
        cases answer with
        | ok => exact .success hlast hsuccess
        | error probe => cases hreport
      | false =>
        rw [hsuccess] at hreport
        cases answer with
        | ok => cases hreport
        | error probe =>
          cases hreport
          exact .failure hlast hsuccess hstays

/-- A probe comes to what the registry answers: to a success, or to a fault that is reported as a
failed probe, with the name of the registry. Only a catalog may answer nothing. The probe then comes
to the fault in which its call has ended, and not to a failed probe. -/
theorem ping_reports (hready : src.IsReady st) :
    (∀ answer, Answers st (src.ping st).2 src answer ↔
      (src.ping st).1 = answer.mapError (.pingFailed src.name)) ∧
    ∀ e, (src.ping st).1 = .error e → (∀ fault, e ≠ .pingFailed src.name fault) →
      ∃ s url fault, src = catalog s ∧ s.endpoint "v2/".toList = .ok url ∧
        e = .ofSendFault fault ∧
        Http.Ended url st.network (src.ping st).2.network (.error fault) := by
  cases src with
  | managed c =>
    obtain ⟨houtcome, hcalled⟩ := EcrConfig.ping_of_handle hready
    have hfst : ((managed c).ping st).1 = (c.ping st.ecr).1 := rfl
    rw [hfst, houtcome]
    refine ⟨fun answer => ⟨?_, fun heq => ?_⟩, fun e he hother => ?_⟩
    · rintro ⟨-⟩
      rfl
    · exact mapError_pingFailed_inj heq ▸ .service hcalled
    · cases hanswer : serviceAnswer (st.ecr.service.probes.headD none) with
      | ok =>
        rw [hanswer] at he
        cases he
      | error fault =>
        rw [hanswer] at he
        exact absurd (Except.error.inj he).symm (hother fault)
  | catalog s =>
    obtain ⟨⟨files, config, hs⟩, v, hv⟩ := hready
    obtain ⟨url, a, hurl, hping⟩ := CatalogSource.exists_ping hs hv st.network
    -- Of the ways in which the call of the probe can end, only the first has an answer.
    have hended := Http.ended_send s.config.client url a st.network
    have hfst : ((catalog s).ping st).1 =
        s.report (Http.send s.config.client url a st.network).1 := congrArg Prod.fst hping
    have hsnd : ((catalog s).ping st).2.network =
        (Http.send s.config.client url a st.network).2 := congrArg Prod.snd hping
    rw [← hsnd] at hended
    rw [hfst]
    refine ⟨answers_iff_report hended, fun e he hother => ?_⟩
    generalize (Http.send s.config.client url a st.network).1 = outcome at he hended
    cases outcome with
    | error fault =>
      exact ⟨s, url, fault, rfl, hurl, (Except.error.inj he).symm, hended⟩
    | ok r =>
      rw [CatalogSource.report] at he
      split at he
      · cases he
      · exact absurd (Except.error.inj he).symm (hother _)

/-- A managed registry that denies a probe, and a catalog that redirects it and then wants to know
who asks. -/
theorem ping_reports_denied :
    let m := managed ⟨"registry", "region", "account", 100⟩
    let config : RegistryConfig := { url := "http://registry.test" }
    let s : CatalogSource := ⟨config, ⟨"http".toList,
      some ⟨[], [], .name "registry.test".toList, none⟩, .segments [[]], none, none⟩⟩
    let st : SourceState := ⟨⟨false, ⟨[], [some "denied"], .pages [], []⟩⟩, ⟨["http".toList], [
      .answered { status := 302, headers := [("Location", "/v2")] },
      .answered { status := 401, body := Text.utf8 "who?".toList }], []⟩⟩
    (m.IsReady st ∧ (m.ping st).1 = .error (.pingFailed "registry" (.service "denied")) ∧
      Answers st (m.ping st).2 m (.error (.service "denied"))) ∧
    (catalog s).IsReady st ∧
      ((catalog s).ping st).1 =
        .error (.pingFailed "http://registry.test/" (.status 401 "who?")) ∧
      Answers st ((catalog s).ping st).2 (catalog s) (.error (.status 401 "who?")) := by
  intro m config s st
  have hs : CatalogSource.create (fun _ => .error .absent) config = .ok s :=
    eq_ok_of_toOption (by decide +kernel)
  have hm : m.IsReady st := rfl
  have hc : (catalog s).IsReady st := ⟨⟨_, _, hs⟩, none, rfl⟩
  have hdenied : (m.ping st).1 = .error (.pingFailed "registry" (.service "denied")) := rfl
  have hasked : ((catalog s).ping st).1 =
      .error (.pingFailed "http://registry.test/" (.status 401 "who?")) :=
    eq_error_of_error? (by decide +kernel)
  have hname : (catalog s).name = "http://registry.test/" := by decide +kernel
  refine ⟨⟨hm, hdenied, ((ping_reports hm).1 _).2 hdenied⟩, hc, hasked, ?_⟩
  refine ((ping_reports hc).1 _).2 ?_
  rw [hasked, hname]
  rfl

/-- Six ways in which a catalog answers nothing: there is no connection, it is closed or silent, and
redirects lead back to where they come from, to where no request can go, and to where there is no
connection. The probe fails each time, and none is reported as a failed probe. -/
theorem ping_unanswered :
    let config : RegistryConfig := { url := "http://registry.test" }
    let s : CatalogSource := ⟨config, ⟨"http".toList,
      some ⟨[], [], .name "registry.test".toList, none⟩, .segments [[]], none, none⟩⟩
    let state (replies : List Reply) : SourceState :=
      ⟨⟨true, ⟨[], [], .pages [], []⟩⟩, ⟨["http".toList], replies, []⟩⟩
    let outcome (replies : List Reply) : Except RegistryError Unit :=
      ((catalog s).ping (state replies)).1
    let redirect (target : String) : Reply :=
      .answered { status := 302, headers := [("Location", target)] }
    (∀ st, (catalog s).IsReady st) ∧
    outcome [.refused] =
      .error (.connectionFailed "http://registry.test/v2/"
        "error sending request for url (http://registry.test/v2/)") ∧
    outcome [.closed] =
      .error (.httpError 0 "error sending request for url (http://registry.test/v2/)") ∧
    outcome [.silent] =
      .error (.httpError 0 "error sending request for url (http://registry.test/v2/)") ∧
    outcome (List.replicate 11 (redirect "/v2/")) =
      .error (.httpError 0 "error following redirect for url (http://registry.test/v2/)") ∧
    outcome [redirect "ftp://mirror.test/"] =
      .error (.httpError 0 "builder error for url (ftp://mirror.test/)") ∧
    outcome [redirect "https://mirror.test/"] =
      .error (.connectionFailed "https://mirror.test/"
        "error sending request for url (https://mirror.test/)") ∧
    ¬∀ (src : Source) (st : SourceState) (e : RegistryError), src.IsReady st →
      (src.ping st).1 = .error e → ∃ fault, e = .pingFailed src.name fault := by
  intro config s state outcome redirect
  have hs : CatalogSource.create (fun _ => .error .absent) config = .ok s :=
    eq_ok_of_toOption (by decide +kernel)
  have hready : ∀ st, (catalog s).IsReady st := fun _ => ⟨⟨_, _, hs⟩, none, rfl⟩
  have hclosed : outcome [.closed] =
      .error (.httpError 0 "error sending request for url (http://registry.test/v2/)") :=
    eq_error_of_error? (by decide +kernel)
  refine ⟨hready, ?_, hclosed, ?_, ?_, ?_, ?_, fun hreported => ?_⟩
  · exact eq_error_of_error? (by decide +kernel)
  · exact eq_error_of_error? (by decide +kernel)
  · exact eq_error_of_error? (by decide +kernel)
  · exact eq_error_of_error? (by decide +kernel)
  · exact eq_error_of_error? (by decide +kernel)
  · obtain ⟨fault, hfault⟩ := hreported _ _ _ (hready _) hclosed
    cases hfault

end Source

end ImageSync
