import ImageSync.Proofs.Registry.CredentialScope
import ImageSync.Proofs.Registry.Pagers

/-!
# `ImageSync.Proofs.Registry.ServiceHandle`: the handle of a managed registry

A managed registry is listed through a service handle. The first operation that needs the
handle asks for it, and all later ones share it. Here this is followed through sessions: any
operations one after the other, against any script of the outcomes of attempts to connect and
any service behind them.

The script says which attempts succeed, so that the calls on record say whether one has
(`Succeeded`). `Lawful` says what an operation may do at such a point: when it connects, what
it asks for first, and what it comes to if there is no handle. The main statement is
`session_lawful`: every operation of every session is lawful.

Its invariant is `Handle`: there is a handle exactly if an attempt has succeeded, and every
attempt but the last has failed. The step is `perform_lawful`. It rests on what the parts of an
operation do to the record: an attempt to connect adds one entry (`ensureHandle_eq`), and all
that is done with a handle adds calls that do not connect (`Worked`).
-/

set_option autoImplicit false

namespace ImageSync

open CatalogSource (Operation)

/-! ### Sessions -/

/-- Whether a call asks for a handle. -/
def EcrCall.isConnect : EcrCall → Bool
  | connect _ => true
  | describeRepositories _ => false
  | describeRegistry => false

/-- The number of attempts to connect among some calls. -/
def attempts (calls : List EcrCall) : Nat := calls.countP EcrCall.isConnect

/-- One of the attempts to connect among some calls has succeeded: the script has no failure
for it. -/
def Succeeded (script : List (Option String)) (calls : List EcrCall) : Prop :=
  ∃ i < attempts calls, script.getD i none = none

namespace EcrConfig

/-- Whether an operation needs the handle. -/
def needsHandle : Operation → Bool
  | .retrieve _ => true
  | .ping => true
  | .listTags _ => false

/-- Performs an operation. A probe that succeeds lists nothing. -/
def perform (c : EcrConfig) : Operation → EcrM (List String)
  | .retrieve bound => c.retrieve bound
  | .ping => do
    c.ping
    return []
  | .listTags repository => c.listTags repository

/-- An operation of a session, with what it came to and the states around it. -/
structure Step where
  operation : Operation
  before : EcrState
  outcome : Except RegistryError (List String)
  after : EcrState

/-- The calls of an operation. -/
def Step.made (t : Step) : List EcrCall :=
  t.after.service.calls.drop t.before.service.calls.length

/-- Performs operations one after the other, whether those before succeed or not. -/
def session (c : EcrConfig) : List Operation → EcrState → List Step
  | [], _ => []
  | op :: ops, s =>
    ⟨op, s, (c.perform op s).1, (c.perform op s).2⟩ :: c.session ops (c.perform op s).2

/-- What an operation may do, given a script of the attempts to connect. -/
structure Lawful (c : EcrConfig) (script : List (Option String)) (t : Step) : Prop where
  /-- What is on record stays there. -/
  record : t.after.service.calls = t.before.service.calls ++ t.made
  /-- There is a handle exactly if an attempt has succeeded. -/
  heldBefore : t.before.connected = true ↔ Succeeded script t.before.service.calls
  heldAfter : t.after.connected = true ↔ Succeeded script t.after.service.calls
  /-- Every attempt but the last has failed. -/
  once : ∀ i, i + 1 < attempts t.after.service.calls → script.getD i none ≠ none
  /-- Without one, an operation that needs it connects first, to the configured region, and not
  again. -/
  connects : needsHandle t.operation = true → ¬Succeeded script t.before.service.calls →
    ∃ rest, t.made = .connect c.region :: rest ∧ ∀ call ∈ rest, call.isConnect = false
  /-- Nothing else connects. -/
  quiet : needsHandle t.operation = false ∨ Succeeded script t.before.service.calls →
    ∀ call ∈ t.made, call.isConnect = false
  /-- An attempt that fails is the end of the operation. -/
  refused : ∀ reason, needsHandle t.operation = true →
    ¬Succeeded script t.before.service.calls →
    script.getD (attempts t.before.service.calls) none = some reason →
      t.made = [.connect c.region] ∧ t.outcome = .error (.serviceUnavailable c.region reason)
  /-- A listing with a handle starts without a token. -/
  fresh : ∀ bound, t.operation = .retrieve bound →
    Succeeded script t.after.service.calls →
      ∃ rest, t.made.filter (fun call => !call.isConnect) =
        .describeRepositories (c.pageRequest none) :: rest
  /-- A listing of tags does nothing. -/
  listTags : ∀ repository, t.operation = .listTags repository →
    t.made = [] ∧ t.after = t.before ∧ t.outcome = .ok []

/-! ### The handle -/

/-- What holds between the operations of a session. -/
structure Handle (script : List (Option String)) (s : EcrState) : Prop where
  /-- The outcomes of the attempts so far are used up. -/
  rest : s.service.connects = script.drop (attempts s.service.calls)
  held : s.connected = true ↔ Succeeded script s.service.calls
  /-- After an attempt that succeeded there is no other. -/
  once : ∀ i, i + 1 < attempts s.service.calls → script.getD i none ≠ none

variable {script : List (Option String)} {s s' : EcrState}

/-- Attempts to connect are counted call by call. -/
theorem attempts_append (calls more : List EcrCall) :
    attempts (calls ++ more) = attempts calls + attempts more := List.countP_append ..

/-- A call to connect is one more attempt. -/
theorem attempts_connect (calls : List EcrCall) (region : String) :
    attempts (calls ++ [.connect region]) = attempts calls + 1 :=
  attempts_append calls [.connect region]

/-- Other calls are no attempts. -/
theorem attempts_eq_zero {calls : List EcrCall} (h : ∀ call ∈ calls, call.isConnect = false) :
    attempts calls = 0 := by
  refine List.countP_eq_zero.2 fun call hcall => ?_
  rw [h call hcall]
  nofun

/-- Calls that do not connect do not change whether an attempt has succeeded. -/
theorem succeeded_append_iff {calls more : List EcrCall}
    (h : ∀ call ∈ more, call.isConnect = false) :
    Succeeded script (calls ++ more) ↔ Succeeded script calls := by
  rw [Succeeded, Succeeded, attempts_append, attempts_eq_zero h, Nat.add_zero]

/-- An attempt more has succeeded if one before had, or its own outcome is not a failure. -/
theorem succeeded_connect_iff {calls : List EcrCall} {region : String} :
    Succeeded script (calls ++ [.connect region]) ↔
      Succeeded script calls ∨ script.getD (attempts calls) none = none := by
  rw [Succeeded, Succeeded, attempts_connect]
  constructor
  · rintro ⟨i, hi, hnone⟩
    rcases Nat.lt_succ_iff_lt_or_eq.1 hi with hi | rfl
    · exact .inl ⟨i, hi, hnone⟩
    · exact .inr hnone
  · rintro (⟨i, hi, hnone⟩ | hnone)
    · exact ⟨i, Nat.lt_succ_of_lt hi, hnone⟩
    · exact ⟨_, Nat.lt_succ_self _, hnone⟩

/-- A session starts without a handle. -/
theorem handle_start (script probes : List (Option String)) (holdings : Holdings) :
    Handle script ⟨false, ⟨script, probes, holdings, []⟩⟩ where
  rest := rfl
  held := by
    constructor
    · nofun
    · rintro ⟨i, hi, -⟩
      exact absurd hi (Nat.not_lt_zero i)
  once := fun i hi => absurd hi (Nat.not_lt_zero _)

/-- The state after an attempt to connect. -/
def attempted (c : EcrConfig) (connected : Bool) (s : EcrState) : EcrState :=
  ⟨connected, { s.service with
    connects := s.service.connects.drop 1
    calls := s.service.calls ++ [.connect c.region] }⟩

/-- The next outcome is the first one of the script, and a script that is used up lets all attempts
succeed. -/
theorem nextOutcome_eq (script : List (Option String)) :
    EcrService.nextOutcome script =
      (match script.getD 0 none with
        | none => .ok ()
        | some reason => .error reason,
      script.drop 1) := by
  rcases script with _ | ⟨_ | reason, rest⟩ <;> rfl

/-- Without a handle, the script decides what becomes of the attempt. -/
theorem ensureHandle_eq (c : EcrConfig) (h : Handle script s) (hnot : s.connected = false) :
    c.ensureHandle s =
      match script.getD (attempts s.service.calls) none with
      | none => (.ok (), c.attempted true s)
      | some reason => (.error (.serviceUnavailable c.region reason), c.attempted false s) := by
  have hnext : s.service.connects.getD 0 none = script.getD (attempts s.service.calls) none := by
    rw [h.rest]
    simp [List.getD_eq_getElem?_getD]
  rw [ensureHandle_of_not_connected c hnot, EcrService.connect, nextOutcome_eq, hnext]
  cases script.getD (attempts s.service.calls) none <;> rfl

/-- Without a handle, no attempt has succeeded. -/
theorem Handle.not_succeeded (h : Handle script s) (hnot : s.connected = false) :
    ¬Succeeded script s.service.calls := by
  rw [← h.held, hnot]
  nofun

/-- An attempt keeps what holds between operations, if its outcome is the next in the script. -/
theorem Handle.attempted (c : EcrConfig) (h : Handle script s) (hnot : s.connected = false)
    {connected : Bool}
    (houtcome : connected = true ↔ script.getD (attempts s.service.calls) none = none) :
    Handle script (c.attempted connected s) where
  rest := by
    show s.service.connects.drop 1 = script.drop (attempts (s.service.calls ++ _))
    rw [h.rest, List.drop_drop, attempts_connect]
  held := by
    show connected = true ↔ Succeeded script (s.service.calls ++ _)
    rw [succeeded_connect_iff, houtcome]
    exact ⟨.inr, fun hor => hor.resolve_left (h.not_succeeded hnot)⟩
  once := by
    intro i hi
    have hlt : i + 1 < attempts (s.service.calls ++ [.connect c.region]) := hi
    rw [attempts_connect] at hlt
    -- No attempt before this one has succeeded, or there would be a handle.
    exact fun hnone => h.not_succeeded hnot ⟨i, Nat.lt_of_succ_lt_succ hlt, hnone⟩

/-- An attempt that succeeds leads to a handle. -/
theorem Handle.connected (c : EcrConfig) (h : Handle script s) (hnot : s.connected = false)
    (hnone : script.getD (attempts s.service.calls) none = none) :
    Handle script (c.attempted true s) :=
  h.attempted c hnot ⟨fun _ => hnone, fun _ => rfl⟩

/-- An attempt that fails leads to none. -/
theorem Handle.refused (c : EcrConfig) (h : Handle script s) (hnot : s.connected = false)
    {reason : String} (hreason : script.getD (attempts s.service.calls) none = some reason) :
    Handle script (c.attempted false s) := by
  refine h.attempted c hnot ⟨nofun, fun hnone => ?_⟩
  rw [hreason] at hnone
  cases hnone

/-! ### The rest of an operation -/

/-- What is done with a handle between two states: these calls, none of which connects. -/
structure Worked (s s' : EcrState) (made : List EcrCall) : Prop where
  connected : s'.connected = s.connected
  connects : s'.service.connects = s.service.connects
  calls : s'.service.calls = s.service.calls ++ made
  quiet : ∀ call ∈ made, call.isConnect = false

/-- Nothing is done between a state and itself. -/
theorem Worked.refl (s : EcrState) : Worked s s [] :=
  ⟨rfl, rfl, (List.append_nil _).symm, nofun⟩

/-- What is done in two parts is done in all, the calls of the first part first. -/
theorem Worked.trans {s t u : EcrState} {made more : List EcrCall} (hst : Worked s t made)
    (htu : Worked t u more) : Worked s u (made ++ more) where
  connected := htu.connected.trans hst.connected
  connects := htu.connects.trans hst.connects
  calls := by rw [htu.calls, hst.calls, List.append_assoc]
  quiet := by
    intro call hcall
    rcases List.mem_append.1 hcall with hcall | hcall
    · exact hst.quiet call hcall
    · exact htu.quiet call hcall

/-- Work keeps what holds between operations. -/
theorem Worked.handle {made : List EcrCall} (hworked : Worked s s' made)
    (h : Handle script s) : Handle script s' where
  rest := by
    rw [hworked.connects, hworked.calls, attempts_append, attempts_eq_zero hworked.quiet]
    exact h.rest
  held := by
    rw [hworked.connected, hworked.calls, succeeded_append_iff hworked.quiet]
    exact h.held
  once := by
    rw [hworked.calls, attempts_append, attempts_eq_zero hworked.quiet]
    exact h.once

/-- None of the calls is an attempt to connect. -/
theorem Worked.filter_made {made : List EcrCall} (hworked : Worked s s' made) :
    made.filter (fun call => !call.isConnect) = made := by
  refine List.filter_eq_self.2 fun call hcall => ?_
  rw [hworked.quiet call hcall]
  rfl

/-- A page is one call. -/
theorem worked_pager (c : EcrConfig) (token : Option String) (s : EcrState) :
    Worked s (c.pager token s).2 [.describeRepositories (c.pageRequest token)] := by
  rw [pager_snd]
  exact ⟨rfl, rfl, rfl, by simp [EcrCall.isConnect]⟩

/-- What an operation does with a handle. -/
def work (c : EcrConfig) : Operation → EcrM (List String)
  | .retrieve bound => fun s =>
    c.pager.list (.listFailed c.registry "the pages did not end") bound
      s.service.holdings.pageLimit none [] s
  | .ping => do
    EcrM.call EcrService.describeRegistry fun reason => .pingFailed c.registry (.service reason)
    return []
  | .listTags _ => pure []

/-- An operation that needs the handle gets it first. -/
theorem perform_apply (c : EcrConfig) {op : Operation} (hneeds : needsHandle op = true)
    (s : EcrState) :
    c.perform op s =
      match c.ensureHandle s with
      | (.ok _, s') => c.work op s'
      | (.error e, s') => (.error e, s') := by
  cases op with
  | retrieve bound => exact c.retrieve_apply bound s
  | ping =>
    rw [perform, ping, bind_assoc, bind_apply]
    rcases c.ensureHandle s with ⟨e | ⟨⟩, s'⟩
    · rfl
    · rfl
  | listTags repository => cases hneeds

/-- If something is done in each of two parts, something is done in all. -/
theorem exists_worked_trans {s t u : EcrState} (hst : ∃ made, Worked s t made)
    (htu : ∃ made, Worked t u made) : ∃ made, Worked s u made := by
  obtain ⟨made, hst⟩ := hst
  obtain ⟨more, htu⟩ := htu
  exact ⟨made ++ more, hst.trans htu⟩

/-- A listing makes its first call without a token, and after it the calls for other pages. -/
theorem worked_work_retrieve (c : EcrConfig) (bound : Nat) (s : EcrState) :
    ∃ rest, Worked s (c.work (.retrieve bound) s).2
      (.describeRepositories (c.pageRequest none) :: rest) := by
  obtain ⟨fuel, hfuel⟩ : ∃ fuel, s.service.holdings.pageLimit = fuel + 1 := by
    cases s.service.holdings with
    | pages answers => exact ⟨_, rfl⟩
    | listed names => exact ⟨_, rfl⟩
  have hfirst := c.worked_pager none s
  obtain ⟨rest, hrest⟩ := Pager.list_succ_related (R := fun s s' => ∃ made, Worked s s' made)
    (fun s => ⟨[], .refl s⟩) exists_worked_trans (fun token s => ⟨_, c.worked_pager token s⟩)
    (.listFailed c.registry "the pages did not end") bound fuel none [] s
  refine ⟨rest, ?_⟩
  dsimp only [work]
  rw [hfuel]
  exact hfirst.trans hrest

/-- A probe with a handle is one call. -/
theorem worked_work_ping (c : EcrConfig) (s : EcrState) :
    Worked s (c.work .ping s).2 [.describeRegistry] := by
  -- The state after the call is the same whether it succeeds or not.
  have hstate : (c.work .ping s).2 =
      { s with service := (EcrService.describeRegistry s.service).2 } := by
    rw [work, bind_apply, EcrM.call]
    rcases EcrService.describeRegistry s.service with ⟨reason | ⟨⟩, service⟩
    · rfl
    · rfl
  rw [hstate]
  exact ⟨rfl, rfl, rfl, by simp [EcrCall.isConnect]⟩

/-- Nothing that is done with a handle connects, and a listing starts without a token. -/
theorem worked_work (c : EcrConfig) (op : Operation) (s : EcrState) :
    ∃ made, Worked s (c.work op s).2 made ∧ ∀ bound, op = .retrieve bound →
      ∃ rest, made = .describeRepositories (c.pageRequest none) :: rest := by
  cases op with
  | retrieve bound =>
    obtain ⟨rest, hworked⟩ := c.worked_work_retrieve bound s
    exact ⟨_, hworked, fun _ _ => ⟨rest, rfl⟩⟩
  | ping =>
    refine ⟨_, c.worked_work_ping s, fun bound hop => ?_⟩
    cases hop
  | listTags repository =>
    refine ⟨[], .refl s, fun bound hop => ?_⟩
    cases hop

/-! ### Operations -/

/-- The calls of a step are those behind the ones on record before it. -/
theorem Step.made_eq {t : Step} {made : List EcrCall}
    (h : t.after.service.calls = t.before.service.calls ++ made) : t.made = made := by
  rw [Step.made, h, List.drop_left]

section Lawful

variable {c : EcrConfig} {op : Operation} {outcome : Except RegistryError (List String)}
  {made : List EcrCall}

/-- With a handle, an operation may do any work that starts as it should. -/
theorem lawful_of_connected (h : Handle script s) (hconnected : s.connected = true)
    (hneeds : needsHandle op = true) (hworked : Worked s s' made)
    (hfirst : ∀ bound, op = .retrieve bound →
      ∃ rest, made = .describeRepositories (c.pageRequest none) :: rest) :
    c.Lawful script ⟨op, s, outcome, s'⟩ := by
  have hmade : Step.made ⟨op, s, outcome, s'⟩ = made := Step.made_eq hworked.calls
  -- With a handle an attempt has succeeded, so what is said of the time before does not apply.
  have hsucceeded := h.held.1 hconnected
  constructor
  case record => rw [hmade, hworked.calls]
  case heldBefore => exact h.held
  case heldAfter => exact (hworked.handle h).held
  case once => exact (hworked.handle h).once
  case connects => exact fun _ hnever => absurd hsucceeded hnever
  case quiet =>
    rw [hmade]
    exact fun _ => hworked.quiet
  case refused => exact fun _ _ hnever => absurd hsucceeded hnever
  case fresh =>
    intro bound hop _
    obtain ⟨rest, hrest⟩ := hfirst bound hop
    rw [hmade, hworked.filter_made]
    exact ⟨rest, hrest⟩
  case listTags =>
    intro repository hop
    cases hop
    cases hneeds

/-- Without one, an operation may do such work after an attempt that the script lets succeed. -/
theorem lawful_of_connects (h : Handle script s) (hnot : s.connected = false)
    (hneeds : needsHandle op = true)
    (hnone : script.getD (attempts s.service.calls) none = none)
    (hworked : Worked (c.attempted true s) s' made)
    (hfirst : ∀ bound, op = .retrieve bound →
      ∃ rest, made = .describeRepositories (c.pageRequest none) :: rest) :
    c.Lawful script ⟨op, s, outcome, s'⟩ := by
  -- The attempt comes first, and the calls of the operation follow it.
  have hcalls : s'.service.calls = s.service.calls ++ .connect c.region :: made := by
    rw [hworked.calls]
    exact List.append_assoc _ _ _
  have hmade : Step.made ⟨op, s, outcome, s'⟩ = .connect c.region :: made := Step.made_eq hcalls
  have hnever := h.not_succeeded hnot
  have hafter := hworked.handle (h.connected c hnot hnone)
  constructor
  case record => rw [hmade, hcalls]
  case heldBefore => exact h.held
  case heldAfter => exact hafter.held
  case once => exact hafter.once
  case connects => exact fun _ _ => ⟨made, hmade, hworked.quiet⟩
  case quiet =>
    intro hquiet
    rcases hquiet with hquiet | hsucceeded
    · rw [hneeds] at hquiet
      cases hquiet
    · exact absurd hsucceeded hnever
  case refused =>
    intro reason _ _ hreason
    rw [hnone] at hreason
    cases hreason
  case fresh =>
    intro bound hop _
    obtain ⟨rest, hrest⟩ := hfirst bound hop
    rw [hmade, List.filter_cons_of_neg (by simp [EcrCall.isConnect]), hworked.filter_made]
    exact ⟨rest, hrest⟩
  case listTags =>
    intro repository hop
    cases hop
    cases hneeds

/-- An attempt that the script lets fail is the end of an operation. -/
theorem lawful_of_refused (h : Handle script s) (hnot : s.connected = false)
    (hneeds : needsHandle op = true) {reason : String}
    (hreason : script.getD (attempts s.service.calls) none = some reason) :
    c.Lawful script
      ⟨op, s, .error (.serviceUnavailable c.region reason), c.attempted false s⟩ := by
  have hmade : Step.made ⟨op, s, .error (.serviceUnavailable c.region reason),
      c.attempted false s⟩ = [.connect c.region] := Step.made_eq rfl
  -- There was no handle, and there is none now.
  have hnever := h.not_succeeded hnot
  have hafter := h.refused c hnot hreason
  constructor
  case record => rw [hmade]; rfl
  case heldBefore => exact h.held
  case heldAfter => exact hafter.held
  case once => exact hafter.once
  case connects => exact fun _ _ => ⟨[], hmade, nofun⟩
  case quiet =>
    intro hquiet
    rcases hquiet with hquiet | hsucceeded
    · rw [hneeds] at hquiet
      cases hquiet
    · exact absurd hsucceeded hnever
  case refused =>
    intro reason' _ _ hreason'
    rw [hreason] at hreason'
    cases hreason'
    exact ⟨hmade, rfl⟩
  case fresh =>
    intro bound _ hsucceeded
    have hconnected : false = true := hafter.held.2 hsucceeded
    cases hconnected
  case listTags =>
    intro repository hop
    cases hop
    cases hneeds

/-- A listing of tags leaves everything alone. -/
theorem lawful_of_listTags (c : EcrConfig) (h : Handle script s) (repository : String) :
    c.Lawful script ⟨.listTags repository, s, .ok [], s⟩ := by
  have hmade : Step.made ⟨.listTags repository, s, .ok [], s⟩ = [] :=
    Step.made_eq (List.append_nil _).symm
  constructor
  case record => rw [hmade, List.append_nil]
  case heldBefore => exact h.held
  case heldAfter => exact h.held
  case once => exact h.once
  case connects => nofun
  case quiet =>
    rw [hmade]
    exact fun _ => nofun
  case refused => nofun
  case fresh => nofun
  case listTags => exact fun _ _ => ⟨hmade, rfl, rfl⟩

end Lawful

/-- Every operation is lawful, and keeps what holds between operations. -/
theorem perform_lawful (c : EcrConfig) (op : Operation) (h : Handle script s) :
    c.Lawful script ⟨op, s, (c.perform op s).1, (c.perform op s).2⟩ ∧
      Handle script (c.perform op s).2 := by
  -- Only operations that need a handle make an attempt. There are two cases with a handle, and two
  -- for the outcome of the attempt.
  cases hneeds : needsHandle op with
  | false =>
    cases op with
    | listTags repository => exact ⟨lawful_of_listTags c h repository, h⟩
    | retrieve bound => cases hneeds
    | ping => cases hneeds
  | true =>
    rw [perform_apply c hneeds]
    cases hconnected : s.connected with
    | true =>
      obtain ⟨made, hworked, hfirst⟩ := c.worked_work op s
      rw [ensureHandle_of_connected c hconnected]
      exact ⟨lawful_of_connected h hconnected hneeds hworked hfirst, hworked.handle h⟩
    | false =>
      rw [c.ensureHandle_eq h hconnected]
      cases hnext : script.getD (attempts s.service.calls) none with
      | none =>
        obtain ⟨made, hworked, hfirst⟩ := c.worked_work op (c.attempted true s)
        exact ⟨lawful_of_connects h hconnected hneeds hnext hworked hfirst,
          hworked.handle (h.connected c hconnected hnext)⟩
      | some reason =>
        exact ⟨lawful_of_refused h hconnected hneeds hnext, h.refused c hconnected hnext⟩

/-- Every operation of a session with a managed registry is lawful, whatever the outcomes of
its attempts to connect are, of its probes and of its requests for pages. -/
theorem session_lawful (c : EcrConfig) (ops : List Operation)
    (script probes : List (Option String)) (holdings : Holdings) :
    ∀ t ∈ c.session ops ⟨false, ⟨script, probes, holdings, []⟩⟩, c.Lawful script t := by
  suffices hfrom : ∀ s, Handle script s → ∀ t ∈ c.session ops s, c.Lawful script t by
    exact hfrom _ (handle_start script probes holdings)
  induction ops with
  | nil =>
    intro s _ t ht
    cases ht
  | cons op ops ih =>
    intro s h t ht
    obtain ⟨hlawful, hafter⟩ := c.perform_lawful op h
    rcases List.mem_cons.1 ht with rfl | ht
    · exact hlawful
    · exact ih _ hafter t ht

/-- A session in which the first attempt to connect fails, and a listing after the second. -/
theorem session_lawful_after_failures :
    let c : EcrConfig := ⟨"registry", "region", "account", 100⟩
    let describe : EcrCall := .describeRepositories ⟨"account", 100, none⟩
    let steps := c.session [.retrieve 0, .listTags "a", .ping, .retrieve 0, .retrieve 0]
      ⟨false, ⟨[some "down"], [], .pages [.error "refused", .ok ⟨["a"], none⟩], []⟩⟩
    steps.map Step.made =
        [[.connect "region"], [], [.connect "region", .describeRegistry], [describe],
          [describe]] ∧
      steps.map Step.outcome =
        [.error (.serviceUnavailable "region" "down"), .ok [], .ok [],
          .error (.listFailed "registry" "refused"), .ok ["a"]] ∧
      ∀ t ∈ steps, c.Lawful [some "down"] t := by
  intro c describe steps
  exact ⟨rfl, rfl, session_lawful c _ _ _ _⟩

end EcrConfig

end ImageSync
