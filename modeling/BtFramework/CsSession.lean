import BtFramework.BtAddress
import BtFramework.Runs

/-!
# Channel sounding sessions

`cs_state_machine.c`: one machine per device, created with the device's first event and kept
from then on. A machine is started by any procedure-enable event that finds it waiting for one,
and its capability flag is never reset. So a session follows the events of its connection only
under a guard (`session_followed_iff`), and the settings sent for a device are its own only as
long as no one else wrote them since (`settings_own_of_lastWriter`).
-/

namespace BtFramework.Cs

inductive CsState where
  | stopped | connected | waitForConfigComplete | waitForSecurityComplete
  | waitForProcedureComplete | started
deriving DecidableEq

/-- `g_default_settings`, which all machines write and read. -/
structure DefaultSettings where
  enableInitiatorRole : Bool
  enableReflectorRole : Bool
  csSyncAntennaSelection : UInt8
  maxTxPower : Int

/-- What a start request says of `bt_distance_measurement_params_t`. -/
structure StartParams where
  role : UInt8
  antennaPathsMask : UInt8
deriving DecidableEq

/-- The events of a machine. -/
inductive CsEvent where
  | startReq (params : StartParams)
  | stopReq
  | capabilitiesReceived
  | connected
  | disconnected
  | configDone
  | securityDone
  /-- The payload may be missing; `some true` reports procedures enabled. -/
  | procedureDone (enable : Option Bool)
deriving DecidableEq

structure CsMachine where
  state : CsState
  isCapabilitiesExchanged : Bool

/-- What the start request writes: roles 0 and 1 are initiator and reflector. -/
def startSettings (g : DefaultSettings) (params : StartParams) : DefaultSettings :=
  { g with
    enableInitiatorRole := params.role == 0
    enableReflectorRole := params.role == 1
    csSyncAntennaSelection := params.antennaPathsMask }

/-- Without a role, the procedures are initiated by the remote device. -/
def withRole (g : DefaultSettings) : DefaultSettings :=
  if !g.enableReflectorRole && !g.enableInitiatorRole then { g with enableReflectorRole := true }
  else g

/-- The machine, the shared settings and the settings handed to
`bt_sal_cs_set_default_settings`, if any. -/
abbrev Processed := CsMachine × DefaultSettings × Option DefaultSettings

def connectedProcessEvent (m : CsMachine) (g : DefaultSettings) : CsEvent → Processed
  | .startReq params =>
    let g := startSettings g params
    if m.isCapabilitiesExchanged then ({ m with state := .waitForConfigComplete }, g, some g)
    else (m, g, none)
  | .disconnected => ({ m with state := .stopped }, g, none)
  | .capabilitiesReceived =>
    let g := withRole g
    (⟨.waitForConfigComplete, true⟩, g, some g)
  | _ => (m, g, none)

/-- The other states, which differ in how far the set-up has come. -/
@[simp] def nextState : CsState → CsEvent → CsState
  | .stopped, .connected => .connected
  | .stopped, _ => .stopped
  | _, .connected => .connected
  | _, .disconnected => .stopped
  | _, .configDone => .waitForSecurityComplete
  | .waitForConfigComplete, _ => .waitForConfigComplete
  | _, .securityDone => .waitForProcedureComplete
  | .waitForProcedureComplete, .procedureDone _ => .started
  | .started, .procedureDone (some false) => .connected
  | state, _ => state

/-- The handler of the state the machine is in. -/
def csProcess (m : CsMachine) (g : DefaultSettings) (e : CsEvent) : Processed :=
  if m.state = .connected then connectedProcessEvent m g e
  else ({ m with state := nextState m.state e }, g, none)

/-! ## One device -/

/-- What the events of the current connection amount to. `premature`: settings were sent on a
connection without capabilities. -/
structure Session where
  configured : Bool
  secured : Bool
  enabled : Bool
  capable : Bool
  premature : Bool

/-- One machine beside the session its connection is in. -/
structure Watched where
  machine : CsMachine
  settings : DefaultSettings
  up : Bool
  session : Session

def Session.see (s : Session) : CsEvent → Session
  | .connected | .disconnected => { s with
      configured := false, secured := false, enabled := false, capable := false }
  | .capabilitiesReceived => { s with capable := true }
  | .configDone => { s with configured := true, enabled := false }
  | .securityDone => { s with secured := true, enabled := false }
  | .procedureDone enable =>
    if s.configured && s.secured then { s with enabled := enable == some true } else s
  | _ => s

def Watched.step (w : Watched) (e : CsEvent) : Watched :=
  let done := csProcess w.machine w.settings e
  let up := if e = .connected then true else if e = .disconnected then false else w.up
  let session := if up then w.session.see e else w.session.see .disconnected
  { machine := done.1
    settings := done.2.1
    up := up
    session := { session with
      premature := session.premature || (done.2.2.isSome && !session.capable) } }

def Watched.init (g : DefaultSettings) : Watched :=
  ⟨⟨.stopped, false⟩, g, false, ⟨false, false, false, false, false⟩⟩

/-- The machine is started exactly when procedures are, and nothing was sent too early. -/
def Watched.Followed (w : Watched) : Prop :=
  (w.machine.state = .started ↔ w.session.enabled = true) ∧ w.session.premature = false

/-- A machine that waits for a procedure-enable event gets one that reports procedures enabled,
one that does not wait gets none such after configuration and security, a started one gets
none without a payload; and no start request finds the flag of an earlier connection. -/
def Watched.SessionOk (w : Watched) : CsEvent → Prop
  | .procedureDone enable =>
    match w.machine.state with
    | .waitForProcedureComplete => enable = some true
    | .started => enable ≠ none
    | _ => w.session.configured = true → w.session.secured = true → enable ≠ some true
  | .startReq _ => w.machine.state = .connected → w.machine.isCapabilitiesExchanged = true →
      w.session.capable = true
  | _ => True

/-- Up to the guard, the session says how far the set-up has come. -/
def SessionInv (w : Watched) : Prop :=
  (w.up = true ↔ w.machine.state ≠ .stopped)
    ∧ (w.up = false → w.session.configured = false ∧ w.session.secured = false)
    ∧ (w.machine.state = .waitForSecurityComplete → w.session.configured = true)
    ∧ (w.machine.state = .waitForProcedureComplete ∨ w.machine.state = .started →
      w.session.configured = true ∧ w.session.secured = true)
    ∧ w.Followed

section

variable {w : Watched} (h : SessionInv w)
include h

/-- Without a link the machine stays stopped and the session empty. -/
theorem SessionInv.stopped {e : CsEvent} (hs : w.machine.state = .stopped) (he : e ≠ .connected) :
    SessionInv (w.step e) := by
  have hdown : w.up = false := by simpa [hs] using h.1
  have hstate : nextState .stopped e = .stopped := by
    cases e <;> first | rfl | exact absurd rfl he
  simp_all [SessionInv, Watched.Followed, Watched.step, csProcess, Session.see]

theorem SessionInv.connected : SessionInv (w.step .connected) := by
  have hstate : (csProcess w.machine w.settings .connected).1.state = .connected
      ∧ (csProcess w.machine w.settings .connected).2.2 = none := by
    rw [csProcess]
    cases hs : w.machine.state <;> simp [connectedProcessEvent, hs]
  simp_all [SessionInv, Watched.Followed, Watched.step, Session.see]

theorem SessionInv.disconnected : SessionInv (w.step .disconnected) := by
  have hstate : (csProcess w.machine w.settings .disconnected).1.state = .stopped
      ∧ (csProcess w.machine w.settings .disconnected).2.2 = none := by
    rw [csProcess]
    cases hs : w.machine.state <;> simp [connectedProcessEvent]
  simp_all [SessionInv, Watched.Followed, Watched.step, Session.see]

variable (hs : w.machine.state ≠ .stopped)
include hs

theorem SessionInv.stopReq : SessionInv (w.step .stopReq) := by
  have hsame : csProcess w.machine w.settings .stopReq = (w.machine, w.settings, none) := by
    rw [csProcess]
    cases hstate : w.machine.state <;> simp [connectedProcessEvent, ← hstate]
  simp_all [SessionInv, Watched.Followed, Watched.step, Session.see]

/-- A machine with the flag set goes on; by the guard the flag is of this connection. -/
theorem SessionInv.startReq {params : StartParams} (hok : w.SessionOk (.startReq params)) :
    SessionInv (w.step (.startReq params)) := by
  obtain ⟨⟨state, flag⟩, g, up, session⟩ := w
  cases state <;> cases flag <;>
    simp_all [SessionInv, Watched.Followed, Watched.step, csProcess, connectedProcessEvent,
      Session.see, Watched.SessionOk]

theorem SessionInv.capabilitiesReceived : SessionInv (w.step .capabilitiesReceived) := by
  obtain ⟨⟨state, flag⟩, g, up, session⟩ := w
  cases state <;> simp_all [SessionInv, Watched.Followed, Watched.step, csProcess,
    connectedProcessEvent, Session.see]

/-- Past the connected state a configuration takes the machine back to waiting for security. -/
theorem SessionInv.configDone : SessionInv (w.step .configDone) := by
  obtain ⟨⟨state, flag⟩, g, up, session⟩ := w
  cases state <;> simp_all [SessionInv, Watched.Followed, Watched.step, csProcess,
    connectedProcessEvent, Session.see]

theorem SessionInv.securityDone : SessionInv (w.step .securityDone) := by
  obtain ⟨⟨state, flag⟩, g, up, session⟩ := w
  cases state <;> simp_all [SessionInv, Watched.Followed, Watched.step, csProcess,
    connectedProcessEvent, Session.see]

/-- The session takes the payload once it is configured and secured, the machine takes the event
only where it waits for one or is started; the guard is what makes them agree. -/
theorem SessionInv.procedureDone {enable : Option Bool}
    (hok : w.SessionOk (.procedureDone enable)) :
    SessionInv (w.step (.procedureDone enable)) := by
  obtain ⟨⟨state, flag⟩, g, up, session⟩ := w
  cases state <;> cases hc : session.configured <;> cases hs : session.secured <;>
    rcases enable with _ | _ | _ <;>
    simp_all [SessionInv, Watched.Followed, Watched.step, csProcess, connectedProcessEvent,
      Session.see, Watched.SessionOk]

end

theorem SessionInv.step {w : Watched} (h : SessionInv w) {e : CsEvent} (hok : w.SessionOk e) :
    SessionInv (w.step e) := by
  by_cases hs : w.machine.state = .stopped
  · by_cases he : e = .connected
    · rw [he]
      exact h.connected
    · exact h.stopped hs he
  · cases e with
    | startReq params => exact h.startReq hs hok
    | stopReq => exact h.stopReq hs
    | capabilitiesReceived => exact h.capabilitiesReceived hs
    | connected => exact h.connected
    | disconnected => exact h.disconnected
    | configDone => exact h.configDone hs
    | securityDone => exact h.securityDone hs
    | procedureDone enable => exact h.procedureDone hs hok

/-- The flag of an earlier connection makes the machine send settings too early. -/
theorem SessionInv.premature {w : Watched} (h : SessionInv w) {params : StartParams}
    (hno : ¬w.SessionOk (.startReq params)) : ¬(w.step (.startReq params)).Followed := by
  simp only [Watched.SessionOk, Classical.not_imp] at hno
  obtain ⟨hstate, hflag, hcap⟩ := hno
  have hup : w.up = true := h.1.mpr (by simp [hstate])
  simp_all [Watched.Followed, Watched.step, csProcess, connectedProcessEvent, Session.see]

/-- Outside the guard a procedure-enable event sets the machine and the session apart. -/
theorem SessionInv.apart {w : Watched} (h : SessionInv w) {enable : Option Bool}
    (hno : ¬w.SessionOk (.procedureDone enable)) : ¬(w.step (.procedureDone enable)).Followed := by
  obtain ⟨⟨state, flag⟩, g, up, session⟩ := w
  cases state <;> rcases enable with _ | _ | _ <;>
    simp_all [SessionInv, Watched.Followed, Watched.step, csProcess, connectedProcessEvent,
      Session.see, Watched.SessionOk]

theorem SessionInv.not_followed {w : Watched} (h : SessionInv w) {e : CsEvent}
    (hno : ¬w.SessionOk e) : ¬(w.step e).Followed := by
  cases e with
  | procedureDone enable => exact h.apart hno
  | startReq params => exact h.premature hno
  | _ => exact absurd trivial hno

/-- **Sessions.** In a run of one device, whatever the shared settings are, the machine is started
exactly while the last procedure-enable event after configuration and security said so, and
settings are sent only after capabilities, exactly when every event meets the guard. -/
theorem session_followed_iff (g : DefaultSettings) (es : List CsEvent) :
    (∀ w ∈ Runs.visited Watched.step (Watched.init g) es, w.Followed)
      ↔ Runs.Guarded Watched.step Watched.SessionOk (Watched.init g) es :=
  Runs.forall_visited_iff_guarded (fun _ h => h.2.2.2.2) (fun _ _ h hok => SessionInv.step h hok)
    (fun _ _ h hno => SessionInv.not_followed h hno) (by simp [SessionInv, Watched.Followed,
      Watched.init])

/-- A procedure-enable event that reports procedures disabled starts the machine. -/
theorem disabled_procedure_starts :
    ¬∀ w ∈ Runs.visited Watched.step (Watched.init ⟨false, true, 0, 0⟩)
      [.connected, .capabilitiesReceived, .configDone, .securityDone, .procedureDone (some false)],
      w.Followed := by
  intro h
  exact absurd ((h _ Runs.after_mem_visited).1.1 rfl) (by decide)

/-! ## All devices -/

/-- The machines and the settings they share; `configured` are the explicitly configured ones,
`own` the last start request of each device, `writer` whose request is in the settings. -/
structure CsService where
  settings : DefaultSettings
  machines : BtAddress → CsMachine
  configured : DefaultSettings
  own : BtAddress → Option StartParams
  writer : Option BtAddress

inductive CsInput where
  | event (a : BtAddress) (e : CsEvent)
  /-- A `cs_set_config` whose feature and role are accepted. -/
  | setConfig (role csSyncAntennaSelection : UInt8) (maxTxPower : Int)

def csUpdateDefaultSettings (role csSyncAntennaSelection : UInt8) (maxTxPower : Int) :
    DefaultSettings :=
  ⟨role &&& 1 != 0, role &&& 2 != 0, csSyncAntennaSelection, maxTxPower⟩

def CsService.init : CsService :=
  ⟨⟨false, false, 0, 0⟩, fun _ => ⟨.stopped, false⟩, ⟨false, false, 0, 0⟩, fun _ => none, none⟩

def CsService.step (s : CsService) : CsInput → CsService
  | .setConfig role antenna power =>
    let g := csUpdateDefaultSettings role antenna power
    { s with settings := g, configured := g, writer := none }
  | .event a e =>
    let done := csProcess (s.machines a) s.settings e
    let s := { s with settings := done.2.1, machines := Function.update s.machines a done.1 }
    match e with
    | .startReq params => { s with own := Function.update s.own a (some params), writer := some a }
    | _ => s

/-- What the settings of a device start from. -/
def CsService.base (s : CsService) (a : BtAddress) : DefaultSettings :=
  match s.own a with
  | some params => startSettings s.configured params
  | none => s.configured

/-- The roles and the antenna selection. -/
def choice (g : DefaultSettings) : Bool × Bool × UInt8 :=
  (g.enableInitiatorRole, g.enableReflectorRole, g.csSyncAntennaSelection)

/-- Settings sent for a device are those of its own request, or the configured ones. -/
def CsService.SendsOwn (s : CsService) : CsInput → Prop
  | .setConfig .. => True
  | .event a e => ∀ g, (csProcess (s.machines a) s.settings e).2.2 = some g →
      match e with
      | .startReq params => choice g = choice (startSettings s.configured params)
      | _ => choice g = choice (withRole (s.base a))

/-- Start requests find their machine connected, and the capabilities of a device come while its
own request is in the settings, or the configured ones if it made none. -/
def CsService.LastWriter (s : CsService) : CsInput → Prop
  | .event a (.startReq _) => (s.machines a).state = .connected
  | .event a .capabilitiesReceived => (s.machines a).state = .connected →
      s.writer = if (s.own a).isSome then some a else none
  | _ => True

/-- The settings are those of the last writer, up to the role a device without one gets. -/
def Written (s : CsService) : Prop :=
  choice (withRole s.settings) = choice (withRole (s.writer.elim s.configured s.base))

@[simp] theorem withRole_withRole (g : DefaultSettings) : withRole (withRole g) = withRole g := by
  obtain ⟨_ | _, _ | _, _, _⟩ := g <;> rfl

/-- Only start requests and capabilities of a connected device write the settings. -/
theorem csProcess_settings (m : CsMachine) (g : DefaultSettings) (e : CsEvent)
    (hstart : ∀ params, e ≠ .startReq params) :
    choice (withRole (csProcess m g e).2.1) = choice (withRole g) := by
  unfold csProcess
  split
  · cases e with
    | startReq params => exact absurd rfl (hstart params)
    | capabilitiesReceived => exact congrArg choice (withRole_withRole g)
    | _ => rfl
  · rfl

theorem Written.step {s : CsService} (h : Written s) {i : CsInput} (hok : s.LastWriter i) :
    Written (s.step i) := by
  cases i with
  | setConfig role antenna power => rfl
  | event a e =>
    cases e with
    | startReq params =>
      have hconnected : (s.machines a).state = .connected := hok
      have hwritten : (csProcess (s.machines a) s.settings (.startReq params)).2.1
          = startSettings s.settings params := by
        rw [csProcess, if_pos hconnected, connectedProcessEvent]
        split <;> rfl
      simp only [Written, CsService.step, hwritten, CsService.base, Function.update_self,
        Option.elim_some]
      unfold withRole startSettings
      split <;> rfl
    | _ => exact (csProcess_settings _ _ _ (by simp)).trans h

theorem Written.sendsOwn {s : CsService} (h : Written s) {i : CsInput} (hok : s.LastWriter i) :
    s.SendsOwn i := by
  cases i with
  | setConfig role antenna power => trivial
  | event a e =>
    intro g hg
    rw [csProcess] at hg
    split at hg
    · rename_i hconnected
      cases e with
      | startReq params =>
        rw [connectedProcessEvent] at hg
        split at hg
        · obtain rfl := Option.some.inj hg
          rfl
        · contradiction
      | capabilitiesReceived =>
        obtain rfl := Option.some.inj hg
        have hwriter := hok hconnected
        rw [Written, hwriter] at h
        refine h.trans (congrArg (choice ∘ withRole) ?_)
        cases hown : s.own a <;> simp [CsService.base, hown]
      | _ => contradiction
    · contradiction

/-- **Settings.** In every run in which start requests find their machine connected and no one
else wrote the settings since, what is sent for a device is what its own request, or the
configuration, asks for. -/
theorem settings_own_of_lastWriter (is : List CsInput)
    (h : Runs.Guarded CsService.step CsService.LastWriter .init is) :
    Runs.Guarded CsService.step CsService.SendsOwn .init is :=
  h.steps (fun _ _ h hok => Written.step h hok) (fun _ _ h hok => Written.sendsOwn h hok) rfl

/-- Two devices, the second of which asks once the first is served. -/
def inTurn : List CsInput :=
  [.event 1 .connected, .event 2 .connected, .event 1 (.startReq ⟨0, 1⟩),
    .event 1 .capabilitiesReceived, .event 2 (.startReq ⟨1, 2⟩), .event 2 .capabilitiesReceived]

theorem inTurn_sendsOwn :
    Runs.Guarded CsService.step CsService.LastWriter .init inTurn
      ∧ Runs.Guarded CsService.step CsService.SendsOwn .init inTurn := by
  have h : Runs.Guarded CsService.step CsService.LastWriter .init inTurn :=
    ⟨trivial, trivial, rfl, fun _ => rfl, rfl, fun _ => rfl, trivial⟩
  exact ⟨h, settings_own_of_lastWriter inTurn h⟩

/-- The initiator's capabilities come after a reflector's request: it is sent as a reflector. -/
theorem other_request_sent :
    ¬Runs.Guarded CsService.step CsService.SendsOwn .init
      [.event 1 .connected, .event 2 .connected, .event 1 (.startReq ⟨0, 1⟩),
        .event 2 (.startReq ⟨1, 2⟩), .event 1 .capabilitiesReceived] := by
  rintro ⟨-, -, -, -, hsent, -⟩
  exact absurd (hsent _ rfl) (by decide)

end BtFramework.Cs
