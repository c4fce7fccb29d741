import BtFramework.Hsm
import BtFramework.Runs

/-!
# The hands-free machines and call-audio offload

`hfp_hf_state_machine.c` and `hfp_ag_state_machine.c`: one machine per device. A start or a stop
request of the audio layer sends a vendor HCI command, whose result comes back through
`bt_hci_event_callback`; a timer bounds the wait for a start, and the audio layer is answered
with a control event.

A machine is its *link* part, different for the two roles, and its *offload* part, written once,
which keeps a log of requests and control events; the request that leaving the audio-on state
makes is a stop request like the others.
-/

namespace BtFramework.HfpAudio

inductive ConnectionState where
  | disconnected | connecting | connected | disconnecting

inductive AudioState where
  | disconnected | connecting | connected | disconnecting

inductive HfpNote where
  | connection (state : ConnectionState)
  | audio (state : AudioState)

/-- Which calls to the stack succeed. -/
structure HfpEnv where
  /-- `bt_sal_hfp_*_connect`, `bt_sal_sco_connection_reply`. -/
  link : Bool
  /-- `bt_sal_hfp_*_connect_audio`, `bt_sal_hfp_*_disconnect_audio`. -/
  audio : Bool
  /-- `bt_sal_send_hci_command`. -/
  command : Bool
  /-- `service_loop_timer` for the offload timer. -/
  timer : Bool
  /-- `check_sco_allowed`. -/
  scoAllowed : Bool
  /-- The message `audio_on_exit` allocates. -/
  exitMessage : Bool
  /-- The message the gateway's `connected_enter` allocates. -/
  enterMessage : Bool

def HfpEnv.allWell : HfpEnv := ⟨true, true, true, true, true, true, true⟩

/-! ## The offload part -/

inductive OffloadEntry where
  | startReq | stopReq
  | started | startFail | stopped
  | destroyed

inductive OffloadCommand where
  | start | stop

inductive OffloadEvent where
  | startReq | stopReq
  | startEvt (success : Bool)
  | stopEvt
  | timeoutEvt

structure Offload where
  offloading : Bool
  /-- `PENDING_OFFLOAD_START` and `PENDING_OFFLOAD_STOP`. -/
  pendingStart : Bool
  pendingStop : Bool
  /-- `offload_timer`, and the timers the service loop has yet to fire. -/
  timer : Option Nat
  running : List Nat
  nextTimer : Nat
  /-- Commands whose result is still to come. -/
  commands : List OffloadCommand
  /-- Result messages posted to the service loop and not yet handled. -/
  queue : List OffloadEvent
  log : List OffloadEntry

def Offload.fresh (offloading : Bool) : Offload :=
  ⟨offloading, false, false, none, [], 0, [], [], []⟩

def Offload.note (o : Offload) (entry : OffloadEntry) : Offload :=
  { o with log := o.log ++ [entry] }

def Offload.armTimer (env : HfpEnv) (o : Offload) : Offload :=
  -- the handle of a timer that is still running is overwritten, not cancelled
  if env.timer then
    { o with
      timer := some o.nextTimer
      running := o.nextTimer :: o.running
      nextTimer := o.nextTimer + 1 }
  else { o with timer := none }

def Offload.cancelTimer (o : Offload) : Offload :=
  match o.timer with
  | none => o
  | some t => { o with timer := none, running := o.running.erase t }

def Offload.startRequest (env : HfpEnv) (o : Offload) : Offload :=
  if env.command then
    Offload.armTimer env
      { o with commands := o.commands ++ [.start], pendingStart := true }
  else o.note .startFail

def Offload.stopRequest (env : HfpEnv) (o : Offload) : Offload :=
  let o := if o.timer.isSome then o.cancelTimer.note .startFail else o
  if env.command then
    -- PENDING_OFFLOAD_START is left as it is
    { o with commands := o.commands ++ [.stop], pendingStop := true }
  else o.note .stopped

def Offload.audioOnEvent (env : HfpEnv) (o : Offload) : OffloadEvent → Offload
  | .startReq => (o.note .startReq).startRequest env
  | .stopReq => (o.note .stopReq).stopRequest env
  | .startEvt success => o.cancelTimer.note (if success then .started else .startFail)
  | .stopEvt => o.note .stopped
  | .timeoutEvt => { o with pendingStart := false, timer := none }.note .startFail

def Offload.elsewhereEvent (o : Offload) : OffloadEvent → Offload
  | .startReq => (o.note .startReq).note .startFail
  | .stopReq => (o.note .stopReq).note .stopped
  | .stopEvt => o.note .stopped
  -- "Unexpected event"; the timer handle stays set
  | .startEvt _ | .timeoutEvt => o

def Offload.hciEventCallback (success : Bool) (o : Offload) : Offload :=
  if o.pendingStart then
    { o with pendingStart := false, queue := o.queue ++ [.startEvt success] }
  else if o.pendingStop then
    { o with pendingStop := false, queue := o.queue ++ [.stopEvt] }
  else o

def Offload.hciResult (success : Bool) (o : Offload) : Offload :=
  match o.commands with
  | [] => o
  | _ :: rest => Offload.hciEventCallback success { o with commands := rest }

def Offload.audioOnExit (env : HfpEnv) (o : Offload) : Offload :=
  if o.offloading && env.exitMessage then o.audioOnEvent env .stopReq else o

/-! ## A machine and its role -/

/-- The machine of one device. -/
structure HfpMachine (L : Type) where
  link : L
  offload : Offload
  destroyed : Bool

structure Role (L E : Type) where
  inAudioOn : L → Bool
  process : HfpEnv → HfpMachine L → E → HfpMachine L
  /-- The retry timer's callback. -/
  retry : HfpEnv → HfpMachine L → HfpMachine L
  /-- What an unsuccessful start does to the audio link. -/
  startFailed : HfpEnv → L → L
  /-- The event dispatched before the machine is destroyed. -/
  disconnect : E

section

variable {L E : Type}

def OffloadEvent.failsStart : OffloadEvent → Bool
  | .startEvt success => !success
  | .timeoutEvt => true
  | _ => false

def Role.processOffload (role : Role L E) (env : HfpEnv) (m : HfpMachine L) (e : OffloadEvent) :
    HfpMachine L :=
  if role.inAudioOn m.link then
    { m with
      link := if e.failsStart then role.startFailed env m.link else m.link
      offload := m.offload.audioOnEvent env e }
  else { m with offload := m.offload.elsewhereEvent e }

/-- A link event, or what reaches the offload part. -/
inductive HfpInput (E : Type) where
  | link (e : E)
  | startReq
  | stopReq
  | hciResult (success : Bool)
  /-- The service loop handles the oldest queued result. -/
  | message
  /-- An offload timer fires. -/
  | timer (t : Nat)
  | retry
  /-- `hf_device_delete`, `ag_device_delete`. -/
  | delete

/-- The system around a machine; a destroyed one takes nothing. -/
def Role.step (role : Role L E) (m : HfpMachine L) (input : HfpEnv × HfpInput E) : HfpMachine L :=
  if m.destroyed then m
  else
    let env := input.1
    match input.2 with
    | .link e => role.process env m e
    | .startReq => role.processOffload env m .startReq
    | .stopReq => role.processOffload env m .stopReq
    | .hciResult success => { m with offload := m.offload.hciResult success }
    | .message =>
      match m.offload.queue with
      | [] => m
      | e :: rest =>
        role.processOffload env { m with offload := { m.offload with queue := rest } } e
    | .timer t =>
      if t ∈ m.offload.running then
        role.processOffload env
          { m with offload := { m.offload with running := m.offload.running.erase t } }
          .timeoutEvt
      else m
    | .retry => role.retry env m
    | .delete =>
      let m := role.process env m role.disconnect
      { m with destroyed := true, offload := m.offload.note .destroyed }

end

/-! ## The hands-free unit -/

inductive HfState where
  | disconnected | connecting | connected | audioOn
deriving DecidableEq

/-- `hf_state_machine_t`, with what was told. -/
structure HfLink where
  sm : StateMachine HfState
  /-- `connection_policy` is `CONNECTION_POLICY_FORBIDDEN`. -/
  forbidden : Bool
  /-- `PENDING_AUDIO_DISCONNECT`. -/
  pendingAudioDisconnect : Bool
  retryTimer : Bool
  retryCnt : Nat
  told : List HfpNote

abbrev HfMachine := HfpMachine HfLink

def retryMax : Nat := 1

inductive HfEvent where
  | connect
  | disconnect
  | connectAudio
  | disconnectAudio
  | connectionStateChanged (state : ConnectionState) (collision : Bool)
  | audioStateChanged (state : AudioState)
  | timeout
  /-- `hf_state_machine_set_policy`. -/
  | setPolicy (forbidden : Bool)

def HfLink.notify (l : HfLink) (note : HfpNote) : HfLink := { l with told := l.told ++ [note] }

def tryDisconnectAudio (env : HfpEnv) (l : HfLink) : HfLink :=
  if l.pendingAudioDisconnect then l
  else if !env.audio then l
  else if l.sm.current = .audioOn then { l with pendingAudioDisconnect := true }
  else l

def hfEnter (env : HfpEnv) (state : HfState) (m : HfMachine) : HfMachine :=
  let link := match state with
    | .disconnected =>
      if m.link.sm.previous.isSome then m.link.notify (.connection .disconnected) else m.link
    | .connecting => m.link.notify (.connection .connecting)
    | .connected =>
      if m.link.sm.previous ≠ some .audioOn then
        { m.link with retryCnt := 0 }.notify (.connection .connected)
      else m.link
    | .audioOn =>
      (if env.scoAllowed then m.link else tryDisconnectAudio env m.link).notify (.audio .connected)
  { m with link := link }

def hfExit (env : HfpEnv) (state : HfState) (m : HfMachine) : HfMachine :=
  match state with
  | .audioOn =>
    { m with
      offload := m.offload.audioOnExit env
      link := { m.link with pendingAudioDisconnect := false }.notify (.audio .disconnected) }
  | _ => m

def hfOps (env : HfpEnv) : HsmOps HfState HfMachine where
  sm m := m.link.sm
  setSm m sm := { m with link := { m.link with sm := sm } }
  enter := hfEnter env
  exit := hfExit env

def hfTransitionTo (env : HfpEnv) (m : HfMachine) (state : HfState) : HfMachine :=
  hsmTransitionTo (hfOps env) m state

def hfDisconnected (env : HfpEnv) (m : HfMachine) : HfEvent → HfMachine
  | .connect =>
    if m.link.forbidden then m
    else if env.link then hfTransitionTo env m .connecting
    else { m with link := m.link.notify (.connection .disconnected) }
  | .connectionStateChanged .connected _ => hfTransitionTo env m .connected
  | .connectionStateChanged .connecting _ =>
    if m.link.forbidden then m else hfTransitionTo env m .connecting
  | _ => m

def armRetry (collision retryTimer : Bool) (retryCnt : Nat) : Bool × Nat :=
  if collision && decide (retryCnt < retryMax) && !retryTimer then (true, retryCnt + 1)
  else (retryTimer, retryCnt)

def hfConnecting (env : HfpEnv) (m : HfMachine) : HfEvent → HfMachine
  | .connectionStateChanged .disconnected collision =>
    let armed := armRetry collision m.link.retryTimer m.link.retryCnt
    hfTransitionTo env { m with link := { m.link with retryTimer := armed.1, retryCnt := armed.2 } }
      .disconnected
  | .connectionStateChanged .connected _ => hfTransitionTo env m .connected
  | .timeout => hfTransitionTo env m .disconnected
  | _ => m

def hfConnected (env : HfpEnv) (m : HfMachine) : HfEvent → HfMachine
  | .disconnect => hfTransitionTo env m .disconnected
  | .connectAudio =>
    if env.audio then m else { m with link := m.link.notify (.audio .disconnected) }
  | .disconnectAudio => { m with link := tryDisconnectAudio env m.link }
  | .connectionStateChanged .disconnected _ => hfTransitionTo env m .disconnected
  | .audioStateChanged .connected => hfTransitionTo env m .audioOn
  | .audioStateChanged .disconnected =>
    { m with link := { m.link with pendingAudioDisconnect := false } }
  | _ => m

def hfAudioOn (env : HfpEnv) (m : HfMachine) : HfEvent → HfMachine
  | .disconnect => hfTransitionTo env m .disconnected
  | .disconnectAudio => { m with link := tryDisconnectAudio env m.link }
  | .connectionStateChanged .disconnected _ => hfTransitionTo env m .disconnected
  | .audioStateChanged .disconnected => hfTransitionTo env m .connected
  | _ => m

def hfProcess (env : HfpEnv) (m : HfMachine) (e : HfEvent) : HfMachine :=
  match e with
  | .setPolicy forbidden => { m with link := { m.link with forbidden := forbidden } }
  | e =>
    match m.link.sm.current with
    | .disconnected => hfDisconnected env m e
    | .connecting => hfConnecting env m e
    | .connected => hfConnected env m e
    | .audioOn => hfAudioOn env m e

def hfRetryCallback (env : HfpEnv) (m : HfMachine) : HfMachine :=
  if m.link.retryTimer then
    let m := if m.link.sm.current = .disconnected ∧ env.link then hfTransitionTo env m .connecting
      else m
    { m with link := { m.link with retryTimer := false } }
  else m

def hfRole : Role HfLink HfEvent where
  inAudioOn l := l.sm.current == .audioOn
  process := hfProcess
  retry := hfRetryCallback
  startFailed := tryDisconnectAudio
  disconnect := .disconnect

def hfNew (offloading : Bool) : HfMachine :=
  ⟨⟨⟨.disconnected, none⟩, false, false, false, 0, []⟩, .fresh offloading, false⟩

/-! ## The audio gateway -/

inductive AgState where
  | disconnected | connecting | disconnecting | connected
  | audioConnecting | audioOn | audioDisconnecting
deriving DecidableEq

/-- `ag_state_machine_t`, with what was told. -/
structure AgLink where
  sm : StateMachine AgState
  /-- `PENDING_DISCONNECT`. -/
  pendingDisconnect : Bool
  virtualCallStarted : Bool
  virtualTold : List Bool
  retryTimer : Bool
  retryCnt : Nat
  told : List HfpNote

abbrev AgMachine := HfpMachine AgLink

inductive AgEvent where
  | connect
  | disconnect
  | connectAudio
  | disconnectAudio
  /-- `phoneFree`: `tele_service_get_phone_state` reports no call. -/
  | startVirtualCall (phoneFree : Bool)
  | stopVirtualCall
  | audioReq
  /-- `inCall`: the phone has a call after the change. -/
  | phoneStateChange (inCall : Bool)
  | dialNumber
  | connectionStateChanged (state : ConnectionState) (collision : Bool)
  | audioStateChanged (state : AudioState)
  | connectTimeout

def AgLink.notify (l : AgLink) (note : HfpNote) : AgLink := { l with told := l.told ++ [note] }

def AgLink.setVirtualCallStarted (l : AgLink) (started : Bool) : AgLink :=
  if l.virtualCallStarted = started then l
  else { l with virtualCallStarted := started, virtualTold := l.virtualTold ++ [started] }

def AgState.belowConnected : AgState → Bool
  | .disconnected | .connecting | .disconnecting => true
  | _ => false

def agEnterReport (state : AgState) (m : AgMachine) : AgMachine :=
  let link := match state with
    | .disconnected =>
      if m.link.sm.previous.isSome then
        { m.link with virtualCallStarted := false, pendingDisconnect := false }.notify
          (.connection .disconnected)
      else m.link
    | .connecting => m.link.notify (.connection .connecting)
    | .disconnecting => m.link.notify (.connection .disconnecting)
    | .connected =>
      if (m.link.sm.previous.map AgState.belowConnected).getD true then
        { m.link with retryCnt := 0 }.notify (.connection .connected)
      else m.link.notify (.audio .disconnected)
    | .audioConnecting => m.link.notify (.audio .connecting)
    | .audioOn => m.link.notify (.audio .connected)
    | .audioDisconnecting => m.link.notify (.audio .disconnecting)
  { m with link := link }

def agExit (env : HfpEnv) (state : AgState) (m : AgMachine) : AgMachine :=
  match state with
  | .audioOn =>
    { m with
      link := m.link.setVirtualCallStarted false
      offload := m.offload.audioOnExit env }
  | _ => m

def agReportOps (env : HfpEnv) : HsmOps AgState AgMachine where
  sm m := m.link.sm
  setSm m sm := { m with link := { m.link with sm := sm } }
  enter := agEnterReport
  exit := agExit env

def agEnter (env : HfpEnv) (state : AgState) (m : AgMachine) : AgMachine :=
  let m := agEnterReport state m
  if state = .connected ∧ m.link.pendingDisconnect ∧ env.enterMessage then
    hsmTransitionTo (agReportOps env) m .disconnecting
  else m

def agOps (env : HfpEnv) : HsmOps AgState AgMachine :=
  { agReportOps env with enter := agEnter env }

def agTransitionTo (env : HfpEnv) (m : AgMachine) (state : AgState) : AgMachine :=
  hsmTransitionTo (agOps env) m state

def agDisconnected (env : HfpEnv) (m : AgMachine) : AgEvent → AgMachine
  | .connect =>
    if env.link then agTransitionTo env m .connecting
    else { m with link := m.link.notify (.connection .disconnected) }
  | .connectionStateChanged .connected _ => agTransitionTo env m .connected
  | .connectionStateChanged .connecting _ => agTransitionTo env m .connecting
  | _ => m

def agConnecting (env : HfpEnv) (m : AgMachine) : AgEvent → AgMachine
  | .connectTimeout => agTransitionTo env m .disconnected
  | .connectionStateChanged .connected _ => agTransitionTo env m .connected
  | .connectionStateChanged .disconnected collision =>
    let armed := armRetry collision m.link.retryTimer m.link.retryCnt
    agTransitionTo env { m with link := { m.link with retryTimer := armed.1, retryCnt := armed.2 } }
      .disconnected
  | _ => m

def agDisconnecting (env : HfpEnv) (m : AgMachine) : AgEvent → AgMachine
  | .connectionStateChanged .disconnected _ => agTransitionTo env m .disconnected
  | _ => m

def agDefault (m : AgMachine) : AgEvent → AgMachine
  | .phoneStateChange inCall =>
    if inCall then { m with link := m.link.setVirtualCallStarted false } else m
  | .dialNumber => { m with link := m.link.setVirtualCallStarted false }
  | _ => m

def agDefaultConnection (env : HfpEnv) (m : AgMachine) : ConnectionState → AgMachine
  | .disconnected => agTransitionTo env m .disconnected
  | .disconnecting => agTransitionTo env m .disconnecting
  | _ => m

def agConnected (env : HfpEnv) (m : AgMachine) : AgEvent → AgMachine
  | .disconnect => agTransitionTo env m .disconnecting
  | .connectAudio =>
    if env.audio then agTransitionTo env m .audioConnecting
    else { m with link := m.link.notify (.audio .disconnected) }
  | .startVirtualCall phoneFree =>
    if m.link.virtualCallStarted || !phoneFree then
      { m with link := m.link.notify (.audio .disconnected) }
    else
      let m := { m with link := m.link.setVirtualCallStarted true }
      if env.audio then agTransitionTo env m .audioConnecting
      else { m with link := (m.link.setVirtualCallStarted false).notify (.audio .disconnected) }
  | .audioReq => if env.link then agTransitionTo env m .audioConnecting else m
  | .connectionStateChanged state _ => agDefaultConnection env m state
  | .audioStateChanged .connected => agTransitionTo env m .audioOn
  | .audioStateChanged _ => m
  | e => agDefault m e

def agAudioConnecting (env : HfpEnv) (m : AgMachine) : AgEvent → AgMachine
  | .disconnect =>
    let m := if env.link then m else { m with link := m.link.notify (.audio .disconnected) }
    agTransitionTo env m .disconnecting
  | .connectionStateChanged state _ => agDefaultConnection env m state
  | .audioStateChanged .connected => agTransitionTo env m .audioOn
  | .audioStateChanged .disconnected => agTransitionTo env m .connected
  | .disconnectAudio | .stopVirtualCall | .audioReq | .audioStateChanged _ => m
  | e => agDefault m e

def agTakeAudioDown (env : HfpEnv) (m : AgMachine) : AgMachine :=
  if env.audio then agTransitionTo env m .audioDisconnecting
  else agTransitionTo env { m with link := m.link.notify (.audio .disconnected) } .connected

def agAudioOn (env : HfpEnv) (m : AgMachine) : AgEvent → AgMachine
  | .disconnect =>
    if env.audio then
      agTransitionTo env { m with link := { m.link with pendingDisconnect := true } }
        .audioDisconnecting
    else
      let m := if env.link then m else { m with link := m.link.notify (.audio .disconnected) }
      agTransitionTo env m .disconnecting
  | .disconnectAudio => agTakeAudioDown env m
  | .stopVirtualCall =>
    if m.link.virtualCallStarted then
      agTakeAudioDown env { m with link := m.link.setVirtualCallStarted false }
    else m
  | .connectionStateChanged state _ => agDefaultConnection env m state
  | .audioStateChanged .disconnected => agTransitionTo env m .connected
  | .audioStateChanged _ => m
  | e => agDefault m e

def agAudioDisconnecting (env : HfpEnv) (m : AgMachine) : AgEvent → AgMachine
  | .disconnect => agTransitionTo env m .disconnecting
  | .connectionStateChanged state _ => agDefaultConnection env m state
  | .audioStateChanged .disconnected => agTransitionTo env m .connected
  | .audioStateChanged _ => m
  | e => agDefault m e

def agProcess (env : HfpEnv) (m : AgMachine) (e : AgEvent) : AgMachine :=
  match m.link.sm.current with
  | .disconnected => agDisconnected env m e
  | .connecting => agConnecting env m e
  | .disconnecting => agDisconnecting env m e
  | .connected => agConnected env m e
  | .audioConnecting => agAudioConnecting env m e
  | .audioOn => agAudioOn env m e
  | .audioDisconnecting => agAudioDisconnecting env m e

def agRetryCallback (env : HfpEnv) (m : AgMachine) : AgMachine :=
  if m.link.retryTimer then
    let m := if m.link.sm.current = .disconnected ∧ env.link then agTransitionTo env m .connecting
      else m
    { m with link := { m.link with retryTimer := false } }
  else m

def agRole : Role AgLink AgEvent where
  inAudioOn l := l.sm.current == .audioOn
  process := agProcess
  retry := agRetryCallback
  startFailed _ l := l
  disconnect := .disconnect

def agNew (offloading : Bool) : AgMachine :=
  ⟨⟨⟨.disconnected, none⟩, false, false, [], false, 0, []⟩, .fresh offloading, false⟩

/-- A condition on the link events of the gateway, in the system around it. -/
def AgGuard (ok : HfpEnv → AgLink → AgEvent → Prop) (m : AgMachine)
    (input : HfpEnv × HfpInput AgEvent) : Prop :=
  m.destroyed = false →
    match input.2 with
    | .link e => ok input.1 m.link e
    | .delete => ok input.1 m.link .disconnect
    | _ => True

/-- The link of a gateway that is not destroyed changes with its events and the retry timer
alone. -/
theorem agStep_link {m : AgMachine} (hlive : m.destroyed = false) (env : HfpEnv)
    (input : HfpInput AgEvent) :
    (agRole.step m (env, input)).link = match input with
      | .link e => (agProcess env m e).link
      | .delete => (agProcess env m .disconnect).link
      | .retry => (agRetryCallback env m).link
      | _ => m.link := by
  have hoffload : ∀ (m : AgMachine) e, (agRole.processOffload env m e).link = m.link := by
    intro m e
    unfold Role.processOffload
    split
    · exact ite_self _
    · rfl
  rw [Role.step, if_neg (by rw [hlive]; decide)]
  cases input <;> dsimp only <;> (repeat' split) <;> first | rfl | exact hoffload _ _

/-- **Rule for the gateway's link.** An invariant that the link events keep where `ok` holds, and
whose consequence they lose at once where it does not, makes the guard exact. -/
theorem ag_forall_visited_iff {Inv Good : AgLink → Prop}
    {ok : HfpEnv → AgLink → AgEvent → Prop} (hgood : ∀ l, Inv l → Good l)
    (hprocess : ∀ env (m : AgMachine) e, Inv m.link →
      (ok env m.link e → Inv (agProcess env m e).link)
        ∧ (¬ok env m.link e → ¬Good (agProcess env m e).link))
    (hretry : ∀ env (m : AgMachine), Inv m.link → Inv (agRetryCallback env m).link)
    {offloading : Bool} (hinit : Inv (agNew offloading).link)
    (inputs : List (HfpEnv × HfpInput AgEvent)) :
    (∀ m ∈ Runs.visited agRole.step (agNew offloading) inputs, Good m.link)
      ↔ Runs.Guarded agRole.step (AgGuard ok) (agNew offloading) inputs := by
  have hstep : ∀ (m : AgMachine) input, Inv m.link →
      (AgGuard ok m input → Inv (agRole.step m input).link)
        ∧ (¬AgGuard ok m input → ¬Good (agRole.step m input).link) := by
    intro m ⟨env, input⟩ h
    cases hlive : m.destroyed with
    | true => simpa [AgGuard, Role.step, hlive] using h
    | false =>
      rw [agStep_link hlive]
      cases input with
      | link e => simpa [AgGuard, hlive] using hprocess env m e h
      | delete => simpa [AgGuard, hlive] using hprocess env m .disconnect h
      | retry => simpa [AgGuard] using hretry env m h
      | _ => simpa [AgGuard] using h
  exact Runs.forall_visited_iff_guarded (fun m (h : Inv m.link) => hgood m.link h)
    (fun m input h => (hstep m input h).1) (fun m input h => (hstep m input h).2) hinit

end BtFramework.HfpAudio
