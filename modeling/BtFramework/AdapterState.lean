import BtFramework.Hsm

/-!
# The adapter state machine

`adapter_state.c` with the parts of `adapter_service.c` it drives and is driven by: the
published `adapter_state` and the message queue of the service loop. What the handlers read from
outside is in `AdapterEnv`, what they do to the outside is appended to `trace`.
-/

namespace BtFramework

/-! ## States, events, configuration -/

inductive BtAdapterState where
  | off | bleTurningOn | bleOn | turningOn | on | turningOff | bleTurningOff
deriving DecidableEq

inductive AdapterHsmState where
  | offState | bleTurningOnState | bleOnState | turningOnState | onState
  | turningOffState | bleTurningOffState
deriving DecidableEq

def AdapterHsmState.stateValue : AdapterHsmState → BtAdapterState
  | .offState => .off
  | .bleTurningOnState => .bleTurningOn
  | .bleOnState => .bleOn
  | .turningOnState => .turningOn
  | .onState => .on
  | .turningOffState => .turningOff
  | .bleTurningOffState => .bleTurningOff

/-- The events of the state machine. -/
inductive AdapterEvent where
  | sysTurnOn | sysTurnOff | sysTurnOffSafe | turnOnBle | turnOffBle
  | sysTurnOffSafeTimeout
  | bredrEnabled | bredrDisabled | bredrProfileEnabled | bredrProfileDisabled
  | bredrEnableTimeout | bredrDisableTimeout | bredrEnableProfileTimeout
  | bredrDisableProfileTimeout | bredrAclAllDisconnected
  | bleEnabled | bleDisabled | bleProfileEnabled | bleProfileDisabled
  | bleEnableTimeout | bleDisableTimeout | bleEnableProfileTimeout
  | bleDisableProfileTimeout | bleAclAllDisconnected
deriving DecidableEq

inductive BtTransport where
  | bredr | ble
deriving DecidableEq

/-- The build: each `#ifdef` of the machine is a flag. -/
structure AdapterConfig where
  bleSupport : Bool
  bredrSupport : Bool
  l2cap : Bool
  a2dpOffloading : Bool
  hfpOffloading : Bool
  leaOffloading : Bool

/-- What the handlers read from outside: the results of `bt_sal_le_enable` and `bt_sal_enable`,
and `adapter_check_acl_all_disconnected` on the two device lists. -/
structure AdapterEnv where
  leEnable : Bool
  enable : Bool
  bredrAclAllDisconnected : Bool
  bleAclAllDisconnected : Bool

inductive AdapterAction where
  | stateChanged (prev current : BtAdapterState)
  | notifyMediaOffloading (a2dp hfp lea : Bool)
  | setMediaOffloading (a2dp hfp lea : Bool)
  | serviceManagerStartup (transport : BtTransport)
  | serviceManagerShutdown (transport : BtTransport)
  | salLeEnable | salLeDisable | salEnable | salDisable
  | dfxOpenError (transport : BtTransport)
  | leEnabled (enablebt : Bool) | leDisabled | brEnabled | brDisabled
  | l2capServiceInit | l2capServiceCleanup
  | disconnectAll (transport : BtTransport)
deriving DecidableEq

structure AdapterStateMachine where
  sm : StateMachine AdapterHsmState
  bleEnabled : Bool
  pendingTurnOn : Bool
  a2dpOffloading : Bool
  hfpOffloading : Bool
  leaOffloading : Bool
  turningOffSafe : Bool
  bleTurningOffSafe : Bool
  disableSafeTimer : Option Nat
deriving DecidableEq

/-- The machine, the published state, the messages posted and not yet dispatched, the armed
safe-disable timers (a handle is the number of timers created before it), and the calls made so
far. -/
structure AdapterService where
  stm : AdapterStateMachine
  adapterState : BtAdapterState
  msgQueue : List AdapterEvent
  timers : List Nat
  nextTimer : Nat
  trace : List AdapterAction
deriving DecidableEq

/-! ## What the handlers call -/

namespace AdapterService

def emit (a : AdapterService) (act : AdapterAction) : AdapterService :=
  { a with trace := a.trace ++ [act] }

def sendToStateMachine (a : AdapterService) (e : AdapterEvent) : AdapterService :=
  { a with msgQueue := a.msgQueue ++ [e] }

def notifyStateChange (a : AdapterService) (prev current : BtAdapterState) :
    AdapterService :=
  { a.emit (.stateChanged prev current) with adapterState := current }

def startSafeTimer (a : AdapterService) : AdapterService :=
  { a with
    stm := { a.stm with disableSafeTimer := some a.nextTimer }
    timers := a.timers ++ [a.nextTimer]
    nextTimer := a.nextTimer + 1 }

def cancelSafeTimer (a : AdapterService) : AdapterService :=
  { a with
    stm := { a.stm with disableSafeTimer := none }
    timers := match a.stm.disableSafeTimer with
      | some t => a.timers.erase t
      | none => a.timers }

def disconnectSafe (env : AdapterEnv) (a : AdapterService) : AdapterService :=
  if env.bredrAclAllDisconnected then
    a.sendToStateMachine .bredrAclAllDisconnected
  else a.emit (.disconnectAll .bredr)

def leDisconnectSafe (cfg : AdapterConfig) (env : AdapterEnv)
    (a : AdapterService) : AdapterService :=
  if cfg.bleSupport then
    if env.bleAclAllDisconnected then
      a.sendToStateMachine .bleAclAllDisconnected
    else a.emit (.disconnectAll .ble)
  else a

def onLeEnabled (cfg : AdapterConfig) (a : AdapterService) (enablebt : Bool) :
    AdapterService :=
  if cfg.bleSupport then
    let a := a.emit (.leEnabled enablebt)
    let a := if cfg.l2cap && !enablebt then a.emit .l2capServiceInit else a
    if enablebt then a.sendToStateMachine .sysTurnOn else a
  else a

def onLeDisabled (cfg : AdapterConfig) (a : AdapterService) : AdapterService :=
  if cfg.bleSupport then
    let a := a.emit .leDisabled
    if cfg.l2cap then a.emit .l2capServiceCleanup else a
  else a

def onBrEnabled (cfg : AdapterConfig) (a : AdapterService) : AdapterService :=
  let a := a.emit .brEnabled
  if cfg.l2cap then a.emit .l2capServiceInit else a

def onBrDisabled (a : AdapterService) : AdapterService := a.emit .brDisabled

def prevStateValue (a : AdapterService) : BtAdapterState :=
  match a.stm.sm.previous with
  | some prev => prev.stateValue
  | none => .off

end AdapterService

open AdapterService

/-! ## Enter and exit actions -/

def offEnter (cfg : AdapterConfig) (a : AdapterService) : AdapterService :=
  let a := { a with stm := { a.stm with
    bleEnabled := false, pendingTurnOn := false
    turningOffSafe := false, bleTurningOffSafe := false } }
  match a.stm.sm.previous with
  | some prev => a.notifyStateChange prev.stateValue .off
  | none =>
    { a with stm := { a.stm with
      a2dpOffloading := cfg.a2dpOffloading
      hfpOffloading := cfg.hfpOffloading
      leaOffloading := cfg.leaOffloading } }

def bleTurningOnEnter (cfg : AdapterConfig) (env : AdapterEnv)
    (a : AdapterService) : AdapterService :=
  if cfg.bleSupport then
    let a := a.emit .salLeEnable
    if env.leEnable then a.notifyStateChange .off .bleTurningOn
    else a.emit (.dfxOpenError .ble)
  else a

def bleOnEnter (cfg : AdapterConfig) (a : AdapterService) : AdapterService :=
  let a := a.notifyStateChange a.prevStateValue .bleOn
  let a := { a with stm := { a.stm with bleEnabled := true } }
  let a := a.onLeEnabled cfg a.stm.pendingTurnOn
  { a with stm := { a.stm with pendingTurnOn := false } }

def turningOnEnter (env : AdapterEnv) (a : AdapterService) : AdapterService :=
  let a := a.emit .salEnable
  if env.enable then a.notifyStateChange a.prevStateValue .turningOn
  else a.emit (.dfxOpenError .bredr)

def onStateEnter (cfg : AdapterConfig) (a : AdapterService) : AdapterService :=
  let a := a.onBrEnabled cfg
  let a := a.notifyStateChange a.prevStateValue .on
  a.emit (.setMediaOffloading a.stm.a2dpOffloading a.stm.hfpOffloading a.stm.leaOffloading)

def turningOffEnter (a : AdapterService) : AdapterService :=
  let a := a.cancelSafeTimer
  let a := a.emit (.serviceManagerShutdown .bredr)
  a.notifyStateChange .on .turningOff

def turningOffExit (a : AdapterService) : AdapterService := a.onBrDisabled

def bleTurningOffEnter (cfg : AdapterConfig) (a : AdapterService) :
    AdapterService :=
  if cfg.bleSupport then
    let a := a.cancelSafeTimer
    let a := a.emit (.serviceManagerShutdown .ble)
    let a := a.onLeDisabled cfg
    a.notifyStateChange a.prevStateValue .bleTurningOff
  else a

def bleTurningOffExit (cfg : AdapterConfig) (a : AdapterService) :
    AdapterService :=
  if cfg.bleSupport then { a with stm := { a.stm with bleEnabled := false } }
  else a

def adapterOps (cfg : AdapterConfig) (env : AdapterEnv) :
    HsmOps AdapterHsmState AdapterService where
  sm a := a.stm.sm
  setSm a sm := { a with stm := { a.stm with sm := sm } }
  enter
    | .offState => offEnter cfg
    | .bleTurningOnState => bleTurningOnEnter cfg env
    | .bleOnState => bleOnEnter cfg
    | .turningOnState => turningOnEnter env
    | .onState => onStateEnter cfg
    | .turningOffState => turningOffEnter
    | .bleTurningOffState => bleTurningOffEnter cfg
  exit
    | .turningOffState => turningOffExit
    | .bleTurningOffState => bleTurningOffExit cfg
    | _ => id

def transitionTo (cfg : AdapterConfig) (env : AdapterEnv) (a : AdapterService)
    (s : AdapterHsmState) : AdapterService :=
  hsmTransitionTo (adapterOps cfg env) a s

/-! ## Event handlers

Each returns whether the state handled the event, as the C `process_event`
callbacks do, and the service after it. -/

def notifyMediaOffloading (a : AdapterService) : AdapterService :=
  a.emit (.notifyMediaOffloading a.stm.a2dpOffloading a.stm.hfpOffloading a.stm.leaOffloading)

def offProcessEvent (cfg : AdapterConfig) (env : AdapterEnv)
    (a : AdapterService) : AdapterEvent → Bool × AdapterService
  | .sysTurnOn =>
    let a := notifyMediaOffloading a
    if !cfg.bleSupport then (true, transitionTo cfg env a .turningOnState)
    else
      let a := if cfg.bredrSupport then
          { a with stm := { a.stm with pendingTurnOn := true } }
        else a
      -- the C case falls through to TURN_ON_BLE
      (true, transitionTo cfg env a .bleTurningOnState)
  | .turnOnBle => (true, transitionTo cfg env a .bleTurningOnState)
  | _ => (false, a)

def bleTurningOnProcessEvent (cfg : AdapterConfig) (env : AdapterEnv)
    (a : AdapterService) : AdapterEvent → Bool × AdapterService
  | .bleEnabled => (true, a.emit (.serviceManagerStartup .ble))
  | .bleProfileEnabled => (true, transitionTo cfg env a .bleOnState)
  | .bleEnableTimeout | .bleEnableProfileTimeout => (true, a)
  | _ => (false, a)

def bleOnProcessEvent (cfg : AdapterConfig) (env : AdapterEnv)
    (a : AdapterService) : AdapterEvent → Bool × AdapterService
  | .sysTurnOn => (true, transitionTo cfg env a .turningOnState)
  | .sysTurnOff | .turnOffBle =>
    (true, transitionTo cfg env a .bleTurningOffState)
  | .sysTurnOffSafe =>
    let a := { a with stm := { a.stm with bleTurningOffSafe := true } }
    (true, (a.leDisconnectSafe cfg env).startSafeTimer)
  | .sysTurnOffSafeTimeout | .bleAclAllDisconnected =>
    if a.stm.bleTurningOffSafe then
      (true, transitionTo cfg env a .bleTurningOffState)
    else (true, a)
  | _ => (false, a)

def turningOnProcessEvent (cfg : AdapterConfig) (env : AdapterEnv)
    (a : AdapterService) : AdapterEvent → Bool × AdapterService
  | .bredrEnabled => (true, a.emit (.serviceManagerStartup .bredr))
  | .bredrProfileEnabled => (true, transitionTo cfg env a .onState)
  | .bredrEnableTimeout | .bredrEnableProfileTimeout => (true, a)
  | _ => (false, a)

def onStateProcessEvent (cfg : AdapterConfig) (env : AdapterEnv)
    (a : AdapterService) : AdapterEvent → Bool × AdapterService
  | .sysTurnOff => (true, transitionTo cfg env a .turningOffState)
  | .sysTurnOffSafe =>
    let a := { a with stm := { a.stm with turningOffSafe := true } }
    (true, (a.disconnectSafe env).startSafeTimer)
  | .bredrAclAllDisconnected | .sysTurnOffSafeTimeout =>
    if a.stm.turningOffSafe then
      (true, transitionTo cfg env a .turningOffState)
    else (true, a)
  | _ => (false, a)

def turningOffProcessEvent (cfg : AdapterConfig) (env : AdapterEnv)
    (a : AdapterService) : AdapterEvent → Bool × AdapterService
  | .bredrProfileDisabled => (true, a.emit .salDisable)
  | .bredrDisabled =>
    if !cfg.bleSupport then (true, transitionTo cfg env a .offState)
    else if !a.stm.turningOffSafe then
      (true, transitionTo cfg env a .bleTurningOffState)
    else
      -- stay here until the LE links are down as well
      let a := { a with stm := { a.stm with bleTurningOffSafe := true } }
      (true, (a.leDisconnectSafe cfg env).startSafeTimer)
  | .sysTurnOffSafeTimeout | .bleAclAllDisconnected =>
    if a.stm.bleTurningOffSafe then
      (true, transitionTo cfg env a .bleTurningOffState)
    else (true, a)
  | .bredrDisableTimeout | .bredrDisableProfileTimeout => (true, a)
  | _ => (false, a)

def bleTurningOffProcessEvent (cfg : AdapterConfig) (env : AdapterEnv)
    (a : AdapterService) : AdapterEvent → Bool × AdapterService
  | .bleProfileDisabled =>
    (true, if cfg.bleSupport then a.emit .salLeDisable else a)
  | .bleDisabled => (true, transitionTo cfg env a .offState)
  | .bleDisableTimeout | .bleDisableProfileTimeout => (true, a)
  | _ => (false, a)

def hsmDispatchEvent (cfg : AdapterConfig) (env : AdapterEnv)
    (a : AdapterService) (e : AdapterEvent) : Bool × AdapterService :=
  match a.stm.sm.current with
  | .offState => offProcessEvent cfg env a e
  | .bleTurningOnState => bleTurningOnProcessEvent cfg env a e
  | .bleOnState => bleOnProcessEvent cfg env a e
  | .turningOnState => turningOnProcessEvent cfg env a e
  | .onState => onStateProcessEvent cfg env a e
  | .turningOffState => turningOffProcessEvent cfg env a e
  | .bleTurningOffState => bleTurningOffProcessEvent cfg env a e

def dispatch (cfg : AdapterConfig) (env : AdapterEnv) (a : AdapterService)
    (e : AdapterEvent) : AdapterService :=
  (hsmDispatchEvent cfg env a e).2

/-! ## Construction and the adapter API -/

/-- The service after start-up, in OFF. -/
def adapterInit (cfg : AdapterConfig) : AdapterService :=
  hsmCtor (adapterOps cfg ⟨false, false, false, false⟩)
    { stm :=
        { sm := { current := .offState, previous := none }
          bleEnabled := false, pendingTurnOn := false
          a2dpOffloading := false, hfpOffloading := false
          leaOffloading := false, turningOffSafe := false
          bleTurningOffSafe := false, disableSafeTimer := none }
      adapterState := .off, msgQueue := [], timers := [], nextTimer := 0
      trace := [] }
    .offState

inductive AdapterOpt where
  | appSetLeOnly | sysSetBtAll

inductive AdapterRequestStatus where
  | done | success
deriving DecidableEq

def adapterGetState (a : AdapterService) : BtAdapterState := a.adapterState

def adapterEnable (a : AdapterService) (opt : AdapterOpt) : AdapterRequestStatus × AdapterService :=
  if adapterGetState a = .on then (.done, a)
  else
    match opt with
    | .sysSetBtAll => (.success, a.sendToStateMachine .sysTurnOn)
    | .appSetLeOnly => (.success, a.sendToStateMachine .turnOnBle)

def adapterDisable (a : AdapterService) (opt : AdapterOpt) :
    AdapterRequestStatus × AdapterService :=
  if adapterGetState a = .off then (.done, a)
  else
    match opt with
    | .sysSetBtAll => (.success, a.sendToStateMachine .sysTurnOffSafe)
    | .appSetLeOnly => (.success, a.sendToStateMachine .turnOffBle)

/-- A request, an event posted by the stack, a timer that fires, or the handling of the next
message. -/
inductive AdapterInput where
  | enable (opt : AdapterOpt)
  | disable (opt : AdapterOpt)
  | post (e : AdapterEvent)
  | timer (t : Nat)
  | dispatch (env : AdapterEnv)

/-- One input to the service. -/
def adapterStep (cfg : AdapterConfig) (a : AdapterService) :
    AdapterInput → AdapterService
  | .enable opt => (adapterEnable a opt).2
  | .disable opt => (adapterDisable a opt).2
  | .post e => a.sendToStateMachine e
  | .timer t =>
    -- `turning_off_safe_timeout_callback`; the timer does not repeat
    if t ∈ a.timers then
      { a with timers := a.timers.erase t }.sendToStateMachine .sysTurnOffSafeTimeout
    else a
  | .dispatch env =>
    match a.msgQueue with
    | [] => a
    | e :: rest => dispatch cfg env { a with msgQueue := rest } e

def dualModeConfig : AdapterConfig where
  bleSupport := true
  bredrSupport := true
  l2cap := true
  a2dpOffloading := false
  hfpOffloading := false
  leaOffloading := false

def linksUpEnv : AdapterEnv where
  leEnable := true
  enable := true
  bredrAclAllDisconnected := false
  bleAclAllDisconnected := false

end BtFramework
