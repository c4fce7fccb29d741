import BtFramework.AdapterState

/-!
# The control part of the adapter state machine

Which state the adapter moves to next depends on the current state and the two
"safe" flags only: `AdapterControl` is that part and `AdapterControl.step` its
transition table. Results of stack calls and the state of the links decide what is
published and posted, not where the machine goes. The handlers are not unfolded
again above `dispatch_eq`.
-/

namespace BtFramework

open AdapterService

structure AdapterControl where
  state : AdapterHsmState
  turningOffSafe : Bool
  bleTurningOffSafe : Bool

def AdapterService.control (a : AdapterService) : AdapterControl where
  state := a.stm.sm.current
  turningOffSafe := a.stm.turningOffSafe
  bleTurningOffSafe := a.stm.bleTurningOffSafe

namespace AdapterControl

/-! ## The transition table -/

def target (cfg : AdapterConfig) (c : AdapterControl) (e : AdapterEvent) : Option AdapterHsmState :=
  match c.state, e with
  | .offState, .sysTurnOn =>
    some (if cfg.bleSupport then .bleTurningOnState else .turningOnState)
  | .offState, .turnOnBle => some .bleTurningOnState
  | .bleTurningOnState, .bleProfileEnabled => some .bleOnState
  | .bleOnState, .sysTurnOn => some .turningOnState
  | .bleOnState, .sysTurnOff => some .bleTurningOffState
  | .bleOnState, .turnOffBle => some .bleTurningOffState
  | .bleOnState, .sysTurnOffSafeTimeout =>
    if c.bleTurningOffSafe then some .bleTurningOffState else none
  | .bleOnState, .bleAclAllDisconnected =>
    if c.bleTurningOffSafe then some .bleTurningOffState else none
  | .turningOnState, .bredrProfileEnabled => some .onState
  | .onState, .sysTurnOff => some .turningOffState
  | .onState, .bredrAclAllDisconnected =>
    if c.turningOffSafe then some .turningOffState else none
  | .onState, .sysTurnOffSafeTimeout =>
    if c.turningOffSafe then some .turningOffState else none
  | .turningOffState, .bredrDisabled =>
    if !cfg.bleSupport then some .offState
    else if !c.turningOffSafe then some .bleTurningOffState
    else none
  | .turningOffState, .sysTurnOffSafeTimeout =>
    if c.bleTurningOffSafe then some .bleTurningOffState else none
  | .turningOffState, .bleAclAllDisconnected =>
    if c.bleTurningOffSafe then some .bleTurningOffState else none
  | .bleTurningOffState, .bleDisabled => some .offState
  | _, _ => none

def remember (c : AdapterControl) (e : AdapterEvent) : AdapterControl :=
  match c.state, e with
  | .bleOnState, .sysTurnOffSafe => { c with bleTurningOffSafe := true }
  | .onState, .sysTurnOffSafe => { c with turningOffSafe := true }
  | .turningOffState, .bredrDisabled => { c with bleTurningOffSafe := true }
  | _, _ => c

def moveTo (c : AdapterControl) (s : AdapterHsmState) : AdapterControl :=
  if s = .offState then ⟨.offState, false, false⟩ else { c with state := s }

def step (cfg : AdapterConfig) (c : AdapterControl) (e : AdapterEvent) :
    AdapterControl :=
  match c.target cfg e with
  | some s => c.moveTo s
  | none => c.remember e

@[simp] theorem moveTo_state (c : AdapterControl) (s : AdapterHsmState) :
    (c.moveTo s).state = s := by
  unfold moveTo
  split
  next h => rw [h]
  · rfl

@[simp] theorem remember_state (c : AdapterControl) (e : AdapterEvent) :
    (c.remember e).state = c.state := by
  unfold remember
  split <;> rfl

theorem target_source {cfg : AdapterConfig} {c : AdapterControl} {e : AdapterEvent}
    {s : AdapterHsmState} (h : c.target cfg e = some s) :
    match s with
    | .offState =>
      c.state = .bleTurningOffState ∨ c.state = .turningOffState ∧ cfg.bleSupport = false
    | .bleTurningOnState => c.state = .offState
    | .bleOnState => c.state = .bleTurningOnState
    | .turningOnState =>
      c.state = .bleOnState ∨ c.state = .offState ∧ cfg.bleSupport = false
    | .onState => c.state = .turningOnState
    | .turningOffState => c.state = .onState
    | .bleTurningOffState => c.state = .bleOnState ∨ c.state = .turningOffState := by
  obtain ⟨state, safe, bleSafe⟩ := c
  obtain ⟨le, _, _, _, _, _⟩ := cfg
  cases state <;> cases e <;> cases le <;> cases safe <;> cases bleSafe <;> cases h <;> simp

end AdapterControl

/-! ## Transitions -/

/-- What is published after entering `s`, given what was before: the turning-on states publish
only when the stack call succeeded, the LE states only in a build with LE. -/
def publishedOnEnter (cfg : AdapterConfig) (env : AdapterEnv)
    (published : BtAdapterState) : AdapterHsmState → BtAdapterState
  | .bleTurningOnState =>
    if cfg.bleSupport && env.leEnable then .bleTurningOn else published
  | .turningOnState => if env.enable then .turningOn else published
  | .bleTurningOffState =>
    if cfg.bleSupport then .bleTurningOff else published
  | s => s.stateValue

variable (cfg : AdapterConfig) (env : AdapterEnv) (a : AdapterService)

theorem control_transitionTo (s : AdapterHsmState) :
    (transitionTo cfg env a s).control = a.control.moveTo s
      ∧ (transitionTo cfg env a s).adapterState = publishedOnEnter cfg env a.adapterState s := by
  obtain ⟨⟨⟨cur, prev⟩, bleEnabled, pending, a2dp, hfp, lea, safe, bleSafe, timer⟩,
    published, queue, timers, next, trace⟩ := a
  -- the exit action depends on the state left, the enter action on the one entered
  cases s <;> cases cur <;>
    simp only [transitionTo, hsmTransitionTo, adapterOps, bleTurningOnEnter, bleOnEnter,
      turningOnEnter, onStateEnter, bleTurningOffEnter, bleTurningOffExit, onLeEnabled,
      onLeDisabled, onBrEnabled, publishedOnEnter, Bool.and_eq_true] <;>
    (repeat' split) <;>
    first | exact ⟨rfl, rfl⟩ | simp_all

/-! ## Dispatch -/

def beforeMove (e : AdapterEvent) : AdapterService :=
  if a.stm.sm.current = .offState ∧ e = .sysTurnOn then
    let a := notifyMediaOffloading a
    if cfg.bleSupport && cfg.bredrSupport then
      { a with stm := { a.stm with pendingTurnOn := true } }
    else a
  else a

def stayPut (e : AdapterEvent) : AdapterService :=
  match a.stm.sm.current, e with
  | .bleTurningOnState, .bleEnabled => a.emit (.serviceManagerStartup .ble)
  | .turningOnState, .bredrEnabled => a.emit (.serviceManagerStartup .bredr)
  | .bleOnState, .sysTurnOffSafe =>
    ({ a with stm := { a.stm with bleTurningOffSafe := true } }.leDisconnectSafe
      cfg env).startSafeTimer
  | .onState, .sysTurnOffSafe =>
    ({ a with stm := { a.stm with turningOffSafe := true } }.disconnectSafe env).startSafeTimer
  | .turningOffState, .bredrDisabled =>
    ({ a with stm := { a.stm with bleTurningOffSafe := true } }.leDisconnectSafe
      cfg env).startSafeTimer
  | .turningOffState, .bredrProfileDisabled => a.emit .salDisable
  | .bleTurningOffState, .bleProfileDisabled =>
    if cfg.bleSupport then a.emit .salLeDisable else a
  | _, _ => a

variable (e : AdapterEvent)

/-- **What one dispatched event does.** Where the table moves the machine, the
handler ends in that transition; otherwise the machine stays. -/
theorem dispatch_eq :
    dispatch cfg env a e = match a.control.target cfg e with
      | some s => transitionTo cfg env (beforeMove cfg a e) s
      | none => stayPut cfg env a e := by
  obtain ⟨⟨⟨cur, prev⟩, bleEnabled, pending, a2dp, hfp, lea, safe, bleSafe, timer⟩,
    published, queue, timers, next, trace⟩ := a
  -- a state ignores most events, and most of the others move it unconditionally
  cases cur <;> cases e <;> try rfl
  case offState.sysTurnOn =>
    obtain ⟨le, bredr, _, _, _, _⟩ := cfg
    cases le <;> cases bredr <;> rfl
  case onState.sysTurnOffSafeTimeout | onState.bredrAclAllDisconnected =>
    cases safe <;> rfl
  case turningOffState.bredrDisabled =>
    obtain ⟨le, _, _, _, _, _⟩ := cfg
    cases le <;> cases safe <;> rfl
  -- what is left waits for the LE links of a safe disable
  all_goals cases bleSafe <;> rfl

theorem control_beforeMove :
    (beforeMove cfg a e).control = a.control
      ∧ (beforeMove cfg a e).adapterState = a.adapterState := by
  unfold beforeMove
  split
  · split <;> exact ⟨rfl, rfl⟩
  · exact ⟨rfl, rfl⟩

theorem control_stayPut :
    (stayPut cfg env a e).control = a.control.remember e
      ∧ (stayPut cfg env a e).adapterState = a.adapterState := by
  obtain ⟨⟨⟨cur, prev⟩, bleEnabled, pending, a2dp, hfp, lea, safe, bleSafe, timer⟩,
    published, queue, timers, next, trace⟩ := a
  cases cur <;> cases e <;> try exact ⟨rfl, rfl⟩
  all_goals
    simp only [stayPut, leDisconnectSafe, disconnectSafe]
    (repeat' split) <;> exact ⟨rfl, rfl⟩

theorem dispatch_cases :
    (∃ s b, a.control.target cfg e = some s
        ∧ dispatch cfg env a e = transitionTo cfg env b s
        ∧ b.control = a.control ∧ b.adapterState = a.adapterState)
      ∨ (a.control.target cfg e = none
        ∧ (dispatch cfg env a e).control = a.control.remember e
        ∧ (dispatch cfg env a e).adapterState = a.adapterState) := by
  rw [dispatch_eq]
  cases htarget : a.control.target cfg e with
  | some s => exact .inl ⟨s, beforeMove cfg a e, rfl, rfl, control_beforeMove cfg a e⟩
  | none => exact .inr ⟨rfl, control_stayPut cfg env a e⟩

/-- **The machine refines the table**, whatever the stack calls return. -/
theorem control_dispatch : (dispatch cfg env a e).control = a.control.step cfg e := by
  rcases dispatch_cases cfg env a e with
    ⟨s, b, htarget, hdisp, hctl, -⟩ | ⟨htarget, hctl, -⟩
  · rw [hdisp, (control_transitionTo cfg env b s).1, hctl, AdapterControl.step, htarget]
  · rw [hctl, AdapterControl.step, htarget]

theorem control_adapterInit : (adapterInit cfg).control = ⟨.offState, false, false⟩ := rfl

end BtFramework
