import BtFramework.AdapterShutdown

/-!
# The safe-disable timer

A safe disable waits for the links to go down as long as `disable_safe_timer` runs. The handle
is overwritten each time the timer is armed, so a second request loses the first timer, which
then runs into the next session.
-/

namespace BtFramework

open AdapterControl AdapterService List Runs

/-! ## What one event does to the timers -/

structure TimerView where
  control : AdapterControl
  timers : List Nat
  handle : Option Nat
  next : Nat

def AdapterService.timerView (a : AdapterService) : TimerView where
  control := a.control
  timers := a.timers
  handle := a.stm.disableSafeTimer
  next := a.nextTimer

def AdapterControl.arms (c : AdapterControl) (e : AdapterEvent) : Bool :=
  match c.state, e with
  | .bleOnState, .sysTurnOffSafe => true
  | .onState, .sysTurnOffSafe => true
  | .turningOffState, .bredrDisabled => true
  | _, _ => false

def cancelsTimer (cfg : AdapterConfig) : AdapterHsmState → Bool
  | .turningOffState => true
  | .bleTurningOffState => cfg.bleSupport
  | _ => false

namespace TimerView

def cancel (v : TimerView) : TimerView :=
  { v with
    handle := none
    timers := match v.handle with
      | some t => v.timers.erase t
      | none => v.timers }

def start (v : TimerView) : TimerView :=
  { v with handle := some v.next, timers := v.timers ++ [v.next], next := v.next + 1 }

def moveTo (cfg : AdapterConfig) (v : TimerView) (s : AdapterHsmState) : TimerView :=
  let v := { v with control := v.control.moveTo s }
  if cancelsTimer cfg s then v.cancel else v

def step (cfg : AdapterConfig) (v : TimerView) (e : AdapterEvent) : TimerView :=
  match v.control.target cfg e with
  | some s => v.moveTo cfg s
  | none =>
    if v.control.arms e then { v.start with control := v.control.remember e }
    else { v with control := v.control.remember e }

end TimerView

section

variable (cfg : AdapterConfig) (env : AdapterEnv) (a : AdapterService)

theorem timerView_transitionTo (s : AdapterHsmState) :
    (transitionTo cfg env a s).timerView = a.timerView.moveTo cfg s
      ∧ a.msgQueue <+: (transitionTo cfg env a s).msgQueue := by
  obtain ⟨⟨⟨cur, prev⟩, bleEnabled, pending, a2dp, hfp, lea, safe, bleSafe, timer⟩,
    published, queue, timers, next, trace⟩ := a
  by_cases hle : cfg.bleSupport <;> cases s <;> cases cur <;>
    simp only [transitionTo, hsmTransitionTo, adapterOps, bleTurningOnEnter, bleOnEnter,
      turningOnEnter, onStateEnter, bleTurningOffEnter, bleTurningOffExit, onLeEnabled,
      onLeDisabled, onBrEnabled, TimerView.moveTo, cancelsTimer, hle, if_true, if_false,
      Bool.false_eq_true] <;>
    (repeat' split) <;>
    first | exact ⟨rfl, prefix_rfl⟩ | exact ⟨rfl, prefix_append _ _⟩

theorem beforeMove_spec (e : AdapterEvent) :
    (beforeMove cfg a e).timerView = a.timerView ∧ (beforeMove cfg a e).msgQueue = a.msgQueue := by
  unfold beforeMove
  split
  · split <;> exact ⟨rfl, rfl⟩
  · exact ⟨rfl, rfl⟩

theorem timerView_stayPut (e : AdapterEvent) :
    (stayPut cfg env a e).timerView
        = (if a.control.arms e then { a.timerView.start with control := a.control.remember e }
          else { a.timerView with control := a.control.remember e })
      ∧ a.msgQueue <+: (stayPut cfg env a e).msgQueue := by
  obtain ⟨⟨⟨cur, prev⟩, bleEnabled, pending, a2dp, hfp, lea, safe, bleSafe, timer⟩,
    published, queue, timers, next, trace⟩ := a
  cases cur <;> cases e <;> try exact ⟨rfl, prefix_rfl⟩
  all_goals
    simp only [stayPut, leDisconnectSafe, disconnectSafe, AdapterService.control, arms, if_true]
    (repeat' split) <;> first | exact ⟨rfl, prefix_rfl⟩ | exact ⟨rfl, prefix_append _ _⟩

/-- What one event does to the timers; the messages that wait are kept. -/
theorem timerView_dispatch (e : AdapterEvent) :
    (dispatch cfg env a e).timerView = a.timerView.step cfg e
      ∧ a.msgQueue <+: (dispatch cfg env a e).msgQueue := by
  have hcontrol : a.timerView.control = a.control := rfl
  rw [dispatch_eq, TimerView.step, hcontrol]
  cases a.control.target cfg e with
  | some s =>
    rw [← (beforeMove_spec cfg a e).1, ← (beforeMove_spec cfg a e).2]
    exact timerView_transitionTo cfg env _ s
  | none => exact timerView_stayPut cfg env a e

end

/-! ## Timers, messages and sessions -/

/-- `queue` are the messages with the timer that sent them, if one did; `session` counts how often
the machine has gone OFF; `armedIn` lists the session of each timer; `late` is set once a message
of a timer of an earlier session has moved the machine. -/
structure TimedAdapter where
  service : AdapterService
  queue : List (AdapterEvent × Option Nat)
  session : Nat
  armedIn : List Nat
  late : Bool

namespace TimedAdapter

def init (cfg : AdapterConfig) : TimedAdapter :=
  { service := adapterInit cfg, queue := [], session := 0, armedIn := [], late := false }

def waiting (u : TimedAdapter) : AdapterInput → List (AdapterEvent × Option Nat)
  | .dispatch _ => u.queue.tail
  | _ => u.queue

def sender : AdapterInput → Option Nat
  | .timer t => some t
  | _ => none

def movesLate (cfg : AdapterConfig) (u : TimedAdapter) (x : AdapterInput) : Bool :=
  match x, u.queue with
  | .dispatch _, (_, some t) :: _ =>
    u.armedIn[t]? ≠ some u.session
      ∧ (adapterStep cfg u.service x).stm.sm.current ≠ u.service.stm.sm.current
  | _, _ => false

def step (cfg : AdapterConfig) (u : TimedAdapter) (x : AdapterInput) : TimedAdapter :=
  let service := adapterStep cfg u.service x
  { service
    queue := u.waiting x ++ (service.msgQueue.drop (u.waiting x).length).map fun e => (e, sender x)
    session := if service.stm.sm.current = .offState ∧ u.service.stm.sm.current ≠ .offState
      then u.session + 1 else u.session
    armedIn := if u.service.nextTimer < service.nextTimer then u.armedIn ++ [u.session]
      else u.armedIn
    late := u.late || u.movesLate cfg x }

/-- One timer at most, none when off, and none that fires in a later session. -/
structure TimerSound (u : TimedAdapter) : Prop where
  single : u.service.timers.length ≤ 1
  off : u.service.stm.sm.current = .offState → u.service.timers = []
  inTime : u.late = false

/-- The timer is armed only with none running, none expired and waiting, and not in a state it
cannot be stopped in. -/
def ArmsAlone (cfg : AdapterConfig) (u : TimedAdapter) (x : AdapterInput) : Prop :=
  match x, u.service.msgQueue with
  | .dispatch _, e :: rest =>
    u.service.control.target cfg e = none → u.service.control.arms e = true →
      u.service.timers = [] ∧ .sysTurnOffSafeTimeout ∉ rest
        ∧ (cfg.bleSupport = false → u.service.stm.sm.current ≠ .bleOnState)
  | _, _ => True

instance (cfg : AdapterConfig) (u : TimedAdapter) (x : AdapterInput) :
    Decidable (u.ArmsAlone cfg x) := by
  unfold ArmsAlone
  split <;> infer_instance

/-! ## The invariant of runs that arm alone -/

def Resting (cfg : AdapterConfig) : AdapterHsmState → Prop
  | .offState | .bleTurningOnState | .bleTurningOffState => True
  | .onState => False
  | .bleOnState | .turningOnState | .turningOffState => cfg.bleSupport = false

structure TimersOk (cfg : AdapterConfig) (v : TimerView) : Prop where
  known : v.timers = [] ∨ ∃ t, v.timers = [t] ∧ v.handle = some t
  resting : Resting cfg v.control.state → v.timers = []
  calm : v.control.state = .offState →
    v.control.turningOffSafe = false ∧ v.control.bleTurningOffSafe = false

variable {v : TimerView} {cfg : AdapterConfig} {e : AdapterEvent} {c : AdapterControl}

theorem timers_cancel (h : v.timers = [] ∨ ∃ t, v.timers = [t] ∧ v.handle = some t) :
    v.cancel.timers = [] := by
  rcases h with h | ⟨t, h, hhandle⟩
  · simp only [TimerView.cancel, h]
    split <;> rfl
  · simp only [TimerView.cancel, h, hhandle, erase_cons_head]

theorem timers_moveTo (cfg : AdapterConfig) (v : TimerView) (s : AdapterHsmState) :
    (v.moveTo cfg s).timers = (if cancelsTimer cfg s then v.cancel.timers else v.timers)
      ∧ (v.moveTo cfg s).control = v.control.moveTo s := by
  rw [TimerView.moveTo]
  split <;> exact ⟨rfl, rfl⟩

theorem timersOk_moveTo {s : AdapterHsmState} (h : TimersOk cfg v)
    (htarget : v.control.target cfg e = some s) :
    TimersOk cfg (v.moveTo cfg s) := by
  obtain ⟨htimers, hcontrol⟩ := timers_moveTo cfg v s
  have hsource := target_source htarget
  refine ⟨?_, ?_, ?_⟩
  · rw [TimerView.moveTo]
    split
    · exact .inl (timers_cancel h.known)
    · exact h.known
  · intro hrest
    rw [htimers]
    split
    · exact timers_cancel h.known
    next hcancels =>
      -- the state before was a resting one already
      apply h.resting
      cases s
      case offState =>
        rcases hsource with hsource | ⟨hsource, hle⟩
        · rw [hsource]; trivial
        · rw [hsource]; exact hle
      case bleTurningOnState => rw [hsource]; trivial
      case bleOnState => rw [hsource]; trivial
      case turningOnState =>
        rcases hsource with hsource | ⟨hsource, hle⟩
        · rw [hsource]; exact hrest
        · rw [hsource]; trivial
      case onState => exact hrest.elim
      case turningOffState => exact absurd rfl hcancels
      case bleTurningOffState =>
        have hle : cfg.bleSupport = false := Bool.eq_false_iff.mpr hcancels
        rcases hsource with hsource | hsource
        · rw [hsource]; exact hle
        · rw [hsource]; exact hle
  · intro hoff
    rw [hcontrol, moveTo_state] at hoff
    rw [hcontrol, hoff]
    exact ⟨rfl, rfl⟩

theorem arms_state (h : c.arms e = true) :
    c.state = .bleOnState ∨ c.state = .onState
      ∨ c.state = .turningOffState ∧ e = .bredrDisabled := by
  obtain ⟨state, safe, bleSafe⟩ := c
  cases state <;> cases e <;> simp_all [arms]

theorem remember_of_not_arms (h : c.arms e = false) : c.remember e = c := by
  obtain ⟨state, safe, bleSafe⟩ := c
  cases state <;> cases e <;> first | rfl | cases h

theorem step_idle (htarget : v.control.target cfg e = none) (harms : v.control.arms e = false) :
    v.step cfg e = v := by
  rw [TimerView.step, htarget]
  rw [harms, if_neg Bool.false_ne_true, remember_of_not_arms harms]

theorem step_arm (htarget : v.control.target cfg e = none) (harms : v.control.arms e = true) :
    v.step cfg e = { v.start with control := v.control.remember e } := by
  rw [TimerView.step, htarget]
  rw [harms, if_pos rfl]

theorem timersOk_arm (htarget : v.control.target cfg e = none) (harms : v.control.arms e = true)
    (hnone : v.timers = []) (hbleOn : cfg.bleSupport = false → v.control.state ≠ .bleOnState) :
    TimersOk cfg (v.step cfg e) := by
  rw [step_arm htarget harms]
  refine ⟨.inr ⟨v.next, by simp [TimerView.start, hnone], rfl⟩, ?_, ?_⟩
  · intro hrest
    rw [remember_state] at hrest
    exfalso
    rcases arms_state harms with hstate | hstate | ⟨hstate, rfl⟩
    · rw [hstate] at hrest
      exact hbleOn hrest hstate
    · rw [hstate] at hrest
      exact hrest
    · -- without LE this event ends the shutdown
      rw [hstate] at hrest
      have hle : cfg.bleSupport = false := hrest
      simp [AdapterControl.target, hstate, hle] at htarget
  · intro hoff
    rw [remember_state] at hoff
    rcases arms_state harms with hstate | hstate | ⟨hstate, -⟩ <;>
      exact absurd (hstate.symm.trans hoff) nofun

def flagged (u : TimedAdapter) : Prop :=
  u.service.control.turningOffSafe = true ∨ u.service.control.bleTurningOffSafe = true

/-- The timers and their handle fit, a waiting message of a timer is a timeout, an outstanding
timer is of this session, and so is every waiting timeout once a safe disable has begun. -/
structure SafeInv (cfg : AdapterConfig) (u : TimedAdapter) : Prop where
  timers : TimersOk cfg u.service.timerView
  queue : u.queue.map Prod.fst = u.service.msgQueue
  sent : ∀ e t, (e, some t) ∈ u.queue → e = .sysTurnOffSafeTimeout
  armed : u.armedIn.length = u.service.nextTimer
  current : ∀ t ∈ u.service.timers, u.armedIn[t]? = some u.session
  waiting : u.flagged → ∀ e t, (e, some t) ∈ u.queue → u.armedIn[t]? = some u.session
  inTime : u.late = false

theorem SafeInv.sound {u : TimedAdapter} (h : SafeInv cfg u) : TimerSound u := by
  refine ⟨?_, ?_, h.inTime⟩
  · rcases h.timers.known with hnone | ⟨t, hone, -⟩
    · rw [show u.service.timers = [] from hnone]
      exact Nat.zero_le 1
    · rw [show u.service.timers = [t] from hone]
      exact Nat.le_refl 1
  · intro hoff
    apply h.timers.resting
    rw [show u.service.timerView.control.state = .offState from hoff]
    trivial

theorem safeInv_init (cfg : AdapterConfig) : SafeInv cfg (init cfg) where
  timers := ⟨.inl rfl, fun _ => rfl, fun _ => ⟨rfl, rfl⟩⟩
  queue := rfl
  sent := nofun
  armed := rfl
  current := nofun
  waiting := fun _ => nofun
  inTime := rfl

section

variable {cfg : AdapterConfig} {u u' : TimedAdapter} {x : AdapterInput} {e : AdapterEvent}
  {s : AdapterHsmState} {tag : Option Nat} {tail : List (AdapterEvent × Option Nat)}
  {new : List AdapterEvent} {t : Nat}

theorem queue_step (h : (adapterStep cfg u.service x).msgQueue
      = (u.waiting x).map Prod.fst ++ new) :
    (u.step cfg x).queue = u.waiting x ++ new.map fun e => (e, sender x) := by
  simp only [step, h, drop_left' (length_map _)]

/-! ### Requests, messages and timers -/

theorem step_quiet (h : u.queue.map Prod.fst = u.service.msgQueue) {a : AdapterService}
    {l : List AdapterEvent} (hservice : adapterStep cfg u.service x = a)
    (hmsgs : a.msgQueue = u.service.msgQueue ++ l) (hstm : a.stm = u.service.stm)
    (hnext : a.nextTimer = u.service.nextTimer) (hwaiting : u.waiting x = u.queue)
    (hlate : u.movesLate cfg x = false) : u.step cfg x
      = { u with service := a, queue := u.queue ++ l.map fun e => (e, sender x) } := by
  have hqueue := queue_step (by rw [hservice, hwaiting, h, hmsgs])
  simp only [step, hservice, hlate, hwaiting, hstm, hnext, Bool.or_false] at hqueue ⊢
  rw [hqueue]
  simp

theorem SafeInv.post (h : SafeInv cfg u) (l : List AdapterEvent) : SafeInv cfg { u with
    service := { u.service with msgQueue := u.service.msgQueue ++ l }
    queue := u.queue ++ l.map fun e => (e, none) } :=
  { h with
    queue := by simp [h.queue, Function.comp_def]
    sent := by simpa using h.sent
    waiting := fun hflag => by simpa using h.waiting hflag }

theorem SafeInv.erase_timers (h : SafeInv cfg u) (ht : t ∈ u.service.timers) :
    u.service.timers.erase t = [] := by
  rcases h.timers.known with hnil | ⟨t', hone, -⟩
  · rw [show u.service.timers = [] from hnil] at ht
    cases ht
  · rw [show u.service.timers = [t'] from hone, mem_singleton] at ht
    rw [show u.service.timers = [t'] from hone, ht, erase_cons_head]

theorem SafeInv.expire (h : SafeInv cfg u) (ht : t ∈ u.service.timers) : SafeInv cfg { u with
    service := { u.service with
      timers := u.service.timers.erase t
      msgQueue := u.service.msgQueue ++ [.sysTurnOffSafeTimeout] }
    queue := u.queue ++ [(.sysTurnOffSafeTimeout, some t)] } := by
  have hcurrent := h.current t ht
  rw [h.erase_timers ht]
  exact { h with
    timers := ⟨.inl rfl, fun _ => rfl, h.timers.calm⟩
    queue := by simp [h.queue]
    sent := fun e t' hmem => by
      rcases mem_append.mp hmem with hmem | hmem
      · exact h.sent e t' hmem
      · exact (Prod.mk.inj (mem_singleton.mp hmem)).1
    current := nofun
    waiting := fun hflag e t' hmem => by
      rcases mem_append.mp hmem with hmem | hmem
      · exact h.waiting hflag e t' hmem
      · cases mem_singleton.mp hmem
        exact hcurrent }

/-! ### Dispatching a message -/

/-- What dispatching `e` does, with `tail` waiting behind it. -/
structure Dispatched (cfg : AdapterConfig) (u u' : TimedAdapter) (e : AdapterEvent)
    (tag : Option Nat) (tail : List (AdapterEvent × Option Nat)) : Prop where
  view : u'.service.timerView = u.service.timerView.step cfg e
  queue : u'.queue.map Prod.fst = u'.service.msgQueue
  tagged : ∀ e t, (e, some t) ∈ u'.queue → (e, some t) ∈ tail
  session : u'.session = if u'.service.control.state = .offState
    ∧ u.service.control.state ≠ .offState then u.session + 1 else u.session
  armedIn : u'.armedIn = if u.service.nextTimer < u'.service.nextTimer
    then u.armedIn ++ [u.session] else u.armedIn
  late : u'.late = true → u.late = true ∨ ∃ t, tag = some t ∧ u.armedIn[t]? ≠ some u.session
    ∧ u'.service.control.state ≠ u.service.control.state

theorem dispatched_step (h : u.queue.map Prod.fst = u.service.msgQueue)
    (hq : u.queue = (e, tag) :: tail) (cfg : AdapterConfig) (env : AdapterEnv) :
    Dispatched cfg u (u.step cfg (.dispatch env)) e tag tail := by
  have hmsgs : u.service.msgQueue = e :: tail.map Prod.fst := by rw [← h, hq, map_cons]
  have hservice : adapterStep cfg u.service (.dispatch env)
      = dispatch cfg env { u.service with msgQueue := tail.map Prod.fst } e := by
    simp only [adapterStep, hmsgs]
  have hwaiting : u.waiting (.dispatch env) = tail := by rw [waiting, hq, tail_cons]
  obtain ⟨htimers, new, hnew⟩ :=
    timerView_dispatch cfg env { u.service with msgQueue := tail.map Prod.fst } e
  have hadded : (adapterStep cfg u.service (.dispatch env)).msgQueue
      = (u.waiting (.dispatch env)).map Prod.fst ++ new := by
    rw [hservice, hwaiting, ← hnew]
  have hqueue := queue_step hadded
  refine ⟨?_, ?_, fun e' t hmem => ?_, rfl, rfl, fun hlate => ?_⟩
  · exact (congrArg AdapterService.timerView hservice).trans htimers
  · rw [hqueue, map_append, map_map, map_id'']
    · exact hadded.symm
    · exact fun _ => rfl
  · rw [hqueue, hwaiting] at hmem
    simpa [sender] using hmem
  · refine (Bool.or_eq_true_iff.mp hlate).imp_right fun hmoves => ?_
    rw [movesLate.eq_def, hq] at hmoves
    cases tag with
    | none => cases hmoves
    | some t => exact ⟨t, rfl, of_decide_eq_true hmoves⟩

theorem flagged_of_timeout_moves (h : c.target cfg .sysTurnOffSafeTimeout = some s) :
    c.turningOffSafe = true ∨ c.bleTurningOffSafe = true := by
  obtain ⟨state, safe, bleSafe⟩ := c
  cases safe
  · cases bleSafe
    · cases state <;> cases h
    · exact .inr rfl
  · exact .inl rfl

theorem Dispatched.stays (hd : Dispatched cfg u u' e tag tail)
    (htarget : u.service.control.target cfg e = none) :
    u'.service.control = u.service.control.remember e ∧ u'.session = u.session := by
  have hcontrol : u'.service.control = u.service.control.remember e := by
    refine (congrArg TimerView.control hd.view).trans ?_
    rw [TimerView.step, show u.service.timerView.control.target cfg e = none from htarget]
    dsimp only
    split <;> rfl
  refine ⟨hcontrol, ?_⟩
  rw [hd.session, hcontrol, remember_state, if_neg fun hoff => hoff.2 hoff.1]

theorem Dispatched.inTime (hd : Dispatched cfg u u' e tag tail) (h : SafeInv cfg u)
    (hq : u.queue = (e, tag) :: tail) : u'.late = false := by
  refine Bool.eq_false_iff.mpr fun hlate => ?_
  rcases hd.late hlate with hlate | ⟨t, rfl, hstale, hmoved⟩
  · rw [h.inTime] at hlate
    cases hlate
  · have hmem : (e, some t) ∈ u.queue := hq ▸ mem_cons_self
    obtain rfl := h.sent e t hmem
    refine hstale (h.waiting ?_ _ t hmem)
    cases htarget : u.service.control.target cfg .sysTurnOffSafeTimeout with
    | some s => exact flagged_of_timeout_moves htarget
    | none => rw [(hd.stays htarget).1, remember_state] at hmoved; exact absurd rfl hmoved

theorem SafeInv.dispatch (h : SafeInv cfg u) (hq : u.queue = (e, tag) :: tail)
    (hd : Dispatched cfg u u' e tag tail) (htimers : TimersOk cfg u'.service.timerView)
    (harmed : u'.armedIn.length = u'.service.nextTimer)
    (hcurrent : ∀ t ∈ u'.service.timers, u'.armedIn[t]? = some u'.session)
    (hwaiting : u'.flagged → ∀ t, (.sysTurnOffSafeTimeout, some t) ∈ tail →
      u'.armedIn[t]? = some u'.session) : SafeInv cfg u' where
  timers := htimers
  queue := hd.queue
  sent e' t hmem := h.sent e' t (hq ▸ mem_cons_of_mem _ (hd.tagged e' t hmem))
  armed := harmed
  current := hcurrent
  waiting hflag e' t hmem := by
    have htail := hd.tagged e' t hmem
    obtain rfl := h.sent e' t (hq ▸ mem_cons_of_mem _ htail)
    exact hwaiting hflag t htail
  inTime := hd.inTime h hq

theorem mem_timers_moveTo {v : TimerView} (h : t ∈ (v.moveTo cfg s).timers) : t ∈ v.timers := by
  rw [(timers_moveTo cfg v s).1] at h
  split at h
  · rw [TimerView.cancel] at h
    split at h
    · exact mem_of_mem_erase h
    · exact h
  · exact h

theorem SafeInv.move (h : SafeInv cfg u) (hq : u.queue = (e, tag) :: tail)
    (hd : Dispatched cfg u u' e tag tail) (htarget : u.service.control.target cfg e = some s) :
    SafeInv cfg u' := by
  have hview : u'.service.timerView = u.service.timerView.moveTo cfg s := by
    rw [hd.view, TimerView.step,
      show u.service.timerView.control.target cfg e = some s from htarget]
  have htimers : TimersOk cfg u'.service.timerView := hview ▸ timersOk_moveTo h.timers htarget
  have hcontrol : u'.service.control = u.service.control.moveTo s :=
    (congrArg TimerView.control hview).trans (timers_moveTo cfg u.service.timerView s).2
  have hnext : u'.service.nextTimer = u.service.nextTimer := by
    refine (congrArg TimerView.next hview).trans ?_
    rw [TimerView.moveTo]
    split <;> rfl
  have harmed : u'.armedIn = u.armedIn := by rw [hd.armedIn, hnext, if_neg (Nat.lt_irrefl _)]
  have hstate : u'.service.control.state = s := by rw [hcontrol, moveTo_state]
  have hsession : s ≠ .offState → u'.session = u.session := by
    intro hne
    rw [hd.session, if_neg fun hoff => hne (hstate.symm.trans hoff.1)]
  -- nothing is outstanding when a session ends, and no safe disable has begun then
  have hoff : s = .offState → u'.service.timers = [] ∧ ¬u'.flagged := by
    rintro rfl
    refine ⟨htimers.resting ?_, ?_⟩
    · rw [show u'.service.timerView.control.state = .offState from hstate]
      trivial
    · rw [flagged, hcontrol]
      simp [moveTo]
  have htimers' : ∀ t ∈ u'.service.timers, t ∈ u.service.timers := fun t ht =>
    mem_timers_moveTo (show t ∈ (u.service.timerView.moveTo cfg s).timers from hview ▸ ht)
  refine h.dispatch hq hd htimers (by rw [harmed, hnext, h.armed]) ?_ ?_
  · intro t ht
    by_cases hs : s = .offState
    · rw [(hoff hs).1] at ht
      cases ht
    · rw [harmed, hsession hs]
      exact h.current t (htimers' t ht)
  · intro hflag t hmem
    have hne : s ≠ .offState := fun hs => (hoff hs).2 hflag
    rw [flagged, hcontrol, moveTo, if_neg hne] at hflag
    rw [harmed, hsession hne]
    exact h.waiting hflag _ t (hq ▸ mem_cons_of_mem _ hmem)

theorem SafeInv.idle (h : SafeInv cfg u) (hq : u.queue = (e, tag) :: tail)
    (hd : Dispatched cfg u u' e tag tail) (htarget : u.service.control.target cfg e = none)
    (harms : u.service.control.arms e = false) : SafeInv cfg u' := by
  have hsame : u'.service.timerView = u.service.timerView := hd.view.trans (step_idle htarget harms)
  have hnext : u'.service.nextTimer = u.service.nextTimer := congrArg TimerView.next hsame
  have hcontrol : u'.service.control = u.service.control := congrArg TimerView.control hsame
  have harmed : u'.armedIn = u.armedIn := by rw [hd.armedIn, hnext, if_neg (Nat.lt_irrefl _)]
  have hsession := (hd.stays htarget).2
  refine h.dispatch hq hd (hsame ▸ h.timers) (by rw [harmed, hnext, h.armed]) ?_ ?_
  · rw [harmed, hsession, show u'.service.timers = _ from congrArg TimerView.timers hsame]
    exact h.current
  · intro hflag t hmem
    rw [flagged, hcontrol] at hflag
    rw [harmed, hsession]
    exact h.waiting hflag _ t (hq ▸ mem_cons_of_mem _ hmem)

theorem SafeInv.arm (h : SafeInv cfg u) (hq : u.queue = (e, tag) :: tail)
    (hd : Dispatched cfg u u' e tag tail) (htarget : u.service.control.target cfg e = none)
    (harms : u.service.control.arms e = true) (hnone : u.service.timers = [])
    (hquiet : .sysTurnOffSafeTimeout ∉ tail.map Prod.fst)
    (hle : cfg.bleSupport = false → u.service.stm.sm.current ≠ .bleOnState) : SafeInv cfg u' := by
  have hview : u'.service.timerView = _ := hd.view.trans (step_arm htarget harms)
  have hnext : u'.service.nextTimer = u.service.nextTimer + 1 := congrArg TimerView.next hview
  have hstart : u'.service.timers = [u.service.nextTimer] :=
    (congrArg TimerView.timers hview).trans (congrArg (· ++ [u.service.nextTimer]) hnone)
  have harmed : u'.armedIn = u.armedIn ++ [u.session] := by
    rw [hd.armedIn, hnext, if_pos (Nat.lt_succ_self _)]
  refine h.dispatch hq hd (hd.view ▸ timersOk_arm htarget harms hnone hle) ?_ ?_ ?_
  · rw [harmed, hnext, length_append, h.armed, length_singleton]
  · rw [hstart, harmed, (hd.stays htarget).2, forall_mem_singleton, ← h.armed,
      getElem?_concat_length]
  · exact fun _ t hmem => absurd (mem_map_of_mem hmem) hquiet

theorem SafeInv.posts (h : SafeInv cfg u) {l : List AdapterEvent}
    (hservice : adapterStep cfg u.service x
      = { u.service with msgQueue := u.service.msgQueue ++ l })
    (hwaiting : u.waiting x = u.queue) (hsender : sender x = none)
    (hlate : u.movesLate cfg x = false) : SafeInv cfg (u.step cfg x) := by
  rw [step_quiet h.queue hservice rfl rfl rfl hwaiting hlate, hsender]
  exact h.post l

theorem SafeInv.same (h : SafeInv cfg u) (hservice : adapterStep cfg u.service x = u.service)
    (hwaiting : u.waiting x = u.queue) (hlate : u.movesLate cfg x = false) :
    SafeInv cfg (u.step cfg x) := by
  rw [step_quiet h.queue hservice (append_nil _).symm rfl rfl hwaiting hlate, map_nil, append_nil]
  exact h

theorem safeInv_step (h : SafeInv cfg u) (halone : u.ArmsAlone cfg x) :
    SafeInv cfg (u.step cfg x) := by
  cases x with
  | enable opt =>
    by_cases hon : adapterGetState u.service = .on
    · exact h.same (by simp only [adapterStep, adapterEnable, if_pos hon]) rfl rfl
    · cases opt <;>
        exact h.posts (by simp only [adapterStep, adapterEnable, if_neg hon]; rfl) rfl rfl rfl
  | disable opt =>
    by_cases hoff : adapterGetState u.service = .off
    · exact h.same (by simp only [adapterStep, adapterDisable, if_pos hoff]) rfl rfl
    · cases opt <;>
        exact h.posts (by simp only [adapterStep, adapterDisable, if_neg hoff]; rfl) rfl rfl rfl
  | post e => exact h.posts rfl rfl rfl rfl
  | timer t =>
    by_cases ht : t ∈ u.service.timers
    · have hservice : adapterStep cfg u.service (.timer t) = _ := if_pos ht
      rw [step_quiet h.queue hservice rfl rfl rfl rfl rfl]
      exact h.expire ht
    · exact h.same (if_neg ht) rfl rfl
  | dispatch env =>
    rcases hq : u.queue with _ | ⟨⟨e, tag⟩, tail⟩
    · have hmsgs : u.service.msgQueue = [] := by rw [← h.queue, hq, map_nil]
      exact h.same (by simp only [adapterStep, hmsgs]) (by simp [waiting, hq])
        (by simp [movesLate, hq])
    · have hd := dispatched_step h.queue hq cfg env
      have hmsgs : u.service.msgQueue = e :: tail.map Prod.fst := by rw [← h.queue, hq, map_cons]
      cases htarget : u.service.control.target cfg e with
      | some s => exact h.move hq hd htarget
      | none =>
        simp only [ArmsAlone, hmsgs] at halone
        cases harms : u.service.control.arms e with
        | false => exact h.idle hq hd htarget harms
        | true =>
          obtain ⟨hnone, hquiet, hle⟩ := halone htarget harms
          exact h.arm hq hd htarget harms hnone hquiet hle

end

end TimedAdapter

/-! ## Runs -/

open TimedAdapter

/-- Along every run in which the timer is armed alone, at most one timer is
outstanding, none while the machine is OFF, and no timer moves the machine in a later
session. -/
theorem safe_timer_sound_of_armsAlone (cfg : AdapterConfig) (xs : List AdapterInput)
    (h : Guarded (TimedAdapter.step cfg) (ArmsAlone cfg) (TimedAdapter.init cfg) xs) :
    ∀ u ∈ visited (TimedAdapter.step cfg) (TimedAdapter.init cfg) xs, TimerSound u := by
  intro u hu
  exact (Guarded.invariant (fun _ _ hinv halone => safeInv_step hinv halone)
    (safeInv_init cfg) h u hu).sound

def turnOnInputs : List AdapterInput :=
  [.enable .sysSetBtAll, .dispatch linksUpEnv, .post .bleProfileEnabled, .dispatch linksUpEnv,
   .dispatch linksUpEnv, .post .bredrProfileEnabled, .dispatch linksUpEnv]

def turnOffInputs : List AdapterInput :=
  [.disable .sysSetBtAll, .dispatch linksUpEnv, .post .bredrAclAllDisconnected,
   .dispatch linksUpEnv, .post .bredrDisabled, .dispatch linksUpEnv,
   .post .bleAclAllDisconnected, .dispatch linksUpEnv, .post .bleDisabled, .dispatch linksUpEnv]

theorem one_request_timer_sound :
    Guarded (TimedAdapter.step dualModeConfig) (ArmsAlone dualModeConfig)
        (TimedAdapter.init dualModeConfig) (turnOnInputs ++ turnOffInputs)
      ∧ ∀ u ∈ visited (TimedAdapter.step dualModeConfig) (TimedAdapter.init dualModeConfig)
          (turnOnInputs ++ turnOffInputs), TimerSound u :=
  ⟨by decide +kernel, safe_timer_sound_of_armsAlone dualModeConfig _ (by decide +kernel)⟩

def askTwiceInputs : List AdapterInput :=
  turnOnInputs ++ [.disable .sysSetBtAll, .disable .sysSetBtAll, .dispatch linksUpEnv,
    .dispatch linksUpEnv]

/-- The second request leaves two timers outstanding; the first of them still is when
the machine is OFF, and ends the next session when it expires there. -/
theorem second_request_leaves_timer :
    (after (TimedAdapter.step dualModeConfig) (TimedAdapter.init dualModeConfig)
        askTwiceInputs).service.timers = [0, 1]
      ∧ (let u := after (TimedAdapter.step dualModeConfig) (TimedAdapter.init dualModeConfig)
          (askTwiceInputs ++ turnOffInputs.drop 2)
        u.service.stm.sm.current = .offState ∧ u.service.timers = [0])
      ∧ (let u := after (TimedAdapter.step dualModeConfig) (TimedAdapter.init dualModeConfig)
          (askTwiceInputs ++ turnOffInputs.drop 2 ++ turnOnInputs
            ++ [.disable .sysSetBtAll, .dispatch linksUpEnv, .timer 0, .dispatch linksUpEnv])
        u.session = 1 ∧ u.service.stm.sm.current = .turningOffState ∧ u.late = true) := by
  decide +kernel

end BtFramework
