import BtFramework.AdapterShutdown

/-!
# The lifetime of the L2CAP manager

`l2cap_service_init` is called when LE came up on its own, and whenever BR/EDR came up;
`l2cap_service_cleanup` when LE went down. A dual-mode adapter that is turned on in one go has
LE enabled before the manager is initialised, one that is turned on LE first initialises it
twice, and without LE it is never cleaned up.
-/

namespace BtFramework

open AdapterControl AdapterService List Runs

/-! ## Watching the calls -/

/-- `life` is `none` once init or cleanup was called out of turn; before, it says whether the
manager is initialised. `enablebt` is the argument of the last `adapter_on_le_enabled`, and
`brSeen` says whether `adapter_on_br_enabled` was ever called. -/
structure L2capMonitor where
  le : Bool
  br : Bool
  life : Option Bool
  enablebt : Option Bool
  brSeen : Bool

namespace L2capMonitor

def start : L2capMonitor :=
  { le := false, br := false, life := some false, enablebt := none, brSeen := false }

def see (m : L2capMonitor) : AdapterAction → L2capMonitor
  | .leEnabled enablebt => { m with le := true, enablebt := some enablebt }
  | .leDisabled => { m with le := false }
  | .brEnabled => { m with br := true, brSeen := true }
  | .brDisabled => { m with br := false }
  | .l2capServiceInit =>
    { m with life := if m.life = some false then some true else none }
  | .l2capServiceCleanup =>
    { m with life := if m.life = some true then some false else none }
  | _ => m

end L2capMonitor

def AdapterService.l2capMonitor (a : AdapterService) : L2capMonitor :=
  a.trace.foldl L2capMonitor.see .start

/-- Each cleanup follows an init, and the other way round. -/
def AdapterService.L2capAlternates (a : AdapterService) : Prop :=
  a.l2capMonitor.life ≠ none

/-- The manager is up exactly while a transport is. -/
def AdapterService.L2capFollows (a : AdapterService) : Prop :=
  a.l2capMonitor.life = some (a.l2capMonitor.le || a.l2capMonitor.br)

/-! ## What one event does -/

structure LifeView where
  control : AdapterControl
  pending : Bool
  monitor : L2capMonitor

/-- The part of the adapter this depends on. -/
def AdapterService.lifeView (a : AdapterService) : LifeView where
  control := a.control
  pending := a.stm.pendingTurnOn
  monitor := a.l2capMonitor

def lifeExit : AdapterHsmState → List AdapterAction
  | .turningOffState => [.brDisabled]
  | _ => []

def lifeEnter (cfg : AdapterConfig) (pending : Bool) : AdapterHsmState → List AdapterAction
  | .bleOnState =>
    if cfg.bleSupport then
      .leEnabled pending :: if cfg.l2cap && !pending then [.l2capServiceInit] else []
    else []
  | .onState => .brEnabled :: if cfg.l2cap then [.l2capServiceInit] else []
  | .bleTurningOffState =>
    if cfg.bleSupport then
      .leDisabled :: if cfg.l2cap then [.l2capServiceCleanup] else []
    else []
  | _ => []

namespace LifeView

def moveTo (cfg : AdapterConfig) (v : LifeView) (s : AdapterHsmState) : LifeView where
  control := v.control.moveTo s
  pending := if s = .bleOnState ∨ s = .offState then false else v.pending
  monitor := (lifeExit v.control.state ++ lifeEnter cfg v.pending s).foldl
    L2capMonitor.see v.monitor

def request (cfg : AdapterConfig) (v : LifeView) (e : AdapterEvent) : LifeView :=
  if v.control.state = .offState ∧ e = .sysTurnOn ∧ cfg.bleSupport ∧ cfg.bredrSupport then
    { v with pending := true }
  else v

def step (cfg : AdapterConfig) (v : LifeView) (e : AdapterEvent) : LifeView :=
  match v.control.target cfg e with
  | some s => (v.request cfg e).moveTo cfg s
  | none => { v with control := v.control.remember e }

end LifeView

section

variable (cfg : AdapterConfig) (env : AdapterEnv) (a : AdapterService)

theorem l2capMonitor_emit (act : AdapterAction) :
    (a.emit act).l2capMonitor = a.l2capMonitor.see act := by
  rw [l2capMonitor, emit, foldl_append]
  rfl

theorem l2capMonitor_exit (s : AdapterHsmState) :
    ((adapterOps cfg env).exit s a).l2capMonitor
        = (lifeExit s).foldl L2capMonitor.see a.l2capMonitor
      ∧ ((adapterOps cfg env).exit s a).stm.pendingTurnOn = a.stm.pendingTurnOn := by
  cases s
  case turningOffState => exact ⟨l2capMonitor_emit a _, rfl⟩
  case bleTurningOffState =>
    simp only [adapterOps, bleTurningOffExit]
    split <;> exact ⟨rfl, rfl⟩
  all_goals exact ⟨rfl, rfl⟩

theorem l2capMonitor_enter (hprev : a.stm.sm.previous.isSome) (s : AdapterHsmState) :
    ((adapterOps cfg env).enter s a).l2capMonitor
        = (lifeEnter cfg a.stm.pendingTurnOn s).foldl L2capMonitor.see a.l2capMonitor
      ∧ ((adapterOps cfg env).enter s a).stm.pendingTurnOn
        = (if s = .bleOnState ∨ s = .offState then false else a.stm.pendingTurnOn) := by
  cases s <;> cases hp : a.stm.pendingTurnOn <;>
    simp only [adapterOps, offEnter, bleTurningOnEnter, bleOnEnter, turningOnEnter, onStateEnter,
      turningOffEnter, bleTurningOffEnter, onLeEnabled, onLeDisabled, onBrEnabled, lifeEnter,
      hp, l2capMonitor, emit, notifyStateChange] <;>
    (repeat' split) <;>
    simp_all [L2capMonitor.see, cancelSafeTimer, sendToStateMachine]

theorem lifeView_transitionTo (s : AdapterHsmState) :
    (transitionTo cfg env a s).lifeView = a.lifeView.moveTo cfg s := by
  obtain ⟨hexit, hpending⟩ := l2capMonitor_exit cfg env a a.stm.sm.current
  obtain ⟨henter, hpending'⟩ := l2capMonitor_enter cfg env
    ((adapterOps cfg env).setSm ((adapterOps cfg env).exit a.stm.sm.current a)
      { current := s, previous := some a.stm.sm.current }) rfl s
  have hself : ∀ (b : AdapterService) sm, ((adapterOps cfg env).setSm b sm).l2capMonitor
      = b.l2capMonitor := fun _ _ => rfl
  have hsame : ∀ (b : AdapterService) sm, ((adapterOps cfg env).setSm b sm).stm.pendingTurnOn
      = b.stm.pendingTurnOn := fun _ _ => rfl
  rw [hself, hsame, hpending, hexit, ← foldl_append] at henter
  rw [hsame, hpending] at hpending'
  rw [lifeView, (control_transitionTo cfg env a s).1]
  exact LifeView.mk.injEq .. ▸ ⟨rfl, hpending', henter⟩

theorem lifeView_emit (act : AdapterAction) (h : ∀ m : L2capMonitor, m.see act = m) :
    (a.emit act).lifeView = a.lifeView := by
  have hmonitor := l2capMonitor_emit a act
  rw [h] at hmonitor
  exact congrArg (LifeView.mk a.control a.stm.pendingTurnOn) hmonitor

theorem lifeView_beforeMove (e : AdapterEvent) :
    (beforeMove cfg a e).lifeView = a.lifeView.request cfg e := by
  unfold beforeMove LifeView.request
  by_cases hon : a.stm.sm.current = .offState ∧ e = .sysTurnOn
  · have htold := lifeView_emit a (.notifyMediaOffloading a.stm.a2dpOffloading
      a.stm.hfpOffloading a.stm.leaOffloading) fun _ => rfl
    obtain ⟨hoff, rfl⟩ := hon
    rw [if_pos ⟨hoff, rfl⟩]
    cases hdual : cfg.bleSupport && cfg.bredrSupport with
    | false =>
      rw [if_neg Bool.false_ne_true, if_neg]
      · exact htold
      · rintro ⟨-, -, hle, hbredr⟩
        rw [hle, hbredr] at hdual
        cases hdual
    | true =>
      rw [Bool.and_eq_true] at hdual
      rw [if_pos rfl, if_pos ⟨hoff, rfl, hdual⟩]
      exact congrArg (fun v => { v with pending := true }) htold
  · rw [if_neg hon, if_neg]
    exact fun hreq => hon ⟨hreq.1, hreq.2.1⟩

theorem lifeView_stayPut (e : AdapterEvent) :
    (stayPut cfg env a e).lifeView = { a.lifeView with control := a.control.remember e } := by
  obtain ⟨⟨⟨cur, prev⟩, bleEnabled, pending, a2dp, hfp, lea, safe, bleSafe, timer⟩,
    published, queue, timers, next, trace⟩ := a
  cases cur <;> cases e <;> first | rfl | exact lifeView_emit _ _ fun _ => rfl | skip
  all_goals
    simp only [stayPut, leDisconnectSafe, disconnectSafe]
    (repeat' split) <;> first | rfl | exact lifeView_emit _ _ fun _ => rfl

theorem lifeView_dispatch (e : AdapterEvent) :
    (dispatch cfg env a e).lifeView = a.lifeView.step cfg e := by
  have hcontrol : a.lifeView.control = a.control := rfl
  rw [dispatch_eq, LifeView.step, hcontrol]
  cases a.control.target cfg e with
  | some s =>
    rw [← lifeView_beforeMove]
    exact lifeView_transitionTo cfg env _ s
  | none => exact lifeView_stayPut cfg env a e

end

/-! ## Guards -/

namespace LifeView

/-- With LE, ON is entered only after LE came up with the request to turn BR/EDR on, and LE is
turned off alone only if it came up alone; without LE, ON is entered only once. -/
def AlternatesOk (cfg : AdapterConfig) (v : LifeView) (e : AdapterEvent) : Prop :=
  if cfg.bleSupport then
    (v.control.target cfg e = some .onState → v.monitor.enablebt = some true)
      ∧ (v.control.state = .bleOnState → v.control.target cfg e = some .bleTurningOffState →
        v.monitor.enablebt = some false)
  else v.control.target cfg e = some .onState → v.monitor.brSeen = false
deriving Decidable

/-- Moving on keeps manager and transports together: with LE, ON is never entered
and BLE_ON never with a request to turn BR/EDR on; without LE, TURNING_OFF is
never left. -/
def FollowsOk (cfg : AdapterConfig) (v : LifeView) (e : AdapterEvent) : Prop :=
  if cfg.bleSupport then
    v.control.target cfg e ≠ some .onState
      ∧ ¬(v.control.target cfg e = some .bleOnState ∧ v.pending = true)
  else ¬(v.control.state = .turningOffState ∧ v.control.target cfg e ≠ none)
deriving Decidable

def AlternatesInv (cfg : AdapterConfig) (v : LifeView) : Prop :=
  if cfg.bleSupport then
    match v.control.state with
    | .offState | .bleTurningOnState | .bleTurningOffState => v.monitor.life = some false
    | .bleOnState | .turningOnState =>
      ∃ b, v.monitor.enablebt = some b ∧ v.monitor.life = some !b
    | .onState | .turningOffState => v.monitor.life = some true
  else v.monitor.life = some v.monitor.brSeen

def FollowsInv (cfg : AdapterConfig) (v : LifeView) : Prop :=
  if cfg.bleSupport then
    match v.control.state with
    | .offState | .bleTurningOnState | .bleTurningOffState =>
      v.monitor.life = some false ∧ v.monitor.le = false ∧ v.monitor.br = false
    | .bleOnState | .turningOnState =>
      v.monitor.life = some true ∧ v.monitor.le = true ∧ v.monitor.br = false
    | .onState | .turningOffState => False
  else v.monitor.le = false ∧ v.monitor.life = some v.monitor.br
    ∧ v.monitor.br = decide (v.control.state = .onState ∨ v.control.state = .turningOffState)

section

variable {cfg : AdapterConfig} {v : LifeView} {e : AdapterEvent}

theorem request_same :
    (v.request cfg e).control = v.control ∧ (v.request cfg e).monitor = v.monitor := by
  rw [request]
  split <;> exact ⟨rfl, rfl⟩

theorem step_of_target {s : AdapterHsmState} (htarget : v.control.target cfg e = some s) :
    (v.step cfg e).control.state = s
      ∧ (v.step cfg e).monitor
        = (lifeExit v.control.state ++ lifeEnter cfg (v.request cfg e).pending s).foldl
            L2capMonitor.see v.monitor := by
  rw [step, htarget]
  simp only [moveTo, moveTo_state, request_same, and_self]

theorem step_of_none (htarget : v.control.target cfg e = none) :
    (v.step cfg e).control.state = v.control.state ∧ (v.step cfg e).monitor = v.monitor := by
  rw [step, htarget]
  exact ⟨remember_state _ _, rfl⟩

theorem foldl_lifeExit (state : AdapterHsmState) (m : L2capMonitor) :
    (lifeExit state).foldl L2capMonitor.see m
      = { m with br := m.br && state ≠ .turningOffState } := by
  cases state <;> simp [lifeExit, L2capMonitor.see]

theorem alternatesInv_step (hl : cfg.l2cap = true) (hinv : v.AlternatesInv cfg) :
    (v.AlternatesOk cfg e → (v.step cfg e).AlternatesInv cfg)
      ∧ (¬v.AlternatesOk cfg e → (v.step cfg e).monitor.life = none) := by
  cases htarget : v.control.target cfg e with
  | none =>
    obtain ⟨hstate, hmonitor⟩ := step_of_none htarget
    refine ⟨fun _ => ?_, fun hbad => absurd ?_ hbad⟩
    · rw [AlternatesInv, hstate, hmonitor]
      exact hinv
    · simp [AlternatesOk, htarget]
  | some s =>
    obtain ⟨hstate, hmonitor⟩ := step_of_target htarget
    have hsource := target_source htarget
    simp only [AlternatesInv, AlternatesOk, hstate, hmonitor, htarget, foldl_append,
      foldl_lifeExit] at hinv ⊢
    cases hle : cfg.bleSupport with
    | false =>
      cases s <;> simp_all [lifeEnter, L2capMonitor.see]
    | true =>
      rw [hle] at hinv
      cases s with
      | offState | bleTurningOnState | turningOnState | turningOffState => simp_all [lifeEnter]
      | bleOnState =>
        cases hp : (v.request cfg e).pending <;>
          simp_all [lifeEnter, L2capMonitor.see]
      | onState =>
        rw [hsource] at hinv
        obtain ⟨b, hb, hlife⟩ := hinv
        cases b <;> simp [lifeEnter, L2capMonitor.see, hl, hb, hlife]
      | bleTurningOffState =>
        rcases hsource with hsource | hsource
        · rw [hsource] at hinv ⊢
          obtain ⟨b, hb, hlife⟩ := hinv
          cases b <;> simp [lifeEnter, L2capMonitor.see, hle, hl, hb, hlife]
        · rw [hsource] at hinv ⊢
          simp [lifeEnter, L2capMonitor.see, hle, hl, show v.monitor.life = _ from hinv]

theorem followsInv_step (hl : cfg.l2cap = true) (hinv : v.FollowsInv cfg) :
    (v.FollowsOk cfg e → (v.step cfg e).FollowsInv cfg)
      ∧ (¬v.FollowsOk cfg e → (v.step cfg e).monitor.life
        ≠ some ((v.step cfg e).monitor.le || (v.step cfg e).monitor.br)) := by
  cases htarget : v.control.target cfg e with
  | none =>
    obtain ⟨hstate, hmonitor⟩ := step_of_none htarget
    refine ⟨fun _ => ?_, fun hbad => absurd ?_ hbad⟩
    · rw [FollowsInv, hstate, hmonitor]
      exact hinv
    · simp [FollowsOk, htarget]
  | some s =>
    obtain ⟨hstate, hmonitor⟩ := step_of_target htarget
    have hsource := target_source htarget
    simp only [FollowsInv, FollowsOk, hstate, hmonitor, htarget, foldl_append,
      foldl_lifeExit] at hinv ⊢
    cases hle : cfg.bleSupport with
    | false =>
      rw [hle] at hinv
      cases s with
      | offState | bleTurningOffState =>
        rcases hsource with hsource | hsource <;>
          simp_all [lifeEnter, L2capMonitor.see]
      | turningOnState => rcases hsource with hsource | hsource <;> simp_all [lifeEnter]
      | _ => simp_all [lifeEnter, L2capMonitor.see]
    | true =>
      rw [hle] at hinv
      cases s with
      | bleOnState =>
        have hp : (v.request cfg e).pending = v.pending := by simp [request, hsource]
        cases hpending : v.pending <;> simp_all [lifeEnter, L2capMonitor.see]
      | bleTurningOffState =>
        rcases hsource with hsource | hsource
        · simp_all [lifeEnter, L2capMonitor.see]
        · rw [hsource] at hinv
          exact hinv.elim
      | _ => simp_all [lifeEnter, L2capMonitor.see]

end

end LifeView

/-! ## Runs -/

theorem lifeView_adapterInit (cfg : AdapterConfig) :
    (adapterInit cfg).lifeView = ⟨⟨.offState, false, false⟩, false, .start⟩ := rfl

theorem alternatesInv_init (cfg : AdapterConfig) :
    (adapterInit cfg).lifeView.AlternatesInv cfg := by
  rw [lifeView_adapterInit, LifeView.AlternatesInv]
  split <;> rfl

theorem followsInv_init (cfg : AdapterConfig) : (adapterInit cfg).lifeView.FollowsInv cfg := by
  rw [lifeView_adapterInit, LifeView.FollowsInv]
  split <;> exact ⟨rfl, rfl, rfl⟩

theorem LifeView.AlternatesInv.life_ne_none {cfg : AdapterConfig} {v : LifeView}
    (h : v.AlternatesInv cfg) : v.monitor.life ≠ none := by
  rw [AlternatesInv] at h
  split at h
  · split at h <;> (try obtain ⟨b, -, h⟩ := h) <;> rw [h] <;> exact Option.some_ne_none _
  · rw [h]
    exact Option.some_ne_none _

theorem LifeView.FollowsInv.life_eq {cfg : AdapterConfig} {v : LifeView}
    (h : v.FollowsInv cfg) : v.monitor.life = some (v.monitor.le || v.monitor.br) := by
  rw [FollowsInv] at h
  split at h
  · split at h
    all_goals first
      | exact h.elim
      | rw [h.1, h.2.1, h.2.2]; rfl
  · rw [h.2.1, h.1, Bool.false_or]

theorem LifeView.FollowsInv.life_ne_none {cfg : AdapterConfig} {v : LifeView}
    (h : v.FollowsInv cfg) : v.monitor.life ≠ none := by
  rw [h.life_eq]
  exact Option.some_ne_none _

/-- Init and cleanup alternate exactly if no event moves the machine out of turn, and the manager
is moreover initialised exactly while a transport is enabled if and only if the machine keeps to
LE alone, or, without LE, is never turned off. -/
theorem l2cap_lifetime_iff (cfg : AdapterConfig) (hl : cfg.l2cap = true)
    (es : List AdapterEventIn) :
    ((∀ t ∈ visited (adapterEventStep cfg) (adapterInit cfg) es, t.L2capAlternates) ↔
      Guarded (adapterEventStep cfg) (fun a x => a.lifeView.AlternatesOk cfg x.1)
        (adapterInit cfg) es)
    ∧ ((∀ t ∈ visited (adapterEventStep cfg) (adapterInit cfg) es,
        t.L2capAlternates ∧ t.L2capFollows) ↔
      Guarded (adapterEventStep cfg) (fun a x => a.lifeView.FollowsOk cfg x.1)
        (adapterInit cfg) es) := by
  have hstep : ∀ (a : AdapterService) (x : AdapterEventIn),
      (adapterEventStep cfg a x).lifeView = a.lifeView.step cfg x.1 :=
    fun a x => lifeView_dispatch cfg x.2 a x.1
  constructor
  · refine forall_visited_iff_guarded
      (fun a (h : a.lifeView.AlternatesInv cfg) => h.life_ne_none) ?_ ?_ (alternatesInv_init cfg)
    · intro a x hinv hok
      rw [hstep]
      exact (LifeView.alternatesInv_step hl hinv).1 hok
    · intro a x hinv hbad
      have hnone := (LifeView.alternatesInv_step hl hinv).2 hbad
      rw [← hstep] at hnone
      exact fun h => h hnone
  · refine forall_visited_iff_guarded
      (fun a (h : a.lifeView.FollowsInv cfg) => ⟨h.life_ne_none, h.life_eq⟩) ?_ ?_
      (followsInv_init cfg)
    · intro a x hinv hok
      rw [hstep]
      exact (LifeView.followsInv_step hl hinv).1 hok
    · intro a x hinv hbad
      have hne := (LifeView.followsInv_step hl hinv).2 hbad
      rw [← hstep] at hne
      exact fun h => hne h.2

def leOnlyEvents : List AdapterEventIn :=
  [(.turnOnBle, linksUpEnv), (.bleEnabled, linksUpEnv), (.bleProfileEnabled, linksUpEnv),
   (.turnOffBle, linksUpEnv), (.bleProfileDisabled, linksUpEnv), (.bleDisabled, linksUpEnv)]

theorem leOnly_l2cap_follows :
    dualModeConfig.l2cap = true
      ∧ ∀ t ∈ visited (adapterEventStep dualModeConfig) (adapterInit dualModeConfig) leOnlyEvents,
        t.L2capAlternates ∧ t.L2capFollows :=
  ⟨rfl, (l2cap_lifetime_iff dualModeConfig rfl leOnlyEvents).2.mpr (by decide)⟩

def leFirstEvents : List AdapterEventIn :=
  [(.turnOnBle, linksUpEnv), (.bleEnabled, linksUpEnv), (.bleProfileEnabled, linksUpEnv),
   (.sysTurnOn, linksUpEnv), (.bredrEnabled, linksUpEnv), (.bredrProfileEnabled, linksUpEnv)]

/-- Turning BR/EDR on after LE initialises the manager a second time; and when both
are turned on at once, LE is enabled while the manager is not initialised. -/
theorem le_first_initialises_twice :
    ¬(afterEvents dualModeConfig leFirstEvents).L2capAlternates
      ∧ ¬(afterEvents dualModeConfig
          [(.sysTurnOn, linksUpEnv), (.bleEnabled, linksUpEnv),
            (.bleProfileEnabled, linksUpEnv)]).L2capFollows := by
  constructor
  · intro h
    exact h (by decide)
  · intro h
    rw [AdapterService.L2capFollows] at h
    exact absurd h (by decide)

end BtFramework
