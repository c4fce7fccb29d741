import BtFramework.Runs
import BtFramework.AdapterControl

/-!
# Shutdown order

A dual-mode adapter goes off in two phases, TURNING_OFF for BR/EDR, until the stack reports
BREDR_DISABLED, and BLE_TURNING_OFF for LE. In safe mode TURNING_OFF is kept until the LE links
are down too, with a flag that a SYS_TURN_ON in BLE_ON may have set before.
-/

namespace BtFramework

open List Runs

/-! ## Runs of events -/

/-- An event and what its handler reads from outside. -/
abbrev AdapterEventIn := AdapterEvent × AdapterEnv

/-- The event is handled at once. -/
def adapterEventStep (cfg : AdapterConfig) (a : AdapterService)
    (x : AdapterEventIn) : AdapterService :=
  dispatch cfg x.2 a x.1

def afterEvents (cfg : AdapterConfig) (es : List AdapterEventIn) :
    AdapterService :=
  after (adapterEventStep cfg) (adapterInit cfg) es

def stateAfter (cfg : AdapterConfig) (es : List AdapterEventIn) :
    AdapterHsmState :=
  (afterEvents cfg es).stm.sm.current

/-- The machine is in TURNING_OFF and has processed a BREDR_DISABLED event
during this stay: it was in TURNING_OFF before that event and in every state
after it. -/
def BredrDisabledThisStay (cfg : AdapterConfig) (es : List AdapterEventIn) :
    Prop :=
  ∃ before env stay, es = before ++ (.bredrDisabled, env) :: stay
    ∧ ∀ t ∈ visited (adapterEventStep cfg) (afterEvents cfg before)
        ((.bredrDisabled, env) :: stay), t.stm.sm.current = .turningOffState

/-- TURNING_OFF is left only once BREDR_DISABLED has come during the stay in it. -/
def ShutdownOrdered (cfg : AdapterConfig) (es : List AdapterEventIn) : Prop :=
  ∀ before x rest, es = before ++ x :: rest →
    stateAfter cfg before = .turningOffState →
    stateAfter cfg (before ++ [x]) ≠ .turningOffState →
    x.1 = .bredrDisabled ∨ BredrDisabledThisStay cfg before

/-- No SYS_TURN_ON comes in BLE_ON while a safe disable waits. -/
def Uninterrupted (a : AdapterService) (x : AdapterEventIn) : Prop :=
  ¬(a.stm.sm.current = .bleOnState ∧ a.stm.bleTurningOffSafe = true ∧ x.1 = .sysTurnOn)
deriving Decidable

variable {cfg : AdapterConfig}

variable {es : List AdapterEventIn} {x : AdapterEventIn}

theorem afterEvents_concat :
    (afterEvents cfg (es ++ [x])).control = (afterEvents cfg es).control.step cfg x.1 := by
  rw [afterEvents, after_concat]
  exact control_dispatch cfg x.2 _ x.1

/-! ## The flag, on the transition table -/

def SafeFlagMeans (D : Prop) (c : AdapterControl) : Prop :=
  c.bleTurningOffSafe = true →
    c.state = .bleOnState ∨ c.state = .bleTurningOffState ∨ c.state = .turningOffState ∧ D

theorem safeFlagMeans_step {c : AdapterControl} {e : AdapterEvent} {D D' : Prop}
    (hle : cfg.bleSupport = true)
    (hok : ¬(c.state = .bleOnState ∧ c.bleTurningOffSafe = true ∧ e = .sysTurnOn))
    (hD : c.state = .turningOffState → (c.step cfg e).state = .turningOffState →
      D ∨ e = .bredrDisabled → D')
    (h : SafeFlagMeans D c) : SafeFlagMeans D' (c.step cfg e) := by
  obtain ⟨state, safe, bleSafe⟩ := c
  obtain ⟨le, _, _, _, _, _⟩ := cfg
  cases hle
  intro hflag
  cases bleSafe
  · -- the flag has just been set: by BLE_ON, or in TURNING_OFF by BREDR_DISABLED
    cases state <;> cases safe <;> cases e <;>
      first
      | exact Bool.noConfusion hflag
      | exact .inl rfl
      | exact .inr (.inr ⟨rfl, hD rfl rfl (.inr rfl)⟩)
  · rcases h rfl with rfl | rfl | ⟨rfl, hd⟩
    case inl =>
      cases e <;>
        first
        | exact .inl rfl
        | exact .inr (.inl rfl)
        | exact absurd ⟨rfl, rfl, rfl⟩ hok
    case inr.inl =>
      cases e <;> first | exact .inr (.inl rfl) | exact Bool.noConfusion hflag
    case inr.inr =>
      cases safe <;> cases e <;>
        first
        | exact .inr (.inr ⟨rfl, hD rfl rfl (.inl hd)⟩)
        | exact .inr (.inl rfl)

theorem turningOff_left {c : AdapterControl} {e : AdapterEvent}
    (hstate : c.state = .turningOffState)
    (hleft : (c.step cfg e).state ≠ .turningOffState) :
    e = .bredrDisabled ∨ c.bleTurningOffSafe = true := by
  obtain ⟨state, safe, bleSafe⟩ := c
  cases bleSafe
  · refine .inl ?_
    cases hstate
    cases e <;> first | rfl | exact absurd rfl hleft
  · exact .inr rfl

/-! ## Whole runs -/

theorem bredrDisabledThisStay_start (hx : x.1 = .bredrDisabled)
    (hin : stateAfter cfg es = .turningOffState)
    (hstay : stateAfter cfg (es ++ [x]) = .turningOffState) :
    BredrDisabledThisStay cfg (es ++ [x]) := by
  obtain ⟨e, env⟩ := x
  cases hx
  refine ⟨es, env, [], rfl, ?_⟩
  intro t ht
  rw [stateAfter, afterEvents, after_concat] at hstay
  simp only [visited, mem_cons, not_mem_nil, or_false] at ht
  rcases ht with rfl | rfl
  · exact hin
  · exact hstay

theorem BredrDisabledThisStay.concat (h : BredrDisabledThisStay cfg es)
    (hstay : stateAfter cfg (es ++ [x]) = .turningOffState) :
    BredrDisabledThisStay cfg (es ++ [x]) := by
  obtain ⟨before, env, stay, rfl, hall⟩ := h
  refine ⟨before, env, stay ++ [x], by simp, ?_⟩
  intro t ht
  rw [stateAfter, afterEvents, after_concat, after_append] at hstay
  rw [← cons_append, visited_concat, mem_append, mem_singleton] at ht
  rcases ht with ht | rfl
  · exact hall t ht
  · exact hstay

theorem safeFlagMeans_after (hle : cfg.bleSupport = true)
    (hok : Guarded (adapterEventStep cfg) Uninterrupted (adapterInit cfg) es) :
    SafeFlagMeans (BredrDisabledThisStay cfg es) (afterEvents cfg es).control := by
  refine hok.history_invariant
    (fun es a => SafeFlagMeans (BredrDisabledThisStay cfg es) a.control) ?_ ?_
  · intro hflag
    exact Bool.noConfusion hflag
  · intro es x ih hx
    rw [adapterEventStep, control_dispatch]
    refine safeFlagMeans_step hle hx ?_ ih
    intro hin hstay hd
    have hstay' : stateAfter cfg (es ++ [x]) = .turningOffState :=
      (congrArg AdapterControl.state afterEvents_concat).trans hstay
    rcases hd with hd | hx
    · exact hd.concat hstay'
    · exact bredrDisabledThisStay_start hx hin hstay'

/-- **Shutdown order.** In an LE-capable build, over every sequence of events
in which no SYS_TURN_ON interrupts a safe disable in BLE_ON, the machine
leaves TURNING_OFF only after a BREDR_DISABLED event of that stay. -/
theorem shutdown_ordered_of_uninterrupted (cfg : AdapterConfig)
    (hle : cfg.bleSupport = true) (es : List AdapterEventIn)
    (hok : Guarded (adapterEventStep cfg) Uninterrupted (adapterInit cfg) es) :
    ShutdownOrdered cfg es := by
  rintro before x rest rfl hin hout
  have hflag := safeFlagMeans_after hle hok.append_left
  have hout' : ((afterEvents cfg before).control.step cfg x.1).state ≠ .turningOffState :=
    fun h => hout ((congrArg AdapterControl.state afterEvents_concat).trans h)
  have hin' : (afterEvents cfg before).control.state = .turningOffState := hin
  rcases turningOff_left hin' hout' with hx | hset
  · exact .inl hx
  · rcases hflag hset with h | h | ⟨-, hd⟩
    · rw [hin'] at h
      exact AdapterHsmState.noConfusion h
    · rw [hin'] at h
      exact AdapterHsmState.noConfusion h
    · exact .inr hd

/-! ## The interrupted safe disable -/

def orderlyShutdown : List AdapterEventIn :=
  [.turnOnBle, .bleEnabled, .bleProfileEnabled, .sysTurnOn, .bredrEnabled,
    .bredrProfileEnabled, .sysTurnOffSafe, .bredrAclAllDisconnected,
    .bredrProfileDisabled, .bredrDisabled, .bleAclAllDisconnected,
    .bleProfileDisabled, .bleDisabled].map (·, linksUpEnv)

/-- The same life, except that a first safe disable in BLE_ON is interrupted
by SYS_TURN_ON, and that the LE links go down before the BR/EDR controller
has been disabled. -/
def interruptedShutdown : List AdapterEventIn :=
  [.turnOnBle, .bleEnabled, .bleProfileEnabled, .sysTurnOffSafe, .sysTurnOn,
    .bredrEnabled, .bredrProfileEnabled, .sysTurnOffSafe,
    .bredrAclAllDisconnected, .bleAclAllDisconnected,
    .bleProfileDisabled, .bleDisabled].map (·, linksUpEnv)

theorem orderlyShutdown_ordered :
    Guarded (adapterEventStep dualModeConfig) Uninterrupted
        (adapterInit dualModeConfig) orderlyShutdown
      ∧ stateAfter dualModeConfig (orderlyShutdown.take 10) = .turningOffState
      ∧ stateAfter dualModeConfig (orderlyShutdown.take 11) = .bleTurningOffState
      ∧ ShutdownOrdered dualModeConfig orderlyShutdown :=
  ⟨by decide, by decide, by decide,
    shutdown_ordered_of_uninterrupted dualModeConfig rfl orderlyShutdown (by decide)⟩

/-- The interrupted life leaves TURNING_OFF on the LE links alone and ends in
OFF without `bt_sal_disable` ever having been called. -/
theorem interrupted_safe_disable_skips_bredr :
    ¬ShutdownOrdered dualModeConfig interruptedShutdown
      ∧ stateAfter dualModeConfig interruptedShutdown = .offState
      ∧ .salDisable ∉ (afterEvents dualModeConfig interruptedShutdown).trace := by
  refine ⟨?_, by decide, by decide⟩
  intro h
  rcases h (interruptedShutdown.take 9) (.bleAclAllDisconnected, linksUpEnv)
    (interruptedShutdown.drop 10) rfl (by decide) (by decide) with hx | hstay
  · exact AdapterEvent.noConfusion hx
  · -- no event of the run is a BREDR_DISABLED
    obtain ⟨before, env, stay, heq, -⟩ := hstay
    have hmem : (AdapterEvent.bredrDisabled, env) ∈ interruptedShutdown.take 9 :=
      heq ▸ mem_append_right _ (mem_cons_self ..)
    have hnone : ∀ x ∈ interruptedShutdown.take 9, x.1 ≠ .bredrDisabled := by
      decide
    exact hnone _ hmem rfl

end BtFramework
