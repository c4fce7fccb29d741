import BtFramework.Runs
import BtFramework.AdapterControl

/-!
# The published adapter state

The adapter keeps its state twice: the machine's current state, and the service's
`adapter_state`, which only `adapter_notify_state_change` writes. Two enter actions call it only
after the stack accepted the enable request.
-/

namespace BtFramework

open AdapterControl AdapterHsmState Runs

/-! ## Agreement, and the calls it depends on -/

/-- The published state is that of the machine. -/
def PublishedAgrees (a : AdapterService) : Prop :=
  adapterGetState a = a.stm.sm.current.stateValue
deriving Decidable

def StartsLe (cfg : AdapterConfig) (s : AdapterHsmState) (e : AdapterEvent) :
    Prop :=
  s = .offState ∧ (e = .turnOnBle ∨ e = .sysTurnOn ∧ cfg.bleSupport = true)

def StartsBredr (cfg : AdapterConfig) (s : AdapterHsmState) (e : AdapterEvent) :
    Prop :=
  e = .sysTurnOn ∧ (s = .bleOnState ∨ s = .offState ∧ cfg.bleSupport = false)

def EnableSucceeds (cfg : AdapterConfig) (env : AdapterEnv)
    (s : AdapterHsmState) (e : AdapterEvent) : Prop :=
  (StartsLe cfg s e → cfg.bleSupport = true ∧ env.leEnable = true)
    ∧ (StartsBredr cfg s e → env.enable = true)

/-- An enable call that the input leads to is accepted by the stack. -/
def InputEnableSucceeds (cfg : AdapterConfig) (a : AdapterService) :
    AdapterInput → Prop
  | .dispatch env => ∀ e ∈ a.msgQueue.head?, EnableSucceeds cfg env a.stm.sm.current e
  | _ => True

variable {cfg : AdapterConfig} {env : AdapterEnv} {a : AdapterService}

/-! ## The table entries that start a transport -/

variable {c : AdapterControl} {e : AdapterEvent}

theorem target_bleTurningOn_iff :
    c.target cfg e = some .bleTurningOnState ↔ StartsLe cfg c.state e := by
  unfold target StartsLe
  split <;> grind

theorem target_turningOn_iff :
    c.target cfg e = some .turningOnState ↔ StartsBredr cfg c.state e := by
  unfold target StartsBredr
  split <;> grind

/-! ## A build without LE stays on the BR/EDR states -/

def BredrOnly (c : AdapterControl) : Prop :=
  c.state ≠ .bleTurningOnState ∧ c.state ≠ .bleOnState
    ∧ c.state ≠ .bleTurningOffState ∧ c.bleTurningOffSafe = false

theorem bredrOnly_step (hle : cfg.bleSupport = false) (hok : ¬StartsLe cfg c.state e)
    (h : BredrOnly c) : BredrOnly (c.step cfg e) := by
  rw [← target_bleTurningOn_iff] at hok
  unfold BredrOnly step at *
  unfold target moveTo remember at *
  grind

theorem target_ne_bleTurningOff (hle : cfg.bleSupport = false) (h : BredrOnly c) :
    c.target cfg e ≠ some .bleTurningOffState := by
  unfold BredrOnly at h
  unfold target
  split <;> grind

/-! ## One event -/

theorem publishedOnEnter_eq_iff {s : AdapterHsmState}
    (hle : cfg.bleSupport = false → BredrOnly c) (ht : c.target cfg e = some s) :
    publishedOnEnter cfg env c.state.stateValue s = s.stateValue
      ↔ EnableSucceeds cfg env c.state e := by
  have hother : s ≠ .bleTurningOnState → s ≠ .turningOnState →
      EnableSucceeds cfg env c.state e := by
    intro h1 h2
    rw [EnableSucceeds, ← target_bleTurningOn_iff, ← target_turningOn_iff, ht]
    exact ⟨fun h => absurd (Option.some.inj h) h1,
      fun h => absurd (Option.some.inj h) h2⟩
  cases s
  case bleTurningOnState =>
    have hstart := target_bleTurningOn_iff.mp ht
    have hnot : ¬StartsBredr cfg c.state e := by
      rw [← target_turningOn_iff, ht]
      exact fun h => noConfusion (Option.some.inj h)
    rw [EnableSucceeds, forall_prop_of_true hstart, forall_prop_of_false hnot]
    simp [publishedOnEnter, hstart.1, stateValue]
  case turningOnState =>
    have hstart := target_turningOn_iff.mp ht
    have hnot : ¬StartsLe cfg c.state e := by
      rw [← target_bleTurningOn_iff, ht]
      exact fun h => noConfusion (Option.some.inj h)
    rw [EnableSucceeds, forall_prop_of_false hnot, forall_prop_of_true hstart]
    rcases hstart.2 with hs | ⟨hs, -⟩ <;>
      simp [publishedOnEnter, hs, stateValue]
  case bleTurningOffState =>
    refine iff_of_true ?_ (hother (by decide) (by decide))
    have hsupport : cfg.bleSupport = true := by
      by_contra hno
      have hno := Bool.eq_false_iff.mpr hno
      exact target_ne_bleTurningOff hno (hle hno) ht
    rw [publishedOnEnter, if_pos hsupport]
    rfl
  all_goals exact iff_of_true rfl (hother (by decide) (by decide))

theorem publishedAgrees_dispatch_iff (hle : cfg.bleSupport = false → BredrOnly a.control)
    (h : PublishedAgrees a) :
    PublishedAgrees (dispatch cfg env a e) ↔ EnableSucceeds cfg env a.stm.sm.current e := by
  have hstate : a.stm.sm.current = a.control.state := rfl
  have hagrees : a.adapterState = a.control.state.stateValue := h
  have hcur : (dispatch cfg env a e).stm.sm.current = (a.control.step cfg e).state :=
    congrArg state (control_dispatch cfg env a e)
  rw [PublishedAgrees, adapterGetState, hcur, step, hstate]
  rcases dispatch_cases cfg env a e with
    ⟨s, b, ht, hdisp, -, hpub⟩ | ⟨ht, -, hpub⟩
  · rw [ht, hdisp, (control_transitionTo cfg env b s).2, hpub, hagrees]
    simpa using publishedOnEnter_eq_iff hle ht
  · rw [ht, hpub, hagrees]
    simp only [remember_state, true_iff]
    rw [EnableSucceeds, ← target_bleTurningOn_iff, ← target_turningOn_iff, ht]
    constructor
    · intro h
      cases h
    · intro h
      cases h

/-! ## Whole runs -/

theorem adapterStep_cases (cfg : AdapterConfig) (a : AdapterService)
    (i : AdapterInput) :
    ((adapterStep cfg a i).control = a.control
        ∧ (adapterStep cfg a i).adapterState = a.adapterState
        ∧ InputEnableSucceeds cfg a i)
      ∨ ∃ env e rest, i = .dispatch env ∧ a.msgQueue = e :: rest
        ∧ adapterStep cfg a i = dispatch cfg env { a with msgQueue := rest } e := by
  cases i with
  | enable opt =>
    refine .inl ?_
    simp only [adapterStep, adapterEnable]
    split
    · exact ⟨rfl, rfl, trivial⟩
    · cases opt <;> exact ⟨rfl, rfl, trivial⟩
  | disable opt =>
    refine .inl ?_
    simp only [adapterStep, adapterDisable]
    split
    · exact ⟨rfl, rfl, trivial⟩
    · cases opt <;> exact ⟨rfl, rfl, trivial⟩
  | post e => exact .inl ⟨rfl, rfl, trivial⟩
  | timer t =>
    refine .inl ?_
    simp only [adapterStep]
    split <;> exact ⟨rfl, rfl, trivial⟩
  | dispatch env =>
    cases hq : a.msgQueue with
    | nil =>
      refine .inl ⟨?_, ?_, ?_⟩
      · simp only [adapterStep, hq]
      · simp only [adapterStep, hq]
      · intro e he
        rw [hq] at he
        cases he
    | cons e rest =>
      refine .inr ⟨env, e, rest, rfl, rfl, ?_⟩
      simp only [adapterStep, hq]

def PublishInv (cfg : AdapterConfig) (a : AdapterService) : Prop :=
  PublishedAgrees a ∧ (cfg.bleSupport = false → BredrOnly a.control)

theorem publishInv_step {i : AdapterInput} (h : PublishInv cfg a)
    (hok : InputEnableSucceeds cfg a i) : PublishInv cfg (adapterStep cfg a i) := by
  rcases adapterStep_cases cfg a i with
    ⟨hctl, hpub, -⟩ | ⟨env, e, rest, rfl, hq, hstep⟩
  · refine ⟨?_, hctl ▸ h.2⟩
    have hcur := congrArg state hctl
    exact hpub.trans (h.1.trans (congrArg _ hcur.symm))
  · have hok : EnableSucceeds cfg env a.stm.sm.current e :=
      hok e (by rw [hq]; rfl)
    have hagrees := (publishedAgrees_dispatch_iff (a := { a with msgQueue := rest })
      h.2 h.1).mpr hok
    rw [hstep]
    refine ⟨hagrees, fun hle => ?_⟩
    rw [control_dispatch]
    refine bredrOnly_step hle (fun hstart => ?_) (h.2 hle)
    exact Bool.false_ne_true (hle.symm.trans (hok.1 hstart).1)

theorem not_publishedAgrees_step {i : AdapterInput} (h : PublishInv cfg a)
    (hno : ¬InputEnableSucceeds cfg a i) : ¬PublishedAgrees (adapterStep cfg a i) := by
  rcases adapterStep_cases cfg a i with
    ⟨-, -, hok⟩ | ⟨env, e, rest, rfl, hq, hstep⟩
  · exact absurd hok hno
  · rw [hstep]
    intro hagrees
    have hok := (publishedAgrees_dispatch_iff (a := { a with msgQueue := rest }) h.2 h.1).mp hagrees
    refine hno fun e' he' => ?_
    rw [hq] at he'
    exact Option.some.inj he' ▸ hok

/-- **The published state agrees with the machine** after every input of a run
exactly when every attempt of the run to bring a transport up succeeds. -/
theorem published_agrees_iff_enables_succeed (cfg : AdapterConfig)
    (inputs : List AdapterInput) :
    (∀ a ∈ visited (adapterStep cfg) (adapterInit cfg) inputs, PublishedAgrees a)
      ↔ Guarded (adapterStep cfg) (InputEnableSucceeds cfg) (adapterInit cfg) inputs :=
  forall_visited_iff_guarded (fun _ h => h.1)
    (fun _ _ => publishInv_step) (fun _ _ => not_publishedAgrees_step)
    ⟨rfl, fun _ => by rw [BredrOnly, control_adapterInit]; decide⟩

def enableFailsEnv : AdapterEnv :=
  { linksUpEnv with leEnable := false, enable := false }

/-- After one refused LE enable the machine is in BLE_TURNING_ON while the API
reports OFF, and answers a disable request with "done". -/
theorem failed_enable_disagrees :
    let a := after (adapterStep dualModeConfig) (adapterInit dualModeConfig)
      [.enable .appSetLeOnly, .dispatch enableFailsEnv]
    a.stm.sm.current = .bleTurningOnState ∧ adapterGetState a = .off
      ∧ ¬PublishedAgrees a ∧ adapterDisable a .appSetLeOnly = (.done, a) := by
  decide

end BtFramework
