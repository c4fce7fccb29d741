import BtFramework.RasSends
import BtFramework.Runs

/-!
# What the client has subscribed to

The server keeps a notify and an indicate bit for each characteristic, and for real-time data
the written value as well, cut to a byte. A write sets one bit and does not clear the other.
-/

namespace BtFramework

open RasCcc RasCharNotifyState Runs

/-! ## One write -/

def RasCharNotifyState.get (bits : RasCharNotifyState) : RasCccCfgChangeEvt → RasCcc
  | .rttData => bits.rttData
  | .onDemandData => bits.onDemandData
  | .ctrPt => bits.controlPoint
  | .dataReady => bits.dataReady
  | .overWrite => bits.overWrite

def RasCharNotifyState.set (bits : RasCharNotifyState) (c : RasCccCfgChangeEvt)
    (ccc : RasCcc) : RasCharNotifyState :=
  match c with
  | .rttData => { bits with rttData := ccc }
  | .onDemandData => { bits with onDemandData := ccc }
  | .ctrPt => { bits with controlPoint := ccc }
  | .dataReady => { bits with dataReady := ccc }
  | .overWrite => { bits with overWrite := ccc }

def RasCharNotifyState.blocks (bits : RasCharNotifyState) : RasCccCfgChangeEvt → Bool
  | .rttData => bits.onDemandData.enabled
  | .onDemandData => bits.rttData.enabled
  | _ => false

def RasCharNotifyState.accepts (bits : RasCharNotifyState) :
    RasEvent → Option (RasCccCfgChangeEvt × Nat)
  | .cccWrite c [lo, hi] =>
    if lo.toNat + 256 * hi.toNat ≠ 0 ∧ bits.blocks c = true then none
    else some (c, lo.toNat + 256 * hi.toNat)
  | _ => none

variable {s : RasSrv}

theorem csRasGattsCccCfgCb_eq (c : RasCccCfgChangeEvt) (lo hi : UInt8) :
    csRasGattsCccCfgCb s c [lo, hi]
      = if lo.toNat + 256 * hi.toNat ≠ 0 ∧ s.charNotifyState.blocks c = true then s
        else { s with
          charNotifyState := s.charNotifyState.set c
            ((s.charNotifyState.get c).cfgChanged (lo.toNat + 256 * hi.toNat))
          rtDtCccCfg := if c = .rttData then (lo.toNat + 256 * hi.toNat) % 256
            else s.rtDtCccCfg } := by
  cases c with
  | rttData | onDemandData => rfl
  | ctrPt | dataReady | overWrite => exact (if_neg fun h => Bool.false_ne_true h.2).symm

theorem rasHandle_of_not_accepts {e : RasEvent} (h : s.charNotifyState.accepts e = none) :
    (rasHandle s e).charNotifyState = s.charNotifyState
      ∧ (rasHandle s e).rtDtCccCfg = s.rtDtCccCfg := by
  by_cases hccc : ∃ c value, e = .cccWrite c value
  · obtain ⟨c, value, rfl⟩ := hccc
    unfold accepts at h
    rw [rasHandle]
    split at h
    next he =>
      cases he
      split at h
      next hblocked =>
        rw [csRasGattsCccCfgCb_eq, if_pos hblocked]
        exact ⟨rfl, rfl⟩
      · cases h
    next hlen =>
      unfold csRasGattsCccCfgCb
      split
      · exact absurd rfl (hlen c _ _)
      · exact ⟨rfl, rfl⟩
  · exact (headSends_rasHandle fun c value he => hccc ⟨c, value, he⟩).bits

theorem rasHandle_of_accepts {e : RasEvent} {c : RasCccCfgChangeEvt} {v : Nat}
    (h : s.charNotifyState.accepts e = some (c, v)) :
    (rasHandle s e).charNotifyState
        = s.charNotifyState.set c ((s.charNotifyState.get c).cfgChanged v)
      ∧ ((rasHandle s e).rtDtCccCfg = if c = .rttData then v % 256 else s.rtDtCccCfg)
      ∧ (v ≠ 0 → s.charNotifyState.blocks c = false) := by
  unfold accepts at h
  split at h
  · split at h
    · cases h
    next hfree =>
      cases h
      rw [rasHandle, csRasGattsCccCfgCb_eq, if_neg hfree]
      exact ⟨rfl, rfl, fun hv => Bool.eq_false_iff.mpr fun hb => hfree ⟨hv, hb⟩⟩
  · cases h

/-! ## What the bits should be -/

/-- What a peer selects by writing `value`. The handlers take every value but 0 and 1 for
indications, reserved ones too, so these count as indications here. -/
def RasCcc.selectedBy (value : Nat) : RasCcc where
  notify := value = csRasGattNotify
  indicate := value ≠ 0 ∧ value ≠ csRasGattNotify

def RasCcc.mode (ccc : RasCcc) : Nat :=
  if ccc.notify then csRasGattNotify else if ccc.indicate then csRasGattIndication else 0

theorem RasCcc.cfgChanged_eq_selectedBy_iff (ccc : RasCcc) (v : Nat) :
    ccc.cfgChanged v = selectedBy v ↔ v = 0 ∨ (v = csRasGattNotify ∧ ccc.indicate = false)
      ∨ (v ≠ 0 ∧ v ≠ csRasGattNotify ∧ ccc.notify = false) := by
  unfold cfgChanged selectedBy
  by_cases hzero : v = 0
  · subst hzero
    exact ⟨fun _ => .inl rfl, fun _ => rfl⟩
  · by_cases hone : v = csRasGattNotify
    · subst hone
      simp [csRasGattNotify]
    · simp [hzero, hone]

theorem RasCcc.mod_eq_mode_selectedBy_iff (v : Nat) : v % 256 = (selectedBy v).mode
    ↔ v = 0 ∨ v = csRasGattNotify ∨ v % 256 = csRasGattIndication := by
  by_cases hzero : v = 0
  · subst hzero
    exact ⟨fun _ => .inl rfl, fun _ => rfl⟩
  · by_cases hone : v = csRasGattNotify
    · subst hone
      exact ⟨fun _ => .inr (.inl rfl), fun _ => rfl⟩
    · have hmode : (selectedBy v).mode = csRasGattIndication := by
        simp [mode, selectedBy, hzero, hone]
      rw [hmode]
      simp only [hzero, hone, false_or]

theorem RasCcc.enabled_cfgChanged {ccc : RasCcc} {v : Nat}
    (h : (ccc.cfgChanged v).enabled = true) : v ≠ 0 := by
  rintro rfl
  cases h

/-- The server, and the last value accepted for each characteristic. -/
structure Subscriptions where
  srv : RasSrv
  last : RasCccCfgChangeEvt → Nat

namespace Subscriptions

def init : Subscriptions := ⟨rasSrvEnabled, fun _ => 0⟩

def step (y : Subscriptions) (i : RasInput) : Subscriptions where
  srv := rasStep y.srv i
  last :=
    match y.srv.charNotifyState.accepts i.event with
    | none => y.last
    | some (c, v) => Function.update y.last c v

/-- Not both real-time and on-demand mode. -/
def Exclusive (y : Subscriptions) : Prop :=
  ¬ (y.srv.charNotifyState.rttData.enabled = true
    ∧ y.srv.charNotifyState.onDemandData.enabled = true)

/-- The modes exclude each other, and the bits are those of the last values. -/
structure Agrees (y : Subscriptions) : Prop where
  exclusive : y.Exclusive
  single : ∀ c, ¬ ((y.srv.charNotifyState.get c).notify = true
    ∧ (y.srv.charNotifyState.get c).indicate = true)
  selected : ∀ c, y.srv.charNotifyState.get c = .selectedBy (y.last c)
  cfg : y.srv.rtDtCccCfg = y.srv.charNotifyState.rttData.mode

/-- No accepted write switches over directly, and none for real-time data has a low byte that its
bit does not stand for. -/
def WritesCleanly (y : Subscriptions) (i : RasInput) : Prop :=
  ∀ w ∈ y.srv.charNotifyState.accepts i.event,
    w.2 = 0
      ∨ (w.2 = csRasGattNotify ∧ (y.srv.charNotifyState.get w.1).indicate = false)
      ∨ (w.2 ≠ 0 ∧ w.2 ≠ csRasGattNotify ∧ (y.srv.charNotifyState.get w.1).notify = false
        ∧ (w.1 = .rttData → w.2 % 256 = csRasGattIndication))
deriving Decidable

variable {y : Subscriptions} {i : RasInput} {c : RasCccCfgChangeEvt} {v : Nat}

theorem Agrees.of_selected (hexcl : y.Exclusive)
    (hsel : ∀ c, y.srv.charNotifyState.get c = .selectedBy (y.last c))
    (hcfg : y.srv.rtDtCccCfg = y.srv.charNotifyState.rttData.mode) : y.Agrees := by
  refine ⟨hexcl, fun c hboth => ?_, hsel, hcfg⟩
  rw [hsel c] at hboth
  exact (of_decide_eq_true hboth.2).2 (of_decide_eq_true hboth.1)

theorem agrees_init : init.Agrees :=
  .of_selected (fun h => Bool.false_ne_true h.1) (fun c => by cases c <;> rfl) rfl

/-! ## Runs -/

theorem step_of_not_accepts (h : y.srv.charNotifyState.accepts i.event = none) :
    (y.step i).srv.charNotifyState = y.srv.charNotifyState
      ∧ (y.step i).srv.rtDtCccCfg = y.srv.rtDtCccCfg ∧ (y.step i).last = y.last := by
  obtain ⟨hbits, hcfg⟩ := rasHandle_of_not_accepts
    (s := { y.srv with allocResults := i.allocs, sendResults := i.sends }) h
  refine ⟨hbits, hcfg, ?_⟩
  rw [step, h]

theorem step_of_accepts (h : y.srv.charNotifyState.accepts i.event = some (c, v)) :
    (∀ c', (y.step i).srv.charNotifyState.get c'
        = if c' = c then (y.srv.charNotifyState.get c).cfgChanged v
          else y.srv.charNotifyState.get c')
      ∧ ((y.step i).srv.rtDtCccCfg = if c = .rttData then v % 256 else y.srv.rtDtCccCfg)
      ∧ (∀ c', (y.step i).last c' = if c' = c then v else y.last c')
      ∧ (v ≠ 0 → y.srv.charNotifyState.blocks c = false) := by
  obtain ⟨hbits, hcfg, hfree⟩ := rasHandle_of_accepts
    (s := { y.srv with allocResults := i.allocs, sendResults := i.sends }) h
  refine ⟨fun c' => ?_, hcfg, fun c' => ?_, hfree⟩
  · refine (congrArg (·.get c') hbits).trans ?_
    cases c <;> cases c' <;> rfl
  · rw [step, h]
    exact Function.update_apply ..

theorem exclusive_step (h : y.Exclusive) : (y.step i).Exclusive := by
  cases ha : y.srv.charNotifyState.accepts i.event with
  | none =>
    unfold Exclusive
    rw [(step_of_not_accepts ha).1]
    exact h
  | some w =>
    obtain ⟨c, v⟩ := w
    obtain ⟨hget, -, -, hfree⟩ := step_of_accepts ha
    have hrtt : (y.step i).srv.charNotifyState.rttData = _ := hget .rttData
    have hod : (y.step i).srv.charNotifyState.onDemandData = _ := hget .onDemandData
    unfold Exclusive
    rw [hrtt, hod]
    rintro ⟨hr, ho⟩
    cases c with
    | rttData =>
      have hoff := hfree (enabled_cfgChanged hr)
      exact Bool.false_ne_true (hoff.symm.trans ho)
    | onDemandData =>
      have hoff := hfree (enabled_cfgChanged ho)
      exact Bool.false_ne_true (hoff.symm.trans hr)
    | ctrPt | dataReady | overWrite => exact h ⟨hr, ho⟩

theorem agrees_write_iff (h : y.Agrees)
    (ha : y.srv.charNotifyState.accepts i.event = some (c, v)) :
    (y.step i).Agrees ↔ (y.srv.charNotifyState.get c).cfgChanged v = .selectedBy v
      ∧ (c = .rttData → v % 256 = (RasCcc.selectedBy v).mode) := by
  obtain ⟨hget, hcfg, hlast, -⟩ := step_of_accepts ha
  have hself := (hget c).trans (if_pos rfl)
  have hrtt : (y.step i).srv.charNotifyState.rttData = _ := hget .rttData
  constructor
  · intro hnext
    have hsel := hnext.selected c
    rw [hlast, if_pos rfl] at hsel
    refine ⟨hself.symm.trans hsel, ?_⟩
    rintro rfl
    exact hcfg.symm.trans (hnext.cfg.trans (congrArg mode hsel))
  · rintro ⟨hsel, hkept⟩
    refine .of_selected (exclusive_step h.exclusive) (fun c' => ?_) ?_
    · rw [hget, hlast]
      split
      · exact hsel
      · exact h.selected c'
    · rw [hcfg, hrtt]
      by_cases hc : c = .rttData
      · rw [if_pos hc, if_pos hc.symm, hsel]
        exact hkept hc
      · rw [if_neg hc, if_neg (Ne.symm hc)]
        exact h.cfg

theorem agrees_step_iff (h : y.Agrees) : (y.step i).Agrees ↔ y.WritesCleanly i := by
  unfold WritesCleanly
  cases ha : y.srv.charNotifyState.accepts i.event with
  | none =>
    obtain ⟨hbits, hcfg, hlast⟩ := step_of_not_accepts ha
    refine ⟨fun _ => nofun, fun _ => .of_selected (exclusive_step h.exclusive) ?_ ?_⟩
    · rw [hbits, hlast]
      exact h.selected
    · rw [hbits, hcfg]
      exact h.cfg
  | some w =>
    rw [agrees_write_iff h (c := w.1) (v := w.2) ha, cfgChanged_eq_selectedBy_iff,
      mod_eq_mode_selectedBy_iff]
    grind

/-- The two modes exclude each other in every run. The bits agree with what was written last, and
with the value kept for real-time data, exactly if every accepted write is clean. -/
theorem subscriptions_agree_iff (es : List RasInput) :
    (∀ y ∈ visited step init es, y.Exclusive)
      ∧ ((∀ y ∈ visited step init es, y.Agrees) ↔ Guarded step WritesCleanly init es) := by
  constructor
  · exact guarded_true.invariant (fun _ _ h _ => exclusive_step h) agrees_init.exclusive
  · exact forall_visited_iff_guarded (fun _ h => h) (fun _ _ h hok => (agrees_step_iff h).mpr hok)
      (fun _ _ h hok hnext => hok ((agrees_step_iff h).mp hnext)) agrees_init

def orderlyWrites : List RasInput :=
  [⟨.connect, [], []⟩, ⟨.cccWrite .rttData [1, 0], [], []⟩,
    ⟨.cccWrite .onDemandData [1, 0], [], []⟩, ⟨.cccWrite .rttData [0, 0], [], []⟩,
    ⟨.cccWrite .rttData [2, 0], [], []⟩, ⟨.disconnect, [], []⟩, ⟨.connect, [], []⟩,
    ⟨.cccWrite .rttData [0, 0], [], []⟩, ⟨.cccWrite .onDemandData [2, 0], [], []⟩,
    ⟨.cccWrite .ctrPt [2, 0], [], []⟩]

theorem orderlyWrites_agree :
    Guarded step WritesCleanly init orderlyWrites
      ∧ ∀ y ∈ visited step init orderlyWrites, y.Agrees :=
  ⟨by decide +kernel, (subscriptions_agree_iff orderlyWrites).2.mpr (by decide +kernel)⟩

def switchedWrites : List RasInput :=
  [⟨.connect, [], []⟩, ⟨.cccWrite .rttData [1, 0], [], []⟩, ⟨.cccWrite .rttData [2, 0], [], []⟩]

def oddWrite : List RasInput :=
  [⟨.connect, [], []⟩, ⟨.cccWrite .rttData [3, 0], [], []⟩]

/-- After the switch both bits are set; after the odd value the bits say
indicate and the value kept is three. -/
theorem switch_keeps_both_bits :
    (after step init switchedWrites).srv.charNotifyState.rttData = ⟨true, true⟩
      ∧ (after step init switchedWrites).last .rttData = 2
      ∧ ¬ (after step init switchedWrites).Agrees
      ∧ (after step init oddWrite).srv.charNotifyState.rttData = ⟨false, true⟩
      ∧ (after step init oddWrite).srv.rtDtCccCfg = 3
      ∧ ¬ (after step init oddWrite).Agrees := by
  refine ⟨by decide +kernel, by decide +kernel, fun h => ?_, by decide +kernel,
    by decide +kernel, fun h => ?_⟩
  · exact h.single .rttData (by decide +kernel)
  · exact absurd h.cfg (by decide +kernel)

end Subscriptions

end BtFramework
