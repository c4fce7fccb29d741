import Mathlib.Algebra.GroupWithZero.Nat
import BtFramework.Runs
import BtFramework.L2capChannel

/-!
# Receive accounting of an L2CAP channel

A channel may hold at most `l2capMaxRxBufSize` bytes. `rx_buf_size` is the room left, the
credits are a promise that so many segments of `le_mps` bytes will fit, and the other bytes sit
in the SDU being reassembled or in those waiting for the application. Every handler keeps this
(`RxAccounting`).
-/

namespace BtFramework

open Nat Runs

/-! ## The accounting -/

def heldBytes (ch : L2capChannel) : Nat :=
  (ch.rxSdu.elim 0 (·.lenReceived)) + (ch.rxList.map (·.lenTotal)).sum

/-- The peer's credits fit into the free buffer, which is within its bound and does not wrap when
a segment is taken in; free and held bytes add up to the initial budget while the channel is not
aborted. -/
structure RxAccounting (budget : Nat) (ch : L2capChannel) : Prop where
  credits_fit : ch.incoming.credits * ch.incoming.leMps ≤ ch.rxBufSize
  bounded : ch.rxBufSize ≤ l2capMaxRxBufSize
  no_wrap : ∀ packet, l2capAccepts ch packet → packet.lenReceived ≤ ch.rxBufSize
  balanced : ch.pipe = true → ch.rxBufSize + heldBytes ch = budget

/-- What can break the accounting is the start: `l2cap_config_param` raises too few initial credits
without looking at the maximum, and `handle_channel_conneted` clamps the buffer but not the credits.
-/
def CreditsFit (option : L2capConfigOption) : Prop :=
  match option.transport with
  | .ble =>
    (option.mtu + option.leMps - 1) / option.leMps ≤ option.initCredits
      ∨ (option.mtu + option.leMps - 1) / option.leMps * option.leMps ≤ l2capMaxRxBufSize
  | .bredr => option.initCredits * option.leMps ≤ l2capMaxRxBufSize

variable {env : L2capEnv} {ch : L2capChannel} {packet : L2capPkt} {budget : Nat}

theorem l2capAccepts_iff :
    l2capAccepts ch packet = true ↔ packet.lenReceived ≤ ch.incoming.leMps
      ∧ packet.lenTotal ≤ ch.incoming.mtu ∧ ch.incoming.credits ≠ 0
      ∧ ch.proxyConnected = true ∧ ch.pipe = true := by
  simp [l2capAccepts, and_assoc]

theorem lenReceived_le_of_accepts
    (h : ch.incoming.credits * ch.incoming.leMps ≤ ch.rxBufSize)
    (hacc : l2capAccepts ch packet = true) : packet.lenReceived ≤ ch.rxBufSize := by
  obtain ⟨hmps, -, hcredits, -, -⟩ := l2capAccepts_iff.mp hacc
  calc packet.lenReceived ≤ 1 * ch.incoming.leMps := by omega
    _ ≤ ch.incoming.credits * ch.incoming.leMps :=
        Nat.mul_le_mul_right _ (one_le_iff_ne_zero.mpr hcredits)
    _ ≤ ch.rxBufSize := h

/-! ## What the pieces of the handlers change -/

@[simp] theorem l2capAbortChannel_incoming : (l2capAbortChannel ch).incoming = ch.incoming := by
  simp only [l2capAbortChannel]
  split <;> split <;> rfl

@[simp] theorem l2capAbortChannel_rxBufSize : (l2capAbortChannel ch).rxBufSize = ch.rxBufSize := by
  simp only [l2capAbortChannel]
  split <;> split <;> rfl

@[simp] theorem l2capAbortChannel_pipe : (l2capAbortChannel ch).pipe = false := by
  unfold l2capAbortChannel
  by_cases h : ch.pipe = true
  · rw [if_pos h]
    dsimp only
    split <;> rfl
  · rw [if_neg h]
    dsimp only
    split <;> exact Bool.eq_false_iff.mpr h

theorem RxAccounting.abort (h : RxAccounting budget ch) :
    RxAccounting budget (l2capAbortChannel ch) where
  credits_fit := by simpa using h.credits_fit
  bounded := by simpa using h.bounded
  no_wrap := by
    intro packet hacc
    obtain ⟨-, -, -, -, hpipe⟩ := l2capAccepts_iff.mp hacc
    simp at hpipe
  balanced := by
    intro hpipe
    simp at hpipe

theorem l2capRefillCredits_spec (env : L2capEnv) (ch : L2capChannel)
    (h : ch.incoming.credits * ch.incoming.leMps ≤ ch.rxBufSize) :
    let ch' := l2capRefillCredits env ch
    ch'.incoming.credits * ch'.incoming.leMps ≤ ch'.rxBufSize
      ∧ ch'.rxBufSize = ch.rxBufSize ∧ ch'.pipe = ch.pipe
      ∧ ch'.rxSdu = ch.rxSdu ∧ ch'.rxList = ch.rxList := by
  simp only [l2capRefillCredits, l2capAddIncomingCredits]
  split
  · split
    · exact ⟨h, rfl, rfl, rfl, rfl⟩
    · split
      · exact ⟨h, rfl, rfl, rfl, rfl⟩
      · exact ⟨div_mul_le_self _ _, rfl, rfl, rfl, rfl⟩
  · exact ⟨h, rfl, rfl, rfl, rfl⟩

theorem l2capReassemble_spec (env : L2capEnv) (ch : L2capChannel)
    (packet : L2capPkt) :
    let ch' := l2capReassemble env ch packet
    ch'.incoming = ch.incoming ∧ ch'.rxBufSize = ch.rxBufSize
      ∧ (ch'.pipe = true → heldBytes ch' = heldBytes ch + packet.lenReceived) := by
  simp only [l2capReassemble, l2capSendSduToApp, heldBytes]
  cases hsdu : ch.rxSdu with
  | none =>
    simp only
    split
    next hfull =>
      split
      · simp
      · simp [hfull]
    · simp
      omega
  | some sdu =>
    simp only
    split
    · simp
    · split
      next hfull =>
        split
        · simp
        · simp [← hfull]
          omega
      · simp
        omega

/-! ## Every event keeps the accounting -/

theorem RxAccounting.of_eq {ch' : L2capChannel}
    (hfit : ch'.incoming.credits * ch'.incoming.leMps ≤ ch'.rxBufSize)
    (hbound : ch'.rxBufSize ≤ l2capMaxRxBufSize)
    (hbal : ch'.pipe = true → ch'.rxBufSize + heldBytes ch' = budget) :
    RxAccounting budget ch' :=
  ⟨hfit, hbound, fun _ => lenReceived_le_of_accepts hfit, hbal⟩

theorem l2capTakeIn_spec (env : L2capEnv) (h : RxAccounting budget ch)
    (hacc : l2capAccepts ch packet = true) :
    let ch' := l2capTakeIn env ch packet
    ch'.incoming.credits * ch'.incoming.leMps ≤ ch'.rxBufSize
      ∧ ch'.rxBufSize = ch.rxBufSize - packet.lenReceived
      ∧ ch'.pipe = ch.pipe ∧ heldBytes ch' = heldBytes ch := by
  have hle := h.no_wrap packet hacc
  have hbound := h.bounded
  obtain ⟨hmps, -, hcredits, -, -⟩ := l2capAccepts_iff.mp hacc
  have hrx : (ch.rxBufSize + 65536 - packet.lenReceived) % 65536
      = ch.rxBufSize - packet.lenReceived := by
    unfold l2capMaxRxBufSize at hbound
    omega
  have hfit : (ch.incoming.credits - 1) * ch.incoming.leMps
      ≤ ch.rxBufSize - packet.lenReceived := by
    have := h.credits_fit
    rw [Nat.sub_mul, Nat.one_mul]
    omega
  obtain ⟨h1, h2, h3, h4, h5⟩ := l2capRefillCredits_spec env { ch with
      incoming := { ch.incoming with credits := ch.incoming.credits - 1 }
      rxBufSize := (ch.rxBufSize + 65536 - packet.lenReceived) % 65536 }
    (by simpa only [hrx] using hfit)
  refine ⟨h1, h2.trans hrx, h3, ?_⟩
  simp only [heldBytes, l2capTakeIn, h4, h5]

theorem RxAccounting.handlePacketReceived (h : RxAccounting budget ch) :
    RxAccounting budget (handlePacketReceived env ch packet) := by
  unfold BtFramework.handlePacketReceived
  split
  · exact h.abort
  split
  · exact h.abort
  split
  · exact h.abort
  split
  · exact h
  next hmps hmtu hcredits hpath =>
    have hpath' : ch.proxyConnected = true ∧ ch.pipe = true := by
      simpa using hpath
    have hacc : l2capAccepts ch packet = true :=
      l2capAccepts_iff.mpr ⟨by omega, by omega, hcredits, hpath'⟩
    obtain ⟨hfit, hrx, hpipe, hheld⟩ := l2capTakeIn_spec env h hacc
    obtain ⟨hinc, hrx', hheld'⟩ := l2capReassemble_spec env (l2capTakeIn env ch packet) packet
    have hle := h.no_wrap packet hacc
    refine RxAccounting.of_eq ?_ ?_ ?_
    · rw [hinc, hrx']
      exact hfit
    · have := h.bounded
      omega
    · intro hp
      have := h.balanced hpath'.2
      have := hheld' hp
      omega

theorem RxAccounting.l2capSendSduToAppCb {statusOk : Bool}
    (h : RxAccounting budget ch) (hbudget : budget ≤ l2capMaxRxBufSize) :
    RxAccounting budget (l2capSendSduToAppCb env statusOk ch) := by
  unfold BtFramework.l2capSendSduToAppCb
  split
  · exact h
  split
  · exact h.abort
  split
  · exact h
  next hpipe _ _ sdu rest hlist =>
    -- the room the completed SDU gives back was part of the budget, so the
    -- clamp does nothing
    have hbal := h.balanced (by simpa using hpipe)
    have hheld : heldBytes ch
        = (ch.rxSdu.elim 0 (·.lenReceived)) + (sdu.lenTotal + (rest.map (·.lenTotal)).sum) := by
      rw [heldBytes, hlist, List.map_cons, List.sum_cons]
    have hrx : (ch.rxBufSize + sdu.lenTotal) % 65536 = ch.rxBufSize + sdu.lenTotal := by
      unfold l2capMaxRxBufSize at hbudget
      omega
    have hclamp : ¬l2capMaxRxBufSize < ch.rxBufSize + sdu.lenTotal := by omega
    simp only [hrx, if_neg hclamp]
    obtain ⟨h1, h2, h3, h4, h5⟩ := l2capRefillCredits_spec env
      { ch with rxList := rest, rxBufSize := ch.rxBufSize + sdu.lenTotal }
      (by have := h.credits_fit; dsimp only; omega)
    refine RxAccounting.of_eq h1 ?_ ?_
    · rw [h2]
      dsimp only
      omega
    · intro _
      simp only [heldBytes, h2, h4, h5]
      omega

/-- **One event.** Whatever is received, granted, refused or completed. -/
theorem RxAccounting.step (hbudget : budget ≤ l2capMaxRxBufSize)
    (h : RxAccounting budget ch) (e : L2capRxEvent) :
    RxAccounting budget (l2capRxStep ch e) := by
  cases e with
  | segment env seg =>
    unfold l2capRxStep
    dsimp only
    split
    · exact h
    · exact h.handlePacketReceived
  | writeDone env statusOk => exact h.l2capSendSduToAppCb hbudget

/-! ## The start of a channel -/

theorem rxAccounting_connectedChannel_iff {cid : Nat} {readStop readStart : Bool}
    {option : L2capConfigOption} :
    RxAccounting (connectedChannel cid readStop readStart option).rxBufSize
        (connectedChannel cid readStop readStart option)
      ↔ option.initCredits * option.leMps ≤ l2capMaxRxBufSize := by
  have hinc : (connectedChannel cid readStop readStart option).incoming
      = ⟨option.mtu, option.leMps, option.initCredits⟩ := by
    cases readStop <;> cases readStart <;>
      simp [connectedChannel, handleChannelConneted, preparedChannel]
  constructor
  · intro h
    have hfit := h.credits_fit
    rw [hinc] at hfit
    exact Nat.le_trans hfit h.bounded
  · intro hfit
    rw [← Nat.not_lt] at hfit
    refine .of_eq ?_ ?_ ?_ <;> cases readStop <;> cases readStart <;>
      simp [connectedChannel, handleChannelConneted, preparedChannel, heldBytes, hfit,
        Nat.not_lt.mp hfit]

theorem l2capConfigParam_fits_iff {option option' : L2capConfigOption}
    (h : l2capConfigParam option = some option') :
    option'.initCredits * option'.leMps ≤ l2capMaxRxBufSize ↔ CreditsFit option := by
  unfold l2capConfigParam at h
  unfold CreditsFit
  split at h
  · cases h
  cases htrans : option.transport with
  | bredr =>
    rw [htrans] at h
    cases h
    exact Iff.rfl
  | ble =>
    rw [htrans] at h
    have hmax := div_mul_le_self l2capMaxRxBufSize option.leMps
    dsimp only at h ⊢
    split at h
    · cases h
    split at h
    · cases h
    split at h
    next hlow =>
      cases h
      exact (or_iff_right (by omega)).symm
    next hlow =>
      refine iff_of_true ?_ (.inl (by omega))
      split at h
      · cases h
        exact hmax
      next hhigh =>
        cases h
        exact Nat.le_trans (Nat.mul_le_mul_right _ (by omega)) hmax

/-- **Receive accounting.** For an accepted option it holds in every state of every run, with the
initial free buffer as its budget, exactly when the option's initial credits fit. -/
theorem rx_accounting_iff_creditsFit (option option' : L2capConfigOption)
    (haccepted : l2capConfigParam option = some option')
    (cid : Nat) (readStop readStart : Bool) :
    (∀ es : List L2capRxEvent,
        ∀ ch ∈ visited l2capRxStep (connectedChannel cid readStop readStart option') es,
          RxAccounting (connectedChannel cid readStop readStart option').rxBufSize ch)
      ↔ CreditsFit option := by
  rw [← l2capConfigParam_fits_iff haccepted, ← rxAccounting_connectedChannel_iff]
  constructor
  · intro h
    exact h [] _ (List.mem_singleton.mpr rfl)
  · intro hstart es
    have hguard : Guarded l2capRxStep (fun _ _ => True)
        (connectedChannel cid readStop readStart option') es := guarded_true
    refine hguard.invariant (fun ch e h _ => ?_) hstart
    exact h.step hstart.bounded e

def oversizedOption : L2capConfigOption where
  transport := .ble
  mtu := 10240
  leMps := 6000
  initCredits := 1

def fittingOption : L2capConfigOption where
  transport := .ble
  mtu := 2048
  leMps := 1024
  initCredits := 1

theorem fittingOption_rx_accounting :
    l2capConfigParam fittingOption = some { fittingOption with initCredits := 2 }
      ∧ ∀ es : List L2capRxEvent,
        ∀ ch ∈ visited l2capRxStep
            (connectedChannel 0x40 true true { fittingOption with initCredits := 2 }) es,
          RxAccounting 2048 ch :=
  ⟨by decide,
    (rx_accounting_iff_creditsFit fittingOption { fittingOption with initCredits := 2 }
      (by decide) 0x40 true true).mpr (.inr (by decide))⟩

/-- The channel starts with credits for 12000 bytes and 10240 bytes of buffer, and two SDUs of
6000 bytes wrap the free buffer. -/
theorem oversized_credits_wrap :
    l2capConfigParam oversizedOption = some { oversizedOption with initCredits := 2 }
      ∧ (let ch := connectedChannel 0x40 true true { oversizedOption with initCredits := 2 }
        ¬RxAccounting ch.rxBufSize ch
          ∧ (after l2capRxStep ch
              (List.replicate 2 (.segment ⟨true, true, true⟩
                ⟨List.replicate 6000 0, 6000, 0⟩))).rxBufSize = 63776) := by
  refine ⟨by decide, ?_, by decide +kernel⟩
  intro h
  exact absurd h.credits_fit (by decide)

end BtFramework
