import BtFramework.L2capOps

/-!
# The transmit quota of an L2CAP channel

A connected channel may hand 16 packets to the stack. The result of `bt_sal_l2cap_send_packet`
is ignored, so the quota is kept only while the stack accepts every packet.
-/

namespace BtFramework

open Keyed L2capManager List Runs

/-- A read of the application's pipe, with the stack's answer to the packet if one is sent, and
the report that a packet was sent, with whether reading can be restarted. -/
inductive TxEvent where
  | read (buf : Option (List UInt8)) (accepted : Bool)
  | sent (readStart : Bool)

/-- One channel's manager, with the packets accepted and not yet reported as sent. -/
structure Transmission where
  manager : L2capManager
  outstanding : Nat

namespace Transmission

section

variable (addr : BtAddress) (pipe cid : Nat)

def Sends (s : Transmission) (buf : Option (List UInt8)) : Prop :=
  buf.any (!·.isEmpty) = true
    ∧ (s.manager.findL2capChannelByPipe pipe).any (·.rx.channelConnected) = true
deriving Decidable

def step (s : Transmission) : TxEvent → Transmission
  | .read buf accepted =>
    { manager := s.manager.step (.pipeRead pipe buf)
      outstanding := if s.Sends pipe buf ∧ accepted then s.outstanding + 1 else s.outstanding }
  | .sent readStart =>
    { manager := s.manager.step (.stack addr (.packetSent readStart cid))
      outstanding := s.outstanding - 1 }

/-- The pipe is read only while reading is on, and only what was accepted is reported. -/
def Follows (s : Transmission) : TxEvent → Prop
  | .read _ _ => (s.manager.findL2capChannelByPipe pipe).any (·.reading.isSome) = true
  | .sent _ => 0 < s.outstanding

instance (s : Transmission) (e : TxEvent) : Decidable (s.Follows pipe e) := by
  cases e <;> unfold Follows <;> infer_instance

/-- The stack accepts every packet, and reading can be restarted. -/
def Accepts (s : Transmission) : TxEvent → Prop
  | .read buf accepted => s.Sends pipe buf → accepted = true
  | .sent readStart => ∀ ch ∈ s.manager.channels, ch.ptr = pipe → ch.txQuota = 0 → readStart = true

instance (s : Transmission) (e : TxEvent) : Decidable (s.Accepts pipe e) := by
  cases e <;> unfold Accepts <;> infer_instance

/-- Quota and packets add up, and the pipe is read exactly while there is quota. -/
def QuotaKept (s : Transmission) : Prop :=
  ∀ ch ∈ s.manager.channels, ch.ptr = pipe →
    ch.txQuota + s.outstanding = l2capTxQuota ∧ (ch.reading.isSome = true ↔ 0 < ch.txQuota)

end

/-- The pipe and the cid are those of a connected channel. -/
structure Carries (m : L2capManager) (pipe cid : Nat) (channel : ManagedChannel) : Prop where
  ptrs : m.PtrsUnique
  by_pipe : m.findL2capChannelByPipe pipe = some channel
  by_cid : m.findL2capChannelByCid cid = some channel
  connected : channel.rx.channelConnected = true

variable {m : L2capManager} {addr : BtAddress} {pipe cid : Nat} {channel : ManagedChannel}
  {s : Transmission}

section

variable (h : Carries m pipe cid channel)
include h

theorem Carries.mem : channel ∈ m.channels := mem_of_find?_eq_some h.by_pipe

theorem Carries.pipe_spec : channel.rx.pipe = true ∧ channel.ptr = pipe := by
  have hp := find?_some h.by_pipe
  rwa [decide_eq_true_eq] at hp

theorem Carries.eq_channel {ch : ManagedChannel} (hch : ch ∈ m.channels) (hptr : ch.ptr = pipe) :
    ch = channel :=
  h.ptrs.eq_of_ptr hch h.mem (hptr.trans h.pipe_spec.2.symm)

theorem Carries.write (f : ManagedChannel → ManagedChannel)
    (hf : ∀ ch, (f ch).ptr = ch.ptr ∧ (f ch).rx = ch.rx) {m' : L2capManager}
    (hptrs : m'.PtrsUnique)
    (hchannels : m'.channels = Keyed.update (·.ptr) channel.ptr f m.channels) :
    Carries m' pipe cid (f channel) where
  ptrs := hptrs
  by_pipe := by
    rw [findL2capChannelByPipe, hchannels]
    exact find?_update_of_same (fun ch => by rw [(hf ch).1, (hf ch).2]) h.by_pipe
  by_cid := by
    rw [findL2capChannelByCid, hchannels]
    exact find?_update_of_same (fun ch => by rw [(hf ch).2]) h.by_cid
  connected := by rw [(hf channel).2]; exact h.connected

end

/-! ## One event -/

def takeQuota (txQuota : Nat) (ch : ManagedChannel) : ManagedChannel :=
  { ch with txQuota, reading := if txQuota = 0 then none else ch.reading }

def giveQuota (readStart : Bool) (ch : ManagedChannel) : ManagedChannel :=
  { ch with
    reading := if ch.rx.pipe ∧ ch.txQuota = 0 ∧ readStart then some ch.txMtu else ch.reading
    txQuota := (ch.txQuota + 1) % 65536 }

theorem Carries.read (h : Carries m pipe cid channel) (byte : UInt8) (data : List UInt8) :
    Carries (m.step (.pipeRead pipe (some (byte :: data)))) pipe cid
      (takeQuota ((channel.txQuota + 65535) % 65536) channel) := by
  refine h.write (takeQuota _) (fun _ => ⟨rfl, rfl⟩) (h.ptrs.step _) ?_
  rw [L2capManager.step, L2capManager.l2capReceiveDataFromApp, h.by_pipe]
  dsimp only
  rw [h.connected]
  rfl

theorem Carries.sent (h : Carries m pipe cid channel) (addr : BtAddress) (readStart : Bool) :
    Carries (m.step (.stack addr (.packetSent readStart cid))) pipe cid
      (giveQuota readStart channel) := by
  refine h.write (giveQuota readStart) (fun _ => ⟨rfl, rfl⟩) (h.ptrs.step _) ?_
  rw [L2capManager.step, L2capManager.handleL2capEvent, L2capManager.handlePacketSent, h.by_cid]
  rfl

theorem Carries.quotaKept_iff_sum (h : Carries s.manager pipe cid channel) :
    s.QuotaKept pipe ↔ channel.txQuota + s.outstanding = l2capTxQuota
      ∧ (channel.reading.isSome = true ↔ 0 < channel.txQuota) := by
  constructor
  · intro hkept
    exact hkept channel h.mem h.pipe_spec.2
  · intro hkept ch hch hptr
    rw [h.eq_channel hch hptr]
    exact hkept

def Gone (m : L2capManager) (pipe : Nat) : Prop := ∀ ch ∈ m.channels, ch.ptr ≠ pipe

theorem Gone.quotaKept (h : Gone s.manager pipe) : s.QuotaKept pipe :=
  fun ch hch hptr => absurd hptr (h ch hch)

theorem Gone.find_eq_none (h : Gone m pipe) : m.findL2capChannelByPipe pipe = none := by
  refine find?_eq_none.mpr fun ch hch hp => ?_
  rw [decide_eq_true_eq] at hp
  exact h ch hch hp.2

theorem Carries.gone (h : Carries m pipe cid channel) :
    Gone (m.step (.pipeRead pipe none)) pipe := by
  intro ch hch hptr
  rw [L2capManager.step, L2capManager.l2capReceiveDataFromApp, h.by_pipe,
    removeChannel_channels] at hch
  exact (mem_remove.mp hch).2 (hptr.trans h.pipe_spec.2.symm)

theorem Carries.sends_iff (h : Carries s.manager pipe cid channel) {buf : Option (List UInt8)} :
    s.Sends pipe buf ↔ buf.any (!·.isEmpty) = true := by
  rw [Sends, h.by_pipe, Option.any_some, and_iff_left h.connected]

theorem Carries.read_quotaKept_iff (h : Carries s.manager pipe cid channel)
    (hkept : s.QuotaKept pipe) (hreading : channel.reading.isSome = true) (byte : UInt8)
    (data : List UInt8) (accepted : Bool) :
    (s.step addr pipe cid (.read (some (byte :: data)) accepted)).QuotaKept pipe
      ↔ accepted = true := by
  obtain ⟨hsum, hactive⟩ := h.quotaKept_iff_sum.mp hkept
  have hquota := hactive.mp hreading
  have hsends : s.Sends pipe (some (byte :: data)) := h.sends_iff.mpr rfl
  rw [l2capTxQuota] at hsum
  have htake : (channel.txQuota + 65535) % 65536 = channel.txQuota - 1 := by omega
  have hcarries : Carries (s.step addr pipe cid (.read (some (byte :: data)) accepted)).manager pipe
      cid (takeQuota (channel.txQuota - 1) channel) := htake ▸ h.read byte data
  have hstops : (takeQuota (channel.txQuota - 1) channel).reading.isSome = true
      ↔ 0 < (takeQuota (channel.txQuota - 1) channel).txQuota := by
    rw [takeQuota]
    split
    next hzero => simp [hzero]
    next hne => exact iff_of_true hreading (Nat.pos_of_ne_zero hne)
  rw [hcarries.quotaKept_iff_sum, and_iff_left hstops, step, takeQuota, l2capTxQuota]
  dsimp only
  cases accepted with
  | false =>
    rw [if_neg (by simp)]
    refine iff_of_false (fun hafter => ?_) Bool.false_ne_true
    omega
  | true =>
    rw [if_pos ⟨hsends, rfl⟩]
    refine iff_of_true ?_ rfl
    omega

theorem Carries.sent_quotaKept_iff (h : Carries s.manager pipe cid channel)
    (hkept : s.QuotaKept pipe) (hsent : 0 < s.outstanding) (readStart : Bool) :
    (s.step addr pipe cid (.sent readStart)).QuotaKept pipe
      ↔ (channel.txQuota = 0 → readStart = true) := by
  obtain ⟨hsum, hactive⟩ := h.quotaKept_iff_sum.mp hkept
  rw [l2capTxQuota] at hsum
  have hgive : (channel.txQuota + 1) % 65536 = channel.txQuota + 1 := by omega
  have hcarries : Carries (s.step addr pipe cid (.sent readStart)).manager pipe cid
      (giveQuota readStart channel) := h.sent addr readStart
  rw [hcarries.quotaKept_iff_sum, step, giveQuota, l2capTxQuota]
  dsimp only
  rw [hgive, h.pipe_spec.1, and_iff_right (by omega)]
  by_cases hzero : channel.txQuota = 0
  · have hstopped : channel.reading.isSome = false := by
      rw [hzero] at hactive
      simpa using hactive
    cases readStart with
    | false => simp [hzero, hstopped]
    | true => simp [hzero]
  · have hreading := hactive.mpr (Nat.pos_of_ne_zero hzero)
    simp [hzero, hreading]

def Inv (pipe cid : Nat) (s : Transmission) : Prop :=
  Gone s.manager pipe ∨ (∃ channel, Carries s.manager pipe cid channel) ∧ s.QuotaKept pipe

theorem Inv.quotaKept (h : Inv pipe cid s) : s.QuotaKept pipe := h.elim Gone.quotaKept And.right

theorem gone_packetSent (h : Gone m pipe) (addr : BtAddress) (readStart : Bool) :
    Gone (m.step (.stack addr (.packetSent readStart cid))) pipe := by
  rw [L2capManager.step, L2capManager.handleL2capEvent, L2capManager.handlePacketSent]
  split
  · exact h
  · exact forall_mem_update (fun b hb _ => h b hb) h

theorem Carries.step_empty (h : Carries s.manager pipe cid channel) {accepted : Bool} :
    s.step addr pipe cid (.read (some []) accepted) = s := by
  have hmanager : s.manager.step (.pipeRead pipe (some [])) = s.manager := by
    rw [L2capManager.step, L2capManager.l2capReceiveDataFromApp, h.by_pipe]
  have hnone : ¬s.Sends pipe (some []) := fun hsends =>
    absurd (h.sends_iff.mp hsends) Bool.false_ne_true
  rw [Transmission.step, hmanager, if_neg fun hsent => hnone hsent.1]

theorem Carries.step (h : Carries s.manager pipe cid channel) (addr : BtAddress)
    (hkept : s.QuotaKept pipe) {e : TxEvent} (hfollows : s.Follows pipe e) :
    ((s.step addr pipe cid e).QuotaKept pipe ↔ s.Accepts pipe e)
      ∧ (Gone (s.step addr pipe cid e).manager pipe
          ∨ ∃ channel, Carries (s.step addr pipe cid e).manager pipe cid channel) := by
  cases e with
  | read buf accepted =>
    rw [Follows, h.by_pipe, Option.any_some] at hfollows
    rw [Accepts, h.sends_iff]
    rcases buf with _ | _ | ⟨byte, data⟩
    · have hgone : Gone (s.step addr pipe cid (.read none accepted)).manager pipe := h.gone
      exact ⟨iff_of_true hgone.quotaKept nofun, .inl hgone⟩
    · rw [h.step_empty]
      exact ⟨iff_of_true hkept nofun, .inr ⟨channel, h⟩⟩
    · refine ⟨?_, .inr ⟨_, h.read byte data⟩⟩
      rw [h.read_quotaKept_iff hkept hfollows]
      exact ⟨fun haccepted _ => haccepted, fun haccepts => haccepts rfl⟩
  | sent readStart =>
    refine ⟨?_, .inr ⟨_, h.sent addr readStart⟩⟩
    rw [h.sent_quotaKept_iff hkept hfollows, Accepts]
    constructor
    · intro hstart ch hch hptr
      rw [h.eq_channel hch hptr]
      exact hstart
    · intro haccepts
      exact haccepts channel h.mem h.pipe_spec.2

theorem Inv.step_iff (h : Inv pipe cid s) {e : TxEvent} (hfollows : s.Follows pipe e) :
    ((s.step addr pipe cid e).QuotaKept pipe ↔ s.Accepts pipe e)
      ∧ (s.Accepts pipe e → Inv pipe cid (s.step addr pipe cid e)) := by
  rcases h with hgone | ⟨⟨channel, hcarries⟩, hkept⟩
  · cases e with
    | read buf accepted =>
      rw [Follows, hgone.find_eq_none] at hfollows
      cases hfollows
    | sent readStart =>
      have hgone' : Gone (s.step addr pipe cid (.sent readStart)).manager pipe :=
        gone_packetSent hgone addr readStart
      refine ⟨iff_of_true hgone'.quotaKept fun ch hch hptr => ?_, fun _ => .inl hgone'⟩
      exact absurd hptr (hgone ch hch)
  · obtain ⟨hiff, hstays⟩ := hcarries.step addr hkept hfollows
    refine ⟨hiff, fun haccepts => hstays.imp_right fun hcarries => ⟨hcarries, hiff.mpr haccepts⟩⟩

/-- **Conservation of the quota.** The quota and the packets on their way add up and the pipe is
read exactly while there is quota, if and only if the stack accepts every packet and reading
restarts. -/
theorem txQuota_conserved_iff (hm : Carries m pipe cid channel)
    (hquota : channel.txQuota = l2capTxQuota) (hreading : channel.reading.isSome = true)
    {es : List TxEvent}
    (h : Guarded (Transmission.step addr pipe cid) (Follows pipe) ⟨m, 0⟩ es) :
    (∀ s ∈ visited (Transmission.step addr pipe cid) ⟨m, 0⟩ es, s.QuotaKept pipe)
      ↔ Guarded (Transmission.step addr pipe cid) (Accepts pipe) ⟨m, 0⟩ es := by
  have hstart : Inv pipe cid ⟨m, 0⟩ := by
    have hcarries : Carries (Transmission.mk m 0).manager pipe cid channel := hm
    refine .inr ⟨⟨channel, hm⟩, hcarries.quotaKept_iff_sum.mpr ⟨hquota, ?_⟩⟩
    rw [hquota]
    exact iff_of_true hreading (by decide)
  exact h.forall_visited_iff (fun _ => Inv.quotaKept)
    (fun _ _ hs hfollows => (hs.step_iff hfollows).2)
    (fun _ _ hs hfollows hnot hkept => hnot ((hs.step_iff hfollows).1.mp hkept)) hstart

def connectedManager : L2capManager :=
  after L2capManager.step .init
    [.connect ⟨true, true, true, true⟩ 1 0xA ⟨.ble, 64, 32, 4⟩ 0x80, .pipeConnected true true 0,
      .stack 0xA (.cidAllocated 0x80 0x40),
      .stack 0xA (.connected ⟨true, true, true, true⟩
        { isClient := true, localCid := 0x40, psm := 0x80, incoming := ⟨64, 32, 4⟩
          outgoing := ⟨64, 32, 4⟩ })]

theorem connectedManager_carries :
    ∃ channel, Carries connectedManager 0 0x40 channel ∧ channel.txQuota = l2capTxQuota
      ∧ channel.reading.isSome = true :=
  ⟨connectedManager.channels.head (by decide),
    ⟨ptrsUnique_after ptrsUnique_init _, by decide, by decide, by decide⟩,
    by decide, by decide⟩

theorem acceptedPackets_conserve_quota :
    let es := List.replicate 16 (.read (some [7]) true) ++ [.sent true, .read (some [8]) true]
    Guarded (Transmission.step 0xA 0 0x40) (Follows 0) ⟨connectedManager, 0⟩ es
      ∧ ∀ s ∈ visited (Transmission.step 0xA 0 0x40) ⟨connectedManager, 0⟩ es, s.QuotaKept 0 := by
  intro es
  obtain ⟨channel, hcarries, hquota, hreading⟩ := connectedManager_carries
  have h : Guarded (Transmission.step 0xA 0 0x40) (Follows 0) ⟨connectedManager, 0⟩ es := by decide
  exact ⟨h, (txQuota_conserved_iff hcarries hquota hreading h).mpr (by decide)⟩

/-- The stack refuses the first 16 packets: the quota is used up, reading has stopped, and
no packet is on its way whose report could restart it. -/
theorem refused_packets_stop_reading :
    let es := List.replicate 16 (.read (some [7]) false)
    let s := after (Transmission.step 0xA 0 0x40) ⟨connectedManager, 0⟩ es
    Guarded (Transmission.step 0xA 0 0x40) (Follows 0) ⟨connectedManager, 0⟩ es
      ∧ s.manager.channels.map (fun ch => (ch.txQuota, ch.reading)) = [(0, none)]
      ∧ s.outstanding = 0 ∧ ¬s.QuotaKept 0 := by
  intro es s
  refine ⟨by decide, by decide, by decide, fun h => ?_⟩
  have hsum := (h (s.manager.channels.head (by decide)) (head_mem _) (by decide)).1
  revert hsum
  decide

end Transmission

end BtFramework
