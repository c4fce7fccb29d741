import BtFramework.L2capOps
import Mathlib.Data.List.Perm.Subperm

/-!
# Connecting several times to one peer and PSM

The stack names a client's channel by its local cid, first in a cid-allocated event and then in
a connected event. The manager looks a channel that is not connected up by address, PSM and role
only, so both events go to the first request that waits.
-/

namespace BtFramework

open Keyed L2capManager List ManagedChannel Runs

/-! ## The scenario -/

/-- What can happen while an application connects to one peer and PSM: requests, the pipe of
a request becoming ready, and what the stack reports about the requests. -/
inductive ConnectEvent where
  | request (env : L2capRequestEnv) (app : Nat) (option : L2capConfigOption)
  | pipeConnected (pipe : Nat)
  | cidAllocated (cid : Nat)
  | connected (env : L2capConnectEnv) (cid : Nat) (incoming outgoing : L2capEndpointParam)

def ConnectEvent.event (addr : BtAddress) (psm : Nat) : ConnectEvent → L2capEvent
  | .request env app option => .connect env app addr option psm
  | .pipeConnected pipe => .pipeConnected true true pipe
  | .cidAllocated cid => .stack addr (.cidAllocated psm cid)
  | .connected env cid incoming outgoing =>
    .stack addr (.connected env { isClient := true, localCid := cid, psm, incoming, outgoing })

/-- The manager, how many requests were accepted, the cids the stack has allocated for them, the
one allocated since the last connected event, and the channel each connected event was given to,
with its cid. -/
structure Connecting where
  manager : L2capManager
  accepted : Nat
  allocated : List Nat
  last : Option Nat
  delivered : List (Option Nat × Nat)

namespace Connecting

def start (m : L2capManager) : Connecting :=
  { manager := m, accepted := 0, allocated := [], last := none, delivered := [] }

section

variable (addr : BtAddress) (psm : Nat)

def receiver (s : Connecting) : Option ManagedChannel :=
  s.manager.findL2capChannelByConnParam (some addr) psm .client false

def step (s : Connecting) (e : ConnectEvent) : Connecting :=
  let next := { s with manager := s.manager.step (e.event addr psm) }
  match e with
  | .request env app option =>
    if (s.manager.l2capConnectChannel env app addr option psm).1 = .success then
      { next with accepted := s.accepted + 1 }
    else next
  | .pipeConnected _ => next
  | .cidAllocated cid => { next with allocated := s.allocated ++ [cid], last := some cid }
  | .connected _ cid _ _ =>
    { next with
      last := none
      delivered := s.delivered ++ [((s.receiver addr psm).map (·.ptr), cid)] }

/-- The stack allocates a cid for each request once, one that the link does not use, and
reports a channel connected once. The data path of the channel is ready by then. -/
def Raises (s : Connecting) : ConnectEvent → Prop
  | .request _ _ _ => True
  | .pipeConnected _ => True
  | .cidAllocated cid =>
    0 < cid ∧ cid ∉ s.allocated ∧ s.allocated.length < s.accepted
      ∧ ∀ ch ∈ s.manager.channels, ch.addr = addr → ch.rx.localCid ≠ cid
  | .connected env cid _ _ =>
    cid ∈ s.allocated ∧ cid ∉ s.delivered.map (·.2)
      ∧ ∀ channel ∈ s.receiver addr psm, L2capManager.Connects env channel

instance (s : Connecting) (e : ConnectEvent) : Decidable (s.Raises addr psm e) := by
  cases e <;> unfold Raises <;> infer_instance

/-- The cid of a connected event is the one allocated last. -/
def InTurn (s : Connecting) : ConnectEvent → Prop
  | .connected _ cid _ _ => s.last = some cid
  | _ => True

instance (s : Connecting) (e : ConnectEvent) : Decidable (s.InTurn e) := by
  cases e <;> unfold InTurn <;> infer_instance

/-- Each connected event went to a channel of its own, with its cid. -/
structure Matched (s : Connecting) : Prop where
  cids : ∀ d ∈ s.delivered, ∃ ch ∈ s.manager.channels, d.1 = some ch.ptr ∧ ch.rx.localCid = d.2
  distinct : (s.delivered.map (·.1)).Nodup
  unshared : ∀ ch ∈ s.manager.channels, ∀ ch' ∈ s.manager.channels, ch.addr = addr →
    ch'.addr = addr → ch.rx.localCid ≠ 0 → ch'.rx.localCid = ch.rx.localCid → ch' = ch

end

end Connecting

/-! ## The queue -/

structure Attempt where
  ptr : Nat
  addr : BtAddress
  cid : Nat
  waits : Bool

def ManagedChannel.attempt (addr : BtAddress) (psm : Nat) (ch : ManagedChannel) : Attempt :=
  { ptr := ch.ptr, addr := ch.addr, cid := ch.rx.localCid
    waits := ch.psm = psm ∧ ch.role = .client ∧ ch.rx.channelConnected = false ∧ ch.addr = addr }

namespace L2capManager

variable {m : L2capManager} {channel : ManagedChannel} {addr : BtAddress} {psm : Nat}

def attempts (m : L2capManager) (addr : BtAddress) (psm : Nat) : List Attempt :=
  m.channels.map (·.attempt addr psm)

theorem PtrsUnique.nodup_attempts (h : m.PtrsUnique) :
    ((m.attempts addr psm).map (·.ptr)).Nodup := by
  have hnodup := h.nodup_channels
  rwa [attempts, map_map]

theorem find_attempt (m : L2capManager) (addr : BtAddress) (psm : Nat) :
    (m.findL2capChannelByConnParam (some addr) psm .client false).map (·.attempt addr psm)
      = ((m.attempts addr psm).filter (·.waits)).head? := by
  rw [attempts, head?_filter, find?_map]
  rfl

theorem attempts_pipeConnected (pipe : Nat) :
    (m.proxyConnectedCb true true pipe).attempts addr psm = m.attempts addr psm := by
  rw [proxyConnectedCb]
  split
  · rfl
  · exact map_update fun _ _ _ => rfl

theorem connectWrite_attempt {env : L2capConnectEnv} (hconnects : Connects env channel)
    (param : L2capChannelParam) :
    (connectWrite env param channel).attempt addr psm
      = { channel.attempt addr psm with waits := false } := by
  have hcid : (handleChannelConneted env.readStop env.readStart channel.rx
      param.incoming).localCid = channel.rx.localCid := handleChannelConneted_localCid
  have hconnected : (handleChannelConneted env.readStop env.readStart channel.rx
      param.incoming).channelConnected = true := by
    rw [handleChannelConneted_channelConnected, hconnects.1, hconnects.2.1, hconnects.2.2]
    exact Bool.or_true _
  rw [attempt, connectWrite]
  simp [hcid, hconnected, takeOutgoing, attempt]

theorem attempts_connected (h : m.PtrsUnique) {env : L2capConnectEnv} {cid : Nat}
    (incoming outgoing : L2capEndpointParam)
    (hfind : m.findL2capChannelByConnParam (some addr) psm .client false = some channel)
    (hconnects : Connects env channel) :
    (m.handleConneted env addr
      { isClient := true, localCid := cid, psm, incoming, outgoing }).attempts addr psm
      = Keyed.update (·.ptr) channel.ptr ({ · with waits := false }) (m.attempts addr psm) := by
  obtain ⟨hmem, -, -⟩ := findL2capChannelByConnParam_client hfind
  rw [handleConneted, if_pos rfl]
  rw [hfind]
  dsimp only
  rw [hconnects.1, if_neg (by decide), if_pos rfl, attempts, finishConnect_channels]
  refine map_update_comm (fun _ => rfl) fun ch hch hptr => ?_
  rw [h.eq_of_ptr hch hmem hptr]
  exact connectWrite_attempt hconnects _

theorem attempts_request (h : m.PtrsUnique) (env : L2capRequestEnv) (app : Nat)
    (addr : BtAddress) (option : L2capConfigOption) (psm : Nat) :
    (m.l2capConnectChannel env app addr option psm).2.attempts addr psm
      = if (m.l2capConnectChannel env app addr option psm).1 = .success then
          m.attempts addr psm ++ [{ ptr := m.nextPtr, addr, cid := 0, waits := true }]
        else m.attempts addr psm := by
  rw [l2capConnectChannel]
  split
  · rfl
  split
  · rfl
  have hopen : m.openChannel env app (some addr) psm .client (.connect addr psm) = _ := rfl
  obtain ⟨hfails, hsucceeds⟩ := openChannel_channels h.ne_nextPtr hopen
  split
  next hok =>
    obtain ⟨id, hchannels⟩ := hsucceeds hok
    rw [attempts, hchannels, map_append, attempts]
    simp [attempt, openPipe, blankChannel]
  next hne => rw [attempts, hfails hne, attempts]

end L2capManager

/-! ## One event -/

namespace Connecting

variable {s : Connecting} {addr : BtAddress} {psm : Nat}

def Queued (last : Option Nat) : List Nat → Prop
  | [] => last = none
  | cid :: rest => cid = last.getD 0 ∧ ∀ c ∈ rest, c = 0

theorem Queued.concat {last : Option Nat} {cids : List Nat} (h : Queued last cids) :
    Queued last (cids ++ [0]) := by
  cases cids with
  | nil =>
    rw [h]
    exact ⟨rfl, forall_mem_nil _⟩
  | cons cid rest =>
    exact ⟨h.1, forall_mem_concat.mpr ⟨h.2, rfl⟩⟩

theorem queued_of_zeros {cids : List Nat} (h : ∀ c ∈ cids, c = 0) : Queued none cids := by
  cases cids with
  | nil => rfl
  | cons cid rest => exact ⟨h cid (mem_cons_self ..), fun c hc => h c (mem_cons_of_mem _ hc)⟩

def Unshared (addr : BtAddress) (l : List Attempt) : Prop :=
  ∀ a ∈ l, ∀ b ∈ l, a.addr = addr → b.addr = addr → a.cid ≠ 0 → b.cid = a.cid → b.ptr = a.ptr

variable {l rest : List Attempt} {cid : Nat} {m : L2capManager} {a : Attempt}
  {env : L2capConnectEnv} {incoming outgoing : L2capEndpointParam}

theorem Unshared.concat (h : Unshared addr l) (p : Nat) :
    Unshared addr (l ++ [{ ptr := p, addr, cid := 0, waits := true }]) := by
  intro a ha b hb haddr hbddr hcid heq
  rw [mem_append, mem_singleton] at ha hb
  rcases ha with ha | rfl
  · rcases hb with hb | rfl
    · exact h a ha b hb haddr hbddr hcid heq
    · exact absurd heq.symm hcid
  · exact absurd rfl hcid

theorem Unshared.assign (h : Unshared addr l) (hfresh : ∀ b ∈ l, b.addr = addr → b.cid ≠ cid)
    (p : Nat) :
    Unshared addr (Keyed.update (·.ptr) p ({ · with cid }) l) := by
  intro x hx y hy hxaddr hyaddr hcid heq
  rcases mem_update.mp hx with ⟨x, hx, hxptr, rfl⟩ | ⟨hx, -⟩
  · rcases mem_update.mp hy with ⟨y, hy, hyptr, rfl⟩ | ⟨hy, -⟩
    · exact hyptr.trans hxptr.symm
    · exact absurd heq (hfresh y hy hyaddr)
  · rcases mem_update.mp hy with ⟨y, hy, hyptr, rfl⟩ | ⟨hy, -⟩
    · exact absurd heq.symm (hfresh x hx hxaddr)
    · exact h x hx y hy hxaddr hyaddr hcid heq

theorem Unshared.through (h : Unshared addr l) (p : Nat) :
    Unshared addr (Keyed.update (·.ptr) p ({ · with waits := false }) l) := by
  have hsame : ∀ x ∈ Keyed.update (·.ptr) p ({ · with waits := false }) l,
      ∃ b ∈ l, b.ptr = x.ptr ∧ b.addr = x.addr ∧ b.cid = x.cid :=
    forall_mem_update (fun b hb _ => ⟨b, hb, rfl, rfl, rfl⟩) fun x hx => ⟨x, hx, rfl, rfl, rfl⟩
  intro x hx y hy
  obtain ⟨b, hb, hbptr, hbaddr, hbcid⟩ := hsame x hx
  obtain ⟨c, hc, hcptr, hcaddr, hccid⟩ := hsame y hy
  rw [← hbptr, ← hcptr, ← hbaddr, ← hcaddr, ← hbcid, ← hccid]
  exact h b hb c hc

def queue (addr : BtAddress) (psm : Nat) (s : Connecting) : List Attempt :=
  (s.manager.attempts addr psm).filter (·.waits)

structure Inv (addr : BtAddress) (psm : Nat) (s : Connecting) : Prop where
  ptrs : s.manager.PtrsUnique
  queued : Queued s.last ((s.queue addr psm).map (·.cid))
  done : ∀ d ∈ s.delivered, ∃ a ∈ s.manager.attempts addr psm,
    d.1 = some a.ptr ∧ a.cid = d.2 ∧ a.waits = false
  distinct : (s.delivered.map (·.1)).Nodup
  unshared : ∀ a ∈ s.manager.attempts addr psm, ∀ b ∈ s.manager.attempts addr psm,
    a.addr = addr → b.addr = addr → a.cid ≠ 0 → b.cid = a.cid → b.ptr = a.ptr
  counted : (s.queue addr psm).length + s.delivered.length = s.accepted
  positive : ∀ cid ∈ s.allocated, 0 < cid
  reported : (s.delivered.map (·.2)).Nodup
  known : s.delivered.map (·.2) ⊆ s.allocated
  bounded : s.allocated.length ≤ s.accepted

/-- No request to this peer and PSM waits, and no cid of the peer is shared. -/
structure Idle (addr : BtAddress) (psm : Nat) (m : L2capManager) : Prop where
  ptrs : m.PtrsUnique
  none_waits : m.findL2capChannelByConnParam (some addr) psm .client false = none
  unshared : ∀ ch ∈ m.channels, ∀ ch' ∈ m.channels, ch.addr = addr → ch'.addr = addr →
    ch.rx.localCid ≠ 0 → ch'.rx.localCid = ch.rx.localCid → ch' = ch

theorem Idle.inv (h : Idle addr psm m) : Inv addr psm (start m) := by
  have hqueue : (start m).queue addr psm = [] := by
    have hhead := find_attempt m addr psm
    rw [h.none_waits] at hhead
    exact head?_eq_none_iff.mp hhead.symm
  refine ⟨h.ptrs, ?_, nofun, nodup_nil, ?_, ?_, nofun, nodup_nil, nofun, Nat.le_refl 0⟩
  · rw [hqueue]
    rfl
  · intro a ha b hb haddr hbddr hcid heq
    obtain ⟨ch, hch, rfl⟩ := mem_map.mp ha
    obtain ⟨ch', hch', rfl⟩ := mem_map.mp hb
    rw [h.unshared ch hch ch' hch' haddr hbddr hcid heq]
  · rw [hqueue]
    rfl

theorem idle_init : Idle addr psm .init where
  ptrs := ptrsUnique_init
  none_waits := rfl
  unshared := nofun

section

variable (h : Inv addr psm s)
include h

theorem Inv.matched : s.Matched addr where
  cids := by
    intro d hd
    obtain ⟨a, ha, hptr, hcid, -⟩ := h.done d hd
    obtain ⟨ch, hch, rfl⟩ := mem_map.mp ha
    exact ⟨ch, hch, hptr, hcid⟩
  distinct := h.distinct
  unshared := by
    intro ch hch ch' hch' haddr haddr' hcid heq
    refine h.ptrs.eq_of_ptr hch' hch ?_
    exact h.unshared _ (mem_map_of_mem hch) _ (mem_map_of_mem hch') haddr haddr' hcid heq

theorem Inv.of_attempts (hptrs : m.PtrsUnique)
    (hattempts : m.attempts addr psm = s.manager.attempts addr psm) :
    Inv addr psm { s with manager := m } := by
  have hqueue : { s with manager := m }.queue addr psm = s.queue addr psm :=
    congrArg (fun l => l.filter Attempt.waits) hattempts
  exact ⟨hptrs, hqueue ▸ h.queued, hattempts ▸ h.done, h.distinct, hattempts ▸ h.unshared,
    hqueue ▸ h.counted, h.positive, h.reported, h.known, h.bounded⟩

theorem Inv.enqueue {p : Nat} (hptrs : m.PtrsUnique)
    (hattempts : m.attempts addr psm
      = s.manager.attempts addr psm ++ [{ ptr := p, addr, cid := 0, waits := true }]) :
    Inv addr psm { s with manager := m, accepted := s.accepted + 1 } := by
  have hqueue : { s with manager := m, accepted := s.accepted + 1 }.queue addr psm
      = s.queue addr psm ++ [{ ptr := p, addr, cid := 0, waits := true }] := by
    refine (congrArg (fun l => l.filter Attempt.waits) hattempts).trans ?_
    exact filter_append ..
  refine ⟨hptrs, ?_, ?_, h.distinct, ?_, ?_, h.positive, h.reported, h.known,
    Nat.le_succ_of_le h.bounded⟩
  · rw [hqueue, map_append]
    exact h.queued.concat
  · intro d hd
    obtain ⟨a, ha, hdone⟩ := h.done d hd
    exact ⟨a, hattempts ▸ mem_append_left _ ha, hdone⟩
  · rw [hattempts]
    exact Unshared.concat h.unshared p
  · have hcounted := h.counted
    rw [hqueue, length_append, length_singleton]
    dsimp only
    omega

theorem Inv.request (env : L2capRequestEnv) (app : Nat) (option : L2capConfigOption) :
    Inv addr psm (s.step addr psm (.request env app option)) := by
  have hptrs := h.ptrs.step (.connect env app addr option psm)
  have hattempts := attempts_request h.ptrs env app addr option psm
  rw [step]
  split
  next hok =>
    rw [if_pos hok] at hattempts
    exact h.enqueue hptrs hattempts
  next hne =>
    rw [if_neg hne] at hattempts
    exact h.of_attempts hptrs hattempts

theorem Inv.receiver_spec (hwaits : s.delivered.length < s.accepted) :
    ∃ channel rest, s.receiver addr psm = some channel
      ∧ s.queue addr psm = channel.attempt addr psm :: rest := by
  have hfind := find_attempt s.manager addr psm
  have hcounted := h.counted
  cases hqueue : s.queue addr psm with
  | nil =>
    rw [hqueue, length_nil, Nat.zero_add] at hcounted
    exact absurd hcounted (Nat.ne_of_lt hwaits)
  | cons a rest =>
    rw [← queue, hqueue, head?_cons, Option.map_eq_some_iff] at hfind
    obtain ⟨channel, hchannel, rfl⟩ := hfind
    exact ⟨channel, rest, hchannel, rfl⟩

theorem Inv.done_update (hqueue : s.queue addr psm = a :: rest) (g : Attempt → Attempt)
    {d : Option Nat × Nat} (hd : d ∈ s.delivered) :
    d.1 ≠ some a.ptr ∧ ∃ b ∈ Keyed.update (·.ptr) a.ptr g (s.manager.attempts addr psm),
      d.1 = some b.ptr ∧ b.cid = d.2 ∧ b.waits = false := by
  obtain ⟨ha, hwaits⟩ := mem_filter.mp (hqueue ▸ mem_cons_self .. : a ∈ s.queue addr psm)
  obtain ⟨b, hb, hptr, hcid, hthrough⟩ := h.done d hd
  have hne : b.ptr ≠ a.ptr := by
    intro heq
    rw [inj_on_of_nodup_map h.ptrs.nodup_attempts hb ha heq, hwaits] at hthrough
    cases hthrough
  refine ⟨fun heq => hne (Option.some.inj (hptr.symm.trans heq)), b, ?_, hptr, hcid, hthrough⟩
  exact mem_update.mpr (.inr ⟨hb, hne⟩)

theorem Inv.delivered_le : s.delivered.length ≤ s.allocated.length := by
  have hle := (subperm_of_subset h.reported h.known).length_le
  rwa [length_map] at hle

theorem Inv.assign (hqueue : s.queue addr psm = a :: rest) (hpositive : 0 < cid)
    (hcount : s.allocated.length < s.accepted)
    (hfresh : ∀ b ∈ s.manager.attempts addr psm, b.addr = addr → b.cid ≠ cid)
    (hptrs : m.PtrsUnique)
    (hattempts : m.attempts addr psm
      = Keyed.update (·.ptr) a.ptr ({ · with cid }) (s.manager.attempts addr psm)) :
    Inv addr psm { s with manager := m, allocated := s.allocated ++ [cid], last := some cid } := by
  obtain ⟨-, hwaits⟩ := mem_filter.mp (hqueue ▸ mem_cons_self .. : a ∈ s.queue addr psm)
  have hqueue' : { s with
      manager := m, allocated := s.allocated ++ [cid], last := some cid }.queue addr psm
        = { a with cid } :: rest := by
    refine (congrArg (fun l => l.filter Attempt.waits) hattempts).trans ?_
    rw [filter_update_head h.ptrs.nodup_attempts hqueue]
    have hstays : ({ a with cid } : Attempt).waits = true := hwaits
    rw [filter_cons_of_pos hstays]
    rfl
  have hqueued := h.queued
  have hcounted := h.counted
  rw [hqueue] at hqueued hcounted
  refine ⟨hptrs, ?_, ?_, h.distinct, ?_, ?_, ?_, h.reported,
    fun _ hc => mem_append_left _ (h.known hc), ?_⟩
  · rw [hqueue']
    exact ⟨rfl, hqueued.2⟩
  · intro d hd
    obtain ⟨b, hb, hdone⟩ := (h.done_update hqueue ({ · with cid }) hd).2
    exact ⟨b, hattempts ▸ hb, hdone⟩
  · rw [hattempts]
    exact Unshared.assign h.unshared hfresh a.ptr
  · rw [hqueue']
    exact hcounted
  · exact forall_mem_concat.mpr ⟨h.positive, hpositive⟩
  · rw [length_append, length_singleton]
    exact hcount

theorem Inv.cidAllocated (hraises : s.Raises addr psm (.cidAllocated cid)) :
    Inv addr psm (s.step addr psm (.cidAllocated cid)) := by
  obtain ⟨hpositive, -, hcount, hfresh⟩ := hraises
  obtain ⟨channel, rest, hreceiver, hqueue⟩ :=
    h.receiver_spec (Nat.lt_of_le_of_lt h.delivered_le hcount)
  refine h.assign hqueue hpositive hcount (fun b hb hbaddr => ?_)
    (h.ptrs.step (.stack addr (.cidAllocated psm cid))) ?_
  · obtain ⟨ch, hch, rfl⟩ := mem_map.mp hb
    exact hfresh ch hch hbaddr
  · change (s.manager.handleCidAllocated addr psm cid).attempts addr psm = _
    rw [L2capManager.handleCidAllocated, ← receiver, hreceiver]
    exact map_update_comm (fun _ => rfl) fun _ _ _ => rfl

theorem Inv.dequeue (hqueue : s.queue addr psm = a :: rest) (hcid : s.last = some cid)
    (hmem : cid ∈ s.allocated) (hnew : cid ∉ s.delivered.map (·.2)) (hptrs : m.PtrsUnique)
    (hattempts : m.attempts addr psm
      = Keyed.update (·.ptr) a.ptr ({ · with waits := false }) (s.manager.attempts addr psm)) :
    Inv addr psm { s with
      manager := m, last := none, delivered := s.delivered ++ [(some a.ptr, cid)] } := by
  obtain ⟨ha, -⟩ := mem_filter.mp (hqueue ▸ mem_cons_self .. : a ∈ s.queue addr psm)
  have hqueue' : { s with
      manager := m, last := none, delivered := s.delivered ++ [(some a.ptr, cid)] }.queue addr psm
        = rest := by
    refine (congrArg (fun l => l.filter Attempt.waits) hattempts).trans ?_
    rw [filter_update_head h.ptrs.nodup_attempts hqueue]
    rfl
  have hqueued := h.queued
  have hcounted := h.counted
  rw [hqueue] at hqueued hcounted
  refine ⟨hptrs, ?_, ?_, ?_, ?_, ?_, h.positive, ?_, ?_, h.bounded⟩
  · rw [hqueue']
    exact queued_of_zeros hqueued.2
  · intro d hd
    rcases mem_append.mp hd with hd | hd
    · obtain ⟨b, hb, hdone⟩ := (h.done_update hqueue ({ · with waits := false }) hd).2
      exact ⟨b, hattempts ▸ hb, hdone⟩
    · rw [mem_singleton.mp hd]
      refine ⟨{ a with waits := false }, ?_, rfl, ?_, rfl⟩
      · rw [hattempts]
        exact mem_update.mpr (.inl ⟨a, ha, rfl, rfl⟩)
      · rw [hcid] at hqueued
        exact hqueued.1
  · refine nodup_concat h.distinct fun d hd => ?_
    exact (h.done_update hqueue id hd).1
  · rw [hattempts]
    exact Unshared.through h.unshared a.ptr
  · rw [hqueue']
    rw [length_cons] at hcounted
    dsimp only
    rw [length_append, length_singleton]
    omega
  · refine nodup_concat h.reported fun d hd heq => hnew ?_
    rw [← show d.2 = cid from heq]
    exact mem_map_of_mem hd
  · intro c hc
    rw [map_append, mem_append] at hc
    rcases hc with hc | hc
    · exact h.known hc
    · exact mem_singleton.mp hc ▸ hmem

theorem Inv.receiver_connected
    (hraises : s.Raises addr psm (.connected env cid incoming outgoing)) :
    ∃ channel rest, s.receiver addr psm = some channel
      ∧ s.queue addr psm = channel.attempt addr psm :: rest
      ∧ (s.manager.step
          ((ConnectEvent.connected env cid incoming outgoing).event addr psm)).attempts addr psm
          = Keyed.update (·.ptr) channel.ptr ({ · with waits := false })
            (s.manager.attempts addr psm) := by
  obtain ⟨hmem, hnew, hconnects⟩ := hraises
  have hlt : s.delivered.length < s.allocated.length := by
    have hsubset : cid :: s.delivered.map (·.2) ⊆ s.allocated := cons_subset.mpr ⟨hmem, h.known⟩
    have hle := (subperm_of_subset (nodup_cons.mpr ⟨hnew, h.reported⟩) hsubset).length_le
    rwa [length_cons, length_map] at hle
  obtain ⟨channel, rest, hreceiver, hqueue⟩ := h.receiver_spec (Nat.lt_of_lt_of_le hlt h.bounded)
  exact ⟨channel, rest, hreceiver, hqueue, attempts_connected h.ptrs incoming outgoing
    hreceiver (hconnects channel hreceiver)⟩

theorem Inv.connected (hraises : s.Raises addr psm (.connected env cid incoming outgoing))
    (hcid : s.last = some cid) :
    Inv addr psm (s.step addr psm (.connected env cid incoming outgoing)) := by
  obtain ⟨channel, rest, hreceiver, hqueue, hattempts⟩ := h.receiver_connected hraises
  rw [step]
  dsimp only
  rw [hreceiver]
  exact h.dequeue hqueue hcid hraises.1 hraises.2.1 (h.ptrs.step _) hattempts

theorem Inv.not_matched (hraises : s.Raises addr psm (.connected env cid incoming outgoing))
    (hcid : s.last ≠ some cid) :
    ¬(s.step addr psm (.connected env cid incoming outgoing)).Matched addr := by
  obtain ⟨channel, rest, hreceiver, hqueue, hattempts⟩ := h.receiver_connected hraises
  have hqueued := h.queued
  rw [hqueue] at hqueued
  intro hmatched
  obtain ⟨ch, hch, hptr, hlocal⟩ := hmatched.cids (some channel.ptr, cid)
    (mem_append_right _ (by rw [hreceiver]; exact mem_singleton_self _))
  have hafter : ch.attempt addr psm ∈ Keyed.update (·.ptr) channel.ptr ({ · with waits := false })
      (s.manager.attempts addr psm) := hattempts ▸ mem_map_of_mem hch
  have hptr : channel.ptr = ch.ptr := Option.some.inj hptr
  have hfirst : ch.rx.localCid = s.last.getD 0 := by
    rcases mem_update.mp hafter with ⟨b, hb, hbptr, hbeq⟩ | ⟨-, hne⟩
    · have hbefore := (mem_filter.mp
        (hqueue ▸ mem_cons_self .. : channel.attempt addr psm ∈ s.queue addr psm)).1
      have hsame : b = channel.attempt addr psm :=
        inj_on_of_nodup_map h.ptrs.nodup_attempts hb hbefore hbptr
      have hlocal : ch.rx.localCid = channel.rx.localCid := by
        rw [hsame] at hbeq
        exact (congrArg Attempt.cid hbeq).symm
      exact hlocal.trans hqueued.1
    · exact absurd hptr.symm hne
  rw [hlocal] at hfirst
  cases hlast : s.last with
  | none =>
    rw [hlast] at hfirst
    have hzero : cid = 0 := hfirst
    exact absurd (h.positive cid hraises.1) (hzero ▸ Nat.lt_irrefl 0)
  | some last =>
    rw [hlast] at hfirst hcid
    exact hcid (congrArg some hfirst.symm)

theorem Inv.step {e : ConnectEvent} (hraises : s.Raises addr psm e) (hturn : s.InTurn e) :
    Inv addr psm (s.step addr psm e) := by
  cases e with
  | request env app option => exact h.request env app option
  | pipeConnected pipe =>
    exact h.of_attempts (h.ptrs.step (.pipeConnected true true pipe)) (attempts_pipeConnected pipe)
  | cidAllocated cid => exact h.cidAllocated hraises
  | connected env cid incoming outgoing => exact h.connected hraises hturn

end

/-- **Concurrent connects.** All connected events reach a channel with their cid, each its own,
exactly if each comes before another cid is allocated. -/
theorem connected_cids_match_iff {m : L2capManager} (hm : Idle addr psm m)
    {es : List ConnectEvent}
    (h : Guarded (Connecting.step addr psm) (Raises addr psm) (start m) es) :
    (∀ s ∈ visited (Connecting.step addr psm) (start m) es, s.Matched addr)
      ↔ Guarded (Connecting.step addr psm) InTurn (start m) es := by
  refine h.forall_visited_iff (fun s hs => hs.matched)
    (fun s e hs hraises hturn => hs.step hraises hturn) (fun s e hs hraises hturn => ?_) hm.inv
  cases e with
  | connected env cid incoming outgoing => exact hs.not_matched hraises hturn
  | _ => exact absurd trivial hturn

def connectRun (requests : Nat) (reports : List ConnectEvent) : List ConnectEvent :=
  List.replicate requests (.request ⟨true, true, true, true⟩ 1 ⟨.ble, 64, 32, 4⟩)
    ++ (List.range requests).map .pipeConnected ++ reports

def reportConnected (cid : Nat) : ConnectEvent :=
  .connected ⟨true, true, true, true⟩ cid ⟨64, 32, 4⟩ ⟨64, 32, 4⟩

theorem twoInTurn_match :
    let es := connectRun 2
      [.cidAllocated 0x40, reportConnected 0x40, .cidAllocated 0x41, reportConnected 0x41]
    Guarded (Connecting.step 0xA 0x80) (Raises 0xA 0x80) (start .init) es
      ∧ ∀ s ∈ visited (Connecting.step 0xA 0x80) (start .init) es, s.Matched 0xA := by
  intro es
  have h : Guarded (Connecting.step 0xA 0x80) (Raises 0xA 0x80) (start .init) es := by decide
  exact ⟨h, (connected_cids_match_iff idle_init h).mpr (by decide)⟩

/-- Both cids are allocated before the first channel is connected: the first channel has the
cid of the second, which has none. -/
theorem overlapping_connects_swap_cids :
    let es := connectRun 2
      [.cidAllocated 0x40, .cidAllocated 0x41, reportConnected 0x40, reportConnected 0x41]
    let s := after (Connecting.step 0xA 0x80) (start .init) es
    Guarded (Connecting.step 0xA 0x80) (Raises 0xA 0x80) (start .init) es
      ∧ s.delivered = [(some 0, 0x40), (some 1, 0x41)]
      ∧ s.manager.channels.map (fun ch => (ch.ptr, ch.rx.channelConnected, ch.rx.localCid))
          = [(0, true, 0x41), (1, true, 0)]
      ∧ ¬s.Matched 0xA := by
  refine ⟨by decide, by decide, by decide, fun h => ?_⟩
  exact absurd (h.cids (some 0, 0x40) (by decide)) (by decide)

end Connecting

end BtFramework
