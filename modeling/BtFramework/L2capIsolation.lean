import BtFramework.L2capManager
import BtFramework.Runs

/-!
# L2CAP: events of one peer and channels of another

The manager looks at the address of an event only when a channel is being connected; every later
event is given to the first channel with the event's local cid. A local cid is unique on one
link and says nothing about other links.
-/

namespace BtFramework

open Keyed L2capManager List ManagedChannel Runs

/-! ## Channels open in the stack -/

/-- The manager, and the cids open on each link. -/
structure L2capLinks where
  manager : L2capManager
  inUse : List (BtAddress × Nat)

def stackChannels (inUse : List (BtAddress × Nat)) (addr : BtAddress) :
    L2capStackEvent → List (BtAddress × Nat)
  | .cidAllocated _ cid => (addr, cid) :: inUse
  | .connected _ param =>
    if (addr, param.localCid) ∈ inUse then inUse else (addr, param.localCid) :: inUse
  | .disconnected cid _ => inUse.filter (· ≠ (addr, cid))
  | _ => inUse

/-- Cids are dynamic ones, a new channel has a cid that its link does not use, and the other
events are about open channels. A client's channel may be announced before it is connected. -/
def CoreSpec (inUse : List (BtAddress × Nat)) (addr : BtAddress) : L2capStackEvent → Prop
  | .cidAllocated _ cid => l2capCidDynamicMin ≤ cid ∧ (addr, cid) ∉ inUse
  | .connected _ param => l2capCidDynamicMin ≤ param.localCid ∧
      (param.isClient = true ∨ (addr, param.localCid) ∉ inUse)
  | .disconnected cid _ => (addr, cid) ∈ inUse
  | .packetReceived _ cid _ => (addr, cid) ∈ inUse
  | .segmentReceived _ cid _ => (addr, cid) ∈ inUse
  | .packetSent _ cid => (addr, cid) ∈ inUse

instance (inUse : List (BtAddress × Nat)) (addr : BtAddress) (e : L2capStackEvent) :
    Decidable (CoreSpec inUse addr e) := by
  cases e <;> unfold CoreSpec <;> infer_instance

namespace L2capLinks

def init : L2capLinks := { manager := .init, inUse := [] }

def step (s : L2capLinks) (e : L2capEvent) : L2capLinks :=
  { manager := s.manager.step e
    inUse := match e with
      | .stack addr e => stackChannels s.inUse addr e
      | _ => s.inUse }

/-- The stack opens a channel under a dynamic cid that is not open on that link, and reports only
about open channels. -/
def Conforms (s : L2capLinks) : L2capEvent → Prop
  | .stack addr e => CoreSpec s.inUse addr e
  | _ => True

instance (s : L2capLinks) (e : L2capEvent) : Decidable (s.Conforms e) := by
  unfold Conforms
  split <;> infer_instance

/-- No channel has a local cid that is open on another link. -/
def CidsApart (s : L2capLinks) : Prop :=
  ∀ ch ∈ s.manager.channels, ∀ link ∈ s.inUse, ch.rx.localCid = link.2 → ch.addr = link.1
deriving Decidable

end L2capLinks

/-! ## Isolation -/

def L2capNotification.addr : L2capNotification → BtAddress
  | .connected _ addr _ _ _ _ => addr
  | .disconnected _ addr _ _ => addr

def ManagedChannel.listensFor (ch : ManagedChannel) : L2capStackEvent → Bool
  | .connected _ param => !param.isClient && ch.role = .serverListen &&
      !ch.rx.channelConnected && ch.psm = param.psm
  | _ => false

/-- An event of the peer `addr` stays with the peer: a channel that is not as it was before is the
peer's, or the listening channel the peer connects to; a channel as it was not before is the
peer's, or listens; and the applications are told about the peer only. -/
structure Isolated (m m' : L2capManager) (addr : BtAddress) (e : L2capStackEvent) : Prop where
  changed : ∀ ch ∈ m.channels, ch ∉ m'.channels →
    ch.role ≠ .serverListen ∧ ch.addr = addr ∨ ch.listensFor e = true
  result : ∀ ch ∈ m'.channels, ch ∉ m.channels → ch.addr = addr ∨ ch.role = .serverListen
  told : ∃ new, m'.notified = m.notified ++ new ∧ ∀ n ∈ new, n.addr = addr

/-! ## What ties a channel to its link -/

structure ChannelLink where
  ptr : Nat
  addr : BtAddress
  role : L2capRole
  localCid : Nat

def ManagedChannel.link (ch : ManagedChannel) : ChannelLink :=
  { ptr := ch.ptr, addr := ch.addr, role := ch.role, localCid := ch.rx.localCid }

structure Linked (inUse : List (BtAddress × Nat)) (nextPtr : Nat) (l : List ChannelLink) :
    Prop where
  dynamic : ∀ link ∈ inUse, l2capCidDynamicMin ≤ link.2
  fresh : ∀ c ∈ l, c.ptr < nextPtr
  nodup : (l.map (·.ptr)).Nodup
  inUse : ∀ c ∈ l, c.localCid ≠ 0 → (c.addr, c.localCid) ∈ inUse
  listening : ∀ c ∈ l, c.role = .serverListen → c.localCid = 0
  single : ∀ c ∈ l, ∀ c' ∈ l, c.localCid ≠ 0 → c'.localCid = c.localCid → c'.addr = c.addr → c' = c

namespace Linked

variable {inUse inUse' : List (BtAddress × Nat)} {nextPtr : Nat} {l l' : List ChannelLink}
  {addr : BtAddress} {cid : Nat}

section

variable (h : Linked inUse nextPtr l)
include h

theorem sublist (hs : l'.Sublist l) : Linked inUse nextPtr l' where
  dynamic := h.dynamic
  fresh c hc := h.fresh c (hs.subset hc)
  nodup := List.Nodup.sublist (hs.map _) h.nodup
  inUse c hc := h.inUse c (hs.subset hc)
  listening c hc := h.listening c (hs.subset hc)
  single c hc c' hc' := h.single c (hs.subset hc) c' (hs.subset hc')

theorem concat {c : ChannelLink} (hptr : c.ptr = nextPtr) (hcid : c.localCid = 0) :
    Linked inUse (nextPtr + 1) (l ++ [c]) where
  dynamic := h.dynamic
  fresh := by
    rw [forall_mem_concat]
    exact ⟨fun b hb => Nat.lt_succ_of_lt (h.fresh b hb), by omega⟩
  nodup := by
    refine nodup_concat h.nodup fun b hb => ?_
    have := h.fresh b hb
    omega
  inUse := by
    rw [forall_mem_concat]
    exact ⟨h.inUse, fun hne => absurd hcid hne⟩
  listening := by
    rw [forall_mem_concat]
    exact ⟨h.listening, fun _ => hcid⟩
  single := by
    intro b hb b' hb' hne heq haddr
    rw [mem_append, mem_singleton] at hb hb'
    rcases hb with hb | rfl
    · rcases hb' with hb' | rfl
      · exact h.single b hb b' hb' hne heq haddr
      · exact absurd (heq.symm.trans hcid) hne
    · exact absurd hcid hne

theorem opened (hcid : l2capCidDynamicMin ≤ cid) : Linked ((addr, cid) :: inUse) nextPtr l :=
  { h with
    dynamic := forall_mem_cons.mpr ⟨hcid, h.dynamic⟩
    inUse := fun c hc hne => mem_cons_of_mem _ (h.inUse c hc hne) }

theorem closed (hno : ∀ c ∈ l, (c.addr, c.localCid) ≠ (addr, cid)) :
    Linked (inUse.filter (· ≠ (addr, cid))) nextPtr l :=
  { h with
    dynamic := fun link hlink => h.dynamic link (mem_of_mem_filter hlink)
    inUse := fun c hc hne => mem_filter.mpr ⟨h.inUse c hc hne, decide_eq_true (hno c hc)⟩ }

theorem assigned {c : ChannelLink} (hcid : l2capCidDynamicMin ≤ c.localCid)
    (hnew : (c.addr, c.localCid) ∉ inUse) (hrole : c.role ≠ .serverListen) :
    Linked ((c.addr, c.localCid) :: inUse) nextPtr
      (Keyed.update (·.ptr) c.ptr (fun _ => c) l) := by
  have hopen : Linked ((c.addr, c.localCid) :: inUse) nextPtr l := h.opened hcid
  -- no channel had the cid on this link before
  have hnone : ∀ b ∈ l, b.addr = c.addr → b.localCid ≠ c.localCid := by
    intro b hb ha hl
    have hmem := h.inUse b hb (by rw [hl]; unfold l2capCidDynamicMin at hcid; omega)
    rw [ha, hl] at hmem
    exact hnew hmem
  refine ⟨hopen.dynamic, ?_, ?_, ?_, ?_, ?_⟩
  · exact forall_mem_update (fun b hb hk => hk ▸ h.fresh b hb) h.fresh
  · rw [map_update fun _ _ hk => hk.symm]
    exact h.nodup
  · exact forall_mem_update (fun _ _ _ _ => mem_cons_self) hopen.inUse
  · exact forall_mem_update (fun _ _ _ hlisten => absurd hlisten hrole) h.listening
  · intro b hb b' hb' hne hsame hlink
    rcases mem_update.mp hb with ⟨-, -, -, rfl⟩ | ⟨hb, -⟩
    · rcases mem_update.mp hb' with ⟨-, -, -, rfl⟩ | ⟨hb', -⟩
      · rfl
      · exact absurd hsame (hnone b' hb' hlink)
    · rcases mem_update.mp hb' with ⟨-, -, -, rfl⟩ | ⟨hb', -⟩
      · exact absurd hsame.symm (hnone b hb hlink.symm)
      · exact h.single b hb b' hb' hne hsame hlink

end

end Linked

/-! ## The receive path keeps the cid, and whether the channel is connected -/

def L2capChannel.link (ch : L2capChannel) : Nat × Bool := (ch.localCid, ch.channelConnected)

section RxKeepsLink

variable {env : L2capEnv} {ch : L2capChannel}

theorem l2capAbortChannel_link : (l2capAbortChannel ch).link = ch.link := by
  unfold l2capAbortChannel
  split <;> dsimp only <;> split <;> rfl

theorem l2capRefillCredits_link : (l2capRefillCredits env ch).link = ch.link := by
  simp only [l2capRefillCredits, l2capAddIncomingCredits]
  (repeat' split) <;> rfl

theorem handlePacketReceived_link {packet : L2capPkt} :
    (handlePacketReceived env ch packet).link = ch.link := by
  have htake : (l2capTakeIn env ch packet).link = ch.link := l2capRefillCredits_link
  simp only [handlePacketReceived, l2capReassemble, l2capSendSduToApp]
  (repeat' split) <;> first
    | rfl
    | exact l2capAbortChannel_link
    | exact htake
    | exact l2capAbortChannel_link.trans htake

theorem l2capSendSduToAppCb_link {statusOk : Bool} :
    (l2capSendSduToAppCb env statusOk ch).link = ch.link := by
  unfold l2capSendSduToAppCb
  (repeat' split) <;> first | rfl | exact l2capAbortChannel_link | exact l2capRefillCredits_link

theorem l2capAbortChannel_localCid : (l2capAbortChannel ch).localCid = ch.localCid :=
  congrArg Prod.fst l2capAbortChannel_link

theorem handleChannelConneted_localCid {readStop readStart : Bool}
    {incoming : L2capEndpointParam} :
    (handleChannelConneted readStop readStart ch incoming).localCid = ch.localCid := by
  unfold handleChannelConneted
  (repeat' split) <;> first | rfl | exact l2capAbortChannel_localCid

end RxKeepsLink

/-! ## The operations of the manager keep the invariant -/

namespace L2capManager

variable {m m' : L2capManager} {inUse : List (BtAddress × Nat)} {channel : ManagedChannel}

def links (m : L2capManager) : List ChannelLink := m.channels.map (·.link)

def LinkedTo (m : L2capManager) (inUse : List (BtAddress × Nat)) : Prop :=
  Linked inUse m.nextPtr m.links

variable {app cid p pipe psm : Nat} {f : ManagedChannel → ManagedChannel} {role : L2capRole}
  {env : L2capRequestEnv} {param : L2capChannelParam}

theorem links_removeChannel : (m.removeChannel channel).links.Sublist m.links := by
  rw [links, removeChannel_channels]
  exact filter_sublist.map _

section

variable (h : m.LinkedTo inUse)
include h

theorem LinkedTo.removeChannel : (m.removeChannel channel).LinkedTo inUse := by
  rw [LinkedTo, removeChannel_nextPtr]
  exact h.sublist links_removeChannel

theorem LinkedTo.allocFreeChannel_some {calloc : Bool} {addr : Option BtAddress}
    (ha : m.allocFreeChannel calloc app addr psm role = (some channel, m')) :
    m'.LinkedTo inUse := by
  obtain ⟨id, ids, rfl, rfl⟩ := L2capManager.allocFreeChannel_some ha
  rw [LinkedTo, links, map_append, map_singleton]
  exact h.concat rfl rfl

theorem LinkedTo.allocFreeChannel_none {calloc : Bool} {addr : Option BtAddress}
    (ha : m.allocFreeChannel calloc app addr psm role = (none, m')) :
    m'.LinkedTo inUse := by
  obtain ⟨ids, rfl⟩ := L2capManager.allocFreeChannel_none ha
  exact h

theorem LinkedTo.write (hf : ∀ ch, (f ch).link = ch.link) : (m.write p f).LinkedTo inUse := by
  have hlinks : (m.write p f).links = m.links := map_update fun ch _ _ => hf ch
  rw [LinkedTo, hlinks]
  exact h

theorem LinkedTo.runRx {f : L2capChannel → L2capChannel}
    (hf : ∀ ch, (f ch).localCid = ch.localCid) : (m.runRx channel f).LinkedTo inUse := by
  refine LinkedTo.write h fun ch => ?_
  rw [link, link, hf]

theorem LinkedTo.prepareDataPath : (m.prepareDataPath p).LinkedTo inUse := h.write fun _ => rfl

theorem LinkedTo.openChannel {addr : Option BtAddress} {request : L2capCall} :
    (m.openChannel env app addr psm role request).2.LinkedTo inUse := by
  rw [L2capManager.openChannel]
  split
  next ha => exact h.allocFreeChannel_none ha
  next ha =>
    have hnew := h.allocFreeChannel_some ha
    split
    · exact hnew.removeChannel
    split
    · exact LinkedTo.removeChannel hnew.prepareDataPath
    · exact hnew.prepareDataPath

end

theorem takePsm_spec (m : L2capManager) (psm : Nat) :
    ∃ psmMap, (m.takePsm psm).2 = { m with psmMap } := by
  rw [takePsm, allocLeDynamicPsm]
  (repeat' split) <;> exact ⟨_, rfl⟩

section

variable (h : m.LinkedTo inUse)
include h

theorem LinkedTo.listen {option : L2capConfigOption} :
    (m.l2capListenChannel env app option psm).2.LinkedTo inUse := by
  obtain ⟨psmMap, htake⟩ := takePsm_spec m psm
  simp only [l2capListenChannel]
  repeat' split
  · exact h
  · exact h
  · exact h
  all_goals
    next heq =>
      rw [heq] at htake
      subst htake
      first | exact h | exact LinkedTo.openChannel (m := { m with psmMap }) h

theorem LinkedTo.cleanupApp : (m.l2capCleanupApp app).LinkedTo inUse := by
  rw [l2capCleanupApp]
  -- the walk is over the list as it was when the walk began
  generalize m.channels = channels
  induction channels generalizing m with
  | nil => exact h
  | cons ch channels ih =>
    refine ih ?_
    rw [cleanupChannel]
    repeat' split
    · exact LinkedTo.removeChannel h
    · exact h.removeChannel
    · exact h

theorem LinkedTo.quiet (e : L2capEvent) (he : ∀ addr e', e ≠ .stack addr e') :
    (m.step e).LinkedTo inUse := by
  cases e with
  | listen env app option psm => exact h.listen
  | pipeRead pipe buf =>
    simp only [L2capManager.step, l2capReceiveDataFromApp]
    repeat' split
    · exact h
    · exact LinkedTo.removeChannel h
    · exact h.removeChannel
    · exact h
    · exact h
    all_goals exact LinkedTo.write h fun ch => by rw [link, link]
  | stack addr e' => exact absurd rfl (he addr e')
  | _ =>
    simp only [L2capManager.step, l2capConnectChannel, l2capDisconnectChannel,
      l2capStopListenChannel, l2capUnregisterCallbacks, proxyConnectedCb, sendSduToAppCb]
    repeat' split
    all_goals first
      | exact h
      | exact h.openChannel
      | exact h.removeChannel
      | exact h.cleanupApp
      | exact h.write fun _ => rfl
      | exact h.runRx fun _ => congrArg Prod.fst l2capSendSduToAppCb_link

end

/-! ### Events of the stack -/

theorem LinkedTo.mem_links (hch : channel ∈ m.channels) : channel.link ∈ m.links :=
  mem_map_of_mem hch

theorem LinkedTo.eq_of_ptr (h : m.LinkedTo inUse) {ch : ManagedChannel} (hch : ch ∈ m.channels)
    (hchannel : channel ∈ m.channels) (hptr : ch.ptr = channel.ptr) : ch = channel := by
  have hn : (m.channels.map (·.ptr)).Nodup := by
    have hlinks := h.nodup
    rwa [links, map_map] at hlinks
  exact inj_on_of_nodup_map hn hch hchannel hptr

theorem LinkedTo.addr_of_ptr (h : m.LinkedTo inUse) (hmem : channel ∈ m.channels)
    {addr : BtAddress} (haddr : channel.addr = addr) :
    ∀ ch ∈ m.channels, ch.ptr = channel.ptr → ch.addr = addr := by
  intro ch hch hptr
  rw [h.eq_of_ptr hch hmem hptr, haddr]

theorem LinkedTo.ptr_ne_next (h : m.LinkedTo inUse) (hmem : channel ∈ m.channels) :
    channel.ptr ≠ m.nextPtr :=
  Nat.ne_of_lt (h.fresh _ (LinkedTo.mem_links hmem))

theorem LinkedTo.assign (h : m.LinkedTo inUse) (hchannel : channel ∈ m.channels)
    (hptr : (f channel).ptr = channel.ptr) (hcid : l2capCidDynamicMin ≤ (f channel).rx.localCid)
    (hnew : ((f channel).addr, (f channel).rx.localCid) ∉ inUse)
    (hrole : (f channel).role ≠ .serverListen) :
    (m.write channel.ptr f).LinkedTo (((f channel).addr, (f channel).rx.localCid) :: inUse) := by
  have hlinks : (m.write channel.ptr f).links
      = Keyed.update (·.ptr) channel.ptr (fun _ => (f channel).link) m.links :=
    map_update_comm (fun _ => rfl) fun ch hch hp => by rw [h.eq_of_ptr hch hchannel hp]
  rw [LinkedTo, hlinks, ← hptr]
  exact Linked.assigned (c := (f channel).link) h hcid hnew hrole

theorem findL2capChannelByConnParam_client {addr : BtAddress} {isConnected : Bool}
    (h : m.findL2capChannelByConnParam (some addr) psm .client isConnected = some channel) :
    channel ∈ m.channels ∧ channel.role = .client ∧ channel.addr = addr := by
  refine ⟨mem_of_find?_eq_some h, ?_⟩
  have hp := find?_some h
  rw [decide_eq_true_eq] at hp
  exact ⟨hp.2.1, hp.2.2.2⟩

theorem findL2capChannelByConnParam_listen {addr : Option BtAddress} {isConnected : Bool}
    (h : m.findL2capChannelByConnParam addr psm .serverListen isConnected = some channel) :
    channel ∈ m.channels ∧ channel.psm = psm ∧ channel.role = .serverListen ∧
      channel.rx.channelConnected = isConnected := by
  refine ⟨mem_of_find?_eq_some h, ?_⟩
  have hp := find?_some h
  rwa [decide_eq_true_eq] at hp

theorem findL2capChannelByCid_spec (h : m.findL2capChannelByCid cid = some channel) :
    channel ∈ m.channels ∧ channel.rx.localCid = cid :=
  mem_of_find? h

theorem LinkedTo.handleCidAllocated (h : m.LinkedTo inUse) {addr : BtAddress}
    (hcid : l2capCidDynamicMin ≤ cid) (hnew : (addr, cid) ∉ inUse) :
    (m.handleCidAllocated addr psm cid).LinkedTo ((addr, cid) :: inUse) := by
  rw [L2capManager.handleCidAllocated]
  split
  · exact h.opened hcid
  next channel hfind =>
    obtain ⟨hmem, hrole, rfl⟩ := findL2capChannelByConnParam_client hfind
    refine h.assign hmem rfl hcid hnew ?_
    rw [hrole]
    exact nofun

section

variable (h : m.LinkedTo inUse)
include h

theorem LinkedTo.finishConnect {env : L2capConnectEnv} {listenId : Option Nat} :
    (m.finishConnect env channel param listenId).LinkedTo inUse := by
  have hconnect : ((m.write channel.ptr (takeOutgoing param.outgoing)).runRx channel
      (handleChannelConneted env.readStop env.readStart · param.incoming)).LinkedTo inUse :=
    LinkedTo.runRx (h.write (f := takeOutgoing param.outgoing) fun _ => rfl)
      fun _ => handleChannelConneted_localCid
  rw [L2capManager.finishConnect]
  split
  · exact hconnect
  · exact hconnect

theorem LinkedTo.opened {addr : BtAddress} {env : L2capConnectEnv}
    (hcid : l2capCidDynamicMin ≤ param.localCid) :
    m.LinkedTo (stackChannels inUse addr (.connected env param)) := by
  rw [stackChannels]
  split
  · exact h
  · exact Linked.opened h hcid

theorem LinkedTo.acceptChannel (hmem : channel ∈ m.channels) {addr : BtAddress}
    {env : L2capConnectEnv} (hcid : l2capCidDynamicMin ≤ param.localCid)
    (hnew : (addr, param.localCid) ∉ inUse) :
    (m.acceptChannel env channel addr param).LinkedTo ((addr, param.localCid) :: inUse) := by
  have haccept : (m.write channel.ptr (acceptPeer addr param.localCid)).LinkedTo
      ((addr, param.localCid) :: inUse) := h.assign hmem rfl hcid hnew nofun
  rw [L2capManager.acceptChannel]
  split
  next ha => exact haccept.allocFreeChannel_none ha
  next ha =>
    have halloc := haccept.allocFreeChannel_some ha
    split
    · exact halloc.removeChannel
    · exact halloc.prepareDataPath.finishConnect

theorem LinkedTo.handleConneted {addr : BtAddress} {env : L2capConnectEnv}
    (hspec : CoreSpec inUse addr (.connected env param)) :
    (m.handleConneted env addr param).LinkedTo
      (stackChannels inUse addr (.connected env param)) := by
  obtain ⟨hcid, hnew⟩ := hspec
  have hopened : m.LinkedTo (stackChannels inUse addr (.connected env param)) := h.opened hcid
  rw [L2capManager.handleConneted]
  split
  · split
    · exact hopened
    · exact hopened
  next channel hfind =>
    split
    · exact hopened.runRx fun _ => l2capAbortChannel_localCid
    split
    · exact hopened.finishConnect
    next hclient =>
      have hnotin := hnew.resolve_left hclient
      rw [if_neg hclient] at hfind
      rw [stackChannels, if_neg hnotin]
      exact h.acceptChannel (findL2capChannelByConnParam_listen hfind).1 hcid hnotin

theorem LinkedTo.handleDisconneted {addr : BtAddress} {reason : Nat}
    (hspec : (addr, cid) ∈ inUse)
    (hapart : ∀ ch ∈ m.channels, ch.rx.localCid = cid → ch.addr = addr) :
    (m.handleDisconneted cid reason).LinkedTo (inUse.filter (· ≠ (addr, cid))) := by
  have hne : cid ≠ 0 := by
    have := h.dynamic _ hspec
    unfold l2capCidDynamicMin at this
    omega
  rw [L2capManager.handleDisconneted]
  split
  next hnone =>
    refine Linked.closed h fun c hc heq => ?_
    obtain ⟨ch, hch, rfl⟩ := mem_map.mp hc
    exact find?_eq_none hnone hch (Prod.mk.inj heq).2
  next channel hfind =>
    obtain ⟨hmem, hcid⟩ := findL2capChannelByCid_spec hfind
    refine Linked.closed (LinkedTo.removeChannel (m := m.notify _) h) fun c hc heq => ?_
    rw [links, removeChannel_channels] at hc
    obtain ⟨ch, hch, rfl⟩ := mem_map.mp hc
    obtain ⟨hch, hptr⟩ := mem_remove.mp hch
    obtain ⟨haddr, hlocal⟩ := Prod.mk.inj heq
    have hsame := h.single _ (LinkedTo.mem_links hmem) _ (LinkedTo.mem_links hch)
      (hcid.trans_ne hne) (hlocal.trans hcid.symm)
      (haddr.trans (hapart channel hmem hcid).symm)
    exact hptr (congrArg ChannelLink.ptr hsame)

end

end L2capManager

/-! ## What an event leaves alone -/

/-- From `m` to `m'` only the channel at `p` is touched; channels as they were not
before are the peer's or listen; and the applications are told about the peer only. -/
structure OnlyAt (addr : BtAddress) (p : Nat) (m m' : L2capManager) : Prop where
  kept : ∀ ch ∈ m.channels, ch.ptr ≠ p → ch ∈ m'.channels
  result : ∀ ch ∈ m'.channels, ch ∈ m.channels ∨ ch.addr = addr ∨ ch.role = .serverListen
  told : ∃ new, m'.notified = m.notified ++ new ∧ ∀ n ∈ new, n.addr = addr

namespace OnlyAt

variable {m m' m'' : L2capManager} {addr : BtAddress} {p : Nat} {channel : ManagedChannel}

theorem trans (h : OnlyAt addr p m m') (h' : OnlyAt addr p m' m'') : OnlyAt addr p m m'' where
  kept ch hch hne := h'.kept ch (h.kept ch hch hne) hne
  result ch hch := (h'.result ch hch).elim (h.result ch) .inr
  told := by
    obtain ⟨new, heq, hnew⟩ := h.told
    obtain ⟨new', heq', hnew'⟩ := h'.told
    refine ⟨new ++ new', by rw [heq', heq, append_assoc], ?_⟩
    rw [forall_mem_append]
    exact ⟨hnew, hnew'⟩

theorem told_none (h : m'.notified = m.notified) :
    ∃ new, m'.notified = m.notified ++ new ∧ ∀ n ∈ new, L2capNotification.addr n = addr :=
  ⟨[], by rw [h, append_nil], forall_mem_nil _⟩

theorem of_channels_eq (h : m'.channels = m.channels) (hn : m'.notified = m.notified) :
    OnlyAt addr p m m' where
  kept _ hch _ := h ▸ hch
  result _ hch := .inl (h ▸ hch)
  told := told_none hn

theorem write {f : ManagedChannel → ManagedChannel}
    (hf : ∀ ch ∈ m.channels, ch.ptr = p → (f ch).addr = addr ∨ (f ch).role = .serverListen) :
    OnlyAt addr p m (m.write p f) where
  kept ch hch hne := mem_update.mpr (.inr ⟨hch, hne⟩)
  result ch hch := by
    rcases mem_update.mp hch with ⟨b, hb, hk, rfl⟩ | ⟨hch, -⟩
    · exact .inr (hf b hb hk)
    · exact .inl hch
  told := told_none rfl

theorem runRx {f : L2capChannel → L2capChannel}
    (hch : ∀ ch ∈ m.channels, ch.ptr = channel.ptr → ch.addr = addr ∨ ch.role = .serverListen) :
    OnlyAt addr channel.ptr m (m.runRx channel f) :=
  (write hch : OnlyAt addr channel.ptr m (m.write channel.ptr fun ch =>
    { ch with rx := f ch.rx, reading := if (f ch.rx).pipe then ch.reading else none }))
    |>.trans (of_channels_eq rfl rfl)

theorem removeChannel : OnlyAt addr channel.ptr m (m.removeChannel channel) where
  kept ch hch hne := by
    rw [removeChannel_channels]
    exact mem_remove.mpr ⟨hch, hne⟩
  result ch hch := by
    rw [removeChannel_channels] at hch
    exact .inl (mem_remove.mp hch).1
  told := told_none removeChannel_notified

theorem notify {n : L2capNotification} (hn : n.addr = addr) : OnlyAt addr p m (m.notify n) where
  kept _ hch _ := hch
  result _ hch := .inl hch
  told := ⟨[n], rfl, forall_mem_singleton.mpr hn⟩

theorem concat (hrole : channel.role = .serverListen) (h : m'.channels = m.channels ++ [channel])
    (hn : m'.notified = m.notified) :
    OnlyAt addr p m m' where
  kept ch hch _ := by
    rw [h]
    exact mem_append_left _ hch
  result ch hch := by
    rw [h, mem_append, mem_singleton] at hch
    rcases hch with hch | rfl
    · exact .inl hch
    · exact .inr (.inr hrole)
  told := told_none hn

theorem finishConnect (channel : ManagedChannel) {env : L2capConnectEnv}
    {param : L2capChannelParam} {listenId : Option Nat} (haddr : channel.addr = addr)
    (hch : ∀ ch ∈ m.channels, ch.ptr = channel.ptr → ch.addr = addr) :
    OnlyAt addr channel.ptr m (m.finishConnect env channel param listenId) := by
  have hconnect : OnlyAt addr channel.ptr m
      ((m.write channel.ptr (takeOutgoing param.outgoing)).runRx channel
        (handleChannelConneted env.readStop env.readStart · param.incoming)) := by
    refine (write (f := takeOutgoing param.outgoing)
      fun ch hmem hptr => .inl (hch ch hmem hptr)).trans ?_
    exact runRx fun ch hmem hptr => .inl <|
      forall_mem_update (P := fun ch => ch.ptr = channel.ptr → ch.addr = addr)
        (fun b hb hk _ => hch b hb hk) hch ch hmem hptr
  rw [L2capManager.finishConnect]
  split
  · exact hconnect.trans (notify haddr)
  · exact hconnect

theorem acceptChannel {inUse : List (BtAddress × Nat)} (h : m.LinkedTo inUse)
    {env : L2capConnectEnv} {param : L2capChannelParam} (hmem : channel ∈ m.channels) :
    OnlyAt addr channel.ptr m (m.acceptChannel env channel addr param) := by
  have haccept : OnlyAt addr channel.ptr m (m.write channel.ptr (acceptPeer addr param.localCid)) :=
    write fun _ _ _ => .inl rfl
  -- from here on, the channel at the pointer is the peer's
  have hpeer : ∀ ch ∈ (m.write channel.ptr (acceptPeer addr param.localCid)).channels,
      ch.ptr = channel.ptr → ch.addr = addr := by
    intro ch hch hptr
    rcases mem_update.mp hch with ⟨b, hb, hk, rfl⟩ | ⟨-, hne⟩
    · rfl
    · exact absurd hptr hne
  have hfresh : ∀ ch ∈ (m.write channel.ptr (acceptPeer addr param.localCid)).channels,
      ch.ptr ≠ m.nextPtr :=
    forall_mem_update (fun _ hb _ => (h.ptr_ne_next hb :)) fun _ hch => h.ptr_ne_next hch
  refine haccept.trans ?_
  rw [L2capManager.acceptChannel]
  split
  next ha =>
    obtain ⟨ids, rfl⟩ := L2capManager.allocFreeChannel_none ha
    exact of_channels_eq rfl rfl
  next listen m₁ ha =>
    obtain ⟨id, ids, hlisten, hm₁⟩ := L2capManager.allocFreeChannel_some ha
    have hptr : listen.ptr = m.nextPtr := by rw [hlisten]; rfl
    split
    · refine of_channels_eq ?_ (by rw [removeChannel_notified, hm₁])
      rw [removeChannel_channels, hm₁, hptr]
      exact remove_concat hfresh hptr
    · have hprepared : (m₁.prepareDataPath listen.ptr).channels
          = (m.write channel.ptr (acceptPeer addr param.localCid)).channels
            ++ [openPipe listen] := by
        rw [hm₁, hptr]
        exact update_concat hfresh hptr
      have hlistening : OnlyAt addr channel.ptr
          (m.write channel.ptr (acceptPeer addr param.localCid))
          (m₁.prepareDataPath listen.ptr) :=
        concat (by rw [hlisten]; rfl) hprepared (by rw [hm₁]; rfl)
      refine hlistening.trans (finishConnect (acceptPeer addr param.localCid channel) rfl ?_)
      intro ch hch hat
      rcases mem_append.mp (hprepared ▸ hch) with hch | hch
      · exact hpeer ch hch hat
      · rw [mem_singleton.mp hch] at hat
        exact absurd (hat.symm.trans hptr) (h.ptr_ne_next hmem :)

end OnlyAt

variable {e : L2capStackEvent}

theorem Isolated.of_onlyAt {m m' : L2capManager} {inUse : List (BtAddress × Nat)}
    (hlinked : m.LinkedTo inUse) {addr : BtAddress} {channel : ManagedChannel}
    (hmem : channel ∈ m.channels)
    (hwho : channel.role ≠ .serverListen ∧ channel.addr = addr ∨ channel.listensFor e = true)
    (h : OnlyAt addr channel.ptr m m') : Isolated m m' addr e where
  changed ch hch hnot := by
    have hptr : ch.ptr = channel.ptr := by
      by_contra hne
      exact hnot (h.kept ch hch hne)
    rw [hlinked.eq_of_ptr hch hmem hptr]
    exact hwho
  result ch hch hnot := (h.result ch hch).resolve_left hnot
  told := h.told

theorem Isolated.of_channels_eq {m m' : L2capManager} {addr : BtAddress}
    (h : m'.channels = m.channels) (hn : m'.notified = m.notified) : Isolated m m' addr e where
  changed _ hch hnot := absurd (h ▸ hch) hnot
  result _ hch hnot := absurd (h ▸ hch) hnot
  told := OnlyAt.told_none hn

namespace L2capManager

variable {m m' : L2capManager} {inUse : List (BtAddress × Nat)} {addr : BtAddress}

theorem isolated_of_cid (h : m.LinkedTo inUse)
    (hapart : ∀ ch ∈ m.channels, ∀ link ∈ inUse, ch.rx.localCid = link.2 → ch.addr = link.1)
    {cid : Nat} (hspec : (addr, cid) ∈ inUse) {channel : ManagedChannel}
    (hfind : m.findL2capChannelByCid cid = some channel)
    (honly : (∀ ch ∈ m.channels, ch.ptr = channel.ptr → ch.addr = addr) →
      OnlyAt addr channel.ptr m m') : Isolated m m' addr e := by
  obtain ⟨hmem, hcid⟩ := findL2capChannelByCid_spec hfind
  have haddr := hapart channel hmem _ hspec hcid
  refine .of_onlyAt h hmem (.inl ⟨fun hlisten => ?_, haddr⟩) (honly (h.addr_of_ptr hmem haddr))
  have hzero : channel.rx.localCid = 0 := h.listening _ (LinkedTo.mem_links hmem) hlisten
  have hdynamic := h.dynamic _ hspec
  rw [← hcid, hzero] at hdynamic
  exact absurd hdynamic (Nat.not_succ_le_zero 63)

theorem handleConneted_isolated (h : m.LinkedTo inUse) {env : L2capConnectEnv}
    {param : L2capChannelParam} :
    Isolated m (m.handleConneted env addr param) addr (.connected env param) := by
  rw [handleConneted]
  split
  · split
    · exact .of_channels_eq rfl rfl
    · exact .of_channels_eq rfl rfl
  next channel hfind =>
    by_cases hclient : param.isClient = true
    · rw [if_pos hclient] at hfind
      obtain ⟨hmem, hrole, haddr⟩ := findL2capChannelByConnParam_client hfind
      have hwho : channel.role ≠ .serverListen := by
        rw [hrole]
        exact nofun
      have hone := h.addr_of_ptr hmem haddr
      refine .of_onlyAt h hmem (.inl ⟨hwho, haddr⟩) ?_
      split
      · exact OnlyAt.runRx fun ch hch hptr => .inl (hone ch hch hptr)
      · exact OnlyAt.finishConnect channel haddr hone
    · rw [if_neg hclient] at hfind
      obtain ⟨hmem, hpsm, hrole, hconnected⟩ := findL2capChannelByConnParam_listen hfind
      have hwho : channel.listensFor (.connected env param) = true := by
        simp only [listensFor, hclient, hrole, hconnected, hpsm, Bool.not_false,
          decide_true, Bool.and_true]
      refine .of_onlyAt h hmem (.inr hwho) ?_
      split
      · refine OnlyAt.runRx fun ch hch hptr => .inr ?_
        rw [h.eq_of_ptr hch hmem hptr, hrole]
      · exact OnlyAt.acceptChannel h hmem

theorem handleL2capEvent_isolated (h : m.LinkedTo inUse)
    (hapart : ∀ ch ∈ m.channels, ∀ link ∈ inUse, ch.rx.localCid = link.2 → ch.addr = link.1)
    (hspec : CoreSpec inUse addr e) : Isolated m (m.handleL2capEvent addr e) addr e := by
  cases e with
  | connected env param => exact handleConneted_isolated h
  | cidAllocated psm cid =>
    rw [handleL2capEvent, handleCidAllocated]
    split
    · exact .of_channels_eq rfl rfl
    next channel hfind =>
      obtain ⟨hmem, hrole, haddr⟩ := findL2capChannelByConnParam_client hfind
      refine .of_onlyAt h hmem (.inl ⟨by rw [hrole]; exact nofun, haddr⟩) ?_
      exact OnlyAt.write fun ch hch hptr => .inl (h.addr_of_ptr hmem haddr ch hch hptr)
  | disconnected cid reason =>
    rw [handleL2capEvent, handleDisconneted]
    split
    · exact .of_channels_eq rfl rfl
    next channel hfind =>
      refine isolated_of_cid h hapart hspec hfind fun hpeer => OnlyAt.trans
        (OnlyAt.notify (n := .disconnected channel.app channel.addr channel.id reason) ?_)
        OnlyAt.removeChannel
      exact hpeer channel (findL2capChannelByCid_spec hfind).1 rfl
  | _ =>
    simp only [handleL2capEvent, handlePacket, handlePacketSent]
    repeat' split
    all_goals first
      | exact .of_channels_eq rfl rfl
      | next hfind =>
        exact isolated_of_cid h hapart hspec hfind fun hpeer =>
          OnlyAt.runRx fun ch hch hptr => .inl (hpeer ch hch hptr)
      | next hfind =>
        exact isolated_of_cid h hapart hspec hfind fun hpeer =>
          OnlyAt.write fun ch hch hptr => .inl (hpeer ch hch hptr)

end L2capManager

namespace L2capLinks

open L2capManager

variable {s : L2capLinks}

/-- **Step lemma.** As long as the cids are apart, every event keeps the invariant. -/
theorem linkedTo_step (h : s.manager.LinkedTo s.inUse) (hapart : s.CidsApart) {e : L2capEvent}
    (hspec : s.Conforms e) :
    (s.step e).manager.LinkedTo (s.step e).inUse := by
  cases e with
  | stack addr e =>
    cases e with
    | cidAllocated psm cid => exact h.handleCidAllocated hspec.1 hspec.2
    | connected env param => exact h.handleConneted hspec
    | disconnected cid reason =>
      exact h.handleDisconneted hspec fun ch hch hcid => hapart ch hch _ hspec hcid
    | _ =>
      simp only [step, L2capManager.step, handleL2capEvent, handlePacket, handlePacketSent]
      repeat' split
      all_goals first
        | exact h
        | exact h.runRx fun _ => congrArg Prod.fst handlePacketReceived_link
        | exact h.write fun _ => rfl
  | _ => exact h.quiet _ nofun

/-- The events of each peer stay with its channels. -/
def StaysWithPeer (s : L2capLinks) : Prop :=
  ∀ addr e, CoreSpec s.inUse addr e → Isolated s.manager (s.manager.handleL2capEvent addr e) addr e

theorem StaysWithPeer.addr_of_find (h : s.StaysWithPeer) (hlinked : s.manager.LinkedTo s.inUse)
    {addr : BtAddress} {cid : Nat} (hspec : (addr, cid) ∈ s.inUse) {channel : ManagedChannel}
    (hfind : s.manager.findL2capChannelByCid cid = some channel) : channel.addr = addr := by
  obtain ⟨hmem, -⟩ := findL2capChannelByCid_spec hfind
  have hisolated := h addr (.packetSent true cid) hspec
  rw [handleL2capEvent, handlePacketSent, hfind] at hisolated
  have hgone : channel ∉ (s.manager.write channel.ptr fun ch =>
      { ch with
        reading := if ch.rx.pipe ∧ ch.txQuota = 0 ∧ true then some ch.txMtu else ch.reading
        txQuota := (ch.txQuota + 1) % 65536 }).channels := by
    intro hin
    rcases mem_update.mp hin with ⟨b, hb, hk, heq⟩ | ⟨-, hne⟩
    · rw [hlinked.eq_of_ptr hb hmem hk] at heq
      have hquota := congrArg txQuota heq
      dsimp only at hquota
      omega
    · exact hne rfl
  rcases hisolated.changed channel hmem hgone with ⟨-, haddr⟩ | hlistens
  · exact haddr
  · cases hlistens

theorem staysWithPeer_iff (h : s.manager.LinkedTo s.inUse) : s.StaysWithPeer ↔ s.CidsApart := by
  constructor
  · rintro hstays ch hch ⟨addr, cid⟩ hlink (hcid : ch.rx.localCid = cid)
    -- the first channel with the cid has both addresses
    have hown : (ch.addr, cid) ∈ s.inUse := by
      have hne : ch.rx.localCid ≠ 0 := by
        have hdynamic := h.dynamic _ hlink
        rw [hcid]
        exact Nat.ne_of_gt (Nat.lt_of_lt_of_le (Nat.zero_lt_succ 63) hdynamic)
      rw [← hcid]
      exact h.inUse _ (LinkedTo.mem_links hch) hne
    cases hfind : s.manager.findL2capChannelByCid cid with
    | none =>
      have hno := find?_eq_none hfind hch
      exact absurd hcid hno
    | some channel =>
      exact (hstays.addr_of_find h hown hfind).symm.trans (hstays.addr_of_find h hlink hfind)
  · exact fun hapart addr e hspec => handleL2capEvent_isolated h hapart hspec

/-- **Isolation of links.** If the stack keeps to the Core specification, every event stays with
the channels of its peer exactly as long as no channel has a local cid that is open on another
link. -/
theorem stack_events_isolated_iff {es : List L2capEvent}
    (hspec : Guarded step Conforms init es) :
    (∀ s ∈ visited step init es, s.StaysWithPeer) ↔ ∀ s ∈ visited step init es, s.CidsApart := by
  refine hspec.forall_visited_congr (fun s h => staysWithPeer_iff h)
    (fun s e h hapart hconf => linkedTo_step h hapart hconf) ?_
  exact ⟨forall_mem_nil _, forall_mem_nil _, nodup_nil, forall_mem_nil _,
    forall_mem_nil _, nofun⟩

def twoPeers (cid cid' : Nat) : List L2capEvent :=
  let option : L2capConfigOption := { transport := .ble, mtu := 64, leMps := 32, initCredits := 4 }
  let env : L2capRequestEnv := { leEnabled := true, calloc := true, pipeOpen := true, sal := true }
  let connectEnv : L2capConnectEnv :=
    { calloc := true, pipeOpen := true, readStop := true, readStart := true }
  let endpoint : L2capEndpointParam := { mtu := 64, leMps := 32, credits := 4 }
  let param (cid : Nat) : L2capChannelParam :=
    { isClient := true, localCid := cid, psm := 0x80, incoming := endpoint, outgoing := endpoint }
  [.connect env 1 0xA option 0x80, .connect env 2 0xB option 0x80,
    .pipeConnected true true 0, .pipeConnected true true 1,
    .stack 0xA (.cidAllocated 0x80 cid), .stack 0xB (.cidAllocated 0x80 cid'),
    .stack 0xA (.connected connectEnv (param cid)), .stack 0xB (.connected connectEnv (param cid'))]

theorem distinct_cids_isolated :
    Guarded step Conforms init (twoPeers 0x40 0x41) ∧
      ∀ s ∈ visited step init (twoPeers 0x40 0x41), s.StaysWithPeer := by
  have hspec : Guarded step Conforms init (twoPeers 0x40 0x41) := by decide
  exact ⟨hspec, (stack_events_isolated_iff hspec).mpr (by decide)⟩

/-- A packet of the second peer, whose channel has the number that the first peer's
has on its own link, is delivered to the first peer's application. -/
theorem second_peer_packet_delivered_to_first :
    let s := after step init (twoPeers 0x40 0x40)
    let e : L2capStackEvent :=
      .packetReceived { alloc := true, giveCredits := true, pipeWrite := true } 0x40 [7]
    Guarded step Conforms init (twoPeers 0x40 0x40) ∧ CoreSpec s.inUse 0xB e ∧
      (s.manager.handleL2capEvent 0xB e).channels.map (fun ch => (ch.app, ch.addr, ch.rx.written))
        = [(1, 0xA, [[7]]), (2, 0xB, [])] ∧
      ¬Isolated s.manager (s.manager.handleL2capEvent 0xB e) 0xB e := by
  refine ⟨by decide, by decide, by decide, fun h => ?_⟩
  have hfirst := h.changed ((after step init (twoPeers 0x40 0x40)).manager.channels.head
    (by decide)) (head_mem _) (by decide)
  revert hfirst
  decide

end L2capLinks

end BtFramework
