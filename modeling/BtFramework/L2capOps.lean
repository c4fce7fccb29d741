import BtFramework.L2capIsolation

/-!
# What the handlers of the L2CAP manager do

The handlers differ in when they act, and agree in what they do to the channels, the ids
and the PSMs. `ManagerOp` lists these operations, each with the calls of the id allocator
it makes, and `step_ops` takes every event apart into them. Reserving a PSM and turning a
listening channel into an accepted one are what servers do; every other event gets along
without. `idCalls` are the calls of `index_alloc` and `index_free`, read off the handlers.
-/

namespace BtFramework

open Keyed List
open IndexAllocator (Call)

/-! ## What stays of a channel -/

structure ChannelKey where
  ptr : Nat
  id : Nat
  psm : Nat
  role : L2capRole
  connected : Bool

def ManagedChannel.key (ch : ManagedChannel) : ChannelKey :=
  { ptr := ch.ptr, id := ch.id, psm := ch.psm, role := ch.role
    connected := ch.rx.channelConnected }

def ManagedChannel.owner (ch : ManagedChannel) : Nat × Nat := (ch.ptr, ch.id)

def ChannelKey.owner (k : ChannelKey) : Nat × Nat := (k.ptr, k.id)

def ChannelKey.connect (k : ChannelKey) : ChannelKey := { k with connected := true }

def ChannelKey.accept (k : ChannelKey) : ChannelKey := { k with role := .serverAccept }

theorem handleChannelConneted_channelConnected {ch : L2capChannel} {readStop readStart : Bool}
    {incoming : L2capEndpointParam} :
    (handleChannelConneted readStop readStart ch incoming).channelConnected
      = (ch.channelConnected || (ch.proxyConnected && readStop && readStart)) := by
  unfold handleChannelConneted
  have habort : ∀ ch : L2capChannel,
      (l2capAbortChannel ch).channelConnected = ch.channelConnected := fun _ =>
    congrArg Prod.snd l2capAbortChannel_link
  cases ch.proxyConnected <;> cases readStop <;> cases readStart <;> simp [habort]

namespace L2capManager

variable {m m' m'' : L2capManager} {channel : ManagedChannel}

def keys (m : L2capManager) : List ChannelKey := m.channels.map (·.key)

def owners (m : L2capManager) : List (Nat × Nat) := m.channels.map (·.owner)

theorem keys_map_owner : m.keys.map ChannelKey.owner = m.owners := map_map

structure SameKeys (m m' : L2capManager) : Prop where
  keys : m'.keys = m.keys
  ids : m'.ids = m.ids
  psmMap : m'.psmMap = m.psmMap
  nextPtr : m'.nextPtr = m.nextPtr

theorem SameKeys.refl (m : L2capManager) : SameKeys m m := ⟨rfl, rfl, rfl, rfl⟩

theorem SameKeys.trans (h : SameKeys m m') (h' : SameKeys m' m'') : SameKeys m m'' :=
  ⟨h'.keys.trans h.keys, h'.ids.trans h.ids, h'.psmMap.trans h.psmMap, h'.nextPtr.trans h.nextPtr⟩

theorem SameKeys.owners (h : SameKeys m m') : m'.owners = m.owners := by
  rw [← keys_map_owner, h.keys, keys_map_owner]

theorem sameKeys_call (c : L2capCall) : SameKeys m (m.call c) := ⟨rfl, rfl, rfl, rfl⟩

theorem sameKeys_write {p : Nat} {f : ManagedChannel → ManagedChannel}
    (hf : ∀ ch, (f ch).key = ch.key) : SameKeys m (m.write p f) :=
  ⟨map_update fun ch _ _ => hf ch, rfl, rfl, rfl⟩

theorem sameKeys_runRx {f : L2capChannel → L2capChannel}
    (hf : ∀ ch, (f ch).channelConnected = ch.channelConnected) :
    SameKeys m (m.runRx channel f) := by
  have hwrite : SameKeys m (m.write channel.ptr fun ch =>
      { ch with rx := f ch.rx, reading := if (f ch.rx).pipe then ch.reading else none }) :=
    sameKeys_write fun ch => by rw [ManagedChannel.key, ManagedChannel.key, hf]
  exact ⟨hwrite.keys, rfl, rfl, rfl⟩

theorem sameKeys_prepareDataPath (p : Nat) : SameKeys m (m.prepareDataPath p) :=
  sameKeys_write fun _ => rfl

@[simp] theorem removeChannel_keys :
    (m.removeChannel channel).keys = Keyed.remove (·.ptr) channel.ptr m.keys := by
  rw [keys, removeChannel_channels, keys, Keyed.remove, Keyed.remove, filter_map]
  rfl

@[simp] theorem removeChannel_ids : (m.removeChannel channel).ids = m.ids.indexFree channel.id := by
  obtain ⟨_, _, h⟩ := removeChannel_spec m channel
  rw [h]

theorem mem_keys (h : channel ∈ m.channels) : channel.key ∈ m.keys := mem_map_of_mem h

/-! ## The calls of the id allocator -/

def allocIdCalls (m : L2capManager) (calloc : Bool) (addr : Option BtAddress) (role : L2capRole) :
    List Call :=
  if addr.isSome ∧ role = .serverListen then []
  else
    match m.ids.indexAlloc.1 with
    | none => [.alloc none]
    | some id => if calloc then [.alloc (some id)] else [.alloc (some id), .free id]

def openIdCalls (m : L2capManager) (env : L2capRequestEnv) (app : Nat) (addr : Option BtAddress)
    (psm : Nat) (role : L2capRole) : List Call :=
  m.allocIdCalls env.calloc addr role ++
    match (m.allocFreeChannel env.calloc app addr psm role).1 with
    | none => []
    | some channel => if env.pipeOpen && env.sal then [] else [.free channel.id]

def acceptIdCalls (m : L2capManager) (env : L2capConnectEnv) (channel : ManagedChannel)
    (addr : BtAddress) (param : L2capChannelParam) : List Call :=
  let m := m.write channel.ptr (acceptPeer addr param.localCid)
  m.allocIdCalls env.calloc none .serverListen ++
    match (m.allocFreeChannel env.calloc channel.app none channel.psm .serverListen).1 with
    | none => []
    | some listen => if env.pipeOpen then [] else [.free listen.id]

def releaseIdCalls (channel : Option ManagedChannel) : List Call :=
  channel.toList.map (.free ·.id)

def stackIdCalls (m : L2capManager) (addr : BtAddress) : L2capStackEvent → List Call
  | .connected env param =>
    if param.isClient then []
    else
      match m.findL2capChannelByConnParam (some addr) param.psm .serverListen false with
      | none => []
      | some channel =>
        if channel.rx.proxyConnected then m.acceptIdCalls env channel addr param else []
  | .disconnected cid _ => releaseIdCalls (m.findL2capChannelByCid cid)
  | _ => []

def idCalls (m : L2capManager) : L2capEvent → List Call
  | .listen env app option psm =>
    if !env.leEnabled then []
    else if option.transport ≠ .ble then []
    else if (l2capConfigParam option).isNone then []
    else
      match m.takePsm psm with
      | (none, _) => []
      | (some psm, m) => m.openIdCalls env app none psm .serverListen
  | .connect env app addr option psm =>
    if !env.leEnabled then []
    else if (l2capConfigParam option).isNone then []
    else m.openIdCalls env app (some addr) psm .client
  | .stopListen env app transport psm =>
    if !env.leEnabled then []
    else if transport ≠ .ble then []
    else releaseIdCalls <|
      (m.findL2capChannelByConnParam none psm .serverListen false).filter (·.app = app)
  | .unregister env app =>
    if !env.leEnabled then [] else (m.channels.filter (·.app = app)).map (.free ·.id)
  | .pipeConnected statusOk readStart pipe =>
    if !statusOk || !readStart then releaseIdCalls (m.findL2capChannelByPipe pipe) else []
  | .pipeRead pipe none => releaseIdCalls (m.findL2capChannelByPipe pipe)
  | .stack addr e => m.stackIdCalls addr e
  | _ => []

/-! ## The operations -/

def added (m : L2capManager) (channel : ManagedChannel) (ids : IndexAllocator) : L2capManager :=
  { m with channels := m.channels ++ [channel], ids, nextPtr := m.nextPtr + 1 }

theorem added_keys (ids : IndexAllocator) : (m.added channel ids).keys = m.keys ++ [channel.key] :=
  map_append

theorem added_owners (ids : IndexAllocator) :
    (m.added channel ids).owners = m.owners ++ [channel.owner] :=
  map_append

inductive ManagerOp (server : Bool) (m : L2capManager) : List Call → L2capManager → Prop where
  | quiet {m' : L2capManager} (h : SameKeys m m') : ManagerOp server m [] m'
  | connect {m' : L2capManager} {p : Nat} (hclient : ∀ k ∈ m.keys, k.ptr = p → k.role = .client)
      (hkeys : m'.keys = Keyed.update (·.ptr) p ChannelKey.connect m.keys)
      (hids : m'.ids = m.ids) (hpsm : m'.psmMap = m.psmMap) (hptr : m'.nextPtr = m.nextPtr) :
      ManagerOp server m [] m'
  | starve {ids : IndexAllocator} (h : m.ids.indexAlloc = (none, ids)) :
      ManagerOp server m [.alloc none] { m with ids }
  | giveBack {id : Nat} {ids : IndexAllocator} (h : m.ids.indexAlloc = (some id, ids)) :
      ManagerOp server m [.alloc (some id), .free id] { m with ids := ids.indexFree id }
  | create (channel : ManagedChannel) {ids : IndexAllocator}
      (h : m.ids.indexAlloc = (some channel.id, ids)) (hptr : channel.ptr = m.nextPtr)
      (hrole : channel.role = .client ∨ server = true) :
      ManagerOp server m [.alloc (some channel.id)] (m.added channel ids)
  | remove {channel : ManagedChannel} (hmem : channel.key ∈ m.keys) :
      ManagerOp server m [.free channel.id] (m.removeChannel channel)
  | serve {m' : L2capManager} (hserver : server = true)
      (howners : m'.owners = m.owners)
      (hids : m'.ids = m.ids) (hptr : m'.nextPtr = m.nextPtr) : ManagerOp server m [] m'

inductive OpRun (server : Bool) : L2capManager → List Call → L2capManager → Prop where
  | nil (m : L2capManager) : OpRun server m [] m
  | cons {m m' m'' : L2capManager} {calls calls' : List Call}
      (h : ManagerOp server m calls m') (hrest : OpRun server m' calls' m'') :
      OpRun server m (calls ++ calls') m''

variable {server : Bool} {calls calls' : List Call} {role : L2capRole}

theorem ManagerOp.run (h : ManagerOp server m calls m') : OpRun server m calls m' := by
  have hrun := OpRun.cons h (.nil m')
  rwa [append_nil] at hrun

theorem SameKeys.run (h : SameKeys m m') : OpRun server m [] m' := (ManagerOp.quiet h).run

theorem OpRun.append (h : OpRun server m calls m') (h' : OpRun server m' calls' m'') :
    OpRun server m (calls ++ calls') m'' := by
  induction h with
  | nil m => exact h'
  | cons hop _ ih =>
    rw [append_assoc]
    exact .cons hop (ih h')

theorem SameKeys.run_left (h : SameKeys m m') (h' : OpRun server m' calls m'') :
    OpRun server m calls m'' :=
  .cons (.quiet h) h'

/-! ## Creating a channel -/

theorem allocFreeChannel_ops (m : L2capManager) (calloc : Bool) (app : Nat)
    (addr : Option BtAddress) (psm : Nat) (hrole : role = .client ∨ server = true) :
    OpRun server m (m.allocIdCalls calloc addr role)
        (m.allocFreeChannel calloc app addr psm role).2
      ∧ ∀ channel ∈ (m.allocFreeChannel calloc app addr psm role).1,
          channel.key ∈ (m.allocFreeChannel calloc app addr psm role).2.keys := by
  unfold allocIdCalls allocFreeChannel
  split
  · exact ⟨.nil m, fun _ h => nomatch h⟩
  rcases halloc : m.ids.indexAlloc with ⟨_ | id, ids⟩
  · exact ⟨(ManagerOp.starve halloc).run, fun _ h => nomatch h⟩
  · dsimp only
    split
    · refine ⟨(ManagerOp.create (blankChannel m.nextPtr id app (addr.getD 0) psm role)
        halloc rfl hrole).run, ?_⟩
      rintro channel ⟨⟩
      exact mem_keys (mem_append_right _ (mem_singleton_self _))
    · exact ⟨(ManagerOp.giveBack halloc).run, fun _ h => nomatch h⟩

theorem openPipe_ops (hmem : channel.key ∈ m.keys) (env : L2capRequestEnv) (request : L2capCall) :
    OpRun server m (if env.pipeOpen && env.sal then [] else [.free channel.id])
      (if !env.pipeOpen then (L2capStatus.nomem, m.removeChannel channel)
        else
          let m := (m.prepareDataPath channel.ptr).call request
          if !env.sal then (.stackError, m.removeChannel channel) else (.success, m)).2 := by
  have hprepared := (sameKeys_prepareDataPath (m := m) channel.ptr).trans (sameKeys_call request)
  cases env.pipeOpen with
  | false => exact (ManagerOp.remove hmem).run
  | true =>
    cases env.sal with
    | false => exact hprepared.run_left (ManagerOp.remove (hprepared.keys ▸ hmem)).run
    | true => exact hprepared.run

theorem openChannel_ops {env : L2capRequestEnv} {app psm : Nat} {addr : Option BtAddress}
    {request : L2capCall} (hrole : role = .client ∨ server = true) :
    OpRun server m (m.openIdCalls env app addr psm role)
      (m.openChannel env app addr psm role request).2 := by
  obtain ⟨hops, hkey⟩ := allocFreeChannel_ops m env.calloc app addr psm hrole
  unfold openIdCalls openChannel
  rcases halloc : m.allocFreeChannel env.calloc app addr psm role with ⟨_ | channel, m₁⟩
  · rw [halloc] at hops
    rw [append_nil]
    exact hops
  · rw [halloc] at hops hkey
    exact hops.append (openPipe_ops (hkey channel rfl) env request)

theorem openChannel_channels {env : L2capRequestEnv} {app psm : Nat} {addr : Option BtAddress}
    {request : L2capCall} {result : L2capStatus × L2capManager}
    (hfresh : ∀ ch ∈ m.channels, ch.ptr ≠ m.nextPtr)
    (hresult : m.openChannel env app addr psm role request = result) :
    (result.1 ≠ .success → result.2.channels = m.channels)
      ∧ (result.1 = .success → ∃ id, result.2.channels
          = m.channels ++ [openPipe (blankChannel m.nextPtr id app (addr.getD 0) psm role)]) := by
  subst hresult
  unfold openChannel
  rcases halloc : m.allocFreeChannel env.calloc app addr psm role with ⟨_ | channel, m₁⟩
  · obtain ⟨ids, rfl⟩ := allocFreeChannel_none halloc
    exact ⟨fun _ => rfl, nofun⟩
  obtain ⟨id, ids, rfl, rfl⟩ := allocFreeChannel_some halloc
  dsimp only
  split
  · refine ⟨fun _ => ?_, nofun⟩
    rw [removeChannel_channels]
    exact remove_concat hfresh rfl
  have hopened : Keyed.update (·.ptr) m.nextPtr openPipe
      (m.channels ++ [blankChannel m.nextPtr id app (addr.getD 0) psm role])
        = m.channels ++ [openPipe (blankChannel m.nextPtr id app (addr.getD 0) psm role)] :=
    update_concat hfresh rfl
  split
  · refine ⟨fun _ => ?_, nofun⟩
    rw [removeChannel_channels]
    exact (congrArg _ hopened).trans (remove_concat hfresh rfl)
  · exact ⟨fun hne => absurd rfl hne, fun _ => ⟨id, hopened⟩⟩

/-! ## Removing channels -/

theorem removeChannel_ops (h : channel ∈ m.channels) (hm : SameKeys m m') :
    OpRun server m [.free channel.id] (m'.removeChannel channel) :=
  hm.run_left (ManagerOp.remove (hm.keys ▸ mem_keys h)).run

theorem sameKeys_hangUp (p : Prop) [Decidable p] (cid : Nat) :
    SameKeys m (if p then m.call (.disconnect cid) else m) := by
  split
  · exact sameKeys_call _
  · exact .refl m

theorem cleanup_ops {app : Nat} {l : List ManagedChannel} (hnodup : (l.map (·.ptr)).Nodup)
    (hmem : ∀ ch ∈ l, ch.key ∈ m.keys) :
    OpRun server m ((l.filter (·.app = app)).map (.free ·.id))
      (l.foldl (cleanupChannel app) m) := by
  induction l generalizing m with
  | nil => exact .nil m
  | cons ch l ih =>
    obtain ⟨hnew, hnodup⟩ := nodup_cons.mp hnodup
    have hch := hmem ch (mem_cons_self ..)
    have hrest := fun c hc => hmem c (mem_cons_of_mem _ hc)
    rw [foldl_cons, cleanupChannel]
    by_cases happ : ch.app = app
    · have hhang := sameKeys_hangUp (m := m) (ch.rx.channelConnected = true) ch.rx.localCid
      rw [if_pos happ, filter_cons_of_pos (by simpa using happ), map_cons]
      refine hhang.run_left (OpRun.append (ManagerOp.remove (hhang.keys ▸ hch)).run
        (ih hnodup fun c hc => ?_))
      rw [removeChannel_keys]
      refine mem_remove.mpr ⟨hhang.keys ▸ hrest c hc, fun heq => hnew ?_⟩
      exact mem_map.mpr ⟨c, hc, heq⟩
    · rw [if_neg happ, filter_cons_of_neg (by simpa using happ)]
      exact ih hnodup hrest

/-! ## Connecting -/

structure PtrsUnique (m : L2capManager) : Prop where
  nodup : (m.owners.map (·.1)).Nodup
  fresh : ∀ o ∈ m.owners, o.1 < m.nextPtr

theorem PtrsUnique.nodup_channels (h : m.PtrsUnique) : (m.channels.map (·.ptr)).Nodup := by
  have hnodup := h.nodup
  rwa [owners, map_map] at hnodup

theorem PtrsUnique.eq_of_ptr (h : m.PtrsUnique) {ch : ManagedChannel} (hch : ch ∈ m.channels)
    (hmem : channel ∈ m.channels) (hptr : ch.ptr = channel.ptr) : ch = channel :=
  inj_on_of_nodup_map h.nodup_channels hch hmem hptr

theorem PtrsUnique.ne_nextPtr (h : m.PtrsUnique) : ∀ ch ∈ m.channels, ch.ptr ≠ m.nextPtr :=
  fun ch hch => Nat.ne_of_lt (h.fresh ch.owner (mem_map_of_mem hch))

def connectWrite (env : L2capConnectEnv) (param : L2capChannelParam) (ch : ManagedChannel) :
    ManagedChannel :=
  let rx := handleChannelConneted env.readStop env.readStart ch.rx param.incoming
  { takeOutgoing param.outgoing ch with
    rx, reading := if rx.pipe then (takeOutgoing param.outgoing ch).reading else none }

variable (env : L2capConnectEnv) (param : L2capChannelParam)

theorem finishConnect_channels (listenId : Option Nat) :
    (m.finishConnect env channel param listenId).channels
      = Keyed.update (·.ptr) channel.ptr (connectWrite env param) m.channels := by
  have hchannels : ((m.write channel.ptr (takeOutgoing param.outgoing)).runRx channel
      (handleChannelConneted env.readStop env.readStart · param.incoming)).channels
        = Keyed.update (·.ptr) channel.ptr (connectWrite env param) m.channels :=
    update_update fun _ _ hptr => hptr
  unfold finishConnect
  dsimp only
  split
  · exact hchannels
  · exact hchannels

theorem finishConnect_rest (m : L2capManager) (channel : ManagedChannel) (env : L2capConnectEnv)
    (param : L2capChannelParam) (listenId : Option Nat) :
    (m.finishConnect env channel param listenId).ids = m.ids
      ∧ (m.finishConnect env channel param listenId).psmMap = m.psmMap
      ∧ (m.finishConnect env channel param listenId).nextPtr = m.nextPtr := by
  unfold finishConnect
  dsimp only
  split
  · exact ⟨rfl, rfl, rfl⟩
  · exact ⟨rfl, rfl, rfl⟩

def Connects (env : L2capConnectEnv) (channel : ManagedChannel) : Prop :=
  channel.rx.proxyConnected = true ∧ env.readStop = true ∧ env.readStart = true
deriving Decidable

theorem connectWrite_key (ch : ManagedChannel) :
    (connectWrite env param ch).key = if Connects env ch then ch.key.connect else ch.key := by
  have hconnected : (handleChannelConneted env.readStop env.readStart ch.rx
      param.incoming).channelConnected
        = (ch.rx.channelConnected || (ch.rx.proxyConnected && env.readStop && env.readStart)) :=
    handleChannelConneted_channelConnected
  rw [ManagedChannel.key, connectWrite]
  dsimp only
  rw [hconnected]
  split
  next h =>
    rw [h.1, h.2.1, h.2.2]
    simp [ManagedChannel.key, ChannelKey.connect, takeOutgoing]
  next h =>
    have hfails : (ch.rx.proxyConnected && env.readStop && env.readStart) = false := by
      simpa [Connects, and_assoc] using h
    rw [hfails, Bool.or_false]
    rfl

theorem finishConnect_keys (h : m.PtrsUnique) (hmem : channel ∈ m.channels)
    (env : L2capConnectEnv) (param : L2capChannelParam) (listenId : Option Nat) :
    (m.finishConnect env channel param listenId).keys
      = if Connects env channel then Keyed.update (·.ptr) channel.ptr ChannelKey.connect m.keys
        else m.keys := by
  rw [keys, finishConnect_channels]
  split
  next hconn =>
    refine map_update_comm (fun _ => rfl) fun ch hch hptr => ?_
    rw [connectWrite_key, h.eq_of_ptr hch hmem hptr, if_pos hconn]
  next hconn =>
    refine map_update fun ch hch hptr => ?_
    rw [connectWrite_key, h.eq_of_ptr hch hmem hptr, if_neg hconn]

theorem clientConnect_ops (h : m.PtrsUnique) (hmem : channel ∈ m.channels)
    (hrole : channel.role = .client) (env : L2capConnectEnv) (param : L2capChannelParam) :
    OpRun server m [] (m.finishConnect env channel param none) := by
  obtain ⟨hids, hpsm, hptr⟩ := finishConnect_rest m channel env param none
  have hkeys := finishConnect_keys h hmem env param none
  split at hkeys
  · refine (ManagerOp.connect (p := channel.ptr) ?_ hkeys hids hpsm hptr).run
    intro k hk hkptr
    obtain ⟨ch, hch, rfl⟩ := mem_map.mp hk
    rw [h.eq_of_ptr hch hmem hkptr]
    exact hrole
  · exact SameKeys.run ⟨hkeys, hids, hpsm, hptr⟩

theorem acceptChannel_ops (env : L2capConnectEnv) (channel : ManagedChannel) (addr : BtAddress)
    (param : L2capChannelParam) :
    OpRun true m (m.acceptIdCalls env channel addr param)
      (m.acceptChannel env channel addr param) := by
  have howners : (m.write channel.ptr (acceptPeer addr param.localCid)).owners = m.owners :=
    map_update fun _ _ _ => rfl
  have haccept : OpRun true m [] (m.write channel.ptr (acceptPeer addr param.localCid)) :=
    (ManagerOp.serve rfl howners rfl rfl).run
  have hrole : L2capRole.serverListen = .client ∨ true = true := .inr rfl
  obtain ⟨hops, hkey⟩ := allocFreeChannel_ops
    (m.write channel.ptr (acceptPeer addr param.localCid)) env.calloc channel.app none channel.psm
    hrole
  unfold acceptIdCalls acceptChannel
  dsimp only
  refine haccept.append ?_
  rcases halloc : (m.write channel.ptr (acceptPeer addr param.localCid)).allocFreeChannel env.calloc
    channel.app none channel.psm .serverListen with ⟨_ | listen, m₁⟩
  · rw [halloc] at hops
    exact hops.append (.nil m₁)
  · rw [halloc] at hops hkey
    refine hops.append ?_
    dsimp only
    cases env.pipeOpen with
    | false => exact (ManagerOp.remove (hkey listen rfl)).run
    | true =>
      obtain ⟨hids, -, hptr⟩ := finishConnect_rest (m₁.prepareDataPath listen.ptr)
        (acceptPeer addr param.localCid channel) env param (some listen.id)
      refine (sameKeys_prepareDataPath listen.ptr).run_left (ManagerOp.serve rfl ?_ hids hptr).run
      rw [owners, finishConnect_channels]
      exact map_update fun _ _ _ => rfl

end L2capManager

/-! ## Every event -/

def L2capEvent.serves : L2capEvent → Bool
  | .listen _ _ _ _ => true
  | .stack _ (.connected _ param) => !param.isClient
  | _ => false

namespace L2capManager

variable {m : L2capManager} {server : Bool}

theorem takePsm_ops (m : L2capManager) (psm : Nat) : OpRun true m [] (m.takePsm psm).2 := by
  obtain ⟨psmMap, htake⟩ := takePsm_spec m psm
  have hop : ManagerOp true m [] { m with psmMap } := .serve rfl rfl rfl rfl
  rw [htake]
  exact hop.run

theorem listen_ops (env : L2capRequestEnv) (app : Nat) (option : L2capConfigOption) (psm : Nat) :
    OpRun true m (m.idCalls (.listen env app option psm))
      (m.l2capListenChannel env app option psm).2 := by
  have htake := takePsm_ops m psm
  rw [idCalls, l2capListenChannel]
  split
  · exact .nil m
  split
  · exact .nil m
  split
  · exact .nil m
  rcases hpsm : m.takePsm psm with ⟨_ | taken, m₁⟩
  · rw [hpsm] at htake
    exact htake
  · rw [hpsm] at htake
    exact htake.append (openChannel_ops (.inr rfl))

theorem stopListen_ops (env : L2capRequestEnv) (app : Nat) (transport : L2capTransport)
    (psm : Nat) :
    OpRun server m (m.idCalls (.stopListen env app transport psm))
      (m.l2capStopListenChannel env app transport psm).2 := by
  rw [idCalls, l2capStopListenChannel]
  split
  · exact .nil m
  split
  · exact .nil m
  rcases hfind : m.findL2capChannelByConnParam none psm .serverListen false with _ | channel
  · exact .nil m
  · obtain ⟨hmem, -⟩ := findL2capChannelByConnParam_listen hfind
    by_cases happ : channel.app = app
    · simp only [happ, Option.filter_some, decide_true, ne_eq, not_true_eq_false, if_true, if_false]
      exact removeChannel_ops hmem (.refl m)
    · simp only [happ, Option.filter_some, decide_false, ne_eq, not_false_eq_true, if_true]
      exact .nil m

theorem unregister_ops (h : m.PtrsUnique) (env : L2capRequestEnv) (app : Nat) :
    OpRun server m (m.idCalls (.unregister env app)) (m.l2capUnregisterCallbacks env app) := by
  rw [idCalls, l2capUnregisterCallbacks]
  split
  · exact .nil m
  · exact cleanup_ops h.nodup_channels fun _ => mem_keys

theorem pipeConnected_ops (statusOk readStart : Bool) (pipe : Nat) :
    OpRun server m (m.idCalls (.pipeConnected statusOk readStart pipe))
      (m.proxyConnectedCb statusOk readStart pipe) := by
  rw [idCalls, proxyConnectedCb]
  rcases hfind : m.findL2capChannelByPipe pipe with _ | channel
  · rw [releaseIdCalls, Option.toList_none, map_nil, ite_self]
    exact .nil m
  · have hremove : OpRun server m [.free channel.id] (m.removeChannel channel) :=
      removeChannel_ops (mem_of_find?_eq_some hfind) (.refl m)
    cases statusOk with
    | false => exact hremove
    | true =>
      cases readStart with
      | false => exact hremove
      | true =>
        refine SameKeys.run ?_
        exact sameKeys_write fun _ => rfl

theorem sameKeys_writeQuota (p txQuota : Nat) :
    SameKeys m (m.write p fun ch =>
      { ch with txQuota, reading := if txQuota = 0 then none else ch.reading }) :=
  sameKeys_write fun _ => rfl

theorem pipeRead_ops (pipe : Nat) (buf : Option (List UInt8)) :
    OpRun server m (m.idCalls (.pipeRead pipe buf)) (m.l2capReceiveDataFromApp pipe buf) := by
  rcases hfind : m.findL2capChannelByPipe pipe with _ | channel
  · rw [l2capReceiveDataFromApp, hfind]
    cases buf with
    | none =>
      rw [idCalls, hfind]
      exact .nil m
    | some data => exact .nil m
  · rcases buf with _ | _ | ⟨byte, data⟩
    · rw [idCalls, l2capReceiveDataFromApp, hfind]
      exact removeChannel_ops (mem_of_find?_eq_some hfind) (sameKeys_hangUp _ _)
    · rw [l2capReceiveDataFromApp, hfind]
      exact .nil m
    · rw [l2capReceiveDataFromApp, hfind]
      dsimp only
      split
      · exact .nil m
      · refine SameKeys.run
          ((sameKeys_call (.sendPacket channel.rx.localCid (byte :: data))).trans ?_)
        -- the quota is a variable of the lemma: its value need not be computed
        exact sameKeys_writeQuota channel.ptr _

theorem sameKeys_abort (channel : ManagedChannel) :
    SameKeys m (m.runRx channel l2capAbortChannel) :=
  sameKeys_runRx fun _ => congrArg Prod.snd l2capAbortChannel_link

theorem handleConneted_ops (h : m.PtrsUnique) (env : L2capConnectEnv) (addr : BtAddress)
    (param : L2capChannelParam) :
    OpRun (!param.isClient) m (m.stackIdCalls addr (.connected env param))
      (m.handleConneted env addr param) := by
  rw [stackIdCalls, handleConneted]
  cases param.isClient with
  | true =>
    rw [if_pos rfl, if_pos rfl]
    rcases hfind : m.findL2capChannelByConnParam (some addr) param.psm .client false
      with _ | channel
    · exact (sameKeys_hangUp _ _).run
    · obtain ⟨hmem, hrole, -⟩ := findL2capChannelByConnParam_client hfind
      dsimp only
      split
      · exact (sameKeys_abort channel).run
      · exact clientConnect_ops h hmem hrole env param
  | false =>
    rw [if_neg Bool.false_ne_true, if_neg Bool.false_ne_true]
    rcases m.findL2capChannelByConnParam (some addr) param.psm .serverListen false
      with _ | channel
    · exact (sameKeys_hangUp _ _).run
    · cases hproxy : channel.rx.proxyConnected with
      | false =>
        dsimp only
        rw [hproxy]
        exact (sameKeys_abort channel).run
      | true =>
        dsimp only
        rw [hproxy]
        exact acceptChannel_ops env channel addr param

theorem handleDisconneted_ops (cid reason : Nat) :
    OpRun server m (releaseIdCalls (m.findL2capChannelByCid cid))
      (m.handleDisconneted cid reason) := by
  rw [handleDisconneted]
  rcases hfind : m.findL2capChannelByCid cid with _ | channel
  · exact .nil m
  · exact removeChannel_ops (mem_of_find?_eq_some hfind) ⟨rfl, rfl, rfl, rfl⟩

theorem handleL2capEvent_ops (h : m.PtrsUnique) (addr : BtAddress) (e : L2capStackEvent) :
    OpRun (L2capEvent.stack addr e).serves m (m.stackIdCalls addr e)
      (m.handleL2capEvent addr e) := by
  cases e with
  | connected env param => exact handleConneted_ops h env addr param
  | disconnected cid reason => exact handleDisconneted_ops cid reason
  | _ =>
    refine SameKeys.run ?_
    simp only [handleL2capEvent, handleCidAllocated, handlePacket, handlePacketSent]
    repeat' split
    all_goals first
      | exact .refl m
      | exact sameKeys_write fun _ => rfl
      | exact sameKeys_runRx fun _ => congrArg Prod.snd handlePacketReceived_link

theorem step_ops (h : m.PtrsUnique) (e : L2capEvent) :
    OpRun e.serves m (m.idCalls e) (m.step e) := by
  cases e with
  | listen env app option psm => exact listen_ops env app option psm
  | connect env app addr option psm =>
    rw [idCalls, step, l2capConnectChannel]
    split
    · exact .nil m
    split
    · exact .nil m
    · exact openChannel_ops (.inl rfl)
  | stopListen env app transport psm => exact stopListen_ops env app transport psm
  | unregister env app => exact unregister_ops h env app
  | pipeConnected statusOk readStart pipe => exact pipeConnected_ops statusOk readStart pipe
  | pipeRead pipe buf => exact pipeRead_ops pipe buf
  | stack addr e => exact handleL2capEvent_ops h addr e
  | _ =>
    refine SameKeys.run ?_
    simp only [step, l2capDisconnectChannel, sendSduToAppCb]
    repeat' split
    all_goals first
      | exact .refl m
      | exact sameKeys_call _
      | exact sameKeys_runRx fun _ => congrArg Prod.snd l2capSendSduToAppCb_link

/-! ## Pointers stay unique -/

section Owners

variable {m' : L2capManager} {channel : ManagedChannel} {calls : List Call}

theorem owners_of_connect {p : Nat}
    (h : m'.keys = Keyed.update (·.ptr) p ChannelKey.connect m.keys) : m'.owners = m.owners := by
  rw [← keys_map_owner, h, ← keys_map_owner]
  exact map_update fun _ _ _ => rfl

@[simp] theorem removeChannel_owners :
    (m.removeChannel channel).owners = Keyed.remove (·.1) channel.ptr m.owners := by
  rw [owners, removeChannel_channels, owners, Keyed.remove, Keyed.remove, filter_map]
  rfl

theorem PtrsUnique.of_owners (h : m.PtrsUnique) (howners : m'.owners = m.owners)
    (hptr : m'.nextPtr = m.nextPtr) : m'.PtrsUnique :=
  ⟨howners ▸ h.nodup, by rw [howners, hptr]; exact h.fresh⟩

theorem PtrsUnique.added (h : m.PtrsUnique) (hptr : channel.ptr = m.nextPtr)
    (ids : IndexAllocator) : (m.added channel ids).PtrsUnique := by
  constructor
  · rw [added_owners]
    refine nodup_concat h.nodup fun o ho heq => ?_
    exact absurd (heq.trans hptr) (Nat.ne_of_lt (h.fresh o ho))
  · rw [added_owners, forall_mem_concat]
    exact ⟨fun o ho => Nat.lt_succ_of_lt (h.fresh o ho), Nat.lt_succ_of_le (Nat.le_of_eq hptr)⟩

theorem PtrsUnique.op (h : m.PtrsUnique) (hop : ManagerOp server m calls m') : m'.PtrsUnique := by
  cases hop with
  | quiet hsame => exact h.of_owners hsame.owners hsame.nextPtr
  | connect _ hkeys _ _ hptr => exact h.of_owners (owners_of_connect hkeys) hptr
  | starve | giveBack => exact h.of_owners rfl rfl
  | create channel halloc hptr hrole => exact h.added hptr _
  | remove =>
    constructor
    · rw [removeChannel_owners]
      exact nodup_remove h.nodup
    · intro o ho
      rw [removeChannel_owners] at ho
      rw [removeChannel_nextPtr]
      exact h.fresh o (mem_remove.mp ho).1
  | serve _ howners _ hptr => exact h.of_owners howners hptr

theorem PtrsUnique.run (h : m.PtrsUnique) (hops : OpRun server m calls m') : m'.PtrsUnique := by
  induction hops with
  | nil m => exact h
  | cons hop _ ih => exact ih (h.op hop)

theorem PtrsUnique.step (h : m.PtrsUnique) (e : L2capEvent) : (m.step e).PtrsUnique :=
  h.run (step_ops h e)

theorem ptrsUnique_init : init.PtrsUnique := ⟨nodup_nil, nofun⟩

theorem ptrsUnique_after (h : m.PtrsUnique) (es : List L2capEvent) :
    (Runs.after L2capManager.step m es).PtrsUnique := by
  induction es generalizing m with
  | nil => exact h
  | cons e es ih => exact ih (h.step e)

end Owners

end L2capManager

end BtFramework
