import BtFramework.BtAddress
import BtFramework.Keyed
import BtFramework.IndexAllocator
import BtFramework.L2capChannel

/-!
# The L2CAP manager

`l2cap_service.c` as a whole. A channel is a heap block and `ptr` its identity, given out once.
A data pipe is named by the channel it was opened for, and found as long as the channel has it.
What the handlers branch on and do not compute is passed to them with the event.
-/

namespace BtFramework

/-! ## Channels -/

inductive L2capRole where
  | serverListen | serverAccept | client
deriving DecidableEq

/-- `l2cap_channel_t`. -/
structure ManagedChannel where
  ptr : Nat
  id : Nat
  app : Nat
  addr : BtAddress
  psm : Nat
  role : L2capRole
  outgoing : L2capEndpointParam
  txMtu : Nat
  txQuota : Nat
  reading : Option Nat
  rx : L2capChannel
deriving DecidableEq

inductive L2capCall where
  | listen (psm : Nat)
  | stopListen (psm : Nat)
  | connect (addr : BtAddress) (psm : Nat)
  | disconnect (cid : Nat)
  | sendPacket (cid : Nat) (data : List UInt8)

inductive L2capNotification where
  | connected (app : Nat) (addr : BtAddress) (cid psm id : Nat) (listenId : Option Nat)
  | disconnected (app : Nat) (addr : BtAddress) (id reason : Nat)

structure L2capChannelParam where
  isClient : Bool
  localCid : Nat
  psm : Nat
  incoming : L2capEndpointParam
  outgoing : L2capEndpointParam

inductive L2capStatus where
  | success | parmInvalid | notEnabled | unsupported | nomem | notFound | unhandled | notReady
  | stackError
deriving DecidableEq

structure L2capRequestEnv where
  leEnabled : Bool
  calloc : Bool
  pipeOpen : Bool
  sal : Bool

structure L2capConnectEnv where
  calloc : Bool
  pipeOpen : Bool
  readStop : Bool
  readStart : Bool

/-- `calls` and `notified` are what was asked of the stack and told the applications. -/
structure L2capManager where
  channels : List ManagedChannel
  ids : IndexAllocator
  psmMap : BitVec 64
  nextPtr : Nat
  calls : List L2capCall
  notified : List L2capNotification

def l2capChannelMaxNum : Nat := 20

def lePsmDynamicMin : Nat := 0x80

def l2capLeDynamicPsmNum : Nat := 64

def l2capTxQuota : Nat := 16

def l2capPipeDefReadSize : Nat := 1024

def l2capOutgoingMtu : Nat := 2048

namespace L2capManager

def init : L2capManager :=
  { channels := [], ids := .create l2capChannelMaxNum, psmMap := 0, nextPtr := 0
    calls := [], notified := [] }

def call (m : L2capManager) (c : L2capCall) : L2capManager :=
  { m with calls := m.calls ++ [c] }

def notify (m : L2capManager) (n : L2capNotification) : L2capManager :=
  { m with notified := m.notified ++ [n] }

def write (m : L2capManager) (ptr : Nat) (f : ManagedChannel → ManagedChannel) : L2capManager :=
  { m with channels := Keyed.update (·.ptr) ptr f m.channels }

/-! ## Finding channels -/

def findL2capChannelByCid (m : L2capManager) (cid : Nat) : Option ManagedChannel :=
  m.channels.find? (·.rx.localCid = cid)

def findL2capChannelByPipe (m : L2capManager) (pipe : Nat) : Option ManagedChannel :=
  m.channels.find? fun ch => ch.rx.pipe = true ∧ ch.ptr = pipe

def findL2capChannelById (m : L2capManager) (id : Nat) : Option ManagedChannel :=
  m.channels.find? (·.id = id)

def findL2capChannelByConnParam (m : L2capManager) (addr : Option BtAddress) (psm : Nat)
    (role : L2capRole) (isConnected : Bool) : Option ManagedChannel :=
  match role with
  | .client =>
    match addr with
    | none => none
    | some addr => m.channels.find? fun ch =>
      ch.psm = psm ∧ ch.role = role ∧ ch.rx.channelConnected = isConnected ∧ ch.addr = addr
  | _ => m.channels.find? fun ch =>
    ch.psm = psm ∧ ch.role = role ∧ ch.rx.channelConnected = isConnected

/-! ## Creating and freeing channels -/

def blankChannel (ptr id app : Nat) (addr : BtAddress) (psm : Nat) (role : L2capRole) :
    ManagedChannel :=
  { ptr, id, app, addr, psm, role
    outgoing := { mtu := 0, leMps := 0, credits := 0 }
    txMtu := 0, txQuota := 0, reading := none
    rx := { localCid := 0, incoming := { mtu := 0, leMps := 0, credits := 0 }
            channelConnected := false, pipe := false, proxyConnected := false
            rxSdu := none, rxList := [], rxBufSize := 0
            written := [], granted := [], disconnects := 0 } }

def allocFreeChannel (m : L2capManager) (calloc : Bool) (app : Nat) (addr : Option BtAddress)
    (psm : Nat) (role : L2capRole) : Option ManagedChannel × L2capManager :=
  if addr.isSome ∧ role = .serverListen then (none, m)
  else
    match m.ids.indexAlloc with
    | (none, ids) => (none, { m with ids })
    | (some id, ids) =>
      if calloc then
        let channel := blankChannel m.nextPtr id app (addr.getD 0) psm role
        (some channel,
          { m with channels := m.channels ++ [channel], ids, nextPtr := m.nextPtr + 1 })
      else (none, { m with ids := ids.indexFree id })

def psmBitMask (psm : Nat) : BitVec 64 := 1#64 <<< (psm - lePsmDynamicMin)

def psmInRange (psm : Nat) : Bool :=
  lePsmDynamicMin ≤ psm && psm < lePsmDynamicMin + l2capLeDynamicPsmNum

def checkPsmAvailable (m : L2capManager) (psm : Nat) : Bool :=
  psmInRange psm && m.psmMap &&& psmBitMask psm = 0

def allocLeDynamicPsm (m : L2capManager) : Option Nat × L2capManager :=
  let free := ((List.range (l2capLeDynamicPsmNum - 10)).map (lePsmDynamicMin + 10 + ·)).find?
    fun psm => m.psmMap &&& psmBitMask psm = 0
  match free with
  | some psm => (some psm, { m with psmMap := m.psmMap ||| psmBitMask psm })
  | none => (none, m)

def freeLeDynamicPsm (m : L2capManager) (psm : Nat) : L2capManager :=
  if !psmInRange psm then m
  else if (m.findL2capChannelByConnParam none psm .serverListen false).isSome then m
  else if (m.findL2capChannelByConnParam none psm .serverAccept true).isSome then m
  else { m with psmMap := m.psmMap &&& ~~~(psmBitMask psm) }.call (.stopListen psm)

def removeChannel (m : L2capManager) (channel : ManagedChannel) : L2capManager :=
  let m := { m with
    channels := Keyed.remove (·.ptr) channel.ptr m.channels
    ids := m.ids.indexFree channel.id }
  if channel.role ≠ .client then m.freeLeDynamicPsm channel.psm else m

def openPipe (channel : ManagedChannel) : ManagedChannel :=
  { channel with rx := { channel.rx with pipe := true } }

def prepareDataPath (m : L2capManager) (ptr : Nat) : L2capManager := m.write ptr openPipe

def runRx (m : L2capManager) (channel : ManagedChannel) (f : L2capChannel → L2capChannel) :
    L2capManager :=
  let m := m.write channel.ptr fun ch =>
    { ch with rx := f ch.rx, reading := if (f ch.rx).pipe then ch.reading else none }
  let asked := (f channel.rx).disconnects - channel.rx.disconnects
  { m with calls := m.calls ++ List.replicate asked (.disconnect channel.rx.localCid) }

variable {m m' : L2capManager} {channel : ManagedChannel}

theorem freeLeDynamicPsm_spec (m : L2capManager) (psm : Nat) :
    ∃ psmMap calls, m.freeLeDynamicPsm psm = { m with psmMap, calls } := by
  rw [freeLeDynamicPsm]
  split
  · exact ⟨_, _, rfl⟩
  split
  · exact ⟨_, _, rfl⟩
  split
  · exact ⟨_, _, rfl⟩
  · exact ⟨_, _, rfl⟩

theorem removeChannel_spec (m : L2capManager) (channel : ManagedChannel) :
    ∃ psmMap calls, m.removeChannel channel =
      { m with
        channels := Keyed.remove (·.ptr) channel.ptr m.channels
        ids := m.ids.indexFree channel.id
        psmMap, calls } := by
  rw [removeChannel]
  split
  · exact freeLeDynamicPsm_spec _ _
  · exact ⟨_, _, rfl⟩

@[simp] theorem removeChannel_channels :
    (m.removeChannel channel).channels = Keyed.remove (·.ptr) channel.ptr m.channels := by
  obtain ⟨_, _, h⟩ := removeChannel_spec m channel
  rw [h]

@[simp] theorem removeChannel_nextPtr : (m.removeChannel channel).nextPtr = m.nextPtr := by
  obtain ⟨_, _, h⟩ := removeChannel_spec m channel
  rw [h]

@[simp] theorem removeChannel_notified : (m.removeChannel channel).notified = m.notified := by
  obtain ⟨_, _, h⟩ := removeChannel_spec m channel
  rw [h]

theorem allocFreeChannel_some {calloc : Bool} {app psm : Nat} {addr : Option BtAddress}
    {role : L2capRole} (h : m.allocFreeChannel calloc app addr psm role = (some channel, m')) :
    ∃ id ids, channel = blankChannel m.nextPtr id app (addr.getD 0) psm role ∧
      m' = { m with channels := m.channels ++ [channel], ids, nextPtr := m.nextPtr + 1 } := by
  rw [allocFreeChannel] at h
  split at h
  · cases h
  split at h
  · cases h
  next id ids _ =>
    split at h
    · cases h
      exact ⟨id, ids, rfl, rfl⟩
    · cases h

theorem allocFreeChannel_none {calloc : Bool} {app psm : Nat} {addr : Option BtAddress}
    {role : L2capRole} (h : m.allocFreeChannel calloc app addr psm role = (none, m')) :
    ∃ ids, m' = { m with ids } := by
  rw [allocFreeChannel] at h
  split at h
  · cases h
    exact ⟨_, rfl⟩
  split at h
  · cases h
    exact ⟨_, rfl⟩
  split at h
  · cases h
  · cases h
    exact ⟨_, rfl⟩

/-! ## Requests of the applications -/

def openChannel (m : L2capManager) (env : L2capRequestEnv) (app : Nat) (addr : Option BtAddress)
    (psm : Nat) (role : L2capRole) (request : L2capCall) : L2capStatus × L2capManager :=
  match m.allocFreeChannel env.calloc app addr psm role with
  | (none, m) => (.nomem, m)
  | (some channel, m) =>
    if !env.pipeOpen then (.nomem, m.removeChannel channel)
    else
      let m := (m.prepareDataPath channel.ptr).call request
      if !env.sal then (.stackError, m.removeChannel channel) else (.success, m)

def takePsm (m : L2capManager) (psm : Nat) : Option Nat × L2capManager :=
  if psm = 0 then m.allocLeDynamicPsm
  else if m.checkPsmAvailable psm then
    (some psm, { m with psmMap := m.psmMap ||| psmBitMask psm })
  else (none, m)

def l2capListenChannel (m : L2capManager) (env : L2capRequestEnv) (app : Nat)
    (option : L2capConfigOption) (psm : Nat) : L2capStatus × L2capManager :=
  if !env.leEnabled then (.notEnabled, m)
  else if option.transport ≠ .ble then (.unsupported, m)
  else if (l2capConfigParam option).isNone then (.parmInvalid, m)
  else
    match m.takePsm psm with
    | (none, m) => (.nomem, m)
    | (some psm, m) => m.openChannel env app none psm .serverListen (.listen psm)

def l2capConnectChannel (m : L2capManager) (env : L2capRequestEnv) (app : Nat)
    (addr : BtAddress) (option : L2capConfigOption) (psm : Nat) : L2capStatus × L2capManager :=
  if !env.leEnabled then (.notEnabled, m)
  else if (l2capConfigParam option).isNone then (.parmInvalid, m)
  else m.openChannel env app (some addr) psm .client (.connect addr psm)

def l2capDisconnectChannel (m : L2capManager) (env : L2capRequestEnv) (app id : Nat) :
    L2capStatus × L2capManager :=
  if !env.leEnabled then (.notEnabled, m)
  else
    match m.findL2capChannelById id with
    | none => (.notFound, m)
    | some channel =>
      if channel.app ≠ app then (.unhandled, m)
      else if channel.rx.localCid = 0 then (.notReady, m)
      else (if env.sal then .success else .stackError, m.call (.disconnect channel.rx.localCid))

def l2capStopListenChannel (m : L2capManager) (env : L2capRequestEnv) (app : Nat)
    (transport : L2capTransport) (psm : Nat) : L2capStatus × L2capManager :=
  if !env.leEnabled then (.notEnabled, m)
  else if transport ≠ .ble then (.unsupported, m)
  else
    match m.findL2capChannelByConnParam none psm .serverListen false with
    | none => (.notFound, m)
    | some channel =>
      if channel.app ≠ app then (.unhandled, m) else (.success, m.removeChannel channel)

def cleanupChannel (app : Nat) (m : L2capManager) (channel : ManagedChannel) : L2capManager :=
  if channel.app = app then
    (if channel.rx.channelConnected then m.call (.disconnect channel.rx.localCid) else m)
      |>.removeChannel channel
  else m

def l2capCleanupApp (m : L2capManager) (app : Nat) : L2capManager :=
  m.channels.foldl (cleanupChannel app) m

def l2capUnregisterCallbacks (m : L2capManager) (env : L2capRequestEnv) (app : Nat) :
    L2capManager :=
  if !env.leEnabled then m else m.l2capCleanupApp app

/-! ## Events of the data pipes -/

def l2capReceiveDataFromApp (m : L2capManager) (pipe : Nat) (buf : Option (List UInt8)) :
    L2capManager :=
  match m.findL2capChannelByPipe pipe with
  | none => m
  | some channel =>
    match buf with
    | none =>
      (if channel.rx.channelConnected then m.call (.disconnect channel.rx.localCid) else m)
        |>.removeChannel channel
    | some [] => m
    | some data =>
      if !channel.rx.channelConnected then m
      else
        let txQuota := (channel.txQuota + 65535) % 65536
        (m.call (.sendPacket channel.rx.localCid data)).write channel.ptr fun ch =>
          { ch with txQuota, reading := if txQuota = 0 then none else ch.reading }

def proxyConnectedCb (m : L2capManager) (statusOk readStart : Bool) (pipe : Nat) :
    L2capManager :=
  match m.findL2capChannelByPipe pipe with
  | none => m
  | some channel =>
    if !statusOk then m.removeChannel channel
    else if !readStart then m.removeChannel channel
    else m.write channel.ptr fun ch =>
      { ch with
        reading := some l2capPipeDefReadSize
        rx := { ch.rx with proxyConnected := true } }

def sendSduToAppCb (m : L2capManager) (env : L2capEnv) (statusOk : Bool) (pipe : Nat) :
    L2capManager :=
  match m.findL2capChannelByPipe pipe with
  | none => m
  | some channel => m.runRx channel (l2capSendSduToAppCb env statusOk)

/-! ## Events of the stack -/

def handleCidAllocated (m : L2capManager) (addr : BtAddress) (psm cid : Nat) : L2capManager :=
  match m.findL2capChannelByConnParam (some addr) psm .client false with
  | none => m
  | some channel => m.write channel.ptr fun ch => { ch with rx := { ch.rx with localCid := cid } }

def takeOutgoing (outgoing : L2capEndpointParam) (ch : ManagedChannel) : ManagedChannel :=
  let txMtu := min outgoing.mtu l2capOutgoingMtu
  { ch with outgoing, txMtu, txQuota := l2capTxQuota, reading := some txMtu }

def finishConnect (m : L2capManager) (env : L2capConnectEnv) (channel : ManagedChannel)
    (param : L2capChannelParam) (listenId : Option Nat) : L2capManager :=
  let connect := (handleChannelConneted env.readStop env.readStart · param.incoming)
  let m := (m.write channel.ptr (takeOutgoing param.outgoing)).runRx channel connect
  if (connect channel.rx).channelConnected then
    m.notify (.connected channel.app channel.addr channel.rx.localCid channel.psm channel.id
      listenId)
  else m

def acceptPeer (addr : BtAddress) (cid : Nat) (channel : ManagedChannel) : ManagedChannel :=
  { channel with addr, role := .serverAccept, rx := { channel.rx with localCid := cid } }

def acceptChannel (m : L2capManager) (env : L2capConnectEnv) (channel : ManagedChannel)
    (addr : BtAddress) (param : L2capChannelParam) : L2capManager :=
  let accept := acceptPeer addr param.localCid
  match (m.write channel.ptr accept).allocFreeChannel env.calloc channel.app none channel.psm
      .serverListen with
  | (none, m) => m
  | (some listen, m) =>
    if !env.pipeOpen then m.removeChannel listen
    else
      (m.prepareDataPath listen.ptr).finishConnect env (accept channel) param (some listen.id)

def handleConneted (m : L2capManager) (env : L2capConnectEnv) (addr : BtAddress)
    (param : L2capChannelParam) : L2capManager :=
  let role := if param.isClient then L2capRole.client else .serverListen
  match m.findL2capChannelByConnParam (some addr) param.psm role false with
  | none => if param.localCid ≠ 0 then m.call (.disconnect param.localCid) else m
  | some channel =>
    if !channel.rx.proxyConnected then m.runRx channel l2capAbortChannel
    else if param.isClient then m.finishConnect env channel param none
    else m.acceptChannel env channel addr param

def handleDisconneted (m : L2capManager) (cid reason : Nat) : L2capManager :=
  match m.findL2capChannelByCid cid with
  | none => m
  | some channel =>
    (m.notify (.disconnected channel.app channel.addr channel.id reason)).removeChannel channel

def handlePacket (m : L2capManager) (env : L2capEnv) (cid : Nat) (packet : L2capPkt) :
    L2capManager :=
  match m.findL2capChannelByCid cid with
  | none => m
  | some channel => m.runRx channel (handlePacketReceived env · packet)

def handlePacketSent (m : L2capManager) (readStart : Bool) (cid : Nat) : L2capManager :=
  match m.findL2capChannelByCid cid with
  | none => m
  | some channel => m.write channel.ptr fun ch =>
    { ch with
      reading := if ch.rx.pipe ∧ ch.txQuota = 0 ∧ readStart then some ch.txMtu else ch.reading
      txQuota := (ch.txQuota + 1) % 65536 }

def l2capOnPacketReceived (env : L2capEnv) (data : List UInt8) : Option L2capPkt :=
  if !env.alloc then none
  else some { lenTotal := data.length, lenReceived := data.length, dataLen := data.length, data }

end L2capManager

inductive L2capStackEvent where
  | cidAllocated (psm cid : Nat)
  | connected (env : L2capConnectEnv) (param : L2capChannelParam)
  | disconnected (cid reason : Nat)
  | packetReceived (env : L2capEnv) (cid : Nat) (data : List UInt8)
  | segmentReceived (env : L2capEnv) (cid : Nat) (seg : L2capSegment)
  | packetSent (readStart : Bool) (cid : Nat)

/-- Requests of applications, events of their data pipes and of the stack. -/
inductive L2capEvent where
  | listen (env : L2capRequestEnv) (app : Nat) (option : L2capConfigOption) (psm : Nat)
  | connect (env : L2capRequestEnv) (app : Nat) (addr : BtAddress) (option : L2capConfigOption)
      (psm : Nat)
  | disconnect (env : L2capRequestEnv) (app id : Nat)
  | stopListen (env : L2capRequestEnv) (app : Nat) (transport : L2capTransport) (psm : Nat)
  | unregister (env : L2capRequestEnv) (app : Nat)
  | pipeConnected (statusOk readStart : Bool) (pipe : Nat)
  | pipeRead (pipe : Nat) (buf : Option (List UInt8))
  | pipeWritten (env : L2capEnv) (statusOk : Bool) (pipe : Nat)
  | stack (addr : BtAddress) (e : L2capStackEvent)

namespace L2capManager

def handleL2capEvent (m : L2capManager) (addr : BtAddress) : L2capStackEvent → L2capManager
  | .cidAllocated psm cid => m.handleCidAllocated addr psm cid
  | .connected env param => m.handleConneted env addr param
  | .disconnected cid reason => m.handleDisconneted cid reason
  | .packetReceived env cid data =>
    match l2capOnPacketReceived env data with
    | none => m
    | some packet => m.handlePacket env cid packet
  | .segmentReceived env cid seg =>
    match l2capOnSegmentReceived env cid seg.data seg.sduLen seg.segOff with
    | none => m
    | some packet => m.handlePacket env cid packet
  | .packetSent readStart cid => m.handlePacketSent readStart cid

/-- Each event by its handler. -/
def step (m : L2capManager) : L2capEvent → L2capManager
  | .listen env app option psm => (m.l2capListenChannel env app option psm).2
  | .connect env app addr option psm => (m.l2capConnectChannel env app addr option psm).2
  | .disconnect env app id => (m.l2capDisconnectChannel env app id).2
  | .stopListen env app transport psm => (m.l2capStopListenChannel env app transport psm).2
  | .unregister env app => m.l2capUnregisterCallbacks env app
  | .pipeConnected statusOk readStart pipe => m.proxyConnectedCb statusOk readStart pipe
  | .pipeRead pipe buf => m.l2capReceiveDataFromApp pipe buf
  | .pipeWritten env statusOk pipe => m.sendSduToAppCb env statusOk pipe
  | .stack addr e => m.handleL2capEvent addr e

end L2capManager

end BtFramework
