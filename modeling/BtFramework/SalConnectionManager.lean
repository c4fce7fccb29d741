import BtFramework.BtAddress
import BtFramework.Keyed
import BtFramework.Runs

/-!
# The connection manager of the stack abstraction layer

`sal_connection_manager.c`. When the link allows it, each handler that is not yet busy is queued
for a worker. A profile that reports its disconnection, and a handler that fails, take the
handler from the list, and an empty manager either goes or takes down the link.

The worker runs beside the service loop, so a handler that runs is in `running` until it
returns, with any other event in between.
-/

namespace BtFramework.SalConnection

/-! ## Managers and requests -/

inductive Status where
  | success
  | fail
  | nomem
  | parmInvalid
  | notReady
  | busy
  | notSupported
deriving DecidableEq

/-- The two lists of managers. -/
inductive ListName where
  | connecting
  | disconnecting
deriving DecidableEq

structure Handler where
  handler : Nat
  id : Nat
  userData : Nat
deriving DecidableEq

/-- A handler with which a profile connects or disconnects a device. -/
structure HandlerNode where
  profileId : UInt8
  connId : UInt16
  handler : Handler
  isBusy : Bool

/-- What a request finds its node by. -/
def HandlerNode.key (n : HandlerNode) : UInt8 × UInt16 := (n.profileId, n.connId)

/-- The handlers that wait for one address. -/
structure Manager where
  deviceAddr : BtAddress
  isUnpair : Bool
  handlers : List HandlerNode

structure Request where
  deviceAddr : BtAddress
  profileId : UInt8
  connId : UInt16
  handler : Handler
  managerList : Option ListName
deriving DecidableEq

inductive StackCall where
  | connect (addr : BtAddress)
  | disconnect (addr : BtAddress)
  | removeBond (addr : BtAddress)
deriving DecidableEq

/-- A list that could not be allocated is `none`. `queue` are the requests not taken yet and
`running` those whose handler runs; `sent` records the requests queued and `calls` the calls to
the stack. -/
structure State where
  connecting : Option (List Manager)
  disconnecting : Option (List Manager)
  queue : List Request
  running : List Request
  sent : List Request
  calls : List StackCall

def State.start (connecting disconnecting : Bool) : State where
  connecting := if connecting then some [] else none
  disconnecting := if disconnecting then some [] else none
  queue := []
  running := []
  sent := []
  calls := []

namespace State

def list (s : State) : ListName → Option (List Manager)
  | .connecting => s.connecting
  | .disconnecting => s.disconnecting

def managers (s : State) (w : ListName) : List Manager := (s.list w).getD []

def mapList (s : State) (w : ListName) (g : List Manager → List Manager) : State :=
  match w with
  | .connecting => { s with connecting := s.connecting.map g }
  | .disconnecting => { s with disconnecting := s.disconnecting.map g }

def call (s : State) (c : StackCall) : State := { s with calls := s.calls ++ [c] }

def findManager (s : State) (w : ListName) (addr : BtAddress) : Option Manager :=
  (s.managers w).find? fun m => m.deviceAddr = addr

def modifyManager (s : State) (w : ListName) (addr : BtAddress) (f : Manager → Manager) : State :=
  s.mapList w (Keyed.modifyFirst Manager.deviceAddr addr f)

def removeManager (s : State) (w : ListName) (addr : BtAddress) : State :=
  s.mapList w (Keyed.removeFirst Manager.deviceAddr addr)

end State

def findHandlerNode (m : Manager) (profileId : UInt8) (connId : UInt16) : Option HandlerNode :=
  m.handlers.find? fun n => n.key = (profileId, connId)

def createConnectionManager (addr : BtAddress) : Manager := ⟨addr, false, []⟩

/-! ## The stack -/

inductive ConnState where
  | disconnected
  | connecting
  | connected
  | disconnecting
deriving DecidableEq

inductive Lookup where
  | noConn
  | infoFails
  | info (state : ConnState)

/-- Whether a manager and a node can be allocated, the link, the results of the stack's calls, and
for each request in turn whether it can be queued (if not said, it can). -/
structure Env where
  managerAlloc : Bool
  nodeAlloc : Bool
  conn : Lookup
  connect : Status
  disconnect : Status
  works : List Bool

/-! ## Queueing the handlers -/

def asyncProfileReq (w : ListName) (addr : BtAddress) (n : HandlerNode) : Request :=
  ⟨addr, n.profileId, n.connId, n.handler, some w⟩

def triggerNodes (w : ListName) (addr : BtAddress) :
    List Bool → List HandlerNode → List HandlerNode × List Request
  | _, [] => ([], [])
  | works, n :: ns =>
    if n.isBusy then
      let rest := triggerNodes w addr works ns
      (n :: rest.1, rest.2)
    else
      let rest := triggerNodes w addr works.tail ns
      if works.headD true then
        ({ n with isBusy := true } :: rest.1, asyncProfileReq w addr n :: rest.2)
      else (n :: rest.1, rest.2)

def triggerProfileConnAct (s : State) (w : ListName) (addr : BtAddress) (works : List Bool) :
    State × Status :=
  match s.findManager w addr with
  | none => (s, .parmInvalid)
  | some m =>
    let (handlers, requests) := triggerNodes w addr works m.handlers
    let s := s.modifyManager w addr fun m => { m with handlers }
    ({ s with queue := s.queue ++ requests, sent := s.sent ++ requests }, .success)

/-! ## Requests of the profiles -/

def findOrCreateConnectionManager (s : State) (w : ListName) (addr : BtAddress) (e : Env) :
    Option State :=
  if s.list w = none then none
  else if (s.findManager w addr).isSome then some s
  else if e.managerAlloc then some (s.mapList w (· ++ [createConnectionManager addr]))
  else none

def addHandlerNode (s : State) (w : ListName) (addr : BtAddress) (profileId : UInt8)
    (connId : UInt16) (handler : Handler) (e : Env) : State × Option Status :=
  match findOrCreateConnectionManager s w addr e with
  | none => (s, some .nomem)
  | some s =>
    if ((s.findManager w addr).bind (findHandlerNode · profileId connId)).isSome then
      (s, some .success)
    else if !e.nodeAlloc then (s, some .nomem)
    else
      let node : HandlerNode := ⟨profileId, connId, handler, false⟩
      (s.modifyManager w addr fun m => { m with handlers := m.handlers ++ [node] }, none)

def btSalTryProfileConnect (s : State) (addr : BtAddress) (e : Env) : State × Status :=
  match findOrCreateConnectionManager s .connecting addr e with
  | none => (s, .nomem)
  | some s =>
    match e.conn with
    | .noConn => (s.call (.connect addr), e.connect)
    | .infoFails => (s, .fail)
    | .info .connecting => (s, .success)
    | .info .disconnected => (s.call (.connect addr), e.connect)
    | .info .disconnecting => (s, .busy)
    | .info .connected => triggerProfileConnAct s .connecting addr e.works

def btSalProfileConnectRequest (s : State) (addr : BtAddress) (profileId : UInt8)
    (connId : UInt16) (handler : Handler) (e : Env) : State × Status :=
  match addHandlerNode s .connecting addr profileId connId handler e with
  | (s, some status) => (s, status)
  | (s, none) => btSalTryProfileConnect s addr e

def btSalProfileDisconnectRegister (s : State) (addr : BtAddress) (profileId : UInt8)
    (connId : UInt16) (handler : Handler) (e : Env) : State × Status :=
  match addHandlerNode s .disconnecting addr profileId connId handler e with
  | (s, some status) => (s, status)
  | (s, none) => (s, .success)

def btSalProfileDisconnectRequest (s : State) (addr : BtAddress) (profileId : UInt8)
    (connId : UInt16) (handler : Handler) (e : Env) : State × Status :=
  if e.works.headD true then
    let request : Request := ⟨addr, profileId, connId, handler, none⟩
    ({ s with queue := s.queue ++ [request], sent := s.sent ++ [request] }, .success)
  else (s, .fail)

def btSalCmTryDisconnectProfiles (s : State) (addr : BtAddress) (isUnpair : Bool) (e : Env) :
    State × Status :=
  if s.disconnecting = none then (s, .fail)
  else
    match e.conn with
    | .noConn => (s, .fail)
    | .infoFails => (s, .fail)
    | .info .disconnected => (s, .notReady)
    | .info .connecting => (s, .notReady)
    | .info state =>
      match s.findManager .disconnecting addr with
      | some m =>
        if m.isUnpair then (s, .success)
        else
          let s := s.modifyManager .disconnecting addr fun m =>
            { m with isUnpair := m.isUnpair || isUnpair }
          if state = .disconnecting then (s, .success)
          else if m.handlers = [] then (s.call (.disconnect addr), e.disconnect)
          else triggerProfileConnAct s .disconnecting addr e.works
      | none =>
        if !e.managerAlloc then (s, .nomem)
        else
          let s := s.mapList .disconnecting (· ++ [{ createConnectionManager addr with isUnpair }])
          (s.call (.disconnect addr), e.disconnect)

/-! ## Callbacks -/

def removeFromConnectionManagerList (s : State) (w : ListName) (addr : BtAddress)
    (profileId : UInt8) (connId : UInt16) (tryAclDisconnect : Bool) : State :=
  match s.findManager w addr with
  | none => s
  | some m =>
    let handlers := Keyed.removeFirst HandlerNode.key (profileId, connId) m.handlers
    let s := s.modifyManager w addr fun m => { m with handlers }
    if handlers = [] then
      if tryAclDisconnect then s.call (.disconnect addr) else s.removeManager w addr
    else s

def btSalCmAclConnected (s : State) (addr : BtAddress) (works : List Bool) : State :=
  (triggerProfileConnAct s .connecting addr works).1

def aclDisconnectedConnecting (s : State) (addr : BtAddress) (works : List Bool) : State :=
  match s.findManager .connecting addr with
  | none => s
  | some m =>
    if m.handlers = [] then s.removeManager .connecting addr
    else (triggerProfileConnAct s .connecting addr works).1

def aclDisconnectedDisconnecting (s : State) (addr : BtAddress) : State :=
  match s.findManager .disconnecting addr with
  | none => s
  | some m =>
    (if m.isUnpair then s.call (.removeBond m.deviceAddr) else s).removeManager .disconnecting addr

def btSalCmAclDisconnected (s : State) (addr : BtAddress) (works : List Bool) : State :=
  aclDisconnectedDisconnecting (aclDisconnectedConnecting s addr works) addr

def btSalCmProfileDisconnectedCallback (s : State) (addr : BtAddress) (profileId : UInt8)
    (connId : UInt16) : State :=
  removeFromConnectionManagerList
    (removeFromConnectionManagerList s .connecting addr profileId connId false)
    .disconnecting addr profileId connId true

/-! ## The worker -/

/-- `sal_invoke_async` up to the call of the handler, for the request at a position of the
queue. It is dropped if the stack is not ready or its node has gone. -/
def salInvokeAsync (s : State) (i : Nat) (isReady : Bool) : State :=
  match s.queue[i]? with
  | none => s
  | some r =>
    let s := { s with queue := s.queue.eraseIdx i }
    if !isReady then s
    else
      match r.managerList with
      | none => { s with running := s.running ++ [r] }
      | some w =>
        if ((s.findManager w r.deviceAddr).bind
            (findHandlerNode · r.profileId r.connId)).isSome then
          { s with running := s.running ++ [r] }
        else s

def handlerReturned (s : State) (i : Nat) (status : Status) : State :=
  match s.running[i]? with
  | none => s
  | some r =>
    let s := { s with running := s.running.eraseIdx i }
    match r.managerList with
    | none => s
    | some w =>
      if status ≠ .success then
        removeFromConnectionManagerList s w r.deviceAddr r.profileId r.connId false
      else s

/-! ## Events -/

inductive Event where
  | connectRequest (addr : BtAddress) (profileId : UInt8) (connId : UInt16) (handler : Handler)
      (e : Env)
  | disconnectRegister (addr : BtAddress) (profileId : UInt8) (connId : UInt16)
      (handler : Handler) (e : Env)
  | disconnectRequest (addr : BtAddress) (profileId : UInt8) (connId : UInt16)
      (handler : Handler) (e : Env)
  | tryDisconnect (addr : BtAddress) (isUnpair : Bool) (e : Env)
  | aclConnected (addr : BtAddress) (works : List Bool)
  | aclDisconnected (addr : BtAddress) (works : List Bool)
  | profileDisconnected (addr : BtAddress) (profileId : UInt8) (connId : UInt16)
  | invoke (i : Nat) (isReady : Bool)
  | handlerReturned (i : Nat) (status : Status)

def step (s : State) : Event → State
  | .connectRequest addr profileId connId handler e =>
    (btSalProfileConnectRequest s addr profileId connId handler e).1
  | .disconnectRegister addr profileId connId handler e =>
    (btSalProfileDisconnectRegister s addr profileId connId handler e).1
  | .disconnectRequest addr profileId connId handler e =>
    (btSalProfileDisconnectRequest s addr profileId connId handler e).1
  | .tryDisconnect addr isUnpair e => (btSalCmTryDisconnectProfiles s addr isUnpair e).1
  | .aclConnected addr works => btSalCmAclConnected s addr works
  | .aclDisconnected addr works => btSalCmAclDisconnected s addr works
  | .profileDisconnected addr profileId connId =>
    btSalCmProfileDisconnectedCallback s addr profileId connId
  | .invoke i isReady => salInvokeAsync s i isReady
  | .handlerReturned i status => SalConnection.handlerReturned s i status

end BtFramework.SalConnection
