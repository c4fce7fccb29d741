import BtFramework.IpcPacket

/-!
# One client connection of the service

`bt_socket_server.c`: packets are received into a record that is filled by as
many reads as it takes. A packet that is sent goes to the socket directly if
nothing is waiting. What the socket does not take is cached behind what already
waits, and goes out when the socket becomes writable again.

`Sock` stands for the descriptor during one call: what its next `send`s will do,
and the bytes it has taken.
-/

namespace BtFramework.Ipc

variable {n : Nat}

/-! ## The socket -/

inductive SendResult where
  | sent (k : Nat)
  | again
  | error
deriving DecidableEq

structure Sock where
  results : List SendResult
  wire : List UInt8

def sendInternal (bytes : List UInt8) (s : Sock) : Option Nat × Sock :=
  match s.results with
  | [] => (some 0, s)
  | .again :: rs => (some 0, { s with results := rs })
  | .error :: rs => (none, { s with results := rs })
  | .sent k :: rs =>
    let ret := min k bytes.length
    if ret = 0 then (none, { s with results := rs })
    else (some ret, ⟨rs, s.wire ++ bytes.take ret⟩)

/-! ## Sending -/

/-- A packet that was taken up to `offset`. -/
structure PacketCache (n : Nat) where
  offset : Nat
  packet : Packet n

structure Poll where
  readable : Bool
  writable : Bool

structure Instance (n : Nat) where
  attached : Bool
  poll : Option Poll
  msgQueue : List (PacketCache n)
  packet : List UInt8

def newInstance : Instance n where
  attached := true
  poll := some ⟨true, false⟩
  msgQueue := []
  packet := []

def flushQueue : List (PacketCache n) → Sock → Bool × List (PacketCache n) × Sock
  | [], s => (true, [], s)
  | cache :: caches, s =>
    let size := sizeofPacket n - cache.offset
    match sendInternal (cache.packet.bytes.drop cache.offset) s with
    | (none, s) => (false, caches, s)
    | (some ret, s) =>
      if ret ≠ size then (true, { cache with offset := cache.offset + ret } :: caches, s)
      else flushQueue caches s

def trysend (ins : Instance n) (s : Sock) : Bool × Instance n × Sock :=
  let (ok, queue, s) := flushQueue ins.msgQueue s
  let poll := if ok then ins.poll else none
  if queue ≠ [] then
    (false, { ins with msgQueue := queue, poll := poll.map fun _ => ⟨true, true⟩ }, s)
  else if ins.msgQueue ≠ [] then
    (true, { ins with msgQueue := queue, poll := poll.map fun _ => ⟨true, false⟩ }, s)
  else (true, { ins with msgQueue := queue, poll }, s)

def send (ins : Instance n) (packet : Packet n) (code : UInt32) (mem : Bool) (s : Sock) :
    Bool × Instance n × Sock :=
  if !ins.attached then (false, ins, s)
  else
    let packet := packet.setCode code
    let (flushed, ins, s) := trysend ins s
    match if flushed then sendInternal packet.bytes s else (some 0, s) with
    | (none, s) => (false, { ins with poll := none }, s)
    | (some ret, s) =>
      if ret ≠ sizeofPacket n && ins.poll.isSome then
        if mem then
          (true, { ins with
            msgQueue := ins.msgQueue ++ [⟨ret, packet⟩], poll := some ⟨true, true⟩ }, s)
        else (false, ins, s)
      else (true, ins, s)

/-! ## Receiving -/

def serverGroups (config : Group → Bool) : List Group :=
  [.manager, .adapter, .device] ++
    [.a2dpSource, .a2dpSink, .avrcpTarget, .avrcpControl, .hfpAg, .hfpHf, .advertiser, .scan,
      .gattc, .gatts, .spp, .pan, .hidDevice, .l2cap, .log, .cs].filter config

def serves (config : Group → Bool) (code : UInt32) : Bool :=
  (serverGroups config).any fun g =>
    g.messages.any (·.check code) || g.commandCodes.check code

inductive RecvResult where
  | data (bytes : List UInt8)
  | closed
  | again
  | error

def receive (config : Group → Bool) (ins : Instance n) (r : RecvResult) (body : List UInt8)
    (mem : Bool) (s : Sock) : Option (Bool × Instance n × Sock) :=
  match r with
  | .closed | .error => some (false, ins, s)
  | .again => some (true, ins, s)
  | .data bytes =>
    let received := ins.packet ++ bytes
    if h : received.length = sizeofPacket n then
      let packet : Packet n := ⟨received, h⟩
      let ins := { ins with packet := [] }
      if serves config packet.code then
        some (send ins (packet.setBody body) packet.code mem s)
      else none
    else some (true, { ins with packet := received }, s)

/-! ## Events -/

def release (_ins : Instance n) : Instance n where
  attached := false
  poll := none
  msgQueue := []
  packet := []

structure Revent where
  readable : Bool
  writable : Bool
  disconnect : Bool
  error : Bool

def handleEvent (config : Group → Bool) (ins : Instance n) (revent : Revent) (r : RecvResult)
    (body : List UInt8) (mem : Bool) (s : Sock) : Option (Instance n × Sock) :=
  if revent.error || revent.disconnect then some (release ins, s)
  else if revent.readable then
    match receive config ins r body mem s with
    | none => none
    | some (ok, ins, s) => some (if ok then ins else release ins, s)
  else if revent.writable then
    let (_, ins, s) := trysend ins s
    some (ins, s)
  else some (ins, s)

end BtFramework.Ipc
