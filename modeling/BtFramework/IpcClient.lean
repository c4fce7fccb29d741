import BtFramework.IpcServer

/-!
# The asynchronous client and its connection

The client of `bt_socket_client.c` writes a request to its pipe and queues its context; the
address of the context comes back in the reply and must be that of the head of the queue. Every
other packet is a callback and goes to the group of its code.
-/

namespace BtFramework.Ipc

variable {n : Nat} {ρ : Type*}

/-! ## The client -/

/-- What a request is queued with; `reply` is its callback. -/
structure Context (ρ : Type*) where
  ptr : UInt64
  reply : Option ρ

structure Client (n : Nat) (ρ : Type*) where
  pending : List (Context ρ)
  packet : List UInt8
  replies : List (ρ × Packet n)
  dispatched : List (Group × Packet n)
  failed : Bool

def callbackGroups (config : Group → Bool) : List Group :=
  .adapter :: [.hfpAg, .hfpHf, .a2dpSink, .a2dpSource, .avrcpTarget, .advertiser, .scan, .gattc,
    .gatts, .spp, .pan, .hidDevice, .l2cap].filter config

def ipcCallbackGroup : Group → Group
  | .a2dpSource => .a2dpSink
  | g => g

def callbackMap (config : Group → Bool) : List (CodeRange × Group) :=
  (callbackGroups config).flatMap fun g =>
    g.callbacks.toList.map (·, g) ++ [(g.ipcCallbackCodes, ipcCallbackGroup g)]

def callbackProcess (config : Group → Bool) (code : UInt32) : Option Group :=
  ((callbackMap config).find? fun entry => entry.1.check code).map Prod.snd

namespace Client

def start : Client n ρ where
  pending := []
  packet := []
  replies := []
  dispatched := []
  failed := false

def handlePacket (config : Group → Bool) (c : Client n ρ) (p : Packet n) : Client n ρ :=
  if messageCodes.check p.code then
    match c.pending with
    -- bt_list_node asserts that there is a node
    | [] => { c with failed := true }
    | head :: rest =>
      if head.ptr = p.context then
        { c with
          pending := rest
          replies := c.replies ++
            if p.context ≠ 0 then head.reply.toList.map (·, p) else [] }
      else { c with failed := true }
  else if callbackCodes.check p.code then
    match callbackProcess config p.code with
    | some g => { c with dispatched := c.dispatched ++ [(g, p)] }
    | none => c
  else { c with failed := true }

def readCb (config : Group → Bool) (c : Client n ρ) (bytes : List UInt8) : Client n ρ :=
  let received := c.packet ++ bytes
  if h : received.length = sizeofPacket n then
    handlePacket config { c with packet := [] } ⟨received, h⟩
  else { c with packet := received }

/-- `ptr` is what `malloc` returns for the context, and `written` says whether the write request
could be made and was taken; the result is the packet that is written. -/
def sendWithReply (c : Client n ρ) (packet : Packet n) (code : UInt32) (reply : Option ρ)
    (ptr : UInt64) (written : Bool) : Option (Packet n × Client n ρ) :=
  if ptr = 0 then none
  else if written then
    some ((packet.setCode code).setContext ptr, { c with pending := c.pending ++ [⟨ptr, reply⟩] })
  else none

end Client

/-! ## Both sides -/

inductive Delivery (n : Nat) where
  | reply (p : Packet n)
  | callback (p : Packet n)

namespace Delivery

def packet : Delivery n → Packet n
  | .reply p => p
  | .callback p => p

def bytes (d : Delivery n) : List UInt8 := d.packet.bytes

def reply? : Delivery n → Option (Packet n)
  | .reply p => some p
  | .callback _ => none

def callback? : Delivery n → Option (Packet n)
  | .reply _ => none
  | .callback p => some p

end Delivery

/-- Both sides and the bytes under way; what was asked and answered is recorded. -/
structure Link (n : Nat) (ρ : Type*) where
  client : Client n ρ
  out : List UInt8
  toServer : List UInt8
  server : Instance n
  toClient : List UInt8
  aborted : Bool
  issued : List (Packet n × Context ρ)
  served : List (Packet n × Packet n)
  sent : List (Delivery n)

inductive LinkEvent (n : Nat) (ρ : Type*) where
  | request (packet : Packet n) (code : UInt32) (reply : Option ρ) (ptr : UInt64) (written : Bool)
  | clientWrites (k : Nat)
  | serverReads (k : Nat) (body : List UInt8) (mem : Bool) (results : List SendResult)
  | serverWrites (results : List SendResult)
  | callback (packet : Packet n) (code : UInt32) (mem : Bool) (results : List SendResult)
  | clientReads (k : Nat)

namespace Link

def start : Link n ρ where
  client := Client.start
  out := []
  toServer := []
  server := newInstance
  toClient := []
  aborted := false
  issued := []
  served := []
  sent := []

def request (st : Link n ρ) (packet : Packet n) (code : UInt32) (reply : Option ρ) (ptr : UInt64)
    (written : Bool) : Link n ρ :=
  match st.client.sendWithReply packet code reply ptr written with
  | none => st
  | some (p, client) =>
    { st with client, out := st.out ++ p.bytes, issued := st.issued ++ [(p, ⟨ptr, reply⟩)] }

def chunk (n : Nat) (part stream : List UInt8) (k : Nat) : List UInt8 :=
  stream.take (min k (sizeofPacket n - part.length))

def record (st : Link n ρ) (received body : List UInt8) : Link n ρ :=
  if h : received.length = sizeofPacket n then
    let packet : Packet n := ⟨received, h⟩
    let reply := (packet.setBody body).setCode packet.code
    { st with served := st.served ++ [(packet, reply)], sent := st.sent ++ [.reply reply] }
  else st

def serverReads (config : Group → Bool) (st : Link n ρ) (k : Nat) (body : List UInt8) (mem : Bool)
    (results : List SendResult) : Link n ρ :=
  let bytes := chunk n st.server.packet st.toServer k
  let r := if bytes = [] then .again else .data bytes
  match handleEvent config st.server ⟨true, false, false, false⟩ r body mem ⟨results, []⟩ with
  | none => { st with aborted := true }
  | some (server, s) =>
    { st.record (st.server.packet ++ bytes) body with
      server, toServer := st.toServer.drop bytes.length, toClient := st.toClient ++ s.wire }

def serverWrites (config : Group → Bool) (st : Link n ρ) (results : List SendResult) : Link n ρ :=
  match handleEvent config st.server ⟨false, true, false, false⟩ .again [] true ⟨results, []⟩ with
  | none => { st with aborted := true }
  | some (server, s) => { st with server, toClient := st.toClient ++ s.wire }

def callback (st : Link n ρ) (packet : Packet n) (code : UInt32) (mem : Bool)
    (results : List SendResult) : Link n ρ :=
  let (_, server, s) := send st.server packet code mem ⟨results, []⟩
  { st with
    server
    toClient := st.toClient ++ s.wire
    sent := st.sent ++ [.callback (packet.setCode code)] }

def clientReads (config : Group → Bool) (st : Link n ρ) (k : Nat) : Link n ρ :=
  let bytes := chunk n st.client.packet st.toClient k
  { st with
    client := st.client.readCb config bytes
    toClient := st.toClient.drop bytes.length }

def step (config : Group → Bool) (st : Link n ρ) : LinkEvent n ρ → Link n ρ
  | .request packet code reply ptr written =>
    if st.client.failed then st else st.request packet code reply ptr written
  | .clientWrites k =>
    if st.client.failed then st
    else { st with out := st.out.drop k, toServer := st.toServer ++ st.out.take k }
  | .serverReads k body mem results =>
    if st.server.poll.any Poll.readable then st.serverReads config k body mem results else st
  | .serverWrites results =>
    if st.server.poll.any Poll.writable then st.serverWrites config results else st
  | .callback packet code mem results => st.callback packet code mem results
  | .clientReads k => if st.client.failed then st else st.clientReads config k

end Link

end BtFramework.Ipc
