import BtFramework.Framing
import BtFramework.Runs

/-!
# The H4 transport

The receiving side of `hci_h4.c`. `bt_sal_hci_transport_recv` is the reader of `Framing` with a
buffer of 1026 bytes, the decoder `hciPacketComplete`, and a consumer that asks for a receive
buffer for each packet and hands the packet to the stack if it gets one.
-/

namespace BtFramework

open Framing List

/-! ## Packets -/

def btHciH4Cmd : UInt8 := 0x01
def btHciH4Acl : UInt8 := 0x02
def btHciH4Sco : UInt8 := 0x03
def btHciH4Evt : UInt8 := 0x04
def btHciH4Iso : UInt8 := 0x05

def h4FrameSize : Nat := 1026

def h4Header (type : UInt8) : Option (Nat × (List UInt8 → Nat)) :=
  let byte (k : Nat) (buf : List UInt8) := (buf.getD k 0).toNat
  if type = btHciH4Cmd then some (3, byte 3)
  else if type = btHciH4Acl then some (4, fun buf => byte 3 buf + 256 * byte 4 buf)
  else if type = btHciH4Sco then some (3, byte 3)
  else if type = btHciH4Evt then some (2, byte 2)
  else if type = btHciH4Iso then
    some (4, fun buf => (byte 3 buf + 256 * byte 4 buf) % 0x4000)
  else none

def hciPacketComplete (buf : List UInt8) : Decode :=
  match h4Header (buf.headD 0) with
  | none => .bad
  | some (headerLen, payloadLen) =>
    if buf.length < 1 + headerLen then .more
    else if buf.length < 1 + headerLen + payloadLen buf then .more
    else .frame (1 + headerLen + payloadLen buf)

/-! ## Receiving -/

/-- The stack's side. -/
structure H4Sink where
  requests : Nat
  received : List (UInt8 × List UInt8)

def asksForBuffer (iso : Bool) (type : UInt8) : Bool :=
  type = btHciH4Evt || type = btHciH4Acl || (type = btHciH4Iso && iso)

def getRx (iso : Bool) (pool : Nat → Option Nat) (st : H4Sink) (type : UInt8) :
    Option Nat × H4Sink :=
  if asksForBuffer iso type then
    (pool st.requests, { st with requests := st.requests + 1 })
  else (none, st)

def h4Deliver (iso : Bool) (pool : Nat → Option Nat) (st : H4Sink) (packet : List UInt8) :
    H4Sink :=
  let bufAdd := packet.tail
  match getRx iso pool st (packet.headD 0) with
  | (none, st) => st
  | (some bufTailroom, st) =>
    if bufTailroom < bufAdd.length then st
    else { st with received := st.received ++ [(packet.headD 0, bufAdd)] }

structure H4Data extends Reader H4Sink UInt8 where
  fdOpen : Bool

def btSalHciTransportRecv (iso : Bool) (pool : Nat → Option Nat) (h4 : H4Data)
    (ready : Option Nat) : H4Data :=
  match ready with
  | none => { h4 with fdOpen := false }
  | some n =>
    { h4 with
      toReader := h4.toReader.read hciPacketComplete h4FrameSize (h4Deliver iso pool) n }

/-! ## Well-formed packets -/

/-- What the controller sends: a type byte, a header that holds the length, and data. -/
inductive H4Packet where
  | evt (code : UInt8) (params : List UInt8) (h : params.length ≤ 255)
  | acl (handle : UInt8 × UInt8) (data : List UInt8) (h : data.length ≤ 1021)
  | sco (handle : UInt8 × UInt8) (data : List UInt8) (h : data.length ≤ 255)
  | iso (handle : UInt8 × UInt8) (rfu : Fin 4) (data : List UInt8) (h : data.length ≤ 1021)

namespace H4Packet

def type : H4Packet → UInt8
  | evt .. => btHciH4Evt
  | acl .. => btHciH4Acl
  | sco .. => btHciH4Sco
  | iso .. => btHciH4Iso

def body : H4Packet → List UInt8
  | evt code params _ => code :: UInt8.ofNat params.length :: params
  | acl handle data _ =>
    handle.1 :: handle.2 :: UInt8.ofNat data.length :: UInt8.ofNat (data.length / 256) :: data
  | sco handle data _ => handle.1 :: handle.2 :: UInt8.ofNat data.length :: data
  | iso handle rfu data _ =>
    handle.1 :: handle.2 :: UInt8.ofNat data.length
      :: UInt8.ofNat (data.length / 256 + 64 * rfu) :: data

def encode (p : H4Packet) : List UInt8 := p.type :: p.body

theorem length_encode_le (p : H4Packet) : p.encode.length ≤ h4FrameSize := by
  unfold h4FrameSize
  cases p <;> simp only [encode, body, length_cons] <;> omega

end H4Packet

theorem isFrame_of_h4Header {p : List UInt8} {headerLen : Nat} {payloadLen : List UInt8 → Nat}
    (hp : p ≠ []) (hhdr : h4Header (p.headD 0) = some (headerLen, payloadLen))
    (hlen : p.length = 1 + headerLen + payloadLen p)
    (hfield : ∀ q, q.take (1 + headerLen) = p.take (1 + headerLen) → payloadLen q = payloadLen p) :
    IsFrame hciPacketComplete p where
  ne_nil := hp
  whole := by
    intro rest
    have hhead : (p ++ rest).headD 0 = p.headD 0 := by
      cases p with
      | nil => exact absurd rfl hp
      | cons => rfl
    have hpay : payloadLen (p ++ rest) = payloadLen p :=
      hfield _ (take_append_of_le_length (by omega))
    unfold hciPacketComplete
    rw [hhead, hhdr]
    simp only [hpay, length_append]
    rw [if_neg (by omega), if_neg (by omega), hlen]
  part := by
    intro q hq hpre hlt
    obtain ⟨rest, rfl⟩ := hpre
    have hhead : q.headD 0 = (q ++ rest).headD 0 := by
      cases q with
      | nil => exact absurd rfl hq
      | cons => rfl
    unfold hciPacketComplete
    rw [hhead, hhdr]
    dsimp only
    split
    · rfl
    next hge =>
      have hpay := hfield q (take_append_of_le_length (Nat.le_of_not_lt hge)).symm
      rw [if_pos (by omega)]

theorem getD_eq_of_take_eq {q p : List UInt8} {n k : Nat} (h : q.take n = p.take n)
    (hk : k < n) : q.getD k 0 = p.getD k 0 := by
  have hq : (q.take n)[k]? = q[k]? := getElem?_take_of_lt hk
  have hp : (p.take n)[k]? = p[k]? := getElem?_take_of_lt hk
  rw [getD_eq_getElem?_getD, getD_eq_getElem?_getD, ← hq, ← hp, h]

theorem H4Packet.isFrame_encode (p : H4Packet) : IsFrame hciPacketComplete p.encode := by
  cases p with
  | evt code params h | sco handle data h =>
    refine isFrame_of_h4Header (cons_ne_nil _ _) rfl ?_ fun q hq => ?_
    · simp [encode, body]
      omega
    · exact congrArg UInt8.toNat (getD_eq_of_take_eq hq (by decide))
  | acl handle data h | iso handle rfu data h =>
    refine isFrame_of_h4Header (cons_ne_nil _ _) rfl ?_ fun q hq => ?_
    · simp [encode, body]
      omega
    · dsimp only
      rw [getD_eq_of_take_eq hq (by decide), getD_eq_of_take_eq hq (by decide)]

/-! ## What the stack gets -/

/-- The packets there is a large enough buffer for. -/
def h4Obtained (iso : Bool) (pool : Nat → Option Nat) : Nat → List H4Packet → List H4Packet
  | _, [] => []
  | k, p :: ps =>
    if asksForBuffer iso p.type then
      if (pool k).any (p.body.length ≤ ·) then p :: h4Obtained iso pool (k + 1) ps
      else h4Obtained iso pool (k + 1) ps
    else h4Obtained iso pool k ps

variable (iso : Bool) (pool : Nat → Option Nat)

theorem h4Deliver_encode (st : H4Sink) (p : H4Packet) :
    h4Deliver iso pool st p.encode =
      if asksForBuffer iso p.type then
        if (pool st.requests).any (p.body.length ≤ ·) then
          ⟨st.requests + 1, st.received ++ [(p.type, p.body)]⟩
        else ⟨st.requests + 1, st.received⟩
      else st := by
  have hhead : p.encode.headD 0 = p.type := rfl
  have htail : p.encode.tail = p.body := rfl
  unfold h4Deliver getRx
  rw [hhead, htail]
  cases asksForBuffer iso p.type with
  | false => rfl
  | true =>
    cases hpool : pool st.requests with
    | none => rfl
    | some room =>
      by_cases hroom : p.body.length ≤ room
      · simp [hroom, Nat.not_lt.mpr hroom]
      · simp [hroom, Nat.lt_of_not_le hroom]

theorem foldl_h4Deliver (ps : List H4Packet) (st : H4Sink) :
    ((ps.map H4Packet.encode).foldl (h4Deliver iso pool) st).received
      = st.received ++ (h4Obtained iso pool st.requests ps).map fun p => (p.type, p.body) := by
  induction ps generalizing st with
  | nil => simp [h4Obtained]
  | cons p ps ih =>
    rw [map_cons, foldl_cons, ih, h4Deliver_encode, h4Obtained]
    repeat' split
    · simp
    · rfl
    · rfl

def h4Start (ps : List H4Packet) : H4Data where
  st := ⟨0, []⟩
  buf := []
  unread := (ps.map H4Packet.encode).flatten
  fdOpen := true

def h4Reads (iso : Bool) (pool : Nat → Option Nat) (h4 : H4Data) (ns : List Nat) : H4Data :=
  Runs.after (btSalHciTransportRecv iso pool) h4 (ns.map some)

theorem toReader_h4Reads (h4 : H4Data) (ns : List Nat) :
    (h4Reads iso pool h4 ns).toReader
      = ns.foldl (Reader.read hciPacketComplete h4FrameSize (h4Deliver iso pool))
          h4.toReader := by
  induction ns generalizing h4 with
  | nil => rfl
  | cons n ns ih => exact ih _

/-- **Chunk independence.** However they are read, once everything has been read the stack has got
the packets that a buffer was obtained for, in order, and the reassembly buffer is empty. Reads of
positive sizes do read everything. -/
theorem h4_chunk_independent (iso : Bool) (pool : Nat → Option Nat) (ps : List H4Packet)
    (ns : List Nat) (hns : ∀ n ∈ ns, 0 < n) :
    ((ps.map H4Packet.encode).flatten.length ≤ ns.length →
        (h4Reads iso pool (h4Start ps) ns).unread = [])
      ∧ ((h4Reads iso pool (h4Start ps) ns).unread = [] →
          (h4Reads iso pool (h4Start ps) ns).st.received
              = (h4Obtained iso pool 0 ps).map (fun p => (p.type, p.body))
            ∧ (h4Reads iso pool (h4Start ps) ns).buf = []) := by
  have hframes : ∀ p ∈ ps.map H4Packet.encode, IsFrame hciPacketComplete p := by
    intro p hp
    obtain ⟨q, -, rfl⟩ := mem_map.mp hp
    exact q.isFrame_encode
  have hcap : ∀ p ∈ ps.map H4Packet.encode, p.length ≤ h4FrameSize := by
    intro p hp
    obtain ⟨q, -, rfl⟩ := mem_map.mp hp
    exact q.length_encode_le
  have hstart : (h4Start ps).toReader.At (h4Deliver iso pool) ⟨0, []⟩ (ps.map H4Packet.encode) :=
    ⟨[], _, rfl, rfl, .inl rfl, rfl⟩
  rw [toReader_h4Reads]
  refine ⟨fun hlen => hstart.unread_reads hframes hcap hns hlen, fun hend => ?_⟩
  obtain ⟨hst, hbuf⟩ := (hstart.reads hframes hcap ns).drained hframes hend
  exact ⟨by rw [hst, foldl_h4Deliver]; rfl, hbuf⟩

def twoPackets : List H4Packet :=
  [.evt 0x0E [1, 2, 3] (by decide), .acl (1, 0) [9, 8] (by decide)]

theorem twoPackets_received :
    (h4Reads false (fun _ => some 64) (h4Start twoPackets) [1, 6, 3, 20]).st.received
        = [(0x04, [0x0E, 3, 1, 2, 3]), (0x02, [1, 0, 2, 0, 9, 8])]
      ∧ (h4Reads false (fun _ => some 64) (h4Start twoPackets) [1, 6, 3, 20]).buf = [] :=
  (h4_chunk_independent false (fun _ => some 64) twoPackets [1, 6, 3, 20] (by decide)).2
    (by decide +kernel)

/-- A packet whose receive buffer is too small is dropped, although a buffer
was obtained for it. -/
theorem small_buffer_drops :
    (h4Reads false (fun _ => some 4) (h4Start twoPackets) [13]).unread = []
      ∧ (h4Reads false (fun _ => some 4) (h4Start twoPackets) [13]).st.requests = 2
      ∧ (h4Reads false (fun _ => some 4) (h4Start twoPackets) [13]).st.received = [] := by
  decide +kernel

end BtFramework
