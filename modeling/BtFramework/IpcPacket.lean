import BtFramework.CStruct

/-!
# Packets between the client library and the service

Codes come in two ranges that are counted through (`bt_message_type_t`: requests, then
callbacks), and as `BT_IPC_CODE` values, which put a type and a group into the upper bytes.
-/

namespace BtFramework.Ipc

open CStruct

/-! ## The structure -/

inductive PacketMember where
  | code
  | context
  | body
deriving DecidableEq

def messagePacket (n : Nat) : Decl PacketMember where
  members := [⟨.code, 4, 4⟩, ⟨.context, 8, 4⟩, ⟨.body, n, 4⟩]
  align := 4

def sizeofPacket (n : Nat) : Nat := (messagePacket n).sizeof

theorem mem_names (n : Nat) (x : PacketMember) : x ∈ (messagePacket n).names := by
  cases x <;> simp [messagePacket, Decl.names]

theorem sizeofPacket_pos (n : Nat) : 0 < sizeofPacket n := by
  have hle := Decl.offset_add_width_le (mem_names n .code)
  exact Nat.lt_of_lt_of_le (by decide : 0 < 4) hle

/-- A `bt_message_packet_t`: a 32 bit code, a 64 bit context and two unions, one member here, whose
size `n` is left open. -/
structure Packet (n : Nat) where
  bytes : List UInt8
  length_bytes : bytes.length = sizeofPacket n

namespace Packet

variable {n : Nat}

def zero (n : Nat) : Packet n := ⟨List.replicate (sizeofPacket n) 0, List.length_replicate⟩

def get (x : PacketMember) (p : Packet n) : List UInt8 := CStruct.get (messagePacket n) x p.bytes

def put (x : PacketMember) (v : List UInt8) (p : Packet n) : Packet n where
  bytes := CStruct.put (messagePacket n) x v p.bytes
  length_bytes := by rw [length_put, p.length_bytes]

def code (p : Packet n) : UInt32 := UInt32.ofNat (natOf (p.get .code))

def context (p : Packet n) : UInt64 := UInt64.ofNat (natOf (p.get .context))

def setCode (c : UInt32) (p : Packet n) : Packet n := p.put .code (bytesOf 4 c.toNat)

def setContext (c : UInt64) (p : Packet n) : Packet n := p.put .context (bytesOf 8 c.toNat)

def setBody (b : List UInt8) (p : Packet n) : Packet n := p.put .body (b.take n)

theorem get_put_self {x : PacketMember} {v : List UInt8} {p : Packet n}
    (h : v.length = (messagePacket n).width x) : (p.put x v).get x = v := by
  have hlen := CStruct.length_get (mem_names n x) p.length_bytes
  rw [get, put, CStruct.get_put_self ⟨mem_names n x, h.le, p.length_bytes⟩,
    List.drop_eq_nil_of_le (by rw [hlen, h]), List.append_nil]

theorem get_put_of_ne {x y : PacketMember} {v : List UInt8} {p : Packet n}
    (h : v.length ≤ (messagePacket n).width x) (hne : y ≠ x) : (p.put x v).get y = p.get y :=
  CStruct.get_put_of_ne ⟨mem_names n x, h, p.length_bytes⟩ hne (mem_names n y)

@[simp] theorem code_setCode (c : UInt32) (p : Packet n) : (p.setCode c).code = c := by
  rw [code, setCode, get_put_self (length_bytesOf 4 _), natOf_bytesOf c.toNat_lt,
    UInt32.ofNat_toNat]

@[simp] theorem code_setContext (c : UInt64) (p : Packet n) : (p.setContext c).code = p.code := by
  rw [code, setContext, get_put_of_ne (length_bytesOf 8 _).le (by decide), code]

@[simp] theorem context_setCode (c : UInt32) (p : Packet n) :
    (p.setCode c).context = p.context := by
  rw [context, setCode, get_put_of_ne (length_bytesOf 4 _).le (by decide), context]

@[simp] theorem context_setContext (c : UInt64) (p : Packet n) : (p.setContext c).context = c := by
  rw [context, setContext, get_put_self (length_bytesOf 8 _), natOf_bytesOf c.toNat_lt,
    UInt64.ofNat_toNat]

@[simp] theorem context_setBody (b : List UInt8) (p : Packet n) :
    (p.setBody b).context = p.context := by
  rw [context, setBody, get_put_of_ne (List.length_take_le n b) (by decide), context]

end Packet

/-! ## Codes -/

inductive Group where
  | a2dpSink
  | a2dpSource
  | adapter
  | advertiser
  | avrcpControl
  | avrcpTarget
  | device
  | gattc
  | gatts
  | hfpAg
  | hfpHf
  | hidDevice
  | l2cap
  | log
  | manager
  | pan
  | scan
  | spp
  | cs

structure CodeRange where
  start : Nat
  stop : Nat

def CodeRange.check (r : CodeRange) (code : UInt32) : Bool :=
  decide (r.start < code.toNat) && decide (code.toNat < r.stop)

theorem CodeRange.check_iff {r : CodeRange} {code : UInt32} :
    r.check code = true ↔ r.start < code.toNat ∧ code.toNat < r.stop := by
  rw [check, Bool.and_eq_true, decide_eq_true_eq, decide_eq_true_eq]

def messageCodes : CodeRange := ⟨0, 255⟩

def callbackCodes : CodeRange := ⟨256, 381⟩

def Group.messages : Group → Option CodeRange
  | .a2dpSink => some ⟨1, 10⟩
  | .a2dpSource => some ⟨11, 21⟩
  | .adapter => some ⟨22, 65⟩
  | .advertiser => some ⟨66, 71⟩
  | .avrcpControl => some ⟨72, 76⟩
  | .avrcpTarget => some ⟨77, 82⟩
  | .device => some ⟨83, 117⟩
  | .gattc => some ⟨118, 136⟩
  | .gatts => some ⟨137, 152⟩
  | .hfpAg => some ⟨153, 173⟩
  | .hfpHf => some ⟨174, 201⟩
  | .hidDevice => some ⟨202, 213⟩
  | .l2cap => some ⟨214, 220⟩
  | .log => some ⟨221, 226⟩
  | .manager => some ⟨227, 233⟩
  | .pan => some ⟨234, 239⟩
  | .scan => some ⟨240, 246⟩
  | .spp => some ⟨247, 254⟩
  | .cs => none

def Group.callbacks : Group → Option CodeRange
  | .a2dpSink => some ⟨257, 261⟩
  | .a2dpSource => some ⟨262, 266⟩
  | .adapter => some ⟨267, 283⟩
  | .advertiser => some ⟨284, 287⟩
  | .avrcpControl => some ⟨288, 291⟩
  | .avrcpTarget => some ⟨292, 297⟩
  | .gattc => some ⟨298, 311⟩
  | .gatts => some ⟨312, 324⟩
  | .hfpAg => some ⟨325, 338⟩
  | .hfpHf => some ⟨339, 353⟩
  | .hidDevice => some ⟨354, 361⟩
  | .l2cap => some ⟨362, 365⟩
  | .manager => some ⟨366, 367⟩
  | .pan => some ⟨368, 371⟩
  | .scan => some ⟨372, 376⟩
  | .spp => some ⟨377, 380⟩
  | .device | .log | .cs => none

def Group.ipcGroup : Group → Nat
  | .adapter => 1
  | .device => 2
  | .manager => 3
  | .log => 4
  | .advertiser => 5
  | .scan => 6
  | .l2cap => 7
  | .a2dpSource => 16
  | .a2dpSink => 17
  | .avrcpControl => 18
  | .avrcpTarget => 19
  | .hfpHf => 20
  | .hfpAg => 21
  | .spp => 22
  | .hidDevice => 23
  | .pan => 24
  | .gattc => 25
  | .gatts => 26
  | .cs => 35

def ipcTypeCommand : Nat := 0
def ipcTypeCallback : Nat := 1

def ipcSubcodeMaxNum : Nat := 0xFFFF

def ipcCode (type group subcode : Nat) : Nat := type <<< 24 ||| group <<< 16 ||| subcode

def Group.commandCodes (g : Group) : CodeRange :=
  ⟨ipcCode ipcTypeCommand g.ipcGroup 0, ipcCode ipcTypeCommand g.ipcGroup ipcSubcodeMaxNum⟩

def Group.ipcCallbackCodes (g : Group) : CodeRange :=
  ⟨ipcCode ipcTypeCallback g.ipcGroup 0, ipcCode ipcTypeCallback g.ipcGroup ipcSubcodeMaxNum⟩

def leOnBatchScanResult : UInt32 := UInt32.ofNat (ipcCode ipcTypeCallback Group.scan.ipcGroup 1)

end BtFramework.Ipc
