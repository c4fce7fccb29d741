import Mathlib.Data.List.Lookmap

/-!
# The snoop-log filter

`btsnoop_filter.c`: which HCI packets `btsnoop_log_capture` leaves out of the snoop log. From
connection-complete events `filter_can_filter` keeps a record for each ACL link (`AclInfo`),
from L2CAP signalling it learns the channels to leave out; an ACL packet is dropped or kept by
the cid of the PDU it belongs to.

Packets are read through pointers without looking at their length, so a packet is a memory and a
size here. Sizes are `uint32_t` and wrap.
-/

namespace BtFramework.Snoop

/-! ## Packets -/

structure HciPacket where
  mem : Nat → UInt8
  size : Nat

def HciPacket.byte (p : HciPacket) (i : Nat) : Nat := (p.mem i).toNat

def HciPacket.word (p : HciPacket) (i : Nat) : Nat := p.byte i + 256 * p.byte (i + 1)

def HciPacket.skip (p : HciPacket) (n : Nat) : HciPacket :=
  ⟨fun i => p.mem (n + i), (p.size + 0x100000000 - n) % 0x100000000⟩

/-! ## Constants -/

inductive FilterFlag where
  | a2dpAudio | avctpBrowsing | att | spp | nocp | max

def FilterFlag.bit : FilterFlag → Nat
  | .a2dpAudio => 0
  | .avctpBrowsing => 1
  | .att => 2
  | .spp => 3
  | .nocp => 4
  | .max => 5

def psmRfcomm : Nat := 0x0003
def psmAvdtp : Nat := 0x0019
def psmAvctpBrowsing : Nat := 0x001B
def psmAtt : Nat := 0x001F

def l2capSignalingChannelCid : Nat := 0x0001
def l2capLeSignalingChannelCid : Nat := 0x0005

inductive L2capState where
  | connecting | connected
deriving DecidableEq

/-! ## The filter's records -/

structure Cids where
  localCid : Nat
  peerCid : Nat
deriving DecidableEq

def Cids.endOf (cids : Cids) (isReceive : Bool) : Nat :=
  if isReceive then cids.localCid else cids.peerCid

def Cids.setEnd (cids : Cids) (isReceive : Bool) (cid : Nat) : Cids :=
  if isReceive then { cids with localCid := cid } else { cids with peerCid := cid }

structure ChannelInfo where
  cids : Cids
  psm : Nat
  state : L2capState
deriving DecidableEq

structure AclInfo where
  connectionHandle : Nat
  avdtpSignalCh : Cids
  rfcommCh : Cids
  prevCids : Cids
  filterCids : List ChannelInfo

structure SnoopFilter where
  filterItems : Nat
  aclConnectionList : List AclInfo

def noCids : Cids := ⟨0, 0⟩

def newAclInfo (handle : Nat) : AclInfo := ⟨handle, noCids, noCids, noCids, []⟩

def flagSet (filterItems : Nat) (flag : FilterFlag) : Bool := filterItems.testBit flag.bit

def filterSetFilterFlag (s : SnoopFilter) (flag : Nat) : SnoopFilter :=
  if flag < FilterFlag.max.bit then { s with filterItems := s.filterItems ||| 1 <<< flag } else s

def filterInit : SnoopFilter := ⟨0, []⟩

/-! ## Data packets -/

structure L2capContext where
  cids : Cids
  pkt : HciPacket

def handleRfcommData (pkt : HciPacket) : Bool :=
  if pkt.size = 0 then false
  else if pkt.byte 4 / 4 = 0 then false
  else true

def handleL2capData (isReceive : Bool) (acl : AclInfo) (ctx : L2capContext) (l2cap : ChannelInfo) :
    Bool :=
  if ctx.cids.endOf isReceive = acl.rfcommCh.endOf isReceive then handleRfcommData ctx.pkt
  else l2cap.cids.endOf isReceive == ctx.cids.endOf isReceive

/-! ## Signalling -/

def checkChannelNeedFiltered (acl : AclInfo) (psm scid : Nat) (isReceive : Bool) : AclInfo × Bool :=
  if psm = psmAvdtp then
    if acl.avdtpSignalCh.peerCid ≠ 0 ∨ acl.avdtpSignalCh.localCid ≠ 0 then (acl, true)
    else ({ acl with avdtpSignalCh := acl.avdtpSignalCh.setEnd (!isReceive) scid }, false)
  else if psm = psmRfcomm then
    if acl.rfcommCh.peerCid ≠ 0 ∨ acl.rfcommCh.localCid ≠ 0 then (acl, false)
    else ({ acl with rfcommCh := acl.rfcommCh.setEnd (!isReceive) scid }, true)
  else (acl, false)

def psmFlag (psm : Nat) : FilterFlag :=
  if psm = psmRfcomm then .spp
  else if psm = psmAvdtp then .a2dpAudio
  else if psm = psmAvctpBrowsing then .avctpBrowsing
  else if psm = psmAtt then .att
  else .max

def handleL2capConnectionRequest (filterItems : Nat) (alloc : Bool) (acl : AclInfo)
    (isReceive : Bool) (pkt : HciPacket) : AclInfo :=
  let psm := pkt.word 4
  if flagSet filterItems (psmFlag psm) then
    let scid := pkt.word 6
    let (acl, needed) := checkChannelNeedFiltered acl psm scid isReceive
    if needed && alloc then
      { acl with
        filterCids := acl.filterCids ++ [⟨noCids.setEnd (!isReceive) scid, psm, .connecting⟩] }
    else acl
  else acl

def handleAclInfoConnectionResponse (acl : AclInfo) (localCid peerCid : Nat) : AclInfo :=
  if acl.avdtpSignalCh.localCid = localCid then
    { acl with avdtpSignalCh := { acl.avdtpSignalCh with peerCid := peerCid } }
  else if acl.avdtpSignalCh.peerCid = peerCid then
    { acl with avdtpSignalCh := { acl.avdtpSignalCh with localCid := localCid } }
  else if acl.rfcommCh.localCid = localCid then
    { acl with rfcommCh := { acl.rfcommCh with peerCid := peerCid } }
  else if acl.rfcommCh.peerCid = peerCid then
    { acl with rfcommCh := { acl.rfcommCh with localCid := localCid } }
  else acl

def responseCids (isReceive : Bool) (pkt : HciPacket) : Cids :=
  if isReceive then ⟨pkt.word 6, pkt.word 4⟩ else ⟨pkt.word 4, pkt.word 6⟩

def handleL2capConnectionResponse (acl : AclInfo) (isReceive : Bool) (pkt : HciPacket) :
    AclInfo :=
  let cids := responseCids isReceive pkt
  let wanted := noCids.setEnd isReceive (cids.endOf isReceive)
  let result := pkt.word 8
  if result = 0 then
    let acl := handleAclInfoConnectionResponse acl cids.localCid cids.peerCid
    { acl with
      filterCids := acl.filterCids.lookmap fun info =>
        if info.cids = wanted then
          some { info with
            cids := info.cids.setEnd (!isReceive) (cids.endOf (!isReceive))
            state := .connected }
        else none }
  else if result = 1 then acl
  else { acl with filterCids := acl.filterCids.eraseP fun info => info.cids = wanted }

def handleAclInfoDisconnectionResponse (acl : AclInfo) (cids : Cids) : AclInfo :=
  if acl.avdtpSignalCh = cids then { acl with avdtpSignalCh := noCids }
  else if acl.rfcommCh = cids then { acl with rfcommCh := noCids }
  else acl

def handleL2capDisconnectionResponse (acl : AclInfo) (isReceive : Bool) (pkt : HciPacket) :
    AclInfo :=
  let cids := responseCids isReceive pkt
  let acl := handleAclInfoDisconnectionResponse acl cids
  { acl with
    filterCids := acl.filterCids.eraseP fun info =>
      info.cids.localCid = cids.localCid || info.cids.peerCid = cids.peerCid }

def handleL2capSignalingChannelData (filterItems : Nat) (alloc : Bool) (acl : AclInfo)
    (isReceive : Bool) (pkt : HciPacket) : AclInfo :=
  if pkt.size = 0 then acl
  else if pkt.byte 0 = 0x02 then handleL2capConnectionRequest filterItems alloc acl isReceive pkt
  else if pkt.byte 0 = 0x03 then handleL2capConnectionResponse acl isReceive pkt
  else if pkt.byte 0 = 0x07 then handleL2capDisconnectionResponse acl isReceive pkt
  else acl

/-! ## Packets of a link -/

def aclHandle (pkt : HciPacket) : Nat := pkt.word 0 % 0x1000
def aclPbFlag (pkt : HciPacket) : Nat := pkt.byte 1 / 16 % 4
def l2capCid (pkt : HciPacket) : Nat := pkt.word 6

def handleLinkData (filterItems : Nat) (alloc : Bool) (acl : AclInfo) (isReceive : Bool)
    (pkt : HciPacket) : AclInfo × Bool :=
  -- BTSNOOP_ACL_PB_CONTINUING
  let continuing := aclPbFlag pkt = 1
  let cids := if continuing then acl.prevCids else noCids.setEnd isReceive (l2capCid pkt)
  let acl := if continuing then acl
    else { acl with prevCids := acl.prevCids.setEnd isReceive (l2capCid pkt) }
  let cid := cids.endOf isReceive
  if cid = l2capSignalingChannelCid ∨ cid = l2capLeSignalingChannelCid then
    (handleL2capSignalingChannelData filterItems alloc acl isReceive (pkt.skip 8), false)
  else
    let found := acl.filterCids.find? (handleL2capData isReceive acl ⟨cids, pkt.skip 8⟩)
    (acl, found.isSome)

def handleAclData (s : SnoopFilter) (alloc : Bool) (isReceive : Bool) (pkt : HciPacket) :
    SnoopFilter × Bool :=
  let here := fun acl : AclInfo => acl.connectionHandle = aclHandle pkt
  match s.aclConnectionList.find? here with
  | none => (s, true)
  | some acl =>
    let (acl, verdict) := handleLinkData s.filterItems alloc acl isReceive pkt
    ({ s with aclConnectionList :=
        s.aclConnectionList.lookmap fun old => if here old then some acl else none }, verdict)

/-! ## Events -/

def handleHciEventConnectComplete (s : SnoopFilter) (alloc : Bool) (pkt : HciPacket) :
    SnoopFilter :=
  if pkt.byte 2 ≠ 0 then s
  else
    let handle := pkt.word 3
    if s.aclConnectionList.any (fun acl => acl.connectionHandle = handle) then s
    else if alloc then { s with aclConnectionList := s.aclConnectionList ++ [newAclInfo handle] }
    else s

def handleHciEventDisconnectComplete (s : SnoopFilter) (pkt : HciPacket) : SnoopFilter :=
  if pkt.byte 2 ≠ 0 then s
  else
    { s with aclConnectionList :=
        s.aclConnectionList.eraseP fun acl => acl.connectionHandle = pkt.word 3 }

def handleHciEvent (s : SnoopFilter) (alloc : Bool) (pkt : HciPacket) : SnoopFilter × Bool :=
  if pkt.byte 0 = 0x03 then (handleHciEventConnectComplete s alloc pkt, false)
  else if pkt.byte 0 = 0x05 then (handleHciEventDisconnectComplete s pkt, false)
  else if pkt.byte 0 = 0x13 then (s, flagSet s.filterItems .nocp)
  else (s, false)

def filterCanFilter (s : SnoopFilter) (alloc : Bool) (isReceive : Bool) (hciPkt : HciPacket) :
    SnoopFilter × Bool :=
  let pkt := hciPkt.skip 1
  match hciPkt.byte 0 with
  | 2 => handleAclData s alloc isReceive pkt
  | 3 => (s, true)
  | 4 => handleHciEvent s alloc pkt
  | 5 => (s, true)
  | _ => (s, false)

end BtFramework.Snoop
