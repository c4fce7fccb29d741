import BtFramework.GattAddElements

/-!
# From a peer's request to its response

A request is reported upward with an id of the element's handle and the kind of request, which
comes back to `bt_sal_gatt_server_send_response`. The handlers of values take `user_data` for
the element; that of a descriptor is a block that holds a pointer to the element, so the low
bits of an address are read as its handle.
-/

namespace BtFramework.Gatts

/-! ## Request ids -/

def gattOpsWriteRequest : UInt32 := 0
def gattOpsReadRequest : UInt32 := 1
def requestIdNorsp : UInt32 := 0xFFFFFFFF

def makeRequestId (handle : UInt16) (opType : UInt32) : UInt32 :=
  opType <<< 31 ||| handle.toUInt32 &&& 0xFFFF

def requestIdHandle (id : UInt32) : UInt16 := (id &&& 0xFFFF).toUInt16

def requestIdOpType (id : UInt32) : UInt32 := id >>> 31 &&& 1

theorem requestIdHandle_makeRequestId (handle : UInt16) (opType : UInt32) :
    requestIdHandle (makeRequestId handle opType) = handle := by
  apply UInt16.toBitVec_inj.mp
  ext i hi
  have hones : (65535#16)[i] = true := BitVec.getElem_allOnes ..
  simp [requestIdHandle, makeRequestId, hones]

theorem requestIdOpType_read (handle : UInt16) :
    requestIdOpType (makeRequestId handle gattOpsReadRequest) = 1 := by
  apply UInt32.toBitVec_inj.mp
  ext i hi
  simp only [requestIdOpType, makeRequestId, gattOpsReadRequest]
  simp
  rintro rfl
  exact .inl rfl

theorem requestIdOpType_write (handle : UInt16) :
    requestIdOpType (makeRequestId handle gattOpsWriteRequest) = 0 := by
  apply UInt32.toBitVec_inj.mp
  ext i hi
  simp only [requestIdOpType, makeRequestId, gattOpsWriteRequest]
  simp
  grind

theorem makeRequestId_ne_norsp (handle : UInt16) (opType : UInt32) :
    makeRequestId handle opType ≠ requestIdNorsp := by
  intro heq
  have hbit := congrArg (·.toBitVec.getLsbD 16) heq
  simp [makeRequestId, requestIdNorsp] at hbit

/-! ## Requests and responses -/

/-- What a peer asks for. -/
inductive PeerOp where
  | read | write | writeCommand
deriving DecidableEq

structure Report where
  requestId : UInt32
  handle : UInt16

inductive Response where
  | read (handle : UInt16)
  | write (handle : UInt16)
deriving DecidableEq

/-- What the handlers read behind `user_data`. -/
structure Memory where
  handle : ElementRef → UInt16
  addr : ElementRef → Nat
  other : UserData → UInt16

def Memory.castHandle (mem : Memory) : UserData → UInt16
  | .element ref => mem.handle ref
  | .userData ref => UInt16.ofNat (mem.addr ref)
  | data => mem.other data

def readValue (mem : Memory) (attr : Attr) : Report :=
  let handle := mem.castHandle attr.userData
  ⟨makeRequestId handle gattOpsReadRequest, handle⟩

def writeValue (mem : Memory) (command : Bool) (attr : Attr) : Report :=
  let handle := mem.castHandle attr.userData
  ⟨if command then requestIdNorsp else makeRequestId handle gattOpsWriteRequest, handle⟩

def btSalOnCccWritten (mem : Memory) (attr : Attr) : Option Report :=
  match attr.userData with
  | .ccc ref => some ⟨gattOpsWriteRequest, mem.handle ref⟩
  | _ => none

def report (mem : Memory) (attr : Attr) : PeerOp → Option Report
  | .read => if attr.read = .value then some (readValue mem attr) else none
  | op =>
    match attr.write with
    | some .value => some (writeValue mem (op = .writeCommand) attr)
    | some .ccc => btSalOnCccWritten mem attr
    | none => none

def sendResponse (requestId : UInt32) : Option Response :=
  if requestId = requestIdNorsp then none
  else if requestIdOpType requestId = gattOpsReadRequest then
    some (.read (requestIdHandle requestId))
  else some (.write (requestIdHandle requestId))

def PeerOp.due (handle : UInt16) : PeerOp → Option Response
  | .read => some (.read handle)
  | .write => some (.write handle)
  | .writeCommand => none

/-! ## The round trip -/

/-- The request names its element, and its response the request. -/
def RoundTrips (mem : Memory) (attr : Attr) (ref : ElementRef) (op : PeerOp) : Prop :=
  ∃ r, report mem attr op = some r ∧ r.handle = mem.handle ref
    ∧ sendResponse r.requestId = op.due (mem.handle ref)

/-- The bytes read as a handle are one: by chance, where they are of a pointer. -/
def Routed (mem : Memory) (attr : Attr) (op : PeerOp) : Prop :=
  match attr.userData with
  | .userData ref => UInt16.ofNat (mem.addr ref) = mem.handle ref
  | .ccc ref => op = .write ∧ mem.handle ref = 0
  | _ => True

theorem sendResponse_read (handle : UInt16) :
    sendResponse (makeRequestId handle gattOpsReadRequest) = some (.read handle) := by
  rw [sendResponse, if_neg (makeRequestId_ne_norsp _ _), requestIdOpType_read,
    requestIdHandle_makeRequestId]
  rfl

theorem sendResponse_write (handle : UInt16) :
    sendResponse (makeRequestId handle gattOpsWriteRequest) = some (.write handle) := by
  rw [sendResponse, if_neg (makeRequestId_ne_norsp _ _), requestIdOpType_write,
    requestIdHandle_makeRequestId]
  rfl

theorem roundTrips_value_iff {mem : Memory} {attr : Attr} {ref : ElementRef}
    (hread : attr.read = .value) (hwrite : attr.write = some .value) (op : PeerOp) :
    RoundTrips mem attr ref op ↔ mem.castHandle attr.userData = mem.handle ref := by
  cases op <;> simp only [RoundTrips, report, hread, hwrite, readValue, writeValue, PeerOp.due]
  · simp [sendResponse_read]
  · simp [sendResponse_write]
  · simp [sendResponse]

/-- **Routing.** A request that is the framework's to answer makes the round trip exactly in these
cases. -/
theorem routing_round_trip_iff (cfg : Config) (o : Outcomes) (table : Nat) (es : List Element)
    (st : Server) (mem : Memory) (attr : Attr)
    (hattr : attr ∈ (tryAddElements cfg o table es st).2.db.drop st.db.length)
    (ref : ElementRef) (href : attr.userData.element? = some ref) (op : PeerOp) :
    RoundTrips mem attr ref op ↔ Routed mem attr op := by
  obtain ⟨k, e, -, -, -, hwired⟩ := added_attr cfg o table es st attr hattr ref href
  rw [Attr.Wired] at hwired
  rw [Routed]
  cases hdata : attr.userData with
  | element r | userData r =>
    rw [hdata] at href hwired
    cases href
    simp [roundTrips_value_iff hwired.1 hwired.2, hdata, Memory.castHandle]
  | ccc r =>
    rw [hdata] at href hwired
    cases href
    cases op with
    | read => simp [RoundTrips, report, hwired.1]
    | write =>
      have hresponse : sendResponse gattOpsWriteRequest = some (.write 0) := by decide
      simp [RoundTrips, report, hwired.2, btSalOnCccWritten, hdata, hresponse, PeerOp.due, eq_comm]
    | writeCommand =>
      have hresponse : sendResponse gattOpsWriteRequest = some (.write 0) := by decide
      simp [RoundTrips, report, hwired.2, btSalOnCccWritten, hdata, hresponse, PeerOp.due]
  | _ => rw [hdata] at href; cases href

def sampleMemory : Memory where
  handle ref := UInt16.ofNat (ref.index + 1)
  addr ref := 0x20001000 + 48 * ref.index
  other _ := 0

theorem value_read_routed :
    RoundTrips sampleMemory ⟨.uuid16 0x2A19, 0x1B3, .value, some .value, .element ⟨0, 1⟩⟩ ⟨0, 1⟩
      .read :=
  (routing_round_trip_iff ⟨1, 4, fun _ => 0⟩ allWell 0 guardedTable
    (Server.init ⟨1, 4, fun _ => 0⟩) sampleMemory _ (by decide) ⟨0, 1⟩ rfl .read).mpr trivial

/-- A read of the description with handle 3 is reported for handle 0x1060. -/
theorem descriptor_read_misrouted :
    ⟨.uuid16 0x2901, 2, .value, some .value, .userData ⟨0, 2⟩⟩ ∈ guardedDb
      ∧ ¬RoundTrips sampleMemory ⟨.uuid16 0x2901, 2, .value, some .value, .userData ⟨0, 2⟩⟩
        ⟨0, 2⟩ .read := by
  refine ⟨by decide, fun h => ?_⟩
  obtain ⟨r, hr, hhandle, -⟩ := h
  cases hr
  exact absurd hhandle (by decide)

end BtFramework.Gatts
