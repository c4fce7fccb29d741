import BtFramework.Keyed
import BtFramework.RasTypes

/-!
# The Ranging Service server: on-demand data

In on-demand mode the segments of a procedure are built as its subevent results arrive and kept
until the client has acknowledged them. Get sends the first segment and leaves
`onDemandCurrNode` at the second; every completion sends the segment the cursor is at, and one
that finds no cursor ends the transfer with a response on the control point.
-/

namespace BtFramework

/-! ## The procedure list -/

def csRasOdFindProcedure (s : RasSrv) (count : Nat) : Option RasOdProcedure :=
  s.odProcedureList.find? (·.count = count)

def updateProcedure (s : RasSrv) (id : Nat) (f : RasOdProcedure → RasOdProcedure) : RasSrv :=
  { s with odProcedureList := Keyed.update (·.id) id f s.odProcedureList }

def removeProcedure (s : RasSrv) (id : Nat) : RasSrv :=
  { s with odProcedureList := Keyed.remove (·.id) id s.odProcedureList }

def csRasOdRemoveOld : List RasOdProcedure → Option (List RasOdProcedure)
  | [] => none
  | proc :: rest =>
    if !proc.processing then some rest
    else (csRasOdRemoveOld rest).map (proc :: ·)

def odMakeRoom : Nat → List RasOdProcedure → Bool × List RasOdProcedure
  | 0, l => (true, l)
  | fuel + 1, l =>
    if rasOdProcedureMax ≤ l.length then
      match csRasOdRemoveOld l with
      | none => (false, l)
      | some l => odMakeRoom fuel l
    else (true, l)

def csRasOdAllocProcedure (s : RasSrv) (count : Nat) : Option Nat × RasSrv :=
  match csRasOdFindProcedure s count with
  | some existing => (some existing.id, s)
  | none =>
    let (room, list) := odMakeRoom s.odProcedureList.length s.odProcedureList
    let s := { s with odProcedureList := list }
    if !room then (none, s)
    else
      let (ok, s) := s.alloc
      if !ok then (none, s)
      else
        let proc : RasOdProcedure :=
          { id := s.nextId, processing := false, count := count
            onDemandTimer := false, segList := [], nextSegIndex := 0 }
        (some proc.id, { s with
          nextId := s.nextId + 1
          odProcedureList := s.odProcedureList ++ [proc] })

/-! ## Building segments -/

def odAppend (proc : RasOdProcedure) (payload : List UInt8) (isLast : Bool) :
    RasOdProcedure :=
  { proc with
    segList := proc.segList ++
      [{ segIdx := proc.nextSegIndex
         len := (payload.length + 1) % 65536
         data := rasSegHeader proc.nextSegIndex isLast :: payload }]
    nextSegIndex := (proc.nextSegIndex + 1) % 65536 }

def odSplitLoop : Nat → RasSrv → RasOdProcedure → List UInt8 → Bool →
    Bool × RasSrv × RasOdProcedure
  | 0, s, proc, _, _ => (true, s, proc)
  | fuel + 1, s, proc, buf, isLastSubevent =>
    let cap := s.rasMtu - rasSegHeaderSize - 1
    let (ok, s) := s.alloc
    if cap < buf.length then
      if !ok then (false, s, proc)
      else
        odSplitLoop fuel s (odAppend proc (buf.take cap) false) (buf.drop cap) isLastSubevent
    else if !ok then (false, s, proc)
    else (true, s, odAppend proc buf isLastSubevent)

def csRasSplitOnDemandSegment (s : RasSrv) (buf : List UInt8) (proc : RasOdProcedure)
    (isLastSubevent : Bool) : RasSrv × RasOdProcedure :=
  if s.rasMtu ≤ rasSegHeaderSize + 1 then (s, proc)
  else
    let (finished, s, proc) := odSplitLoop (buf.length + 1) s proc buf isLastSubevent
    if finished && isLastSubevent && !proc.onDemandTimer then
      let (ok, s) := s.alloc
      (s, { proc with onDemandTimer := ok })
    else (s, proc)

def csRasDataReadySend (s : RasSrv) (count : Nat) : Bool × RasSrv :=
  -- the counter is sent from memory, low byte first
  let value := [UInt8.ofNat count, UInt8.ofNat (count / 256)]
  (s.sendConfigured s.charNotifyState.dataReady .dataReady value).getD (false, s)

def csRasProcessOnDemandRangingData (s : RasSrv) (result : CsSubeventResult)
    (procedureComplete : Bool) : RasSrv :=
  match csRasOdAllocProcedure s result.header.procedureCounter with
  | (none, s) => s
  | (some id, s) =>
    let (ok, s) := s.alloc
    if !ok then s
    else
      match s.odProcedureList.find? (·.id = id) with
      | none => s
      | some proc =>
        let data := rasSubeventDataConversion s.rasFilter s.roleInitiator result
        let (s, proc) := csRasSplitOnDemandSegment s data proc procedureComplete
        let s := updateProcedure s id fun _ => proc
        if procedureComplete && s.onDemandState = .idle then
          { (csRasDataReadySend s proc.count).2 with onDemandState := .busy }
        else s

/-! ## Control point responses -/

def csRasOnDemandSendCmpRangingDataRsp (s : RasSrv) (count : Nat) : RasSrv :=
  let buf := [0x00, UInt8.ofNat count, UInt8.ofNat (count / 256)]
  match s.sendConfigured s.charNotifyState.controlPoint .controlPoint buf with
  | some (true, s) => { s with onDemandState := .complete }
  | some (false, s) => s
  | none => s

/-- The acknowledgement: respond, then free the procedure unless it is being
sent. Without a configured control point the response is skipped and the
procedure freed all the same. -/
def rasOnDemandSendCodeRsp (s : RasSrv) (count : Nat) : RasSrv :=
  let odProc := csRasOdFindProcedure s count
  let buf := [0x02, 0x01]
  match s.sendConfigured s.charNotifyState.controlPoint .controlPoint buf with
  | some (false, s) => s
  | some (true, s) => release s odProc
  | none => release s odProc
where
  release (s : RasSrv) : Option RasOdProcedure → RasSrv
    | some proc => if proc.processing then s else removeProcedure s proc.id
    | none => s

def rasOnDemandSendLostRangingDataCmpRsp (s : RasSrv) (count first last : Nat) : RasSrv :=
  let buf := [0x02, UInt8.ofNat count, UInt8.ofNat (count / 256), UInt8.ofNat first,
    UInt8.ofNat last]
  match s.sendConfigured s.charNotifyState.controlPoint .controlPoint buf with
  | some (_, s) => s
  | none => s

/-! ## Transfers -/

def sendSegment (s : RasSrv) (seg : RasSegment) (isNotify : Bool) : Bool × RasSrv :=
  s.gattsDataSendNotify .onDemand isNotify (seg.data.take seg.len) none

def setProcessing (b : Bool) (proc : RasOdProcedure) : RasOdProcedure :=
  { proc with processing := b }

def nextNode (proc : RasOdProcedure) (pos : Nat) : Option OdCursor :=
  if pos + 1 < proc.segList.length then some { procId := proc.id, pos := pos + 1 } else none

def rasOndemandSendRangingData (s : RasSrv) (count : Nat) : RasSrv :=
  if !s.charNotifyState.onDemandData.enabled then s
  else
    match csRasOdFindProcedure s count with
    | none => s
    | some proc =>
      match proc.segList with
      | [] => updateProcedure s proc.id (setProcessing false)
      | seg :: _ =>
        let s := updateProcedure s proc.id (setProcessing true)
        let (ok, s) := sendSegment s seg s.charNotifyState.onDemandData.notify
        if !ok then updateProcedure s proc.id (setProcessing false)
        else { s with
          onDemandCurrNode := nextNode proc 0
          procedureCount := count }

def csRasOnDemandFinished (isNotify : Bool) (s : RasSrv) : RasSrv :=
  match s.onDemandCurrNode with
  | none =>
    match csRasOdFindProcedure s s.procedureCount with
    | none => s
    | some proc =>
      csRasOnDemandSendCmpRangingDataRsp
        (updateProcedure s proc.id (setProcessing false)) s.procedureCount
  | some cur =>
    -- the node is read through the pointer, whatever has become of its list
    match (s.odProcedureList.find? (·.id = cur.procId)).bind fun owner =>
        owner.segList[cur.pos]?.map (owner, ·) with
    | none => { s with fault := true }
    | some (owner, seg) =>
      let s := { s with onDemandCurrNode := nextNode owner cur.pos }
      let (ok, s) := sendSegment s seg isNotify
      if ok then s
      else
        match csRasOdFindProcedure s s.procedureCount with
        | none => { s with onDemandCurrNode := none }
        | some proc => updateProcedure s proc.id (setProcessing false)

/-- The loop of `ras_on_demand_retrieve_send_lost_data` over the segments, and
whether all its sends were accepted. The mode is taken from the control point's
bits. -/
def sendLostSegments (first last : Nat) : RasSrv → List RasSegment → Bool × RasSrv
  | s, [] => (true, s)
  | s, seg :: rest =>
    if first ≤ seg.segIdx ∧ seg.segIdx ≤ last then
      let ccc := s.charNotifyState.controlPoint
      if ccc.enabled then
        match sendSegment s seg ccc.notify with
        | (true, s) => sendLostSegments first last s rest
        | (false, s) => (false, s)
      else sendLostSegments first last s rest
    else if last < seg.segIdx then (true, s)
    else sendLostSegments first last s rest

def rasOnDemandRetrieveSendLostData (s : RasSrv) (count first last : Nat) : RasSrv :=
  match csRasOdFindProcedure s count with
  | none => s
  | some proc =>
    match sendLostSegments first last s proc.segList with
    | (true, s) => rasOnDemandSendLostRangingDataCmpRsp s count first last
    | (false, s) => s

/-! ## Timeouts -/

def rasOnDemandDataSendTimeout (s : RasSrv) (id : Nat) : RasSrv :=
  match s.odProcedureList.find? (·.id = id) with
  | none => s
  | some proc =>
    if !proc.onDemandTimer then s
    else if proc.processing then
      updateProcedure s id fun p => { p with onDemandTimer := false }
    else removeProcedure s id

end BtFramework
