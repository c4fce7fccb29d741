import BtFramework.RasRealTime
import BtFramework.RasOnDemand

/-!
# The Ranging Service server: events
-/

namespace BtFramework

/-! ## Connection -/

def rasConnCb (s : RasSrv) : RasSrv :=
  if s.connected then s
  else
    let (ok, s) := s.alloc
    if !ok then s else { s with connected := true, onDemandState := .idle }

def rasDisconnCb (s : RasSrv) : RasSrv :=
  if !s.connected then s
  else { s with rtQueue := [], odProcedureList := [], connected := false }

/-! ## Subevent results -/

inductive RasRangingMode where
  | realTime | onDemand | undefined
deriving DecidableEq

def rasCheckRangingMode (s : RasSrv) : RasRangingMode :=
  if s.charNotifyState.rttData.enabled then .realTime
  else if s.charNotifyState.onDemandData.enabled then .onDemand
  else .undefined

def csRasSubeventResultCb (s : RasSrv) (result : CsSubeventResult) : RasSrv :=
  if result.header.subeventDoneStatus = csComplete ∧ rasCheckRangingMode s = .realTime then
    csRasProcessRealTimeRangingData s result
  else if rasCheckRangingMode s = .onDemand then
    csRasProcessOnDemandRangingData s result (result.header.procedureDoneStatus = csComplete)
  else s

/-! ## CCC writes -/

inductive RasCccCfgChangeEvt where
  | rttData | onDemandData | ctrPt | dataReady | overWrite
deriving DecidableEq

def rangeRttDtCccCfgChanged (s : RasSrv) (value : Nat) : RasSrv :=
  if value ≠ 0 ∧ s.charNotifyState.onDemandData.enabled = true then s
  else { s with
    charNotifyState := { s.charNotifyState with
      rttData := s.charNotifyState.rttData.cfgChanged value }
    rtDtCccCfg := value % 256 }

def rangeOnDemDtCccCfgChanged (s : RasSrv) (value : Nat) : RasSrv :=
  if value ≠ 0 ∧ s.charNotifyState.rttData.enabled = true then s
  else { s with charNotifyState := { s.charNotifyState with
      onDemandData := s.charNotifyState.onDemandData.cfgChanged value } }

def csRasGattsCccCfgCb (s : RasSrv) (event : RasCccCfgChangeEvt) (value : List UInt8) :
    RasSrv :=
  match value with
  | [lo, hi] =>
    let v := lo.toNat + 256 * hi.toNat
    let bits := s.charNotifyState
    match event with
    | .rttData => rangeRttDtCccCfgChanged s v
    | .onDemandData => rangeOnDemDtCccCfgChanged s v
    | .ctrPt =>
      { s with charNotifyState := { bits with
          controlPoint := bits.controlPoint.cfgChanged v } }
    | .dataReady =>
      { s with charNotifyState := { bits with
          dataReady := bits.dataReady.cfgChanged v } }
    | .overWrite =>
      { s with charNotifyState := { bits with
          overWrite := bits.overWrite.cfgChanged v } }
  | _ => s

/-! ## Control point writes -/

def rasSetFilter (s : RasSrv) (filterValue : Nat) : RasSrv :=
  { s with rasFilter := s.rasFilter.set (filterValue % 4) filterValue }

/-- The commands of the control point, by opcode. -/
def onRasCtrPtWriteCb (s : RasSrv) (buf : List UInt8) : RasSrv :=
  match buf with
  | [0x00, lo, hi] => rasOndemandSendRangingData s (lo.toNat + 256 * hi.toNat)
  | [0x01, lo, hi] => rasOnDemandSendCodeRsp s (lo.toNat + 256 * hi.toNat)
  | [0x02, lo, hi, first, last] =>
    rasOnDemandRetrieveSendLostData s (lo.toNat + 256 * hi.toNat) first.toNat last.toNat
  | [0x04, lo, hi, _, _] => rasSetFilter s (lo.toNat + 256 * hi.toNat)
  | _ => s

/-! ## Completions -/

def rasRangOnDemandSendReady (s : RasSrv) : RasSrv :=
  let minCount := s.odProcedureList.foldl (fun m p => if p.count < m then p.count else m) 0xFFFF
  if minCount < 0xFFFF then
    match csRasDataReadySend s minCount with
    | (true, s) => { s with onDemandState := .busy }
    | (false, s) => s
  else s

def rasNotifyCb (s : RasSrv) (statusOk : Bool) (attr : RasAttr) : RasSrv :=
  if !statusOk then s
  else
    match attr with
    | .realTime => rtNotifyCb s
    | .onDemand =>
      if s.charNotifyState.onDemandData.notify then csRasOnDemandFinished true s
      else if s.charNotifyState.onDemandData.indicate then csRasOnDemandFinished false s
      else s
    | .controlPoint =>
      if s.onDemandState = .complete then
        rasRangOnDemandSendReady { s with onDemandState := .idle }
      else s
    | .dataReady => s

/-! ## The server as a system -/

inductive RasEvent where
  | connect
  | disconnect
  | subevent (result : CsSubeventResult)
  | cccWrite (event : RasCccCfgChangeEvt) (value : List UInt8)
  | controlPointWrite (buf : List UInt8)
  | mtuUpdated (mtu : Nat)
  | notifyCb (statusOk : Bool) (attr : RasAttr)
  | timeout (id : Nat)
deriving DecidableEq

/-- An event, with the results its allocations and sends will have. -/
structure RasInput where
  event : RasEvent
  allocs : List Bool
  sends : List Bool

def rasHandle (s : RasSrv) : RasEvent → RasSrv
  | .connect => rasConnCb s
  | .disconnect => rasDisconnCb s
  | .subevent result => csRasSubeventResultCb s result
  | .cccWrite event value => csRasGattsCccCfgCb s event value
  | .controlPointWrite buf => onRasCtrPtWriteCb s buf
  | .mtuUpdated mtu => csRasMtuUpdatedCb s mtu
  | .notifyCb statusOk attr => rasNotifyCb s statusOk attr
  | .timeout id => rasOnDemandDataSendTimeout s id

/-- The server takes one event. -/
def rasStep (s : RasSrv) (i : RasInput) : RasSrv :=
  rasHandle { s with allocResults := i.allocs, sendResults := i.sends } i.event

end BtFramework
