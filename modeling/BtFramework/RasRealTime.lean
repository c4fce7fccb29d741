import BtFramework.RasTypes

/-!
# The Ranging Service server: real-time data

A subevent result in real-time mode is converted and appended to `rtQueue`.
The head of the queue is the item being sent. `csRasSplitRealTimeSegment`
cuts it into segments: in notify mode it sends all of them in one call, in
indication mode one segment a call, and the completion of each indication
calls it again. The MTU is read on every call.
-/

namespace BtFramework

/-! ## Sending an item -/

def rtPayload (s : RasSrv) (item : RasRtQueuedData) (size : Nat) : RasSrv × List UInt8 :=
  ({ s with fault := s.fault || item.data.length < item.segOffset + size },
    (item.data.drop item.segOffset).take size)

def rtSplitLoop : Nat → RasSrv → RasRtQueuedData → RasSrv × RasRtQueuedData
  | 0, s, item => (s, item)
  | fuel + 1, s, item =>
    if item.remaining = 0 then (s, item)
    else if s.rasMtu - rasSegHeaderSize - 1 < item.remaining then
      let size := s.rasMtu - rasSegHeaderSize - 1
      -- the offset moves on before the allocation, `remaining` after it
      let moved := { item with segOffset := item.segOffset + size }
      let (ok, s) := s.alloc
      if !ok then (s, moved)
      else
        let (s, payload) := rtPayload s item size
        let buf := rasSegHeader item.segIdx false :: payload
        let item := { moved with
          remaining := item.remaining - size
          segIdx := (item.segIdx + 1) % 256 }
        if s.rtDtCccCfg = csRasGattNotify then
          let (ok, s) := s.gattsDataSendNotify .realTime true buf (some item.id)
          if ok then rtSplitLoop fuel s item else (s, item)
        else if s.rtDtCccCfg = csRasGattIndication then
          let (ok, s) := s.gattsDataSendNotify .realTime false buf (some item.id)
          if ok then ({ s with rasDtRdIndicating := true }, item) else (s, item)
        else (s, item)
    else
      let size := item.remaining
      let (ok, s) := s.alloc
      if !ok then (s, item)
      else
        let (s, payload) := rtPayload s item size
        let buf := rasSegHeader item.segIdx true :: payload
        let item := { item with segIdx := 0, remaining := 0, segOffset := 0 }
        let s := { s with rasDtRdIndicating := false }
        if s.rtDtCccCfg = csRasGattNotify then
          ((s.gattsDataSendNotify .realTime true buf (some item.id)).2, item)
        else if s.rtDtCccCfg = csRasGattIndication then
          let (ok, s) := s.gattsDataSendNotify .realTime false buf (some item.id)
          if ok then ({ s with rasDtRdIndicating := true }, item) else (s, item)
        else (s, item)

def csRasSplitRealTimeSegment (s : RasSrv) (item : RasRtQueuedData) : RasSrv × RasRtQueuedData :=
  if s.rasMtu ≤ rasSegHeaderSize + 1 then (s, item)
  else rtSplitLoop item.remaining s item

def splitHead (s : RasSrv) (item : RasRtQueuedData) (rest : List RasRtQueuedData) :
    RasSrv :=
  let (s, item) := csRasSplitRealTimeSegment s item
  { s with rtQueue := item :: rest }

def csRasRtTrySendNext (s : RasSrv) : RasSrv :=
  match s.rtQueue with
  | [] => s
  | item :: rest =>
    if item.processing then s
    else splitHead s { item with processing := true } rest

/-! ## Completions -/

def csRasMtuUpdatedCb (s : RasSrv) (mtu : Nat) : RasSrv := { s with rasMtu := mtu }

def rasDtRdIndicateCb (s : RasSrv) : RasSrv :=
  match s.rtQueue with
  | [] => s
  | item :: rest =>
    if 0 < item.remaining then splitHead s item rest
    else csRasRtTrySendNext { s with rtQueue := rest }

def rtNotifyCb (s : RasSrv) : RasSrv :=
  if s.charNotifyState.rttData.indicate then rasDtRdIndicateCb s
  else if s.charNotifyState.rttData.notify then
    match s.rtQueue with
    | [] => s
    | item :: rest =>
      if item.remaining = 0 then csRasRtTrySendNext { s with rtQueue := rest }
      else s
  else s

/-! ## Queueing a result -/

def csRasRtQueueRemoveOld : List RasRtQueuedData → Option (List RasRtQueuedData)
  | [] => none
  | item :: rest =>
    if !item.processing then some rest
    else (csRasRtQueueRemoveOld rest).map (item :: ·)

def rtMakeRoom : Nat → List RasRtQueuedData → Bool × List RasRtQueuedData
  | 0, q => (true, q)
  | fuel + 1, q =>
    if rasRtQueueMax ≤ q.length then
      match csRasRtQueueRemoveOld q with
      | none => (false, q)
      | some q => rtMakeRoom fuel q
    else (true, q)

def csRasProcessRealTimeRangingData (s : RasSrv) (result : CsSubeventResult) : RasSrv :=
  let (ok, s) := s.alloc
  if !ok then s
  else
    let data := rasSubeventDataConversion s.rasFilter s.roleInitiator result
    let (room, queue) := rtMakeRoom s.rtQueue.length s.rtQueue
    let s := { s with rtQueue := queue }
    if !room then s
    else
      let (ok, s) := s.alloc
      if !ok then s
      else
        let item : RasRtQueuedData :=
          { id := s.nextId, processing := false, dataLen := data.length
            segOffset := 0, remaining := data.length, segIdx := 0, data := data }
        csRasRtTrySendNext { s with
          nextId := s.nextId + 1
          rtQueue := s.rtQueue ++ [item] }

end BtFramework
