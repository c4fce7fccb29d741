import BtFramework.RasFormat

/-!
# The Ranging Service server: state

Queued real-time items and stored on-demand procedures are heap objects, numbered by allocation;
a pointer to a segment node is the number of its procedure with the position in its list
(`OdCursor`). Following a pointer whose object is gone sets `fault`, and the handler stops.

The results of a handler's allocations and sends are loaded into the state before it runs;
results that are not given are successes. Accepted sends are appended to `sent`.
-/

namespace BtFramework

open List

def rasRtQueueMax : Nat := 5

def rasOdProcedureMax : Nat := 10

/-! ## Characteristics -/

inductive RasAttr where
  | realTime | onDemand | controlPoint | dataReady
deriving DecidableEq

structure RasCcc where
  notify : Bool
  indicate : Bool
deriving DecidableEq

def csRasGattNotify : Nat := 1

def csRasGattIndication : Nat := 2

def RasCcc.cfgChanged (c : RasCcc) (value : Nat) : RasCcc :=
  if value = 0 then { notify := false, indicate := false }
  else if value = csRasGattNotify then { c with notify := true }
  else { c with indicate := true }

def RasCcc.enabled (c : RasCcc) : Bool := c.notify || c.indicate

structure RasCharNotifyState where
  rttData : RasCcc
  onDemandData : RasCcc
  controlPoint : RasCcc
  dataReady : RasCcc
  overWrite : RasCcc

/-! ## Queued and stored data -/

/-- An item of the real-time queue. -/
structure RasRtQueuedData where
  id : Nat
  processing : Bool
  dataLen : Nat
  segOffset : Nat
  remaining : Nat
  segIdx : Nat
  data : List UInt8

structure RasSegment where
  segIdx : Nat
  len : Nat
  data : List UInt8
deriving DecidableEq

/-- A stored procedure. -/
structure RasOdProcedure where
  id : Nat
  processing : Bool
  count : Nat
  onDemandTimer : Bool
  segList : List RasSegment
  nextSegIndex : Nat
deriving DecidableEq

structure OdCursor where
  procId : Nat
  pos : Nat
deriving DecidableEq

inductive OnDemandState where
  | idle | busy | complete
deriving DecidableEq

structure RasSend where
  attr : RasAttr
  isNotify : Bool
  value : List UInt8
  owner : Option Nat

/-! ## The server -/

/-- `ras_srv_env_t`, as far as the handlers use it, with the allocation
counter, the results still to come, and what was sent. `connected` tells
whether `addr` is set. -/
structure RasSrv where
  connected : Bool
  rtDtCccCfg : Nat
  rasDtRdIndicating : Bool
  roleInitiator : Bool
  rasMtu : Nat
  charNotifyState : RasCharNotifyState
  rasFilter : List Nat
  onDemandState : OnDemandState
  onDemandCurrNode : Option OdCursor
  procedureCount : Nat
  rtQueue : List RasRtQueuedData
  odProcedureList : List RasOdProcedure
  nextId : Nat
  allocResults : List Bool
  sendResults : List Bool
  sent : List RasSend
  fault : Bool

/-- The server as it is enabled. The `memset` of the source leaves 0 in `on_demand_state`, which is
none of its values; `ras_conn_cb` sets it to idle, which stands here from the start. -/
def rasSrvEnabled : RasSrv where
  connected := false
  rtDtCccCfg := 0
  rasDtRdIndicating := false
  roleInitiator := true
  rasMtu := 0
  charNotifyState := ⟨⟨false, false⟩, ⟨false, false⟩, ⟨false, false⟩, ⟨false, false⟩,
    ⟨false, false⟩⟩
  rasFilter := [0xFFFF, 0xFFFF, 0xFFFF, 0xFFFF]
  onDemandState := .idle
  onDemandCurrNode := none
  procedureCount := 0
  rtQueue := []
  odProcedureList := []
  nextId := 0
  allocResults := []
  sendResults := []
  sent := []
  fault := false

namespace RasSrv

def alloc (s : RasSrv) : Bool × RasSrv :=
  match s.allocResults with
  | [] => (true, s)
  | ok :: rest => (ok, { s with allocResults := rest })

def gattsDataSendNotify (s : RasSrv) (attr : RasAttr) (isNotify : Bool)
    (value : List UInt8) (owner : Option Nat) : Bool × RasSrv :=
  let send := { attr, isNotify, value := value.take (value.length % 65536), owner }
  match s.sendResults with
  | [] => (true, { s with sent := s.sent ++ [send] })
  | true :: rest => (true, { s with sendResults := rest, sent := s.sent ++ [send] })
  | false :: rest => (false, { s with sendResults := rest })

/-- A send in the mode the characteristic is configured for: notify if its
notify bit is set, else indicate if its indicate bit is set. `none` if neither
is. -/
def sendConfigured (s : RasSrv) (ccc : RasCcc) (attr : RasAttr)
    (value : List UInt8) : Option (Bool × RasSrv) :=
  if ccc.notify then some (s.gattsDataSendNotify attr true value none)
  else if ccc.indicate then some (s.gattsDataSendNotify attr false value none)
  else none

def AllSucceed (s : RasSrv) : Prop :=
  (∀ r ∈ s.allocResults, r = true) ∧ ∀ r ∈ s.sendResults, r = true

theorem alloc_eq_headD (s : RasSrv) : s.alloc
    = (s.allocResults.headD true, { s with allocResults := s.allocResults.tail }) := by
  unfold alloc
  split
  next h =>
    cases s
    cases h
    rfl
  next h => rw [h, headD_cons, tail_cons]

theorem alloc_eq {s : RasSrv} (h : ∀ r ∈ s.allocResults, r = true) :
    s.alloc = (true, { s with allocResults := s.allocResults.tail }) := by
  rw [alloc_eq_headD]
  cases hr : s.allocResults with
  | nil => rfl
  | cons r rest => rw [headD_cons, h r (by rw [hr]; exact mem_cons_self ..)]

theorem fst_gattsDataSendNotify {s : RasSrv} {attr : RasAttr} {isNotify : Bool}
    {value : List UInt8} {owner : Option Nat} :
    (s.gattsDataSendNotify attr isNotify value owner).1 = s.sendResults.headD true := by
  unfold gattsDataSendNotify
  split
  next h => rw [h]; rfl
  next h => rw [h]; rfl
  next h => rw [h]; rfl

end RasSrv

end BtFramework
