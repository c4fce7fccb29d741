import BtFramework.IndexAllocator
import BtFramework.Keyed

/-!
# Advertisers and advertising sets

`advertising.c` keeps the advertisers of the applications, each under an advertising id.
`sal_le_advertise_interface.c` starts and stops advertising in worker threads, keeps the table
`g_adv_sets` of the sets it created, and reports what became of them by id.
-/

namespace BtFramework

/-! ## Parameters and data of a request -/

inductive AdvType where
  | advInd | advDirectInd | advScanInd | advNonconnInd | scanRsp
  | extAdvInd | extAdvDirectInd | extAdvScanInd | extAdvNonconnInd | extScanRsp
  | legacyAdvInd | legacyAdvDirectInd | legacyAdvScanInd | legacyAdvNonconnInd | legacyScanRsp
  | invalid

structure AdvParams where
  advType : AdvType
  channelMapValid : Bool

structure AdvOptions where
  extAdv : Bool
  scannable : Bool

def zblueLeExtConvertParam (params : AdvParams) : Option AdvOptions :=
  let options : Option AdvOptions :=
    match params.advType with
    | .advInd | .extAdvInd => some { extAdv := true, scannable := false }
    | .advScanInd | .extAdvScanInd => some { extAdv := true, scannable := true }
    | .advDirectInd | .extAdvDirectInd => some { extAdv := true, scannable := false }
    | .scanRsp | .extScanRsp | .advNonconnInd | .extAdvNonconnInd =>
      some { extAdv := true, scannable := false }
    | .legacyAdvInd => some { extAdv := false, scannable := true }
    | .legacyAdvDirectInd => some { extAdv := false, scannable := false }
    | .legacyAdvScanInd => some { extAdv := false, scannable := true }
    | .legacyAdvNonconnInd | .legacyScanRsp => some { extAdv := false, scannable := false }
    | .invalid => none
  if params.channelMapValid then options else none

/-- An AD structure: type and payload. -/
structure AdvSegment where
  type : UInt8
  data : List UInt8
deriving DecidableEq

def parseItems : Nat → List UInt8 → Option (List AdvSegment)
  | _, [] => some []
  | room, itemLen :: rest =>
    if itemLen = 0 then some []
    else if itemLen.toNat < 2 then none
    else if rest.length < itemLen.toNat then none
    else
      match room with
      | 0 => none
      | room + 1 =>
        (parseItems room (rest.drop itemLen.toNat)).map
          ({ type := rest.headD 0, data := (rest.take itemLen.toNat).tail } :: ·)

/-- `parse_bt_adv_data`: at most `outMax` structures, or nothing. -/
def parseBtAdvData (raw : List UInt8) (outMax : Nat) : Option (List AdvSegment) :=
  if outMax = 0 then none else parseItems outMax raw

/-! ## The state -/

/-- The limits of the build. -/
structure AdvConfig where
  extSupported : Bool
  advertiserMaxNum : Nat
  maxAdvSet : Nat
  maxAdvSegment : Nat

structure Advertiser where
  ptr : Nat
  advId : Nat
  advStart : Bool

/-- An entry of `g_adv_sets`; `owner` is the advertiser it was created for, which no function reads.
-/
structure AdvSet where
  advId : Nat
  owner : Nat
deriving DecidableEq

inductive AdvCall where
  | startAdv (advId owner : Nat) (advData scanRspData : List UInt8)
  | stopAdv (advId : Nat)

/-- A request handed to a worker thread. -/
structure AdvWork where
  req : Nat
  call : AdvCall

inductive AdvState where
  | started | stopped
deriving DecidableEq

/-- A report on its way to the service; `origin` is the owner of the set it is about. -/
structure AdvEvent where
  msg : Nat
  advId : Nat
  state : AdvState
  origin : Option Nat
deriving DecidableEq

inductive AdvOutcome where
  | startSuccess | startNomem | startTimeout | stackErr | stopped
deriving DecidableEq

structure AdvReport where
  advertiser : Nat
  advId : Nat
  outcome : AdvOutcome
  origin : Option Nat
deriving DecidableEq

/-- Works that have not run and events that have not been handled are taken in any order. -/
structure AdvSystem where
  started : Bool
  ids : IndexAllocator
  advertisers : List Advertiser
  sets : Nat → Option AdvSet
  works : List AdvWork
  events : List AdvEvent
  next : Nat
  reports : List AdvReport

namespace AdvSystem

def init (cfg : AdvConfig) : AdvSystem :=
  { started := true, ids := .create cfg.advertiserMaxNum, advertisers := []
    sets := fun _ => none, works := [], events := [], next := 0, reports := [] }

def report (s : AdvSystem) (advertiser advId : Nat) (outcome : AdvOutcome)
    (origin : Option Nat) : AdvSystem :=
  { s with reports := s.reports ++ [{ advertiser, advId, outcome, origin }] }

def sendReq (s : AdvSystem) (call : AdvCall) : AdvSystem :=
  { s with works := s.works ++ [{ req := s.next, call }], next := s.next + 1 }

def advertisingOnStateChanged (s : AdvSystem) (advId : Nat) (state : AdvState)
    (origin : Option Nat) : AdvSystem :=
  { s with
    events := s.events ++ [{ msg := s.next, advId, state, origin }], next := s.next + 1 }

def dropAdvertiser (s : AdvSystem) (adver : Advertiser) : AdvSystem :=
  { s with
    advertisers := Keyed.remove (·.ptr) adver.ptr s.advertisers
    ids := s.ids.indexFree (adver.advId - 1) }

def getAdvertiserIfExist (s : AdvSystem) (advId : Nat) : Option Advertiser :=
  s.advertisers.find? (·.advId = advId)

/-! ## Requests -/

structure AdvSendEnv where
  alloc : Bool
  queued : Bool

def btSalLeStartAdv (cfg : AdvConfig) (env : AdvSendEnv) (params : AdvParams)
    (advData scanRspData : List UInt8) : Option (List UInt8 × List UInt8) :=
  match zblueLeExtConvertParam params with
  | none => none
  | some options =>
    if options.extAdv && !cfg.extSupported then none
    else if !env.alloc || !env.queued then none
    else some
      (if !options.scannable || !options.extAdv then advData else [],
        if options.scannable || !options.extAdv then scanRspData else [])

def advertiserStartEvent (cfg : AdvConfig) (s : AdvSystem) (env : AdvSendEnv) (timer : Bool)
    (params : AdvParams) (advData scanRspData : List UInt8) : AdvSystem :=
  let ptr := s.next
  let s := { s with next := s.next + 1 }
  if !s.started then s
  else
    match s.ids.indexAlloc with
    | (none, ids) => { s with ids }.report ptr 0 .startNomem none
    | (some id, ids) =>
      match btSalLeStartAdv cfg env params advData scanRspData with
      | none => { s with ids := ids.indexFree id }.report ptr 0 .stackErr none
      | some (advData, scanRspData) =>
        let adver : Advertiser := { ptr, advId := id + 1, advStart := timer }
        { s with ids, advertisers := s.advertisers ++ [adver] }.sendReq
          (.startAdv adver.advId ptr advData scanRspData)

inductive AdvTarget where
  | advertiser (ptr : Nat)
  | id (advId : Nat)

def findTarget (s : AdvSystem) : AdvTarget → Option Advertiser
  | .advertiser ptr => s.advertisers.find? (·.ptr = ptr)
  | .id advId => s.getAdvertiserIfExist advId

def advertiserStopEvent (s : AdvSystem) (env : AdvSendEnv) (target : AdvTarget) : AdvSystem :=
  if !s.started then s
  else
    match s.findTarget target with
    | none => s
    | some adver =>
      if env.alloc && env.queued then s.sendReq (.stopAdv adver.advId) else s

def startAdvertisingTimeout (s : AdvSystem) (ptr : Nat) : AdvSystem :=
  match s.advertisers.find? (·.ptr = ptr) with
  | none => s
  | some adver =>
    if !adver.advStart then s
    else (s.dropAdvertiser adver).report ptr 0 .startTimeout none

def advertiserNotifyState (s : AdvSystem) (event : AdvEvent) : AdvSystem :=
  if !s.started then s
  else
    match s.getAdvertiserIfExist event.advId with
    | none => s
    | some adver =>
      match event.state with
      | .started =>
        { s with
          advertisers := Keyed.update (·.ptr) adver.ptr ({ · with advStart := false }) s.advertisers
        }.report adver.ptr event.advId .startSuccess event.origin
      | .stopped =>
        (s.dropAdvertiser adver).report adver.ptr event.advId .stopped event.origin

def cleanupAdvertiser (env : AdvSendEnv) (s : AdvSystem) (adver : Advertiser) : AdvSystem :=
  ((if env.alloc && env.queued then s.sendReq (.stopAdv adver.advId) else s).dropAdvertiser adver)
    |>.report adver.ptr adver.advId .stopped none

def advertisersCleanup (s : AdvSystem) (env : AdvSendEnv) : AdvSystem :=
  if !s.started then s
  else { s.advertisers.foldl (cleanupAdvertiser env) s with started := false }

/-! ## The worker threads and the stack -/

/-- How the calls of a start end: the index of the set, its entry, its data and the start. -/
structure AdvStartEnv where
  created : Option Nat
  alloc : Bool
  setData : Bool
  start : Bool

def zblueLeExtCreate (cfg : AdvConfig) (s : AdvSystem) (env : AdvStartEnv) (advId owner : Nat) :
    Option AdvSystem :=
  match env.created with
  | none => none
  | some index =>
    if cfg.maxAdvSet ≤ index ∨ (s.sets index).isSome then none
    else if !env.alloc then none
    else some { s with sets := Function.update s.sets index (some { advId, owner }) }

def zblueStartAdv (cfg : AdvConfig) (s : AdvSystem) (env : AdvStartEnv) (advId owner : Nat)
    (advData scanRspData : List UInt8) : AdvSystem :=
  if (parseBtAdvData advData cfg.maxAdvSegment).isNone then s
  else if (parseBtAdvData scanRspData cfg.maxAdvSegment).isNone then s
  else if cfg.extSupported then
    match zblueLeExtCreate cfg s env advId owner with
    | none => s
    | some s =>
      if !env.setData then s
      else if !env.start then s
      else s.advertisingOnStateChanged advId .started (some owner)
  else if !env.start then s
  else s.advertisingOnStateChanged advId .started none

def zblueLeExtFindAdv (cfg : AdvConfig) (s : AdvSystem) (advId : Nat) : Option Nat :=
  (List.range cfg.maxAdvSet).find? fun index => (s.sets index).any (·.advId = advId)

structure AdvStopEnv where
  stop : Bool
  delete : Bool

def zblueStopAdv (cfg : AdvConfig) (s : AdvSystem) (env : AdvStopEnv) (advId : Nat) : AdvSystem :=
  if !cfg.extSupported then
    if !env.stop then s else s.advertisingOnStateChanged advId .stopped none
  else
    match zblueLeExtFindAdv cfg s advId with
    | none => s
    | some index =>
      if !env.stop then s
      else if !env.delete then s
      else
        { s with sets := Function.update s.sets index none }.advertisingOnStateChanged advId
          .stopped ((s.sets index).map AdvSet.owner)

def extAdvTerminatedCb (s : AdvSystem) (delete : Bool) (index : Nat) : AdvSystem :=
  match s.sets index with
  | none => s
  | some set =>
    let s := s.advertisingOnStateChanged set.advId .stopped (some set.owner)
    if delete then { s with sets := Function.update s.sets index none } else s

def runWork (cfg : AdvConfig) (s : AdvSystem) (startEnv : AdvStartEnv) (stopEnv : AdvStopEnv)
    (req : Nat) : AdvSystem :=
  match s.works.find? (·.req = req) with
  | none => s
  | some work =>
    let s := { s with works := Keyed.remove (·.req) req s.works }
    match work.call with
    | .startAdv advId owner advData scanRspData =>
      s.zblueStartAdv cfg startEnv advId owner advData scanRspData
    | .stopAdv advId => s.zblueStopAdv cfg stopEnv advId

def deliver (s : AdvSystem) (msg : Nat) : AdvSystem :=
  match s.events.find? (·.msg = msg) with
  | none => s
  | some event =>
    { s with events := Keyed.remove (·.msg) msg s.events }.advertiserNotifyState event

/-- What may happen next. -/
inductive Input where
  | start (env : AdvSendEnv) (timer : Bool) (params : AdvParams) (advData scanRspData : List UInt8)
  | stop (env : AdvSendEnv) (target : AdvTarget)
  | timeout (ptr : Nat)
  | work (startEnv : AdvStartEnv) (stopEnv : AdvStopEnv) (req : Nat)
  | terminated (delete : Bool) (index : Nat)
  | event (msg : Nat)
  | cleanup (env : AdvSendEnv)

def step (cfg : AdvConfig) (s : AdvSystem) : Input → AdvSystem
  | .start env timer params advData scanRspData =>
    s.advertiserStartEvent cfg env timer params advData scanRspData
  | .stop env target => s.advertiserStopEvent env target
  | .timeout ptr => s.startAdvertisingTimeout ptr
  | .work startEnv stopEnv req => s.runWork cfg startEnv stopEnv req
  | .terminated delete index => s.extAdvTerminatedCb delete index
  | .event msg => s.deliver msg
  | .cleanup env => s.advertisersCleanup env

end AdvSystem

end BtFramework
