import BtFramework.BtAddress
import BtFramework.Keyed

/-!
# The power manager

`power_manager.c`. The mode of a link is the greatest one that the services of its device
prefer. ACTIVE is asked for at once, a sniff mode after the time the table gives. A link in
sniff mode whose parameters the application changes is made active first.
-/

namespace BtFramework.Pm

inductive ProfileId where
  | a2dp | a2dpSink | avrcpCt | avrcpTg | hfpHf | hfpAg | spp | hidDev | panu | gattc | gatts
  | leaudioServer | leaudioMcp | leaudioCcp | leaudioVmics | leaudioClient | leaudioMcs
  | leaudioTbs | leaudioVmicp | cs | unkown
deriving DecidableEq

inductive State where
  | connOpen | connClose | appOpen | appClose | scoOpen | scoClose | connIdle | connBusy
deriving DecidableEq

inductive PreferMode where
  | noAction
  | noPref
  | sniff (index : Fin 7)
  | active
deriving DecidableEq

def PreferMode.value : PreferMode → Nat
  | .noAction => 0
  | .noPref => 1
  | .sniff index => 0x10 + index
  | .active => 0x20

inductive LinkMode where
  | active | sniff | unknown
deriving DecidableEq

structure Mode where
  max : Nat
  min : Nat
  attempt : Nat
  timeout : Nat
  mode : LinkMode
deriving DecidableEq

def pmMode : Fin 7 → Mode
  | 0 => ⟨800, 400, 4, 1, .sniff⟩
  | 1 => ⟨400, 200, 4, 1, .sniff⟩
  | 2 => ⟨54, 30, 4, 1, .sniff⟩
  | 3 => ⟨150, 50, 4, 1, .sniff⟩
  | 4 => ⟨18, 10, 4, 1, .sniff⟩
  | 5 => ⟨36, 30, 2, 0, .sniff⟩
  | 6 => ⟨18, 14, 1, 0, .sniff⟩

structure Action where
  powerMode : PreferMode
  timeout : Nat

/-- The power mode a profile prefers in each state. -/
structure SpecTable where
  allowMask : Nat
  actnTbl : State → Action

def hfAgSpec : SpecTable where
  allowMask := 0x10
  actnTbl
    | .connOpen | .scoClose | .connIdle => ⟨.sniff 0, 7000⟩
    | .connClose => ⟨.noPref, 0⟩
    | .appOpen | .appClose => ⟨.noAction, 0⟩
    | .scoOpen | .connBusy => ⟨.active, 0⟩

def avSpec : SpecTable where
  allowMask := 0x10
  actnTbl
    | .connOpen | .connIdle => ⟨.sniff 0, 7000⟩
    | .connClose => ⟨.noPref, 0⟩
    | .appOpen | .appClose | .scoOpen | .scoClose => ⟨.noAction, 0⟩
    | .connBusy => ⟨.active, 0⟩

def sppSpec : SpecTable where
  allowMask := 0x10
  actnTbl
    | .connOpen | .appClose | .scoOpen | .scoClose => ⟨.noAction, 0⟩
    | .connClose => ⟨.noPref, 0⟩
    | .appOpen | .connBusy => ⟨.active, 0⟩
    | .connIdle => ⟨.sniff 0, 1000⟩

def panSpec : SpecTable where
  allowMask := 0x10
  actnTbl
    | .connOpen | .appOpen | .connBusy => ⟨.active, 0⟩
    | .connClose => ⟨.noPref, 0⟩
    | .appClose | .scoOpen | .scoClose => ⟨.noAction, 0⟩
    | .connIdle => ⟨.sniff 0, 5000⟩

def hidSpec : SpecTable where
  allowMask := 0x10
  actnTbl
    | .connOpen => ⟨.sniff 0, 5000⟩
    | .connClose => ⟨.noPref, 0⟩
    | .appOpen | .appClose | .scoOpen | .scoClose => ⟨.noAction, 0⟩
    | .connIdle => ⟨.sniff 2, 5000⟩
    | .connBusy => ⟨.sniff 4, 200⟩

def pmCfg : List (ProfileId × SpecTable) :=
  [(.hfpHf, hfAgSpec), (.hfpAg, hfAgSpec), (.a2dp, avSpec), (.avrcpCt, avSpec), (.avrcpTg, avSpec),
   (.spp, sppSpec), (.panu, panSpec), (.hidDev, hidSpec)]

/-- The table of the profile in `g_pm_cfg`. -/
def specOf (profileId : ProfileId) : Option SpecTable :=
  (pmCfg.find? (·.1 = profileId)).map (·.2)

/-! ## The manager -/

/-- One profile on one device, with what the profile reported last. -/
structure Service where
  profileId : ProfileId
  state : State
  peerAddr : BtAddress
deriving DecidableEq

structure Device where
  peerAddr : BtAddress
  mode : LinkMode
  pendingActive : Bool
  interval : Nat
  requestTimer : Bool
  appPreferredSniffParams : Mode
  immediateSniffSwitch : Bool

structure Timer where
  pending : Bool
  peerAddr : BtAddress
  active : Bool
  profileId : ProfileId

/-- `setPowerModes` are the requests made of the stack. -/
structure Manager where
  services : List Service
  devices : List Device
  lastProfileId : ProfileId
  timers : List Timer
  setPowerModes : List (BtAddress × Mode)

structure Env where
  calloc : Bool
  connected : Bool
  sal : Bool

def Service.key (s : Service) : ProfileId × BtAddress := (s.profileId, s.peerAddr)

namespace Manager

def pmConnServiceFind (m : Manager) (profileId : ProfileId) (addr : BtAddress) : Option Service :=
  m.services.find? (·.key = (profileId, addr))

def pmConnDeviceFind (m : Manager) (addr : BtAddress) : Option Device :=
  m.devices.find? (·.peerAddr = addr)

def writeDevice (m : Manager) (addr : BtAddress) (f : Device → Device) : Manager :=
  { m with devices := Keyed.modifyFirst (·.peerAddr) addr f m.devices }

def btSalSetPowerMode (m : Manager) (addr : BtAddress) (mode : Mode) : Manager :=
  { m with setPowerModes := m.setPowerModes ++ [(addr, mode)] }

def pmRequestSniff (m : Manager) (addr : BtAddress) (index : Fin 7) (profileId : ProfileId) :
    Manager :=
  match m.pmConnDeviceFind addr with
  | none => m
  | some device =>
    let mode := if profileId = .spp then device.appPreferredSniffParams else pmMode index
    if device.mode = .sniff ∧ device.interval ≤ mode.max ∧ mode.min ≤ device.interval then m
    else m.btSalSetPowerMode addr mode

def pmRequestActive (m : Manager) (env : Env) (addr : BtAddress) : Manager :=
  match m.pmConnDeviceFind addr with
  | none => m
  | some device =>
    if device.mode = .active ∨ device.pendingActive = true then m
    else
      let m := m.btSalSetPowerMode addr ⟨0, 0, 0, 0, .active⟩
      if env.sal then m.writeDevice addr ({ · with pendingActive := true, requestTimer := true })
      else m

/-- What `pm_prefer_config` reports. -/
structure Preference where
  powerMode : PreferMode
  allowMask : Nat
  timeout : Nat
  id : ProfileId
  ret : Bool
deriving DecidableEq

def Preference.start : Preference :=
  { powerMode := .noAction, allowMask := 0, timeout := 0, id := .a2dp, ret := false }

def Preference.take (p : Preference) (profileId : ProfileId) (s : Service) (table : SpecTable) :
    Preference :=
  let action := table.actnTbl s.state
  if p.powerMode.value < action.powerMode.value
      ∨ action.powerMode = p.powerMode ∧ s.profileId = profileId then
    { powerMode := action.powerMode, allowMask := table.allowMask, timeout := action.timeout
      id := s.profileId, ret := true }
  else p

def preferLoop (addr : BtAddress) (profileId : ProfileId) :
    List Service → Preference → Bool × Preference
  | [], p => (true, p)
  | s :: services, p =>
    if s.peerAddr ≠ addr then preferLoop addr profileId services p
    else
      match specOf s.profileId with
      | none => (false, p)
      | some table => preferLoop addr profileId services (p.take profileId s table)

def pmPreferConfig (m : Manager) (addr : BtAddress) (profileId : ProfileId) :
    Bool × Preference × Manager :=
  let (done, p) := preferLoop addr profileId m.services .start
  (done && p.ret, p, { m with lastProfileId := if p.ret then p.id else m.lastProfileId })

def pmStartTimer (m : Manager) (addr : BtAddress) (profileId : ProfileId) : Manager :=
  match m.timers.findIdx? (!·.active) with
  | none => m
  | some i => { m with timers := m.timers.set i ⟨true, addr, true, profileId⟩ }

def pmStopTimer (m : Manager) (addr : BtAddress) : Manager :=
  { m with timers := m.timers.map fun t =>
      if t.active ∧ t.peerAddr = addr then { t with active := false, pending := false } else t }

inductive Request where
  | restart | execute

def pmModeRequest (m : Manager) (env : Env) (addr : BtAddress) (req : Request)
    (profileId : ProfileId) : Manager :=
  if !env.connected then m.pmStopTimer addr
  else
    match m.pmPreferConfig addr profileId with
    | (false, _, m) => m
    | (true, p, m) =>
      if p.allowMask &&& 0x10 = 0 then m
      else
        match req, p.powerMode with
        | _, .active => m.pmRequestActive env addr
        | .execute, .sniff index => m.pmRequestSniff addr index p.id
        | .execute, _ => m
        | .restart, _ =>
          if p.timeout > 0 then (m.pmStopTimer addr).pmStartTimer addr p.id else m

def pmCheckPreferAction (profileId : ProfileId) : Bool :=
  match specOf profileId with
  | none => false
  | some table => (table.actnTbl .connOpen).powerMode ≠ .noPref

def register (m : Manager) (calloc : Bool) (state : State) (profileId : ProfileId)
    (addr : BtAddress) : Option Manager :=
  let key := (profileId, addr)
  let added : Option (List Service) := match m.pmConnServiceFind profileId addr with
    | none => if calloc then some (m.services ++ [⟨profileId, state, addr⟩]) else none
    | some _ => some (Keyed.modifyFirst Service.key key ({ · with state }) m.services)
  added.map fun services => { m with
    services := if pmCheckPreferAction profileId then services
      else Keyed.removeFirst Service.key key services }

def btPmHanldeCallback (m : Manager) (env : Env) (state : State) (profileId : ProfileId)
    (addr : BtAddress) : Manager :=
  match m.register env.calloc state profileId addr with
  | none => m
  | some m => m.pmModeRequest env addr .restart profileId

def pmTimeoutCallback (m : Manager) (env : Env) (i : Nat) : Manager :=
  match m.timers[i]? with
  | none => m
  | some t =>
    if !t.pending then m
    else { m with timers := m.timers.set i { t with active := false, pending := false } }
      |>.pmModeRequest env t.peerAddr .execute t.profileId

def btPmRemoteLinkModeChanged (m : Manager) (env : Env) (addr : BtAddress) (mode : LinkMode)
    (sniffInterval : Nat) : Manager :=
  match m.pmConnDeviceFind addr with
  | none => m
  | some device =>
    let m := m.writeDevice addr ({ · with interval := sniffInterval, mode, pendingActive := false })
    match mode with
    | .active =>
      let m := (m.pmStopTimer addr).writeDevice addr ({ · with requestTimer := false })
      if device.immediateSniffSwitch then
        (m.writeDevice addr ({ · with immediateSniffSwitch := false })).pmRequestSniff addr 0 .spp
      else m.pmModeRequest env addr .restart m.lastProfileId
    | .sniff => m.pmStopTimer addr
    | .unknown => m

def btPmRemoteDeviceDisconnected (m : Manager) (addr : BtAddress) : Manager :=
  if (m.pmConnDeviceFind addr).isNone then m
  else
    let m := m.pmStopTimer addr
    { m with devices := Keyed.removeFirst (·.peerAddr) addr m.devices }

def btPmSetAppProfileSniff (m : Manager) (env : Env) (addr : BtAddress) (params : Option Mode) :
    Manager :=
  match m.pmConnDeviceFind addr with
  | none => m
  | some device =>
    let m := m.writeDevice addr ({ · with appPreferredSniffParams := params.getD (pmMode 0) })
    if device.mode = .active then m.writeDevice addr ({ · with immediateSniffSwitch := false })
    else (m.writeDevice addr ({ · with immediateSniffSwitch := true })).pmRequestActive env addr

end Manager

/-- Reports of profiles and of the stack, timers, and application requests. -/
inductive Event where
  | profile (env : Env) (state : State) (profileId : ProfileId) (addr : BtAddress)
  | timeout (env : Env) (i : Nat)
  | requestTimeout (i : Nat)
  | linkModeChanged (env : Env) (addr : BtAddress) (mode : LinkMode) (sniffInterval : Nat)
  | deviceConnected (zalloc : Bool) (addr : BtAddress)
  | deviceDisconnected (addr : BtAddress)
  | setAppSniff (env : Env) (addr : BtAddress) (params : Option Mode)

namespace Manager

def step (m : Manager) : Event → Manager
  | .profile env state profileId addr => m.btPmHanldeCallback env state profileId addr
  | .timeout env i => m.pmTimeoutCallback env i
  | .requestTimeout i =>
    { m with devices := m.devices.modify i fun d =>
        if d.requestTimer then { d with pendingActive := false, requestTimer := false } else d }
  | .linkModeChanged env addr mode interval => m.btPmRemoteLinkModeChanged env addr mode interval
  | .deviceConnected zalloc addr =>
    if zalloc then
      { m with devices := m.devices ++ [⟨addr, .active, false, 0, false, pmMode 0, false⟩] }
    else m
  | .deviceDisconnected addr => m.btPmRemoteDeviceDisconnected addr
  | .setAppSniff env addr params => m.btPmSetAppProfileSniff env addr params

def init (n : Nat) : Manager where
  services := []
  devices := []
  lastProfileId := .unkown
  timers := .replicate n ⟨false, 0, false, .a2dp⟩
  setPowerModes := []

end Manager

end BtFramework.Pm
