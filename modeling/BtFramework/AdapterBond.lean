import BtFramework.BtAddress
import BtFramework.Keyed

/-!
# BR/EDR bonds of the adapter service

The service keeps the classic devices it knows, each with its bond state and link key, and
writes the bonded ones to storage with `adapter_update_bonded_device`, all at a time. Some
handlers that change a bond save afterwards and some do not.

A handler that works on a device pointer is modelled by the address the pointer was found with.
-/

namespace BtFramework

open Keyed List

/-! ## Devices -/

inductive BondState where
  | none
  | bonding
  | bonded
  | canceling
  deriving DecidableEq

abbrev Bt128Key := BitVec 128

/-- `bt_device_t`, as far as bonds go. -/
structure BtDevice where
  addr : BtAddress
  bondState : BondState
  linkKey : Bt128Key
  linkKeyType : Nat
  deviceType : Nat

structure RemoteDeviceProperties where
  addr : BtAddress
  linkKey : Bt128Key
  linkKeyType : Nat
  deviceType : Nat

structure BondNotification where
  addr : BtAddress
  previousState : BondState
  currentState : BondState
  isCtkd : Bool
  deriving DecidableEq

def brDeviceCreate (addr : BtAddress) : BtDevice :=
  { addr := addr, bondState := .none, linkKey := 0, linkKeyType := 0, deviceType := 0 }

def deviceIsBonded (device : BtDevice) : Bool := device.bondState = .bonded

def deviceGetProperty (device : BtDevice) : RemoteDeviceProperties :=
  { addr := device.addr, linkKey := device.linkKey, linkKeyType := device.linkKeyType
    deviceType := device.deviceType }

/-! ## The service's list and its store -/

/-- `saved` is the list last written to the bonded-device store, `notified`
the callbacks made so far; `fault` is set by a handler that reads through a
null device. -/
structure BondService where
  devices : List BtDevice
  saved : List RemoteDeviceProperties
  notified : List BondNotification
  fault : Bool

def adapterFindDevice (s : BondService) (addr : BtAddress) : Option BtDevice :=
  s.devices.find? (·.addr = addr)

def adapterFindCreateClassicDevice (s : BondService) (addr : BtAddress) : BondService :=
  match adapterFindDevice s addr with
  | some _ => s
  | none => { s with devices := s.devices ++ [brDeviceCreate addr] }

def updateDevice (s : BondService) (addr : BtAddress) (f : BtDevice → BtDevice) :
    BondService :=
  { s with devices := Keyed.update (·.addr) addr f s.devices }

def adapterNotifyBondState (s : BondService) (addr : BtAddress)
    (previous current : BondState) (isCtkd : Bool) : BondService :=
  if previous = .canceling then
    if current = .none then notify .bonding else s
  else notify previous
where
  notify (previous : BondState) : BondService :=
    { s with notified := s.notified ++
        [{ addr := addr, previousState := previous, currentState := current
           isCtkd := isCtkd }] }

def deviceSetBondState (s : BondService) (addr : BtAddress) (state : BondState)
    (isCtkd notify : Bool) : BondService :=
  match adapterFindDevice s addr with
  | none => s
  | some device =>
    let s := updateDevice s addr fun d => { d with bondState := state }
    if notify then adapterNotifyBondState s addr device.bondState state isCtkd else s

def deviceSetLinkKey (s : BondService) (addr : BtAddress) (key : Bt128Key) : BondService :=
  updateDevice s addr fun d => { d with linkKey := key }

def deviceDeleteLinkKey (s : BondService) (addr : BtAddress) : BondService :=
  deviceSetLinkKey s addr 0

def deviceSetLinkKeyType (s : BondService) (addr : BtAddress) (type : Nat) : BondService :=
  updateDevice s addr fun d => { d with linkKeyType := type }

def deviceSetDeviceType (s : BondService) (addr : BtAddress) (type : Nat) : BondService :=
  updateDevice s addr fun d => { d with deviceType := type }

def btStorageSaveBondedDevice (s : BondService) (remotes : List RemoteDeviceProperties)
    (size : Nat) : BondService :=
  { s with saved := remotes.take (size % 65536) }

def adapterUpdateBondedDevice (s : BondService) : BondService :=
  let remotes := (s.devices.filter deviceIsBonded).map deviceGetProperty
  btStorageSaveBondedDevice s remotes remotes.length

/-! ## Security events -/

def processPairRequestEvt (s : BondService) (addr : BtAddress) (isBondable : Bool) :
    BondService :=
  if !isBondable then s else adapterFindCreateClassicDevice s addr

/-- What pin and SSP requests share once the device is known: a request for a
bond that is being cancelled is rejected, any other makes the device BONDING. -/
def pairingRequested (s : BondService) (addr : BtAddress) (device : BtDevice) :
    BondService :=
  if device.bondState = .canceling then s
  else if device.bondState = .bonding then s
  else deviceSetBondState s addr .bonding false true

def processPinRequestEvt (s : BondService) (addr : BtAddress) : BondService :=
  let s := adapterFindCreateClassicDevice s addr
  match adapterFindDevice s addr with
  | none => s
  | some device => pairingRequested s addr device

def processSspRequestEvt (s : BondService) (addr : BtAddress) : BondService :=
  match adapterFindDevice s addr with
  | none => { s with fault := true }
  | some device => pairingRequested s addr device

def processBondStateChangeEvt (s : BondService) (addr : BtAddress) (state : BondState)
    (isCtkd : Bool) (deviceType : Nat) : BondService :=
  let s := adapterFindCreateClassicDevice s addr
  let s :=
    if state = .bonded then
      let s := deviceSetBondState s addr .bonded isCtkd true
      let s := deviceSetDeviceType s addr deviceType
      adapterUpdateBondedDevice s
    else s
  deviceSetBondState s addr state isCtkd true

def processServiceSearchDoneEvt (s : BondService) (addr : BtAddress) : BondService :=
  adapterUpdateBondedDevice (adapterFindCreateClassicDevice s addr)

def processEncStateChangeEvt (s : BondService) (addr : BtAddress) : BondService :=
  adapterFindCreateClassicDevice s addr

def processLinkKeyUpdateEvt (s : BondService) (addr : BtAddress) (linkKey : Bt128Key)
    (type : Nat) : BondService :=
  let s := adapterFindCreateClassicDevice s addr
  let s := deviceSetLinkKey s addr linkKey
  let s := deviceSetLinkKeyType s addr type
  adapterUpdateBondedDevice s

def processLinkKeyRemovedEvt (s : BondService) (addr : BtAddress) : BondService :=
  let s := adapterFindCreateClassicDevice s addr
  let s := deviceDeleteLinkKey s addr
  let s :=
    if (adapterFindDevice s addr).any deviceIsBonded then
      deviceSetBondState s addr .none false true
    else s
  adapterUpdateBondedDevice s

/-! ## Requests of applications -/

def adapterRemoveBond (s : BondService) (addr : BtAddress) : BondService :=
  if !(adapterFindDevice s addr).any deviceIsBonded then s
  else
    let s := deviceSetBondState s addr .none false true
    let s := deviceDeleteLinkKey s addr
    adapterUpdateBondedDevice s

def adapterCancelBond (s : BondService) (addr : BtAddress) (salOk : Bool) : BondService :=
  if !(adapterFindDevice s addr).any (·.bondState = .bonding) then s
  else if salOk then deviceSetBondState s addr .canceling false false
  else s

def adapterPairRequestReply (s : BondService) (addr : BtAddress) (accept salOk : Bool) :
    BondService :=
  match adapterFindDevice s addr with
  | none => s
  | some _ =>
    if salOk && accept then deviceSetBondState s addr .bonding false true else s

/-! ## The service as a whole -/

/-- Security events of the stack and requests of applications. -/
inductive BondEvent where
  | pairRequest (addr : BtAddress) (isBondable : Bool)
  | pinRequest (addr : BtAddress)
  | sspRequest (addr : BtAddress)
  | bondStateChange (addr : BtAddress) (state : BondState) (isCtkd : Bool) (deviceType : Nat)
  | sdpSearchDone (addr : BtAddress)
  | encStateChange (addr : BtAddress)
  | linkKeyUpdate (addr : BtAddress) (linkKey : Bt128Key) (type : Nat)
  | linkKeyRemoved (addr : BtAddress)
  | removeBond (addr : BtAddress)
  | cancelBond (addr : BtAddress) (salOk : Bool)
  | pairRequestReply (addr : BtAddress) (accept salOk : Bool)

/-- Each event by its handler. -/
def bondStep (s : BondService) : BondEvent → BondService
  | .pairRequest addr isBondable => processPairRequestEvt s addr isBondable
  | .pinRequest addr => processPinRequestEvt s addr
  | .sspRequest addr => processSspRequestEvt s addr
  | .bondStateChange addr state isCtkd deviceType =>
    processBondStateChangeEvt s addr state isCtkd deviceType
  | .sdpSearchDone addr => processServiceSearchDoneEvt s addr
  | .encStateChange addr => processEncStateChangeEvt s addr
  | .linkKeyUpdate addr linkKey type => processLinkKeyUpdateEvt s addr linkKey type
  | .linkKeyRemoved addr => processLinkKeyRemovedEvt s addr
  | .removeBond addr => adapterRemoveBond s addr
  | .cancelBond addr salOk => adapterCancelBond s addr salOk
  | .pairRequestReply addr accept salOk => adapterPairRequestReply s addr accept salOk

def loadBondedDevice (s : BondService) (remote : RemoteDeviceProperties) : BondService :=
  let s := adapterFindCreateClassicDevice s remote.addr
  let s := deviceSetDeviceType s remote.addr remote.deviceType
  let s := deviceSetLinkKey s remote.addr remote.linkKey
  let s := deviceSetLinkKeyType s remote.addr remote.linkKeyType
  deviceSetBondState s remote.addr .bonded false false

def bondedDeviceLoaded (rows : List RemoteDeviceProperties) : BondService :=
  rows.foldl loadBondedDevice { devices := [], saved := rows, notified := [], fault := false }

/-! ## The LE side -/

def adapterFindCreateLeDevice : BondService → BtAddress → BondService :=
  adapterFindCreateClassicDevice

def btDeviceTypeBle : Nat := 2

def processBondStateChangeEvtLe (s : BondService) (addr : BtAddress) (state : BondState)
    (isCtkd : Bool) : BondService :=
  let s := adapterFindCreateLeDevice s addr
  let s := if state = .bonded then deviceSetDeviceType s addr btDeviceTypeBle else s
  deviceSetBondState s addr state isCtkd true

def adapterRemoveBondLe (s : BondService) (addr : BtAddress) : BondService :=
  if !(adapterFindDevice s addr).any deviceIsBonded then s
  else deviceSetBondState s addr .none false true

inductive LeBondEvent where
  | sspRequest (addr : BtAddress)
  | bondStateChange (addr : BtAddress) (state : BondState) (isCtkd : Bool)
  | removeBond (addr : BtAddress)

def leBondStep (s : BondService) : LeBondEvent → BondService
  | .sspRequest addr => processSspRequestEvt s addr
  | .bondStateChange addr state isCtkd => processBondStateChangeEvtLe s addr state isCtkd
  | .removeBond addr => adapterRemoveBondLe s addr

/-! ## What the operations on the list do -/

variable {s : BondService} {addr : BtAddress} {state : BondState} {isCtkd notify : Bool}

theorem find_updateDevice {f : BtDevice → BtDevice} (hf : ∀ d, (f d).addr = d.addr)
    (a : BtAddress) :
    adapterFindDevice (updateDevice s addr f) a
      = if a = addr then (adapterFindDevice s addr).map f else adapterFindDevice s a := by
  split
  next ha =>
    rw [ha]
    exact find?_update_self hf
  next ha => exact find?_update_of_ne hf ha

theorem findCreate_of_find {d : BtDevice} (hfind : adapterFindDevice s addr = some d) :
    adapterFindCreateClassicDevice s addr = s := by
  rw [adapterFindCreateClassicDevice, hfind]

theorem find_findCreate (s : BondService) (addr : BtAddress) :
    ∃ d, adapterFindDevice (adapterFindCreateClassicDevice s addr) addr = some d
      ∧ (adapterFindDevice s addr = some d ∨ d = brDeviceCreate addr) := by
  unfold adapterFindCreateClassicDevice
  cases hf : adapterFindDevice s addr with
  | some d => exact ⟨d, hf, .inl rfl⟩
  | none =>
    refine ⟨brDeviceCreate addr, ?_, .inr rfl⟩
    rw [adapterFindDevice] at hf ⊢
    rw [find?_append, hf]
    simp [brDeviceCreate]

@[simp] theorem saved_findCreate : (adapterFindCreateClassicDevice s addr).saved = s.saved := by
  unfold adapterFindCreateClassicDevice
  split <;> rfl

@[simp] theorem devices_setBondState :
    (deviceSetBondState s addr state isCtkd notify).devices
      = (updateDevice s addr fun d => { d with bondState := state }).devices := by
  unfold deviceSetBondState
  split
  next hf => exact (update_eq_self fun d hd => find?_eq_none hf hd).symm
  · unfold adapterNotifyBondState
    split_ifs <;> rfl

@[simp] theorem saved_setBondState :
    (deviceSetBondState s addr state isCtkd notify).saved = s.saved := by
  unfold deviceSetBondState adapterNotifyBondState
  split
  · rfl
  · split_ifs <;> rfl

theorem find_setBondState (a : BtAddress) :
    adapterFindDevice (deviceSetBondState s addr state isCtkd notify) a
      = if a = addr then (adapterFindDevice s addr).map fun d => { d with bondState := state }
        else adapterFindDevice s a := by
  rw [adapterFindDevice, devices_setBondState, ← adapterFindDevice, find_updateDevice]
  intro _
  rfl

end BtFramework
