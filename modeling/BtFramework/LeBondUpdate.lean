import BtFramework.AdapterBond
import Mathlib.Data.List.Induction

/-!
# Keys of the bonded LE devices

`process_le_bonded_device_update_evt` stores each row of the array that the stack reports in the
device with its address, and writes all bonded devices to storage. A row of an unknown device is
left with `continue`, so the cursor stays on it and the rows behind it are never read.
-/

namespace BtFramework

open Keyed List

/-! ## Devices and rows -/

abbrev SmpKey := BitVec 640

/-- `bt_device_t`, as far as LE keys go. -/
structure LeDevice where
  addr : BtAddress
  addrType : UInt8
  deviceType : UInt8
  identityAddr : BtAddress
  smpData : SmpKey
  localCsrk : Bt128Key
  keySet : Bool
  bonded : Bool
  deriving DecidableEq

/-- A row. -/
structure RemoteDeviceLeProperties where
  addr : BtAddress
  addrType : UInt8
  deviceType : UInt8
  smpKey : SmpKey
  localCsrk : Bt128Key
  deriving DecidableEq

def deviceSetAddressType (device : LeDevice) (type : UInt8) : LeDevice :=
  { device with addrType := type }

def deviceSetSmpKey (device : LeDevice) (key : SmpKey) : LeDevice :=
  { device with keySet := true, smpData := key }

def deviceDeleteSmpKey (device : LeDevice) : LeDevice :=
  { device with keySet := false, smpData := 0 }

def deviceSetIdentityAddress (device : LeDevice) (addr : BtAddress) : LeDevice :=
  { device with identityAddr := addr }

def deviceSetLocalCsrk (device : LeDevice) (csrk : Bt128Key) : LeDevice :=
  { device with localCsrk := csrk }

def deviceGetLeProperty (device : LeDevice) : RemoteDeviceLeProperties :=
  { addr := device.addr, addrType := device.addrType, deviceType := device.deviceType
    smpKey := device.smpData, localCsrk := device.localCsrk }

def SmpKey.identity (key : SmpKey) : BtAddress := key.setWidth 48

/-! ## The list of devices

Devices enter `le_devices` through `adapter_find_create_le_device` only, after
a lookup by address has failed. -/

structure LeBondService where
  devices : List LeDevice
  unique : (devices.map (·.addr)).Nodup
  saved : List RemoteDeviceLeProperties

def adapterFindLeDevice (s : LeBondService) (addr : BtAddress) : Option LeDevice :=
  s.devices.find? (·.addr = addr)

def adapterUpdateLeBondedDevice (s : LeBondService) : LeBondService :=
  { s with saved := (s.devices.filter (·.bonded)).map deviceGetLeProperty }

def storeLeKeys (prop : RemoteDeviceLeProperties) (device : LeDevice) : LeDevice :=
  let device := if device.keySet then deviceDeleteSmpKey device else device
  let device := deviceSetAddressType device prop.addrType
  let device := deviceSetSmpKey device prop.smpKey
  let device := deviceSetIdentityAddress device prop.smpKey.identity
  deviceSetLocalCsrk device prop.localCsrk

variable (prop : RemoteDeviceLeProperties)

@[simp] theorem storeLeKeys_addr (device : LeDevice) :
    (storeLeKeys prop device).addr = device.addr := by
  rw [storeLeKeys]
  split <;> rfl

def updateLeDevice (s : LeBondService) (prop : RemoteDeviceLeProperties) : LeBondService :=
  { s with
    devices := Keyed.update (·.addr) prop.addr (storeLeKeys prop) s.devices
    unique := by
      rw [Keyed.map_update fun d _ _ => storeLeKeys_addr prop d]
      exact s.unique }

def leBondedUpdateLoop : Nat → List RemoteDeviceLeProperties → LeBondService → LeBondService
  | 0, _, s => s
  | _ + 1, [], s => s
  | rounds + 1, prop :: rest, s =>
    match adapterFindLeDevice s prop.addr with
    | none => leBondedUpdateLoop rounds (prop :: rest) s  -- `continue` skips `prop++`
    | some _ => leBondedUpdateLoop rounds rest (updateLeDevice s prop)

def processLeBondedDeviceUpdateEvt (s : LeBondService)
    (props : List RemoteDeviceLeProperties) : LeBondService :=
  adapterUpdateLeBondedDevice (leBondedUpdateLoop props.length props s)

/-! ## What the loop does -/

/-- The device of the row is known. -/
def LeBondService.knows (s : LeBondService) (prop : RemoteDeviceLeProperties) : Bool :=
  (adapterFindLeDevice s prop.addr).isSome

variable {s : LeBondService} {props : List RemoteDeviceLeProperties} {device : LeDevice}

theorem knows_iff {prop : RemoteDeviceLeProperties} :
    s.knows prop ↔ ∃ d ∈ s.devices, d.addr = prop.addr := by
  simp [LeBondService.knows, adapterFindLeDevice, find?_isSome]

theorem knows_updateLeDevice (s : LeBondService) (prop : RemoteDeviceLeProperties) :
    (updateLeDevice s prop).knows = s.knows := by
  have haddr : (updateLeDevice s prop).devices.map (·.addr) = s.devices.map (·.addr) :=
    map_update fun d _ _ => storeLeKeys_addr prop d
  funext q
  rw [Bool.eq_iff_iff, knows_iff, knows_iff]
  have hmem : q.addr ∈ (updateLeDevice s prop).devices.map (·.addr) ↔
      q.addr ∈ s.devices.map (·.addr) := by rw [haddr]
  simpa only [mem_map] using hmem

theorem leBondedUpdateLoop_stuck {prop : RemoteDeviceLeProperties}
    (rest : List RemoteDeviceLeProperties) (h : s.knows prop = false) (rounds : Nat) :
    leBondedUpdateLoop rounds (prop :: rest) s = s := by
  have hnone : adapterFindLeDevice s prop.addr = none := by
    rw [LeBondService.knows] at h
    simpa using h
  induction rounds with
  | zero => rfl
  | succ rounds ih => simp only [leBondedUpdateLoop, hnone, ih]

theorem leBondedUpdateLoop_eq (props : List RemoteDeviceLeProperties) (s : LeBondService) :
    leBondedUpdateLoop props.length props s = (props.takeWhile s.knows).foldl updateLeDevice s := by
  induction props generalizing s with
  | nil => rfl
  | cons prop rest ih =>
    cases hk : s.knows prop with
    | false =>
      rw [leBondedUpdateLoop_stuck rest hk, takeWhile_cons_of_neg (by simp [hk])]
      rfl
    | true =>
      obtain ⟨d, hd⟩ := Option.isSome_iff_exists.mp hk
      rw [takeWhile_cons_of_pos hk, foldl_cons, length_cons,
        leBondedUpdateLoop, hd, ← knows_updateLeDevice s prop]
      exact ih (updateLeDevice s prop)

/-! ## Whose keys a device holds -/

structure LeDevice.Holds (device : LeDevice) (prop : RemoteDeviceLeProperties) : Prop where
  addrType : device.addrType = prop.addrType
  smpData : device.smpData = prop.smpKey
  localCsrk : device.localCsrk = prop.localCsrk
  identity : device.identityAddr = prop.smpKey.identity

theorem holds_storeLeKeys (device : LeDevice) : (storeLeKeys prop device).Holds prop := by
  constructor <;> simp only [storeLeKeys] <;> split <;> rfl

/-- The device holds a row of its address. -/
def LeDevice.HoldsOwn (device : LeDevice) (props : List RemoteDeviceLeProperties) : Prop :=
  ∃ prop ∈ props, prop.addr = device.addr ∧ device.Holds prop

theorem mem_foldl_updateLeDevice (h : device ∈ (props.foldl updateLeDevice s).devices) :
    device.HoldsOwn props ∨ (device ∈ s.devices ∧ ∀ prop ∈ props, prop.addr ≠ device.addr) := by
  -- from the back: the last row with the address is the one that stays
  induction props using List.reverseRecOn with
  | nil => exact .inr ⟨h, by simp⟩
  | append_singleton props last ih =>
    rw [foldl_append] at h
    rcases mem_update.mp h with ⟨d, hd, haddr, rfl⟩ | ⟨hd, haddr⟩
    · left
      exact ⟨last, by simp, by simp [haddr], holds_storeLeKeys last d⟩
    · rcases ih hd with ⟨prop, hp, hown⟩ | ⟨hs, hnone⟩
      · exact .inl ⟨prop, mem_append_left _ hp, hown⟩
      · exact .inr ⟨hs, forall_mem_concat.mpr ⟨hnone, fun h => haddr h.symm⟩⟩

theorem mem_foldl_of_forall_ne (h : device ∈ s.devices)
    (hne : ∀ prop ∈ props, prop.addr ≠ device.addr) :
    device ∈ (props.foldl updateLeDevice s).devices := by
  induction props generalizing s with
  | nil => exact h
  | cons prop rest ih =>
    rw [forall_mem_cons] at hne
    exact ih (mem_update.mpr (.inr ⟨h, hne.1.symm⟩)) hne.2

theorem map_addr_foldl (props : List RemoteDeviceLeProperties) (s : LeBondService) :
    (props.foldl updateLeDevice s).devices.map (·.addr) = s.devices.map (·.addr) := by
  induction props generalizing s with
  | nil => rfl
  | cons prop rest ih =>
    rw [foldl_cons, ih]
    exact map_update fun d _ _ => storeLeKeys_addr prop d

theorem processLeBondedDeviceUpdateEvt_eq (s : LeBondService)
    (props : List RemoteDeviceLeProperties) :
    (processLeBondedDeviceUpdateEvt s props).devices =
      ((props.takeWhile s.knows).foldl updateLeDevice s).devices := by
  rw [← leBondedUpdateLoop_eq]
  rfl

/-- Every device with a row holds it, and no device holds one of another. -/
structure LeKeysUpdated (before after : LeBondService)
    (props : List RemoteDeviceLeProperties) : Prop where
  same : after.devices.map (·.addr) = before.devices.map (·.addr)
  own : ∀ device ∈ after.devices, (∃ prop ∈ props, prop.addr = device.addr) → device.HoldsOwn props
  noForeign : ∀ device ∈ after.devices, device ∈ before.devices ∨ device.HoldsOwn props

theorem HoldsOwn.mono {props' : List RemoteDeviceLeProperties} (h : device.HoldsOwn props)
    (hsub : ∀ prop ∈ props, prop ∈ props') :
    device.HoldsOwn props' := by
  obtain ⟨prop, hp, hown⟩ := h
  exact ⟨prop, hsub prop hp, hown⟩

/-- Exactly when each row behind the first unknown device is again of an unknown device, of one
served by a row in front, or of one that holds its row already. -/
theorem processLeBondedDeviceUpdateEvt_updates_iff (s : LeBondService)
    (props : List RemoteDeviceLeProperties) :
    LeKeysUpdated s (processLeBondedDeviceUpdateEvt s props) props ↔
      ∀ prop ∈ props.dropWhile s.knows, ∀ device ∈ s.devices, device.addr = prop.addr →
        (∃ front ∈ props.takeWhile s.knows, front.addr = device.addr) ∨ device.HoldsOwn props := by
  have hread : ∀ prop ∈ props.takeWhile s.knows, prop ∈ props := fun prop hp =>
    (takeWhile_sublist _).subset hp
  have hleft : ∀ prop ∈ props.dropWhile s.knows, prop ∈ props := fun prop hp =>
    (dropWhile_suffix _).subset hp
  constructor
  · intro h prop hp device hd haddr
    by_cases hfront : ∃ front ∈ props.takeWhile s.knows, front.addr = device.addr
    · exact .inl hfront
    · -- nothing in front names the device, so it is still in the list unchanged
      push Not at hfront
      have hmem := mem_foldl_of_forall_ne hd hfront
      rw [← processLeBondedDeviceUpdateEvt_eq] at hmem
      exact .inr (h.own device hmem ⟨prop, hleft prop hp, haddr.symm⟩)
  · intro h
    refine ⟨?_, ?_, ?_⟩
    · rw [processLeBondedDeviceUpdateEvt_eq, map_addr_foldl]
    · rintro device hd ⟨prop, hp, haddr⟩
      rw [processLeBondedDeviceUpdateEvt_eq] at hd
      rcases mem_foldl_updateLeDevice hd with hown | ⟨hold, hnone⟩
      · exact HoldsOwn.mono hown hread
      · rw [← takeWhile_append_dropWhile (p := s.knows) (l := props)] at hp
        rcases mem_append.mp hp with hp | hp
        · exact absurd haddr (hnone prop hp)
        · rcases h prop hp device hold haddr.symm with ⟨front, hf, hfaddr⟩ | hown
          · exact absurd hfaddr (hnone front hf)
          · exact hown
    · intro device hd
      rw [processLeBondedDeviceUpdateEvt_eq] at hd
      rcases mem_foldl_updateLeDevice hd with hown | ⟨hold, _⟩
      · exact .inr (HoldsOwn.mono hown hread)
      · exact .inl hold

def keylessLeDevice : LeDevice :=
  { addr := 2, addrType := 0, deviceType := 2, identityAddr := 0, smpData := 0
    localCsrk := 0, keySet := false, bonded := true }

def oneLeDevice : LeBondService :=
  { devices := [keylessLeDevice], unique := by decide, saved := [] }

def twoLeBonds : List RemoteDeviceLeProperties :=
  [{ addr := 1, addrType := 1, deviceType := 2, smpKey := 11, localCsrk := 12 },
   { addr := 2, addrType := 1, deviceType := 2, smpKey := 21, localCsrk := 22 }]

/-- The unknown device in front keeps the known one from its keys, and the
store is written without them. -/
theorem unknown_bond_hides_known :
    ¬ LeKeysUpdated oneLeDevice (processLeBondedDeviceUpdateEvt oneLeDevice twoLeBonds)
        twoLeBonds ∧
      (processLeBondedDeviceUpdateEvt oneLeDevice twoLeBonds).saved =
        [deviceGetLeProperty keylessLeDevice] := by
  have hdevices : (processLeBondedDeviceUpdateEvt oneLeDevice twoLeBonds).devices =
      [keylessLeDevice] := by decide +kernel
  refine ⟨?_, by decide +kernel⟩
  intro h
  obtain ⟨prop, hp, _, hholds⟩ := h.own keylessLeDevice (by simp [hdevices])
    ⟨_, mem_cons_of_mem _ mem_cons_self, rfl⟩
  -- both rows have address type 1, the device still has 0
  have htype : prop.addrType = 1 := by
    simp only [twoLeBonds, mem_cons, not_mem_nil, or_false] at hp
    rcases hp with rfl | rfl <;> rfl
  exact absurd (hholds.addrType.trans htype) (by decide)

end BtFramework
