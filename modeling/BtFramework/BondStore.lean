import BtFramework.AdapterBond
import BtFramework.Runs

/-!
# Stored bonds and live bonds

The handlers that set another bond state and do not save are those of bond-state changes, of PIN
and SSP requests and of an accepted pair request, and none of them asks whether the device is
bonded.
-/

namespace BtFramework

open BondEvent Keyed List Runs

/-! ## The two views of the bonds -/

def liveBond (device : BtDevice) : Option (BtAddress × Bt128Key) :=
  if deviceIsBonded device then some (device.addr, device.linkKey) else none

def liveBonds (s : BondService) : List (BtAddress × Bt128Key) :=
  s.devices.filterMap liveBond

def savedBonds (s : BondService) : List (BtAddress × Bt128Key) :=
  s.saved.map fun remote => (remote.addr, remote.linkKey)

/-- The store holds the devices that are BONDED, with their keys. -/
def SavedIsLive (s : BondService) : Prop :=
  ∀ bond, bond ∈ savedBonds s ↔ bond ∈ liveBonds s

def UniqueAddrs (s : BondService) : Prop := (s.devices.map (·.addr)).Nodup

/-- Each device is listed once, and the store is what a save would write now. -/
structure BondsSaved (s : BondService) : Prop where
  unique : UniqueAddrs s
  saved : savedBonds s = liveBonds s

variable {s t : BondService} {addr : BtAddress} {state : BondState} {isCtkd notify : Bool}
  {rows : List RemoteDeviceProperties}

theorem mem_liveBonds {bond : BtAddress × Bt128Key} :
    bond ∈ liveBonds s ↔ ∃ d ∈ s.devices, d.bondState = .bonded ∧ (d.addr, d.linkKey) = bond := by
  simp [liveBonds, liveBond, deviceIsBonded]

/-! ## The operations on the list -/

theorem unique_findCreate (h : UniqueAddrs s) :
    UniqueAddrs (adapterFindCreateClassicDevice s addr) := by
  unfold adapterFindCreateClassicDevice
  split
  · exact h
  next hf =>
    exact nodup_concat h fun d hd => find?_eq_none hf hd

@[simp] theorem liveBonds_findCreate :
    liveBonds (adapterFindCreateClassicDevice s addr) = liveBonds s := by
  unfold adapterFindCreateClassicDevice
  split
  · rfl
  · simp [liveBonds, liveBond, deviceIsBonded, brDeviceCreate]

theorem unique_updateDevice {f : BtDevice → BtDevice} (hf : ∀ d, (f d).addr = d.addr)
    (h : UniqueAddrs s) : UniqueAddrs (updateDevice s addr f) := by
  rw [UniqueAddrs, updateDevice, map_update fun d _ _ => hf d]
  exact h

theorem liveBonds_updateDevice {f : BtDevice → BtDevice}
    (hf : ∀ d ∈ s.devices, d.addr = addr → liveBond (f d) = liveBond d) :
    liveBonds (updateDevice s addr f) = liveBonds s := by
  have hmap : (updateDevice s addr f).devices.map liveBond = s.devices.map liveBond := map_update hf
  have hid : ∀ l : List BtDevice, l.filterMap liveBond = (l.map liveBond).filterMap id :=
    fun l => by rw [filterMap_map]; rfl
  rw [liveBonds, liveBonds, hid, hid, hmap]

theorem liveBonds_congr (h : s.devices = t.devices) : liveBonds s = liveBonds t := by
  rw [liveBonds, liveBonds, h]

theorem unique_setBondState (h : UniqueAddrs s) :
    UniqueAddrs (deviceSetBondState s addr state isCtkd notify) := by
  rw [UniqueAddrs, devices_setBondState]
  exact unique_updateDevice (fun _ => rfl) h

/-! ## Saving, and changing no bond -/

theorem map_bonded_eq_filterMap (l : List BtDevice) :
    ((l.filter deviceIsBonded).map deviceGetProperty).map
      (fun remote => (remote.addr, remote.linkKey)) = l.filterMap liveBond := by
  induction l with
  | nil => rfl
  | cons d l ih =>
    by_cases hd : deviceIsBonded d
    · have hlive : liveBond d = some (d.addr, d.linkKey) := if_pos hd
      rw [filter_cons_of_pos hd, map_cons, map_cons, ih, filterMap_cons_some hlive]
      rfl
    · have hlive : liveBond d = none := if_neg hd
      rw [filter_cons_of_neg hd, ih, filterMap_cons_none hlive]

theorem bondsSaved_save (h : UniqueAddrs s) (hfew : s.devices.length < 65536) :
    BondsSaved (adapterUpdateBondedDevice s) := by
  refine ⟨h, ?_⟩
  have hle : (s.devices.filter deviceIsBonded).length ≤ s.devices.length := length_filter_le _ _
  have hsize : ((s.devices.filter deviceIsBonded).map deviceGetProperty).length % 65536
      = ((s.devices.filter deviceIsBonded).map deviceGetProperty).length := by
    rw [length_map]
    omega
  rw [savedBonds, adapterUpdateBondedDevice, btStorageSaveBondedDevice]
  rw [hsize, take_length, map_bonded_eq_filterMap]
  rfl

theorem BondsSaved.keep (h : BondsSaved s) (hunique : UniqueAddrs t)
    (hlive : liveBonds t = liveBonds s) (hsaved : t.saved = s.saved) : BondsSaved t := by
  refine ⟨hunique, ?_⟩
  rw [hlive, ← h.saved, savedBonds, savedBonds, hsaved]

theorem BondsSaved.findCreate (h : BondsSaved s) :
    BondsSaved (adapterFindCreateClassicDevice s addr) :=
  h.keep (unique_findCreate h.unique) liveBonds_findCreate saved_findCreate

def NotBonded (s : BondService) (addr : BtAddress) : Prop :=
  ∀ d ∈ adapterFindDevice s addr, d.bondState ≠ .bonded
deriving Decidable

theorem NotBonded.findCreate (h : NotBonded s addr) :
    NotBonded (adapterFindCreateClassicDevice s addr) addr := by
  obtain ⟨d, hd, hfrom⟩ := find_findCreate s addr
  rw [NotBonded, hd]
  rintro d' ⟨⟩
  rcases hfrom with hfound | rfl
  · exact h d hfound
  · exact nofun

theorem BondsSaved.setBondState (h : BondsSaved s) (hno : NotBonded s addr)
    (hstate : state ≠ .bonded) :
    BondsSaved (deviceSetBondState s addr state isCtkd notify) := by
  refine h.keep (unique_setBondState h.unique) ?_ saved_setBondState
  rw [liveBonds_congr devices_setBondState]
  apply liveBonds_updateDevice
  intro d hd haddr
  have hfind : adapterFindDevice s addr = some d := (find?_eq_some h.unique).mpr ⟨hd, haddr⟩
  have hd' : d.bondState ≠ .bonded := hno d hfind
  simp [liveBond, deviceIsBonded, hstate, hd']

theorem BondsSaved.pairingRequested {d : BtDevice} (h : BondsSaved s)
    (hno : NotBonded s addr) : BondsSaved (pairingRequested s addr d) := by
  unfold BtFramework.pairingRequested
  split_ifs
  · exact h
  · exact h
  · exact h.setBondState hno nofun

theorem BondsSaved.setBonded (h : BondsSaved s)
    (hbonded : ∀ d ∈ s.devices, d.addr = addr → d.bondState = .bonded) :
    BondsSaved (deviceSetBondState s addr .bonded isCtkd notify) := by
  refine h.keep (unique_setBondState h.unique) ?_ saved_setBondState
  rw [liveBonds_congr devices_setBondState]
  apply liveBonds_updateDevice
  intro d hd haddr
  simp [liveBond, deviceIsBonded, hbonded d hd haddr]

/-! ## One event -/

def BondEvent.unsaved : BondEvent → Option BtAddress
  | .pinRequest addr => some addr
  | .sspRequest addr => some addr
  | .bondStateChange addr state _ _ => if state = .bonded then none else some addr
  | .pairRequestReply addr accept salOk => if salOk && accept then some addr else none
  | _ => none

/-- A handler that does not save finds its device without a bond. -/
def KeepsBonds (s : BondService) (e : BondEvent) : Prop :=
  ∀ addr ∈ e.unsaved, NotBonded s addr

-- not by `inferInstance`, which would try every address
instance (e : BondEvent) : Decidable (KeepsBonds s e) :=
  decidable_of_iff (e.unsaved.all fun addr => decide (NotBonded s addr))
    (by simp [KeepsBonds, Option.all_eq_true])

theorem bondsSaved_bondStateChange {deviceType : Nat} (h : BondsSaved s)
    (hok : KeepsBonds s (.bondStateChange addr state isCtkd deviceType))
    (hfew : (processBondStateChangeEvt s addr state isCtkd deviceType).devices.length < 65536) :
    BondsSaved (processBondStateChangeEvt s addr state isCtkd deviceType) := by
  unfold processBondStateChangeEvt at hfew ⊢
  by_cases hstate : state = .bonded
  · rw [hstate] at hfew ⊢
    apply BondsSaved.setBonded
    · apply bondsSaved_save
      · exact unique_updateDevice (fun _ => rfl) (unique_setBondState (unique_findCreate h.unique))
      · simpa [updateDevice, adapterUpdateBondedDevice, btStorageSaveBondedDevice] using hfew
    · intro d hd haddr
      rcases mem_update.mp hd with ⟨d', hd', haddr', rfl⟩ | ⟨_, hne⟩
      · rw [devices_setBondState] at hd'
        rcases mem_update.mp hd' with ⟨d'', _, _, rfl⟩ | ⟨_, hne⟩
        · rfl
        · exact absurd haddr' hne
      · exact absurd haddr hne
  · simp only [if_neg hstate]
    have hno : NotBonded s addr := hok addr (by simp [unsaved, hstate])
    exact h.findCreate.setBondState hno.findCreate hstate

theorem bondsSaved_linkKeyRemoved (h : BondsSaved s)
    (hfew : (bondStep s (.linkKeyRemoved addr)).devices.length < 65536) :
    BondsSaved (bondStep s (.linkKeyRemoved addr)) := by
  refine bondsSaved_save ?_ hfew
  have hunique : UniqueAddrs (deviceDeleteLinkKey (adapterFindCreateClassicDevice s addr) addr) :=
    unique_updateDevice (fun _ => rfl) (unique_findCreate h.unique)
  split_ifs
  · exact unique_setBondState hunique
  · exact hunique

theorem bondsSaved_cancelBond (h : BondsSaved s) (salOk : Bool) :
    BondsSaved (bondStep s (.cancelBond addr salOk)) := by
  simp only [bondStep, adapterCancelBond]
  split_ifs with hfound hsal
  · exact h
  · refine h.setBondState ?_ nofun
    intro d hd
    rw [hd] at hfound
    intro hbonded
    simp [hbonded] at hfound
  · exact h

theorem bondsSaved_pairRequestReply (h : BondsSaved s) {accept salOk : Bool}
    (hok : KeepsBonds s (.pairRequestReply addr accept salOk)) :
    BondsSaved (bondStep s (.pairRequestReply addr accept salOk)) := by
  simp only [bondStep, adapterPairRequestReply]
  split
  · exact h
  · split_ifs with hreply
    · exact h.setBondState (hok addr (by simp [unsaved, hreply])) nofun
    · exact h

theorem bondStep_bondsSaved {e : BondEvent} (h : BondsSaved s) (hok : KeepsBonds s e)
    (hfew : (bondStep s e).devices.length < 65536) : BondsSaved (bondStep s e) := by
  cases e with
  | pairRequest addr isBondable =>
    simp only [bondStep, processPairRequestEvt]
    split_ifs
    · exact h
    · exact h.findCreate
  | pinRequest addr =>
    have hno : NotBonded s addr := hok addr rfl
    simp only [bondStep, processPinRequestEvt]
    split
    · exact h.findCreate
    · exact h.findCreate.pairingRequested hno.findCreate
  | sspRequest addr =>
    simp only [bondStep, processSspRequestEvt]
    split
    · exact ⟨h.unique, h.saved⟩
    · exact h.pairingRequested (hok addr rfl)
  | bondStateChange addr state isCtkd deviceType =>
    exact bondsSaved_bondStateChange h hok hfew
  | sdpSearchDone addr => exact bondsSaved_save (unique_findCreate h.unique) hfew
  | encStateChange addr => exact h.findCreate
  | linkKeyUpdate addr linkKey type =>
    refine bondsSaved_save ?_ hfew
    have hunique : UniqueAddrs
        (deviceSetLinkKey (adapterFindCreateClassicDevice s addr) addr linkKey) :=
      unique_updateDevice (fun _ => rfl) (unique_findCreate h.unique)
    exact unique_updateDevice (fun _ => rfl) hunique
  | linkKeyRemoved addr => exact bondsSaved_linkKeyRemoved h hfew
  | removeBond addr =>
    simp only [bondStep, adapterRemoveBond] at hfew ⊢
    split_ifs at hfew ⊢
    · exact h
    · exact bondsSaved_save (unique_updateDevice (fun _ => rfl) (unique_setBondState h.unique)) hfew
  | cancelBond addr salOk => exact bondsSaved_cancelBond h salOk
  | pairRequestReply addr accept salOk => exact bondsSaved_pairRequestReply h hok

theorem setBondState_not_savedIsLive {d : BtDevice} (h : BondsSaved s)
    (hfind : adapterFindDevice s addr = some d) (hd : d.bondState = .bonded)
    (hstate : state ≠ .bonded) :
    ¬SavedIsLive (deviceSetBondState s addr state isCtkd notify) := by
  intro hlive
  obtain ⟨hmem, haddr⟩ := mem_of_find? hfind
  have hsaved : (d.addr, d.linkKey)
      ∈ savedBonds (deviceSetBondState s addr state isCtkd notify) := by
    rw [savedBonds, saved_setBondState, ← savedBonds, h.saved]
    exact mem_liveBonds.mpr ⟨d, hmem, hd, rfl⟩
  obtain ⟨d', hd', hbonded, heq⟩ := mem_liveBonds.mp ((hlive _).mp hsaved)
  rw [devices_setBondState] at hd'
  rcases mem_update.mp hd' with ⟨_, _, _, rfl⟩ | ⟨_, hne⟩
  · exact hstate hbonded
  · exact hne ((Prod.ext_iff.mp heq).1.trans haddr)

theorem bondStep_of_unsaved {e : BondEvent} {d : BtDevice} (he : e.unsaved = some addr)
    (hfind : adapterFindDevice s addr = some d) (hd : d.bondState = .bonded) :
    ∃ state isCtkd, state ≠ .bonded
      ∧ bondStep s e = deviceSetBondState s addr state isCtkd true := by
  cases e with
  | pinRequest a =>
    obtain rfl : a = addr := Option.some.inj he
    refine ⟨.bonding, false, nofun, ?_⟩
    simp [bondStep, processPinRequestEvt, findCreate_of_find hfind, hfind, pairingRequested, hd]
  | sspRequest a =>
    obtain rfl : a = addr := Option.some.inj he
    refine ⟨.bonding, false, nofun, ?_⟩
    simp [bondStep, processSspRequestEvt, hfind, pairingRequested, hd]
  | bondStateChange a state isCtkd deviceType =>
    rw [unsaved] at he
    split_ifs at he with hstate
    obtain rfl : a = addr := Option.some.inj he
    refine ⟨state, isCtkd, hstate, ?_⟩
    simp [bondStep, processBondStateChangeEvt, findCreate_of_find hfind, hstate]
  | pairRequestReply a accept salOk =>
    rw [unsaved] at he
    split_ifs at he with hreply
    obtain rfl : a = addr := Option.some.inj he
    refine ⟨.bonding, false, nofun, ?_⟩
    simp only [bondStep, adapterPairRequestReply, hfind, if_pos hreply]
  | _ => cases he

theorem bondStep_not_savedIsLive {e : BondEvent} (h : BondsSaved s)
    (hno : ¬KeepsBonds s e) : ¬SavedIsLive (bondStep s e) := by
  simp only [KeepsBonds, NotBonded, not_forall, not_not] at hno
  obtain ⟨addr, he, d, hfind, hd⟩ := hno
  obtain ⟨state, isCtkd, hstate, hstep⟩ := bondStep_of_unsaved he hfind hd
  rw [hstep]
  exact setBondState_not_savedIsLive h hfind hd hstate

/-! ## Starting from the store -/

def restoredDevice (remote : RemoteDeviceProperties) : BtDevice :=
  { addr := remote.addr, bondState := .bonded, linkKey := remote.linkKey
    linkKeyType := remote.linkKeyType, deviceType := remote.deviceType }

theorem loadBondedDevice_eq {remote : RemoteDeviceProperties}
    (hnew : ∀ d ∈ s.devices, d.addr ≠ remote.addr) :
    (loadBondedDevice s remote).devices = s.devices ++ [restoredDevice remote]
      ∧ (loadBondedDevice s remote).saved = s.saved := by
  have hfind : adapterFindDevice s remote.addr = none := by
    simpa [adapterFindDevice] using hnew
  have hcreate : (adapterFindCreateClassicDevice s remote.addr).devices
      = s.devices ++ [brDeviceCreate remote.addr] := by
    rw [adapterFindCreateClassicDevice, hfind]
  have hput : ∀ (f : BtDevice → BtDevice) d, d.addr = remote.addr →
      Keyed.update (·.addr) remote.addr f (s.devices ++ [d]) = s.devices ++ [f d] :=
    fun _ _ hd => update_concat hnew hd
  constructor
  · simp only [loadBondedDevice, devices_setBondState, updateDevice, deviceSetLinkKeyType,
      deviceSetLinkKey, deviceSetDeviceType, hcreate, brDeviceCreate]
    rw [hput _ _ rfl, hput _ _ rfl, hput _ _ rfl, hput _ _ rfl, restoredDevice]
  · simp [loadBondedDevice, updateDevice, deviceSetLinkKeyType, deviceSetLinkKey,
      deviceSetDeviceType]

theorem foldl_loadBondedDevice (hunique : (s.devices.map (·.addr) ++ rows.map (·.addr)).Nodup) :
    (rows.foldl loadBondedDevice s).devices = s.devices ++ rows.map restoredDevice
      ∧ (rows.foldl loadBondedDevice s).saved = s.saved := by
  induction rows generalizing s with
  | nil => simp
  | cons remote rows ih =>
    have hnew : ∀ d ∈ s.devices, d.addr ≠ remote.addr := by
      intro d hd
      exact (nodup_append.mp hunique).2.2 _ (mem_map_of_mem hd) _ mem_cons_self
    obtain ⟨hdevices, hsaved⟩ := loadBondedDevice_eq hnew
    have htail : ((loadBondedDevice s remote).devices.map (·.addr) ++ rows.map (·.addr)).Nodup := by
      rw [hdevices]
      simpa [restoredDevice] using hunique
    obtain ⟨ihdevices, ihsaved⟩ := ih htail
    rw [foldl_cons, ihdevices, ihsaved, hdevices, hsaved]
    simp

theorem bondsSaved_bondedDeviceLoaded (hunique : (rows.map (·.addr)).Nodup) :
    BondsSaved (bondedDeviceLoaded rows) := by
  obtain ⟨hdevices, hsaved⟩ := foldl_loadBondedDevice
    (s := { devices := [], saved := rows, notified := [], fault := false }) hunique
  rw [nil_append] at hdevices
  refine ⟨?_, ?_⟩
  · rw [UniqueAddrs, bondedDeviceLoaded, hdevices, map_map]
    exact hunique
  · rw [savedBonds, liveBonds, bondedDeviceLoaded, hdevices, hsaved, filterMap_map]
    exact (congrFun filterMap_eq_map' rows).symm

/-! ## Every run -/

/-- Along every run with fewer than 65536 known devices the store holds exactly the live bonds
exactly when no event takes a bonded device out of BONDED without a save. -/
theorem saved_bonds_iff_keepsBonds {es : List BondEvent} (hs : BondsSaved s)
    (hfew : ∀ t ∈ visited bondStep s es, t.devices.length < 65536) :
    (∀ t ∈ visited bondStep s es, SavedIsLive t) ↔ Guarded bondStep KeepsBonds s es :=
  forall_visited_iff_guarded_within (fun _ h bond => by rw [h.saved])
    (fun _ _ h hok hfew => bondStep_bondsSaved h hok hfew)
    (fun _ _ h hno => bondStep_not_savedIsLive h hno) hs hfew

def removeAndPair : List BondEvent :=
  [.bondStateChange 2 .bonding false 0, .removeBond 1, .linkKeyUpdate 2 9 4,
    .bondStateChange 2 .bonded false 1]

theorem removeAndPair_saved :
    Guarded bondStep KeepsBonds (bondedDeviceLoaded [⟨1, 7, 4, 1⟩]) removeAndPair
      ∧ ∀ t ∈ visited bondStep (bondedDeviceLoaded [⟨1, 7, 4, 1⟩]) removeAndPair, SavedIsLive t :=
  ⟨by decide +kernel,
    (saved_bonds_iff_keepsBonds (bondsSaved_bondedDeviceLoaded (by decide))
      (by decide +kernel)).mpr (by decide +kernel)⟩

/-- The stack reports the loss of a stored bond. -/
theorem bond_lost_stays_saved :
    let t := after bondStep (bondedDeviceLoaded [⟨1, 7, 4, 1⟩]) [.bondStateChange 1 .none false 0]
    savedBonds t = [(1, 7)] ∧ liveBonds t = [] ∧ ¬SavedIsLive t := by
  refine ⟨by decide +kernel, by decide +kernel, ?_⟩
  intro h
  exact absurd ((h (1, 7)).mp (by decide +kernel)) (by decide +kernel)

end BtFramework
