import BtFramework.AdapterBond
import BtFramework.Runs

/-!
# Bond-state notifications

CANCELING is not for observers; to them the device is still BONDING. `adapter_notify_bond_state`
passes on whatever it is given, so whether observers can follow depends on the state the device
has and the one it gets (`NotifyOk`). The handler of a BR/EDR bond-state change notifies BONDED
twice.
-/

namespace BtFramework

open List Option Runs

/-! ## Walks of notifications -/

def lastNotified (init : BondState) (l : List BondNotification) : BondState :=
  (l.getLast?.map (·.currentState)).getD init

structure FaithfulChain (init : BondState) (l : List BondNotification) (final : BondState) :
    Prop where
  changes : ∀ n ∈ l, n.previousState ≠ n.currentState
  chained : ∀ k n, l[k]? = some n → n.previousState = lastNotified init (l.take k)
  last : lastNotified init l = final

variable {init final : BondState} {l : List BondNotification} {n : BondNotification}

@[simp] theorem lastNotified_concat : lastNotified init (l ++ [n]) = n.currentState := by
  simp [lastNotified]

theorem FaithfulChain.concat (h : FaithfulChain init l final)
    (hfrom : n.previousState = final) (hne : n.previousState ≠ n.currentState) :
    FaithfulChain init (l ++ [n]) n.currentState where
  changes := Keyed.forall_mem_concat.mpr ⟨h.changes, hne⟩
  chained := by
    intro k m hm
    rcases Nat.lt_or_ge k l.length with hk | hk
    · rw [getElem?_append_left hk] at hm
      rw [take_append_of_le_length (Nat.le_of_lt hk)]
      exact h.chained k m hm
    · rw [getElem?_append_right hk] at hm
      obtain ⟨hk', rfl⟩ := List.getElem?_eq_some_iff.mp hm
      have hk : k = l.length := by
        rw [length_singleton] at hk'
        omega
      subst hk
      rw [take_left, h.last]
      simpa using hfrom
  last := lastNotified_concat

theorem FaithfulChain.of_concat (h : FaithfulChain init (l ++ [n]) final) :
    n.previousState ≠ n.currentState ∧ n.currentState = final := by
  refine ⟨h.changes n (mem_append_right _ (mem_singleton.mpr rfl)), ?_⟩
  rw [← h.last, lastNotified_concat]

/-! ## What observers are told about a service -/

def BondState.shown : BondState → BondState
  | .canceling => .bonding
  | state => state

theorem shown_of_ne {state : BondState} (h : state ≠ .canceling) : state.shown = state := by
  cases state with
  | canceling => exact absurd rfl h
  | _ => rfl

def bondStateOf (s : BondService) (addr : BtAddress) : BondState :=
  ((adapterFindDevice s addr).map (·.bondState)).getD .none

def notifiedFor (s : BondService) (addr : BtAddress) : List BondNotification :=
  s.notified.filter (·.addr = addr)

/-- The notifications of each device form a walk: each leaves from where the one before arrived and
goes somewhere else, and the last arrived at the state of the device. -/
def Followed (init : BtAddress → BondState) (s : BondService) : Prop :=
  ∀ addr, FaithfulChain (init addr) (notifiedFor s addr) (bondStateOf s addr).shown

variable {s t : BondService} {addr : BtAddress} {state : BondState} {isCtkd notify : Bool}
  {start : BtAddress → BondState}

theorem Followed.congr (h : Followed start s) (hnotified : t.notified = s.notified)
    (hstate : ∀ a, (bondStateOf t a).shown = (bondStateOf s a).shown) : Followed start t := by
  intro a
  rw [notifiedFor, hnotified, ← notifiedFor, hstate]
  exact h a

/-! ## What the operations notify -/

@[simp] theorem bondStateOf_findCreate (a : BtAddress) :
    bondStateOf (adapterFindCreateClassicDevice s addr) a = bondStateOf s a := by
  unfold adapterFindCreateClassicDevice
  split
  · rfl
  · rw [bondStateOf, bondStateOf, adapterFindDevice, adapterFindDevice, find?_append]
    cases s.devices.find? (·.addr = a) with
    | some d => rfl
    | none =>
      by_cases ha : addr = a
      · simp [brDeviceCreate, ha]
      · simp [brDeviceCreate, ha]

@[simp] theorem notified_findCreate :
    (adapterFindCreateClassicDevice s addr).notified = s.notified := by
  unfold adapterFindCreateClassicDevice
  split <;> rfl

theorem bondStateOf_updateDevice {f : BtDevice → BtDevice}
    (hf : ∀ d, (f d).addr = d.addr ∧ (f d).bondState = d.bondState) (a : BtAddress) :
    bondStateOf (updateDevice s addr f) a = bondStateOf s a := by
  have hstate : (fun d => (f d).bondState) = BtDevice.bondState := funext fun d => (hf d).2
  rw [bondStateOf, find_updateDevice fun d => (hf d).1]
  split
  next ha =>
    rw [ha, Option.map_map, Function.comp_def, hstate]
    rfl
  · rfl

variable {d : BtDevice} {previous : BondState}

theorem bondStateOf_setBondState (hfind : adapterFindDevice s addr = some d) (a : BtAddress) :
    bondStateOf (deviceSetBondState s addr state isCtkd notify) a
      = if a = addr then state else bondStateOf s a := by
  rw [bondStateOf, find_setBondState, hfind]
  split <;> rfl

theorem bondStateOf_of_find (hfind : adapterFindDevice s addr = some d) :
    bondStateOf s addr = d.bondState := by
  rw [bondStateOf, hfind]
  rfl

def notice (addr : BtAddress) (previous current : BondState) (isCtkd : Bool) :
    List BondNotification :=
  if previous = .canceling then
    if current = .none then [⟨addr, .bonding, current, isCtkd⟩] else []
  else [⟨addr, previous, current, isCtkd⟩]

theorem notified_setBondState (hfind : adapterFindDevice s addr = some d) :
    (deviceSetBondState s addr state isCtkd true).notified
      = s.notified ++ notice addr d.bondState state isCtkd := by
  rw [deviceSetBondState, hfind]
  simp only [if_true, adapterNotifyBondState, notice]
  split_ifs
  · rfl
  · exact (append_nil _).symm
  · rfl

theorem filter_notice_of_ne {a : BtAddress} (ha : a ≠ addr) :
    (notice addr previous state isCtkd).filter (·.addr = a) = [] := by
  unfold notice
  split_ifs <;> simp [ha.symm]

theorem filter_notice_self :
    (notice addr previous state isCtkd).filter (·.addr = addr)
      = notice addr previous state isCtkd := by
  unfold notice
  split_ifs <;> simp

/-! ## When a change can be followed -/

def NotifyOk (previous state : BondState) : Prop :=
  if previous = .canceling then state ≠ .bonded else previous ≠ state ∧ state ≠ .canceling
deriving Decidable

theorem faithfulChain_notice_iff (h : FaithfulChain init l previous.shown) :
    FaithfulChain init (l ++ notice addr previous state isCtkd) state.shown
      ↔ NotifyOk previous state := by
  unfold notice NotifyOk
  by_cases hprev : previous = .canceling
  · have hlast : lastNotified init l = .bonding := by rw [h.last, hprev]; rfl
    rw [if_pos hprev, if_pos hprev]
    cases state with
    | none =>
      rw [hprev] at h
      exact iff_of_true (h.concat rfl nofun) nofun
    | bonding | canceling =>
      rw [if_neg nofun, append_nil]
      rw [hprev] at h
      exact iff_of_true h nofun
    | bonded =>
      rw [if_neg nofun, append_nil]
      refine iff_of_false (fun hchain => ?_) (fun hne => hne rfl)
      cases hlast.symm.trans hchain.last
  · have hshown := shown_of_ne hprev
    rw [if_neg hprev, if_neg hprev]
    constructor
    · intro hchain
      obtain ⟨hne, hfinal⟩ := hchain.of_concat
      refine ⟨hne, fun hc => ?_⟩
      rw [hc] at hfinal
      cases hfinal
    · rintro ⟨hne, hc⟩
      rw [shown_of_ne hc]
      exact h.concat hshown.symm hne

theorem followed_setBondState_iff (h : Followed start s)
    (hfind : adapterFindDevice s addr = some d) :
    Followed start (deviceSetBondState s addr state isCtkd true) ↔ NotifyOk d.bondState state := by
  have hself : notifiedFor (deviceSetBondState s addr state isCtkd true) addr
      = notifiedFor s addr ++ notice addr d.bondState state isCtkd := by
    rw [notifiedFor, notified_setBondState hfind, filter_append, filter_notice_self]
    rfl
  have hat := h addr
  rw [bondStateOf_of_find hfind] at hat
  rw [← faithfulChain_notice_iff hat, ← hself]
  constructor
  · intro hall
    have haddr := hall addr
    rwa [bondStateOf_setBondState hfind, if_pos rfl] at haddr
  · intro haddr a
    rw [bondStateOf_setBondState hfind]
    split
    next ha =>
      rw [ha]
      exact haddr
    next ha =>
      rw [notifiedFor, notified_setBondState hfind, filter_append,
        filter_notice_of_ne ha, append_nil]
      exact h a

theorem not_followed_repeat (hfind : adapterFindDevice s addr = some d)
    (hd : d.bondState = state) (hstate : state ≠ .canceling) :
    ¬Followed start (deviceSetBondState s addr state isCtkd true) := by
  intro hall
  have hchain := hall addr
  rw [notifiedFor, notified_setBondState hfind, filter_append, filter_notice_self,
    notice, hd, if_neg hstate] at hchain
  exact hchain.of_concat.1 rfl

/-! ## The handlers -/

theorem Followed.findCreate_iff :
    Followed start (adapterFindCreateClassicDevice s addr) ↔ Followed start s :=
  ⟨fun h => h.congr notified_findCreate.symm fun a => by rw [bondStateOf_findCreate],
    fun h => h.congr notified_findCreate fun a => by rw [bondStateOf_findCreate]⟩

section

variable (h : Followed start s)
include h

theorem Followed.updateDevice {f : BtDevice → BtDevice}
    (hf : ∀ d, (f d).addr = d.addr ∧ (f d).bondState = d.bondState) :
    Followed start (updateDevice s addr f) :=
  h.congr rfl fun a => by rw [bondStateOf_updateDevice hf]

theorem Followed.save : Followed start (adapterUpdateBondedDevice s) := h.congr rfl fun _ => rfl

theorem Followed.pairingRequested (hfind : adapterFindDevice s addr = some d) :
    Followed start (pairingRequested s addr d) := by
  unfold BtFramework.pairingRequested
  split
  · exact h
  next hcancel =>
    split
    · exact h
    next hbonding =>
      refine (followed_setBondState_iff h hfind).mpr ?_
      rw [NotifyOk, if_neg hcancel]
      exact ⟨hbonding, nofun⟩

theorem Followed.unbond (hfind : adapterFindDevice s addr = some d)
    (hd : deviceIsBonded d = true) :
    Followed start (deviceSetBondState s addr .none isCtkd true) := by
  have hbonded : d.bondState = .bonded := by simpa [deviceIsBonded] using hd
  refine (followed_setBondState_iff h hfind).mpr ?_
  rw [hbonded]
  decide

theorem Followed.cancel (hfind : adapterFindDevice s addr = some d) (hd : d.bondState = .bonding) :
    Followed start (deviceSetBondState s addr .canceling isCtkd false) := by
  refine h.congr (by unfold deviceSetBondState; split <;> rfl) fun a => ?_
  rw [bondStateOf_setBondState hfind]
  split
  next ha => rw [ha, bondStateOf_of_find hfind, hd]; rfl
  · rfl

theorem followed_findCreate_setBondState_iff :
    Followed start (deviceSetBondState (adapterFindCreateClassicDevice s addr) addr state
        isCtkd true)
      ↔ NotifyOk (bondStateOf s addr) state := by
  obtain ⟨d, hfind, -⟩ := find_findCreate s addr
  have hd : d.bondState = bondStateOf s addr := by
    rw [← bondStateOf_of_find hfind, bondStateOf_findCreate]
  rw [followed_setBondState_iff (Followed.findCreate_iff.mpr h) hfind, hd]

end

theorem bonded_notified_twice {deviceType : Nat} :
    ¬Followed start (processBondStateChangeEvt s addr .bonded isCtkd deviceType) := by
  unfold processBondStateChangeEvt
  obtain ⟨d, hfind, -⟩ := find_findCreate s addr
  have hset : adapterFindDevice (deviceSetBondState (adapterFindCreateClassicDevice s addr)
      addr .bonded isCtkd true) addr = some { d with bondState := .bonded } := by
    rw [find_setBondState, if_pos rfl, hfind]
    rfl
  have hsave : adapterFindDevice (adapterUpdateBondedDevice (deviceSetDeviceType
      (deviceSetBondState (adapterFindCreateClassicDevice s addr) addr .bonded isCtkd true)
      addr deviceType)) addr = some { d with bondState := .bonded, deviceType := deviceType } := by
    show adapterFindDevice (deviceSetDeviceType _ addr deviceType) addr = _
    rw [deviceSetDeviceType, find_updateDevice, if_pos rfl, hset]
    · rfl
    · intro _
      rfl
  exact not_followed_repeat hsave rfl nofun

/-! ## One event -/

/-- What the event notifies continues the walk. -/
def BondEvent.Followable (s : BondService) : BondEvent → Prop
  | .bondStateChange addr state _ _ =>
    state ≠ .bonded ∧ NotifyOk (bondStateOf s addr) state
  | .pairRequestReply addr accept salOk =>
    salOk = true → accept = true → NotifyOk (bondStateOf s addr) .bonding
  | _ => True

section

variable (h : Followed start s)
include h

theorem Followed.sspRequest : Followed start (processSspRequestEvt s addr) := by
  unfold processSspRequestEvt
  split
  · exact h.congr rfl fun _ => rfl
  next hfind => exact h.pairingRequested hfind

theorem Followed.pinRequest : Followed start (processPinRequestEvt s addr) := by
  unfold processPinRequestEvt
  dsimp only
  split
  · exact findCreate_iff.mpr h
  next hfind => exact (findCreate_iff.mpr h).pairingRequested hfind

theorem Followed.linkKeyRemoved : Followed start (processLinkKeyRemovedEvt s addr) := by
  have hkey : Followed start (deviceDeleteLinkKey (adapterFindCreateClassicDevice s addr) addr) :=
    (findCreate_iff.mpr h).updateDevice fun _ => ⟨rfl, rfl⟩
  unfold processLinkKeyRemovedEvt
  dsimp only
  split
  next hbonded =>
    obtain ⟨d, hfind, hd⟩ := (any_eq_true _ _).mp hbonded
    exact (hkey.unbond hfind hd).save
  · exact hkey.save

theorem Followed.removeBond : Followed start (adapterRemoveBond s addr) := by
  unfold adapterRemoveBond
  split
  · exact h
  next hbonded =>
    obtain ⟨d, hfind, hd⟩ := (any_eq_true _ _).mp (by simpa using hbonded)
    have hkey : Followed start
        (deviceDeleteLinkKey (deviceSetBondState s addr .none false true) addr) :=
      (h.unbond hfind hd).updateDevice fun _ => ⟨rfl, rfl⟩
    exact hkey.save

theorem Followed.cancelBond {salOk : Bool} : Followed start (adapterCancelBond s addr salOk) := by
  unfold adapterCancelBond
  split
  · exact h
  next hbonding =>
    obtain ⟨d, hfind, hd⟩ := (any_eq_true _ _).mp (by simpa using hbonding)
    split
    · exact h.cancel hfind (by simpa using hd)
    · exact h

theorem followed_pairRequestReply_iff {accept salOk : Bool} :
    Followed start (adapterPairRequestReply s addr accept salOk)
      ↔ (salOk = true → accept = true → NotifyOk (bondStateOf s addr) .bonding) := by
  unfold adapterPairRequestReply
  split
  next hfind =>
    refine iff_of_true h fun _ _ => ?_
    rw [bondStateOf, hfind]
    decide
  next d hfind =>
    rw [bondStateOf_of_find hfind]
    split
    next hreply =>
      obtain ⟨rfl, rfl⟩ := Bool.and_eq_true_iff.mp hreply
      rw [followed_setBondState_iff h hfind]
      exact ⟨fun hok _ _ => hok, fun hok => hok rfl rfl⟩
    next hreply =>
      refine iff_of_true h fun hsal haccept => absurd ?_ hreply
      rw [hsal, haccept]
      rfl

theorem followed_bondStep_iff (e : BondEvent) : Followed start (bondStep s e) ↔ e.Followable s := by
  cases e with
  | pairRequest addr isBondable =>
    refine iff_of_true ?_ trivial
    unfold bondStep processPairRequestEvt
    dsimp only
    split
    · exact h
    · exact Followed.findCreate_iff.mpr h
  | pinRequest addr => exact iff_of_true h.pinRequest trivial
  | sspRequest addr => exact iff_of_true h.sspRequest trivial
  | bondStateChange addr state isCtkd deviceType =>
    by_cases hstate : state = .bonded
    · subst hstate
      exact iff_of_false bonded_notified_twice fun hok => hok.1 rfl
    · have hset : bondStep s (.bondStateChange addr state isCtkd deviceType)
          = deviceSetBondState (adapterFindCreateClassicDevice s addr) addr state isCtkd
              true := by
        simp [bondStep, processBondStateChangeEvt, hstate]
      rw [hset, followed_findCreate_setBondState_iff h]
      exact ⟨fun hok => ⟨hstate, hok⟩, fun hok => hok.2⟩
  | sdpSearchDone addr => exact iff_of_true (Followed.findCreate_iff.mpr h).save trivial
  | encStateChange addr => exact iff_of_true (Followed.findCreate_iff.mpr h) trivial
  | linkKeyUpdate addr linkKey type =>
    have hkey : Followed start
        (deviceSetLinkKey (adapterFindCreateClassicDevice s addr) addr linkKey) :=
      (Followed.findCreate_iff.mpr h).updateDevice fun _ => ⟨rfl, rfl⟩
    have htype : Followed start (deviceSetLinkKeyType
        (deviceSetLinkKey (adapterFindCreateClassicDevice s addr) addr linkKey) addr type) :=
      hkey.updateDevice fun _ => ⟨rfl, rfl⟩
    exact iff_of_true htype.save trivial
  | linkKeyRemoved addr => exact iff_of_true h.linkKeyRemoved trivial
  | removeBond addr => exact iff_of_true h.removeBond trivial
  | cancelBond addr salOk => exact iff_of_true h.cancelBond trivial
  | pairRequestReply addr accept salOk => exact followed_pairRequestReply_iff h

end

def LeBondEvent.Followable (s : BondService) : LeBondEvent → Prop
  | .bondStateChange addr state _ => NotifyOk (bondStateOf s addr) state
  | _ => True

theorem followed_leBondStep_iff (h : Followed start s) (e : LeBondEvent) :
    Followed start (leBondStep s e) ↔ e.Followable s := by
  cases e with
  | sspRequest addr => exact iff_of_true h.sspRequest trivial
  | bondStateChange addr state isCtkd =>
    show Followed start (processBondStateChangeEvtLe s addr state isCtkd) ↔ _
    unfold processBondStateChangeEvtLe adapterFindCreateLeDevice
    obtain ⟨d, hfind, -⟩ := find_findCreate s addr
    have hd : d.bondState = bondStateOf s addr := by
      rw [← bondStateOf_of_find hfind, bondStateOf_findCreate]
    split
    · have htype : Followed start (deviceSetDeviceType
          (adapterFindCreateClassicDevice s addr) addr btDeviceTypeBle) :=
        (Followed.findCreate_iff.mpr h).updateDevice fun _ => ⟨rfl, rfl⟩
      have hfind' : adapterFindDevice (deviceSetDeviceType
          (adapterFindCreateClassicDevice s addr) addr btDeviceTypeBle) addr
            = some { d with deviceType := btDeviceTypeBle } := by
        rw [deviceSetDeviceType, find_updateDevice, if_pos rfl, hfind]
        · rfl
        · intro _
          rfl
      rw [followed_setBondState_iff htype hfind', hd]
      rfl
    · exact followed_findCreate_setBondState_iff h
  | removeBond addr =>
    refine iff_of_true ?_ trivial
    show Followed start (adapterRemoveBondLe s addr)
    unfold adapterRemoveBondLe
    split
    · exact h
    next hbonded =>
      obtain ⟨d, hfind, hd⟩ := (any_eq_true _ _).mp (by simpa using hbonded)
      exact h.unbond hfind hd

/-! ## Every run -/

/-- The bonds of both transports. -/
structure BondServices where
  bredr : BondService
  le : BondService

inductive BondInput where
  | bredr (e : BondEvent)
  | le (e : LeBondEvent)

def bondsStep (b : BondServices) : BondInput → BondServices
  | .bredr e => { b with bredr := bondStep b.bredr e }
  | .le e => { b with le := leBondStep b.le e }

/-- On both transports, from no bond on. -/
def BondServices.Followed (b : BondServices) : Prop :=
  BtFramework.Followed (fun _ => .none) b.bredr ∧ BtFramework.Followed (fun _ => .none) b.le

def BondInput.Followable (b : BondServices) : BondInput → Prop
  | .bredr e => e.Followable b.bredr
  | .le e => e.Followable b.le

theorem followed_bondsStep_iff {b : BondServices} (h : b.Followed) (i : BondInput) :
    (bondsStep b i).Followed ↔ i.Followable b := by
  cases i with
  | bredr e => exact (and_iff_left h.2).trans (followed_bondStep_iff h.1 e)
  | le e => exact (and_iff_right h.1).trans (followed_leBondStep_iff h.2 e)

/-- **Notifications can be followed** in every state of a run exactly when they can be in its
first state and every event brings a change that can be notified. -/
theorem followed_iff_followable (b : BondServices) (is : List BondInput) :
    (∀ b' ∈ visited bondsStep b is, b'.Followed)
      ↔ b.Followed ∧ Guarded bondsStep (fun b i => i.Followable b) b is := by
  have hrun (h : b.Followed) : (∀ b' ∈ visited bondsStep b is, b'.Followed)
      ↔ Guarded bondsStep (fun b i => i.Followable b) b is :=
    forall_visited_iff_guarded (fun _ h => h)
      (fun _ i h hok => (followed_bondsStep_iff h i).mpr hok)
      (fun _ i h hno hfollowed => hno ((followed_bondsStep_iff h i).mp hfollowed)) h
  constructor
  · intro hall
    have hfirst := hall b mem_visited
    exact ⟨hfirst, (hrun hfirst).mp hall⟩
  · rintro ⟨hfirst, hguard⟩
    exact (hrun hfirst).mpr hguard

def noBonds : BondServices :=
  ⟨⟨[], [], [], false⟩, ⟨[], [], [], false⟩⟩

/-- A pairing over BR/EDR that succeeds: observers are told twice that the
device is BONDED. -/
theorem pairing_not_followed :
    let b := after bondsStep noBonds
      [.bredr (.bondStateChange 1 .bonding false 0), .bredr (.bondStateChange 1 .bonded false 1)]
    b.bredr.notified = [⟨1, .none, .bonding, false⟩, ⟨1, .bonding, .bonded, false⟩,
        ⟨1, .bonded, .bonded, false⟩]
      ∧ ¬b.Followed := by
  refine ⟨by decide, fun h => ?_⟩
  exact (h.1 1).changes ⟨1, .bonded, .bonded, false⟩ (by decide) rfl

end BtFramework
