import BtFramework.SalConnectionLists

/-!
# Unpairing

An unpairing marks the manager in the disconnecting list; when the link has gone down,
`bt_sal_cm_acl_disconnected` finds the mark and asks for the bond to be removed. But a handler
that fails is taken out by the worker, and if it was the last one the manager goes, with the
mark.
-/

namespace BtFramework.SalConnection

open Keyed List ListName Option Runs State

def State.UnpairPending (s : State) (addr : BtAddress) : Prop :=
  ∃ m, s.findManager .disconnecting addr = some m ∧ m.isUnpair = true

/-- The loss of the link would remove the bond. -/
def State.Completes (s : State) (addr : BtAddress) : Prop :=
  ∀ works, (btSalCmAclDisconnected s addr works).calls = s.calls ++ [.removeBond addr]

namespace Event

/-- The link of the device goes down. -/
def endsLink (addr : BtAddress) : Event → Bool
  | .aclDisconnected addr' _ => addr' = addr
  | _ => false

/-- The last handler fails. -/
def dropsUnpair (addr : BtAddress) (s : State) : Event → Bool
  | .handlerReturned i status => status ≠ .success && (s.running[i]?).any fun r =>
    r.managerList = some .disconnecting && r.deviceAddr = addr
      && (s.findManager .disconnecting addr).any fun m =>
        Keyed.removeFirst HandlerNode.key (r.profileId, r.connId) m.handlers = []
  | _ => false

end Event

/-! ## What the end of the link does -/

section

variable {s : State} {addr : BtAddress}

theorem findManager_of_managers {s' : State} {w : ListName} (h : s'.managers w = s.managers w) :
    s'.findManager w addr = s.findManager w addr := by
  rw [findManager, findManager, h]

theorem aclDisconnectedConnecting_frame (s : State) (addr : BtAddress) (works : List Bool) :
    (aclDisconnectedConnecting s addr works).calls = s.calls
      ∧ (aclDisconnectedConnecting s addr works).managers .disconnecting
        = s.managers .disconnecting := by
  unfold aclDisconnectedConnecting triggerProfileConnAct
  (repeat' split) <;> exact ⟨rfl, rfl⟩

theorem calls_aclDisconnected (s : State) (addr : BtAddress) (works : List Bool) :
    (btSalCmAclDisconnected s addr works).calls
      = (s.findManager .disconnecting addr).elim s.calls fun m =>
          if m.isUnpair then s.calls ++ [.removeBond addr] else s.calls := by
  obtain ⟨hcalls, hmanagers⟩ := aclDisconnectedConnecting_frame s addr works
  rw [btSalCmAclDisconnected, aclDisconnectedDisconnecting, findManager_of_managers hmanagers]
  cases hfind : s.findManager .disconnecting addr with
  | none => exact hcalls
  | some m =>
    have haddr : m.deviceAddr = addr := (mem_of_find? hfind).2
    simp only [removeManager, calls_mapList, elim_some]
    split
    · rw [call, hcalls, haddr]
    · exact hcalls

theorem completes_iff (s : State) (addr : BtAddress) : s.Completes addr ↔ s.UnpairPending addr := by
  have hne : s.calls ≠ s.calls ++ [.removeBond addr] := fun heq => by
    have hlen := congrArg List.length heq
    rw [length_append, length_singleton] at hlen
    omega
  rw [State.Completes, State.UnpairPending]
  simp only [calls_aclDisconnected, forall_const]
  cases s.findManager .disconnecting addr with
  | none =>
    refine iff_of_false hne ?_
    rintro ⟨m, hm, -⟩
    exact some_ne_none m hm.symm
  | some m =>
    cases hu : m.isUnpair with
    | true => exact iff_of_true (if_pos hu) ⟨m, rfl, hu⟩
    | false =>
      have hidle : ¬m.isUnpair = true := by rw [hu]; exact Bool.noConfusion
      refine iff_of_false (fun heq => hne ((if_neg hidle).symm.trans heq)) ?_
      rintro ⟨m', hm', hu'⟩
      exact hidle (Option.some.inj hm' ▸ hu')

/-! ## What keeps the mark -/

theorem State.UnpairPending.of_managers {s' : State} (hu : s.UnpairPending addr)
    (h : s'.managers .disconnecting = s.managers .disconnecting) : s'.UnpairPending addr := by
  rw [State.UnpairPending, findManager_of_managers h]
  exact hu

theorem State.UnpairPending.modifyManager (h : s.WellKept) (hu : s.UnpairPending addr)
    (w : ListName) (addr' : BtAddress) {f : Manager → Manager}
    (haddr : ∀ m, (f m).deviceAddr = m.deviceAddr)
    (hf : ∀ m, m.isUnpair = true → (f m).isUnpair = true) :
    (s.modifyManager w addr' f).UnpairPending addr := by
  cases w with
  | connecting => exact hu.of_managers (managers_mapList_of_ne s noConfusion _)
  | disconnecting =>
    obtain ⟨m, hm, hmark⟩ := hu
    by_cases heq : addr = addr'
    · refine ⟨f m, ?_, hf m hmark⟩
      rw [← heq, h.findManager_modifyManager haddr, hm]
      rfl
    · refine ⟨m, ?_, hmark⟩
      rw [findManager, h.managers_modifyManager, find?_update_of_ne haddr heq]
      exact hm

theorem State.UnpairPending.setHandlers (h : s.WellKept) (hu : s.UnpairPending addr)
    (w : ListName) (addr' : BtAddress) (g : Manager → List HandlerNode) :
    (s.modifyManager w addr' fun m => { m with handlers := g m }).UnpairPending addr :=
  hu.modifyManager h w addr' (fun _ => rfl) fun _ hmark => hmark

theorem State.UnpairPending.removeManager (h : s.WellKept) (hu : s.UnpairPending addr)
    (w : ListName) (addr' : BtAddress) (hne : w = .disconnecting → addr' ≠ addr) :
    (s.removeManager w addr').UnpairPending addr := by
  cases w with
  | connecting => exact hu.of_managers (managers_mapList_of_ne s noConfusion _)
  | disconnecting =>
    obtain ⟨m, hm, hmark⟩ := hu
    rw [State.UnpairPending, findManager, h.managers_removeManager]
    have haddr : m.deviceAddr = addr := (h.findManager_eq_some.mp hm).2
    exact ⟨m, find?_remove hm (haddr ▸ (hne rfl).symm), hmark⟩

theorem State.UnpairPending.addManager (hu : s.UnpairPending addr) (w : ListName) (m' : Manager) :
    (s.mapList w (· ++ [m'])).UnpairPending addr := by
  cases w with
  | connecting => exact hu.of_managers (managers_mapList_of_ne s noConfusion _)
  | disconnecting =>
    obtain ⟨m, hm, hmark⟩ := hu
    refine ⟨m, ?_, hmark⟩
    have hlist : s.list .disconnecting ≠ none := fun hnone => by
      rw [findManager, managers, hnone] at hm
      exact absurd hm.symm (some_ne_none m)
    rw [findManager, managers_mapList s .disconnecting
      (g := (· ++ [m'])) fun hnone => absurd hnone hlist, find?_append, ← findManager, hm]
    rfl

theorem State.UnpairPending.trigger (h : s.WellKept) (hu : s.UnpairPending addr) (w : ListName)
    (addr' : BtAddress) (works : List Bool) :
    (triggerProfileConnAct s w addr' works).1.UnpairPending addr := by
  rw [triggerProfileConnAct]
  split
  · exact hu
  next m _ => exact hu.setHandlers h w addr' fun _ => (triggerNodes w addr' works m.handlers).1

theorem State.WellKept.not_unpairPending_removeFrom (h : s.WellKept) {m : Manager}
    (hm : s.findManager .disconnecting addr = some m) {profileId : UInt8} {connId : UInt16}
    (hempty : Keyed.removeFirst HandlerNode.key (profileId, connId) m.handlers = []) :
    ¬(removeFromConnectionManagerList s .disconnecting addr profileId connId false).UnpairPending
      addr := by
  rw [removeFromConnectionManagerList, hm]
  simp only [hempty, if_true, Bool.false_eq_true, if_false]
  have hmod := h.removeNode hm profileId connId
  rw [hempty] at hmod
  rintro ⟨m', hm', -⟩
  obtain ⟨hmem, haddr⟩ := hmod.removeManager.findManager_eq_some.mp hm'
  rw [hmod.managers_removeManager] at hmem
  exact (mem_remove.mp hmem).2 haddr

/-! ## Every event -/

theorem unpairPending_preserved {adds : Option (ListName × BtAddress × UInt8 × UInt16)} :
    Preserved adds (fun w addr' => w = .disconnecting → addr' ≠ addr)
      fun s => s.WellKept ∧ s.UnpairPending addr where
  quiet _ _ h hlists _ := ⟨h.1.of_managers hlists, h.2.of_managers (congrFun hlists _)⟩
  request _ _ _ h _ := ⟨h.1.of_managers rfl, h.2⟩
  addManager _ w _ isUnpair h hlist hnone :=
    ⟨h.1.addManager hlist hnone isUnpair, h.2.addManager w _⟩
  addNode _ w addr' _ h hnew _ _ := ⟨h.1.addNode hnew, h.2.setHandlers h.1 w addr' _⟩
  removeNode _ w addr' _ profileId connId h hm _ :=
    ⟨h.1.removeNode hm profileId connId, h.2.setHandlers h.1 w addr' fun _ => _⟩
  removeManager _ w addr' h hne := ⟨h.1.removeManager, h.2.removeManager h.1 w addr' hne⟩
  mark _ addr' isUnpair h := ⟨h.1.markUnpair addr' isUnpair,
    h.2.modifyManager h.1 .disconnecting addr' (fun _ => rfl) fun m hmark => by
      rw [hmark, Bool.true_or]⟩
  trigger _ w addr' works h := ⟨h.1.trigger works, h.2.trigger h.1 w addr' works⟩

theorem State.UnpairPending.step (h : s.WellKept) (hu : s.UnpairPending addr) {e : Event}
    (hlink : e.endsLink addr = false) (hkeep : e.dropsUnpair addr s = false) :
    (SalConnection.step s e).UnpairPending addr := by
  refine (unpairPending_preserved.step ⟨h, hu⟩ ?_).2
  rintro w addr' hremoves rfl rfl
  cases e with
  | aclDisconnected addr' works => exact of_decide_eq_false hlink hremoves
  | profileDisconnected addr' profileId connId => exact noConfusion hremoves.1
  | handlerReturned i status =>
    obtain ⟨hstatus, r, hr, hw, rfl, m, hm, hempty⟩ := hremoves
    simp [Event.dropsUnpair, hr, hw, hstatus, hm, hempty] at hkeep
  | _ => exact hremoves

theorem State.WellKept.not_unpairPending_step (h : s.WellKept) {e : Event}
    (hdrop : e.dropsUnpair addr s = true) : ¬(SalConnection.step s e).UnpairPending addr := by
  cases e with
  | handlerReturned i status =>
    simp only [Event.dropsUnpair, Bool.and_eq_true, decide_eq_true_eq, Option.any_eq_true] at hdrop
    obtain ⟨hstatus, r, hr, ⟨hw, rfl⟩, m, hm, hempty⟩ := hdrop
    have htaken : State.WellKept { s with running := s.running.eraseIdx i } :=
      h.of_managers rfl
    rw [SalConnection.step, handlerReturned, hr]
    simp only [hw]
    rw [if_pos hstatus]
    exact htaken.not_unpairPending_removeFrom hm hempty
  | _ => exact Bool.noConfusion hdrop

theorem State.WellKept.unpairPending_of_success (h : s.WellKept) {e : Env}
    (hok : (btSalCmTryDisconnectProfiles s addr true e).2 = .success) :
    (btSalCmTryDisconnectProfiles s addr true e).1.UnpairPending addr := by
  have hmarked : ∀ m, s.findManager .disconnecting addr = some m →
      (s.modifyManager .disconnecting addr fun m =>
        { m with isUnpair := m.isUnpair || true }).UnpairPending addr := fun m hm =>
    ⟨_, (h.findManager_modifyManager (f := fun m => { m with isUnpair := m.isUnpair || true })
      fun _ => rfl).trans (by rw [hm]; rfl), Bool.or_true m.isUnpair⟩
  revert hok
  rw [btSalCmTryDisconnectProfiles]
  split
  · exact fun hok => Status.noConfusion hok
  next hlist =>
    split
    · exact fun hok => Status.noConfusion hok
    · exact fun hok => Status.noConfusion hok
    · exact fun hok => Status.noConfusion hok
    · exact fun hok => Status.noConfusion hok
    · split
      next m hm =>
        intro _
        split
        next hmark => exact ⟨m, hm, hmark⟩
        · split
          · exact hmarked m hm
          · split
            · exact hmarked m hm
            · exact (hmarked m hm).trigger (h.markUnpair addr true) .disconnecting addr e.works
      next hnone =>
        split
        · exact fun hok => Status.noConfusion hok
        · refine fun _ => ⟨{ createConnectionManager addr with isUnpair := true }, ?_, rfl⟩
          show (s.mapList .disconnecting _).findManager .disconnecting addr = _
          rw [findManager, managers_mapList s .disconnecting
            fun hnil => absurd hnil hlist, find?_append, ← findManager, hnone,
            none_or]
          exact find?_cons_of_pos (p := fun m : Manager => decide (m.deviceAddr = addr))
            (decide_eq_true rfl)

end

/-- When an unpairing has reported success, the end of the link asks for the bond to be removed
exactly once, exactly if no failed handler leaves the manager without one. -/
theorem unpair_completes_iff {connecting disconnecting : Bool} {es₀ es : List Event}
    {addr : BtAddress} {e : Env}
    (hok : (btSalCmTryDisconnectProfiles
      (Runs.after step (State.start connecting disconnecting) es₀) addr true e).2 = .success)
    (hes : ∀ ev ∈ es, ev.endsLink addr = false) :
    let s := (btSalCmTryDisconnectProfiles
      (after step (start connecting disconnecting) es₀) addr true e).1
    (∀ t ∈ visited step s es, t.Completes addr)
      ↔ Runs.Guarded step (fun t ev => ev.dropsUnpair addr t = false) s es := by
  have h : (after step (start connecting disconnecting) es₀).WellKept :=
    State.WellKept.visited _ after_mem_visited
  have hmarked : ∀ t : State, t.WellKept ∧ t.UnpairPending addr → t.Completes addr :=
    fun t ht => (completes_iff t addr).mpr ht.2
  refine (guarded_of_forall_mem hes).forall_visited_iff hmarked
    (fun t ev ht hlink hkeep => ?_) (fun t ev ht _ hdrop => ?_)
      ⟨h.step (.tryDisconnect addr true e), h.unpairPending_of_success hok⟩
  · exact ⟨ht.1.step ev, ht.2.step ht.1 hlink hkeep⟩
  · rw [completes_iff]
    exact ht.1.not_unpairPending_step (Bool.of_not_eq_false hdrop)

def linkUp : Env := ⟨true, true, .info .connected, .success, .success, []⟩

def registeredRun : List Event := [.disconnectRegister 1 2 0 ⟨1, 0, 0⟩ linkUp]

def failingHandlerRun : List Event := [.invoke 0 true, .handlerReturned 0 .fail]

/-- The unpairing reports success, the handler fails, and the link goes down without a
request to remove the bond. -/
theorem failing_handler_loses_unpair :
    let s := after step (start true true) registeredRun
    let s' := (btSalCmTryDisconnectProfiles s 1 true linkUp).1
    (btSalCmTryDisconnectProfiles s 1 true linkUp).2 = .success
      ∧ (btSalCmAclDisconnected (after step s' failingHandlerRun) 1 []).calls = [] := by
  decide

/-- The handler succeeds and the profile reports its disconnection. -/
theorem disconnected_profile_completes :
    (btSalCmTryDisconnectProfiles
        (Runs.after step (State.start true true) registeredRun) 1 true linkUp).2 = .success
      ∧ ∀ t ∈ Runs.visited step (btSalCmTryDisconnectProfiles
          (Runs.after step (State.start true true) registeredRun) 1 true linkUp).1
        [.invoke 0 true, .handlerReturned 0 .success, .profileDisconnected 1 2 0],
        t.Completes 1 :=
  ⟨by decide, (unpair_completes_iff (by decide) (by decide)).mpr (by decide)⟩

end BtFramework.SalConnection
