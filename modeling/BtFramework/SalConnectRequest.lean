import BtFramework.SalConnectionLists

/-!
# A connect request that fails

`bt_sal_profile_connect_request` puts the node into the connecting list before it tries to bring
up the link, and takes it out in no case. The next request for it then finds the node and
reports success without an attempt, and the next event of the link queues the handler.
-/

namespace BtFramework.SalConnection

open Keyed List Option State

/-- A node of this key waits to be connected. -/
def State.Pending (s : State) (addr : BtAddress) (profileId : UInt8) (connId : UInt16) : Prop :=
  ∃ m ∈ s.managers .connecting, m.deviceAddr = addr ∧ ∃ n ∈ m.handlers, n.key = (profileId, connId)
deriving Decidable

/-- The request gets as far as a new node. -/
def AddsNode (s : State) (addr : BtAddress) (profileId : UInt8) (connId : UInt16) (e : Env) :
    Prop :=
  s.connecting ≠ none ∧ ¬s.Pending addr profileId connId
    ∧ (s.findManager .connecting addr = none → e.managerAlloc = true) ∧ e.nodeAlloc = true

/-- The link cannot be brought up. -/
def Env.LinkFails (e : Env) : Prop :=
  match e.conn with
  | .noConn => e.connect ≠ .success
  | .infoFails => True
  | .info .disconnected => e.connect ≠ .success
  | .info .disconnecting => True
  | .info _ => False

section

variable {s : State} {addr : BtAddress} {profileId : UInt8} {connId : UInt16} {e : Env}

theorem State.WellKept.isSome_find_iff (h : s.WellKept) :
    ((s.findManager .connecting addr).bind (findHandlerNode · profileId connId)).isSome = true
      ↔ s.Pending addr profileId connId := by
  constructor
  · intro hsome
    obtain ⟨n, hn⟩ := isSome_iff_exists.mp hsome
    obtain ⟨m, hm, hn⟩ := bind_eq_some_iff.mp hn
    obtain ⟨hm, haddr⟩ := h.findManager_eq_some.mp hm
    exact ⟨m, hm, haddr, n, mem_of_find? hn⟩
  · rintro ⟨m, hm, haddr, n, hn, hkey⟩
    rw [h.findManager_eq_some.mpr ⟨hm, haddr⟩]
    exact find?_isSome.mpr ⟨n, hn, decide_eq_true hkey⟩

theorem not_pending_of_find_none (h : s.findManager .connecting addr = none) :
    ¬s.Pending addr profileId connId := by
  rintro ⟨m, hm, haddr, -⟩
  exact find?_eq_none h hm haddr

theorem findOrCreate_spec {s' : State} (profileId : UInt8) (connId : UInt16)
    (hs : findOrCreateConnectionManager s .connecting addr e = some s') :
    (s'.findManager .connecting addr).isSome = true
      ∧ (s'.Pending addr profileId connId ↔ s.Pending addr profileId connId) := by
  rw [findOrCreateConnectionManager] at hs
  split at hs
  · exact absurd hs.symm (some_ne_none s')
  next hlist =>
    split at hs
    next hsome =>
      obtain rfl := Option.some.inj hs
      exact ⟨hsome, Iff.rfl⟩
    next hnone =>
      split at hs
      · obtain rfl := Option.some.inj hs
        have hmanagers := managers_mapList s .connecting
          (g := (· ++ [createConnectionManager addr])) fun hnil => absurd hnil hlist
        refine ⟨?_, ?_⟩
        · rw [findManager, hmanagers]
          exact find?_isSome.mpr ⟨_, mem_append_right _ mem_cons_self,
            decide_eq_true rfl⟩
        · rw [State.Pending, hmanagers]
          constructor
          · rintro ⟨m, hm, haddr, n, hn, hkey⟩
            rcases mem_append.mp hm with hm | hm
            · exact ⟨m, hm, haddr, n, hn, hkey⟩
            · rw [mem_singleton.mp hm] at hn
              exact absurd hn not_mem_nil
          · rintro ⟨m, hm, hpending⟩
            exact ⟨m, mem_append_left _ hm, hpending⟩
      · exact absurd hs.symm (some_ne_none s')

theorem findOrCreate_eq_none_iff :
    findOrCreateConnectionManager s .connecting addr e = none ↔ s.connecting = none
      ∨ (s.findManager .connecting addr = none ∧ e.managerAlloc = false) := by
  rw [findOrCreateConnectionManager]
  by_cases hlist : s.list .connecting = none
  · rw [if_pos hlist]
    exact iff_of_true rfl (Or.inl hlist)
  · rw [if_neg hlist]
    have hlist' : s.connecting ≠ none := hlist
    cases hfind : s.findManager .connecting addr with
    | some m => simp [hlist']
    | none => cases halloc : e.managerAlloc <;> simp [hlist']

theorem addHandlerNode_of_adds (h : s.WellKept) (hadds : AddsNode s addr profileId connId e)
    (handler : Handler) :
    ∃ s', addHandlerNode s .connecting addr profileId connId handler e = (s', none)
      ∧ s'.WellKept ∧ s'.Pending addr profileId connId := by
  obtain ⟨hlist, hnew, hmanager, hnode⟩ := hadds
  have hwell := (@WellKept.preserved (some (.connecting, addr, profileId, connId))).addHandlerNode h
    handler e rfl
  cases hcreate : findOrCreateConnectionManager s .connecting addr e with
  | none =>
    rcases findOrCreate_eq_none_iff.mp hcreate with hnone | ⟨hfind, halloc⟩
    · exact absurd hnone hlist
    · rw [hmanager hfind] at halloc
      exact Bool.noConfusion halloc
  | some s₁ =>
    have h₁ := (@WellKept.preserved none).findOrCreate h hcreate
    obtain ⟨hsome, hpending⟩ := findOrCreate_spec profileId connId hcreate
    obtain ⟨m, hm⟩ := isSome_iff_exists.mp hsome
    obtain ⟨hm, haddr⟩ := h₁.findManager_eq_some.mp hm
    have hfree := mt h₁.isSome_find_iff.mp (mt hpending.mp hnew)
    rw [addHandlerNode, hcreate] at hwell ⊢
    simp only [if_neg hfree, hnode, Bool.not_true, Bool.false_eq_true, if_false] at hwell ⊢
    refine ⟨_, rfl, hwell, ?_⟩
    show ∃ m ∈ (s₁.modifyManager .connecting addr _).managers .connecting, _
    rw [h₁.managers_modifyManager]
    exact ⟨_, mem_update.mpr (Or.inl ⟨m, hm, haddr, rfl⟩), haddr, _,
      mem_append_right _ mem_cons_self, rfl⟩

theorem addHandlerNode_of_not_adds (h : s.WellKept) (hnot : ¬AddsNode s addr profileId connId e)
    (handler : Handler) :
    ∃ s' status, addHandlerNode s .connecting addr profileId connId handler e = (s', some status)
      ∧ (status ≠ .success → ¬s'.Pending addr profileId connId) := by
  rw [addHandlerNode]
  cases hcreate : findOrCreateConnectionManager s .connecting addr e with
  | none =>
    refine ⟨s, .nomem, rfl, fun _ => ?_⟩
    rcases findOrCreate_eq_none_iff.mp hcreate with hnone | ⟨hfind, -⟩
    · rintro ⟨m, hm, -⟩
      rw [managers, list, hnone] at hm
      exact absurd hm not_mem_nil
    · exact not_pending_of_find_none hfind
  | some s₁ =>
    have h₁ := (@WellKept.preserved none).findOrCreate h hcreate
    have hpending := (findOrCreate_spec profileId connId hcreate).2
    simp only
    split
    · exact ⟨s₁, .success, rfl, fun hne => absurd rfl hne⟩
    next hfree =>
      have hfree := mt h₁.isSome_find_iff.mpr hfree
      split
      · exact ⟨s₁, .nomem, rfl, fun _ => hfree⟩
      next hnode =>
        refine absurd ⟨?_, mt hpending.mpr hfree, ?_, by simpa using hnode⟩ hnot
        · intro hnone
          rw [findOrCreate_eq_none_iff.mpr (Or.inl hnone)] at hcreate
          exact absurd hcreate.symm (some_ne_none s₁)
        · intro hfind
          refine Bool.of_not_eq_false fun halloc => ?_
          rw [findOrCreate_eq_none_iff.mpr (Or.inr ⟨hfind, halloc⟩)] at hcreate
          exact absurd hcreate.symm (some_ne_none s₁)

theorem State.WellKept.pending_trigger (h : s.WellKept) (hp : s.Pending addr profileId connId)
    (works : List Bool) :
    (triggerProfileConnAct s .connecting addr works).1.Pending addr profileId connId := by
  obtain ⟨m, hm, haddr, n, hn, hkey⟩ := hp
  rw [triggerProfileConnAct, h.findManager_eq_some.mpr ⟨hm, haddr⟩]
  show ∃ m ∈ (s.modifyManager .connecting addr _).managers .connecting, _
  rw [h.managers_modifyManager]
  have hkeys : (profileId, connId) ∈
      (triggerNodes .connecting addr works m.handlers).1.map HandlerNode.key := by
    rw [triggerNodes_keys, ← hkey]
    exact mem_map_of_mem hn
  exact ⟨_, mem_update.mpr (Or.inl ⟨m, hm, haddr, rfl⟩), haddr, mem_map.mp hkeys⟩

theorem tryProfileConnect_spec (h : s.WellKept) (hp : s.Pending addr profileId connId) (e : Env) :
    (btSalTryProfileConnect s addr e).1.Pending addr profileId connId
      ∧ ((btSalTryProfileConnect s addr e).2 ≠ .success ↔ e.LinkFails) := by
  have hfind : s.findManager .connecting addr ≠ none := fun hnone =>
    not_pending_of_find_none hnone hp
  have hlist : s.list .connecting ≠ none := fun hnone => by
    obtain ⟨m, hm, -⟩ := hp
    rw [managers, hnone] at hm
    exact absurd hm not_mem_nil
  have hcreate : findOrCreateConnectionManager s .connecting addr e = some s := by
    rw [findOrCreateConnectionManager, if_neg hlist, if_pos (isSome_iff_ne_none.mpr hfind)]
  obtain ⟨m, hm⟩ := ne_none_iff_exists'.mp hfind
  rw [btSalTryProfileConnect, hcreate, Env.LinkFails]
  cases e.conn with
  | noConn => exact ⟨hp, Iff.rfl⟩
  | infoFails => exact ⟨hp, iff_of_true Status.noConfusion trivial⟩
  | info state =>
    cases state with
    | disconnected => exact ⟨hp, Iff.rfl⟩
    | connecting => exact ⟨hp, iff_of_false (not_not.mpr rfl) id⟩
    | disconnecting => exact ⟨hp, iff_of_true Status.noConfusion trivial⟩
    | connected =>
      refine ⟨h.pending_trigger hp e.works, iff_of_false (not_not.mpr ?_) id⟩
      show (triggerProfileConnAct s .connecting addr e.works).2 = .success
      rw [triggerProfileConnAct, hm]

end

/-- A connect request that returns an error leaves no node, unless it has added one and then the
link fails. -/
theorem failed_request_leaves_none_iff (connecting disconnecting : Bool) (es : List Event)
    (addr : BtAddress) (profileId : UInt8) (connId : UInt16) (handler : Handler) (e : Env) :
    let s := Runs.after step (start connecting disconnecting) es
    ((btSalProfileConnectRequest s addr profileId connId handler e).2 ≠ .success →
        ¬(btSalProfileConnectRequest s addr profileId connId handler e).1.Pending addr profileId
          connId)
      ↔ ¬(AddsNode s addr profileId connId e ∧ e.LinkFails) := by
  intro s
  have h : s.WellKept := State.WellKept.visited s Runs.after_mem_visited
  rw [btSalProfileConnectRequest]
  by_cases hadds : AddsNode s addr profileId connId e
  · obtain ⟨s', hadd, h', hp⟩ := addHandlerNode_of_adds h hadds handler
    obtain ⟨hp', hfails⟩ := tryProfileConnect_spec h' hp e
    rw [hadd]
    rw [hfails]
    exact ⟨fun hnone hbad => hnone hbad.2 hp', fun hok hlink => absurd ⟨hadds, hlink⟩ hok⟩
  · obtain ⟨s', status, hadd, hnone⟩ := addHandlerNode_of_not_adds h hadds handler
    rw [hadd]
    exact iff_of_true hnone fun hbad => hadds hbad.1

def noLink : Env := ⟨true, true, .noConn, .fail, .success, []⟩

def someHandler : Handler := ⟨1, 0, 0⟩

def leftBehindRun : List Event :=
  [.connectRequest 1 2 0 someHandler noLink, .connectRequest 1 2 0 someHandler noLink,
    .aclConnected 1 [], .invoke 0 true]

/-- The first request fails and leaves its node; the second reports success without an
attempt, and then the handler of the failed request runs. -/
theorem failed_request_left_behind :
    let s := start true true
    let s₁ := (btSalProfileConnectRequest s 1 2 0 someHandler noLink).1
    let s₂ := (btSalProfileConnectRequest s₁ 1 2 0 someHandler noLink).1
    (btSalProfileConnectRequest s 1 2 0 someHandler noLink).2 = .fail
      ∧ s₁.Pending 1 2 0
      ∧ (btSalProfileConnectRequest s₁ 1 2 0 someHandler noLink).2 = .success
      ∧ s₂.calls = s₁.calls
      ∧ (Runs.after step s leftBehindRun).running.map Request.handler = [someHandler] := by
  decide

/-- With no memory for the node nothing is left. -/
theorem failed_allocation_leaves_none :
    let e : Env := { noLink with nodeAlloc := false }
    (btSalProfileConnectRequest (start true true) 1 2 0 someHandler e).2 = .nomem
      ∧ ¬(btSalProfileConnectRequest (start true true) 1 2 0 someHandler e).1.Pending 1 2 0 := by
  have hiff := failed_request_leaves_none_iff true true [] 1 2 0 someHandler
    { noLink with nodeAlloc := false }
  exact ⟨by decide, hiff.mpr (fun hbad => Bool.noConfusion hbad.1.2.2.2) (by decide)⟩

end BtFramework.SalConnection
