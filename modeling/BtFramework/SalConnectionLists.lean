import Mathlib.Data.List.Count
import BtFramework.SalConnectionManager

/-!
# The lists of the connection manager

A node is queued only while it is not busy and is busy from then on (`Counted`). But a request
names its node by address, profile and connection id: when the node leaves its list before the
worker is done with the request, and another with its key comes, that one has both requests.
-/

namespace BtFramework.SalConnection

open Keyed List Option State

/-! ## The parts of the state that an operation leaves -/

namespace State

variable (s : State) (w : ListName) (g : List Manager → List Manager)

@[simp] theorem sent_mapList : (s.mapList w g).sent = s.sent := by cases w <;> rfl

@[simp] theorem calls_mapList : (s.mapList w g).calls = s.calls := by cases w <;> rfl

theorem list_mapList : (s.mapList w g).list w = (s.list w).map g := by cases w <;> rfl

theorem managers_mapList_of_ne {w w' : ListName} (hne : w' ≠ w) (g : List Manager → List Manager) :
    (s.mapList w g).managers w' = s.managers w' := by
  cases w <;> cases w' <;> first | rfl | exact absurd rfl hne

theorem managers_mapList {g : List Manager → List Manager} (hg : s.list w = none → g [] = []) :
    (s.mapList w g).managers w = g (s.managers w) := by
  rw [managers, managers, list_mapList]
  cases hlist : s.list w with
  | none => exact (hg hlist).symm
  | some l => rfl

end State

/-! ## The lists -/

theorem triggerNodes_keys (w : ListName) (addr : BtAddress) (works : List Bool)
    (ns : List HandlerNode) :
    (triggerNodes w addr works ns).1.map HandlerNode.key = ns.map HandlerNode.key := by
  induction ns generalizing works with
  | nil => rfl
  | cons n ns ih =>
    rw [triggerNodes]
    (repeat' split) <;> exact congrArg (n.key :: ·) (ih _)

/-- One manager for an address, and in it one node for a profile and connection id, at most. -/
structure State.WellKept (s : State) : Prop where
  addrs : ∀ w, ((s.managers w).map Manager.deviceAddr).Nodup
  keys : ∀ w, ∀ m ∈ s.managers w, (m.handlers.map HandlerNode.key).Nodup

theorem managers_start (connecting disconnecting : Bool) (w : ListName) :
    (State.start connecting disconnecting).managers w = [] := by
  cases w
  · cases connecting <;> rfl
  · cases disconnecting <;> rfl

theorem State.wellKept_start (connecting disconnecting : Bool) :
    (State.start connecting disconnecting).WellKept :=
  ⟨fun w => managers_start connecting disconnecting w ▸ nodup_nil,
    fun w => managers_start connecting disconnecting w ▸ forall_mem_nil _⟩

theorem new_key {s : State} {w : ListName} {addr : BtAddress} {m : Manager} {n : HandlerNode}
    (hm : s.findManager w addr = some m)
    (hnew : ¬((s.findManager w addr).bind (findHandlerNode · n.profileId n.connId)).isSome = true) :
    ∀ n' ∈ m.handlers, n'.key ≠ n.key := by
  intro n' hn' hkey
  refine hnew ?_
  rw [hm]
  exact find?_isSome.mpr ⟨n', hn', decide_eq_true hkey⟩

namespace State.WellKept

section

variable {s : State} {w : ListName} {addr : BtAddress} (h : s.WellKept)
include h

theorem of_managers {s' : State} (hlists : s'.managers = s.managers) : s'.WellKept :=
  ⟨hlists ▸ h.addrs, hlists ▸ h.keys⟩

theorem mapList {g : List Manager → List Manager} (hg : s.list w = none → g [] = [])
    (haddrs : ((g (s.managers w)).map Manager.deviceAddr).Nodup)
    (hkeys : ∀ m ∈ g (s.managers w), (m.handlers.map HandlerNode.key).Nodup) :
    (s.mapList w g).WellKept := by
  refine ⟨fun w' => ?_, fun w' => ?_⟩
  · rcases eq_or_ne w' w with rfl | hw
    · rwa [managers_mapList s w' hg]
    · rw [managers_mapList_of_ne s hw]
      exact h.addrs w'
  · rcases eq_or_ne w' w with rfl | hw
    · rwa [managers_mapList s w' hg]
    · rw [managers_mapList_of_ne s hw]
      exact h.keys w'

theorem managers_modifyManager (w : ListName) (addr : BtAddress) (f : Manager → Manager) :
    (s.modifyManager w addr f).managers w
      = Keyed.update Manager.deviceAddr addr f (s.managers w) := by
  rw [modifyManager, managers_mapList s w fun _ => rfl, modifyFirst_eq_update (h.addrs w)]

theorem managers_removeManager :
    (s.removeManager w addr).managers w = Keyed.remove Manager.deviceAddr addr (s.managers w) := by
  rw [removeManager, managers_mapList s w fun _ => rfl, removeFirst_eq_remove (h.addrs w)]

theorem findManager_eq_some {m : Manager} :
    s.findManager w addr = some m ↔ m ∈ s.managers w ∧ m.deviceAddr = addr :=
  find?_eq_some (h.addrs w)

variable {f : Manager → Manager}

theorem findManager_modifyManager (haddr : ∀ m, (f m).deviceAddr = m.deviceAddr) :
    (s.modifyManager w addr f).findManager w addr = (s.findManager w addr).map f := by
  rw [findManager, h.managers_modifyManager, find?_update_self haddr]
  rfl

theorem modifyManager (haddr : ∀ m, (f m).deviceAddr = m.deviceAddr)
    (hf : ∀ m, s.findManager w addr = some m → ((f m).handlers.map HandlerNode.key).Nodup) :
    (s.modifyManager w addr f).WellKept := by
  refine h.mapList (fun _ => rfl) ?_ ?_
  · rw [modifyFirst_eq_update (h.addrs w), map_update fun m _ _ => haddr m]
    exact h.addrs w
  · rw [modifyFirst_eq_update (h.addrs w)]
    intro m hm
    rcases mem_update.mp hm with ⟨m', hm', haddr', rfl⟩ | ⟨hm', _⟩
    · exact hf m' (h.findManager_eq_some.mpr ⟨hm', haddr'⟩)
    · exact h.keys w m hm'

theorem removeManager : (s.removeManager w addr).WellKept := by
  refine h.mapList (fun _ => rfl) ?_ ?_
  · rw [removeFirst_eq_remove (h.addrs w)]
    exact nodup_remove (h.addrs w)
  · intro m hm
    rw [removeFirst_eq_remove (h.addrs w)] at hm
    exact h.keys w m (mem_remove.mp hm).1

theorem addManager (hlist : s.list w ≠ none) (hnone : s.findManager w addr = none)
    (isUnpair : Bool) :
    (s.mapList w (· ++ [{ createConnectionManager addr with isUnpair }])).WellKept := by
  refine h.mapList (fun hnil => absurd hnil hlist) ?_ ?_
  · exact nodup_concat (h.addrs w) fun m hm => find?_eq_none hnone hm
  · exact forall_mem_concat.mpr ⟨h.keys w, nodup_nil⟩

variable {m : Manager}

theorem keys_of_find (hm : s.findManager w addr = some m) :
    (m.handlers.map HandlerNode.key).Nodup :=
  h.keys w m (h.findManager_eq_some.mp hm).1

theorem trigger (works : List Bool) : (triggerProfileConnAct s w addr works).1.WellKept := by
  rw [triggerProfileConnAct]
  cases hfind : s.findManager w addr with
  | none => exact h
  | some m =>
    refine (h.modifyManager (f := fun m' =>
      { m' with handlers := (triggerNodes w addr works m.handlers).1 }) (fun _ => rfl)
      fun _ _ => ?_).of_managers rfl
    rw [triggerNodes_keys]
    exact h.keys_of_find hfind

theorem addNode {n : HandlerNode}
    (hnew : ¬((s.findManager w addr).bind (findHandlerNode · n.profileId n.connId)).isSome = true) :
    (s.modifyManager w addr fun m => { m with handlers := m.handlers ++ [n] }).WellKept :=
  h.modifyManager (fun _ => rfl) fun _ hm =>
    Keyed.nodup_concat (h.keys_of_find hm) (new_key hm hnew)

theorem removeNode (hm : s.findManager w addr = some m) (profileId : UInt8) (connId : UInt16) :
    (s.modifyManager w addr fun m' => { m' with
      handlers := Keyed.removeFirst HandlerNode.key (profileId, connId) m.handlers }).WellKept :=
  h.modifyManager (fun _ => rfl) fun _ _ => (h.keys_of_find hm).sublist (eraseP_sublist.map _)

theorem markUnpair (addr : BtAddress) (isUnpair : Bool) :
    (s.modifyManager .disconnecting addr fun m =>
      { m with isUnpair := m.isUnpair || isUnpair }).WellKept :=
  h.modifyManager (fun _ => rfl) fun m hm => h.keys_of_find (m := m) hm

end

end State.WellKept

/-! ## Every event

What the events do to the lists, each the work of a few operations. A property may not
survive that a node is added or leaves or that a manager goes, so these say which event it is. -/

/-- The list, address and key of the node that an event may add. -/
def Event.adds : Event → Option (ListName × BtAddress × UInt8 × UInt16)
  | .connectRequest addr profileId connId _ _ => some (.connecting, addr, profileId, connId)
  | .disconnectRegister addr profileId connId _ _ => some (.disconnecting, addr, profileId, connId)
  | _ => none

/-- `P` survives the operations on the lists, each where the events make it. -/
structure Preserved (adds : Option (ListName × BtAddress × UInt8 × UInt16))
    (Removable : ListName → BtAddress → Prop) (P : State → Prop) : Prop where
  quiet : ∀ s s', P s → s'.managers = s.managers → s'.sent = s.sent → P s'
  request : ∀ s r queue, P s → r.managerList = none → P { s with queue, sent := s.sent ++ [r] }
  addManager : ∀ s w addr isUnpair, P s → s.list w ≠ none → s.findManager w addr = none →
    P (s.mapList w (· ++ [{ createConnectionManager addr with isUnpair }]))
  addNode : ∀ s w addr n, P s →
    ¬((s.findManager w addr).bind (findHandlerNode · n.profileId n.connId)).isSome = true →
    n.isBusy = false → adds = some (w, addr, n.key) →
    P (s.modifyManager w addr fun m => { m with handlers := m.handlers ++ [n] })
  removeNode : ∀ s w addr m profileId connId, P s → s.findManager w addr = some m → adds = none →
    P (s.modifyManager w addr fun m' => { m' with
      handlers := Keyed.removeFirst HandlerNode.key (profileId, connId) m.handlers })
  removeManager : ∀ s w addr, P s → Removable w addr → P (s.removeManager w addr)
  mark : ∀ s addr isUnpair, P s →
    P (s.modifyManager .disconnecting addr fun m => { m with isUnpair := m.isUnpair || isUnpair })
  trigger : ∀ s w addr works, P s → P (triggerProfileConnAct s w addr works).1

/-- The managers an event may remove. -/
def Event.Removes (s : State) (w : ListName) (addr : BtAddress) : Event → Prop
  | .aclDisconnected addr' _ => addr' = addr
  | .profileDisconnected addr' _ _ => w = .connecting ∧ addr' = addr
  | .handlerReturned i status => status ≠ .success ∧ ∃ r, s.running[i]? = some r ∧
      r.managerList = some w ∧ r.deviceAddr = addr ∧ ∃ m, s.findManager w addr = some m ∧
        Keyed.removeFirst HandlerNode.key (r.profileId, r.connId) m.handlers = []
  | _ => False

namespace Preserved

variable {adds : Option (ListName × BtAddress × UInt8 × UInt16)}
  {Removable : ListName → BtAddress → Prop} {P : State → Prop} {s : State} {w : ListName}
  {addr : BtAddress}

section

variable (hP : Preserved adds Removable P) (h : P s)
include hP h

theorem findOrCreate {e : Env} {s' : State}
    (hs : findOrCreateConnectionManager s w addr e = some s') : P s' := by
  rw [findOrCreateConnectionManager] at hs
  split at hs
  · cases hs
  next hlist =>
    split at hs
    · cases hs
      exact h
    next hnone =>
      split at hs
      · cases hs
        exact hP.addManager s w addr false h hlist (not_isSome_iff_eq_none.mp hnone)
      · cases hs

theorem addHandlerNode {profileId : UInt8} {connId : UInt16} (handler : Handler) (e : Env)
    (hadds : adds = some (w, addr, profileId, connId)) :
    P (SalConnection.addHandlerNode s w addr profileId connId handler e).1 := by
  rw [SalConnection.addHandlerNode]
  split
  · exact h
  next s' hs' =>
    have h' := hP.findOrCreate h hs'
    split
    · exact h'
    next hnone =>
      split
      · exact h'
      · exact hP.addNode s' w addr ⟨profileId, connId, handler, false⟩ h' hnone rfl hadds

theorem removeFrom (hadds : adds = none) (profileId : UInt8) (connId : UInt16) (acl : Bool)
    (hR : acl = false → ∀ m, s.findManager w addr = some m →
      Keyed.removeFirst HandlerNode.key (profileId, connId) m.handlers = [] → Removable w addr) :
    P (removeFromConnectionManagerList s w addr profileId connId acl) := by
  rw [removeFromConnectionManagerList]
  split
  · exact h
  next m hm =>
    have hset := hP.removeNode s w addr m profileId connId h hm hadds
    simp only
    split
    next hempty =>
      split
      · exact hP.quiet _ _ hset rfl rfl
      next hacl => exact hP.removeManager _ w addr hset (hR (eq_false_of_ne_true hacl) m hm hempty)
    · exact hset

theorem tryConnect (e : Env) : P (btSalTryProfileConnect s addr e).1 := by
  rw [btSalTryProfileConnect]
  split
  · exact h
  next s' hs' =>
    have hmanager := hP.findOrCreate h hs'
    split <;> first
      | exact hmanager
      | exact hP.quiet _ _ hmanager rfl rfl
      | exact hP.trigger _ _ _ _ hmanager

theorem tryDisconnect (isUnpair : Bool) (e : Env) :
    P (btSalCmTryDisconnectProfiles s addr isUnpair e).1 := by
  have hmod := hP.mark s addr isUnpair h
  rw [btSalCmTryDisconnectProfiles]
  split
  · exact h
  next hlist =>
    have hnew := fun hnone => hP.addManager s .disconnecting addr isUnpair h hlist hnone
    repeat' split
    all_goals first
      | exact h
      | exact hmod
      | exact hP.quiet _ _ hmod rfl rfl
      | exact hP.trigger _ _ _ _ hmod
      | exact hP.quiet _ _ (hnew ‹_›) rfl rfl

theorem aclDisconnected (works : List Bool) (hR : ∀ w, Removable w addr) :
    P (btSalCmAclDisconnected s addr works) := by
  have hfirst : P (aclDisconnectedConnecting s addr works) := by
    rw [aclDisconnectedConnecting]
    repeat' split
    all_goals first
      | exact h
      | exact hP.removeManager s _ addr h (hR _)
      | exact hP.trigger s _ addr works h
  rw [btSalCmAclDisconnected, aclDisconnectedDisconnecting]
  split
  · exact hfirst
  · refine hP.removeManager _ _ addr ?_ (hR _)
    split
    · exact hP.quiet _ _ hfirst rfl rfl
    · exact hfirst

end

theorem step {e : Event} (hP : Preserved e.adds Removable P) (h : P s)
    (hR : ∀ w addr, e.Removes s w addr → Removable w addr) : P (SalConnection.step s e) := by
  cases e with
  | connectRequest addr profileId connId handler e =>
    have hadd := hP.addHandlerNode h handler e rfl
    simp only [SalConnection.step, btSalProfileConnectRequest]
    split
    next hs => rwa [hs] at hadd
    next hs =>
      rw [hs] at hadd
      exact hP.tryConnect hadd e
  | disconnectRegister addr profileId connId handler e =>
    have hadd := hP.addHandlerNode h handler e rfl
    simp only [SalConnection.step, btSalProfileDisconnectRegister]
    split
    next hs => rwa [hs] at hadd
    next hs => rwa [hs] at hadd
  | disconnectRequest addr profileId connId handler e =>
    simp only [SalConnection.step, btSalProfileDisconnectRequest]
    split
    · exact hP.request s _ _ h rfl
    · exact h
  | tryDisconnect addr isUnpair e => exact hP.tryDisconnect h isUnpair e
  | aclConnected addr works => exact hP.trigger s _ addr works h
  | aclDisconnected addr works => exact hP.aclDisconnected h works fun w => hR w addr rfl
  | profileDisconnected addr profileId connId =>
    have hfirst := hP.removeFrom h rfl profileId connId false fun _ _ _ _ =>
      hR .connecting addr ⟨rfl, rfl⟩
    exact hP.removeFrom hfirst rfl profileId connId true nofun
  | invoke i isReady =>
    simp only [SalConnection.step, salInvokeAsync]
    repeat' split
    all_goals first
      | exact h
      | exact hP.quiet _ _ h rfl rfl
  | handlerReturned i status =>
    simp only [SalConnection.step, handlerReturned]
    split
    · exact h
    next r hr =>
      have htaken : P { s with running := s.running.eraseIdx i } := hP.quiet _ _ h rfl rfl
      split
      · exact htaken
      next w hw =>
        split
        next hstatus =>
          exact hP.removeFrom htaken rfl _ _ false fun _ m hm hempty =>
            hR w _ ⟨hstatus, r, hr, hw, rfl, m, hm, hempty⟩
        · exact htaken

end Preserved

namespace State.WellKept

variable {adds : Option (ListName × BtAddress × UInt8 × UInt16)}

theorem preserved : Preserved adds (fun _ _ => True) State.WellKept where
  quiet _ _ h hlists _ := h.of_managers hlists
  request _ _ _ h _ := h.of_managers rfl
  addManager _ _ _ isUnpair h hlist hnone := h.addManager hlist hnone isUnpair
  addNode _ _ _ _ h hnew _ _ := h.addNode hnew
  removeNode _ _ _ _ profileId connId h hm _ := h.removeNode hm profileId connId
  removeManager _ _ _ h _ := h.removeManager
  mark _ addr isUnpair h := h.markUnpair addr isUnpair
  trigger _ _ _ works h := h.trigger works

theorem step {s : State} (h : s.WellKept) (e : Event) : (SalConnection.step s e).WellKept :=
  preserved.step h fun _ _ _ => trivial

theorem visited {connecting disconnecting : Bool} {es : List Event} :
    ∀ s ∈ Runs.visited SalConnection.step (State.start connecting disconnecting) es, s.WellKept :=
  Runs.guarded_true.invariant (fun _ e h _ => h.step e) (wellKept_start connecting disconnecting)

end State.WellKept

/-! ## The requests of a node -/

def Request.IsFor (w : ListName) (addr : BtAddress) (key : UInt8 × UInt16) (r : Request) : Prop :=
  r.managerList = some w ∧ r.deviceAddr = addr ∧ (r.profileId, r.connId) = key
deriving Decidable

/-- How often the node of this key was queued. -/
def queuedFor (sent : List Request) (w : ListName) (addr : BtAddress)
    (key : UInt8 × UInt16) : Nat :=
  sent.countP fun r => r.IsFor w addr key

section

variable {w w' : ListName} {addr addr' : BtAddress} {key : UInt8 × UInt16} {ns : List HandlerNode}
  {works : List Bool}

theorem queuedFor_append (rs rs' : List Request) :
    queuedFor (rs ++ rs') w addr key = queuedFor rs w addr key + queuedFor rs' w addr key :=
  countP_append

theorem queuedFor_eq_zero (rs : List Request) (h : ∀ r ∈ rs, ¬r.IsFor w addr key) :
    queuedFor rs w addr key = 0 :=
  countP_eq_zero.mpr fun r hr => by simpa using h r hr

theorem isFor_trigger {r : Request} (hr : r ∈ (triggerNodes w addr works ns).2)
    (hfor : r.IsFor w' addr' key) : w' = w ∧ addr' = addr ∧ ∃ n ∈ ns, n.key = key := by
  induction ns generalizing works with
  | nil => exact absurd hr not_mem_nil
  | cons n ns ih =>
    have hrest : ∀ works, r ∈ (triggerNodes w addr works ns).2 →
        w' = w ∧ addr' = addr ∧ ∃ n' ∈ n :: ns, n'.key = key := fun works hr => by
      obtain ⟨hw, haddr, n', hn', hkey⟩ := ih hr
      exact ⟨hw, haddr, n', mem_cons_of_mem n hn', hkey⟩
    rw [triggerNodes] at hr
    split at hr
    · exact hrest _ hr
    · split at hr
      · rcases mem_cons.mp hr with rfl | hr
        · obtain ⟨hw, haddr, hkey⟩ := hfor
          exact ⟨(Option.some.inj hw).symm, haddr.symm, n, mem_cons_self, hkey⟩
        · exact hrest _ hr
      · exact hrest _ hr

theorem triggerNodes_queued (hkeys : (ns.map HandlerNode.key).Nodup) :
    ∀ n' ∈ (triggerNodes w addr works ns).1, ∃ n ∈ ns, n'.key = n.key ∧ n'.isBusy.toNat
      = n.isBusy.toNat + queuedFor (triggerNodes w addr works ns).2 w addr n.key := by
  induction ns generalizing works with
  | nil => exact forall_mem_nil _
  | cons n ns ih =>
    obtain ⟨hnew, hkeys⟩ := nodup_cons.mp hkeys
    have hrest : ∀ works, ∀ n' ∈ (triggerNodes w addr works ns).1, ∃ n₀ ∈ n :: ns,
        n'.key = n₀.key ∧ n'.isBusy.toNat
          = n₀.isBusy.toNat + queuedFor (triggerNodes w addr works ns).2 w addr n₀.key :=
      fun works n' hn' => (ih hkeys n' hn').imp fun n₀ hn₀ => ⟨mem_cons_of_mem n hn₀.1, hn₀.2⟩
    have hself : ∀ works, queuedFor (triggerNodes w addr works ns).2 w addr n.key = 0 :=
      fun works => queuedFor_eq_zero _ fun r hr hfor => by
        obtain ⟨-, -, n', hn', hkey⟩ := isFor_trigger hr hfor
        exact hnew (hkey ▸ mem_map_of_mem hn')
    rw [triggerNodes]
    split
    · exact forall_mem_cons.mpr ⟨⟨n, mem_cons_self, rfl, by rw [hself]; rfl⟩, hrest works⟩
    next hidle =>
      split
      · refine forall_mem_cons.mpr ⟨⟨n, mem_cons_self, rfl, ?_⟩, fun n' hn' => ?_⟩
        · show 1 = _ + queuedFor ([asyncProfileReq w addr n] ++ _) w addr n.key
          rw [queuedFor_append, hself, eq_false_of_ne_true hidle, queuedFor,
            countP_singleton, if_pos (decide_eq_true ⟨rfl, rfl, rfl⟩)]
          rfl
        · obtain ⟨n₀, hn₀, hkey, hbusy⟩ := ih hkeys n' hn'
          refine ⟨n₀, mem_cons_of_mem n hn₀, hkey, hbusy.trans ?_⟩
          show _ = _ + queuedFor ([asyncProfileReq w addr n] ++ _) w addr n₀.key
          rw [queuedFor_append, queuedFor_eq_zero [_] fun r hr hfor => ?_, Nat.zero_add]
          rw [mem_singleton.mp hr] at hfor
          exact hnew (mem_map.mpr ⟨n₀, hn₀, hfor.2.2.symm⟩)
      · exact forall_mem_cons.mpr
          ⟨⟨n, mem_cons_self, rfl, by rw [hself]; rfl⟩, hrest works.tail⟩

end

/-- The list has the node, under this address. -/
def State.Has (s : State) (w : ListName) (addr : BtAddress) (n : HandlerNode) : Prop :=
  ∃ m ∈ s.managers w, m.deviceAddr = addr ∧ n ∈ m.handlers

theorem State.WellKept.has_iff {s : State} {w : ListName} {addr : BtAddress} {n : HandlerNode}
    (h : s.WellKept) : s.Has w addr n ↔ ∃ m, s.findManager w addr = some m ∧ n ∈ m.handlers := by
  simp only [State.Has, h.findManager_eq_some, and_assoc]

theorem State.WellKept.has_modifyManager {s : State} (h : s.WellKept) (w : ListName)
    (addr : BtAddress) {f : Manager → Manager} (haddr : ∀ m, (f m).deviceAddr = m.deviceAddr)
    (w' : ListName) (addr' : BtAddress) (n : HandlerNode) :
    (s.modifyManager w addr f).Has w' addr' n ↔
      if w' = w ∧ addr' = addr then ∃ m, s.findManager w addr = some m ∧ n ∈ (f m).handlers
      else s.Has w' addr' n := by
  rcases eq_or_ne w' w with rfl | hw
  · simp only [State.Has, h.managers_modifyManager, mem_update, true_and, h.findManager_eq_some]
    split
    next heq => subst heq; grind
    next hne => grind
  · rw [if_neg fun hboth => hw hboth.1, State.Has, State.modifyManager,
      managers_mapList_of_ne s hw]
    rfl

/-- Each listed node has been queued once if it is busy and else not at all. The node that an event
may add is not queued either before it is there. -/
structure State.Counted (adds : Option (ListName × BtAddress × UInt8 × UInt16)) (s : State) : Prop
    extends s.WellKept where
  queued : ∀ w addr n, s.Has w addr n → queuedFor s.sent w addr n.key = n.isBusy.toNat
  fresh : ∀ w addr key, adds = some (w, addr, key) → (∀ n, s.Has w addr n → n.key ≠ key) →
    queuedFor s.sent w addr key = 0

namespace State.Counted

variable {adds : Option (ListName × BtAddress × UInt8 × UInt16)} {s s' : State} {w : ListName}
  {addr : BtAddress} (h : s.Counted adds)
include h

theorem of_same (hwell : s'.WellKept)
    (hsent : ∀ w addr key, queuedFor s'.sent w addr key = queuedFor s.sent w addr key)
    (hhas : ∀ w addr n, s'.Has w addr n ↔ s.Has w addr n) : s'.Counted adds := by
  refine ⟨hwell, fun w addr n hn => ?_, fun w addr key hadds hnew => ?_⟩
  · rw [hsent, h.queued w addr n ((hhas w addr n).mp hn)]
  · rw [hsent, h.fresh w addr key hadds fun n hn => hnew n ((hhas w addr n).mpr hn)]

theorem of_fewer (hwell : s'.WellKept) (hadds : adds = none) (hsent : s'.sent = s.sent)
    (hhas : ∀ w addr n, s'.Has w addr n → s.Has w addr n) : s'.Counted adds := by
  refine ⟨hwell, fun w addr n hn => ?_, fun w addr key hsome => ?_⟩
  · rw [hsent, h.queued w addr n (hhas w addr n hn)]
  · exact absurd (hadds.symm.trans hsome).symm (some_ne_none _)

theorem addManager (hlist : s.list w ≠ none) (hnone : s.findManager w addr = none)
    (isUnpair : Bool) :
    (s.mapList w (· ++ [{ createConnectionManager addr with isUnpair }])).Counted adds := by
  refine h.of_same (h.toWellKept.addManager hlist hnone isUnpair)
    (fun _ _ _ => by rw [sent_mapList]) fun w' addr' n => ?_
  rcases eq_or_ne w' w with rfl | hw
  · rw [State.Has, State.Has, managers_mapList s w' fun hnil => absurd hnil hlist]
    simp [createConnectionManager, or_and_right, exists_or]
  · rw [State.Has, managers_mapList_of_ne s hw]
    rfl

theorem addNode {n : HandlerNode}
    (hnew : ¬((s.findManager w addr).bind (findHandlerNode · n.profileId n.connId)).isSome = true)
    (hbusy : n.isBusy = false) (hadds : adds = some (w, addr, n.key)) :
    (s.modifyManager w addr fun m => { m with handlers := m.handlers ++ [n] }).Counted adds := by
  have hhas := h.toWellKept.has_modifyManager w addr
    (f := fun m => { m with handlers := m.handlers ++ [n] }) fun _ => rfl
  refine ⟨h.toWellKept.addNode hnew, fun w' addr' n' hn' => ?_, fun w' addr' key hadds' hnew' => ?_⟩
  · rw [State.modifyManager, sent_mapList]
    rw [hhas] at hn'
    split at hn'
    next heq =>
      obtain ⟨rfl, rfl⟩ := heq
      obtain ⟨m, hm, hn'⟩ := hn'
      rcases mem_append.mp hn' with hn' | hn'
      · exact h.queued w' addr' n' (h.has_iff.mpr ⟨m, hm, hn'⟩)
      · rw [mem_singleton.mp hn', hbusy]
        refine h.fresh w' addr' n.key hadds fun n₀ hn₀ => ?_
        obtain ⟨m₀, hm₀, hn₀⟩ := h.has_iff.mp hn₀
        exact new_key hm₀ hnew n₀ hn₀
    · exact h.queued w' addr' n' hn'
  · rw [State.modifyManager, sent_mapList]
    refine h.fresh w' addr' key hadds' fun n₀ hn₀ => hnew' n₀ ((hhas w' addr' n₀).mpr ?_)
    split
    next heq =>
      obtain ⟨rfl, rfl⟩ := heq
      obtain ⟨m, hm, hn₀⟩ := h.has_iff.mp hn₀
      exact ⟨m, hm, mem_append_left _ hn₀⟩
    · exact hn₀

theorem trigger (works : List Bool) : (triggerProfileConnAct s w addr works).1.Counted adds := by
  have hwell : (triggerProfileConnAct s w addr works).1.WellKept := h.toWellKept.trigger works
  rw [triggerProfileConnAct] at hwell ⊢
  cases hfind : s.findManager w addr with
  | none => exact h
  | some m =>
    rw [hfind] at hwell
    have hhas := h.toWellKept.has_modifyManager w addr
      (f := fun m' => { m' with handlers := (triggerNodes w addr works m.handlers).1 })
      fun _ => rfl
    simp only [hfind, Option.some.injEq, exists_eq_left'] at hhas
    have hself : ∀ n ∈ m.handlers, s.Has w addr n := fun n hn => h.has_iff.mpr ⟨m, hfind, hn⟩
    refine ⟨hwell, fun w' addr' n' hn' => ?_, fun w' addr' key hadds hnew => ?_⟩
    · show queuedFor ((s.mapList w _).sent ++ _) w' addr' _ = _
      rw [sent_mapList, queuedFor_append]
      replace hn' := (hhas w' addr' n').mp hn'
      split at hn'
      next heq =>
        obtain ⟨rfl, rfl⟩ := heq
        obtain ⟨n, hn, hkey, hbusy⟩ := triggerNodes_queued (h.keys_of_find hfind) n' hn'
        rw [hkey, h.queued w' addr' n (hself n hn), hbusy]
      next hne =>
        rw [h.queued w' addr' n' hn', queuedFor_eq_zero _ fun r hr hfor => ?_, Nat.add_zero]
        obtain ⟨hw, haddr, -⟩ := isFor_trigger hr hfor
        exact hne ⟨hw, haddr⟩
    · show queuedFor ((s.mapList w _).sent ++ _) w' addr' _ = _
      rw [sent_mapList, queuedFor_append]
      have hold : ∀ n, s.Has w' addr' n → n.key ≠ key := by
        intro n hn hkey
        by_cases heq : w' = w ∧ addr' = addr
        · obtain ⟨rfl, rfl⟩ := heq
          obtain ⟨m', hm', hn⟩ := h.has_iff.mp hn
          obtain rfl := Option.some.inj (hfind.symm.trans hm')
          have hmem := mem_map_of_mem (f := HandlerNode.key) hn
          rw [← triggerNodes_keys w' addr' works] at hmem
          obtain ⟨n', hn', hkey'⟩ := mem_map.mp hmem
          exact hnew n' ((hhas w' addr' n').mpr (by rwa [if_pos ⟨rfl, rfl⟩])) (hkey'.trans hkey)
        · exact hnew n ((hhas w' addr' n).mpr (by rwa [if_neg heq])) hkey
      rw [h.fresh w' addr' key hadds hold, queuedFor_eq_zero _ fun r hr hfor => ?_]
      obtain ⟨rfl, rfl, n, hn, hkey⟩ := isFor_trigger hr hfor
      exact hold n (hself n hn) hkey

end State.Counted

theorem counted_preserved {adds : Option (ListName × BtAddress × UInt8 × UInt16)} :
    Preserved adds (fun _ _ => adds = none) (State.Counted adds) where
  quiet _ _ h hlists hsent := h.of_same (h.toWellKept.of_managers hlists)
    (fun _ _ _ => by rw [hsent]) fun _ _ _ => by rw [State.Has, State.Has, hlists]
  request _ r _ h hr := by
    refine h.of_same (h.toWellKept.of_managers rfl) (fun w addr key => ?_) fun _ _ _ => Iff.rfl
    refine (queuedFor_append _ _).trans ?_
    rw [queuedFor_eq_zero [r] fun r' hr' hfor => ?_, Nat.add_zero]
    rw [mem_singleton.mp hr'] at hfor
    exact absurd (hr.symm.trans hfor.1).symm (some_ne_none w)
  addManager _ _ _ isUnpair h hlist hnone := h.addManager hlist hnone isUnpair
  addNode _ _ _ _ h hnew hbusy hadds := h.addNode hnew hbusy hadds
  removeNode s w addr m profileId connId h hm hadds := by
    refine h.of_fewer (h.toWellKept.removeNode hm profileId connId) hadds (sent_mapList s w _) ?_
    intro w' addr' n hn
    rw [h.toWellKept.has_modifyManager _ _ (by exact fun _ => rfl)] at hn
    split at hn
    next heq =>
      obtain ⟨rfl, rfl⟩ := heq
      obtain ⟨m', -, hn⟩ := hn
      exact h.has_iff.mpr ⟨m, hm, mem_of_mem_eraseP hn⟩
    · exact hn
  removeManager s w addr h hadds := by
    refine h.of_fewer h.toWellKept.removeManager hadds (sent_mapList s w _) ?_
    intro w' addr' n hn
    rcases eq_or_ne w' w with rfl | hw
    · rw [State.Has, h.managers_removeManager] at hn
      exact hn.imp fun m hm => ⟨(mem_remove.mp hm.1).1, hm.2⟩
    · rwa [State.Has, State.removeManager, managers_mapList_of_ne s hw] at hn
  mark s addr isUnpair h := by
    refine h.of_same (h.toWellKept.markUnpair addr isUnpair)
      (fun _ _ _ => by rw [State.modifyManager, sent_mapList]) fun w' addr' n => ?_
    rw [h.toWellKept.has_modifyManager _ _ (by exact fun _ => rfl)]
    split
    next heq =>
      obtain ⟨rfl, rfl⟩ := heq
      exact h.has_iff.symm
    · rfl
  trigger _ _ _ works h := h.trigger works

/-! ## The observer -/

/-- The node that the request names is listed. -/
def State.Lists (s : State) (r : Request) : Prop :=
  ∃ w ∈ r.managerList, ∃ m ∈ s.managers w, m.deviceAddr = r.deviceAddr
    ∧ ∃ n ∈ m.handlers, n.key = (r.profileId, r.connId)
deriving Decidable

/-- A request counts for the node it names as long as that is listed, and as long as it is queued
or its handler runs. -/
def State.observe (s : State) : State :=
  { s with sent := s.sent.filter fun r => s.Lists r ∨ r ∈ s.queue ++ s.running }

def watch (s : State) (e : Event) : State := (step s e).observe

/-- No request of an earlier node with the key of the one to add is queued or running. -/
def Event.Fresh (s : State) (e : Event) : Prop :=
  ∀ x ∈ e.adds, ∀ r ∈ s.queue ++ s.running, r.IsFor x.1 x.2.1 x.2.2 → s.Lists r
deriving Decidable

structure State.Watched (s : State) : Prop where
  counted : s.Counted none
  sent : ∀ r ∈ s.sent, s.Lists r ∨ r ∈ s.queue ++ s.running

namespace State.Watched

variable {s : State} {e : Event}

theorem adds (h : s.Watched) (hfresh : e.Fresh s) : s.Counted e.adds := by
  refine ⟨h.counted.toWellKept, h.counted.queued, fun w addr key hadds hnew => ?_⟩
  refine queuedFor_eq_zero _ fun r hr hfor => ?_
  have hlists : s.Lists r := (h.sent r hr).elim id fun hr => hfresh _ hadds r hr hfor
  obtain ⟨w', hw', m, hm, haddr, n, hn, hkey⟩ := hlists
  obtain rfl := Option.some.inj (hfor.1.symm.trans hw')
  exact hnew n ⟨m, hm, haddr.trans hfor.2.1, hn⟩ (hkey.trans hfor.2.2)

theorem watch (h : s.Watched) (hfresh : e.Fresh s) : (SalConnection.watch s e).Watched := by
  have hstep : (step s e).Counted e.adds := by
    refine counted_preserved.step (h.adds hfresh) fun w addr hremoves => ?_
    cases e <;> first | rfl | exact hremoves.elim
  refine ⟨⟨hstep.toWellKept.of_managers rfl, fun w addr n hn => ?_, nofun⟩, fun r hr => ?_⟩
  · rw [← hstep.queued w addr n hn]
    refine (countP_filter).trans (countP_congr fun r _ => ?_)
    rw [Bool.and_eq_true, decide_eq_true_iff, decide_eq_true_iff]
    refine and_iff_left_of_imp fun hfor => Or.inl ?_
    obtain ⟨m, hm, haddr, hn⟩ := hn
    exact ⟨w, hfor.1, m, hm, haddr.trans hfor.2.1.symm, n, hn, hfor.2.2.symm⟩
  · exact of_decide_eq_true (mem_filter.mp hr).2

end State.Watched

/-- Each list has one manager for an address at most and each manager one node for a profile and
connection id at most. If no node is added while a request of an earlier one with its key is queued
or running, the handler of a listed node has been queued at most once. -/
theorem lists_unique_and_queued_once (connecting disconnecting : Bool) (es : List Event) :
    (∀ s ∈ Runs.visited watch (State.start connecting disconnecting) es, ∀ w,
        ((s.managers w).map Manager.deviceAddr).Nodup
          ∧ ∀ m ∈ s.managers w, (m.handlers.map HandlerNode.key).Nodup) ∧
      (Runs.Guarded watch (fun s e => e.Fresh s) (State.start connecting disconnecting) es →
        ∀ s ∈ Runs.visited watch (State.start connecting disconnecting) es, ∀ w,
          ∀ m ∈ s.managers w, ∀ n ∈ m.handlers, queuedFor s.sent w m.deviceAddr n.key ≤ 1) := by
  refine ⟨fun s hs w => ?_, fun hfresh s hs w m hm n hn => ?_⟩
  · have hkeep : ∀ (s : State) (e : Event), s.WellKept → True → (watch s e).WellKept :=
      fun _ e h _ => (h.step e).of_managers rfl
    have h := Runs.guarded_true.invariant hkeep (wellKept_start connecting disconnecting) s hs
    exact ⟨h.addrs w, h.keys w⟩
  · have hstart : (State.start connecting disconnecting).Watched := by
      refine ⟨⟨wellKept_start connecting disconnecting, ?_, nofun⟩, forall_mem_nil _⟩
      rintro w addr n ⟨m, hm, -⟩
      rw [managers_start] at hm
      exact absurd hm not_mem_nil
    have h := hfresh.invariant (fun _ _ h hfresh => h.watch hfresh) hstart s hs
    rw [h.counted.queued w m.deviceAddr n ⟨m, hm, rfl, hn⟩]
    exact Bool.toNat_le n.isBusy

def linked : Env := ⟨true, true, .info .connected, .success, .success, []⟩

theorem registeredTwice_queued_once :
    let es := [.disconnectRegister 1 2 0 ⟨1, 0, 0⟩ linked,
      .disconnectRegister 1 2 0 ⟨1, 0, 0⟩ linked, .tryDisconnect 1 false linked, .invoke 0 true,
      .disconnectRegister 1 2 0 ⟨1, 0, 0⟩ linked]
    Runs.Guarded watch (fun s e => e.Fresh s) (State.start true true) es
      ∧ ∀ s ∈ Runs.visited watch (State.start true true) es, ∀ w, ∀ m ∈ s.managers w,
        ∀ n ∈ m.handlers, queuedFor s.sent w m.deviceAddr n.key ≤ 1 :=
  ⟨by decide, (lists_unique_and_queued_once true true _).2 (by decide)⟩

/-- A profile that reports its disconnection while its request waits takes the node from the list;
the next connect request adds and queues it again, and the worker calls the handler twice. -/
theorem requested_again_queued_twice :
    let s := Runs.after watch (State.start true true)
      [.connectRequest 1 2 0 ⟨1, 0, 0⟩ linked, .profileDisconnected 1 2 0,
        .connectRequest 1 2 0 ⟨1, 0, 0⟩ linked]
    (∃ m ∈ s.managers .connecting, ∃ n ∈ m.handlers,
        queuedFor s.sent .connecting m.deviceAddr n.key = 2)
      ∧ (Runs.after watch s [.invoke 0 true, .invoke 0 true]).running.length = 2 := by
  decide

end BtFramework.SalConnection
