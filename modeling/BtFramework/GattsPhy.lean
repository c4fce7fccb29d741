import Mathlib.Data.List.Basic
import BtFramework.BtAddress
import BtFramework.Runs

/-!
# The pending PHY operations of the GATT server

A service that reads or updates the PHY of a link leaves an operation in `pend_ops`, so that the
event that answers it finds the service. The first operation of the event's kind is taken,
whatever link it is for; that of an update that succeeds is never taken out.
-/

namespace BtFramework.GattsPhy

open List Runs

inductive PhyRequestKind where
  | readPhy
  | updatePhy
  deriving DecidableEq

structure PhyRequest where
  id : Nat
  kind : PhyRequestKind
  service : Nat
  addr : BtAddress
  hasCallback : Bool
  deriving DecidableEq

/-- `waiting` and `reports` are not read by the server. -/
structure PhyManager where
  services : List Nat
  pendOps : List PhyRequest
  waiting : List PhyRequest
  reports : List (PhyRequest × List Nat)
  nextId : Nat

inductive PhyEvent where
  | register
  | unregister (service : Nat)
  | request (kind : PhyRequestKind) (service : Nat) (addr : BtAddress) (hasCallback ok : Bool)
  | answer (kind : PhyRequestKind) (addr : BtAddress) (success : Bool)

namespace PhyManager

def new : PhyManager := ⟨[], [], [], [], 0⟩

def gattsPendopsExecuteOut (m : PhyManager) (kind : PhyRequestKind) : Option PhyRequest :=
  m.pendOps.find? (·.kind == kind)

def requestPhy (m : PhyManager) (r : PhyRequest) (ok : Bool) : PhyManager :=
  if r.service ∈ m.services ∧ ok = true then
    { m with
      pendOps := if r.hasCallback then m.pendOps ++ [r] else m.pendOps
      waiting := m.waiting ++ [r]
      nextId := m.nextId + 1 }
  else m

def taken (m : PhyManager) (kind : PhyRequestKind) (success : Bool) : Option PhyRequest :=
  if kind = .updatePhy ∧ success = true then none else m.gattsPendopsExecuteOut kind

def told (m : PhyManager) (kind : PhyRequestKind) (success : Bool) : List Nat :=
  if kind = .updatePhy ∧ success = true then m.services
  else (m.gattsPendopsExecuteOut kind).elim [] fun op => [op.service]

/-- The oldest unanswered request of the kind for the link, which the event is for. -/
def answered (m : PhyManager) (kind : PhyRequestKind) (addr : BtAddress) : Option PhyRequest :=
  m.waiting.find? fun r => r.kind == kind && r.addr == addr

def processPhy (m : PhyManager) (kind : PhyRequestKind) (addr : BtAddress) (success : Bool) :
    PhyManager :=
  { m with
    pendOps := m.pendOps.filter (some · ≠ m.taken kind success)
    waiting := m.waiting.filter (some · ≠ m.answered kind addr)
    reports := m.reports ++ (m.answered kind addr).toList.map (·, m.told kind success) }

def step (m : PhyManager) : PhyEvent → PhyManager
  | .register => { m with services := m.services ++ [m.nextId], nextId := m.nextId + 1 }
  | .unregister service => { m with services := m.services.filter (· ≠ service) }
  | .request kind service addr hasCallback ok =>
    m.requestPhy ⟨m.nextId, kind, service, addr, hasCallback⟩ ok
  | .answer kind addr success => m.processPhy kind addr success

/-- There is an operation for each request unanswered, and each answer went to its service. -/
structure PhyExact (m : PhyManager) : Prop where
  registered : ∀ op ∈ m.pendOps, op.service ∈ m.services
  entries : m.pendOps = m.waiting.filter (·.hasCallback)
  reported : ∀ x ∈ m.reports, x.1.hasCallback = true → x.1.service ∈ x.2

/-- No service leaves while a request of it with a callback waits. An event that answers such a
request is not a successful update, and none of the kind waits before it; one that answers none
is a successful update, or none of the kind waits. -/
def Matches (m : PhyManager) : PhyEvent → Prop
  | .unregister service => ∀ r ∈ m.waiting, r.hasCallback = true → r.service ≠ service
  | .answer kind addr success =>
    match (m.answered kind addr).filter (·.hasCallback) with
    | some r => ¬(kind = .updatePhy ∧ success = true)
        ∧ ∀ r' ∈ m.waiting.takeWhile (· ≠ r), r'.kind = kind → r'.hasCallback = false
    | none => (kind = .updatePhy ∧ success = true)
        ∨ ∀ r' ∈ m.waiting, r'.kind = kind → r'.hasCallback = false
  | _ => True

variable {m : PhyManager} {kind : PhyRequestKind} {addr : BtAddress} {success : Bool}

theorem find?_eq_some_iff_takeWhile {l : List PhyRequest} {q : PhyRequest → Bool} {r : PhyRequest}
    (hr : r ∈ l) (hq : q r = true) :
    l.find? q = some r ↔ ∀ r' ∈ l.takeWhile (· ≠ r), q r' = false := by
  induction l with
  | nil => cases hr
  | cons b l ih =>
    by_cases hb : b = r
    · simp [hb, hq]
    · have hmem := (mem_cons.mp hr).resolve_left (Ne.symm hb)
      rw [takeWhile_cons_of_pos (by simpa using hb), forall_mem_cons, ← ih hmem, find?_cons]
      cases q b <;> simp [hb]

/-- The code takes out the operation of the request that is answered exactly if the event
matches. -/
theorem taken_eq_iff (hentries : m.pendOps = m.waiting.filter (·.hasCallback)) :
    m.taken kind success = (m.answered kind addr).filter (·.hasCallback)
      ↔ m.Matches (.answer kind addr success) := by
  have hfind : m.gattsPendopsExecuteOut kind
      = m.waiting.find? fun r => r.hasCallback && decide (r.kind = kind) := by
    rw [gattsPendopsExecuteOut, hentries, find?_filter]
    simp
  have hother (r : PhyRequest) : (r.hasCallback && decide (r.kind = kind)) = false
      ↔ (r.kind = kind → r.hasCallback = false) := by
    cases r.hasCallback <;> simp
  rw [taken, hfind, Matches]
  cases hr : (m.answered kind addr).filter (·.hasCallback) with
  | none => split <;> simp_all
  | some r =>
    obtain ⟨hanswered, hcallback⟩ := Option.filter_eq_some_iff.mp hr
    have hkind : r.kind = kind := by have := find?_some hanswered; simp_all
    split
    next hup => simp [hup]
    next hup =>
      rw [find?_eq_some_iff_takeWhile (mem_of_find?_eq_some hanswered) (by simp [hcallback, hkind])]
      simp [hup, hother]

theorem PhyExact.request (h : m.PhyExact) (r : PhyRequest) (ok : Bool) :
    (m.requestPhy r ok).PhyExact := by
  have hregistered := h.registered
  unfold requestPhy
  split
  · refine ⟨by grind, ?_, h.reported⟩
    simp only [filter_append, filter_singleton, ← h.entries]
    cases r.hasCallback <;> simp
  · exact h

theorem entries_iff (h : m.PhyExact) :
    m.pendOps.filter (some · ≠ m.taken kind success)
        = (m.waiting.filter (some · ≠ m.answered kind addr)).filter (·.hasCallback)
      ↔ m.taken kind success = (m.answered kind addr).filter (·.hasCallback) := by
  have htaken : ∀ op, m.taken kind success = some op → op ∈ m.waiting ∧ op.hasCallback = true := by
    intro op hop
    have hmem : op ∈ m.pendOps := by
      unfold taken at hop
      split at hop
      · simp at hop
      · exact mem_of_find?_eq_some hop
    simpa [h.entries] using hmem
  have hanswered : ∀ r, m.answered kind addr = some r → r ∈ m.waiting :=
    fun r hr => mem_of_find?_eq_some hr
  rw [h.entries, filter_filter, filter_filter]
  constructor
  · intro heq
    have hmem : ∀ x ∈ m.waiting, x.hasCallback = true →
        (some x = m.taken kind success ↔ some x = m.answered kind addr) := by
      intro x hx hcb
      have := congrArg (x ∈ ·) heq
      simp only [mem_filter, hx, hcb, eq_iff_iff] at this
      simpa [not_iff_not] using this
    cases htk : m.taken kind success with
    | some op => grind
    | none =>
      cases han : m.answered kind addr with
      | none => rfl
      | some r => grind
  · intro heq
    rw [heq]
    refine filter_congr fun x _ => ?_
    cases m.answered kind addr with
    | none => simp
    | some r => grind

theorem PhyExact.answer (h : m.PhyExact)
    (hmatch : m.taken kind success = (m.answered kind addr).filter (·.hasCallback)) :
    (m.processPhy kind addr success).PhyExact := by
  refine ⟨fun op hop => h.registered op (mem_of_mem_filter hop), (entries_iff h).mpr hmatch, ?_⟩
  intro x hx hcb
  rcases mem_append.mp hx with hx | hx
  · exact h.reported x hx hcb
  · obtain ⟨r, hr, rfl⟩ := mem_map.mp hx
    have hanswered : m.answered kind addr = some r := by simpa using hr
    rw [hanswered, Option.filter_some, if_pos hcb] at hmatch
    simp only [taken, told] at hmatch ⊢
    split <;> simp_all

/-- **Pending PHY operations.** Each refers to a registered service, each is taken out by the
event that answers it and each answer is reported to the one that asked, if and only if every
event matches the requests that wait. -/
theorem phy_operations_exact_iff (events : List PhyEvent) :
    (∀ m ∈ visited step new events, m.PhyExact) ↔ Guarded step Matches new events := by
  refine forall_visited_iff_guarded (fun _ (h : PhyExact _) => h) ?_ ?_ ⟨nofun, rfl, nofun⟩
  · intro m event h hmatch
    have hregistered := h.registered
    cases event with
    | register => exact ⟨by grind [step], h.entries, h.reported⟩
    | unregister service =>
      refine ⟨fun op hop => ?_, h.entries, h.reported⟩
      have hwaits := mem_filter.mp (h.entries ▸ hop)
      exact mem_filter.mpr ⟨hregistered op hop, by simpa using hmatch op hwaits.1 hwaits.2⟩
    | request kind service addr hasCallback ok => exact h.request _ ok
    | answer kind addr success => exact h.answer ((taken_eq_iff h.entries).mpr hmatch)
  · intro m event h hmatch hexact
    cases event with
    | unregister service =>
      refine hmatch fun r hr hcallback => ?_
      have hop : r ∈ m.pendOps := h.entries ▸ mem_filter.mpr ⟨hr, hcallback⟩
      simpa using (mem_filter.mp (hexact.registered r hop)).2
    | answer kind addr success =>
      exact hmatch ((taken_eq_iff h.entries).mp ((entries_iff h).mp hexact.entries))
    | _ => exact hmatch trivial

/-- A service whose update succeeds, and then one whose update fails: the first service is
told of the failure. -/
theorem succeeded_update_stays :
    let m := Runs.after step new
      [.register, .register, .request .updatePhy 0 0x0A0B0C0D0E0F true true,
        .answer .updatePhy 0x0A0B0C0D0E0F true,
        .request .updatePhy 1 0x0A0B0C0D0E0F true true,
        .answer .updatePhy 0x0A0B0C0D0E0F false]
    m.reports.map (fun x => (x.1.service, x.2)) = [(0, [0, 1]), (1, [0])] ∧ ¬m.PhyExact := by
  refine ⟨by decide, fun h => ?_⟩
  exact absurd h.reported (by decide)

end PhyManager

end BtFramework.GattsPhy
