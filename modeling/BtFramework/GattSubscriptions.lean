import BtFramework.Runs
import Mathlib.Data.List.Nodup

/-!
# The subscription slots of a GATT client

Each value handle that a client subscribes to has a slot. What an acknowledged unsubscription
gives back are the parameters: the slot keeps its value handle and is of use to no other. A
request to unsubscribe takes a slot as well, and a request that the stack refuses keeps the one
it has taken.
-/

namespace BtFramework.Gattc

open List Runs

inductive SubscriptionKind where
  | notify
  | indicate
  deriving DecidableEq

def SubscriptionKind.property : SubscriptionKind → Nat
  | .notify => 0x10
  | .indicate => 0x20

inductive SubscribeFunc where
  | subscribeResponse
  | unsubscribeResponse
  deriving DecidableEq

structure SubscribeSlot where
  valueHandle : Nat
  subscribe : SubscriptionKind → Option SubscribeFunc

def SubscribeSlot.setFunc (slot : SubscribeSlot) (kind : SubscriptionKind)
    (func : Option SubscribeFunc) : SubscribeSlot :=
  { slot with subscribe := fun k => if k = kind then func else slot.subscribe k }

structure PendingWrite where
  slot : Nat
  kind : SubscriptionKind
  handle : Nat
  enable : Bool

/-- The slots, what is subscribed and what is unanswered. -/
structure Subscriptions where
  slots : List SubscribeSlot
  active : List (Nat × SubscriptionKind)
  pending : List PendingWrite

inductive StackResult where
  | sent
  | already
  | refused

structure SubscribeRequest where
  handle : Nat
  properties : Nat
  cccHandle : Nat
  enable : Bool
  results : SubscriptionKind → StackResult

inductive SubscriptionEvent where
  | request (r : SubscribeRequest)
  | acknowledged

def gattFindSubscribeSlot (slots : List SubscribeSlot) (valueHandle : Nat) : Option Nat :=
  slots.findIdx? (·.valueHandle == valueHandle)

def gattGetOrCreateSubscribeSlot (slots : List SubscribeSlot) (valueHandle : Nat) :
    Option (Nat × List SubscribeSlot) :=
  match gattFindSubscribeSlot slots valueHandle with
  | some i => some (i, slots)
  | none => (gattFindSubscribeSlot slots 0).map fun i =>
    (i, slots.set i ⟨valueHandle, fun _ => none⟩)

def gattDeleteSubscribeSlotByParam (slots : List SubscribeSlot) (i : Nat)
    (kind : SubscriptionKind) : List SubscribeSlot :=
  slots.modify i fun slot => if slot.valueHandle = 0 then slot else slot.setFunc kind none

namespace Subscriptions

def new (max : Nat) : Subscriptions := ⟨replicate max ⟨0, fun _ => none⟩, [], []⟩

def registerKinds (r : SubscribeRequest) (i : Nat) :
    List SubscriptionKind → Subscriptions → Subscriptions
  | [], s => s
  | kind :: kinds, s =>
    if r.properties &&& kind.property = 0 then registerKinds r i kinds s
    else
      let func : SubscribeFunc := if r.enable then .subscribeResponse else .unsubscribeResponse
      let slots := s.slots.modify i (·.setFunc kind (some func))
      match r.results kind with
      | .sent => registerKinds r i kinds
          { s with slots, pending := s.pending ++ [⟨i, kind, r.handle, r.enable⟩] }
      | .already => registerKinds r i kinds { s with slots }
      | .refused => { s with slots }

def registerNotifications (s : Subscriptions) (r : SubscribeRequest) : Subscriptions :=
  if r.handle = 0 ∨ r.properties &&& 0x30 = 0 ∨ r.cccHandle = 0 then s
  else
    match gattGetOrCreateSubscribeSlot s.slots r.handle with
    | none => s
    | some (i, slots) => registerKinds r i [.notify, .indicate] { s with slots }

def respond (s : Subscriptions) : Subscriptions :=
  match s.pending with
  | [] => s
  | p :: pending =>
    { slots :=
        if s.slots[p.slot]?.bind (·.subscribe p.kind) = some .unsubscribeResponse then
          gattDeleteSubscribeSlotByParam s.slots p.slot p.kind
        else s.slots
      active :=
        if p.enable then (p.handle, p.kind) :: s.active
        else s.active.filter (· ≠ (p.handle, p.kind))
      pending }

def step (s : Subscriptions) : SubscriptionEvent → Subscriptions
  | .request r => s.registerNotifications r
  | .acknowledged => s.respond

/-! ## What the slots should be -/

def handles (s : Subscriptions) : List Nat := s.slots.map (·.valueHandle)

def Subscribed (s : Subscriptions) (handle : Nat) : Prop :=
  (∃ x ∈ s.active, x.1 = handle) ∨ ∃ p ∈ s.pending, p.handle = handle ∧ p.enable = true

/-- Slots are taken by the handles subscribed to, and full only with them. -/
structure SlotsExact (s : Subscriptions) : Prop where
  occupied : ∀ handle ≠ 0, handle ∈ s.handles ↔ s.Subscribed handle
  full : ∀ handle ≠ 0, gattGetOrCreateSubscribeSlot s.slots handle = none →
    ∃ hs : List Nat, hs.Nodup ∧ hs.length = s.slots.length ∧ ∀ x ∈ hs, s.Subscribed x

def sentKinds (r : SubscribeRequest) : List SubscriptionKind → List SubscriptionKind
  | [] => []
  | kind :: kinds =>
    if r.properties &&& kind.property = 0 then sentKinds r kinds
    else
      match r.results kind with
      | .sent => kind :: sentKinds r kinds
      | .already => sentKinds r kinds
      | .refused => []

/-- A request that gets a slot is for a subscribed handle, or is one to subscribe and is sent; an
acknowledged unsubscription is not that of the handle's last subscription. -/
def Keeps (s : Subscriptions) : SubscriptionEvent → Prop
  | .request r =>
    (r.handle = 0 ∨ r.properties &&& 0x30 = 0 ∨ r.cccHandle = 0)
      ∨ gattGetOrCreateSubscribeSlot s.slots r.handle = none
      ∨ s.Subscribed r.handle ∨ r.enable = true ∧ sentKinds r [.notify, .indicate] ≠ []
  | .acknowledged =>
    match s.pending with
    | [] => True
    | p :: pending => p.enable = true ∨ ¬s.Subscribed p.handle
      ∨ (∃ x ∈ s.active, x.1 = p.handle ∧ x.2 ≠ p.kind)
      ∨ ∃ q ∈ pending, q.handle = p.handle ∧ q.enable = true

variable {s : Subscriptions} {r : SubscribeRequest}

theorem map_modify_of_eq {α β : Type} {g : α → β} {f : α → α} (hf : ∀ a, g (f a) = g a)
    (l : List α) (i : Nat) : (l.modify i f).map g = l.map g := by
  apply ext_getElem?
  intro j
  rw [getElem?_map, getElem?_map, getElem?_modify]
  cases l[j]? with
  | none => rfl
  | some a => simp [apply_ite g, hf]

theorem registerKinds_spec (i : Nat) (kinds : List SubscriptionKind) (s : Subscriptions) :
    (registerKinds r i kinds s).handles = s.handles
      ∧ (registerKinds r i kinds s).active = s.active
      ∧ (registerKinds r i kinds s).pending
        = s.pending ++ (sentKinds r kinds).map (⟨i, ·, r.handle, r.enable⟩) := by
  induction kinds generalizing s with
  | nil => simp [registerKinds, sentKinds]
  | cons kind kinds ih =>
    have hslots : ∀ func,
        (s.slots.modify i (·.setFunc kind func)).map (·.valueHandle) = s.handles := by
      intro func
      exact map_modify_of_eq (by simp [SubscribeSlot.setFunc]) _ _
    simp only [registerKinds, sentKinds]
    split
    · exact ih s
    · split
      · exact ⟨(ih _).1.trans (hslots _), (ih _).2.1, (ih _).2.2.trans (by simp)⟩
      · exact ⟨(ih _).1.trans (hslots _), (ih _).2.1, (ih _).2.2⟩
      · exact ⟨hslots _, rfl, by simp⟩

theorem handles_respond (s : Subscriptions) : s.respond.handles = s.handles := by
  unfold respond
  split
  · rfl
  · split
    · refine map_modify_of_eq (fun slot => ?_) _ _
      split <;> rfl
    · rfl

theorem getOrCreate_spec {i handle : Nat} {slots slots' : List SubscribeSlot}
    (h : gattGetOrCreateSubscribeSlot slots handle = some (i, slots')) :
    (slots' = slots ∧ handle ∈ slots.map (·.valueHandle))
      ∨ (handle ∉ slots.map (·.valueHandle) ∧ (slots.map (·.valueHandle))[i]? = some 0
        ∧ slots'.map (·.valueHandle) = (slots.map (·.valueHandle)).set i handle) := by
  unfold gattGetOrCreateSubscribeSlot at h
  split at h
  next j hfind =>
    obtain ⟨rfl, rfl⟩ := Prod.mk.inj (Option.some.inj h)
    obtain ⟨hj, hslot, -⟩ := findIdx?_eq_some_iff_getElem.mp hfind
    exact .inl ⟨rfl, mem_map.mpr ⟨_, getElem_mem hj, by simpa using hslot⟩⟩
  next hfind =>
    obtain ⟨j, hfree, heq⟩ := Option.map_eq_some_iff.mp h
    obtain ⟨rfl, rfl⟩ := Prod.mk.inj heq
    obtain ⟨hj, hslot, -⟩ := findIdx?_eq_some_iff_getElem.mp hfree
    refine .inr ⟨?_, ?_, by rw [map_set]⟩
    · simpa [gattFindSubscribeSlot, findIdx?_eq_none_iff] using hfind
    · rw [getElem?_map, getElem?_eq_getElem hj]
      simpa using hslot

structure Inv (s : Subscriptions) : Prop where
  occupied : ∀ handle ≠ 0, handle ∈ s.handles ↔ s.Subscribed handle
  inj : ∀ i j : Nat, ∀ handle ≠ 0, s.handles[i]? = some handle →
    s.handles[j]? = some handle → i = j
  valid : ∀ p ∈ s.pending, p.handle ≠ 0

theorem Inv.slotsExact (h : s.Inv) : s.SlotsExact := by
  refine ⟨h.occupied, fun handle _ hnone => ?_⟩
  have hfull : ∀ x ∈ s.handles, x ≠ 0 := by
    unfold gattGetOrCreateSubscribeSlot at hnone
    split at hnone
    · simp at hnone
    · simpa [gattFindSubscribeSlot, findIdx?_eq_none_iff, handles] using hnone
  refine ⟨s.handles, ?_, by simp [handles], fun x hx => (h.occupied x (hfull x hx)).mp hx⟩
  rw [nodup_iff_getElem?_ne_getElem?]
  intro i j hij hj heq
  obtain ⟨x, hx⟩ : ∃ x, s.handles[j]? = some x := ⟨_, getElem?_eq_getElem hj⟩
  have := h.inj i j x (hfull x (mem_of_getElem? hx)) (heq.trans hx) hx
  omega

theorem inv_new (max : Nat) : (new max).Inv := by
  refine ⟨fun handle hne => ?_, fun i j handle hne hi => ?_, nofun⟩
  · simp [new, handles, Subscribed, hne]
  · simp [new, handles, getElem?_replicate] at hi
    omega

section Request

variable {i : Nat} {slots : List SubscribeSlot}

theorem request_spec (hvalid : ¬(r.handle = 0 ∨ r.properties &&& 0x30 = 0 ∨ r.cccHandle = 0))
    (hslot : gattGetOrCreateSubscribeSlot s.slots r.handle = some (i, slots)) :
    (s.registerNotifications r).handles = slots.map (·.valueHandle)
      ∧ (s.registerNotifications r).pending
        = s.pending ++ (sentKinds r [.notify, .indicate]).map (⟨i, ·, r.handle, r.enable⟩)
      ∧ ∀ handle, (s.registerNotifications r).Subscribed handle ↔ s.Subscribed handle
        ∨ r.handle = handle ∧ r.enable = true ∧ sentKinds r [.notify, .indicate] ≠ [] := by
  obtain ⟨hhandles, hactive, hpending⟩ :=
    registerKinds_spec (r := r) i [.notify, .indicate] { s with slots }
  simp only [registerNotifications, if_neg hvalid, hslot]
  refine ⟨hhandles, hpending, fun handle => ?_⟩
  rw [Subscribed, Subscribed, hactive, hpending]
  cases sentKinds r [.notify, .indicate] with
  | nil => simp
  | cons kind kinds =>
    simp [or_and_right, exists_or, or_assoc]
    exact or_congr_right (or_congr_right (or_iff_left_of_imp And.right))

theorem mem_handles_request
    (hslot : gattGetOrCreateSubscribeSlot s.slots r.handle = some (i, slots))
    {handle : Nat} (hne : handle ≠ 0) :
    handle ∈ slots.map (·.valueHandle) ↔ handle = r.handle ∨ handle ∈ s.handles := by
  rcases getOrCreate_spec hslot with ⟨rfl, hmem⟩ | ⟨-, hfree, heq⟩
  · exact ⟨.inr, fun h => h.elim (fun h => h ▸ hmem) id⟩
  · rw [heq, handles]
    constructor
    · exact fun h => (mem_or_eq_of_mem_set h).symm
    · rintro (rfl | h)
      · exact mem_set (List.getElem?_eq_some_iff.mp hfree).1 _
      · obtain ⟨j, hj⟩ := mem_iff_getElem?.mp h
        refine mem_iff_getElem?.mpr ⟨j, ?_⟩
        rwa [getElem?_set_ne]
        rintro rfl
        exact hne (Option.some.inj (hj.symm.trans hfree))

theorem Inv.request (h : s.Inv)
    (hvalid : ¬(r.handle = 0 ∨ r.properties &&& 0x30 = 0 ∨ r.cccHandle = 0))
    (hslot : gattGetOrCreateSubscribeSlot s.slots r.handle = some (i, slots))
    (hsub : s.Subscribed r.handle
      ∨ r.enable = true ∧ sentKinds r [.notify, .indicate] ≠ []) :
    (s.registerNotifications r).Inv := by
  obtain ⟨hhandles, hpending, hsubs⟩ := request_spec hvalid hslot
  refine ⟨fun handle hne => ?_, ?_, ?_⟩
  · rw [hhandles, mem_handles_request hslot hne, hsubs, h.occupied handle hne]
    grind
  · intro j k handle hne
    have hinj := h.inj j k handle hne
    rw [hhandles]
    rcases getOrCreate_spec hslot with ⟨rfl, -⟩ | ⟨hnew, -, heq⟩
    · exact hinj
    · grind [handles, mem_of_getElem?]
  · have hvalid' := h.valid
    grind

theorem not_slotsExact_request (hr : ¬s.Keeps (.request r)) :
    ¬(s.registerNotifications r).SlotsExact := by
  simp only [Keeps, not_or] at hr
  obtain ⟨hvalid, hsome, hnone, hnot⟩ := hr
  obtain ⟨⟨i, slots⟩, hslot⟩ := Option.ne_none_iff_exists'.mp hsome
  obtain ⟨hhandles, -, hsubs⟩ := request_spec (by simpa using hvalid) hslot
  intro h
  have hocc := h.occupied r.handle hvalid.1
  rw [hhandles, mem_handles_request hslot hvalid.1, hsubs] at hocc
  grind

end Request

/-! ## Acknowledgements -/

theorem subscribed_respond {p : PendingWrite} {pending : List PendingWrite}
    (hp : s.pending = p :: pending) (handle : Nat) :
    s.respond.Subscribed handle ↔
      (∃ x ∈ s.active, x.1 = handle ∧ (p.enable = false → x ≠ (p.handle, p.kind)))
        ∨ (p.enable = true ∧ p.handle = handle)
        ∨ ∃ q ∈ pending, q.handle = handle ∧ q.enable = true := by
  simp only [respond, hp, Subscribed]
  cases p.enable with
  | true => simp [or_and_right, exists_or, or_assoc, or_left_comm]
  | false => simp [and_assoc, and_comm, and_left_comm]

theorem Inv.respond (h : s.Inv) (hkeeps : s.Keeps .acknowledged) : s.respond.Inv := by
  cases hp : s.pending with
  | nil =>
    simp only [Subscriptions.respond, hp]
    exact h
  | cons p pending =>
    rw [Keeps, hp] at hkeeps
    refine ⟨fun handle hne => ?_, handles_respond s ▸ h.inj, ?_⟩
    · have hocc := h.occupied handle hne
      rw [handles_respond, hocc, subscribed_respond hp]
      simp only [Subscribed, hp] at hkeeps ⊢
      grind
    · have hvalid := h.valid
      simp only [Subscriptions.respond, hp] at hvalid ⊢
      grind

theorem not_slotsExact_respond (h : s.Inv) (hkeeps : ¬s.Keeps .acknowledged) :
    ¬s.respond.SlotsExact := by
  cases hp : s.pending with
  | nil => simp [Keeps, hp] at hkeeps
  | cons p pending =>
    simp only [Keeps, hp, not_or, not_not] at hkeeps
    have hne : p.handle ≠ 0 := h.valid p (by simp [hp])
    intro hexact
    have hocc := hexact.occupied p.handle hne
    rw [handles_respond, h.occupied p.handle hne, subscribed_respond hp] at hocc
    grind

/-- **Subscription slots.** They are those of the subscribed handles, and run out only when there
are that many, exactly if no request takes a slot without subscribing and no handle is
unsubscribed. -/
theorem subscription_slots_exact_iff (max : Nat) (events : List SubscriptionEvent) :
    (∀ s ∈ visited step (new max) events, s.SlotsExact)
      ↔ Guarded step Keeps (new max) events := by
  refine forall_visited_iff_guarded (fun _ (h : Inv _) => h.slotsExact) ?_ ?_ (inv_new max)
  · intro s event h hkeeps
    cases event with
    | request r =>
      by_cases hvalid : r.handle = 0 ∨ r.properties &&& 0x30 = 0 ∨ r.cccHandle = 0
      · simpa only [step, registerNotifications, if_pos hvalid] using h
      · cases hslot : gattGetOrCreateSubscribeSlot s.slots r.handle with
        | none => simpa only [step, registerNotifications, if_neg hvalid, hslot] using h
        | some found =>
          simp only [Keeps, hvalid, hslot, reduceCtorEq, false_or] at hkeeps
          exact h.request hvalid hslot hkeeps
    | acknowledged => exact h.respond hkeeps
  · intro s event h hkeeps
    cases event with
    | request r => exact not_slotsExact_request hkeeps
    | acknowledged => exact not_slotsExact_respond h hkeeps

/-- One slot, and a handle that is subscribed and unsubscribed: nothing is subscribed, and
there is no slot for another handle. -/
theorem unsubscribed_handle_keeps_slot :
    let request (handle : Nat) (enable : Bool) : SubscriptionEvent :=
      .request ⟨handle, 0x10, handle + 1, enable, fun _ => .sent⟩
    let s := Runs.after step (new 1)
      [request 3 true, .acknowledged, request 3 false, .acknowledged]
    s.active = [] ∧ s.pending.length = 0 ∧ s.handles = [3]
      ∧ (gattGetOrCreateSubscribeSlot s.slots 5).isNone = true ∧ ¬s.SlotsExact := by
  refine ⟨by decide, by decide, by decide, by decide, fun h => ?_⟩
  rcases (h.occupied 3 (by decide)).mp (by decide) with ⟨x, hx, -⟩ | ⟨p, hp, -⟩
  · exact (not_mem_nil hx).elim
  · exact (not_mem_nil hp).elim

end Subscriptions

end BtFramework.Gattc
