import BtFramework.Runs
import Mathlib.Data.List.Basic

/-!
# The discovery requests of a GATT client

Requests that come while `discovering` is set are queued, and a completion clears the flag and
starts the next one. For a queued request that cannot be started a completion message is posted,
which clears the flag too, whatever is in flight then.
-/

namespace BtFramework.Gattc

open List Runs

structure CompletionMessage where
  request : Nat
  ended : Bool

/-- `accepted` counts the requests taken, and numbers them. -/
structure DiscoverQueue where
  discovering : Bool
  pendOps : List Nat
  messages : List CompletionMessage
  inFlight : List Nat
  started : List Nat
  completed : List Nat
  accepted : Nat

inductive DiscoverEvent where
  /-- A call of `discover_service`; `ok` is the result of the start, or of the allocation. -/
  | discover (ok : Bool)
  | ended (request : Nat)
  /-- A message is processed; the calls from inside the callback, and the results of the
  starts after it. -/
  | process (calls starts : List Bool)

namespace DiscoverQueue

def new : DiscoverQueue := ⟨false, [], [], [], [], [], 0⟩

def gattcDiscoverStart (s : DiscoverQueue) (request : Nat) : DiscoverQueue :=
  { s with
    discovering := true
    inFlight := s.inFlight ++ [request]
    started := s.started ++ [request] }

def ifGattcDiscoverService (s : DiscoverQueue) (ok : Bool) : DiscoverQueue :=
  if ok then
    if s.discovering then
      { s with pendOps := s.pendOps ++ [s.accepted], accepted := s.accepted + 1 }
    else { s.gattcDiscoverStart s.accepted with accepted := s.accepted + 1 }
  else s

def startNext (s : DiscoverQueue) : List Nat → List Bool → DiscoverQueue
  | [], _ => { s with pendOps := [] }
  | request :: pendOps, starts =>
    if starts.headD false then { s.gattcDiscoverStart request with pendOps }
    else startNext { s with messages := s.messages ++ [⟨request, false⟩] } pendOps starts.tail

def processMessage (s : DiscoverQueue) (calls starts : List Bool) : DiscoverQueue :=
  match s.messages with
  | [] => s
  | msg :: messages =>
    let s := calls.foldl ifGattcDiscoverService
      { s with messages, completed := s.completed ++ [msg.request] }
    startNext { s with discovering := false } s.pendOps starts

def step (s : DiscoverQueue) : DiscoverEvent → DiscoverQueue
  | .discover ok => s.ifGattcDiscoverService ok
  | .ended request =>
    if request ∈ s.inFlight then
      { s with
        inFlight := s.inFlight.erase request
        messages := s.messages ++ [⟨request, true⟩] }
    else s
  | .process calls starts => s.processMessage calls starts

/-- One discovery at a time, in order, each completed once. -/
structure Serialised (s : DiscoverQueue) : Prop where
  one : s.inFlight.length ≤ 1
  order : s.started.Pairwise (· < ·)
  once : ∀ request, s.completed.count request ≤ 1
  settled : s.inFlight = [] → s.messages = [] →
    ∀ request < s.accepted, s.completed.count request = 1

/-- The completion of a discovery that could not be started is processed while none is in
flight or on the way, and no discovery is requested from its callback. -/
def Undisturbed (s : DiscoverQueue) : DiscoverEvent → Prop
  | .process calls _ => ∀ msg ∈ s.messages.head?, msg.ended = false →
    s.discovering = false ∧ ∀ ok ∈ calls, ok = false
  | _ => True

instance (s : DiscoverQueue) (event : DiscoverEvent) :
    Decidable (s.Undisturbed event) := by
  cases event <;> unfold Undisturbed <;> infer_instance

/-! ## The invariant -/

variable {s : DiscoverQueue} {calls starts : List Bool}

def places (s : DiscoverQueue) (request : Nat) : Nat :=
  s.completed.count request + (s.messages.map (·.request)).count request
    + s.inFlight.count request + s.pendOps.count request

def unfinished (s : DiscoverQueue) : Nat := s.inFlight.length + s.messages.countP (·.ended)

structure Numbered (s : DiscoverQueue) : Prop where
  order : (s.started ++ s.pendOps).Pairwise (· < ·)
  below : ∀ request ∈ s.started ++ s.pendOps, request < s.accepted
  places : ∀ request, s.places request = if request < s.accepted then 1 else 0

structure Inv (s : DiscoverQueue) : Prop extends s.Numbered where
  unfinished : s.unfinished = if s.discovering then 1 else 0
  idle : s.discovering = false → s.pendOps = []

theorem Inv.serialised (h : s.Inv) : s.Serialised := by
  have hun := h.unfinished
  rw [DiscoverQueue.unfinished] at hun
  refine ⟨by grind, h.order.sublist (sublist_append_left _ _), fun request => ?_, ?_⟩
  · have hplaces := h.places request
    rw [DiscoverQueue.places] at hplaces
    grind
  · intro hflight hmsgs request hlt
    have hoff : s.discovering = false := by
      grind
    simpa [DiscoverQueue.places, hflight, hmsgs, h.idle hoff, hlt] using h.places request

theorem Numbered.enqueue (h : s.Numbered) : Numbered
    { s with pendOps := s.pendOps ++ [s.accepted], accepted := s.accepted + 1 } := by
  have hbelow := h.below
  refine ⟨?_, by grind, fun request => ?_⟩
  · rw [← append_assoc]
    exact pairwise_append.mpr ⟨h.order, pairwise_singleton _ _, by simpa using hbelow⟩
  · have hplaces := h.places request
    simp only [DiscoverQueue.places, count_append, count_singleton] at hplaces ⊢
    grind

theorem Inv.discover (h : s.Inv) (ok : Bool) : (s.ifGattcDiscoverService ok).Inv := by
  unfold ifGattcDiscoverService
  split
  · split
    next hon => exact ⟨h.toNumbered.enqueue, h.unfinished, by simp [hon]⟩
    next hoff =>
      have hidle : s.pendOps = [] := h.idle (by simpa using hoff)
      have hnew := h.toNumbered.enqueue
      refine ⟨⟨?_, ?_, fun request => ?_⟩, ?_, nofun⟩
      · simpa [gattcDiscoverStart, hidle] using hnew.order
      · simpa [gattcDiscoverStart, hidle] using hnew.below
      · have hplaces := hnew.places request
        simp only [DiscoverQueue.places, gattcDiscoverStart, hidle, count_append] at hplaces ⊢
        grind
      · have hun := h.unfinished
        simp only [DiscoverQueue.unfinished, gattcDiscoverStart, length_append] at hun ⊢
        grind
  · exact h

theorem Numbered.foldl_calls (h : s.Numbered) (hon : s.discovering = true) (calls : List Bool) :
    (calls.foldl ifGattcDiscoverService s).Numbered
      ∧ (calls.foldl ifGattcDiscoverService s).unfinished = s.unfinished := by
  induction calls generalizing s with
  | nil => exact ⟨h, rfl⟩
  | cons ok calls ih =>
    rw [foldl_cons, ifGattcDiscoverService, if_pos hon]
    split
    · exact ih h.enqueue hon
    · exact ih h hon

theorem Numbered.off (h : s.Numbered) : Numbered { s with discovering := false } :=
  ⟨h.order, h.below, h.places⟩

theorem startNext_inv {pendOps : List Nat} (h : Numbered { s with pendOps })
    (hidle : s.unfinished = 0) (hoff : s.discovering = false) :
    (s.startNext pendOps starts).Inv := by
  induction pendOps generalizing s starts with
  | nil => exact ⟨h, by simpa [startNext, hoff, DiscoverQueue.unfinished] using hidle, fun _ => rfl⟩
  | cons request pendOps ih =>
    have hplaces := h.places
    simp only [DiscoverQueue.places, count_cons] at hplaces
    rw [startNext]
    split
    · refine ⟨⟨?_, ?_, fun r => ?_⟩, ?_, nofun⟩
      · simpa [gattcDiscoverStart] using h.order
      · simpa [gattcDiscoverStart] using h.below
      · simp only [DiscoverQueue.places, gattcDiscoverStart, count_append, count_singleton]
        grind
      · simp only [DiscoverQueue.unfinished, gattcDiscoverStart, length_append] at hidle ⊢
        grind
    · refine ih ⟨?_, fun r hr => h.below r ?_, fun r => ?_⟩ ?_ hoff
      · exact h.order.sublist ((sublist_cons_self _ _).append_left _)
      · exact ((sublist_cons_self _ _).append_left _).subset hr
      · simp only [DiscoverQueue.places, map_append, count_append, map_cons, map_nil,
          count_singleton]
        grind
      · simpa [DiscoverQueue.unfinished] using hidle

theorem Inv.process (h : s.Inv) (hguard : s.Undisturbed (.process calls starts)) :
    (s.processMessage calls starts).Inv := by
  unfold processMessage
  split
  · exact h
  next msg messages hmsgs =>
    -- the message becomes a callback
    have hcall : Numbered
        { s with messages, completed := s.completed ++ [msg.request] } := by
      refine ⟨h.order, h.below, fun request => ?_⟩
      have hplaces := h.places request
      simp only [DiscoverQueue.places, hmsgs, map_cons, count_cons, count_append,
        count_nil] at hplaces ⊢
      grind
    have hun := h.unfinished
    simp only [DiscoverQueue.unfinished, hmsgs, countP_cons] at hun
    cases hended : msg.ended with
    | true =>
      have hon : s.discovering = true := by grind
      obtain ⟨hcalls, hsame⟩ := hcall.foldl_calls hon calls
      refine startNext_inv hcalls.off (hsame.trans ?_) rfl
      simp only [DiscoverQueue.unfinished]
      grind
    | false =>
      obtain ⟨hoff, hnone⟩ := hguard msg (by simp [hmsgs]) hended
      have hcalls : ∀ t, calls.foldl ifGattcDiscoverService t = t := by
        intro t
        induction calls with
        | nil => rfl
        | cons ok calls ih =>
          simp only [forall_mem_cons, foldl_cons, ifGattcDiscoverService] at hnone ih ⊢
          simpa [hnone.1] using ih (by grind [Undisturbed]) hnone.2
      rw [hcalls]
      refine startNext_inv hcall.off ?_ rfl
      simp only [DiscoverQueue.unfinished]
      grind

theorem Inv.ended (h : s.Inv) (request : Nat) : (s.step (.ended request)).Inv := by
  simp only [step]
  split
  next hmem =>
    refine ⟨⟨h.order, h.below, fun r => ?_⟩, ?_, h.idle⟩
    · have hplaces := h.places r
      simp only [DiscoverQueue.places, map_append, count_append, map_cons, map_nil,
        count_singleton, count_erase] at hplaces ⊢
      grind
    · have hun := h.unfinished
      simp only [DiscoverQueue.unfinished, countP_append, length_erase_of_mem hmem] at hun ⊢
      grind
  · exact h

/-- **Discovery requests.** They are serialised and each is answered once, if the completion of a
failed start never meets another discovery. -/
theorem discovery_serialised {events : List DiscoverEvent}
    (h : Guarded step Undisturbed new events) :
    ∀ s ∈ visited step new events, s.Serialised := by
  have hnew : new.Inv := ⟨⟨.nil, nofun, fun _ => rfl⟩, rfl, fun _ => rfl⟩
  refine fun s hs => (h.invariant (fun s event hs hguard => ?_) hnew s hs).serialised
  cases event with
  | discover ok => exact hs.discover ok
  | ended request => exact hs.ended request
  | process calls starts => exact hs.process hguard

/-- Two requests and one more from the callback of the first; both that are queued fail. -/
theorem requests_serialised :
    (after step new [.discover true, .discover true, .ended 0, .process [true] [],
      .process [] [], .process [] [], .discover true]).Serialised :=
  discovery_serialised (by decide) _ after_mem_visited

/-- The second of three requests fails to start after the first has ended, and the third is
in flight when this is processed: a fourth one is started next to it. -/
theorem failed_start_clears_flag :
    let s := Runs.after step new [.discover true, .discover true, .discover true, .ended 0,
      .process [] [false, true], .process [] [], .discover true]
    s.inFlight = [2, 3] ∧ ¬s.Serialised := by
  refine ⟨rfl, fun h => ?_⟩
  exact absurd h.one (by decide)

end DiscoverQueue

end BtFramework.Gattc
