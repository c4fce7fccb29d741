import BtFramework.HfCallList

/-!
# Queries of the current calls

`PENDING_CURRENT_CALLS_QUERY` is set where a call indicator has the stack queried and cleared by
the final report; a request with a callback that comes in between waits as
`need_query_callback`. `disconnected_enter` leaves both as they are.
-/

namespace BtFramework.Hfp

open List Runs

inductive HfLinkState where
  | disconnected | connecting | connected | audioOn
  deriving DecidableEq

/-- The last four count, for this connection, the queries without a final report and the requests
without a callback, and in all the callbacks due so far and the requests whose connection ended
first. The machine reads none. -/
structure HfQueries where
  state : HfLinkState
  calls : HfCalls
  needQuery : Bool
  outstanding : Nat
  waiting : Nat
  due : Nat
  lost : Nat

def HfNotification.isCurrentCalls : HfNotification → Bool
  | .currentCalls _ => true
  | _ => false

def HfCalls.callbacks (s : HfCalls) : Nat := s.notified.countP HfNotification.isCurrentCalls

/-- Inputs of the machine. `queried` is the result of the `bt_sal_hfp_hf_get_current_calls` that
the input may lead to. -/
inductive HfQueryEvent where
  | connecting
  | connected (queried : Bool)
  | disconnected
  | audioConnected
  | audioDisconnected (queried : Bool)
  /-- `HF_QUERY_CURRENT_CALLS`. -/
  | query (queried : Bool)
  | call (e : HfCallEvent)

namespace HfQueries

def new : HfQueries :=
  { state := .disconnected
    calls :=
      { currentCalls := [], updateCalls := [], status := ⟨0, 0, 0⟩, lastReported := ⟨0, 0, 0⟩
        needQueryCallback := false, pendingQuery := false, notified := [] }
    needQuery := false, outstanding := 0, waiting := 0, due := 0, lost := 0 }

def connectedEnter (s : HfQueries) (queried : Bool) : HfQueries :=
  -- this query does not set the flag
  { s with
    state := .connected
    needQuery := false
    outstanding := s.outstanding + (s.needQuery && queried).toNat }

def disconnectedEnter (nullText : CText) (s : HfQueries) : HfQueries :=
  { s with
    state := .disconnected
    calls := processCallEvent nullText s.calls .reset
    needQuery := false
    outstanding := 0
    waiting := 0
    lost := s.lost + s.waiting }

def connectingProcess (nullText : CText) (s : HfQueries) : HfCallEvent → HfQueries
  | .call value _ =>
    { s with calls := processCallEvent nullText s.calls (.call value false), needQuery := true }
  | .callsetup value _ =>
    { s with
      calls := processCallEvent nullText s.calls (.callsetup value false), needQuery := true }
  | .callheld value _ =>
    { s with
      calls := processCallEvent nullText s.calls (.callheld value false), needQuery := true }
  | .clip .. => { s with needQuery := true }
  | _ => s

def defaultProcess (nullText : CText) (s : HfQueries) (e : HfCallEvent) : HfQueries :=
  let next := { s with calls := processCallEvent nullText s.calls e }
  match e with
  | .call _ queried | .callsetup _ queried | .callheld _ queried =>
    { next with outstanding := s.outstanding + queried.toNat }
  | .currentCalls m =>
    if m.index = 0 then
      { next with
        outstanding := s.outstanding - 1
        waiting := 0
        due := if 0 < s.waiting then s.due + 1 else s.due }
    else next
  | .queryWithCallback =>
    if s.calls.pendingQuery then { next with waiting := s.waiting + 1 }
    else { next with due := s.due + 1 }
  | .clip .. => next
  -- not an input
  | .reset => s

def step (nullText : CText) (s : HfQueries) : HfQueryEvent → HfQueries
  | .connecting => if s.state = .disconnected then { s with state := .connecting } else s
  | .connected queried =>
    if s.state = .disconnected ∨ s.state = .connecting then s.connectedEnter queried else s
  | .disconnected => if s.state = .disconnected then s else s.disconnectedEnter nullText
  | .audioConnected => if s.state = .connected then { s with state := .audioOn } else s
  | .audioDisconnected queried => if s.state = .audioOn then s.connectedEnter queried else s
  | .query queried =>
    if s.state = .connected ∨ s.state = .audioOn then
      { s with outstanding := s.outstanding + queried.toNat }
    else s
  | .call e =>
    match s.state with
    | .disconnected => s
    | .connecting => s.connectingProcess nullText e
    | .connected | .audioOn => s.defaultProcess nullText e

/-- The flag is set only while a query of this connection is without its final report, every
request of this connection has had its callback or still waits on it, and there was no other
callback. -/
structure Booked (s : HfQueries) : Prop where
  pending : s.calls.pendingQuery = true → 0 < s.outstanding
  answered : s.calls.callbacks = s.due
  kept : s.lost = 0

/-- A connection ends only while the flag is clear. -/
def EndsIdle (s : HfQueries) (e : HfQueryEvent) : Prop :=
  match e with
  | .disconnected => s.calls.pendingQuery = false
  | _ => True

structure Inv (s : HfQueries) : Prop extends Booked s where
  down : s.state = .disconnected ∨ s.state = .connecting → s.calls.pendingQuery = false
  asked : s.calls.needQueryCallback = true ↔ 0 < s.waiting
  flagged : s.calls.needQueryCallback = true → s.calls.pendingQuery = true

variable {nullText : CText} {s : HfQueries}

theorem isCurrentCalls_comp :
    HfNotification.isCurrentCalls ∘ HfNotification.callStateChanged = fun _ => false := rfl

theorem queryCurrentCallsFinal_books (c : HfCalls) :
    (queryCurrentCallsFinal c).pendingQuery = false
      ∧ (queryCurrentCallsFinal c).needQueryCallback = false
      ∧ (queryCurrentCallsFinal c).callbacks
        = if c.needQueryCallback then c.callbacks + 1 else c.callbacks := by
  have hciev : (hfServiceFakeCiev c).needQueryCallback = c.needQueryCallback
      ∧ (hfServiceFakeCiev c).callbacks = c.callbacks := by
    simp only [hfServiceFakeCiev, HfCalls.notify, HfCalls.callbacks]
    split <;> split <;> split <;> simp [HfNotification.isCurrentCalls]
  rw [← hciev.1, ← hciev.2]
  unfold queryCurrentCallsFinal
  dsimp only
  cases hneed : (hfServiceFakeCiev c).needQueryCallback <;>
    simp [hfNotifyCurrentCalls, HfCalls.notify, HfCalls.callbacks, isCurrentCalls_comp,
      HfNotification.isCurrentCalls]

theorem Inv.defaultProcess (h : s.Inv) (hup : ¬(s.state = .disconnected ∨ s.state = .connecting))
    (e : HfCallEvent) : (s.defaultProcess nullText e).Inv := by
  obtain ⟨⟨hpending, hanswered, hkept⟩, hdown, hasked, hflagged⟩ := h
  have hdown' {p : Prop} (hd : s.state = .disconnected ∨ s.state = .connecting) : p := absurd hd hup
  cases e with
  | call value queried | callsetup value queried | callheld value queried =>
    refine ⟨⟨?_, hanswered, hkept⟩, hdown', hasked, ?_⟩ <;> cases queried <;>
      simp_all [HfQueries.defaultProcess, processCallEvent]
  | clip number name =>
    refine ⟨⟨?_, ?_, hkept⟩, hdown', ?_, ?_⟩ <;> cases number <;> cases name <;>
      simpa [HfQueries.defaultProcess, processCallEvent, HfCalls.notify, HfCalls.callbacks,
        isCurrentCalls_comp, HfNotification.isCurrentCalls]
  | currentCalls m =>
    obtain ⟨hp, hn, hc⟩ := queryCurrentCallsFinal_books s.calls
    unfold HfQueries.defaultProcess processCallEvent
    dsimp only
    split
    · -- the final report clears the flag and answers whoever waits
      refine ⟨⟨?_, ?_, hkept⟩, hdown', ?_, ?_⟩ <;> simp [hp, hn, hc, hasked, hanswered]
    · exact ⟨⟨hpending, hanswered, hkept⟩, hdown, hasked, hflagged⟩
  | queryWithCallback =>
    unfold HfQueries.defaultProcess processCallEvent
    dsimp only
    split
    next hp => exact ⟨⟨hpending, hanswered, hkept⟩, hdown', by simp, fun _ => hp⟩
    · refine ⟨⟨?_, ?_, hkept⟩, hdown', ?_, ?_⟩ <;>
        simp_all [hfNotifyCurrentCalls, HfCalls.notify, HfCalls.callbacks,
          HfNotification.isCurrentCalls]
  | reset => exact ⟨⟨hpending, hanswered, hkept⟩, hdown, hasked, hflagged⟩

theorem Inv.step (h : s.Inv) {e : HfQueryEvent} (hok : s.EndsIdle e) :
    (s.step nullText e).Inv := by
  have hmore (k : Nat) (hp : s.calls.pendingQuery = true) : 0 < s.outstanding + k :=
    Nat.add_pos_left (h.pending hp) k
  cases e with
  | call e =>
    cases hstate : s.state with
    | disconnected => simpa only [HfQueries.step, hstate]
    | connecting =>
      -- the indicators are noted, and the query is left to `connected_enter`
      obtain ⟨⟨hpending, hanswered, hkept⟩, hdown, hasked, hflagged⟩ := h
      simp only [HfQueries.step, hstate]
      cases e <;> simp only [connectingProcess] <;> refine ⟨⟨?_, ?_, ?_⟩, ?_, ?_, ?_⟩ <;>
        simp_all [processCallEvent, HfCalls.callbacks]
    | connected | audioOn =>
      simp only [HfQueries.step, hstate]
      exact h.defaultProcess (by simp [hstate]) e
  | _ =>
    obtain ⟨⟨hpending, hanswered, hkept⟩, hdown, hasked, hflagged⟩ := h
    simp only [HfQueries.step, connectedEnter, disconnectedEnter, EndsIdle] at hok ⊢
    split <;> refine ⟨⟨?_, ?_, ?_⟩, ?_, ?_, ?_⟩ <;>
      simp_all [processCallEvent, HfCalls.callbacks]

/-- The books are right along a run exactly if its connections end with the flag clear. -/
theorem queries_booked_iff (nullText : CText) (es : List HfQueryEvent) :
    (∀ s ∈ visited (step nullText) new es, s.Booked) ↔ Guarded (step nullText) EndsIdle new es := by
  refine forall_visited_iff_guarded (fun s (h : s.Inv) => h.toBooked)
    (fun s e h hok => h.step hok) ?_ ?_
  · intro s e h hok hbooked
    cases e with
    | disconnected =>
      have hp : s.calls.pendingQuery = true := by simpa [EndsIdle] using hok
      have hstate : s.state ≠ .disconnected := fun hd => by simp [h.down (.inl hd)] at hp
      rw [HfQueries.step, if_neg hstate] at hbooked
      exact absurd (hbooked.pending hp) (Nat.lt_irrefl 0)
    | _ => exact hok trivial
  · exact ⟨⟨by simp [new], rfl, rfl⟩, fun _ => rfl, by simp [new], by simp [new]⟩

/-- The connection ends before the report that was to answer a request, and the report of the
next connection answers it. -/
theorem report_answers_earlier_connection :
    ¬ ∀ s ∈ visited (step []) new
      [.connected true, .call (.call 1 true), .call .queryWithCallback, .disconnected,
        .connected true, .call (.currentCalls finalCallResponse)], s.Booked := by
  intro h
  have hbooked := h _ after_mem_visited
  exact absurd hbooked.answered (by decide)

end HfQueries

end BtFramework.Hfp
