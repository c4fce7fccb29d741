import BtFramework.BtAddress
import BtFramework.Keyed
import BtFramework.Runs

/-!
# Dial responses of the audio gateway

A dial request that telephony accepts arms the `dial_out_timer` of its device. The results of
telephony and the timeouts come back as `AG_DIALING_RESULT`, which has no address: each device
with a timer handle takes it as its own.

`waiting` counts the requests of the current connection that have no response yet, `asked` says
whether the handle is of this connection, and a timer carries the device that armed it. None of
it is read by the service.
-/

namespace BtFramework.AgDial

open Keyed List Runs

structure DialDevice where
  addr : BtAddress
  /-- The profile is connected; the other states ignore both events. -/
  connected : Bool
  dialOutTimer : Option Nat
  asked : Bool
  waiting : Nat

/-- The devices, the timers that run and what was answered. -/
structure Gateway where
  devices : List DialDevice
  running : List (Nat × BtAddress)
  nextTimer : Nat
  /-- The `AG_DIALING_RESULT` messages, with the device whose timer sent one. -/
  queue : List (UInt8 × Option BtAddress)
  /-- `bt_sal_hfp_ag_dial_response`. -/
  responses : List (BtAddress × UInt8)
  /-- A timeout has answered a request of another device. -/
  crossed : Bool

def atcmdResultTimeout : UInt8 := 1

def atcmdResultError : UInt8 := 2

/-- Stack events, results of telephony, timers, and the handling of a message. -/
inductive Event where
  | connected (addr : BtAddress)
  | disconnected (addr : BtAddress)
  /-- `AG_STACK_EVENT_DIAL_NUMBER`: there is a number and `tele_service_dial_number` succeeds;
  the timer can be created. -/
  | dialNumber (addr : BtAddress) (accepted timer : Bool)
  /-- `hfp_ag_dial_result` of telephony, and whether its message can be allocated. -/
  | dialResult (result : UInt8) (alloc : Bool)
  | dialOutTimeout (t : Nat) (alloc : Bool)
  /-- The service loop handles the oldest message. -/
  | message

namespace DialDevice

def awaits (d : DialDevice) : Bool := d.connected && d.dialOutTimer.isSome

def connect (d : DialDevice) : DialDevice :=
  -- the handle stays from one connection to the next
  if d.connected then d else { d with connected := true, asked := false, waiting := 0 }

def disconnect (d : DialDevice) : DialDevice := { d with connected := false }

def dialNumber (timer : Option Nat) (d : DialDevice) : DialDevice :=
  if d.connected then { d with dialOutTimer := timer, asked := true, waiting := d.waiting + 1 }
  else d

def dialingResult (d : DialDevice) : DialDevice :=
  if d.awaits then { d with dialOutTimer := none, waiting := d.waiting - 1 } else d

end DialDevice

namespace Gateway

def started : Gateway :=
  { devices := [], running := [], nextTimer := 0, queue := [], responses := [], crossed := false }

def connect (s : Gateway) (addr : BtAddress) : Gateway :=
  if s.devices.any (·.addr = addr) then
    { s with devices := update (·.addr) addr DialDevice.connect s.devices }
  else { s with devices := s.devices ++ [⟨addr, true, none, false, 0⟩] }

def dialNumber (s : Gateway) (addr : BtAddress) (accepted timer : Bool) : Gateway :=
  if !s.devices.any fun d => d.addr = addr && d.connected then s
  else if !accepted then { s with responses := s.responses ++ [(addr, atcmdResultError)] }
  else
    let handle := if timer then some s.nextTimer else none
    { s with
      devices := update (·.addr) addr (DialDevice.dialNumber handle) s.devices
      running := s.running ++ handle.toList.map (·, addr)
      nextTimer := s.nextTimer + 1 }

def dialOutTimeout (s : Gateway) (t : Nat) (alloc : Bool) : Gateway :=
  match s.running.find? (·.1 = t) with
  | none => s
  | some timer =>
    { s with
      running := s.running.filter (·.1 ≠ t)
      queue := if alloc then s.queue ++ [(atcmdResultTimeout, some timer.2)] else s.queue }

def dialingResult (s : Gateway) : Gateway :=
  match s.queue with
  | [] => s
  | (result, owner) :: rest =>
    { s with
      queue := rest
      devices := s.devices.map DialDevice.dialingResult
      running := s.running.filter fun timer =>
        !s.devices.any fun d => d.awaits && d.dialOutTimer = some timer.1
      responses := s.responses ++ (s.devices.filter (·.awaits)).map fun d => (d.addr, result)
      crossed := s.crossed || owner.any fun o =>
        s.devices.any fun d => d.addr ≠ o && d.awaits && 0 < d.waiting }

def step (s : Gateway) : Event → Gateway
  | .connected addr => s.connect addr
  | .disconnected addr =>
    { s with devices := update (·.addr) addr DialDevice.disconnect s.devices }
  | .dialNumber addr accepted timer => s.dialNumber addr accepted timer
  | .dialResult result alloc =>
    if alloc then { s with queue := s.queue ++ [(result, none)] } else s
  | .dialOutTimeout t alloc => s.dialOutTimeout t alloc
  | .message => s.dialingResult

/-- A request waits exactly while the timer it armed is set, and then a response comes: the
timer runs, or a message is under way. -/
def Serves (s : Gateway) (d : DialDevice) : Prop :=
  d.connected = true →
    d.waiting = (if d.asked ∧ d.dialOutTimer.isSome then 1 else 0)
      ∧ (0 < d.waiting → s.queue ≠ [] ∨ ∃ timer ∈ s.running, d.dialOutTimer = some timer.1)

/-- Every device is served, and none by another's timeout. -/
def Answers (s : Gateway) : Prop := (∀ d ∈ s.devices, s.Serves d) ∧ s.crossed = false

/-- Telephony accepts a request only when the one before has its response and the timer can be
created; the message of a timer can be allocated where its device relies on it; and no other
device waits when the message of a timeout is handled. -/
def InTurn (s : Gateway) : Event → Prop
  | .dialNumber addr accepted timer => ∀ d ∈ s.devices, d.addr = addr → d.connected = true →
      accepted = true → timer = true ∧ d.waiting = 0
  | .dialOutTimeout t alloc => ∀ d ∈ s.devices, d.connected = true → 0 < d.waiting →
      d.dialOutTimer = some t → alloc = true ∨ s.queue ≠ []
  | .message => ∀ msg ∈ s.queue.head?, ∀ o ∈ msg.2, ∀ d ∈ s.devices, d.addr ≠ o →
      d.awaits = true → d.waiting = 0
  | _ => True

variable {s t : Gateway} {d : DialDevice}

theorem Serves.mono (h : s.Serves d) (hqueue : s.queue ≠ [] → t.queue ≠ [])
    (hrunning : s.running ⊆ t.running) : t.Serves d := by
  intro hconn
  obtain ⟨hwait, hcome⟩ := h hconn
  refine ⟨hwait, fun hpos => (hcome hpos).imp hqueue ?_⟩
  exact fun ⟨timer, htimer, heq⟩ => ⟨timer, hrunning htimer, heq⟩

section

variable (h : s.Answers)
include h

theorem Answers.dialNumber_iff {addr : BtAddress} {accepted timer : Bool} :
    (s.dialNumber addr accepted timer).Answers ↔ s.InTurn (.dialNumber addr accepted timer) := by
  obtain ⟨hserves, hown⟩ := h
  unfold dialNumber
  split
  next hnone =>
    refine iff_of_true ⟨hserves, hown⟩ fun d hd haddr hconn => ?_
    have hreach : (s.devices.any fun d => d.addr = addr && d.connected) = true :=
      any_eq_true.mpr ⟨d, hd, by simp [haddr, hconn]⟩
    rw [hreach] at hnone
    cases hnone
  cases accepted with
  | false => exact iff_of_true ⟨hserves, hown⟩ fun _ _ _ _ h => absurd h Bool.false_ne_true
  | true =>
    refine (and_iff_left hown).trans (forall_mem_map.trans (forall₂_congr fun d hd => ?_))
    have hserve := hserves d hd
    by_cases haddr : d.addr = addr
    · cases hconn : d.connected <;> cases timer <;>
        simp_all [Serves, DialDevice.dialNumber]
    · rw [if_neg haddr]
      exact iff_of_true (hserve.mono id (subset_append_left ..)) fun heq => absurd heq haddr

theorem Answers.dialOutTimeout_iff {t : Nat} {alloc : Bool} :
    (s.dialOutTimeout t alloc).Answers ↔ s.InTurn (.dialOutTimeout t alloc) := by
  obtain ⟨hserves, hown⟩ := h
  unfold dialOutTimeout
  split
  next hnone =>
    refine iff_of_true ⟨hserves, hown⟩ fun d hd hconn hpos ht => ?_
    refine ((hserves d hd hconn).2 hpos).elim .inr ?_
    rintro ⟨timer, htimer, heq⟩
    simpa [← Option.some.inj (ht.symm.trans heq)] using find?_eq_none.mp hnone timer htimer
  next timer hfind =>
    refine (and_iff_left hown).trans (forall₂_congr fun d hd => ?_)
    have hserve := hserves d hd
    cases alloc with
    | true => simp_all [Serves]
    | false =>
      refine forall_congr' fun hconn => ?_
      obtain ⟨hwait, hcome⟩ := hserve hconn
      refine (and_iff_right hwait).trans (forall_congr' fun hpos => ?_)
      rcases hcome hpos with hqueue | ⟨timer, htimer, heq⟩
      · simp [hqueue]
      · grind

theorem Answers.message_iff : s.dialingResult.Answers ↔ s.InTurn .message := by
  obtain ⟨hserves, hown⟩ := h
  unfold dialingResult
  split
  next hempty => exact iff_of_true ⟨hserves, hown⟩ (by simp [InTurn, hempty])
  next result owner rest hqueue =>
    -- every device that waits is answered, so nothing is left but who sent the message
    refine (and_iff_right (forall_mem_map.mpr fun d hd => ?_)).trans ?_
    · cases hconn : d.connected <;> cases htimer : d.dialOutTimer <;> cases hasked : d.asked <;>
        simp_all [Serves, DialDevice.dialingResult, DialDevice.awaits]
    · cases owner <;> simp [InTurn, hqueue, hown]

theorem Answers.step_iff (e : Event) : (s.step e).Answers ↔ s.InTurn e := by
  cases e with
  | connected addr =>
    refine iff_of_true ?_ trivial
    unfold step connect
    dsimp only
    split
    · refine ⟨forall_mem_map.mpr fun d hd => ?_, h.2⟩
      have hserve := h.1 d hd
      unfold DialDevice.connect
      (repeat' split) <;> first | exact hserve | simp [Serves]
    · refine ⟨forall_mem_append.mpr ⟨h.1, ?_⟩, h.2⟩
      simp [Serves]
  | disconnected addr =>
    refine iff_of_true ⟨forall_mem_map.mpr fun d hd => ?_, h.2⟩ trivial
    split
    · exact fun hconn => absurd hconn Bool.false_ne_true
    · exact h.1 d hd
  | dialNumber addr accepted timer => exact h.dialNumber_iff
  | dialResult result alloc =>
    refine iff_of_true ?_ trivial
    unfold step
    dsimp only
    split
    · exact ⟨fun d hd => (h.1 d hd).mono (by simp) (Subset.refl _), h.2⟩
    · exact h
  | dialOutTimeout t alloc => exact h.dialOutTimeout_iff
  | message => exact h.message_iff

end

/-- **Dial responses.** In a run of the service every request of a connected device has its one
response, or waits for it, and no timeout answers the request of another device, exactly if the
events come in turn. -/
theorem dials_answered_iff (es : List Event) :
    (∀ s ∈ visited step started es, s.Answers) ↔ Guarded step InTurn started es :=
  forall_visited_iff_guarded (fun _ h => h) (fun _ e h => (Answers.step_iff h e).mpr)
    (fun _ e h hno hnew => hno ((Answers.step_iff h e).mp hnew)) ⟨nofun, rfl⟩

/-- Two devices dial, and the timeout of the first answers both; and a device that dials twice
gets one response. -/
theorem timeout_answers_other_device :
    let two := after step started [.connected 1, .connected 2, .dialNumber 1 true true,
      .dialNumber 2 true true, .dialOutTimeout 0 true, .message]
    let twice := after step started [.connected 1, .dialNumber 1 true true,
      .dialNumber 1 true true, .dialOutTimeout 0 true, .message, .dialOutTimeout 1 true, .message]
    two.responses = [(1, atcmdResultTimeout), (2, atcmdResultTimeout)] ∧ two.running = []
      ∧ ¬two.Answers ∧ twice.responses = [(1, atcmdResultTimeout)] ∧ ¬twice.Answers := by
  refine ⟨by decide, by decide, fun h => ?_, by decide, fun h => ?_⟩
  · exact absurd h.2 (by decide)
  · have hserves := (h.1 ⟨1, true, none, true, 1⟩ (.head _) rfl).1
    exact absurd hserves (by decide)

end Gateway

end BtFramework.AgDial
