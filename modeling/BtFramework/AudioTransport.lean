import BtFramework.Runs
import Mathlib.Data.Fintype.Basic

/-!
# Taking the audio transport down

Closing a channel hands its pipes to the loop, which calls back when each is closed. The last
callback is to release the transport, which it tells from flags that know of one pipe of a kind
at a time.
-/

namespace BtFramework.AudioTransport

/-- The listening pipe and that of the client. -/
inductive Pipe where
  | svr | cli
deriving DecidableEq

/-- A channel, with the pipes that are being closed, all pipes that are not closed yet, and the
CLOSE events reported. A successful open sets `ipc_handle` and `event_cb` together. -/
structure Channel where
  opened : Bool
  closing : Bool
  svrPipe : Bool
  cliPipe : Bool
  connected : Bool
  svrClosing : Nat
  cliClosing : Nat
  pipes : Nat
  closeEvents : Nat

namespace Channel

def connectionClose (c : Channel) : Channel :=
  if c.cliPipe then { c with cliPipe := false, cliClosing := c.cliClosing + 1 } else c

def channelClose (c : Channel) : Channel :=
  let c := c.connectionClose
  if c.svrPipe then { c with closing := true, svrPipe := false, svrClosing := c.svrClosing + 1 }
  else c

inductive Outcome where
  | initError | error | success

def transportOpen (c : Channel) (outcome : Outcome) : Channel :=
  if c.connected then c
  else
    let pipe := { c with cliPipe := false, svrPipe := true, pipes := c.pipes + 1 }
    match outcome with
    | .initError => { c with cliPipe := false, svrPipe := false }
    | .error => pipe.channelClose
    | .success => { pipe with opened := true }

def listenCb (c : Channel) (outcome : Outcome) : Channel :=
  let pipe := { c with cliPipe := true, pipes := c.pipes + 1 }
  match outcome with
  | .initError => { c with cliPipe := false }
  | .error => pipe.connectionClose
  | .success => { pipe with connected := true }

/-- A close callback goes on to look at all channels only if the flag says so. -/
def connectionCloseCb (c : Channel) : Channel × Bool :=
  let c := { c with cliClosing := c.cliClosing - 1, pipes := c.pipes - 1 }
  if c.connected then
    ({ c with connected := false, closeEvents := c.closeEvents + 1 }, !c.closing && c.opened)
  else (c, false)

def chnlCloseCb (c : Channel) : Channel × Bool :=
  ({ c with closing := false, svrClosing := c.svrClosing - 1, pipes := c.pipes - 1 },
    c.opened && !c.connected)

def closeCb (c : Channel) : Pipe → Channel × Bool
  | .svr => c.chnlCloseCb
  | .cli => c.connectionCloseCb

def closingOf (c : Channel) : Pipe → Nat
  | .svr => c.svrClosing
  | .cli => c.cliClosing

/-- At most one pipe of a kind, of which the flags tell, and a channel that was opened. -/
structure Tidy (c : Channel) : Prop where
  svr : c.svrClosing + c.svrPipe.toNat ≤ 1
  closing : c.svrClosing = c.closing.toNat
  cli : c.cliClosing + c.cliPipe.toNat = c.connected.toNat
  pipes : c.pipes = c.svrClosing + c.svrPipe.toNat + c.connected.toNat
  opened : 0 < c.pipes → c.opened = true

/-- What a tidy channel is once it is closed. -/
structure Settling (c : Channel) : Prop where
  closing : c.svrClosing = c.closing.toNat
  cli : c.cliClosing = c.connected.toNat
  pipes : c.pipes = c.svrClosing + c.cliClosing
  opened : 0 < c.pipes → c.opened = true

variable {c : Channel} {p : Pipe}

theorem Tidy.settling (h : c.Tidy) :
    c.channelClose.Settling
      ∧ c.channelClose.closeEvents + c.channelClose.cliClosing
        = c.closeEvents + c.connected.toNat := by
  obtain ⟨opened, closing, svrPipe, cliPipe, connected, svrClosing, cliClosing, pipes, events⟩ := c
  obtain ⟨hsvr, hclosing, hcli, hpipes, hopened⟩ := h
  cases closing <;> cases svrPipe <;> cases cliPipe <;> refine ⟨?_, ?_⟩ <;> try constructor
  all_goals simp_all [Channel.channelClose, connectionClose]

theorem Settling.pipes_eq_zero_iff (h : c.Settling) :
    c.pipes = 0 ↔ c.closing = false ∧ c.connected = false := by
  rw [h.pipes, h.closing, h.cli, Nat.add_eq_zero_iff, Bool.toNat_eq_zero, Bool.toNat_eq_zero]

theorem closingOf_closeCb (q : Pipe) :
    (c.closeCb p).1.closingOf q = c.closingOf q - if p = q then 1 else 0 := by
  cases p <;> cases q <;> cases hconnected : c.connected <;>
    simp [closeCb, chnlCloseCb, connectionCloseCb, closingOf, hconnected]

/-- The channel a callback leaves has another callback coming, or the callback goes on. -/
theorem Settling.closeCb (h : c.Settling) (hp : 0 < c.closingOf p) :
    (c.closeCb p).1.Settling
      ∧ (c.closeCb p).1.closeEvents + (c.closeCb p).1.cliClosing = c.closeEvents + c.cliClosing
      ∧ ((c.closeCb p).2 = false → (c.closeCb p).1.pipes ≠ 0) := by
  obtain ⟨opened, closing, svrPipe, cliPipe, connected, svrClosing, cliClosing, pipes, events⟩ := c
  obtain ⟨hclosing, hcli, hpipes, hopened⟩ := h
  cases p <;> cases closing <;> cases connected <;> refine ⟨?_, ?_⟩ <;> try constructor
  all_goals simp_all [closingOf, Channel.closeCb, chnlCloseCb, connectionCloseCb]

/-- Calls on a channel and callbacks of the loop. -/
inductive Event where
  | opens (outcome : Outcome)
  | accepts (outcome : Outcome)
  /-- A read or a write of the client fails. -/
  | ioFails
  | closes
  | closed (p : Pipe)

def step (c : Channel) : Event → Channel
  | .opens outcome => c.transportOpen outcome
  | .accepts outcome => c.listenCb outcome
  | .ioFails => c.connectionClose
  | .closes => c.channelClose
  | .closed p => (c.closeCb p).1

/-- A client is accepted. -/
def Event.connects : Event → Bool
  | .accepts .success => true
  | _ => false

/-- Opened without pipes, one client at a time, and no failure that leaves a pipe to close. -/
def Orderly (c : Channel) : Event → Prop
  | .opens outcome => c.pipes = 0 ∧ outcome ≠ .error
  | .accepts outcome => c.svrPipe ∧ ¬c.connected ∧ outcome ≠ .error
  | .ioFails => True
  | .closes => True
  | .closed p => 0 < c.closingOf p

/-- The clients that have connected: those told of a CLOSE and the one still there. -/
def clients (c : Channel) : Nat := c.closeEvents + c.connected.toNat

section

variable {outcome : Outcome} (h : c.Tidy)
include h

theorem Tidy.transportOpen (hno : c.pipes = 0) (hok : outcome ≠ .error) :
    (c.transportOpen outcome).Tidy ∧ (c.transportOpen outcome).clients = c.clients := by
  obtain ⟨hsvr, hclosing, hcli, hpipes, hopened⟩ := h
  cases outcome with
  | error => exact absurd rfl hok
  | initError | success =>
    refine ⟨⟨?_, ?_, ?_, ?_, ?_⟩, ?_⟩ <;> grind [Channel.transportOpen, clients]

/-- A client can connect only to a server pipe that is not being closed. -/
theorem Tidy.listenCb (hsvr : c.svrPipe) (hno : ¬c.connected) (hok : outcome ≠ .error) :
    (c.listenCb outcome).Tidy ∧ (c.listenCb outcome).clients
      = c.clients + if (Event.accepts outcome).connects then 1 else 0 := by
  obtain ⟨hone, hclosing, hcli, hpipes, hopened⟩ := h
  cases outcome with
  | error => exact absurd rfl hok
  | initError | success =>
    refine ⟨⟨?_, ?_, ?_, ?_, ?_⟩, ?_⟩ <;> grind [Channel.listenCb, clients, Event.connects]

theorem Tidy.connectionClose :
    c.connectionClose.Tidy ∧ c.connectionClose.clients = c.clients := by
  obtain ⟨hsvr, hclosing, hcli, hpipes, hopened⟩ := h
  refine ⟨⟨?_, ?_, ?_, ?_, ?_⟩, ?_⟩ <;> grind [Channel.connectionClose, clients]

theorem Tidy.channelClose : c.channelClose.Tidy ∧ c.channelClose.clients = c.clients := by
  obtain ⟨⟨hsvr, hclosing, hcli, hpipes, hopened⟩, hclients⟩ := h.connectionClose
  rw [← hclients, Channel.channelClose]
  refine ⟨⟨?_, ?_, ?_, ?_, ?_⟩, ?_⟩ <;> grind [clients]

theorem Tidy.closeCb (hp : 0 < c.closingOf p) :
    (c.closeCb p).1.Tidy ∧ (c.closeCb p).1.clients = c.clients := by
  obtain ⟨hsvr, hclosing, hcli, hpipes, hopened⟩ := h
  cases p with
  | svr =>
    refine ⟨⟨?_, ?_, ?_, ?_, ?_⟩, ?_⟩ <;>
      grind [closingOf, Channel.closeCb, chnlCloseCb, clients]
  | cli =>
    refine ⟨⟨?_, ?_, ?_, ?_, ?_⟩, ?_⟩ <;>
      grind [closingOf, Channel.closeCb, connectionCloseCb, clients]

theorem Tidy.step {e : Event} (he : c.Orderly e) :
    (c.step e).Tidy ∧ (c.step e).clients = c.clients + if e.connects then 1 else 0 := by
  cases e with
  | opens outcome => exact h.transportOpen he.1 he.2
  | accepts outcome => exact h.listenCb he.1 he.2.1 he.2.2
  | ioFails => exact h.connectionClose
  | closes => exact h.channelClose
  | closed p => exact h.closeCb he

end

/-- Used in order, a tidy channel stays tidy, and every client is still connected or has had its
one CLOSE. -/
theorem orderly_run_tidy (es : List Event) (h : c.Tidy) (hes : Runs.Guarded step Orderly c es) :
    let c' := Runs.after step c es
    c'.Tidy ∧ c'.closeEvents + c'.connected.toNat
      = c.closeEvents + c.connected.toNat + es.countP Event.connects := by
  induction es generalizing c with
  | nil => exact ⟨h, rfl⟩
  | cons e es ih =>
    obtain ⟨htidy, hcount⟩ := h.step hes.1
    rw [clients, clients] at hcount
    refine (ih htidy hes.2).imp_right fun hsum => ?_
    rw [Runs.after_cons, hsum, hcount, List.countP_cons]
    omega

theorem client_closed_once :
    let c := Runs.after step ⟨false, false, false, false, false, 0, 0, 0, 0⟩
      [.opens .success, .accepts .success, .closes, .closed .cli]
    c.closeEvents + c.connected.toNat = 1 :=
  And.right <| orderly_run_tidy _ ⟨by decide, rfl, rfl, rfl, nofun⟩
    ⟨⟨rfl, by simp⟩, ⟨rfl, by decide, by simp⟩, trivial, Nat.one_pos, trivial⟩

end Channel

/-- Each release is recorded with whether every pipe was closed. -/
structure Transport (n : Nat) where
  ch : Fin n → Channel
  closing : Bool
  released : List Bool

namespace Transport

variable {n : Nat} {t : Transport n} {events : Fin n → Nat}

def init (n : Nat) : Transport n :=
  ⟨fun _ => ⟨false, false, false, false, false, 0, 0, 0, 0⟩, false, []⟩

def setChannel (t : Transport n) (i : Fin n) (c : Channel) : Transport n :=
  { t with ch := Function.update t.ch i c }

def free (t : Transport n) : Transport n :=
  { t with released := t.released ++ [decide (∀ i, (t.ch i).pipes = 0)] }

def freeIfIdle (t : Transport n) : Transport n :=
  if t.closing ∧ ∀ i, (t.ch i).closing = false ∧ (t.ch i).connected = false then t.free else t

def closeCb (t : Transport n) (x : Fin n × Pipe) : Transport n :=
  let (c, look) := (t.ch x.1).closeCb x.2
  if look then (t.setChannel x.1 c).freeIfIdle else t.setChannel x.1 c

/-- `audio_transport_close` for all channels. -/
def closeAll (t : Transport n) : Transport n :=
  let t := { t with ch := fun i => (t.ch i).channelClose }
  if ∃ i, (t.ch i).closing = true ∨ (t.ch i).connected = true then { t with closing := true }
  else if t.closing then t else t.free

structure Settling (events : Fin n → Nat) (t : Transport n) : Prop where
  ch : ∀ i, (t.ch i).Settling ∧ (t.ch i).closeEvents + (t.ch i).cliClosing = events i
  released : t.released = [] ∧ t.closing = true ∧ (∃ i, (t.ch i).pipes ≠ 0)
    ∨ t.released = [true] ∧ ∀ i, (t.ch i).pipes = 0

theorem settling_freeIfIdle
    (hch : ∀ i, (t.ch i).Settling ∧ (t.ch i).closeEvents + (t.ch i).cliClosing = events i)
    (hreleased : t.released = []) (hclosing : t.closing = true) :
    Settling events t.freeIfIdle := by
  by_cases hzero : ∀ i, (t.ch i).pipes = 0
  · rw [freeIfIdle, if_pos ⟨hclosing, fun i => (hch i).1.pipes_eq_zero_iff.mp (hzero i)⟩]
    exact ⟨hch, Or.inr ⟨by simp [free, hreleased, hzero], hzero⟩⟩
  · have hbusy : ¬∀ i, (t.ch i).closing = false ∧ (t.ch i).connected = false :=
      fun hidle => hzero fun i => (hch i).1.pipes_eq_zero_iff.mpr (hidle i)
    rw [freeIfIdle, if_neg fun hidle => hbusy hidle.2]
    exact ⟨hch, Or.inl ⟨hreleased, hclosing, not_forall.mp hzero⟩⟩

theorem Settling.closeCb (h : Settling events t) {x : Fin n × Pipe}
    (hx : 0 < (t.ch x.1).closingOf x.2) : Settling events (t.closeCb x) := by
  obtain ⟨hi, hcount⟩ := h.ch x.1
  obtain ⟨hc, hevents, hlook⟩ := hi.closeCb hx
  have hpipes : (t.ch x.1).pipes ≠ 0 := by
    rw [hi.pipes]
    cases hp : x.2 <;> simp only [hp, Channel.closingOf] at hx <;> omega
  obtain ⟨hreleased, hclosing, -⟩ := h.released.resolve_right fun hr => hpipes (hr.2 x.1)
  have hch := (Function.forall_update_iff t.ch fun j c =>
    c.Settling ∧ c.closeEvents + c.cliClosing = events j).mpr
      ⟨⟨hc, hevents.trans hcount⟩, fun j _ => h.ch j⟩
  simp only [Transport.closeCb]
  split
  · exact settling_freeIfIdle hch hreleased hclosing
  next hno =>
    refine ⟨hch, Or.inl ⟨hreleased, hclosing, x.1, ?_⟩⟩
    simpa [setChannel] using hlook (by simpa using hno)

theorem Settling.after (h : Settling events t) {cs : List (Fin n × Pipe)}
    (hcs : ∀ x, cs.count x = (t.ch x.1).closingOf x.2) :
    (Runs.after Transport.closeCb t cs).released = [true]
      ∧ ∀ i, ((Runs.after Transport.closeCb t cs).ch i).closeEvents = events i := by
  induction cs generalizing t with
  | nil =>
    have hcli i : 0 = (t.ch i).cliClosing := hcs (i, .cli)
    refine ⟨?_, fun i => by rw [← (h.ch i).2, ← hcli]; rfl⟩
    obtain ⟨-, -, i, hi⟩ | ⟨hreleased, -⟩ := h.released
    · have hsvr : 0 = (t.ch i).svrClosing := hcs (i, .svr)
      rw [(h.ch i).1.pipes, ← hsvr, ← hcli] at hi
      exact absurd rfl hi
    · exact hreleased
  | cons x cs ih =>
    have hx := hcs x
    rw [List.count_cons_self] at hx
    refine ih (h.closeCb (hx ▸ Nat.succ_pos _)) fun y => ?_
    have hch : (t.closeCb x).ch = Function.update t.ch x.1 ((t.ch x.1).closeCb x.2).1 := by
      simp only [Transport.closeCb, freeIfIdle]
      split_ifs <;> rfl
    have hy := hcs y
    rw [List.count_cons] at hy
    rw [hch]
    by_cases hi : y.1 = x.1
    · rw [hi, Function.update_self, Channel.closingOf_closeCb, ← hi, ← hy]
      simp [Prod.ext_iff, hi]
    · rw [Function.update_of_ne hi, ← hy, if_neg]
      · rfl
      · simp [Prod.ext_iff, Ne.symm hi]

/-- **Teardown.** When every channel is tidy, closing them all releases the transport once,
after the last pipe is closed and in whatever order the loop calls back, and every connected
channel reports one CLOSE. -/
theorem teardown_releases_once (t : Transport n) (hreleased : t.released = [])
    (hclosing : t.closing = false) (htidy : ∀ i, (t.ch i).Tidy) (cs : List (Fin n × Pipe))
    (hcs : ∀ x, cs.count x = (t.closeAll.ch x.1).closingOf x.2) :
    let t' := Runs.after closeCb t.closeAll cs
    t'.released = [true]
      ∧ ∀ i, (t'.ch i).closeEvents = (t.ch i).closeEvents + (t.ch i).connected.toNat := by
  refine Settling.after ?_ hcs
  have hch i := (htidy i).settling
  simp only [closeAll]
  split
  next hbusy =>
    obtain ⟨i, hi⟩ := hbusy
    refine ⟨hch, Or.inl ⟨hreleased, rfl, i, fun hzero => ?_⟩⟩
    simp [(hch i).1.pipes_eq_zero_iff.mp hzero] at hi
  next hidle =>
    have hzero : ∀ i, (t.ch i).channelClose.pipes = 0 := fun i =>
      (hch i).1.pipes_eq_zero_iff.mpr (by simpa using not_exists.mp hidle i)
    rw [hclosing, if_neg Bool.false_ne_true]
    exact ⟨hch, Or.inr ⟨by simp [free, hreleased, hzero], hzero⟩⟩

def opened (outcome : Channel.Outcome) : Transport 1 :=
  (init 1).setChannel 0 (((init 1).ch 0).transportOpen outcome)

theorem connected_channel_torn_down :
    let t := (opened .success).setChannel 0 (((opened .success).ch 0).listenCb .success)
    (Runs.after closeCb t.closeAll [(0, .cli), (0, .svr)]).released = [true] :=
  (teardown_releases_once _ rfl rfl (fun i => by cases i using Fin.cases
    with | zero => exact ⟨by decide, rfl, rfl, rfl, fun _ => rfl⟩ | succ i => exact i.elim0) _
    (by rintro ⟨i, _ | _⟩ <;> revert i <;> decide)).1

/-- The one pipe, of an open that failed, is closed, and the transport is not released. -/
theorem failed_open_never_released :
    (∀ x, [(0, Pipe.svr)].count x = ((opened .error).closeAll.ch x.1).closingOf x.2)
      ∧ (Runs.after closeCb (opened .error).closeAll [(0, .svr)]).released = [] := by
  refine ⟨?_, by decide⟩
  rintro ⟨i, _ | _⟩ <;> revert i <;> decide

end Transport

end BtFramework.AudioTransport
