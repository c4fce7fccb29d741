import BtFramework.Runs
import Mathlib.Algebra.Order.Ring.Nat

/-!
# Reading in the A2DP source

The source reads the audio channel into a pool that a timer empties. A full pool stops the
reading and leaves a flag for the timer; a suspend stops it without one.
-/

namespace BtFramework.A2dpSource

open Runs

/-- `stream_state_t`. -/
inductive StreamState where
  | off | flushing | running | suspending | wait4Suspended
deriving DecidableEq

inductive UnderflowState where
  | none | paused | resuming
deriving DecidableEq

/-- What the audio channel is read with. -/
inductive ReadCallback where
  | dataReceived | dataFlush
deriving DecidableEq

inductive MediaAlarm where
  | startDelay | handleTimer
deriving DecidableEq

/-- The stream without offloading, its pool by the bytes used, and the reading of the audio
channel, which stays connected. Every timer that is asked for is obtained. -/
structure Stream where
  streamState : StreamState
  mediaAlarm : Option MediaAlarm
  used : Nat
  readCongest : Bool
  ticks : Nat
  underflow : UnderflowState
  streamInterface : Bool
  reading : Option ReadCallback

/-- An alarm sends up to `sent` bytes; `dataRead` comes only while the channel is read. -/
inductive Event where
  | setupCodec (peerFound : Bool)
  | started (started : Bool)
  | stopped
  | prepareStart
  | prepareSuspend
  | connectionChanged (ctrlConnected connected : Bool)
  | dataRead (len : Nat)
  | alarm (sent : Nat)

namespace Stream

def new : Stream := ⟨.off, none, 0, false, 0, .none, false, none⟩

def space (s : Stream) : Nat := 2048 - s.used

def startRead (s : Stream) : Stream :=
  if s.streamState ≠ .off ∧ s.readCongest = false then s
  else if s.space = 0 then s
  else { s with readCongest := false, reading := some .dataReceived }

def audioDataReceived (s : Stream) (len : Nat) : Stream :=
  if len = 0 ∨ s.space < len then s
  else
    let s := { s with used := s.used + len }
    let s := if s.space = 0 then { s with readCongest := true, reading := none } else s
    if s.underflow = .paused then { s with underflow := .resuming } else s

def countUnderflow (s : Stream) : Stream :=
  if s.used = 0 then { s with ticks := (s.ticks + 1) % 2 ^ 32 }
  else if s.ticks ≠ 0 then { s with ticks := 0, underflow := .none }
  else s

/-- `sent` bytes leave the pool as frames. -/
def audioHandleTimer (s : Stream) (sent : Nat) : Stream :=
  match s.streamState with
  | .running =>
    let s := s.countUnderflow
    if s.underflow = .none ∧ 100 < s.ticks then { s with underflow := .paused }
    else startRead { s with used := s.used - sent }
  | .suspending =>
    let s := s.countUnderflow
    if 2 < s.ticks then { s with reading := none, used := 0, streamState := .wait4Suspended }
    else startRead { s with used := s.used - sent }
  | _ => s

def stopFlush (s : Stream) : Stream := { s with streamState := .off, reading := none }

def startAudioReq (s : Stream) : Stream :=
  if s.streamInterface then
    let s := if s.streamState = .flushing then s.stopFlush else s
    let s := if s.underflow = .none then startRead { s with readCongest := false, used := 0 }
      else s
    { s with
      ticks := 0, underflow := .none, streamState := .running
      mediaAlarm := s.mediaAlarm.or (some .startDelay) }
  else s

def stopAudioReq (s : Stream) (cleanup : Bool) : Stream :=
  { s with
    ticks := if cleanup then 0 else s.ticks
    underflow := if cleanup then .none else s.underflow
    streamState := .off, mediaAlarm := none }

def setupCodec (s : Stream) (peerFound : Bool) : Stream :=
  let s := { s with used := 0, streamInterface := true }
  if peerFound ∧ s.streamState = .off then
    { s with streamState := .flushing, reading := some .dataFlush }
  else s

/-- What each event does to the stream. -/
def step (s : Stream) : Event → Stream
  | .setupCodec peerFound => s.setupCodec peerFound
  | .started started => if started ∧ s.streamState ≠ .running then s.startAudioReq else s
  | .stopped => s.stopAudioReq false
  | .prepareStart => if s.streamState = .suspending then { s with streamState := .running } else s
  | .prepareSuspend => if s.streamState = .running then { s with streamState := .suspending } else s
  | .connectionChanged ctrlConnected connected =>
    if ctrlConnected ∧ ¬connected then s.stopAudioReq true else s
  | .dataRead len => if s.reading = some .dataReceived then s.audioDataReceived len else s
  | .alarm sent => match s.mediaAlarm with
    | none => s
    | some .startDelay => { s with mediaAlarm := some .handleTimer }
    | some .handleTimer => s.audioHandleTimer sent

/-- The audio channel is read into the pool, or the timer is to take that up again. -/
def Reads (s : Stream) : Prop :=
  s.mediaAlarm ≠ none ∧ (s.reading = some .dataReceived ∨ s.readCongest = true)

/-- A running stream is read, or a later tick resumes it. -/
def KeepsReading (s : Stream) : Prop := s.streamState = .running → s.Reads

/-- A start reads again from the off state and after a flush; elsewhere, and after an underflow,
it relies on what it finds. -/
def Resumes (s : Stream) : Prop :=
  if s.underflow = .none then
    s.streamState = .off ∨ s.streamState = .flushing ∨ s.reading = some .dataReceived
  else s.readCongest = true ∨ s.streamState ≠ .flushing ∧ s.reading = some .dataReceived

/-- A start with a codec finds a stream that reading is resumed for. -/
def StartOk (s : Stream) (e : Event) : Prop :=
  e = .started true → s.streamInterface = true → s.streamState ≠ .running → s.Resumes

def Inv (s : Stream) : Prop := s.streamState = .running ∨ s.streamState = .suspending → s.Reads

variable {s : Stream}

theorem Reads.startRead (h : s.Reads) : s.startRead.Reads := by
  unfold Stream.startRead
  split_ifs
  · exact h
  · exact h
  · exact ⟨h.1, Or.inl rfl⟩

theorem Inv.audioDataReceived (h : s.Inv) (hread : s.reading = some .dataReceived) (len : Nat) :
    (s.audioDataReceived len).Inv := by
  unfold Stream.audioDataReceived
  dsimp only
  split_ifs
  · exact h
  all_goals exact fun hs => ⟨(h hs).1, by simp [hread]⟩

theorem startAudioReq_reads_iff (hi : s.streamInterface = true) :
    s.startAudioReq.Reads ↔ s.Resumes := by
  cases hs : s.streamState <;> cases hu : s.underflow <;> cases ha : s.mediaAlarm <;>
    simp [startAudioReq, hi, hs, hu, ha, Reads, Resumes, stopFlush, Stream.startRead, space,
      or_comm]

theorem Reads.countUnderflow (h : s.Reads) : s.countUnderflow.Reads := by
  unfold Stream.countUnderflow
  split_ifs <;> exact h

theorem Inv.audioHandleTimer (h : s.Inv) (sent : Nat) : (s.audioHandleTimer sent).Inv := by
  unfold Stream.audioHandleTimer
  dsimp only
  split
  next hs =>
    have hreads := (h (Or.inl hs)).countUnderflow
    split
    · exact fun _ => hreads
    · exact fun _ => Reads.startRead hreads
  next hs =>
    have hreads := (h (Or.inr hs)).countUnderflow
    split
    · nofun
    · exact fun _ => Reads.startRead hreads
  · exact h

theorem Inv.step (h : s.Inv) {e : Event} (hok : s.StartOk e) : (s.step e).Inv := by
  unfold Stream.step
  cases e <;> dsimp only
  case setupCodec =>
    simp only [Stream.setupCodec]
    split
    · nofun
    · exact h
  case started =>
    split_ifs with hc
    · by_cases hi : s.streamInterface = true
      · exact fun _ => (startAudioReq_reads_iff hi).mpr (hok (congrArg _ hc.1) hi hc.2)
      · rwa [startAudioReq, if_neg hi]
    · exact h
  case stopped => nofun
  case connectionChanged =>
    split
    · nofun
    · exact h
  case alarm sent =>
    split
    · exact h
    · exact fun hs => ⟨nofun, (h hs).2⟩
    · exact h.audioHandleTimer sent
  case prepareStart =>
    split_ifs with hs
    · exact fun _ => h (Or.inr hs)
    · exact h
  case prepareSuspend =>
    split_ifs with hs
    · exact fun _ => h (Or.inl hs)
    · exact h
  case dataRead len =>
    split_ifs with hs
    · exact h.audioDataReceived hs len
    · exact h

theorem audioHandleTimer_resumes {sent : Nat} (hs : s.streamState = .running)
    (hcongest : s.readCongest = true) (hused : 0 < s.used) (hroom : s.used - sent < 2048) :
    (s.audioHandleTimer sent).reading = some .dataReceived := by
  have hroom' : ¬2048 - (s.used - sent) = 0 := by omega
  by_cases ht : s.ticks = 0 <;>
    simp [audioHandleTimer, countUnderflow, startRead, space, hs, hcongest, Nat.ne_of_gt hused,
      hroom', ht]

/-- **Reading in the source.** Along a run a running stream is read, or is to be read again,
exactly if every start resumes the reading; and with the flag set the next tick that makes room
in a filled pool reads again. -/
theorem keeps_reading_iff (es : List Event) :
    ((∀ s ∈ visited Stream.step new es, s.KeepsReading)
        ↔ Guarded Stream.step StartOk new es)
      ∧ ∀ (s : Stream) (sent : Nat), s.streamState = .running → s.readCongest = true →
        0 < s.used → s.used - sent < 2048 →
          (s.audioHandleTimer sent).reading = some .dataReceived := by
  refine ⟨forall_visited_iff_guarded (fun _ (h : Inv _) hs => h (Or.inl hs))
    (fun _ _ h hok => h.step hok) ?_ nofun, fun _ _ => audioHandleTimer_resumes⟩
  intro s e _ hno hkeeps
  refine hno ?_
  rintro rfl hi hs
  rw [Stream.step, if_pos ⟨rfl, hs⟩] at hkeeps
  refine (startAudioReq_reads_iff hi).mp (hkeeps ?_)
  rw [startAudioReq, if_pos hi]

/-- The pool runs empty while the stream is suspended, and the stream is started before it has
stopped: it runs, and the audio channel is not read. -/
theorem restart_before_stopped_silent :
    let s := Runs.after Stream.step new [.setupCodec true, .started true, .alarm 0,
      .prepareSuspend, .alarm 0, .alarm 0, .alarm 0, .started true]
    s.streamState = .running ∧ s.reading = none ∧ ¬s.KeepsReading :=
  ⟨rfl, rfl, fun h => absurd (h rfl).2 (by decide)⟩

def isStreaming (s : Stream) : Bool := s.mediaAlarm.isSome

/-- The timer runs exactly in the states of a stream, and the pool keeps its size. -/
def Sound (s : Stream) : Prop :=
  (s.isStreaming ↔ s.streamState ≠ .off ∧ s.streamState ≠ .flushing) ∧ s.used ≤ 2048

theorem used_startRead : s.startRead.used = s.used := by
  unfold Stream.startRead
  split_ifs <;> rfl

section

variable (h : s.Sound)
include h

theorem Sound.startRead : s.startRead.Sound := by
  unfold Stream.startRead
  split_ifs <;> exact h

theorem Sound.countUnderflow : s.countUnderflow.Sound := by
  unfold Stream.countUnderflow
  split_ifs <;> exact h

theorem Sound.send (sent : Nat) : Sound { s with used := s.used - sent } :=
  ⟨h.1, Nat.le_trans (Nat.sub_le _ _) h.2⟩

theorem Sound.audioHandleTimer (sent : Nat) : (s.audioHandleTimer sent).Sound := by
  unfold Stream.audioHandleTimer
  dsimp only
  split
  · split
    · exact h.countUnderflow
    · exact (h.countUnderflow.send sent).startRead
  next hs =>
    split
    · -- the stream waits to be suspended, and its timer runs on
      have hstreams : s.isStreaming = true := h.1.mpr (by rw [hs]; decide)
      have halarm : s.countUnderflow.mediaAlarm = s.mediaAlarm := by
        unfold Stream.countUnderflow
        split_ifs <;> rfl
      exact ⟨iff_of_true (halarm ▸ hstreams) (by simp), Nat.zero_le _⟩
    · exact (h.countUnderflow.send sent).startRead
  · exact h

theorem Sound.audioDataReceived (len : Nat) : (s.audioDataReceived len).Sound := by
  have hused := h.2
  unfold Stream.audioDataReceived
  dsimp only
  split
  · exact h
  next hfits =>
    have hroom : s.used + len ≤ 2048 := by
      simp only [space, not_or, Nat.not_lt] at hfits
      omega
    split_ifs <;> exact ⟨h.1, hroom⟩

theorem Sound.startAudioReq : s.startAudioReq.Sound := by
  unfold Stream.startAudioReq
  split
  · dsimp only
    refine ⟨iff_of_true (by simp [isStreaming]) (by simp), ?_⟩
    -- the pool is emptied, or stays as it is after an underflow
    have hused := h.2
    split_ifs <;> simp [used_startRead, stopFlush, hused]
  · exact h

theorem Sound.stopAudioReq (cleanup : Bool) : (s.stopAudioReq cleanup).Sound :=
  ⟨iff_of_false Bool.false_ne_true fun hs => hs.1 rfl, h.2⟩

theorem Sound.setupCodec (peerFound : Bool) : (s.setupCodec peerFound).Sound := by
  unfold Stream.setupCodec
  dsimp only
  split
  next hoff =>
    exact ⟨iff_of_false (fun hs => (h.1.mp hs).1 hoff.2) fun hs => hs.2 rfl, Nat.zero_le _⟩
  · exact ⟨h.1, Nat.zero_le _⟩

/-- From one streaming state to another. -/
theorem Sound.switch {state state' : StreamState} (hs : s.streamState = state)
    (hstate : state ≠ .off ∧ state ≠ .flushing) (hstate' : state' ≠ .off ∧ state' ≠ .flushing) :
    Sound { s with streamState := state' } :=
  ⟨iff_of_true (h.1.mpr (hs ▸ hstate)) hstate', h.2⟩

theorem Sound.step (e : Event) : (s.step e).Sound := by
  cases e with
  | setupCodec peerFound => exact h.setupCodec peerFound
  | started started =>
    simp only [Stream.step]
    split
    · exact h.startAudioReq
    · exact h
  | stopped => exact h.stopAudioReq false
  | prepareStart =>
    simp only [Stream.step]
    split
    next hs => exact h.switch hs (by decide) (by decide)
    · exact h
  | prepareSuspend =>
    simp only [Stream.step]
    split
    next hs => exact h.switch hs (by decide) (by decide)
    · exact h
  | connectionChanged ctrlConnected connected =>
    simp only [Stream.step]
    split
    · exact h.stopAudioReq true
    · exact h
  | dataRead len =>
    simp only [Stream.step]
    split
    · exact h.audioDataReceived len
    · exact h
  | alarm sent =>
    simp only [Stream.step]
    split
    · exact h
    next hdelay =>
      exact ⟨iff_of_true rfl (h.1.mp (by rw [isStreaming, hdelay]; rfl)), h.2⟩
    · exact h.audioHandleTimer sent

end

/-- Along every run the source streams exactly in the states that say so, and the pool never
overflows. -/
theorem isStreaming_iff_state (es : List Event) : (Runs.after Stream.step new es).Sound :=
  guarded_true.invariant (fun s e (h : Sound s) _ => h.step e) ⟨by decide, by decide⟩ _
    after_mem_visited

end Stream

end BtFramework.A2dpSource
