import BtFramework.HfpMachines

/-!
# Offload requests are answered once

`audit` checks that every start request is answered by one `STARTED` or `START_FAIL`, every stop
request by one `STOPPED`, and no start is reported `STARTED` once a stop has been requested
after it.

A stop request that finds the start timer running leaves `PENDING_OFFLOAD_START` set; two stop
commands share one flag; leaving the audio-on state loses the result of a start; deletion does
not wait for the stop command it sends. What the machines do keep (`Phase`) is the discipline of
one request at a time. The proof is about any role whose link events do to the offload part what
`LinkMove` says.
-/

namespace BtFramework.HfpAudio

open List Offload
open Runs (Guarded visited after)

/-! ## The ledger -/

/-- What is owed to the audio layer: for each unanswered start request, in
order, whether a stop has been requested since; and the number of unanswered
stop requests. -/
structure Ledger where
  starts : List Bool
  stops : Nat
deriving DecidableEq

def Ledger.clear : Ledger := ⟨[], 0⟩

def Ledger.enter (l : Ledger) : OffloadEntry → Option Ledger
  | .startReq => some { l with starts := l.starts ++ [false] }
  | .stopReq => some ⟨l.starts.map fun _ => true, l.stops + 1⟩
  | .started =>
    match l.starts with
    | false :: rest => some { l with starts := rest }
    | _ => none
  | .startFail =>
    match l.starts with
    | _ :: rest => some { l with starts := rest }
    | [] => none
  | .stopped =>
    match l.stops with
    | n + 1 => some { l with stops := n }
    | 0 => none
  | .destroyed => if l = .clear then some l else none

def audit (log : List OffloadEntry) : Option Ledger := log.foldlM Ledger.enter .clear

/-- The log passes the audit, and nothing is open once no result is under way. -/
def Answered (o : Offload) : Prop :=
  ∃ l, audit o.log = some l ∧ (o.commands = [] → o.queue = [] → l = .clear)

variable {l : Ledger} {success : Bool}

theorem audit_note {o : Offload} {l' : Ledger} {entry : OffloadEntry} (h : audit o.log = some l)
    (he : l.enter entry = some l') :
    audit (o.note entry).log = some l' := by
  rw [audit] at h
  rw [audit, note, foldlM_append, h]
  simp [he]

/-! ## One request at a time -/

structure Owing (o : Offload) (pendingStart pendingStop : Bool) (queue : List OffloadEvent)
    (l : Ledger) : Prop where
  pendingStart : o.pendingStart = pendingStart
  pendingStop : o.pendingStop = pendingStop
  queue : o.queue = queue
  -- a running timer is the one in the handle
  running : o.running = o.timer.toList
  ledger : audit o.log = some l

/-- How far the one request under way has come. A start is under way only in
the audio-on state; commands that nobody waits for any more may be
outstanding in every phase. -/
inductive Phase (audioOn : Bool) (o : Offload) : Prop where
  | settled (h : Owing o false false [] .clear) (timer : o.timer = none)
  | starting (on : audioOn = true) (h : Owing o true false [] ⟨[false], 0⟩) (sent : o.commands ≠ [])
  | startDone (success : Bool) (on : audioOn = true)
      (h : Owing o false false [.startEvt success] ⟨[false], 0⟩)
  | stopping (h : Owing o false true [] ⟨[], 1⟩) (timer : o.timer = none) (sent : o.commands ≠ [])
  | stopDone (h : Owing o false false [.stopEvt] ⟨[], 1⟩) (timer : o.timer = none)

variable {audioOn audioOn' : Bool} {o : Offload} {env : HfpEnv}

theorem Phase.answered (h : Phase audioOn o) : Answered o := by
  cases h with
  | settled h => exact ⟨_, h.ledger, fun _ _ => rfl⟩
  | starting _ h sent | stopping h _ sent => exact ⟨_, h.ledger, fun hc => absurd hc sent⟩
  | startDone _ _ h | stopDone h =>
    exact ⟨_, h.ledger, fun _ hq => absurd (h.queue.symm.trans hq) nofun⟩

theorem Phase.mono (h : Phase audioOn o) (hon : audioOn = true → audioOn' = true) :
    Phase audioOn' o := by
  cases h with
  | settled h ht => exact .settled h ht
  | starting on h sent => exact .starting (hon on) h sent
  | startDone s on h => exact .startDone s (hon on) h
  | stopping h ht sent => exact .stopping h ht sent
  | stopDone h ht => exact .stopDone h ht

theorem Phase.settled_of_clear (h : Phase audioOn o) (hl : audit o.log = some .clear) :
    Owing o false false [] .clear ∧ o.timer = none := by
  cases h with
  | settled h ht => exact ⟨h, ht⟩
  | starting _ h | startDone _ _ h | stopping h | stopDone h =>
    exact absurd (h.ledger.symm.trans hl) nofun

section Owing

variable {ps pst : Bool} {q : List OffloadEvent} {l l' : Ledger}

section

variable (h : Owing o ps pst q l)
include h

theorem Owing.note {entry : OffloadEntry} (he : l.enter entry = some l') :
    Owing (o.note entry) ps pst q l' :=
  ⟨h.pendingStart, h.pendingStop, h.queue, h.running, audit_note h.ledger he⟩

theorem Owing.withCommands (commands : List OffloadCommand) :
    Owing { o with commands := commands } ps pst q l :=
  ⟨h.pendingStart, h.pendingStop, h.queue, h.running, h.ledger⟩

theorem Owing.withQueue (queue : List OffloadEvent) :
    Owing { o with queue := queue } ps pst queue l :=
  ⟨h.pendingStart, h.pendingStop, rfl, h.running, h.ledger⟩

theorem Owing.cancelTimer : Owing o.cancelTimer ps pst q l := by
  unfold Offload.cancelTimer
  split
  · exact h
  next t ht =>
    refine ⟨h.pendingStart, h.pendingStop, h.queue, ?_, h.ledger⟩
    show o.running.erase t = []
    rw [h.running, ht, Option.toList_some, erase_cons_head]

theorem Owing.armTimer (ht : o.timer = none) : Owing (o.armTimer env) ps pst q l := by
  have hr : o.running = [] := by rw [h.running, ht]; rfl
  unfold Offload.armTimer
  split
  · exact ⟨h.pendingStart, h.pendingStop, h.queue, congrArg (_ :: ·) hr, h.ledger⟩
  · exact ⟨h.pendingStart, h.pendingStop, h.queue, hr, h.ledger⟩

end

end Owing

theorem Offload.cancelTimer_timer : o.cancelTimer.timer = none := by
  unfold Offload.cancelTimer
  split
  next h => exact h
  · rfl

@[simp] theorem Offload.armTimer_commands : (o.armTimer env).commands = o.commands := by
  unfold Offload.armTimer; split <;> rfl

/-! ## What each input does to the phase -/

theorem phase_startRequest (h : Owing o false false [] .clear) (ht : o.timer = none) :
    Phase true (o.audioOnEvent env .startReq) := by
  have hreq : Owing (o.note .startReq) false false [] ⟨[false], 0⟩ := h.note rfl
  show Phase true ((o.note .startReq).startRequest env)
  unfold startRequest
  split
  · refine .starting rfl (Owing.armTimer ?_ ht) ?_
    · exact ⟨rfl, hreq.pendingStop, hreq.queue, hreq.running, hreq.ledger⟩
    · rw [armTimer_commands]
      exact concat_ne_nil _ _
  · exact .settled (hreq.note rfl) ht

theorem phase_stopRequest (h : Owing o false false [] .clear) (ht : o.timer = none) :
    Phase audioOn (o.audioOnEvent env .stopReq) := by
  have hreq : Owing (o.note .stopReq) false false [] ⟨[], 1⟩ := h.note rfl
  have hnone : (o.note .stopReq).timer.isSome = false := by
    rw [show (o.note .stopReq).timer = none from ht]; rfl
  show Phase audioOn ((o.note .stopReq).stopRequest env)
  unfold stopRequest
  rw [hnone]
  simp only [Bool.false_eq_true, if_false]
  split
  · refine .stopping ⟨hreq.pendingStart, rfl, hreq.queue, hreq.running, hreq.ledger⟩ ht ?_
    exact concat_ne_nil _ _
  · exact .settled (hreq.note rfl) ht

theorem phase_audioOnExit (h : Owing o false false [] .clear) (ht : o.timer = none) :
    Phase audioOn (o.audioOnExit env) := by
  unfold audioOnExit
  split
  · exact phase_stopRequest h ht
  · exact .settled h ht

theorem phase_elsewhereRequest (h : Phase false o) :
    Phase false (o.elsewhereEvent .startReq) ∧ Phase false (o.elsewhereEvent .stopReq) := by
  cases h with
  | settled h ht => exact ⟨.settled ((h.note rfl).note rfl) ht, .settled ((h.note rfl).note rfl) ht⟩
  | starting on | startDone _ on => exact absurd on Bool.false_ne_true
  | stopping h ht sent =>
    exact ⟨.stopping ((h.note rfl).note rfl) ht sent, .stopping ((h.note rfl).note rfl) ht sent⟩
  | stopDone h ht =>
    exact ⟨.stopDone ((h.note rfl).note rfl) ht, .stopDone ((h.note rfl).note rfl) ht⟩

theorem hciEventCallback_drop {q : List OffloadEvent} (h : Owing o false false q l) :
    o.hciEventCallback success = o := by
  simp [hciEventCallback, h.pendingStart, h.pendingStop]

theorem Owing.hciEventCallback_start (h : Owing o true false [] l) :
    Owing (o.hciEventCallback success) false false [.startEvt success] l := by
  simp only [hciEventCallback, h.pendingStart, if_true]
  exact ⟨rfl, h.pendingStop, congrArg (· ++ _) h.queue, h.running, h.ledger⟩

theorem Owing.hciEventCallback_stop (h : Owing o false true [] l) :
    Owing (o.hciEventCallback success) false false [.stopEvt] l := by
  simp only [hciEventCallback, h.pendingStart, h.pendingStop, Bool.false_eq_true, if_false, if_true]
  exact ⟨rfl, rfl, congrArg (· ++ _) h.queue, h.running, h.ledger⟩

theorem hciEventCallback_timer : (o.hciEventCallback success).timer = o.timer := by
  unfold hciEventCallback
  split
  · rfl
  · split <;> rfl

theorem phase_hciResult (success : Bool) (h : Phase audioOn o) :
    Phase audioOn (o.hciResult success) := by
  unfold hciResult
  split
  · exact h
  next rest _ =>
    cases h with
    | settled h ht =>
      rw [hciEventCallback_drop (h.withCommands rest)]
      exact .settled (h.withCommands rest) ht
    | starting on h => exact .startDone success on (h.withCommands rest).hciEventCallback_start
    | startDone s on h =>
      rw [hciEventCallback_drop (h.withCommands rest)]
      exact .startDone s on (h.withCommands rest)
    | stopping h ht =>
      refine .stopDone (h.withCommands rest).hciEventCallback_stop ?_
      rw [hciEventCallback_timer]
      exact ht
    | stopDone h ht =>
      rw [hciEventCallback_drop (h.withCommands rest)]
      exact .stopDone (h.withCommands rest) ht

theorem phase_message {e : OffloadEvent} {rest : List OffloadEvent} (h : Phase audioOn o)
    (hq : o.queue = e :: rest) :
    let o' := { o with queue := rest }
    Phase audioOn (if audioOn then o'.audioOnEvent env e else o'.elsewhereEvent e) := by
  cases h with
  | settled h | starting _ h | stopping h => exact absurd (h.queue.symm.trans hq) nofun
  | startDone success on h =>
    obtain ⟨rfl, rfl⟩ := List.cons.inj (h.queue.symm.trans hq)
    rw [on]
    refine .settled (Owing.note (h.withQueue []).cancelTimer ?_) cancelTimer_timer
    cases success <;> rfl
  | stopDone h ht =>
    obtain ⟨rfl, rfl⟩ := List.cons.inj (h.queue.symm.trans hq)
    cases audioOn
    · exact .settled ((h.withQueue []).note rfl) ht
    · exact .settled ((h.withQueue []).note rfl) ht

theorem phase_timer {t : Nat} (env : HfpEnv) (h : Phase audioOn o) (ht : t ∈ o.running)
    (hq : o.queue = []) :
    audioOn = true ∧
      Phase true ({ o with running := o.running.erase t }.audioOnEvent env .timeoutEvt) := by
  have quiet : o.running = o.timer.toList → o.timer = none → False := by
    intro hr hn
    rw [hr, hn] at ht
    exact absurd ht not_mem_nil
  cases h with
  | settled h hn | stopping h hn | stopDone h hn => exact (quiet h.running hn).elim
  | starting on h =>
    refine ⟨on, .settled ⟨rfl, h.pendingStop, h.queue, ?_, audit_note h.ledger rfl⟩ rfl⟩
    show o.running.erase t = []
    rw [h.running] at ht ⊢
    rw [Option.mem_toList.mp ht, Option.toList_some, erase_cons_head]
  | startDone _ _ h => exact absurd (h.queue.symm.trans hq) nofun

/-! ## What link events do to the offload part -/

section Roles

variable {L E : Type} {role : Role L E} {m m' : HfpMachine L}

structure LinkMove (role : Role L E) (env : HfpEnv) (m m' : HfpMachine L) : Prop where
  destroyed : m'.destroyed = m.destroyed
  offload : (m'.offload = m.offload ∧
      (role.inAudioOn m.link = true → role.inAudioOn m'.link = true)) ∨
    (role.inAudioOn m.link = true ∧ role.inAudioOn m'.link = false ∧
      m'.offload = m.offload.audioOnExit env)

structure Role.Lawful (role : Role L E) : Prop where
  process : ∀ env m e, LinkMove role env m (role.process env m e)
  retry : ∀ env m, LinkMove role env m (role.retry env m)
  startFailed : ∀ env l, role.inAudioOn (role.startFailed env l) = role.inAudioOn l

structure Transition (role : Role L E) (env : HfpEnv) (state : Bool) (m m' : HfpMachine L) :
    Prop where
  destroyed : m'.destroyed = m.destroyed
  offload : m'.offload = if role.inAudioOn m.link then m.offload.audioOnExit env else m.offload
  state : role.inAudioOn m'.link = state

theorem Transition.linkMove {state : Bool} {link : L}
    (htrans : Transition role env state { m with link := link } m')
    (hlink : role.inAudioOn link = role.inAudioOn m.link)
    (h : role.inAudioOn m.link = false ∨ state = false) : LinkMove role env m m' := by
  obtain ⟨hdestroyed, hexit, hto⟩ := htrans
  rw [hlink] at hexit
  refine ⟨hdestroyed, ?_⟩
  cases hon : role.inAudioOn m.link with
  | true =>
    rw [hon, if_pos rfl] at hexit
    have hleft := h.resolve_left fun hoff => absurd (hon.symm.trans hoff) nofun
    exact .inr ⟨rfl, hto.trans hleft, hexit⟩
  | false =>
    rw [hon] at hexit
    exact .inl ⟨hexit, nofun⟩

theorem LinkMove.refl : LinkMove role env m m := ⟨rfl, .inl ⟨rfl, id⟩⟩

theorem LinkMove.ofLink {link : L} (h : role.inAudioOn link = role.inAudioOn m.link) :
    LinkMove role env m { m with link := link } :=
  ⟨rfl, .inl ⟨rfl, fun hon => h.trans hon⟩⟩

theorem LinkMove.thenLink {link : L} (hm : LinkMove role env m m')
    (h : role.inAudioOn link = role.inAudioOn m'.link) :
    LinkMove role env m { m' with link := link } :=
  ⟨hm.destroyed, by rw [h]; exact hm.offload⟩

end Roles

/-! ### The hands-free unit -/

section HandsFree

variable {m : HfMachine}

@[simp] theorem tryDisconnectAudio_sm {l : HfLink} : (tryDisconnectAudio env l).sm = l.sm := by
  unfold tryDisconnectAudio
  split
  · rfl
  · split
    · rfl
    · split <;> rfl

theorem hfTransitionTo_current (env : HfpEnv) (m : HfMachine) (state : HfState) :
    (hfTransitionTo env m state).link.sm.current = state := by
  cases state <;> simp only [hfTransitionTo, hsmTransitionTo, hfOps, hfEnter, tryDisconnectAudio]
    <;> (repeat' split) <;> rfl

theorem hfTransitionTo_transition (env : HfpEnv) (m : HfMachine) (state : HfState) :
    Transition hfRole env (state == .audioOn) m (hfTransitionTo env m state) := by
  refine ⟨?_, ?_, congrArg (· == .audioOn) (hfTransitionTo_current env m state)⟩ <;>
    obtain ⟨⟨⟨cur, prev⟩, _⟩, _⟩ := m <;> cases cur <;> rfl

theorem hfTransitionTo_move (state : HfState) {link : HfLink} (hlink : link.sm = m.link.sm)
    (h : m.link.sm.current ≠ .audioOn ∨ state ≠ .audioOn) :
    LinkMove hfRole env m (hfTransitionTo env { m with link := link } state) :=
  (hfTransitionTo_transition env _ state).linkMove (congrArg (·.current == .audioOn) hlink)
    (h.imp beq_false_of_ne beq_false_of_ne)

theorem hfTry_move : LinkMove hfRole env m { m with link := tryDisconnectAudio env m.link } :=
  .ofLink (by show ((tryDisconnectAudio env m.link).sm.current == HfState.audioOn) = _
              rw [tryDisconnectAudio_sm]; rfl)

theorem hfProcess_move (e : HfEvent) : LinkMove hfRole env m (hfProcess env m e) := by
  unfold hfProcess
  split
  · exact .ofLink rfl
  split <;> rename_i hcur
  -- a branch leaves the link alone, edits the rest of it or makes a transition
  all_goals
    simp only [hfDisconnected, hfConnecting, hfConnected, hfAudioOn]
    repeat' split
    all_goals first
      | exact .refl
      | exact hfTransitionTo_move _ rfl (.inr (by decide))
      | exact hfTransitionTo_move _ rfl (.inl (by simp [hcur]))
      | exact hfTry_move
      | exact .ofLink rfl

theorem hfRetryCallback_move : LinkMove hfRole env m (hfRetryCallback env m) := by
  unfold hfRetryCallback
  split
  · split
    · exact (hfTransitionTo_move .connecting rfl (.inr nofun)).thenLink rfl
    · exact .ofLink rfl
  · exact .refl

theorem hfRole_lawful : hfRole.Lawful where
  process _ _ e := hfProcess_move e
  retry _ _ := hfRetryCallback_move
  startFailed _ _ :=
    congrArg (fun sm : StateMachine HfState => sm.current == .audioOn) tryDisconnectAudio_sm

end HandsFree

/-! ### The audio gateway -/

section Gateway

variable {m : AgMachine}

@[simp] theorem setVirtualCallStarted_sm {l : AgLink} {started : Bool} :
    (l.setVirtualCallStarted started).sm = l.sm := by
  unfold AgLink.setVirtualCallStarted
  split <;> rfl

theorem agTransitionTo_transition (env : HfpEnv) (m : AgMachine) (state : AgState) :
    Transition agRole env (state == .audioOn) m (agTransitionTo env m state) := by
  obtain ⟨⟨⟨cur, prev⟩, _⟩, _⟩ := m
  dsimp only [agTransitionTo, hsmTransitionTo, agOps, agReportOps, agEnter]
  -- entering connected goes on to disconnecting when a disconnect is pending
  split
  next h =>
    obtain ⟨rfl, -⟩ := h
    exact ⟨by cases cur <;> rfl, by cases cur <;> rfl, rfl⟩
  · refine ⟨by cases cur <;> rfl, by cases cur <;> rfl, ?_⟩
    cases state <;> simp only [agEnterReport] <;> (repeat' split) <;> rfl

theorem agTransitionTo_move (state : AgState) {link : AgLink} (hlink : link.sm = m.link.sm)
    (h : m.link.sm.current ≠ .audioOn ∨ state ≠ .audioOn) :
    LinkMove agRole env m (agTransitionTo env { m with link := link } state) :=
  (agTransitionTo_transition env _ state).linkMove (congrArg (·.current == .audioOn) hlink)
    (h.imp beq_false_of_ne beq_false_of_ne)

theorem agVirtual_inAudioOn {l : AgLink} (started : Bool) :
    agRole.inAudioOn (l.setVirtualCallStarted started) = agRole.inAudioOn l :=
  congrArg (fun sm : StateMachine AgState => sm.current == .audioOn) setVirtualCallStarted_sm

theorem agProcess_move (e : AgEvent) : LinkMove agRole env m (agProcess env m e) := by
  unfold agProcess
  split <;> rename_i hcur
  all_goals
    simp only [agDisconnected, agConnecting, agDisconnecting, agConnected, agAudioConnecting,
      agAudioOn, agAudioDisconnecting, agDefault, agDefaultConnection, agTakeAudioDown]
    repeat' split
    all_goals first
      | exact .refl
      | exact agTransitionTo_move _ rfl (.inr (by decide))
      | exact agTransitionTo_move _ setVirtualCallStarted_sm (.inr (by decide))
      | exact agTransitionTo_move _ rfl (.inl (by simp [hcur]))
      | exact .ofLink rfl
      | exact .ofLink (agVirtual_inAudioOn _)
      | exact .ofLink ((agVirtual_inAudioOn _).trans (agVirtual_inAudioOn _))

theorem agRetryCallback_move : LinkMove agRole env m (agRetryCallback env m) := by
  unfold agRetryCallback
  split
  · split
    · exact (agTransitionTo_move .connecting rfl (.inr nofun)).thenLink rfl
    · exact .ofLink rfl
  · exact .refl

theorem agRole_lawful : agRole.Lawful where
  process _ _ e := agProcess_move e
  retry _ _ := agRetryCallback_move
  startFailed _ _ := rfl

end Gateway

/-! ## Whole runs -/

section Runs

variable {L E : Type} {role : Role L E} {m m' : HfpMachine L}

def Clear (o : Offload) : Prop := audit o.log = some .clear
deriving Decidable

/-- In the audio-on state a request is made, and the state is left, only when nothing is owed; so
is the machine deleted outside that state; and the timer does not fire while the result of the
start waits. -/
def Orderly (role : Role L E) (m : HfpMachine L) (input : HfpEnv × HfpInput E) : Prop :=
  match input.2 with
  | .link e =>
    role.inAudioOn m.link = true →
      role.inAudioOn (role.process input.1 m e).link = false → Clear m.offload
  | .retry =>
    role.inAudioOn m.link = true →
      role.inAudioOn (role.retry input.1 m).link = false → Clear m.offload
  | .startReq | .stopReq => role.inAudioOn m.link = true → Clear m.offload
  | .timer t => t ∈ m.offload.running → m.offload.queue = []
  | .delete => role.inAudioOn m.link = false ∧ Clear m.offload
  | .hciResult _ | .message => True

instance (m : HfpMachine L) (input : HfpEnv × HfpInput E) : Decidable (Orderly role m input) := by
  unfold Orderly
  split <;> infer_instance

def InPhase (role : Role L E) (m : HfpMachine L) : Prop :=
  (m.destroyed = true ∧ Clear m.offload) ∨ Phase (role.inAudioOn m.link) m.offload

theorem InPhase.answered (h : InPhase role m) : Answered m.offload := by
  rcases h with ⟨-, hclear⟩ | h
  · exact ⟨_, hclear, fun _ _ => rfl⟩
  · exact h.answered

theorem phase_linkMove (hmove : LinkMove role env m m')
    (h : Phase (role.inAudioOn m.link) m.offload)
    (hclear : role.inAudioOn m.link = true → role.inAudioOn m'.link = false → Clear m.offload) :
    Phase (role.inAudioOn m'.link) m'.offload := by
  rcases hmove.offload with ⟨hoff, hon⟩ | ⟨hon, hleft, hoff⟩
  · rw [hoff]
    exact h.mono hon
  · obtain ⟨howing, ht⟩ := h.settled_of_clear (hclear hon hleft)
    rw [hoff]
    exact phase_audioOnExit howing ht

theorem processOffload_inAudioOn (hrole : role.Lawful) (e : OffloadEvent) :
    role.inAudioOn (role.processOffload env m e).link = role.inAudioOn m.link := by
  unfold Role.processOffload
  split
  · split
    · exact hrole.startFailed env m.link
    · rfl
  · rfl

theorem processOffload_offload (e : OffloadEvent) :
    (role.processOffload env m e).offload
      = if role.inAudioOn m.link then m.offload.audioOnEvent env e
        else m.offload.elsewhereEvent e := by
  unfold Role.processOffload
  split <;> rfl

theorem phase_request (hrole : role.Lawful) {e : OffloadEvent} (he : e = .startReq ∨ e = .stopReq)
    (h : Phase (role.inAudioOn m.link) m.offload)
    (hclear : role.inAudioOn m.link = true → Clear m.offload) :
    Phase (role.inAudioOn (role.processOffload env m e).link)
      (role.processOffload env m e).offload := by
  rw [processOffload_inAudioOn hrole, processOffload_offload]
  cases hon : role.inAudioOn m.link with
  | true =>
    obtain ⟨howing, ht⟩ := h.settled_of_clear (hclear hon)
    rcases he with rfl | rfl
    · exact phase_startRequest howing ht
    · exact phase_stopRequest howing ht
  | false =>
    rw [hon] at h
    rcases he with rfl | rfl
    · exact (phase_elsewhereRequest h).1
    · exact (phase_elsewhereRequest h).2

/-- **Step lemma.** -/
theorem inPhase_step (hrole : role.Lawful) (m : HfpMachine L) (input : HfpEnv × HfpInput E)
    (h : InPhase role m) (hok : Orderly role m input) : InPhase role (role.step m input) := by
  obtain ⟨env, input⟩ := input
  unfold Role.step
  split
  · exact h
  next halive =>
    have h : Phase (role.inAudioOn m.link) m.offload := h.resolve_left fun hd => halive hd.1
    cases input with
    | link e => exact .inr (phase_linkMove (hrole.process env m e) h hok)
    | retry => exact .inr (phase_linkMove (hrole.retry env m) h hok)
    | startReq => exact .inr (phase_request hrole (.inl rfl) h hok)
    | stopReq => exact .inr (phase_request hrole (.inr rfl) h hok)
    | hciResult success => exact .inr (phase_hciResult success h)
    | message =>
      dsimp only
      split
      · exact .inr h
      next e rest hq =>
        refine .inr ?_
        rw [processOffload_inAudioOn hrole, processOffload_offload]
        exact phase_message h hq
    | timer t =>
      dsimp only
      split
      next ht =>
        obtain ⟨hon, hphase⟩ := phase_timer env h ht (hok ht)
        refine .inr ?_
        rw [processOffload_inAudioOn hrole, processOffload_offload]
        rw [hon, if_pos rfl]
        exact hphase
      · exact .inr h
    | delete =>
      obtain ⟨hoff, hclear⟩ := hok
      refine .inl ⟨rfl, audit_note ?_ (if_pos rfl)⟩
      rcases (hrole.process env m role.disconnect).offload with ⟨hkept, -⟩ | ⟨hon, -⟩
      · rw [hkept]
        exact hclear
      · exact absurd (hon.symm.trans hoff) nofun

/-- **Run lemma.** -/
theorem answered_of_orderly (hrole : role.Lawful) {inputs : List (HfpEnv × HfpInput E)}
    (hfresh : InPhase role m) (h : Guarded role.step (Orderly role) m inputs) :
    ∀ t ∈ visited role.step m inputs, Answered t.offload := by
  intro t ht
  exact (h.invariant (inPhase_step hrole) hfresh t ht).answered

theorem phase_fresh (audioOn offloading : Bool) : Phase audioOn (.fresh offloading) :=
  .settled ⟨rfl, rfl, rfl, rfl, rfl⟩ rfl

end Runs

/-- In either role: along any run of one request at a time every state keeps the contract, and with
no command result outstanding nothing is owed. -/
theorem offload_answered_once_of_orderly (offloading : Bool) :
    (∀ inputs, Guarded hfRole.step (Orderly hfRole) (hfNew offloading) inputs →
        ∀ t ∈ visited hfRole.step (hfNew offloading) inputs, Answered t.offload) ∧
      ∀ inputs, Guarded agRole.step (Orderly agRole) (agNew offloading) inputs →
        ∀ t ∈ visited agRole.step (agNew offloading) inputs, Answered t.offload :=
  ⟨fun _ => answered_of_orderly hfRole_lawful (.inr (phase_fresh _ _)),
    fun _ => answered_of_orderly agRole_lawful (.inr (phase_fresh _ _))⟩

/-! ## Concrete runs -/

def hfAudioUp : List (HfpEnv × HfpInput HfEvent) :=
  [(.allWell, .link (.connectionStateChanged .connected false)),
    (.allWell, .link (.audioStateChanged .connected))]

def agAudioUp : List (HfpEnv × HfpInput AgEvent) :=
  [(.allWell, .link (.connectionStateChanged .connected false)),
    (.allWell, .link (.audioStateChanged .connected))]

def resultHandled {E : Type} (success : Bool) : List (HfpEnv × HfpInput E) :=
  [(.allWell, .hciResult success), (.allWell, .message)]

def hfCall : List (HfpEnv × HfpInput HfEvent) :=
  hfAudioUp ++ [(.allWell, .startReq)] ++ resultHandled true
    ++ [(.allWell, .link (.audioStateChanged .disconnected))] ++ resultHandled true
    ++ [(.allWell, .delete)]

def agCall : List (HfpEnv × HfpInput AgEvent) :=
  agAudioUp ++ [(.allWell, .startReq), (.allWell, .timer 0), (.allWell, .hciResult true),
    (.allWell, .stopReq)] ++ resultHandled true
    ++ [(.allWell, .link (.audioStateChanged .disconnected))] ++ resultHandled true

/-- One call on each machine, every request answered. -/
theorem one_call_each_answered :
    (∀ t ∈ visited hfRole.step (hfNew true) hfCall, Answered t.offload) ∧
      ∀ t ∈ visited agRole.step (agNew true) agCall, Answered t.offload :=
  ⟨(offload_answered_once_of_orderly true).1 hfCall (by decide),
    (offload_answered_once_of_orderly true).2 agCall (by decide)⟩

def stopBeforeResult {E : Type} : List (HfpEnv × HfpInput E) :=
  [(.allWell, .startReq), (.allWell, .stopReq)] ++ resultHandled true

/-- On both machines the start is answered twice, and reported started after
the stop request. -/
theorem stopped_start_reported_started :
    (after hfRole.step (hfNew true) (hfAudioUp ++ stopBeforeResult)).offload.log
        = [.startReq, .stopReq, .startFail, .started] ∧
      (after agRole.step (agNew true) (agAudioUp ++ stopBeforeResult)).offload.log
        = [.startReq, .stopReq, .startFail, .started] ∧
      ¬(∀ t ∈ visited hfRole.step (hfNew true) (hfAudioUp ++ stopBeforeResult),
        Answered t.offload) ∧
      ¬∀ t ∈ visited agRole.step (agNew true) (agAudioUp ++ stopBeforeResult),
        Answered t.offload := by
  have hbroken : audit [.startReq, .stopReq, .startFail, .started] = none := rfl
  refine ⟨rfl, rfl, fun hall => ?_, fun hall => ?_⟩
  · obtain ⟨l, hl, -⟩ := hall _ Runs.after_mem_visited
    exact absurd (hbroken.symm.trans hl) nofun
  · obtain ⟨l, hl, -⟩ := hall _ Runs.after_mem_visited
    exact absurd (hbroken.symm.trans hl) nofun

end BtFramework.HfpAudio
