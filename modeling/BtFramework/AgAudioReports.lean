import BtFramework.HfpMachines

/-!
# Audio reports of the audio gateway

The audio states of a device are reported when the audio states are entered, when the connected
state is entered from one of them, and from the error branches. A request to take audio down
that fails reports DISCONNECTED twice, and where the link is lost nothing is reported.
-/

namespace BtFramework.HfpAudio

/-- The reports on one profile connection: no audio yet, audio reported CONNECTED, and the
DISCONNECTED that follows it. -/
inductive AudioPhase where
  | idle | up | closed
deriving DecidableEq

/-- What the reports so far say: the phase, and whether the last audio report is DISCONNECTED. -/
structure AudioAudit where
  phase : AudioPhase
  down : Bool
deriving DecidableEq

def AudioAudit.see (audit : AudioAudit) : HfpNote → Option AudioAudit
  | .audio .connected => if audit.phase = .up then none else some ⟨.up, false⟩
  | .audio .disconnected =>
    if audit.phase = .closed ∨ audit.down then none
    else some ⟨if audit.phase = .up then .closed else .idle, true⟩
  | .audio _ => some { audit with down := false }
  | .connection .disconnected =>
    if audit.phase = .up then none else some { audit with phase := .idle }
  | .connection _ => some audit

/-- `none` once the reports are no proper history. -/
def audioAudit (told : List HfpNote) : Option AudioAudit :=
  told.foldlM AudioAudit.see ⟨.idle, false⟩

/-- The reports made so far are those of a walk through the audio states. -/
def ReportsProper (l : AgLink) : Prop := audioAudit l.told ≠ none

/-- The events after which the reports go wrong, and what keeps them right. -/
def ReportOk (env : HfpEnv) (l : AgLink) (e : AgEvent) : Prop :=
  let fresh := audioAudit l.told = some ⟨.idle, false⟩
  match l.sm.current, e with
  | .connected, .connectAudio => env.audio ∨ fresh
  | .connected, .startVirtualCall phoneFree =>
    (l.virtualCallStarted = false ∧ phoneFree ∧ env.audio) ∨ fresh
  | .audioConnecting, .audioStateChanged .disconnected => fresh
  | .audioConnecting, .disconnect => env.link ∨ fresh
  | .audioOn, .disconnectAudio => env.audio
  | .audioOn, .stopVirtualCall => l.virtualCallStarted → env.audio
  | .audioOn, .connectionStateChanged .disconnected _
  | .audioDisconnecting, .connectionStateChanged .disconnected _ => False
  | .disconnecting, .connectionStateChanged .disconnected _ =>
    audioAudit l.told ≠ some ⟨.up, false⟩
  | _, _ => True

/-- The audio states are up in the reports, the others are not; only a profile connection that
is being taken down may be either way. -/
def AuditOk (audit : AudioAudit) (state : AgState) : Prop :=
  (audit.phase = .up → audit.down = false) ∧ match state with
    | .disconnected | .connecting => audit.phase = .idle
    | .disconnecting => True
    | .connected => audit.phase ≠ .up
    | .audioConnecting => audit.phase ≠ .up ∧ audit.down = false
    | .audioOn | .audioDisconnecting => audit.phase = .up

def AuditInv (l : AgLink) : Prop :=
  ∃ audit, audioAudit l.told = some audit ∧ AuditOk audit l.sm.current

variable {m : AgMachine} (env : HfpEnv)

theorem audioAudit_append (told more : List HfpNote) :
    audioAudit (told ++ more) = (audioAudit told).bind (more.foldlM AudioAudit.see) := by
  rw [audioAudit, List.foldlM_append]
  rfl

/-! ## Transitions -/

def enterNote (old : AgState) : AgState → HfpNote
  | .disconnected => .connection .disconnected
  | .connecting => .connection .connecting
  | .disconnecting => .connection .disconnecting
  | .connected => if old.belowConnected then .connection .connected else .audio .disconnected
  | .audioConnecting => .audio .connecting
  | .audioOn => .audio .connected
  | .audioDisconnecting => .audio .disconnecting

theorem agExit_told (state : AgState) : (agExit env state m).link.told = m.link.told := by
  cases state <;> simp only [agExit, AgLink.setVirtualCallStarted]
  split <;> rfl

/-- A transition reports the state entered; what a disconnect that was waiting adds changes
nothing for the audio. -/
theorem agTransitionTo_audit (state : AgState) :
    audioAudit (agTransitionTo env m state).link.told
        = (audioAudit m.link.told).bind (·.see (enterNote m.link.sm.current state))
      ∧ ((agTransitionTo env m state).link.sm.current = state
        ∨ state = .connected ∧ (agTransitionTo env m state).link.sm.current = .disconnecting) := by
  have hstay : ∀ b, agExit env .connected b = b := fun _ => rfl
  have htold := agExit_told env (m := m) m.link.sm.current
  simp only [agTransitionTo, hsmTransitionTo, agOps, agReportOps]
  generalize agExit env m.link.sm.current m = b at htold ⊢
  cases state <;>
    simp only [agEnter, agEnterReport, hsmTransitionTo, agReportOps, AgLink.notify, enterNote,
      reduceCtorEq, if_false, false_and] <;>
    (repeat' split) <;>
    simp_all [audioAudit_append, AudioAudit.see]

theorem AuditInv.agRetryCallback (h : AuditInv m.link) :
    AuditInv (agRetryCallback env m).link := by
  obtain ⟨audit, haudit, hok⟩ := h
  unfold HfpAudio.agRetryCallback
  split
  · dsimp only
    split
    next hcur =>
      obtain ⟨htold, hnew⟩ := agTransitionTo_audit env (m := m) .connecting
      rw [haudit, hcur.1] at htold
      rw [hcur.1] at hok
      exact ⟨audit, htold, by rw [hnew.resolve_right nofun]; exact hok⟩
    · exact ⟨audit, haudit, hok⟩
  · exact ⟨audit, haudit, hok⟩

theorem AuditInv.ofTransition {P : Prop} {state : AgState}
    (hgood : P → ∃ audit, (audioAudit m.link.told).bind
      (·.see (enterNote m.link.sm.current state)) = some audit ∧ AuditOk audit state)
    (hbad : ¬P → (audioAudit m.link.told).bind
      (·.see (enterNote m.link.sm.current state)) = none) :
    (P → AuditInv (agTransitionTo env m state).link)
      ∧ (¬P → audioAudit (agTransitionTo env m state).link.told = none) := by
  obtain ⟨haudit, hcur⟩ := agTransitionTo_audit env (m := m) state
  rw [AuditInv, haudit]
  refine ⟨fun hp => ?_, hbad⟩
  obtain ⟨audit, hsee, hok⟩ := hgood hp
  refine ⟨audit, hsee, ?_⟩
  rcases hcur with hcur | ⟨-, hcur⟩
  · rwa [hcur]
  · rw [hcur]
    exact ⟨hok.1, trivial⟩

theorem agProcess_audit (h : AuditInv m.link) (e : AgEvent) :
    (ReportOk env m.link e → AuditInv (agProcess env m e).link)
      ∧ (¬ReportOk env m.link e → audioAudit (agProcess env m e).link.told = none) := by
  obtain ⟨⟨⟨cur, prev⟩, pending, started, told, timer, cnt, notes⟩, offload, destroyed⟩ := m
  obtain ⟨⟨phase, down⟩, haudit, hok⟩ := h
  cases cur <;> rcases e with _ | _ | _ | _ | _ | _ | _ | _ | _ |
    ⟨_ | _ | _ | _, _⟩ | ⟨_ | _ | _ | _⟩ | _
  all_goals
    simp only [agProcess, agDisconnected, agConnecting, agDisconnecting, agConnected,
      agAudioConnecting, agAudioOn, agAudioDisconnecting, agDefault, agDefaultConnection,
      agTakeAudioDown, AgLink.setVirtualCallStarted, AgLink.notify]
    repeat' split
  all_goals
    first
    | refine AuditInv.ofTransition env ?_ ?_ <;>
        simp_all [ReportOk, AuditOk, enterNote, audioAudit_append, AudioAudit.see,
          AgState.belowConnected]
    | simp_all [ReportOk, AuditInv, AuditOk, audioAudit_append, AudioAudit.see]
  all_goals cases phase <;> cases started <;> simp_all

/-- **Audio reports.** In a run of the gateway the reports are a proper history, with one
DISCONNECTED for every CONNECTED and none in a row, exactly if no event meets the machine where
it reports one too many or one too few. -/
theorem audio_reports_proper_iff (offloading : Bool)
    (inputs : List (HfpEnv × HfpInput AgEvent)) :
    (∀ m ∈ Runs.visited agRole.step (agNew offloading) inputs, ReportsProper m.link)
      ↔ Runs.Guarded agRole.step (AgGuard ReportOk) (agNew offloading) inputs := by
  refine ag_forall_visited_iff (fun l (h : AuditInv l) => ?_) ?_
    (fun env m h => h.agRetryCallback env) ⟨⟨.idle, false⟩, rfl, nofun, rfl⟩ inputs
  · obtain ⟨audit, haudit, -⟩ := h
    rw [ReportsProper, haudit]
    exact Option.some_ne_none _
  · intro env m e h
    obtain ⟨hgood, hbad⟩ := agProcess_audit env h e
    exact ⟨hgood, fun hno => not_not.mpr (hbad hno)⟩

def gatewayUp : List (HfpEnv × HfpInput AgEvent) :=
  [(.allWell, .link (.connectionStateChanged .connected false)),
    (.allWell, .link .connectAudio), (.allWell, .link (.audioStateChanged .connected))]

/-- A request to take audio down that fails is reported twice; and when the link is lost with
audio on, the profile is reported DISCONNECTED with the audio still CONNECTED. -/
theorem failed_audio_disconnect_reported_twice :
    let failed := Runs.after agRole.step (agNew false)
      (gatewayUp ++ [({ HfpEnv.allWell with audio := false }, .link .disconnectAudio)])
    let lost := Runs.after agRole.step (agNew false)
      (gatewayUp ++ [(.allWell, .link (.connectionStateChanged .disconnected false))])
    failed.link.told.drop 3 = [.audio .disconnected, .audio .disconnected]
      ∧ ¬ReportsProper failed.link
      ∧ lost.link.told.drop 2 = [.audio .connected, .connection .disconnected]
      ∧ ¬ReportsProper lost.link :=
  ⟨rfl, not_not.mpr rfl, rfl, not_not.mpr rfl⟩

end BtFramework.HfpAudio
