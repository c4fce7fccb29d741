import BtFramework.HfpMachines

/-!
# The virtual call of the audio gateway

`set_virtual_call_started` keeps the flag and tells the peer of every change. The flag is set
before audio is connected; nothing clears it when audio that is being set up fails later, and
entering the disconnected state clears it without a word to the peer.
-/

namespace BtFramework.HfpAudio

/-- What the peer was told, start and end in turn: whether a start is the last of it. -/
def virtualAudit (told : List Bool) : Option Bool :=
  told.foldlM (fun on started => if on = started then none else some started) false

/-- The flag is set only with audio up or on its way, and the peer knows of it. -/
@[mk_iff]
structure VirtualCallKept (l : AgLink) : Prop where
  inAudio : l.virtualCallStarted = true →
    l.sm.current ∈ [.audioConnecting, .audioOn, .audioDisconnecting]
  told : virtualAudit l.virtualTold = some l.virtualCallStarted

/-- The events that end the set-up of audio. -/
def GivesUp : AgEvent → Prop
  | .disconnect => True
  | .connectionStateChanged state _ => state = .disconnected ∨ state = .disconnecting
  | .audioStateChanged state => state = .disconnected
  | _ => False

/-- Audio that is being set up for a virtual call is not given up. -/
def SetUpOk (l : AgLink) (e : AgEvent) : Prop :=
  l.sm.current = .audioConnecting → l.virtualCallStarted = true → ¬GivesUp e

/-- The invariant of a run that meets the guard: the audio-disconnecting state, entered from
audio-on, has no virtual call left. -/
def VirtualInv (l : AgLink) : Prop :=
  (l.virtualCallStarted = true → l.sm.current = .audioConnecting ∨ l.sm.current = .audioOn)
    ∧ virtualAudit l.virtualTold = some l.virtualCallStarted

variable {m : AgMachine} {l : AgLink}

theorem VirtualInv.kept (h : VirtualInv l) : VirtualCallKept l :=
  ⟨fun hon => by rcases h.1 hon with hcur | hcur <;> rw [hcur] <;> decide, h.2⟩

/-- What an event does to a link that keeps the invariant. -/
theorem agProcess_virtual (env : HfpEnv) (h : VirtualInv m.link) (e : AgEvent) :
    (SetUpOk m.link e → VirtualInv (agProcess env m e).link)
      ∧ (¬SetUpOk m.link e → ¬VirtualCallKept (agProcess env m e).link) := by
  obtain ⟨⟨⟨cur, prev⟩, pending, started, told, timer, cnt, notes⟩, offload, destroyed⟩ := m
  cases cur <;> cases started <;> rcases e with _ | _ | _ | _ | _ | _ | _ | _ | _ |
    ⟨_ | _ | _ | _, _⟩ | ⟨_ | _ | _ | _⟩ | _
  all_goals
    simp only [agProcess, agDisconnected, agConnecting, agDisconnecting, agConnected,
      agAudioConnecting, agAudioOn, agAudioDisconnecting, agDefault, agDefaultConnection,
      agTakeAudioDown, agTransitionTo, hsmTransitionTo, agOps, agReportOps, agEnter, agEnterReport,
      agExit, AgLink.setVirtualCallStarted, AgLink.notify, reduceCtorEq, if_true, if_false,
      false_and, true_and]
    (repeat' split) <;>
      simp_all [SetUpOk, GivesUp, virtualCallKept_iff, VirtualInv, virtualAudit]

theorem VirtualInv.agRetryCallback (env : HfpEnv) (h : VirtualInv m.link) :
    VirtualInv (agRetryCallback env m).link := by
  obtain ⟨⟨⟨cur, prev⟩, pending, started, told, timer, cnt, notes⟩, offload, destroyed⟩ := m
  simp only [HfpAudio.agRetryCallback]
  repeat' split
  all_goals simp_all [VirtualInv, agTransitionTo, hsmTransitionTo, agOps, agReportOps, agEnter,
    agEnterReport, agExit, AgLink.notify]

/-- **Virtual calls.** In a run of the gateway the flag is on only in the audio states and the
peer is told of every start and of its end exactly when no set-up of a virtual call's audio is
given up. -/
theorem virtual_call_kept_iff (offloading : Bool) (inputs : List (HfpEnv × HfpInput AgEvent)) :
    (∀ m ∈ Runs.visited agRole.step (agNew offloading) inputs, VirtualCallKept m.link)
      ↔ Runs.Guarded agRole.step (AgGuard fun _ => SetUpOk) (agNew offloading) inputs :=
  ag_forall_visited_iff (fun l (h : VirtualInv l) => h.kept)
    (fun env _ e h => agProcess_virtual env h e) (fun env _ h => h.agRetryCallback env)
    ⟨nofun, rfl⟩ inputs

/-- The audio of a virtual call cannot be connected: the call stays started while connected, and
no further one can be. -/
theorem failed_setUp_keeps_virtual_call :
    let m := Runs.after agRole.step (agNew false)
      [(.allWell, .link (.connectionStateChanged .connected false)),
        (.allWell, .link (.startVirtualCall true)),
        (.allWell, .link (.audioStateChanged .disconnected))]
    m.link.sm.current = .connected ∧ m.link.virtualCallStarted = true
      ∧ m.link.virtualTold = [true] ∧ ¬VirtualCallKept m.link := by
  refine ⟨by decide, by decide, by decide, fun h => ?_⟩
  exact absurd (h.inAudio (by decide)) (by decide)

end BtFramework.HfpAudio
