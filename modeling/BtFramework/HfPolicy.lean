import BtFramework.HfpOffload

/-!
# The connection policy of the hands-free unit

`check_hfp_allowed` is asked where a connection is requested and where the peer's attempt is
announced. It is not asked by the retry timer's callback, nor where a connection is complete.
-/

namespace BtFramework.HfpAudio

variable {env : HfpEnv} {m : HfMachine}

/-- Whether the step calls `bt_sal_hfp_hf_connect`. -/
def issuesConnect (m : HfMachine) : HfpInput HfEvent → Bool
  | .link .connect => !m.destroyed && m.link.sm.current == .disconnected && !m.link.forbidden
  | .retry => !m.destroyed && m.link.retryTimer && m.link.sm.current == .disconnected
  | _ => false

def Enters (m m' : HfMachine) : Prop :=
  m'.link.sm.current ≠ m.link.sm.current
    ∧ (m'.link.sm.current = .connecting ∨ m'.link.sm.current = .connected)
deriving Decidable

/-- With the policy forbidden, the step issues no outgoing connection and enters neither the
connecting nor the connected state. -/
def Respects (m : HfMachine) (input : HfpEnv × HfpInput HfEvent) : Prop :=
  m.link.forbidden = true →
    issuesConnect m input.2 = false ∧ ¬Enters m (hfRole.step m input)
deriving Decidable

/-- The events that take a machine into the connected state whatever its policy. -/
def Admits (m : HfMachine) : HfEvent → Prop
  | .connectionStateChanged .connected _ =>
    m.link.sm.current = .disconnected ∨ m.link.sm.current = .connecting
  | .audioStateChanged .disconnected => m.link.sm.current = .audioOn
  | _ => False

/-- What must not happen while the policy is forbidden: the stack completes a connection,
call audio ends, or a retry is due. -/
def PolicyOk (m : HfMachine) (input : HfpEnv × HfpInput HfEvent) : Prop :=
  m.link.forbidden = true → m.destroyed = false →
    match input.2 with
    | .link e => ¬Admits m e
    | .retry => m.link.retryTimer = true → m.link.sm.current ≠ .disconnected
    | _ => True

theorem not_enters_of_sm {m' : HfMachine} (h : m'.link.sm = m.link.sm) : ¬Enters m m' :=
  fun hin => hin.1 (congrArg StateMachine.current h)

theorem processOffload_sm (e : OffloadEvent) :
    (hfRole.processOffload env m e).link.sm = m.link.sm := by
  unfold Role.processOffload
  split
  · split
    · exact tryDisconnectAudio_sm
    · rfl
  · rfl

/-- With the policy forbidden, exactly the admitting events lead into the two states. -/
theorem enters_hfProcess_iff (env : HfpEnv) (hpolicy : m.link.forbidden = true) (e : HfEvent) :
    Enters m (hfProcess env m e) ↔ Admits m e := by
  cases e with
  | setPolicy forbidden => exact iff_of_false (not_enters_of_sm rfl) id
  | connectAudio =>
    -- a failing request is reported and nothing else
    cases hcur : m.link.sm.current <;> cases haudio : env.audio <;>
      simp [hfProcess, hfDisconnected, hfConnecting, hfConnected, hfAudioOn, Admits, Enters, hcur,
        haudio, HfLink.notify]
  | connectionStateChanged state | audioStateChanged state =>
    cases state <;> cases hcur : m.link.sm.current <;>
      simp [hfProcess, hfDisconnected, hfConnecting, hfConnected, hfAudioOn, Admits, Enters, hcur,
        hpolicy, hfTransitionTo_current]
  | _ =>
    cases hcur : m.link.sm.current <;>
      simp [hfProcess, hfDisconnected, hfConnecting, hfConnected, hfAudioOn, Admits, Enters, hcur,
        hpolicy, hfTransitionTo_current]

/-- **Step lemma.** -/
theorem respects_iff (input : HfpEnv × HfpInput HfEvent) :
    Respects m input ↔ PolicyOk m input := by
  obtain ⟨env, input⟩ := input
  refine imp_congr_right fun hpolicy => ?_
  cases hlive : m.destroyed with
  | true =>
    have hstay : hfRole.step m (env, input) = m := by rw [Role.step, hlive]; rfl
    rw [hstay]
    have hnone : issuesConnect m input = false := by
      unfold issuesConnect
      split <;> simp [hlive]
    simp [hnone, not_enters_of_sm]
  | false =>
    have hlive : ¬m.destroyed = true := by simp [hlive]
    cases input with
    | link e =>
      have hnone : issuesConnect m (.link e) = false := by
        cases e <;> simp [issuesConnect, hpolicy]
      have hiff := enters_hfProcess_iff env hpolicy e
      rw [Role.step, if_neg hlive]
      exact ⟨fun h _ => mt hiff.mpr h.2, fun h => ⟨hnone, mt hiff.mp (h rfl)⟩⟩
    | retry =>
      have hissues : issuesConnect m .retry = false
          ↔ (m.link.retryTimer = true → m.link.sm.current ≠ .disconnected) := by
        simp [issuesConnect, hlive]
      refine ⟨fun h _ => hissues.mp h.1, fun h => ⟨hissues.mpr (h rfl), ?_⟩⟩
      rw [Role.step, if_neg hlive]
      refine not_enters_of_sm ?_
      show (hfRetryCallback env m).link.sm = _
      unfold hfRetryCallback
      split
      next htimer => rw [if_neg fun hcur => h rfl htimer hcur.1]
      · rfl
    | delete =>
      refine iff_of_true ⟨rfl, ?_⟩ fun _ => trivial
      have hleave := mt (enters_hfProcess_iff env hpolicy .disconnect).mp id
      rw [Role.step, if_neg hlive]
      exact hleave
    | message =>
      refine iff_of_true ⟨rfl, not_enters_of_sm ?_⟩ fun _ => trivial
      rw [Role.step, if_neg hlive]
      dsimp only
      split
      · rfl
      · exact processOffload_sm _
    | timer t =>
      refine iff_of_true ⟨rfl, not_enters_of_sm ?_⟩ fun _ => trivial
      rw [Role.step, if_neg hlive]
      dsimp only
      split
      · exact processOffload_sm _
      · rfl
    | startReq | stopReq =>
      refine iff_of_true ⟨rfl, not_enters_of_sm ?_⟩ fun _ => trivial
      rw [Role.step, if_neg hlive]
      exact processOffload_sm _
    | hciResult success =>
      refine iff_of_true ⟨rfl, not_enters_of_sm ?_⟩ fun _ => trivial
      rw [Role.step, if_neg hlive]

/-- **The policy.** A run respects the policy exactly when, while it is forbidden, the stack
completes no connection, no call audio ends and no armed retry comes due in the disconnected
state. -/
theorem policy_respected_iff (offloading : Bool) (inputs : List (HfpEnv × HfpInput HfEvent)) :
    Runs.Guarded hfRole.step Respects (hfNew offloading) inputs
      ↔ Runs.Guarded hfRole.step PolicyOk (hfNew offloading) inputs := by
  have hiff : ∀ m input, True → True → (Respects m input ↔ PolicyOk m input) :=
    fun _ input _ _ => respects_iff input
  exact Runs.guarded_true.guarded_congr (fun _ _ _ _ => trivial) hiff trivial

/-- A collision arms the retry, the policy becomes forbidden, and the retry connects. -/
theorem retry_connects_forbidden :
    ¬Runs.Guarded hfRole.step Respects (hfNew false)
      [(.allWell, .link .connect),
        (.allWell, .link (.connectionStateChanged .disconnected true)),
        (.allWell, .link (.setPolicy true)), (.allWell, .retry)] := by
  decide

end BtFramework.HfpAudio
