import BtFramework.BtAddress
import BtFramework.Runs

/-!
# Automatic reconnection

`connection_manager.c`: when a link is lost to a timeout, the manager connects the profiles of
the device again, HFP first, A2DP by a second timer. The handlers share two addresses, two flags
and two timers, and `Inv` ties them together. When the manager gives up, it clears the address
of the timer and then connects to it; the flags are cleared as well, so nothing is connected.
-/

namespace BtFramework.Cm

open Nat Runs

/-- `CM_RECONNECT_TIMES`. -/
def reconnectTimes : Nat := 60 * 30 * 1000 / 12000

abbrev DeviceAddress := { addr : BtAddress // addr ≠ 0 }

inductive Profile where
  | hfpHf | a2dpSink | other
deriving DecidableEq

/-- The profiles of the build. -/
structure Config where
  hfpHf : Bool
  a2dpSink : Bool

structure Env where
  hfpConnect : Bool
  hfpDisconnect : Bool
  timer : Bool
  bonded : List DeviceAddress

structure CmTimer where
  timer : Bool := false
  peerAddr : BtAddress := 0
  active : Bool := false
  retryTimes : Nat := 0

/-- The manager and the connects it has issued. `hfpFlag` and `a2dpFlag` are the bits of
`profile_flags`; `a2dpPending`: the loop has the timer of `a2dp_conn_timer`. -/
structure Manager where
  inited : Bool := false
  busy : Bool := false
  reconnectEnable : Bool := false
  connectA2dpFlag : Bool := false
  connectingAddr : BtAddress := 0
  hfpFlag : Bool := false
  a2dpFlag : Bool := false
  cmTimer : CmTimer := {}
  a2dpConnTimer : Bool := false
  a2dpPending : Bool := false
  connects : List (Profile × BtAddress) := []

namespace Manager

def stopTimer (t : CmTimer) : CmTimer := if !t.active then t else {}

def enableConn (m : Manager) : Manager :=
  { m with
    hfpFlag := false, a2dpFlag := false, cmTimer := stopTimer m.cmTimer
    connectA2dpFlag := false, busy := false }

def issue (m : Manager) (profile : Profile) (addr : BtAddress) : Manager :=
  { m with connects := m.connects ++ [(profile, addr)] }

def profileConnect (m : Manager) (cfg : Config) (env : Env) (addr : BtAddress) : Manager :=
  if m.hfpFlag && !m.connectA2dpFlag then
    let m := if cfg.hfpHf then m.issue .hfpHf addr else m
    if cfg.hfpHf && !env.hfpConnect then m
    else if !m.a2dpFlag then m
    else { m with
      connectA2dpFlag := true, connectingAddr := addr
      a2dpConnTimer := env.timer, a2dpPending := env.timer }
  else if m.a2dpFlag && cfg.a2dpSink then
    { m with connectA2dpFlag := false }.issue .a2dpSink addr
  else m

def cancelA2dp (m : Manager) : Manager :=
  { m with a2dpConnTimer := false, a2dpPending := false, connectingAddr := 0 }

def profileDisconnect (m : Manager) (cfg : Config) (env : Env) : Manager :=
  if cfg.hfpHf && !env.hfpDisconnect then m
  else if m.a2dpConnTimer then { m.cancelA2dp with connectA2dpFlag := false }
  else m

def profileFalgsSet (m : Manager) (cfg : Config) : Manager :=
  { m with hfpFlag := m.hfpFlag || cfg.hfpHf, a2dpFlag := m.a2dpFlag || cfg.a2dpSink }

def deviceConnect (m : Manager) (cfg : Config) (env : Env) (peerAddr : BtAddress) : Manager :=
  let m := { m with reconnectEnable := true }
  if m.busy then m
  else if peerAddr = 0 then
    match env.bonded.getLast? with
    | none => m
    | some addr => (m.profileFalgsSet cfg).profileConnect cfg env addr
  else (m.profileFalgsSet cfg).profileConnect cfg env peerAddr

def deviceDisconnect (m : Manager) (cfg : Config) (env : Env) (addr : BtAddress) : Manager :=
  (if m.cmTimer.peerAddr = addr then m.enableConn else m).profileDisconnect cfg env

def connected (m : Manager) (addr : BtAddress) (profile : Profile) : Manager :=
  if m.cmTimer.peerAddr ≠ addr then m
  else
    let m := match profile with
      | .hfpHf => { m with hfpFlag := false }
      | .a2dpSink => { m with a2dpFlag := false }.cancelA2dp
      | .other => m
    if !m.hfpFlag && !m.a2dpFlag then m.enableConn else m

def disconnected (m : Manager) (addr : BtAddress) (profile : Profile) : Manager :=
  if m.cmTimer.peerAddr = addr ∧ profile = .a2dpSink then m.cancelA2dp else m

def timeoutCb (m : Manager) (cfg : Config) (env : Env) : Manager :=
  if !m.cmTimer.timer || !m.cmTimer.active then m
  else
    let m := { m with cmTimer.retryTimes := m.cmTimer.retryTimes + 1 }
    let m := if m.cmTimer.retryTimes > reconnectTimes then m.enableConn else m
    m.profileConnect cfg env m.cmTimer.peerAddr

def connectA2dpCb (m : Manager) (cfg : Config) (env : Env) : Manager :=
  if !m.a2dpPending then m
  else { m with a2dpPending := false }.profileConnect cfg env m.connectingAddr

def processReconnection (m : Manager) (cfg : Config) (env : Env) (addr : DeviceAddress)
    (reason : Nat) : Manager :=
  if reason = 0x16 ∨ reason = 0x13 then if m.cmTimer.peerAddr = addr.1 then m.enableConn else m
  else if m.busy ∨ reason ≠ 0x08 then m
  else
    let m := { m with busy := true, hfpFlag := false, a2dpFlag := false }.profileFalgsSet cfg
    if m.cmTimer.active then m
    else
      { m with
        cmTimer := { m.cmTimer with active := true, peerAddr := addr.1, timer := env.timer } }
        |>.profileConnect cfg env addr

end Manager

inductive Event where
  | init
  | cleanup
  | deviceConnect (env : Env) (addr : BtAddress)
  | deviceDisconnect (env : Env) (addr : BtAddress)
  | connected (addr : BtAddress) (profile : Profile)
  | disconnected (addr : BtAddress) (profile : Profile)
  | aclDisconnected (env : Env) (addr : DeviceAddress) (reason : Nat)
  | timeout (env : Env)
  | a2dpTimeout (env : Env)

def Manager.step (cfg : Config) (m : Manager) : Event → Manager
  | .init => if m.inited then m else { m.enableConn with reconnectEnable := false, inited := true }
  | .cleanup => { m with inited := false }
  | .deviceConnect env addr => m.deviceConnect cfg env addr
  | .deviceDisconnect env addr => m.deviceDisconnect cfg env addr
  | .connected addr profile => m.connected addr profile
  | .disconnected addr profile => m.disconnected addr profile
  | .aclDisconnected env addr reason =>
    if m.reconnectEnable then m.processReconnection cfg env addr reason else m
  | .timeout env => m.timeoutCb cfg env
  | .a2dpTimeout env => m.connectA2dpCb cfg env

/-- The manager, and how often it has tried. -/
structure Watched where
  manager : Manager := {}
  attempts : Nat := 0

def Watched.step (cfg : Config) (s : Watched) (e : Event) : Watched where
  manager := s.manager.step cfg e
  attempts :=
    if !s.manager.cmTimer.active && (s.manager.step cfg e).cmTimer.active then 0
    else
      match e with
      | .timeout _ =>
        if (s.manager.step cfg e).connects ≠ s.manager.connects then s.attempts + 1
        else s.attempts
      | _ => s.attempts

/-! ## The invariant -/

namespace Manager

structure Sound (busy : Bool) (t : CmTimer) (connectingAddr : BtAddress) (a2dpPending : Bool)
    (connects : List (Profile × BtAddress)) : Prop where
  busy : busy = t.active
  idle : t.active = false → t.retryTimes = 0
  bound : t.retryTimes ≤ reconnectTimes
  peer : t.active = true → t.peerAddr ≠ 0
  connecting : a2dpPending = true → connectingAddr ≠ 0
  issued : ∀ c ∈ connects, c.2 ≠ 0

def Inv (m : Manager) : Prop :=
  Sound m.busy m.cmTimer m.connectingAddr m.a2dpPending m.connects

structure Next (m m' : Manager) : Prop where
  inv : m'.Inv
  grows : m.cmTimer.active = true → m'.cmTimer.active = true →
    m.cmTimer.retryTimes ≤ m'.cmTimer.retryTimes

variable {m m' : Manager} {cfg : Config} {env : Env} {addr : BtAddress}

theorem Inv.next (h : m'.Inv) (ht : m'.cmTimer = m.cmTimer) : Next m m' :=
  ⟨h, fun _ _ => ht ▸ Nat.le_refl _⟩

theorem enableConn_active : m.enableConn.cmTimer.active = false := by
  cases h : m.cmTimer.active <;> simp [enableConn, stopTimer, h]

theorem Inv.enableConn (h : m.Inv) : Next m m.enableConn where
  inv := by
    unfold Inv Manager.enableConn stopTimer
    split
    next hidle => exact { h with busy := by simp_all }
    · exact ⟨rfl, fun _ => rfl, zero_le _, nofun, h.connecting, h.issued⟩
  grows _ ha := absurd (enableConn_active.symm.trans ha) Bool.false_ne_true

theorem Inv.cancelA2dp (h : m.Inv) : m.cancelA2dp.Inv := { h with connecting := nofun }

theorem Inv.issue (h : m.Inv) (haddr : addr ≠ 0) (profile : Profile) : (m.issue profile addr).Inv :=
  { h with issued := List.forall_mem_append.mpr ⟨h.issued, List.forall_mem_singleton.mpr haddr⟩ }

theorem Inv.profileConnect (h : m.Inv) (cfg : Config) (env : Env) (haddr : addr ≠ 0) :
    (m.profileConnect cfg env addr).Inv ∧ (m.profileConnect cfg env addr).cmTimer = m.cmTimer := by
  unfold Manager.profileConnect
  split
  · have hissue : (if cfg.hfpHf then m.issue .hfpHf addr else m).Inv
        ∧ (if cfg.hfpHf then m.issue .hfpHf addr else m).cmTimer = m.cmTimer := by
      split
      · exact ⟨h.issue haddr _, rfl⟩
      · exact ⟨h, rfl⟩
    generalize (if cfg.hfpHf then m.issue .hfpHf addr else m) = m₁ at hissue
    dsimp only
    split
    · exact hissue
    split
    · exact hissue
    · exact ⟨{ hissue.1 with connecting := fun _ => haddr }, hissue.2⟩
  split
  · exact ⟨h.issue haddr _, rfl⟩
  · exact ⟨h, rfl⟩

theorem Inv.step_next (h : m.Inv) {e : Event} (he : ∀ env, e ≠ .timeout env) :
    Next m (m.step cfg e) := by
  cases e with
  | timeout env => exact absurd rfl (he env)
  | init =>
    simp only [Manager.step]
    split
    · exact h.next rfl
    · exact ⟨h.enableConn.inv, h.enableConn.grows⟩
  | cleanup => exact next h rfl
  | deviceConnect env addr =>
    have hconnect : ∀ a : BtAddress, a ≠ 0 → Next m ((profileFalgsSet
        { m with reconnectEnable := true } cfg).profileConnect cfg env a) := fun a ha =>
      (profileConnect
        (m := profileFalgsSet { m with reconnectEnable := true } cfg) h cfg env ha).elim next
    simp only [Manager.step, deviceConnect]
    split
    · exact next h rfl
    split
    · split
      · exact next h rfl
      next bonded _ => exact hconnect bonded.1 bonded.2
    next hne => exact hconnect addr hne
  | deviceDisconnect env addr =>
    have hfirst : Next m (if m.cmTimer.peerAddr = addr then m.enableConn else m) := by
      split
      · exact h.enableConn
      · exact h.next rfl
    simp only [Manager.step, deviceDisconnect, profileDisconnect]
    generalize (if m.cmTimer.peerAddr = addr then m.enableConn else m) = m₁ at hfirst
    split
    · exact hfirst
    split
    · exact ⟨hfirst.inv.cancelA2dp, hfirst.grows⟩
    · exact hfirst
  | connected addr profile =>
    have hend : ∀ m₁ : Manager, m₁.Inv → m₁.cmTimer = m.cmTimer →
        Next m (if !m₁.hfpFlag && !m₁.a2dpFlag then m₁.enableConn else m₁) := by
      intro m₁ h₁ ht
      split
      · exact ⟨h₁.enableConn.inv, ht ▸ h₁.enableConn.grows⟩
      · exact h₁.next ht
    simp only [Manager.step, Manager.connected]
    split
    · exact h.next rfl
    cases profile with
    | hfpHf => exact hend _ h rfl
    | a2dpSink => exact hend _ h.cancelA2dp rfl
    | other => exact hend m h rfl
  | disconnected addr profile =>
    simp only [Manager.step, Manager.disconnected]
    split
    · exact h.cancelA2dp.next rfl
    · exact h.next rfl
  | aclDisconnected env addr reason =>
    simp only [Manager.step, processReconnection]
    split
    · split
      · split
        · exact h.enableConn
        · exact h.next rfl
      split
      · exact h.next rfl
      next hidle =>
        have hactive : m.cmTimer.active = false := by
          rw [← Sound.busy h]
          simp_all
        rw [if_neg (by simp [profileFalgsSet, hactive])]
        refine ⟨(profileConnect ?_ cfg env addr.2).1,
          fun ha => absurd (hactive.symm.trans ha) nofun⟩
        obtain ⟨-, -, hbound, -, hconnecting, hissued⟩ := h
        exact ⟨rfl, nofun, hbound, fun _ => addr.2, hconnecting, hissued⟩
    · exact h.next rfl
  | a2dpTimeout env =>
    simp only [Manager.step, connectA2dpCb]
    split
    · exact h.next rfl
    next hpending =>
      refine (profileConnect ?_ cfg env (Sound.connecting h (by simpa using hpending))).elim next
      exact { h with connecting := nofun }

theorem Inv.timeoutCb (h : m.Inv) :
    Next m (m.timeoutCb cfg env) ∧ ((m.timeoutCb cfg env).connects ≠ m.connects →
      m.cmTimer.active = true ∧ (m.timeoutCb cfg env).cmTimer.active = true
        ∧ m.cmTimer.retryTimes < (m.timeoutCb cfg env).cmTimer.retryTimes) := by
  obtain ⟨hbusy, hidle, hbound, hpeer, hconnecting, hissued⟩ := h
  unfold Manager.timeoutCb
  split
  · exact ⟨next ⟨hbusy, hidle, hbound, hpeer, hconnecting, hissued⟩ rfl, fun hne => absurd rfl hne⟩
  next hfires =>
    have hactive : m.cmTimer.active = true := by simp_all
    dsimp only
    split
    · -- giving up clears the flags with the address
      simp only [Manager.enableConn, Manager.profileConnect, stopTimer, hactive]
      exact ⟨⟨⟨rfl, fun _ => rfl, zero_le _, nofun, hconnecting, hissued⟩, nofun⟩,
        fun hne => absurd rfl hne⟩
    next hle =>
      have hinv : Inv { m with cmTimer.retryTimes := m.cmTimer.retryTimes + 1 } :=
        ⟨hbusy, fun hno => absurd (hactive.symm.trans hno) nofun, Nat.le_of_not_lt hle, hpeer,
          hconnecting, hissued⟩
      obtain ⟨hinv, htimer⟩ := hinv.profileConnect cfg env (hpeer hactive)
      have hcount := lt_of_lt_of_eq (lt_succ_self _) (congrArg CmTimer.retryTimes htimer).symm
      exact ⟨⟨hinv, fun _ _ => Nat.le_of_lt hcount⟩,
        fun _ => ⟨hactive, (congrArg CmTimer.active htimer).trans hactive, hcount⟩⟩

end Manager

/-! ## The attempts -/

structure Watched.Inv (s : Watched) : Prop where
  manager : s.manager.Inv
  bound : s.attempts ≤ reconnectTimes
  counted : s.manager.cmTimer.active = true → s.attempts ≤ s.manager.cmTimer.retryTimes

theorem Watched.Inv.step {cfg : Config} {s : Watched} (h : s.Inv) (e : Event) :
    (s.step cfg e).Inv := by
  have hnext : Manager.Next s.manager (s.manager.step cfg e)
      ∧ ((∃ env, e = .timeout env) → (s.manager.step cfg e).connects ≠ s.manager.connects →
        s.manager.cmTimer.active = true ∧ (s.manager.step cfg e).cmTimer.active = true
          ∧ s.manager.cmTimer.retryTimes < (s.manager.step cfg e).cmTimer.retryTimes) := by
    cases e with
    | timeout env => exact h.manager.timeoutCb.imp_right fun hcounts _ => hcounts
    | _ => exact ⟨h.manager.step_next nofun, nofun⟩
  obtain ⟨⟨hinv, hgrows⟩, hcounts⟩ := hnext
  have hbound : (s.manager.step cfg e).cmTimer.retryTimes ≤ reconnectTimes := hinv.bound
  have := h.counted
  have := h.bound
  refine ⟨hinv, ?_, fun hactive => ?_⟩
  · simp only [Watched.step]
    grind
  · simp only [Watched.step] at hactive ⊢
    grind

/-- **Reconnection is bounded.** The manager is busy exactly while the reconnect timer is active,
which makes at most `CM_RECONNECT_TIMES` attempts, and no profile is connected to the empty
address. -/
theorem reconnection_bounded (cfg : Config) (es : List Event) :
    ∀ s ∈ visited (Watched.step cfg) {} es, s.manager.busy = s.manager.cmTimer.active
      ∧ s.attempts ≤ reconnectTimes ∧ ∀ c ∈ s.manager.connects, c.2 ≠ 0 := by
  intro s hs
  have hinit : Watched.Inv {} := ⟨⟨rfl, fun _ => rfl, zero_le _, nofun, nofun, nofun⟩,
    zero_le _, nofun⟩
  have h : s.Inv := Guarded.invariant (fun _ e h _ => h.step e) hinit guarded_true s hs
  exact ⟨h.manager.busy, h.bound, h.manager.issued⟩

def plainEnv : Env := ⟨true, true, true, []⟩

def lostLink : List Event :=
  [.init, .deviceConnect plainEnv 1, .aclDisconnected plainEnv ⟨1, by decide⟩ 0x08,
    .timeout plainEnv, .timeout plainEnv]

theorem lost_link_attempts :
    (after (Watched.step ⟨true, true⟩) {} lostLink).attempts = 2
      ∧ (after (Watched.step ⟨true, true⟩) {} lostLink).attempts ≤ reconnectTimes :=
  ⟨by decide, (reconnection_bounded ⟨true, true⟩ lostLink _ after_mem_visited).2.1⟩

end BtFramework.Cm
