import BtFramework.PowerManager
import BtFramework.Runs

/-!
# Services and the power mode of their link

`pm_prefer_config` reports the greatest power mode that the services of the device prefer. The
check that is to drop a service when its profile closes reads the first row of the profile's
table in place of the row of the state: no service is ever dropped.
-/

namespace BtFramework.Pm

open List
open Runs (Guarded after)

def Service.prefers (s : Service) : PreferMode :=
  (specOf s.profileId).elim .noAction fun table => (table.actnTbl s.state).powerMode

namespace Manager

/-! ## The greatest mode -/

def Preference.From (p : Preference) (s : Service) : Prop :=
  p.id = s.profileId ∧ (specOf s.profileId).map (fun table =>
    (table.actnTbl s.state, table.allowMask)) = some (⟨p.powerMode, p.timeout⟩, p.allowMask)

/-- `p` has the greatest mode preferred on the link, that of the reporting profile where it can. -/
structure Greatest (addr : BtAddress) (profileId : ProfileId) (services : List Service)
    (p : Preference) : Prop where
  bound : ∀ s ∈ services, s.peerAddr = addr → s.prefers.value ≤ p.powerMode.value
  attained : p.powerMode = .noAction ∨ p.ret = true ∧ ∃ s ∈ services, s.peerAddr = addr ∧ p.From s
  requested : (∃ s ∈ services, s.key = (profileId, addr) ∧ s.prefers = p.powerMode) →
    p.id = profileId

variable {addr : BtAddress} {profileId : ProfileId} {services rest : List Service}
  {p : Preference} {s : Service} {table : SpecTable}

theorem Greatest.take (h : Greatest addr profileId services p) (haddr : s.peerAddr = addr)
    (htable : specOf s.profileId = some table) :
    Greatest addr profileId (services ++ [s]) (p.take profileId s table) := by
  have hs : s.prefers = (table.actnTbl s.state).powerMode := by
    rw [Service.prefers, htable]
    rfl
  rw [Preference.take]
  split
  next hbetter =>
    have hle : p.powerMode.value ≤ (table.actnTbl s.state).powerMode.value := by
      rcases hbetter with hlt | ⟨heq, -⟩
      · exact Nat.le_of_lt hlt
      · exact heq ▸ Nat.le_refl _
    refine ⟨?_, .inr ⟨rfl, s, by simp, haddr, rfl, by rw [htable]; rfl⟩, ?_⟩
    · rw [Keyed.forall_mem_concat]
      exact ⟨fun t ht hta => Nat.le_trans (h.bound t ht hta) hle, fun _ => hs ▸ Nat.le_refl _⟩
    · rintro ⟨t, ht, hkey, hmode⟩
      obtain ⟨hid, hta⟩ := Prod.mk.inj hkey
      rcases hbetter with hlt | ⟨-, heq⟩
      · rcases mem_append.mp ht with ht | ht
        · -- a service before this one has a smaller mode
          have := h.bound t ht hta
          rw [hmode] at this
          dsimp only at this
          omega
        · rw [← mem_singleton.mp ht]
          exact hid
      · exact heq
  next hnot =>
    rw [not_or, Nat.not_lt, not_and] at hnot
    refine ⟨?_, h.attained.imp_right fun ⟨hret, t, ht, hp⟩ => ⟨hret, t, by simp [ht], hp⟩, ?_⟩
    · rw [Keyed.forall_mem_concat]
      exact ⟨h.bound, fun _ => by rw [hs]; exact hnot.1⟩
    · rintro ⟨t, ht, hkey, hmode⟩
      rcases mem_append.mp ht with ht | ht
      · exact h.requested ⟨t, ht, hkey, hmode⟩
      · rw [mem_singleton.mp ht] at hkey hmode
        exact absurd (Prod.mk.inj hkey).1 (hnot.2 (hs.symm.trans hmode))

theorem Greatest.skip (h : Greatest addr profileId services p) (haddr : s.peerAddr ≠ addr) :
    Greatest addr profileId (services ++ [s]) p := by
  refine ⟨?_, h.attained.imp_right fun ⟨hret, t, ht, hp⟩ => ⟨hret, t, by simp [ht], hp⟩, ?_⟩
  · rw [Keyed.forall_mem_concat]
    exact ⟨h.bound, fun ha => absurd ha haddr⟩
  · rintro ⟨t, ht, hkey, hmode⟩
    rcases mem_append.mp ht with ht | ht
    · exact h.requested ⟨t, ht, hkey, hmode⟩
    · rw [mem_singleton.mp ht] at hkey
      exact absurd (Prod.mk.inj hkey).2 haddr

theorem greatest_preferLoop (services : List Service) (h : Greatest addr profileId services p)
    (hdone : (preferLoop addr profileId rest p).1 = true) :
    Greatest addr profileId (services ++ rest) (preferLoop addr profileId rest p).2 := by
  induction rest generalizing services p with
  | nil => simpa [preferLoop] using h
  | cons s rest ih =>
    rw [append_cons]
    rw [preferLoop] at hdone ⊢
    split at hdone
    next haddr =>
      rw [if_pos haddr]
      exact ih _ (h.skip haddr) hdone
    next haddr =>
      rw [if_neg haddr]
      cases htable : specOf s.profileId with
      | none => simp [htable] at hdone
      | some table =>
        rw [htable] at hdone
        exact ih _ (h.take (not_not.mp haddr) htable) hdone

theorem preferLoop_managed (h : ∀ s ∈ rest, (specOf s.profileId).isSome) :
    (preferLoop addr profileId rest p).1 = true := by
  induction rest generalizing p with
  | nil => rfl
  | cons s rest ih =>
    obtain ⟨hs, hrest⟩ := forall_mem_cons.mp h
    obtain ⟨table, htable⟩ := Option.isSome_iff_exists.mp hs
    rw [preferLoop, htable]
    split <;> exact ih hrest

theorem preferLoop_filter :
    preferLoop addr profileId (rest.filter (·.peerAddr = addr)) p
      = preferLoop addr profileId rest p := by
  induction rest generalizing p with
  | nil => rfl
  | cons s rest ih => by_cases h : s.peerAddr = addr <;> simp [preferLoop, h, ih]

def preference (m : Manager) (addr : BtAddress) (profileId : ProfileId) : Bool × Preference :=
  ((m.pmPreferConfig addr profileId).1, (m.pmPreferConfig addr profileId).2.1)

/-- The mode reported depends on the services of the device alone. -/
theorem prefer_config_greatest (m : Manager) (addr : BtAddress) (profileId : ProfileId)
    (h : ∀ s ∈ m.services, (specOf s.profileId).isSome) :
    Greatest addr profileId m.services (m.preference addr profileId).2
      ∧ (m.preference addr profileId).1 = (m.preference addr profileId).2.ret
      ∧ ∀ m' : Manager,
        m'.services.filter (·.peerAddr = addr) = m.services.filter (·.peerAddr = addr) →
        m'.preference addr profileId = m.preference addr profileId := by
  have hdone : (preferLoop addr profileId m.services .start).1 = true := preferLoop_managed h
  refine ⟨?_, by simp [preference, pmPreferConfig, hdone], fun m' heq => ?_⟩
  · exact greatest_preferLoop [] ⟨nofun, .inl rfl, nofun⟩ hdone
  · simp only [preference, pmPreferConfig]
    rw [← preferLoop_filter, heq, preferLoop_filter]

/-- A headset in a call and, of another device, a keyboard. -/
theorem call_and_keyboard_greatest :
    let m := { init 1 with services :=
      [⟨.avrcpCt, .connOpen, 1⟩, ⟨.hidDev, .connIdle, 2⟩, ⟨.hfpHf, .scoOpen, 1⟩] }
    Greatest 1 .avrcpCt m.services (m.preference 1 .avrcpCt).2
      ∧ m.preference 1 .avrcpCt = (true, ⟨.active, 0x10, 0, .hfpHf, true⟩) :=
  ⟨(prefer_config_greatest _ 1 .avrcpCt (by decide)).1, by decide⟩

/-! ## Sniff requests -/

def Idle (services : List Service) (call : BtAddress × Mode) : Prop :=
  call.2.mode = .sniff → ∀ s ∈ services, s.peerAddr = call.1 → s.prefers ≠ .active

def newCalls (m : Manager) (e : Event) : List (BtAddress × Mode) :=
  (m.step e).setPowerModes.drop m.setPowerModes.length

/-- Sniff mode is asked for only where no service prefers ACTIVE. -/
def SniffsIdle (m : Manager) (e : Event) : Prop :=
  ∀ call ∈ m.newCalls e, Idle (m.step e).services call

/-- The forced change of the sniff parameters, on a link that a service wants active. -/
def Forced (m : Manager) : Event → Prop
  | .linkModeChanged _ addr .active _ => ∃ device ∈ m.pmConnDeviceFind addr,
      device.immediateSniffSwitch = true ∧ device.appPreferredSniffParams.mode = .sniff
        ∧ ∃ s ∈ m.services, s.peerAddr = addr ∧ s.prefers = .active
  | _ => False

def Switches (m : Manager) (e : Event) : Prop :=
  ∃ env addr interval, e = .linkModeChanged env addr .active interval
    ∧ ∃ device, m.pmConnDeviceFind addr = some device ∧ device.immediateSniffSwitch = true

def recorded (m : Manager) : Event → List Service
  | .profile env state profileId addr =>
    (m.register env.calloc state profileId addr).elim m.services (·.services)
  | _ => m.services

structure Asks (ok : BtAddress × Mode → Prop) (m m' : Manager) : Prop where
  services : m'.services = m.services
  calls : m'.setPowerModes = m.setPowerModes
    ∨ ∃ call, m'.setPowerModes = m.setPowerModes ++ [call] ∧ ok call

variable {m m' : Manager} {env : Env} {ok : BtAddress × Mode → Prop}

theorem asks_pmRequestActive : Asks (·.2.mode ≠ .sniff) m (m.pmRequestActive env addr) := by
  unfold pmRequestActive
  split
  · exact ⟨rfl, .inl rfl⟩
  split
  · exact ⟨rfl, .inl rfl⟩
  split <;> exact ⟨rfl, .inr ⟨_, rfl, nofun⟩⟩

theorem asks_pmRequestSniff {index : Fin 7} :
    Asks (·.1 = addr) m (m.pmRequestSniff addr index profileId) := by
  unfold pmRequestSniff
  split
  · exact ⟨rfl, .inl rfl⟩
  next device _ =>
    dsimp only
    generalize (if profileId = .spp then device.appPreferredSniffParams else pmMode index) = mode
    split
    · exact ⟨rfl, .inl rfl⟩
    · exact ⟨rfl, .inr ⟨(addr, mode), rfl, rfl⟩⟩

theorem Asks.imp {ok' : BtAddress × Mode → Prop} (h : Asks ok m m')
    (himp : ∀ call, ok call → ok' call) :
    Asks ok' m m' :=
  ⟨h.services, h.calls.imp_right fun ⟨call, heq, hok⟩ => ⟨call, heq, himp call hok⟩⟩

theorem asks_pmModeRequest {req : Request} :
    Asks (Idle m.services) m (m.pmModeRequest env addr req profileId) := by
  unfold pmModeRequest
  split
  · exact ⟨rfl, .inl rfl⟩
  split
  next hpref =>
    simp only [pmPreferConfig, Prod.mk.injEq] at hpref
    rw [← hpref.2.2]
    exact ⟨rfl, .inl rfl⟩
  next p m₁ hpref =>
    have hgreatest : Greatest addr profileId m.services p := by
      have h : (m.preference addr profileId).1 = true →
          Greatest addr profileId m.services (m.preference addr profileId).2 := fun h =>
        greatest_preferLoop [] ⟨nofun, .inl rfl, nofun⟩ (Bool.and_eq_true_iff.mp h).1
      rw [preference, hpref] at h
      exact h rfl
    have hm₁ : m₁.services = m.services ∧ m₁.setPowerModes = m.setPowerModes := by
      simp only [pmPreferConfig, Prod.mk.injEq] at hpref
      rw [← hpref.2.2]
      exact ⟨rfl, rfl⟩
    have hfrom : ∀ {ok m'}, Asks ok m₁ m' → Asks ok m m' := fun h =>
      ⟨h.services.trans hm₁.1, hm₁.2 ▸ h.calls⟩
    split
    · exact hfrom ⟨rfl, .inl rfl⟩
    split
    · exact hfrom (asks_pmRequestActive.imp fun _ hne hsniff => absurd hsniff hne)
    next index hmode =>
      refine hfrom (asks_pmRequestSniff.imp fun call hcall _ s hs haddr hactive => ?_)
      -- ACTIVE is greater than every sniff mode
      have hbound := hgreatest.bound s hs (haddr.trans hcall)
      rw [hactive, hmode] at hbound
      simp only [PreferMode.value] at hbound
      omega
    · exact hfrom ⟨rfl, .inl rfl⟩
    · split
      · unfold pmStartTimer
        split <;> exact hfrom ⟨rfl, .inl rfl⟩
      · exact hfrom ⟨rfl, .inl rfl⟩

theorem pmConnDeviceFind_writeDevice {device : Device} {f : Device → Device}
    (h : m.pmConnDeviceFind addr = some device) (hf : (f device).peerAddr = device.peerAddr) :
    (m.writeDevice addr f).pmConnDeviceFind addr = some (f device) := by
  have haddr := List.find?_some h
  have hfind := Keyed.find?_lookmap (f := f) h (by rwa [hf])
  simp only [decide_eq_true_eq] at hfind
  exact hfind

theorem newCalls_forced {device : Device} (env : Env) (interval : Nat)
    (h : m.pmConnDeviceFind addr = some device) (hswitch : device.immediateSniffSwitch = true) :
    m.newCalls (.linkModeChanged env addr .active interval)
        = [(addr, device.appPreferredSniffParams)]
      ∧ (m.step (.linkModeChanged env addr .active interval)).services = m.services := by
  have h₁ := pmConnDeviceFind_writeDevice (f := ({ · with
    interval, mode := .active, pendingActive := false })) h rfl
  have h₂ := pmConnDeviceFind_writeDevice (f := ({ · with requestTimer := false }))
    (m := (m.writeDevice addr _).pmStopTimer addr) h₁ rfl
  have h₃ := pmConnDeviceFind_writeDevice (f := ({ · with immediateSniffSwitch := false })) h₂ rfl
  simp only [newCalls, step, btPmRemoteLinkModeChanged, h, hswitch, if_true, pmRequestSniff, h₃]
  exact ⟨drop_left, rfl⟩

theorem step_asks (e : Event) (h : ¬Switches m e) :
    ∃ m₀ : Manager, m₀.setPowerModes = m.setPowerModes ∧ m₀.services = m.recorded e
      ∧ Asks (Idle m₀.services) m₀ (m.step e) := by
  cases e with
  | profile env state profileId addr =>
    simp only [step, btPmHanldeCallback, recorded]
    cases hreg : m.register env.calloc state profileId addr with
    | none => exact ⟨m, rfl, rfl, rfl, .inl rfl⟩
    | some m₁ =>
      obtain ⟨_, -, rfl⟩ := Option.map_eq_some_iff.mp hreg
      refine ⟨_, ?_, ?_, asks_pmModeRequest⟩ <;> rfl
  | timeout env i =>
    simp only [step, pmTimeoutCallback]
    split
    · exact ⟨m, rfl, rfl, rfl, .inl rfl⟩
    split
    · exact ⟨m, rfl, rfl, rfl, .inl rfl⟩
    · refine ⟨_, ?_, ?_, asks_pmModeRequest⟩ <;> rfl
  | linkModeChanged env addr mode interval =>
    simp only [step, btPmRemoteLinkModeChanged]
    split
    · exact ⟨m, rfl, rfl, rfl, .inl rfl⟩
    next device hfind =>
      cases mode with
      | sniff | unknown => exact ⟨m, rfl, rfl, rfl, .inl rfl⟩
      | active =>
        rw [if_neg fun hs => h ⟨env, addr, interval, rfl, device, hfind, hs⟩]
        refine ⟨_, ?_, ?_, asks_pmModeRequest⟩ <;> rfl
  | requestTimeout i => exact ⟨m, rfl, rfl, rfl, .inl rfl⟩
  | deviceConnected zalloc addr => cases zalloc <;> exact ⟨m, rfl, rfl, rfl, .inl rfl⟩
  | deviceDisconnected addr =>
    simp only [step, btPmRemoteDeviceDisconnected]
    split <;> exact ⟨m, rfl, rfl, rfl, .inl rfl⟩
  | setAppSniff env addr params =>
    simp only [step, btPmSetAppProfileSniff]
    split
    · exact ⟨m, rfl, rfl, rfl, .inl rfl⟩
    split
    · exact ⟨m, rfl, rfl, rfl, .inl rfl⟩
    · refine ⟨_, ?_, ?_, asks_pmRequestActive.imp fun _ hne hsniff => absurd hsniff hne⟩ <;> rfl

theorem services_step (m : Manager) (e : Event) : (m.step e).services = m.recorded e := by
  by_cases hswitch : Switches m e
  · obtain ⟨env, addr, interval, rfl, device, hfind, hs⟩ := hswitch
    exact (newCalls_forced env interval hfind hs).2
  · obtain ⟨m₀, -, hrec, hasks⟩ := step_asks e hswitch
    exact hasks.services.trans hrec

theorem sniffsIdle_iff (m : Manager) (e : Event) : SniffsIdle m e ↔ ¬Forced m e := by
  by_cases hswitch : Switches m e
  · obtain ⟨env, addr, interval, rfl, device, hfind, hs⟩ := hswitch
    obtain ⟨hcalls, hservices⟩ := newCalls_forced env interval hfind hs
    simp [SniffsIdle, hcalls, hservices, Idle, Forced, hfind, hs]
  · refine iff_of_true ?_ ?_
    · obtain ⟨m₀, hm₀, -, hasks⟩ := step_asks e hswitch
      intro call hcall
      rw [newCalls, ← hm₀] at hcall
      rcases hasks.calls with heq | ⟨new, heq, hok⟩
      · simp [heq] at hcall
      · rw [heq, drop_left, mem_singleton] at hcall
        rw [hcall, hasks.services]
        exact hok
    · unfold Forced
      split
      · rintro ⟨device, hfind, hs, -⟩
        exact hswitch ⟨_, _, _, rfl, device, hfind, hs⟩
      · exact id

/-- A sniff request comes at a moment when no service of the device prefers ACTIVE,
exactly if it is not forced then. -/
theorem sniffs_while_idle_iff (n : Nat) (es : List Event) :
    Guarded step SniffsIdle (init n) es ↔ Guarded step (fun m e => ¬Forced m e) (init n) es := by
  rw [show SniffsIdle = fun m e => ¬Forced m e from
    funext fun m => funext fun e => propext (sniffsIdle_iff m e)]

/-- The link is in sniff mode when the application changes the parameters; before it has
become active, a call begins. -/
theorem sniff_forced_in_call :
    let env : Env := ⟨true, true, true⟩
    let m := after step (init 1) [.deviceConnected true 1, .profile env .connOpen .hfpHf 1,
      .linkModeChanged env 1 .sniff 400, .setAppSniff env 1 (some (pmMode 2)),
      .profile env .scoOpen .hfpHf 1]
    let active : Event := .linkModeChanged env 1 .active 0
    m.services.map Service.prefers = [.active] ∧ m.newCalls active = [(1, pmMode 2)]
      ∧ ¬SniffsIdle m active := by
  refine ⟨by decide, by decide, fun h => ?_⟩
  exact h (1, pmMode 2) (by decide) rfl ⟨.hfpHf, .scoOpen, 1⟩ (by decide) rfl (by decide)

/-! ## The registry -/

def entries (services : List Service) (key : ProfileId × BtAddress) : List State :=
  (services.filter (·.key = key)).map (·.state)

/-- What the profile reported of the device, and whether a record could be made. -/
def reports (key : ProfileId × BtAddress) (es : List Event) : List (Bool × State) :=
  es.filterMap fun
    | .profile env state profileId addr =>
      if (profileId, addr) = key then some (env.calloc, state) else none
    | _ => none

/-- The service is recorded in the state reported last, unless that closed it. -/
def RegistryExact (m : Manager) (key : ProfileId × BtAddress) (es : List Event) : Prop :=
  entries m.services key = (((reports key es).getLast?.map (·.2)).filter (· ≠ .connClose)).toList

variable {key : ProfileId × BtAddress} {state : State}

theorem pmCheckPreferAction_managed (h : (specOf profileId).isSome) :
    pmCheckPreferAction profileId = true := by
  cases profileId <;> first | rfl | exact absurd h (by decide)

theorem entries_recorded_of_ne (hne : key ≠ (profileId, addr)) :
    entries (m.recorded (.profile env state profileId addr)) key = entries m.services key := by
  have hadd : Service.key ⟨profileId, state, addr⟩ ≠ key := hne.symm
  have hkey : ∀ s : Service, Service.key { s with state } = s.key := fun _ => rfl
  simp only [recorded, register, entries]
  cases m.pmConnServiceFind profileId addr <;> cases env.calloc <;>
    cases pmCheckPreferAction profileId <;>
      simp [Keyed.filter_removeFirst_of_ne hne, Keyed.filter_modifyFirst_of_ne hne hkey, hadd]

theorem entries_recorded_self (hmanaged : (specOf profileId).isSome) :
    entries (m.recorded (.profile env state profileId addr)) (profileId, addr)
      = if entries m.services (profileId, addr) = [] then if env.calloc then [state] else []
        else (entries m.services (profileId, addr)).modifyHead fun _ => state := by
  have hadd : Service.key ⟨profileId, state, addr⟩ = (profileId, addr) := rfl
  have hkey : ∀ s : Service, Service.key { s with state } = s.key := fun _ => rfl
  simp only [recorded, register, pmCheckPreferAction_managed hmanaged, if_true]
  generalize hl : m.services.filter (·.key = (profileId, addr)) = l
  have hfind : m.pmConnServiceFind profileId addr = l.head? := by
    rw [← hl, head?_filter]
    rfl
  cases l with
  | nil => cases env.calloc <;> simp [hfind, entries, hl, hadd]
  | cons s l => simp [hfind, entries, hl, Keyed.filter_modifyFirst_self hkey]

theorem entries_after (n : Nat) (es : List Event) (hmanaged : (specOf key.1).isSome) :
    entries (after step (init n) es).services key
      = if (reports key es).any (·.1) then ((reports key es).getLast?.map (·.2)).toList
        else [] := by
  induction es using List.reverseRecOn with
  | nil => rfl
  | append_singleton es e ih =>
    rw [Runs.after_concat, services_step]
    cases e with
    | profile env state profileId addr =>
      by_cases hkey : key = (profileId, addr)
      · subst hkey
        rw [entries_recorded_self hmanaged, ih]
        rcases eq_nil_or_concat (reports (profileId, addr) es) with hnil | ⟨rs, r, hrs⟩
        · cases hc : env.calloc <;> simp_all [reports]
        · cases hc : env.calloc <;> cases hany : (rs.concat r).any (·.1) <;> simp_all [reports]
      · rw [entries_recorded_of_ne hkey, ih]
        simp [reports, Ne.symm hkey]
    | _ => simpa [recorded, reports] using ih

/-- **The registry.** For a profile the manager knows, the entries are right exactly when
there is no report, or the last one is a close just if no memory was got for any. -/
theorem registry_exact_iff (n : Nat) (es : List Event) (key : ProfileId × BtAddress)
    (hmanaged : (specOf key.1).isSome) :
    RegistryExact (after step (init n) es) key es
      ↔ ∀ last ∈ (reports key es).getLast?,
          ((reports key es).any (·.1) = true ↔ last.2 ≠ .connClose) := by
  rw [RegistryExact, entries_after n es hmanaged]
  rcases eq_nil_or_concat (reports key es) with hnil | ⟨rs, ⟨calloc, state⟩, hrs⟩
  · simp [hnil]
  · cases hany : (rs.concat (calloc, state)).any (·.1) <;> by_cases hs : state = .connClose <;>
      simp_all [Option.filter]

/-- A headset connects, and a call begins. -/
theorem call_registered :
    let es : List Event := [.profile ⟨true, true, true⟩ .connOpen .hfpHf 1,
      .profile ⟨true, true, true⟩ .scoOpen .hfpHf 1]
    RegistryExact (after step (init 1) es) (.hfpHf, 1) es :=
  (registry_exact_iff 1 _ (.hfpHf, 1) (by decide)).mpr (by decide)

/-- It stays registered when it disconnects. -/
theorem closed_profile_registered :
    let es : List Event := [.profile ⟨true, true, true⟩ .connOpen .hfpHf 1,
      .profile ⟨true, true, true⟩ .connClose .hfpHf 1]
    (after step (init 1) es).services = [⟨.hfpHf, .connClose, 1⟩]
      ∧ ¬RegistryExact (after step (init 1) es) (.hfpHf, 1) es := by
  unfold RegistryExact
  decide

end Manager

end BtFramework.Pm
