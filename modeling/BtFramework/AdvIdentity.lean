import BtFramework.AdvManager
import BtFramework.Runs

/-!
# Advertisers are told about their own sets

An advertising id is given back when its advertiser is dropped, on the timeout of the start and
when a stop is reported. Requests, sets and events keep the id they were made with; one that
outlives the advertiser is taken for the next advertiser's.
-/

namespace BtFramework.AdvSystem

open Bool IndexAllocator Keyed List Nat Runs

/-! ## The property -/

/-- What an advertiser is told of a set is about its own. -/
def ReportsOwn (s : AdvSystem) : Prop :=
  ∀ r ∈ s.reports, ∀ owner, r.origin = some owner → r.advertiser = owner

/-- No two sets have the same advertising id. -/
def SetsDistinct (s : AdvSystem) : Prop :=
  ∀ i j set set', s.sets i = some set → s.sets j = some set' → set.advId = set'.advId → i = j

/-! ## What carries an id -/

def startOf (w : AdvWork) : Option (Nat × Nat) :=
  match w.call with
  | .startAdv advId owner _ _ => some (advId, owner)
  | .stopAdv _ => none

inductive Carries (s : AdvSystem) (advId owner : Nat) : Prop where
  | work {w : AdvWork} (hw : w ∈ s.works) (h : startOf w = some (advId, owner))
  | set {index : Nat} (h : s.sets index = some { advId, owner })
  | event {e : AdvEvent} (he : e ∈ s.events) (hid : e.advId = advId) (h : e.origin = some owner)

def Quiet (cfg : AdvConfig) (s : AdvSystem) (advId : Nat) : Prop :=
  (∀ w ∈ s.works, (startOf w).all (·.1 ≠ advId) = true) ∧
    (∀ i < cfg.maxAdvSet, (s.sets i).all (·.advId ≠ advId) = true) ∧
    ∀ e ∈ s.events, e.origin.isSome = true → e.advId ≠ advId

instance (cfg : AdvConfig) (s : AdvSystem) (advId : Nat) : Decidable (Quiet cfg s advId) :=
  inferInstanceAs (Decidable (_ ∧ _ ∧ _))

/-- An id is given back only when no request, set or event carries it any more. -/
def GivesBackQuietly (cfg : AdvConfig) (s : AdvSystem) : Input → Prop
  | .timeout ptr => ∀ a ∈ s.advertisers, a.ptr = ptr → a.advStart = true → Quiet cfg s a.advId
  | .event msg => ∀ e ∈ s.events, e.msg = msg → e.state = .stopped →
      Quiet cfg { s with events := Keyed.remove (·.msg) msg s.events } e.advId
  | _ => True

instance (cfg : AdvConfig) (s : AdvSystem) (input : Input) :
    Decidable (GivesBackQuietly cfg s input) := by
  cases input <;> unfold GivesBackQuietly <;> infer_instance

/-! ## The invariant -/

def pairs (s : AdvSystem) : List (Nat × Nat) := s.advertisers.map fun a => (a.ptr, a.advId)

structure Sound (cfg : AdvConfig) (s : AdvSystem) : Prop where
  fresh : ∀ p ∈ s.pairs, p.1 < s.next
  ptrs : (s.pairs.map (·.1)).Nodup
  advIds : (s.pairs.map (·.2)).Nodup
  taken : s.started = true → ∀ p ∈ s.pairs, p.2 ≠ 0 ∧ p.2 - 1 ∈ s.ids.taken
  owned : s.started = true → ∀ advId owner, Carries s advId owner → (owner, advId) ∈ s.pairs
  oneWork : ∀ w ∈ s.works, ∀ w' ∈ s.works, ∀ advId owner owner',
    startOf w = some (advId, owner) → startOf w' = some (advId, owner') → w = w'
  workSet : ∀ w ∈ s.works, ∀ i set owner, s.sets i = some set → startOf w ≠ some (set.advId, owner)
  oneSet : s.SetsDistinct
  bounded : ∀ i set, s.sets i = some set → i < cfg.maxAdvSet
  reports : s.ReportsOwn

variable {cfg : AdvConfig} {s : AdvSystem}

theorem sound_init : Sound cfg (init cfg) where
  fresh := forall_mem_nil _
  ptrs := nodup_nil
  advIds := nodup_nil
  taken _ := forall_mem_nil _
  owned := by rintro _ _ _ (⟨⟨⟩⟩ | ⟨⟨⟩⟩ | ⟨⟨⟩⟩)
  oneWork := forall_mem_nil _
  workSet := forall_mem_nil _
  oneSet := nofun
  bounded := nofun
  reports := forall_mem_nil _

theorem mem_pairs {a : Advertiser} (h : a ∈ s.advertisers) : (a.ptr, a.advId) ∈ s.pairs :=
  mem_map_of_mem (f := fun a : Advertiser => (a.ptr, a.advId)) h

variable {advId index owner : Nat} {adver : Advertiser} {env : AdvSendEnv}

/-! ## The parts of the steps -/

theorem Carries.mono {s' : AdvSystem} (h : Carries s advId owner)
    (hworks : ∀ w ∈ s.works, ∀ p, startOf w = some p → w ∈ s'.works)
    (hsets : ∀ i set, s.sets i = some set → s'.sets i = some set)
    (hevents : ∀ e ∈ s.events, e ∈ s'.events) : Carries s' advId owner := by
  cases h with
  | work hw hstart => exact .work (hworks _ hw _ hstart) hstart
  | set hset => exact .set (hsets _ _ hset)
  | event he hid horigin => exact .event (hevents _ he) hid horigin

/-- `s'` has the advertisers of `s`, and no start, set or event that `s` does not have. -/
structure Kept (s s' : AdvSystem) : Prop where
  started : s'.started = s.started
  pairs : s'.pairs = s.pairs
  next : s.next ≤ s'.next
  ids : s.ids.taken ⊆ s'.ids.taken
  works : ∀ w ∈ s'.works, ∀ p, startOf w = some p → w ∈ s.works
  sets : ∀ i set, s'.sets i = some set → s.sets i = some set
  events : s'.events ⊆ s.events

theorem Kept.refl (s : AdvSystem) : Kept s s :=
  ⟨rfl, rfl, Nat.le_refl _, fun _ hn => hn, fun _ hw _ _ => hw, fun _ _ hset => hset,
    fun _ he => he⟩

theorem pairs_dropAdvertiser : (s.dropAdvertiser adver).pairs.Sublist s.pairs :=
  filter_sublist.map _

/-- Those that stay have another pointer and another id. -/
theorem taken_dropAdvertiser (hadvIds : (s.pairs.map (·.2)).Nodup)
    (htaken : ∀ p ∈ s.pairs, p.2 ≠ 0 ∧ p.2 - 1 ∈ s.ids.taken) (hmem : adver ∈ s.advertisers) :
    ∀ p ∈ (s.dropAdvertiser adver).pairs,
      p.1 ≠ adver.ptr ∧ p.2 ≠ 0 ∧ p.2 - 1 ∈ (s.dropAdvertiser adver).ids.taken := by
  intro p hp
  have hold := pairs_dropAdvertiser.subset hp
  obtain ⟨a, ha, rfl⟩ := mem_map.mp hp
  have hptr : a.ptr ≠ adver.ptr := (mem_remove.mp ha).2
  have hid : a.advId ≠ adver.advId := fun heq =>
    hptr (congrArg Prod.fst (inj_on_of_nodup_map hadvIds hold (mem_pairs hmem) heq))
  obtain ⟨hne, hin⟩ := htaken _ hold
  obtain ⟨hne', -⟩ := htaken _ (mem_pairs hmem)
  exact ⟨hptr, hne, (mem_erase_of_ne (by omega)).mpr hin⟩

theorem zblueLeExtCreate_some {s' : AdvSystem} {env : AdvStartEnv}
    (h : s.zblueLeExtCreate cfg env advId owner = some s') :
    ∃ index < cfg.maxAdvSet,
      s' = { s with sets := Function.update s.sets index (some { advId, owner }) } := by
  rw [zblueLeExtCreate.eq_def] at h
  split at h
  · cases h
  split at h
  · cases h
  next hfree =>
  split at h
  · cases h
  · cases h
    exact ⟨_, Nat.lt_of_not_le fun hle => hfree (.inl hle), rfl⟩

theorem zblueLeExtFindAdv_some (h : s.zblueLeExtFindAdv cfg advId = some index) :
    ∃ owner, s.sets index = some { advId, owner } := by
  have hfound := find?_some h
  obtain ⟨set, hset, hid⟩ := (Option.any_eq_true ..).mp hfound
  rw [hset, ← of_decide_eq_true hid]
  exact ⟨set.owner, rfl⟩

theorem cleanupAdvertiser_started {started : Bool} :
    cleanupAdvertiser env { s with started } adver
      = { cleanupAdvertiser env s adver with started } := by
  rw [cleanupAdvertiser, cleanupAdvertiser]
  split <;> rfl

section

variable (h : Sound cfg s)
include h

theorem Sound.not_carries (hq : Quiet cfg s advId) : ¬Carries s advId owner := by
  intro hc
  cases hc with
  | work hw hstart =>
    have := hq.1 _ hw
    rw [hstart] at this
    exact of_decide_eq_true this rfl
  | set hset =>
    have := hq.2.1 _ (h.bounded _ _ hset)
    rw [hset] at this
    exact of_decide_eq_true this rfl
  | event he hid horigin => exact hq.2.2 _ he (by rw [horigin]; rfl) hid

theorem Sound.mono {s' : AdvSystem} (hk : Kept s s') (hr : s'.ReportsOwn) : Sound cfg s' where
  fresh := by
    rw [hk.pairs]
    exact fun p hp => Nat.lt_of_lt_of_le (h.fresh p hp) hk.next
  ptrs := by
    rw [hk.pairs]
    exact h.ptrs
  advIds := by
    rw [hk.pairs]
    exact h.advIds
  taken := by
    rw [hk.started, hk.pairs]
    exact fun hs p hp => ⟨(h.taken hs p hp).1, hk.ids (h.taken hs p hp).2⟩
  owned := by
    rw [hk.started, hk.pairs]
    exact fun hs advId owner hc => h.owned hs advId owner (hc.mono hk.works hk.sets hk.events)
  oneWork w hw w' hw' n o o' hstart hstart' :=
    h.oneWork w (hk.works w hw _ hstart) w' (hk.works w' hw' _ hstart') n o o' hstart hstart'
  workSet w hw i set owner hset hstart :=
    h.workSet w (hk.works w hw _ hstart) i set owner (hk.sets i set hset) hstart
  oneSet i j set set' hi hj := h.oneSet i j set set' (hk.sets i set hi) (hk.sets j set' hj)
  bounded i set hset := h.bounded i set (hk.sets i set hset)
  reports := hr

theorem Sound.report {advertiser : Nat} {outcome : AdvOutcome} {origin : Option Nat}
    (ho : ∀ owner, origin = some owner → advertiser = owner) :
    Sound cfg (s.report advertiser advId outcome origin) :=
  h.mono { Kept.refl s with } (forall_mem_concat.mpr ⟨h.reports, ho⟩)

theorem Sound.skip {next : Nat} (hnext : s.next ≤ next) : Sound cfg { s with next } :=
  h.mono { Kept.refl s with next := hnext } h.reports

theorem Sound.sendStop : Sound cfg (s.sendReq (.stopAdv advId)) := by
  refine h.mono { Kept.refl s with next := le_succ s.next, works := ?_ } h.reports
  intro w hw p hp
  rcases mem_append.mp hw with hw | hw
  · exact hw
  · rw [mem_singleton.mp hw] at hp
    cases hp

variable {advData scanRspData : List UInt8}

theorem Sound.sendStart (hlive : (owner, advId) ∈ s.pairs) (hnone : ∀ o, ¬Carries s advId o) :
    Sound cfg (s.sendReq (.startAdv advId owner advData scanRspData)) := by
  have hnew : ∀ w ∈ (s.sendReq (.startAdv advId owner advData scanRspData)).works,
      w ∈ s.works ∨ startOf w = some (advId, owner) ∧
        w = { req := s.next, call := .startAdv advId owner advData scanRspData } := by
    exact forall_mem_concat.mpr ⟨fun _ => .inl, .inr ⟨rfl, rfl⟩⟩
  refine
    { h.skip (le_succ s.next) with
      owned := ?_
      oneWork := ?_
      workSet := ?_ }
  · intro hs n o hc
    cases hc with
    | work hw hstart =>
      rcases hnew _ hw with hw | ⟨hown, -⟩
      · exact h.owned hs n o (.work hw hstart)
      · cases hown.symm.trans hstart
        exact hlive
    | set hset => exact h.owned hs n o (.set hset)
    | event he hid horigin => exact h.owned hs n o (.event he hid horigin)
  · intro w hw w' hw' n o o' hstart hstart'
    rcases hnew w hw with hw | ⟨hown, rfl⟩
    · rcases hnew w' hw' with hw' | ⟨hown', rfl⟩
      · exact h.oneWork w hw w' hw' n o o' hstart hstart'
      · cases hown'.symm.trans hstart'
        exact absurd (.work hw hstart) (hnone o)
    · cases hown.symm.trans hstart
      rcases hnew w' hw' with hw' | ⟨-, rfl⟩
      · exact absurd (.work hw' hstart') (hnone o')
      · rfl
  · intro w hw i set o hset hstart
    rcases hnew w hw with hw | ⟨hown, -⟩
    · exact h.workSet w hw i set o hset hstart
    · cases hown.symm.trans hstart
      exact hnone set.owner (.set hset)

theorem Sound.raise {state : AdvState} {origin : Option Nat}
    (hlive : s.started = true → ∀ owner, origin = some owner → (owner, advId) ∈ s.pairs) :
    Sound cfg (s.advertisingOnStateChanged advId state origin) :=
  { h.skip (le_succ s.next) with
    owned := by
      intro hs n o hc
      cases hc with
      | work hw hstart => exact h.owned hs n o (.work hw hstart)
      | set hset => exact h.owned hs n o (.set hset)
      | event he hid horigin =>
        rcases mem_append.mp he with he | he
        · exact h.owned hs n o (.event he hid horigin)
        · rw [mem_singleton.mp he] at hid horigin
          rw [← hid]
          exact hlive hs o horigin }

theorem Sound.drop
    (hlive : s.started = true → adver ∈ s.advertisers ∧ ∀ owner, ¬Carries s adver.advId owner) :
    Sound cfg (s.dropAdvertiser adver) := by
  have hsub : (s.dropAdvertiser adver).pairs.Sublist s.pairs := pairs_dropAdvertiser
  have hkept : ∀ p ∈ s.pairs, p.1 ≠ adver.ptr → p ∈ (s.dropAdvertiser adver).pairs := by
    intro p hp hne
    obtain ⟨a, ha, rfl⟩ := mem_map.mp hp
    exact mem_pairs (s := s.dropAdvertiser adver) (mem_remove.mpr ⟨ha, hne⟩)
  refine
    { h with
      fresh := fun p hp => h.fresh p (hsub.subset hp)
      ptrs := List.Nodup.sublist (hsub.map _) h.ptrs
      advIds := List.Nodup.sublist (hsub.map _) h.advIds
      taken := ?_
      owned := ?_ }
  · exact fun hs p hp => (taken_dropAdvertiser h.advIds (h.taken hs) (hlive hs).1 p hp).2
  · intro hs advId owner hc
    obtain ⟨hmem, hnone⟩ := hlive hs
    have hc : Carries s advId owner :=
      hc.mono (fun _ hw _ _ => hw) (fun _ _ hset => hset) fun _ he => he
    have hp := h.owned hs advId owner hc
    refine hkept _ hp fun heq => ?_
    have hsame : advId = adver.advId :=
      congrArg Prod.snd (inj_on_of_nodup_map h.ptrs hp (mem_pairs hmem) heq)
    rw [hsame] at hc
    exact hnone owner hc

theorem Sound.removeWork {req : Nat} :
    Sound cfg { s with works := Keyed.remove (·.req) req s.works } :=
  h.mono { Kept.refl s with works := fun _ hw _ _ => (mem_remove.mp hw).1 } h.reports

theorem Sound.removeEvent {msg : Nat} :
    Sound cfg { s with events := Keyed.remove (·.msg) msg s.events } :=
  h.mono { Kept.refl s with events := fun _ he => (mem_remove.mp he).1 } h.reports

theorem Sound.clearSet : Sound cfg { s with sets := Function.update s.sets index none } := by
  refine h.mono { Kept.refl s with sets := fun i set hset => ?_ } h.reports
  dsimp only at hset
  rcases eq_or_ne i index with rfl | hne
  · rw [Function.update_self] at hset
    cases hset
  · rwa [Function.update_of_ne hne] at hset

theorem Sound.createSet (hindex : index < cfg.maxAdvSet)
    (hlive : s.started = true → (owner, advId) ∈ s.pairs)
    (hworks : ∀ w ∈ s.works, ∀ o, startOf w ≠ some (advId, o))
    (hsets : ∀ i set, s.sets i = some set → set.advId ≠ advId) :
    Sound cfg { s with sets := Function.update s.sets index (some { advId, owner }) } := by
  have hnew : ∀ i set, Function.update s.sets index (some { advId, owner }) i = some set →
      i = index ∧ set = { advId, owner } ∨ s.sets i = some set := by
    intro i set hset
    rcases eq_or_ne i index with rfl | hne
    · rw [Function.update_self] at hset
      exact .inl ⟨rfl, (Option.some.inj hset).symm⟩
    · rw [Function.update_of_ne hne] at hset
      exact .inr hset
  refine { h with owned := ?_, workSet := ?_, oneSet := ?_, bounded := ?_ }
  · intro hs n o hc
    cases hc with
    | work hw hstart => exact h.owned hs n o (.work hw hstart)
    | set hset =>
      rcases hnew _ _ hset with ⟨-, heq⟩ | hset
      · cases heq
        exact hlive hs
      · exact h.owned hs n o (.set hset)
    | event he hid horigin => exact h.owned hs n o (.event he hid horigin)
  · intro w hw i set o hset
    rcases hnew i set hset with ⟨-, rfl⟩ | hset
    · exact hworks w hw o
    · exact h.workSet w hw i set o hset
  · intro i j set set' hi hj heq
    rcases hnew i set hi with ⟨hi, hset⟩ | hi
    · rcases hnew j set' hj with ⟨hj, -⟩ | hj
      · exact hi.trans hj.symm
      · rw [hset] at heq
        exact absurd heq.symm (hsets j set' hj)
    · rcases hnew j set' hj with ⟨-, hset'⟩ | hj
      · rw [hset'] at heq
        exact absurd heq (hsets i set hi)
      · exact h.oneSet i j set set' hi hj heq
  · intro i set hset
    rcases hnew i set hset with ⟨rfl, -⟩ | hset
    · exact hindex
    · exact h.bounded i set hset

/-! ## Steps -/

theorem Sound.setIds {ids : IndexAllocator} (hids : s.ids.taken ⊆ ids.taken) :
    Sound cfg { s with ids } :=
  h.mono { Kept.refl s with ids := hids } h.reports

theorem Sound.add (hstarted : s.started = true) {id : Nat} {ids : IndexAllocator}
    (hnew : id ∉ s.ids.taken) (hids : ids.taken = id :: s.ids.taken) {advStart : Bool} :
    Sound cfg { s with
      next := s.next + 1, ids
      advertisers := s.advertisers ++ [{ ptr := s.next, advId := id + 1, advStart }] } := by
  have hpairs : ∀ adver : Advertiser,
      (s.advertisers ++ [adver]).map (fun a => (a.ptr, a.advId))
        = s.pairs ++ [(adver.ptr, adver.advId)] := fun adver => map_append
  refine
    { h with
      fresh := ?_
      ptrs := ?_
      advIds := ?_
      taken := ?_
      owned := ?_ }
  · rw [pairs, hpairs, forall_mem_concat]
    exact ⟨fun p hp => lt_succ_of_lt (h.fresh p hp), lt_succ_self _⟩
  · rw [pairs, hpairs]
    exact nodup_concat h.ptrs fun p hp => Nat.ne_of_lt (h.fresh p hp)
  · rw [pairs, hpairs]
    refine nodup_concat h.advIds fun p hp heq => ?_
    obtain ⟨-, htaken⟩ := h.taken hstarted p hp
    rw [heq] at htaken
    exact hnew htaken
  · rw [pairs, hpairs, forall_mem_concat, hids]
    intro _
    exact ⟨fun p hp => ⟨(h.taken hstarted p hp).1, mem_cons_of_mem _ (h.taken hstarted p hp).2⟩,
      succ_ne_zero id, mem_cons_self⟩
  · intro hs advId owner hc
    rw [pairs, hpairs]
    exact mem_append_left _ (h.owned hs advId owner
      (hc.mono (fun _ hw _ _ => hw) (fun _ _ hset => hset) fun _ he => he))

theorem Sound.advertiserStartEvent {timer : Bool} {params : AdvParams} :
    Sound cfg (s.advertiserStartEvent cfg env timer params advData scanRspData) := by
  have hskip := h.skip (le_succ s.next)
  rw [AdvSystem.advertiserStartEvent]
  split
  · exact hskip
  next hstarted =>
  rw [not_eq_true, not_eq_false'] at hstarted
  split
  next ids halloc =>
    obtain rfl := indexAlloc_none halloc
    exact hskip.report nofun
  next id ids halloc =>
    obtain ⟨hnew, hids⟩ := indexAlloc_some halloc
    split
    · refine Sound.report (hskip.setIds ?_) nofun
      intro n hn
      rw [indexFree, hids, erase_cons_head]
      exact hn
    · refine Sound.sendStart (h.add hstarted hnew hids) ?_ ?_
      · rw [pairs, map_append]
        exact mem_append_right _ (mem_singleton.mpr rfl)
      · intro owner hc
        have hp := h.owned hstarted _ owner
          (hc.mono (fun _ hw _ _ => hw) (fun _ _ hset => hset) fun _ he => he)
        exact hnew (h.taken hstarted _ hp).2

theorem Sound.advertiserStopEvent {target : AdvTarget} :
    Sound cfg (s.advertiserStopEvent env target) := by
  rw [AdvSystem.advertiserStopEvent]
  split
  · exact h
  split
  · exact h
  split
  · exact h.sendStop
  · exact h

theorem Sound.startAdvertisingTimeout {ptr : Nat}
    (hquiet : GivesBackQuietly cfg s (.timeout ptr)) :
    Sound cfg (s.startAdvertisingTimeout ptr) := by
  rw [AdvSystem.startAdvertisingTimeout]
  split
  · exact h
  next adver hfind =>
    obtain ⟨hmem, hptr⟩ := mem_of_find? hfind
    split
    · exact h
    next htimer =>
      rw [not_eq_true, not_eq_false'] at htimer
      refine Sound.report (h.drop fun _ => ⟨hmem, ?_⟩) nofun
      exact fun _ => h.not_carries (hquiet adver hmem hptr htimer)

theorem Sound.zblueStartAdv {env : AdvStartEnv}
    (hlive : s.started = true → (owner, advId) ∈ s.pairs)
    (hworks : ∀ w ∈ s.works, ∀ o, startOf w ≠ some (advId, o))
    (hsets : ∀ i set, s.sets i = some set → set.advId ≠ advId) :
    Sound cfg (s.zblueStartAdv cfg env advId owner advData scanRspData) := by
  rw [AdvSystem.zblueStartAdv]
  split
  · exact h
  split
  · exact h
  split
  · split
    · exact h
    next hcreate =>
      obtain ⟨index, hindex, rfl⟩ := zblueLeExtCreate_some hcreate
      have hcreated := h.createSet hindex hlive hworks hsets
      split
      · exact hcreated
      split
      · exact hcreated
      · refine hcreated.raise fun hs o ho => ?_
        cases ho
        exact hlive hs
  · split
    · exact h
    · exact h.raise nofun

theorem Sound.zblueStopAdv {env : AdvStopEnv} : Sound cfg (s.zblueStopAdv cfg env advId) := by
  rw [AdvSystem.zblueStopAdv]
  split
  · split
    · exact h
    · exact h.raise nofun
  split
  · exact h
  next index hfind =>
    split
    · exact h
    split
    · exact h
    · obtain ⟨owner, hset⟩ := zblueLeExtFindAdv_some hfind
      rw [hset]
      refine h.clearSet.raise fun hs o ho => ?_
      cases ho
      exact h.owned hs _ _ (.set hset)

theorem Sound.extAdvTerminatedCb {delete : Bool} :
    Sound cfg (s.extAdvTerminatedCb delete index) := by
  rw [AdvSystem.extAdvTerminatedCb]
  split
  · exact h
  next set hset =>
    have hraised : Sound cfg (s.advertisingOnStateChanged set.advId .stopped (some set.owner)) := by
      refine h.raise fun hs o ho => ?_
      cases ho
      exact h.owned hs _ _ (.set hset)
    split
    · exact hraised.clearSet
    · exact hraised

theorem Sound.runWork {startEnv : AdvStartEnv} {stopEnv : AdvStopEnv} {req : Nat} :
    Sound cfg (s.runWork cfg startEnv stopEnv req) := by
  rw [AdvSystem.runWork]
  split
  · exact h
  next work hfind =>
    obtain ⟨hmem, hreq⟩ := mem_of_find? hfind
    split
    next advId owner advData scanRspData hcall =>
      have hstart : startOf work = some (advId, owner) := by rw [startOf, hcall]
      refine h.removeWork.zblueStartAdv ?_ ?_ ?_
      · exact fun hs => h.owned hs _ _ (.work hmem hstart)
      · -- the request that runs was the only one with its id
        intro w hw o hw'
        obtain ⟨hw, hne⟩ := mem_remove.mp hw
        rw [h.oneWork w hw work hmem _ _ _ hw' hstart] at hne
        exact hne hreq
      · intro i set hset heq
        rw [← heq] at hstart
        exact h.workSet work hmem i set owner hset hstart
    · exact h.removeWork.zblueStopAdv

theorem Sound.cancelTimer {ptr : Nat} :
    Sound cfg { s with
      advertisers := Keyed.update (·.ptr) ptr ({ · with advStart := false }) s.advertisers } :=
  h.mono { Kept.refl s with pairs := map_update fun _ _ _ => rfl } h.reports

theorem Sound.deliver {msg : Nat} (hquiet : GivesBackQuietly cfg s (.event msg)) :
    Sound cfg (s.deliver msg) := by
  rw [AdvSystem.deliver]
  split
  · exact h
  next event hfind =>
  obtain ⟨hevent, hmsg⟩ := mem_of_find? hfind
  have hrest : Sound cfg { s with events := Keyed.remove (·.msg) msg s.events } := h.removeEvent
  rw [advertiserNotifyState]
  split
  · exact hrest
  next hstarted =>
  rw [not_eq_true, not_eq_false'] at hstarted
  split
  · exact hrest
  next adver hadver =>
  obtain ⟨hmem, hid⟩ := mem_of_find? hadver
  have howner : ∀ owner, event.origin = some owner → adver.ptr = owner := by
    intro owner ho
    have hown := h.owned hstarted _ _ (.event hevent rfl ho)
    exact congrArg Prod.fst (inj_on_of_nodup_map h.advIds (mem_pairs hmem) hown hid)
  split
  · exact hrest.cancelTimer.report howner
  next hstate =>
    refine Sound.report (hrest.drop fun _ => ⟨hmem, fun _ => ?_⟩) howner
    rw [hid]
    exact hrest.not_carries (hquiet event hevent hmsg hstate)

theorem Sound.cleanupAdvertiser (hs : s.started = false) :
    Sound cfg (cleanupAdvertiser env s adver) := by
  rw [AdvSystem.cleanupAdvertiser]
  refine Sound.report (Sound.drop ?_ ?_) nofun
  · split
    · exact h.sendStop
    · exact h
  · intro hstarted
    split at hstarted <;> exact absurd (hs.symm.trans hstarted) (by decide)

end

theorem Sound.cleanupWalk (advertisers : List Advertiser)
    (h : Sound cfg { s with started := false }) :
    Sound cfg { advertisers.foldl (AdvSystem.cleanupAdvertiser env) s with started := false } := by
  induction advertisers generalizing s with
  | nil => exact h
  | cons adver advertisers ih =>
    refine ih ?_
    rw [← cleanupAdvertiser_started]
    exact h.cleanupAdvertiser rfl

theorem Sound.advertisersCleanup (h : Sound cfg s) : Sound cfg (s.advertisersCleanup env) := by
  rw [AdvSystem.advertisersCleanup]
  split
  · exact h
  · refine Sound.cleanupWalk s.advertisers ?_
    exact
      { h with
        taken := nofun
        owned := nofun }

/-- **Step lemma.** -/
theorem Sound.step (h : Sound cfg s) {input : Input} (hquiet : GivesBackQuietly cfg s input) :
    Sound cfg (s.step cfg input) := by
  cases input with
  | start env timer params advData scanRspData => exact h.advertiserStartEvent
  | stop env target => exact h.advertiserStopEvent
  | timeout ptr => exact h.startAdvertisingTimeout hquiet
  | work startEnv stopEnv req => exact h.runWork
  | terminated delete index => exact h.extAdvTerminatedCb
  | event msg => exact h.deliver hquiet
  | cleanup env => exact h.advertisersCleanup

/-- **Advertiser identity.** If ids are given back only when nothing carries them any more,
advertisers are told about their own sets only, and no two entries of the table carry one id. -/
theorem advertiser_identity_of_givesBackQuietly (cfg : AdvConfig) {inputs : List Input}
    (h : Guarded (step cfg) (GivesBackQuietly cfg) (init cfg) inputs) :
    ∀ s ∈ visited (step cfg) (init cfg) inputs, s.ReportsOwn ∧ s.SetsDistinct := by
  intro s hs
  have hsound : Sound cfg s :=
    h.invariant (fun s input (hinv : Sound cfg s) hquiet => hinv.step hquiet) sound_init s hs
  exact ⟨hsound.reports, hsound.oneSet⟩

def extConfig : AdvConfig :=
  { extSupported := true, advertiserMaxNum := 2, maxAdvSet := 3, maxAdvSegment := 5 }

def startInput : Input :=
  .start { alloc := true, queued := true } true { advType := .advInd, channelMapValid := true }
    [2, 1, 6] []

def workInput (index req : Nat) : Input :=
  .work { created := some index, alloc := true, setData := true, start := true }
    { stop := true, delete := true } req

def startStopStart : List Input :=
  [startInput, workInput 0 1, .event 2, .stop { alloc := true, queued := true } (.advertiser 0),
    workInput 0 3, .event 4, startInput, workInput 0 6, .event 7]

theorem startStopStart_identity :
    Guarded (step extConfig) (GivesBackQuietly extConfig) (init extConfig) startStopStart ∧
      ∀ s ∈ visited (step extConfig) (init extConfig) startStopStart,
        s.ReportsOwn ∧ s.SetsDistinct := by
  have hquiet :
      Guarded (step extConfig) (GivesBackQuietly extConfig) (init extConfig) startStopStart := by
    decide
  exact ⟨hquiet, advertiser_identity_of_givesBackQuietly extConfig hquiet⟩

def lateStart : List Input :=
  [startInput, .timeout 0, startInput, workInput 0 1, .event 4, workInput 1 3]

theorem late_start_told_to_other :
    let s := after (step extConfig) (init extConfig) lateStart
    s.reports = [{ advertiser := 0, advId := 0, outcome := .startTimeout, origin := none },
      { advertiser := 2, advId := 1, outcome := .startSuccess, origin := some 0 }] ∧
      ¬s.ReportsOwn ∧ ¬s.SetsDistinct := by
  refine ⟨by decide, fun h => ?_, fun h => ?_⟩
  · have hown := h { advertiser := 2, advId := 1, outcome := .startSuccess, origin := some 0 }
      (by decide) 0 rfl
    cases hown
  · have hsame := h 0 1 { advId := 1, owner := 0 } { advId := 1, owner := 2 } rfl rfl rfl
    cases hsame

end BtFramework.AdvSystem
