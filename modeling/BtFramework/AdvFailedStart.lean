import BtFramework.AdvIdentity

/-!
# A start of advertising that fails

A start fails in a worker thread, after the request was accepted, and nothing is reported then.
The advertiser hears of the failure from the timer of the start, unless an event for its id or
the shutdown comes first. A set is entered in the table when it is created, and one whose data
cannot be set, or that cannot be started, is not taken out again.
-/

namespace BtFramework.AdvSystem

open IndexAllocator Keyed List Runs

/-- The outcomes that an advertiser was told, in order. -/
def toldTo (s : AdvSystem) (ptr : Nat) : List AdvOutcome :=
  (s.reports.filter (·.advertiser = ptr)).map (·.outcome)

/-- The advertiser has its id, was told nothing and waits for its timer; or it is gone and was
told that the start failed, once and nothing else. -/
def ToldOnce (s : AdvSystem) (advId owner : Nat) : Prop :=
  (⟨owner, advId, true⟩ ∈ s.advertisers ∧ advId - 1 ∈ s.ids.taken ∧ s.toldTo owner = [])
    ∨ (owner ∉ s.advertisers.map (·.ptr) ∧ s.toldTo owner = [.startTimeout])

/-- While the advertiser waits, an event for its id is delivered (of a stop, or left over from
another advertiser), or the service is shut down. -/
def Interferes (s : AdvSystem) (advId owner : Nat) : Input → Prop
  | .event msg => s.started = true ∧ owner ∈ s.advertisers.map (·.ptr)
      ∧ ∃ e ∈ s.events.find? (·.msg = msg), e.advId = advId
  | .cleanup _ => s.started = true ∧ owner ∈ s.advertisers.map (·.ptr)
  | _ => False

instance (s : AdvSystem) (advId owner : Nat) :
    (input : Input) → Decidable (s.Interferes advId owner input)
  | .event _ | .cleanup _ => inferInstanceAs (Decidable (_ ∧ _))
  | .start .. | .stop .. | .timeout _ | .work .. | .terminated .. => instDecidableFalse

/-! ## Telling once -/

/-- Advertisers have distinct pointers, all given out, and distinct ids, all taken. -/
structure Registry (s : AdvSystem) : Prop where
  fresh : ∀ p ∈ s.pairs, p.1 < s.next
  reported : ∀ r ∈ s.reports, r.advertiser < s.next
  ptrs : (s.pairs.map (·.1)).Nodup
  advIds : (s.pairs.map (·.2)).Nodup
  taken : ∀ p ∈ s.pairs, p.2 ≠ 0 ∧ p.2 - 1 ∈ s.ids.taken

/-- A change that concerns only the advertisers `who`. -/
structure Serves (who : Nat → Prop) (s s' : AdvSystem) : Prop where
  registry : s'.Registry
  told : ∀ advId owner, ¬who owner → s.ToldOnce advId owner → s'.ToldOnce advId owner

/-- A change that leaves alone whoever waits. -/
abbrev Keeps (s s' : AdvSystem) : Prop := Serves (fun _ => False) s s'

variable {cfg : AdvConfig} {s s' : AdvSystem} {who : Nat → Prop} {adver : Advertiser}
  {ptr advId owner : Nat} {outcome : AdvOutcome} {origin : Option Nat}

theorem Serves.trans {s'' : AdvSystem} (h : Serves who s s') (h' : Serves who s' s'') :
    Serves who s s'' :=
  ⟨h'.registry, fun advId owner hno ht => h'.told advId owner hno (h.told advId owner hno ht)⟩

theorem toldTo_report (ptr' : Nat) :
    (s.report ptr advId outcome origin).toldTo ptr'
      = s.toldTo ptr' ++ if ptr = ptr' then [outcome] else [] := by
  rw [toldTo, AdvSystem.report, filter_append, map_append]
  refine congrArg (s.toldTo ptr' ++ ·) ?_
  by_cases hptr : ptr = ptr' <;> simp [hptr]

section

variable (h : s.Registry)
include h

theorem Registry.told_lt (ht : s.ToldOnce advId owner) : owner < s.next := by
  rcases ht with ⟨hmem, -⟩ | ⟨-, htold⟩
  · exact h.fresh _ (mem_pairs hmem)
  · obtain ⟨r, hr, -⟩ := mem_map.mp (htold ▸ mem_singleton_self AdvOutcome.startTimeout)
    obtain ⟨hmem, howner⟩ := mem_filter.mp hr
    exact of_decide_eq_true howner ▸ h.reported r hmem

theorem Registry.advId_eq (ht : s.ToldOnce advId adver.ptr) (hmem : adver ∈ s.advertisers) :
    adver.advId = advId := by
  rcases ht with ⟨hown, -⟩ | ⟨hgone, -⟩
  · exact congrArg Prod.snd (inj_on_of_nodup_map h.ptrs (mem_pairs hmem) (mem_pairs hown) rfl)
  · exact absurd (mem_map_of_mem hmem) hgone

theorem Registry.quiet (hadvertisers : s'.advertisers = s.advertisers)
    (hids : s'.ids.taken = s.ids.taken) (hreports : s'.reports = s.reports)
    (hnext : s.next ≤ s'.next) : Serves who s s' := by
  have hpairs : s'.pairs = s.pairs := by rw [pairs, pairs, hadvertisers]
  refine ⟨⟨?_, ?_, ?_, ?_, ?_⟩, fun advId owner _ => ?_⟩
  · rw [hpairs]
    exact fun p hp => Nat.lt_of_lt_of_le (h.fresh p hp) hnext
  · rw [hreports]
    exact fun r hr => Nat.lt_of_lt_of_le (h.reported r hr) hnext
  · rw [hpairs]; exact h.ptrs
  · rw [hpairs]; exact h.advIds
  · rw [hpairs, hids]; exact h.taken
  · rw [ToldOnce, ToldOnce, toldTo, toldTo, hadvertisers, hids, hreports]
    exact id

theorem Registry.inform (hptr : ptr < s.next) (hwho : who ptr) :
    Serves who s (s.report ptr advId outcome origin) := by
  refine ⟨{ h with reported := forall_mem_concat.mpr ⟨h.reported, hptr⟩ },
    fun advId owner hno ht => ?_⟩
  have hne : ¬ptr = owner := fun heq => hno (heq ▸ hwho)
  rw [ToldOnce, toldTo_report, if_neg hne, append_nil]
  exact ht

theorem Registry.dismiss (hmem : adver ∈ s.advertisers) (hwho : who adver.ptr) :
    Serves who s ((s.dropAdvertiser adver).report adver.ptr advId outcome origin) := by
  have hsub : (s.dropAdvertiser adver).pairs.Sublist s.pairs := pairs_dropAdvertiser
  have htaken := taken_dropAdvertiser h.advIds h.taken hmem
  have hdrop : Serves who s (s.dropAdvertiser adver) := by
    refine ⟨⟨fun p hp => h.fresh p (hsub.subset hp), h.reported, h.ptrs.sublist (hsub.map _),
      h.advIds.sublist (hsub.map _), fun p hp => (htaken p hp).2⟩, fun advId owner hno ht => ?_⟩
    have hne : owner ≠ adver.ptr := fun heq => hno (heq ▸ hwho)
    rcases ht with ⟨hown, -, htold⟩ | ⟨hgone, htold⟩
    · have hin : ⟨owner, advId, true⟩ ∈ (s.dropAdvertiser adver).advertisers :=
        mem_remove.mpr ⟨hown, hne⟩
      exact .inl ⟨hin, (htaken _ (mem_pairs hin)).2.2, htold⟩
    · exact .inr ⟨fun hin => hgone ((filter_sublist.map _).subset hin), htold⟩
  exact hdrop.trans (hdrop.registry.inform (h.fresh _ (mem_pairs hmem)) hwho)

theorem Registry.cancelTimer (hwho : who ptr) : Serves who s { s with
    advertisers := Keyed.update (·.ptr) ptr ({ · with advStart := false }) s.advertisers } := by
  have hpairs : (Keyed.update (·.ptr) ptr ({ · with advStart := false }) s.advertisers).map
      (fun a => (a.ptr, a.advId)) = s.pairs := map_update fun _ _ _ => rfl
  have hptrs : (Keyed.update (·.ptr) ptr ({ · with advStart := false }) s.advertisers).map (·.ptr)
      = s.advertisers.map (·.ptr) := map_update fun _ _ _ => rfl
  refine ⟨⟨?_, h.reported, ?_, ?_, ?_⟩, fun advId owner hno ht => ?_⟩
  · rw [pairs, hpairs]; exact h.fresh
  · rw [pairs, hpairs]; exact h.ptrs
  · rw [pairs, hpairs]; exact h.advIds
  · rw [pairs, hpairs]; exact h.taken
  · rw [ToldOnce, hptrs]
    refine ht.imp_left fun hown => ⟨?_, hown.2⟩
    exact mem_update.mpr (.inr ⟨hown.1, fun (heq : owner = ptr) => hno (heq ▸ hwho)⟩)

end

/-! ## The steps -/

theorem Registry.add (h : s.Registry) {id : Nat} {ids : IndexAllocator}
    {advData scanRspData : List UInt8} (hnew : id ∉ s.ids.taken)
    (hids : ids.taken = id :: s.ids.taken) (hptr : adver.ptr = s.next)
    (hid : adver.advId = id + 1) :
    Serves who s (sendReq
      { s with next := s.next + 1, ids, advertisers := s.advertisers ++ [adver] }
      (.startAdv adver.advId s.next advData scanRspData)) := by
  have hpairs : (s.advertisers ++ [adver]).map (fun a => (a.ptr, a.advId))
      = s.pairs ++ [(s.next, id + 1)] := by rw [map_append, map_singleton, hptr, hid]; rfl
  have htaken := h.taken
  refine ⟨⟨?_, ?_, ?_, ?_, ?_⟩, fun advId owner _ ht => ?_⟩
  · simp only [sendReq, pairs, hpairs, forall_mem_concat]
    exact ⟨fun p hp => Nat.lt_add_right 2 (h.fresh p hp), by omega⟩
  · exact fun r hr => Nat.lt_add_right 2 (h.reported r hr)
  · simp only [sendReq, pairs, hpairs]
    exact nodup_concat h.ptrs fun p hp => Nat.ne_of_lt (h.fresh p hp)
  · simp only [sendReq, pairs, hpairs]
    exact nodup_concat h.advIds fun p hp heq => hnew (by simpa [heq] using (htaken p hp).2)
  · simp only [sendReq, pairs, hpairs, forall_mem_concat, hids]
    exact ⟨fun p hp => ⟨(htaken p hp).1, mem_cons_of_mem _ (htaken p hp).2⟩, by simp⟩
  · have hlt := h.told_lt ht
    simp only [ToldOnce, toldTo, sendReq, hids, map_append, map_singleton, hptr, mem_append,
      mem_singleton, not_or]
    refine ht.imp (fun ht => ⟨.inl ht.1, mem_cons_of_mem _ ht.2.1, ht.2.2⟩)
      fun ht => ⟨⟨ht.1, Nat.ne_of_lt hlt⟩, ht.2⟩

theorem Registry.start (h : s.Registry) {env : AdvSendEnv} {timer : Bool} {params : AdvParams}
    {advData scanRspData : List UInt8} :
    Serves who s (s.advertiserStartEvent cfg env timer params advData scanRspData) := by
  have hskip : ∀ ids : IndexAllocator, ids.taken = s.ids.taken →
      Serves (· = s.next) s { s with next := s.next + 1, ids } :=
    fun ids hids => h.quiet rfl hids rfl (Nat.le_succ _)
  -- the new pointer is none of those that wait or were told
  have hnew : ∀ {s'}, Serves (· = s.next) s s' → Serves who s s' := fun hserves =>
    ⟨hserves.registry, fun advId owner _ ht =>
      hserves.told advId owner (Nat.ne_of_lt (h.told_lt ht)) ht⟩
  unfold advertiserStartEvent
  dsimp only
  split
  · exact hnew (hskip _ rfl)
  · split
    next ids halloc =>
      obtain rfl := indexAlloc_none halloc
      exact hnew ((hskip _ rfl).trans ((hskip _ rfl).registry.inform (Nat.lt_succ_self _) rfl))
    next id ids halloc =>
      obtain ⟨hid, hids⟩ := indexAlloc_some halloc
      split
      · have hserves := hskip (ids.indexFree id) (by rw [indexFree, hids, erase_cons_head])
        exact hnew (hserves.trans (hserves.registry.inform (Nat.lt_succ_self _) rfl))
      · exact h.add hid hids rfl rfl

theorem Registry.runWork (h : s.Registry) (startEnv : AdvStartEnv) (stopEnv : AdvStopEnv)
    (req : Nat) : Serves who s (s.runWork cfg startEnv stopEnv req) := by
  refine h.quiet ?_ ?_ ?_ ?_ <;>
    simp only [AdvSystem.runWork, zblueStartAdv, zblueLeExtCreate, zblueStopAdv,
      advertisingOnStateChanged] <;> grind

theorem Registry.timeout (h : s.Registry) (ptr : Nat) :
    Keeps s (s.startAdvertisingTimeout ptr) := by
  unfold startAdvertisingTimeout
  split
  · exact ⟨h, fun _ _ _ => id⟩
  next adver hfind =>
    obtain ⟨hmem, rfl⟩ := mem_of_find? hfind
    split
    · exact ⟨h, fun _ _ _ => id⟩
    · have hserves : Serves (· = adver.ptr) s
          ((s.dropAdvertiser adver).report adver.ptr 0 .startTimeout none) := h.dismiss hmem rfl
      refine ⟨hserves.registry, fun advId owner _ ht => ?_⟩
      by_cases howner : owner = adver.ptr
      · -- the one that waited is told
        subst howner
        rcases ht with ⟨-, -, htold⟩ | ⟨hgone, -⟩
        · refine .inr ⟨fun hin => ?_, ?_⟩
          · obtain ⟨a, ha, hptr⟩ := mem_map.mp hin
            exact (mem_remove.mp ha).2 hptr
          · rw [toldTo_report, if_pos rfl]
            exact congrArg (· ++ _) htold
        · exact absurd (mem_map_of_mem hmem) hgone
      · exact hserves.told advId owner howner ht

theorem Registry.cleanup (h : s.Registry) (env : AdvSendEnv) {advertisers : List Advertiser}
    (hmem : ∀ a ∈ advertisers, a ∈ s.advertisers ∧ who a.ptr)
    (hnodup : (advertisers.map (·.ptr)).Nodup) :
    Serves who s (advertisers.foldl (cleanupAdvertiser env) s) := by
  induction advertisers generalizing s with
  | nil => exact ⟨h, fun _ _ _ => id⟩
  | cons adver advertisers ih =>
    obtain ⟨⟨hadver, hwho⟩, hrest⟩ := forall_mem_cons.mp hmem
    obtain ⟨hnew, hnodup⟩ := nodup_cons.mp hnodup
    have hstop : Serves who s (if env.alloc && env.queued then s.sendReq (.stopAdv adver.advId)
        else s) := by
      split
      · exact h.quiet rfl rfl rfl (Nat.le_succ _)
      · exact ⟨h, fun _ _ _ => id⟩
    have hdrop : Serves who s (cleanupAdvertiser env s adver) := by
      refine hstop.trans (hstop.registry.dismiss ?_ hwho)
      split <;> exact hadver
    refine hdrop.trans (ih hdrop.registry (fun a ha => ⟨?_, (hrest a ha).2⟩) hnodup)
    have hkept : a ∈ Keyed.remove (·.ptr) adver.ptr s.advertisers :=
      mem_remove.mpr ⟨(hrest a ha).1, fun heq => hnew (mem_map.mpr ⟨a, ha, heq⟩)⟩
    unfold cleanupAdvertiser
    split <;> exact hkept

theorem Registry.deliver (h : s.Registry) {msg : Nat}
    (hwho : s.started = true → ∀ e ∈ s.events.find? (·.msg = msg), ∀ a ∈ s.advertisers,
      a.advId = e.advId → who a.ptr) : Serves who s (s.deliver msg) := by
  unfold AdvSystem.deliver
  split
  · exact ⟨h, fun _ _ _ => id⟩
  next event hfind =>
    have hrest : Serves who s { s with events := Keyed.remove (·.msg) msg s.events } :=
      h.quiet rfl rfl rfl (Nat.le_refl _)
    unfold advertiserNotifyState
    split
    · exact hrest
    next hon =>
      split
      · exact hrest
      next adver hadver =>
        obtain ⟨hmem, hid⟩ := mem_of_find? hadver
        have hadver := hwho (by simpa using hon) event hfind adver hmem hid
        split
        · have hcancel := hrest.trans (hrest.registry.cancelTimer hadver)
          exact hcancel.trans (hcancel.registry.inform (h.fresh _ (mem_pairs hmem)) hadver)
        · exact hrest.trans (hrest.registry.dismiss hmem hadver)

/-- **Step lemma.** -/
theorem Registry.step (h : s.Registry) (input : Input) :
    (s.step cfg input).Registry ∧ ∀ advId owner, ¬s.Interferes advId owner input →
      s.ToldOnce advId owner → (s.step cfg input).ToldOnce advId owner := by
  have hall : ∀ {s'} (P : Nat → Nat → Prop), Keeps s s' → s'.Registry ∧ ∀ advId owner,
      P advId owner → s.ToldOnce advId owner → s'.ToldOnce advId owner := fun _ hkeeps =>
    ⟨hkeeps.registry, fun advId owner _ ht => hkeeps.told advId owner id ht⟩
  have hself : Keeps s s := ⟨h, fun _ _ _ => id⟩
  cases input with
  | start env timer params advData scanRspData => exact hall _ h.start
  | stop env target =>
    refine hall _ ?_
    simp only [AdvSystem.step, advertiserStopEvent]
    split
    · exact hself
    · split
      · exact hself
      · split
        · exact h.quiet rfl rfl rfl (Nat.le_succ _)
        · exact hself
  | timeout ptr => exact hall _ (h.timeout ptr)
  | work startEnv stopEnv req => exact hall _ (h.runWork startEnv stopEnv req)
  | terminated delete index =>
    refine hall _ ?_
    simp only [AdvSystem.step, extAdvTerminatedCb, advertisingOnStateChanged]
    split
    · exact hself
    · split <;> exact h.quiet rfl rfl rfl (Nat.le_succ _)
  | event msg =>
    have hserves : Serves (fun owner => ∀ advId, s.ToldOnce advId owner →
        s.Interferes advId owner (.event msg)) s (s.deliver msg) :=
      h.deliver fun hon e he a ha hid advId ht =>
        ⟨hon, mem_map_of_mem ha, e, he, hid.symm.trans (h.advId_eq ht ha)⟩
    refine ⟨hserves.registry, fun advId owner hno ht => ?_⟩
    exact hserves.told advId owner (fun hall => hno (hall advId ht)) ht
  | cleanup env =>
    simp only [AdvSystem.step, advertisersCleanup, Interferes]
    split
    · exact hall _ hself
    next hon =>
      have hptrs : (s.advertisers.map (·.ptr)).Nodup := by
        simpa [pairs, Function.comp_def] using h.ptrs
      have hwalk : Serves (· ∈ s.advertisers.map (·.ptr)) s
          (s.advertisers.foldl (cleanupAdvertiser env) s) :=
        h.cleanup env (fun _ ha => ⟨ha, mem_map_of_mem ha⟩) hptrs
      have hoff : Serves (· ∈ s.advertisers.map (·.ptr)) s
          { s.advertisers.foldl (cleanupAdvertiser env) s with started := false } :=
        hwalk.trans (hwalk.registry.quiet rfl rfl rfl (Nat.le_refl _))
      refine ⟨hoff.registry, fun advId owner hno ht => ?_⟩
      exact hoff.told advId owner (fun hreg => hno ⟨by simpa using hon, hreg⟩) ht

section Work

variable {env : AdvStartEnv} {advData scanRspData : List UInt8}

end Work

end BtFramework.AdvSystem
