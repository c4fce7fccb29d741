import BtFramework.RasSends
import BtFramework.Runs

/-!
# The real-time queue

The head of `rtQueue` is marked when its sending starts and leaves the queue in a completion, so
a marked head is stuck, and with it the queue, if the stack owes no completion for it. It does
get stuck: the mark is set before the MTU is checked, memory allocated and the send made, and a
failure of any of them is not undone.
-/

namespace BtFramework

open List RasSrv Runs

/-! ## Handlers that leave the queue alone -/

structure RtKept (s s' : RasSrv) : Prop where
  queue : s'.rtQueue = s.rtQueue
  bits : s'.charNotifyState.rttData = s.charNotifyState.rttData
  sent : s.sent <+: s'.sent

variable {s : RasSrv} {s' : RasSrv}

theorem Quiet.rtKept {o : Option Nat} (h : Quiet o s s') : RtKept s s' := by
  obtain ⟨new, hsent, -⟩ := h.sent
  exact ⟨h.queue, by rw [h.bits], hsent ▸ prefix_append _ _⟩

/-! ## Sending the head -/

variable {item : RasRtQueuedData} {rest : List RasRtQueuedData}

/-- What a call needs to send a nonempty item on: an MTU above the minimum, and memory and
accepted sends for all that is left in notify mode, for the next segment in indication mode. -/
def RtCanSend (s : RasSrv) (allocs sends : List Bool) : Prop :=
  5 < s.rasMtu ∧
    ((s.rtDtCccCfg = csRasGattNotify ∧ s.charNotifyState.rttData.notify = true
        ∧ (∀ r ∈ allocs, r = true) ∧ ∀ r ∈ sends, r = true)
      ∨ (s.rtDtCccCfg = csRasGattIndication ∧ s.charNotifyState.rttData.indicate = true
        ∧ allocs.headD true = true ∧ sends.headD true = true))
deriving Decidable

/-- A successful completion sends the rest of the item or removes it. -/
def RtActs (s : RasSrv) (item : RasRtQueuedData) : Prop :=
  s.charNotifyState.rttData.indicate = true
    ∨ (s.charNotifyState.rttData.notify = true ∧ item.remaining = 0)
deriving Decidable

def RtSends (id : Nat) (s s' : RasSrv) : Prop :=
  ∃ r, r.attr = .realTime ∧ r.owner = some id ∧ s.sent ++ [r] <+: s'.sent

theorem RtSends.trans_kept {id : Nat} {s s' s'' : RasSrv} (h : RtSends id s s')
    (hk : RtKept s' s'') : RtSends id s s'' := by
  obtain ⟨r, hattr, howner, hsent⟩ := h
  exact ⟨r, hattr, howner, hsent.trans hk.sent⟩

theorem rtSends_send {id : Nat} (hsent : s'.sent = s.sent) (h : s'.sendResults.headD true = true)
    {isNotify : Bool} {value : List UInt8} :
    RtSends id s (s'.gattsDataSendNotify .realTime isNotify value (some id)).2 := by
  refine ⟨⟨.realTime, isNotify, value.take (value.length % 65536), some id⟩, rfl, rfl, ?_⟩
  unfold gattsDataSendNotify
  rw [← hsent]
  split
  · exact prefix_refl _
  · exact prefix_refl _
  next hr =>
    rw [hr] at h
    cases h

theorem headD_of_forall {as : List Bool} (h : ∀ r ∈ as, r = true) : as.headD true = true := by
  cases as with
  | nil => rfl
  | cons a as => exact h a mem_cons_self

theorem snd_gattsDataSendNotify {attr : RasAttr} {isNotify : Bool} {value : List UInt8}
    {owner : Option Nat} : ∃ sent, (s.gattsDataSendNotify attr isNotify value owner).2
      = { s with sendResults := s.sendResults.tail, sent } := by
  unfold gattsDataSendNotify
  split
  next hr => exact ⟨_, by rw [hr]; rfl⟩
  next hr => exact ⟨_, by rw [hr]; rfl⟩
  next hr => exact ⟨_, by rw [hr]; rfl⟩

/-- In notify mode one call sends the whole item, if nothing fails. -/
theorem rtSplitLoop_drains (fuel : Nat) (hcfg : s.rtDtCccCfg = csRasGattNotify)
    (hmtu : 5 < s.rasMtu) (hok : s.AllSucceed) (hfuel : item.remaining ≤ fuel) :
    (rtSplitLoop fuel s item).2.remaining = 0 := by
  induction fuel generalizing s item with
  | zero => exact Nat.le_zero.mp hfuel
  | succ fuel ih =>
    have hsend := headD_of_forall hok.2
    unfold rtSplitLoop
    split
    next hrem => exact hrem
    next hrem =>
      rw [alloc_eq hok.1]
      simp only [rtPayload, Bool.not_true, Bool.false_eq_true, if_false, hcfg, if_true,
        fst_gattsDataSendNotify, hsend]
      split
      · obtain ⟨sent, hs⟩ := snd_gattsDataSendNotify
        rw [hs]
        refine ih rfl hmtu ⟨fun r hr => hok.1 r (mem_of_mem_tail hr),
          fun r hr => hok.2 r (mem_of_mem_tail hr)⟩ ?_
        simp only [rasSegHeaderSize]
        omega
      · rfl

theorem rtSplitLoop_sends (fuel : Nat) (h : RtCanSend s s.allocResults s.sendResults)
    (hpos : 0 < item.remaining) :
    RtSends item.id s (rtSplitLoop (fuel + 1) s item).1 := by
  obtain ⟨hmtu, hmode⟩ := h
  obtain ⟨hcfg, halloc, hsend⟩ : (s.rtDtCccCfg = csRasGattNotify
        ∨ s.rtDtCccCfg = csRasGattIndication)
      ∧ s.allocResults.headD true = true ∧ s.sendResults.headD true = true :=
    hmode.elim (fun h => ⟨.inl h.1, headD_of_forall h.2.2.1, headD_of_forall h.2.2.2⟩)
      fun h => ⟨.inr h.1, h.2.2⟩
  have hsent : ∀ t : RasSrv, t.sent = s.sent → t.sendResults = s.sendResults →
      ∀ isNotify value, RtSends item.id s
        (t.gattsDataSendNotify .realTime isNotify value (some item.id)).2 :=
    fun t ht hr _ _ => rtSends_send ht (by rw [hr]; exact hsend)
  unfold rtSplitLoop
  rw [if_neg (by omega), alloc_eq_headD, halloc]
  simp only [rtPayload, Bool.not_true, Bool.false_eq_true, if_false,
    fst_gattsDataSendNotify, hsend, if_true]
  rcases hcfg with hcfg | hcfg
  · split
    · refine RtSends.trans_kept ?_ (rtSplitLoop_spec _ _ rfl rfl).1.rtKept
      exact hsent _ (by rfl) (by rfl) _ _
    · exact hsent _ (by rfl) (by rfl) _ _
  · have hne : ¬ csRasGattIndication = csRasGattNotify := by decide
    simp only [hcfg, hne, if_false, if_true]
    split
    · refine RtSends.trans_kept ?_ ((Inert.refl (o := none) _).indicating true).rtKept
      exact hsent _ (by rfl) (by rfl) _ _
    · refine RtSends.trans_kept ?_ ((Inert.refl (o := none) _).indicating true).rtKept
      exact hsent _ (by rfl) (by rfl) _ _

theorem splitHead_spec (item : RasRtQueuedData) (rest : List RasRtQueuedData) :
    ∃ item', (splitHead s item rest).rtQueue = item' :: rest ∧ item'.id = item.id
      ∧ item'.processing = item.processing
      ∧ (RtCanSend s s.allocResults s.sendResults → 0 < item.remaining →
          RtSends item.id s (splitHead s item rest) ∧ RtActs (splitHead s item rest) item') := by
  unfold splitHead csRasSplitRealTimeSegment
  dsimp only
  split
  next hmtu =>
    refine ⟨item, rfl, rfl, rfl, fun hcan _ => ?_⟩
    have := hcan.1
    unfold rasSegHeaderSize at hmtu
    omega
  · obtain ⟨hk, hid, hproc⟩ := rtSplitLoop_spec (s := s) item.remaining item rfl rfl
    refine ⟨_, rfl, hid, hproc, fun hcan hpos => ⟨?_, ?_⟩⟩
    · obtain ⟨fuel, hfuel⟩ := Nat.exists_eq_succ_of_ne_zero (Nat.pos_iff_ne_zero.mp hpos)
      have hsends := rtSplitLoop_sends fuel hcan hpos
      rw [← Nat.succ_eq_add_one, ← hfuel] at hsends
      exact hsends
    · simp only [RtActs, hk.bits]
      rcases hcan.2 with ⟨hcfg, hnotify, hallocs, hsends⟩ | ⟨-, hindicate, -⟩
      · exact .inr ⟨hnotify, rtSplitLoop_drains _ hcfg hcan.1 ⟨hallocs, hsends⟩ (Nat.le_refl _)⟩
      · exact .inl hindicate

/-! ## The server and the stack -/

/-- The server, and the sends the stack owes a completion for. -/
structure RasSys where
  srv : RasSrv
  outstanding : List RasSend

def RasSys.absorb (y : RasSys) (i : RasInput) : RasSys where
  srv := rasStep y.srv i
  outstanding := y.outstanding ++ (rasStep y.srv i).sent.drop y.srv.sent.length

/-- An input, or the completion of a send. -/
inductive RasSysEvent where
  | input (i : RasInput)
  | complete (k : Nat) (statusOk : Bool) (allocs sends : List Bool)

def RasSys.input (y : RasSys) (i : RasInput) : RasSys :=
  match i.event with
  | .notifyCb _ _ => y
  | .disconnect =>
    { y.absorb i with outstanding := if y.srv.connected then [] else y.outstanding }
  | _ => y.absorb i

def RasSys.complete (y : RasSys) (k : Nat) (statusOk : Bool) (allocs sends : List Bool) :
    RasSys :=
  match y.outstanding[k]? with
  | none => y
  | some r =>
    RasSys.absorb { y with outstanding := y.outstanding.eraseIdx k }
      ⟨.notifyCb statusOk r.attr, allocs, sends⟩

def sysStep (y : RasSys) : RasSysEvent → RasSys
  | .input i => y.input i
  | .complete k statusOk allocs sends => y.complete k statusOk allocs sends

def rasSysEnabled : RasSys := ⟨rasSrvEnabled, []⟩

/-- The stack has accepted a send of the item and not yet completed it. -/
def RtOwed (out : List RasSend) (item : RasRtQueuedData) : Prop :=
  ∃ r ∈ out, r.attr = .realTime ∧ r.owner = some item.id
deriving Decidable

/-- For a marked head a completion of its own is to come, and will act on it. -/
def RtLive (y : RasSys) : Prop :=
  ∀ item ∈ y.srv.rtQueue.head?, item.processing = true →
    RtOwed y.outstanding item ∧ RtActs y.srv item
deriving Decidable

/-! ## The invariant -/

def RtWaiting (item : RasRtQueuedData) : Prop :=
  item.processing = false ∧ 0 < item.remaining

structure RtInv (out : List RasSend) (s : RasSrv) : Prop where
  head : ∀ item ∈ s.rtQueue.head?, item.processing = true ∧ RtOwed out item ∧ RtActs s item
  tail : ∀ item ∈ s.rtQueue.tail, RtWaiting item

variable {out : List RasSend}

theorem RtOwed.mono {out' : List RasSend} (h : RtOwed out item) (hsub : ∀ r ∈ out, r ∈ out') :
    RtOwed out' item := by
  obtain ⟨r, hr, hattr, howner⟩ := h
  exact ⟨r, hsub r hr, hattr, howner⟩

theorem RtInv.of_nil (hq : s.rtQueue = []) : RtInv out s :=
  ⟨by simp [hq], by simp [hq]⟩

theorem RtInv.of_head {q : List RasRtQueuedData} (hq : s.rtQueue = item :: q)
    (hproc : item.processing = true) (howed : RtOwed out item) (hacts : RtActs s item)
    (hwait : ∀ x ∈ q, RtWaiting x) : RtInv out s := by
  refine ⟨?_, by rwa [hq]⟩
  rw [hq]
  intro x hx
  cases hx
  exact ⟨hproc, howed, hacts⟩

def newSends (s s' : RasSrv) : List RasSend := s'.sent.drop s.sent.length

theorem RtInv.kept (h : RtInv out s) (hk : RtKept s s') : RtInv (out ++ newSends s s') s' := by
  refine ⟨?_, ?_⟩
  · rw [hk.queue]
    intro item hitem
    obtain ⟨hproc, howed, hacts⟩ := h.head item hitem
    refine ⟨hproc, howed.mono fun r hr => mem_append_left _ hr, ?_⟩
    rwa [RtActs, hk.bits]
  · rw [hk.queue]
    exact h.tail

theorem RtSends.owed (h : RtSends item.id s s') : RtOwed (out ++ newSends s s') item := by
  obtain ⟨r, hattr, howner, t, ht⟩ := h
  refine ⟨r, mem_append_right _ ?_, hattr, howner⟩
  rw [newSends, ← ht, append_assoc, drop_left]
  exact mem_cons_self ..

theorem rtInv_splitHead (hproc : item.processing = true)
    (hwait : ∀ x ∈ rest, RtWaiting x)
    (hcan : RtCanSend s s.allocResults s.sendResults) (hpos : 0 < item.remaining) :
    RtInv (out ++ newSends s (splitHead s item rest)) (splitHead s item rest) := by
  obtain ⟨item', hq, hid, hproc', hsends⟩ := splitHead_spec (s := s) item rest
  obtain ⟨hsends, hacts⟩ := hsends hcan hpos
  exact .of_head hq (hproc'.trans hproc) (RtSends.owed (hid ▸ hsends)) hacts hwait

theorem rtInv_tryStart {t : RasSrv} (hsent : t.sent = s.sent)
    (hwait : ∀ x ∈ t.rtQueue, RtWaiting x)
    (hcan : t.rtQueue ≠ [] → RtCanSend t t.allocResults t.sendResults) :
    RtInv (out ++ newSends s (csRasRtTrySendNext t)) (csRasRtTrySendNext t) := by
  have hnew : ∀ t', newSends s t' = newSends t t' := fun t' => by
    rw [newSends, newSends, hsent]
  rw [hnew]
  unfold csRasRtTrySendNext
  cases hq : t.rtQueue with
  | nil => exact .of_nil hq
  | cons item rest =>
    rw [hq] at hwait hcan
    obtain ⟨hidle, hpos⟩ := hwait item (mem_cons_self ..)
    dsimp only
    rw [if_neg (by simp [hidle])]
    exact rtInv_splitHead rfl (fun x hx => hwait x (mem_cons_of_mem _ hx))
      (hcan (cons_ne_nil _ _)) hpos

/-! ## Queueing a result -/

theorem rtMakeRoom_cons (fuel : Nat) (hproc : item.processing = true)
    (rest : List RasRtQueuedData) :
    ∃ rest', (rtMakeRoom fuel (item :: rest)).2 = item :: rest' ∧ ∀ x ∈ rest', x ∈ rest := by
  obtain ⟨rest', hroom, hsub⟩ := Eviction.makeRoom_cons hproc fuel rest
  rw [rtMakeRoom_eq]
  exact ⟨rest', hroom, fun x hx => hsub.subset hx⟩

theorem forall_take_two {as : List Bool} (h₁ : as.headD true = true)
    (h₂ : as.tail.headD true = true) : ∀ r ∈ as.take 2, r = true := by
  rcases as with _ | ⟨a, _ | ⟨b, as⟩⟩
  · simp
  · simpa using h₁
  · simpa using And.intro h₁ h₂

theorem rtInv_result_cons (h : RtInv out s) (hq : s.rtQueue = item :: rest)
    (result : CsSubeventResult) :
    RtInv (out ++ newSends s (csRasProcessRealTimeRangingData s result))
      (csRasProcessRealTimeRangingData s result) := by
  have hlen := le_length_rasSubeventDataConversion s.rasFilter s.roleInitiator result
  obtain ⟨hproc, howed, hacts⟩ := h.head item (by rw [hq]; rfl)
  have hwait := h.tail
  rw [hq] at hwait
  obtain ⟨rest', hroom, hsub⟩ := rtMakeRoom_cons (rest.length + 1) hproc rest
  have hwait' : ∀ x ∈ rest', RtWaiting x := fun x hx => hwait x (hsub x hx)
  have hhead : ∀ (t : RasSrv) (q : List RasRtQueuedData), t.rtQueue = item :: q →
      t.charNotifyState = s.charNotifyState → (∀ x ∈ q, RtWaiting x) →
      RtInv (out ++ newSends s t) t := fun t q ht hbits =>
    .of_head ht hproc (howed.mono fun r hr => mem_append_left _ hr) (by rwa [RtActs, hbits])
  unfold csRasProcessRealTimeRangingData
  rw [alloc_eq_headD]
  dsimp only
  rw [hq, length_cons, hroom]
  split
  · exact h.kept ⟨hq.symm, rfl, prefix_refl _⟩
  · split
    · exact hhead _ rest' rfl rfl hwait'
    · rw [alloc_eq_headD]
      split
      · exact hhead _ rest' rfl rfl hwait'
      · rw [cons_append]
        unfold csRasRtTrySendNext
        dsimp only
        rw [if_pos hproc]
        exact hhead _ _ rfl rfl (Keyed.forall_mem_concat.mpr
          ⟨hwait', rfl, Nat.lt_of_lt_of_le (by decide) hlen⟩)

theorem rtInv_result (h : RtInv out s) (result : CsSubeventResult)
    (hcan : s.rtQueue = [] → (∀ r ∈ s.allocResults.take 2, r = true) →
      RtCanSend s (s.allocResults.drop 2) s.sendResults) :
    RtInv (out ++ newSends s (csRasProcessRealTimeRangingData s result))
      (csRasProcessRealTimeRangingData s result) := by
  have hlen := le_length_rasSubeventDataConversion s.rasFilter s.roleInitiator result
  cases hq : s.rtQueue with
  | cons item rest => exact rtInv_result_cons h hq result
  | nil =>
    unfold csRasProcessRealTimeRangingData
    rw [alloc_eq_headD]
    dsimp only
    split
    · exact h.kept ⟨rfl, rfl, prefix_refl _⟩
    next hok₁ =>
      rw [hq, show rtMakeRoom ([] : List RasRtQueuedData).length [] = (true, []) from rfl,
        if_neg (by decide), alloc_eq_headD]
      split
      · exact h.kept ⟨hq.symm, rfl, prefix_refl _⟩
      next hok₂ =>
        have htwo := forall_take_two (by simpa using hok₁) (by simpa using hok₂)
        have hdrop : s.allocResults.tail.tail = s.allocResults.drop 2 := by
          rw [← drop_one, ← drop_one, drop_drop]
        have hcan := hcan hq htwo
        rw [← hdrop] at hcan
        refine rtInv_tryStart rfl ?_ fun _ => hcan
        intro x hx
        rw [nil_append, mem_singleton] at hx
        rw [hx]
        exact ⟨rfl, Nat.lt_of_lt_of_le (by decide) hlen⟩

/-! ## Completions -/

/-- What is needed of a completion while an item is being sent: it reports success, and what
is to be sent next can be sent. -/
def RtCompletes (s : RasSrv) (statusOk : Bool) (allocs sends : List Bool) : Prop :=
  ∀ item ∈ s.rtQueue.head?, statusOk = true
    ∧ ((item.remaining = 0 ∧ s.rtQueue.tail = []) ∨ RtCanSend s allocs sends)
deriving Decidable

theorem rtInv_pop (hwait : ∀ x ∈ rest, RtWaiting x)
    (hcan : rest = [] ∨ RtCanSend s s.allocResults s.sendResults) :
    RtInv (out ++ newSends s (csRasRtTrySendNext { s with rtQueue := rest }))
      (csRasRtTrySendNext { s with rtQueue := rest }) :=
  rtInv_tryStart rfl hwait fun hne => hcan.resolve_left hne

theorem rtInv_rtNotifyCb
    (hshape : ∀ item ∈ s.rtQueue.head?, item.processing = true ∧ RtActs s item)
    (htail : ∀ item ∈ s.rtQueue.tail, RtWaiting item)
    (hok : RtCompletes s true s.allocResults s.sendResults) :
    RtInv (out ++ newSends s (rtNotifyCb s)) (rtNotifyCb s) := by
  cases hq : s.rtQueue with
  | nil =>
    have hcb : rtNotifyCb s = s := by
      unfold rtNotifyCb rasDtRdIndicateCb
      simp [hq]
    rw [hcb]
    exact .of_nil hq
  | cons item rest =>
    have hitem : item ∈ s.rtQueue.head? := by rw [hq]; rfl
    obtain ⟨hproc, hacts⟩ := hshape item hitem
    obtain ⟨-, hok⟩ := hok item hitem
    rw [hq] at htail hok
    have hpop : item.remaining = 0 → RtInv (out ++ newSends s (csRasRtTrySendNext
        { s with rtQueue := rest })) (csRasRtTrySendNext { s with rtQueue := rest }) :=
      fun _ => rtInv_pop htail (hok.imp_left (·.2))
    unfold rtNotifyCb rasDtRdIndicateCb
    rw [hq]
    dsimp only
    split
    · split
      next hpos =>
        exact rtInv_splitHead hproc htail (hok.resolve_left fun h => by omega) hpos
      next hpos => exact hpop (Nat.eq_zero_of_not_pos hpos)
    next hind =>
      obtain ⟨hnotify, hrem⟩ := hacts.resolve_left hind
      rw [if_pos hnotify, if_pos hrem]
      exact hpop hrem

/-! ## Every step -/

theorem RtOwed.eraseIdx {k : Nat} {r : RasSend} (h : RtOwed out item)
    (hr : out[k]? = some r) (hattr : r.attr ≠ .realTime) : RtOwed (out.eraseIdx k) item := by
  obtain ⟨x, hx, hxattr, howner⟩ := h
  obtain ⟨j, hj⟩ := mem_iff_getElem?.mp hx
  refine ⟨x, mem_eraseIdx_iff_getElem?.mpr ⟨j, ?_, hj⟩, hxattr, howner⟩
  rintro rfl
  rw [hr] at hj
  cases hj
  exact hattr hxattr

theorem rtKept_csRasGattsCccCfgCb {event : RasCccCfgChangeEvt} (hevent : event ≠ .rttData)
    (value : List UInt8) : RtKept s (csRasGattsCccCfgCb s event value) := by
  unfold csRasGattsCccCfgCb rangeOnDemDtCccCfgChanged
  dsimp only
  repeat' split
  · exact absurd rfl hevent
  all_goals exact ⟨rfl, rfl, prefix_refl _⟩

theorem rtQueue_csRasGattsCccCfgCb (event : RasCccCfgChangeEvt) (value : List UInt8) :
    (csRasGattsCccCfgCb s event value).rtQueue = s.rtQueue := by
  unfold csRasGattsCccCfgCb rangeRttDtCccCfgChanged rangeOnDemDtCccCfgChanged
  dsimp only
  repeat' split
  all_goals rfl

def RasEvent.result : RasEvent → Option CsSubeventResult
  | .subevent result => some result
  | _ => none

def RasEvent.writesRtCcc : RasEvent → Bool
  | .cccWrite .rttData _ => true
  | _ => false

/-- What is needed of a result that is queued while nothing is being sent: it can be sent. Two
allocations come before those of the segments. -/
def RtStarts (s : RasSrv) (i : RasInput) : Prop :=
  ∀ result ∈ i.event.result, result.header.subeventDoneStatus = csComplete →
    rasCheckRangingMode s = .realTime → s.rtQueue = [] →
    (∀ r ∈ i.allocs.take 2, r = true) → RtCanSend s (i.allocs.drop 2) i.sends
deriving Decidable

/-- The subscription to real-time data is not written while an item is queued, a result that
starts the queue can be sent, and so can what a completion is to send. -/
def RtStepOk (y : RasSys) : RasSysEvent → Prop
  | .input i => RtStarts y.srv i ∧ (i.event.writesRtCcc = true → y.srv.rtQueue = [])
  | .complete k statusOk allocs sends =>
    ∀ r ∈ y.outstanding[k]?, r.attr = .realTime → RtCompletes y.srv statusOk allocs sends

instance (y : RasSys) (e : RasSysEvent) : Decidable (RtStepOk y e) := by
  cases e <;> unfold RtStepOk <;> infer_instance

theorem rtInv_input {i : RasInput} (h : RtInv out s) (hok : RtStarts s i)
    (hccc : i.event.writesRtCcc = true → s.rtQueue = [])
    (hdis : i.event ≠ .disconnect) (hnot : i.event ≠ .notifyCb true .realTime) :
    RtInv (out ++ newSends s (rasStep s i)) (rasStep s i) := by
  have hload : RtInv out { s with allocResults := i.allocs, sendResults := i.sends } :=
    ⟨h.head, h.tail⟩
  by_cases hrt : ∃ r, i.event = .subevent r ∧ r.header.subeventDoneStatus = csComplete
      ∧ rasCheckRangingMode s = .realTime
  · obtain ⟨result, he, hdone, hmode⟩ := hrt
    have hstep : rasStep s i = csRasProcessRealTimeRangingData
        { s with allocResults := i.allocs, sendResults := i.sends } result := by
      rw [rasStep, he]
      exact if_pos ⟨hdone, hmode⟩
    rw [hstep]
    exact rtInv_result hload result (hok result (by rw [he]; rfl) hdone hmode)
  · by_cases hwrite : ∃ c value, i.event = .cccWrite c value
    · obtain ⟨c, value, he⟩ := hwrite
      have hstep : rasStep s i = csRasGattsCccCfgCb
          { s with allocResults := i.allocs, sendResults := i.sends } c value := by
        rw [rasStep, he]
        rfl
      rw [hstep]
      by_cases hc : c = .rttData
      · refine .of_nil ?_
        rw [rtQueue_csRasGattsCccCfgCb]
        exact hccc (by rw [he, hc]; rfl)
      · exact hload.kept (rtKept_csRasGattsCccCfgCb hc value)
    · refine hload.kept (Quiet.rtKept (o := none) ?_)
      exact quiet_rasHandle (fun c value he => hwrite ⟨c, value, he⟩)
        (fun r he hr => hrt ⟨r, he, hr.1, hr.2⟩) hdis hnot

theorem rtInv_sysInput {y : RasSys} {i : RasInput} (h : RtInv y.outstanding y.srv)
    (hok : RtStepOk y (.input i)) : RtInv (y.input i).outstanding (y.input i).srv := by
  unfold RasSys.input
  split
  · exact h
  next he =>
    have hstep : rasStep y.srv i = rasDisconnCb
        { y.srv with allocResults := i.allocs, sendResults := i.sends } := by
      rw [rasStep, he]
      rfl
    unfold RasSys.absorb
    rw [hstep, rasDisconnCb]
    cases hconn : y.srv.connected with
    | false => exact ⟨h.head, h.tail⟩
    | true => exact ⟨nofun, nofun⟩
  next hnot hdis => exact rtInv_input h hok.1 hok.2 hdis (hnot true .realTime)

theorem rtInv_sysComplete {y : RasSys} {k : Nat} {statusOk : Bool} {allocs sends : List Bool}
    (h : RtInv y.outstanding y.srv)
    (hok : RtStepOk y (.complete k statusOk allocs sends)) :
    RtInv (y.complete k statusOk allocs sends).outstanding
      (y.complete k statusOk allocs sends).srv := by
  unfold RasSys.complete
  split
  · exact h
  next r hr =>
    by_cases hattr : r.attr = .realTime
    · have hcomp := hok r hr hattr
      cases statusOk with
      | true =>
        rw [hattr]
        exact rtInv_rtNotifyCb (s := { y.srv with allocResults := allocs, sendResults := sends })
          (fun item hitem => ⟨(h.head item hitem).1, (h.head item hitem).2.2⟩) h.tail hcomp
      | false =>
        have hq : y.srv.rtQueue = [] := head?_eq_none_iff.mp
          (Option.eq_none_iff_forall_not_mem.mpr fun item hitem => nomatch (hcomp item hitem).1)
        exact rtInv_input (.of_nil hq) nofun nofun nofun nofun
    · refine rtInv_input ⟨fun item hitem => ?_, h.tail⟩ nofun nofun nofun ?_
      · obtain ⟨hproc, howed, hacts⟩ := h.head item hitem
        exact ⟨hproc, howed.eraseIdx hr hattr, hacts⟩
      · intro he
        injection he with _ ha
        exact hattr ha

theorem rtInv_sysStep {y : RasSys} {e : RasSysEvent} (h : RtInv y.outstanding y.srv)
    (hok : RtStepOk y e) : RtInv (sysStep y e).outstanding (sysStep y e).srv := by
  cases e with
  | input i => exact rtInv_sysInput h hok
  | complete k statusOk allocs sends => exact rtInv_sysComplete h hok

/-- **No wedge.** In every run whose steps meet the condition a marked head always has a
completion of its own to come, which will send the rest of it or remove it. -/
theorem rt_live (es : List RasSysEvent) (h : Guarded sysStep RtStepOk rasSysEnabled es) :
    ∀ y ∈ visited sysStep rasSysEnabled es, RtLive y := by
  have hinit : RtInv rasSysEnabled.outstanding rasSysEnabled.srv := ⟨nofun, nofun⟩
  have hstep : ∀ (y : RasSys) (e : RasSysEvent), RtInv y.outstanding y.srv → RtStepOk y e →
      RtInv (sysStep y e).outstanding (sysStep y e).srv := fun _ _ => rtInv_sysStep
  have hinv := h.invariant hstep hinit
  intro y hy item hitem _
  exact ((hinv y hy).head item hitem).2

def rtResult : RasSysEvent :=
  .input ⟨.subevent ⟨⟨7, 0, 0, 1, 0, 0, 0, 0, 0, 0, 1⟩, [0, 5, 3, 10, 20, 30]⟩, [], []⟩

def rtConnected : List RasSysEvent :=
  [.input ⟨.connect, [], []⟩, .input ⟨.cccWrite .rttData [1, 0], [], []⟩]

def rtNotified : List RasSysEvent :=
  rtConnected ++ [.input ⟨.mtuUpdated 13, [], []⟩, rtResult, .complete 0 true [] [],
    .complete 0 true [] []]

theorem notified_item_live :
    Guarded sysStep RtStepOk rasSysEnabled rtNotified
      ∧ ∀ y ∈ visited sysStep rasSysEnabled rtNotified, RtLive y :=
  ⟨by decide +kernel, rt_live _ (by decide +kernel)⟩

/-- Without an MTU update the first result is marked and never sent: nothing is
outstanding for it, and neither an MTU update nor further results help. -/
theorem small_mtu_wedges :
    ¬ RtLive (after sysStep rasSysEnabled (rtConnected ++ [rtResult]))
      ∧ (after sysStep rasSysEnabled (rtConnected ++ [rtResult] ++
          .input ⟨.mtuUpdated 100, [], []⟩ :: List.replicate 6 rtResult)).outstanding = []
      ∧ (after sysStep rasSysEnabled (rtConnected ++ [rtResult] ++
          .input ⟨.mtuUpdated 100, [], []⟩ :: List.replicate 6 rtResult)).srv.rtQueue.head?.map
            (fun item => (item.id, item.processing)) = some (0, true) := by
  decide +kernel

end BtFramework
