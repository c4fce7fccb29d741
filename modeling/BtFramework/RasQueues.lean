import BtFramework.RasSends
import BtFramework.Runs
import BtFramework.RasProcedures

/-!
# The two queues of the Ranging Service

Real-time items wait in a queue of at most five, on-demand procedures in a list of at most ten.
Numbers are given out in the order of arrival, so the order in which real-time items are sent
can be read off the numbers the sends carry.
-/

namespace BtFramework

open Eviction Keyed List RasSrv Runs

/-! ## Order -/

def RasSrv.sentIds (s : RasSrv) : List Nat := s.sent.filterMap (·.owner)

structure RtOrdered (s : RasSrv) : Prop where
  order : (s.sentIds ++ s.rtIds).Pairwise (· ≤ ·)
  fresh : ∀ id ∈ s.sentIds ++ s.rtIds, id < s.nextId
  bound : s.rtIds.length ≤ rasRtQueueMax
  owned : ∀ r ∈ s.sent, (r.attr = .realTime ↔ r.owner.isSome = true)

variable {s s' : RasSrv} {o : Option Nat}

theorem Sends.sentIds (h : Sends o s s') :
    ∃ new, s'.sentIds = s.sentIds ++ new ∧ ∀ id ∈ new, o = some id := by
  obtain ⟨new, hsent, hnew⟩ := h.sent
  refine ⟨new.filterMap (·.owner), ?_, fun id hid => ?_⟩
  · rw [RasSrv.sentIds, RasSrv.sentIds, hsent, filterMap_append]
  · obtain ⟨r, hr, howner⟩ := mem_filterMap.mp hid
    exact (hnew r hr).1.symm.trans howner

theorem Sends.sentIds_none (h : Sends none s s') : s'.sentIds = s.sentIds := by
  obtain ⟨new, hids, hnew⟩ := h.sentIds
  cases new with
  | nil => rw [hids, append_nil]
  | cons id new => cases hnew id (mem_cons_self ..)

theorem Sends.owned (h : Sends o s s')
    (howned : ∀ r ∈ s.sent, (r.attr = .realTime ↔ r.owner.isSome = true)) :
    ∀ r ∈ s'.sent, (r.attr = .realTime ↔ r.owner.isSome = true) := by
  obtain ⟨new, hsent, hnew⟩ := h.sent
  rw [hsent]
  exact forall_mem_append.mpr ⟨howned, fun r hr => (hnew r hr).1 ▸ (hnew r hr).2⟩

theorem RtOrdered.edit (h : RtOrdered s) (hedit : RtEdit s s') : RtOrdered s' := by
  have hsent := hedit.sends.sentIds_none
  have howned := hedit.sends.owned h.owned
  have hnext := hedit.sends.nextId
  obtain ⟨old, hsub, hids⟩ := hedit.ids
  have hsub' : (s.sentIds ++ old).Sublist (s.sentIds ++ s.rtIds) := hsub.append_left _
  rcases hids with hids | ⟨hids, hlt, hroom⟩
  · refine ⟨?_, ?_, ?_, howned⟩
    · rw [hsent, hids]
      exact h.order.sublist hsub'
    · rw [hsent, hids]
      exact fun id hid => Nat.lt_of_lt_of_le (h.fresh id (hsub'.subset hid)) hnext
    · rw [hids]
      exact Nat.le_trans hsub.length_le h.bound
  · refine ⟨?_, ?_, ?_, howned⟩
    · rw [hsent, hids, ← append_assoc]
      refine pairwise_append.mpr ⟨h.order.sublist hsub', pairwise_singleton _ _, ?_⟩
      intro id hid next hmem
      rw [mem_singleton.mp hmem]
      exact Nat.le_of_lt (h.fresh id (hsub'.subset hid))
    · rw [hsent, hids, ← append_assoc]
      exact forall_mem_concat.mpr
        ⟨fun id hid => Nat.lt_of_lt_of_le (h.fresh id (hsub'.subset hid)) hnext, hlt⟩
    · rw [hids, length_append]
      exact hroom

theorem RtOrdered.head (h : RtOrdered s) (hsends : Sends s.rtIds.head? s s')
    (hids : s'.rtIds = s.rtIds) : RtOrdered s' := by
  obtain ⟨new, hsent, hnew⟩ := hsends.sentIds
  obtain ⟨hold, hqueue, hacross⟩ := pairwise_append.mp h.order
  have hmem : ∀ id ∈ new, id ∈ s.rtIds := fun id hid => mem_of_mem_head? (hnew id hid)
  have hleast : ∀ id ∈ new, ∀ id' ∈ s.rtIds, id ≤ id' := by
    intro id hid id' hid'
    obtain ⟨rest, hrest⟩ := head?_eq_some_iff.mp (hnew id hid)
    rw [hrest] at hqueue hid'
    rcases mem_cons.mp hid' with rfl | hid'
    · exact Nat.le_refl _
    · exact (pairwise_cons.mp hqueue).1 id' hid'
  have hsub : ∀ id ∈ new ++ s.rtIds, id ∈ s.rtIds := fun id hid =>
    (mem_append.mp hid).elim (hmem id) (·)
  refine ⟨?_, ?_, by rw [hids]; exact h.bound, hsends.owned h.owned⟩
  · rw [hsent, hids, append_assoc]
    refine pairwise_append.mpr ⟨hold, pairwise_append.mpr ⟨?_, hqueue, hleast⟩, ?_⟩
    · exact pairwise_of_forall_mem_list fun id hid id' hid' =>
        hleast id hid id' (hmem id' hid')
    · exact fun id hid id' hid' => hacross id hid id' (hsub id' hid')
  · rw [hsent, hids, append_assoc]
    intro id hid
    refine Nat.lt_of_lt_of_le (h.fresh id ?_) hsends.nextId
    rcases mem_append.mp hid with hid | hid
    · exact mem_append_left _ hid
    · exact mem_append_right _ (hsub id hid)

theorem RtOrdered.headSends (h : RtOrdered s) (hs : HeadSends s s') : RtOrdered s' := by
  obtain ⟨t, hedit, hhead, hids⟩ := hs
  exact (h.edit hedit).head hhead hids

/-- The numbers a list may have after a result: one entry is evicted if it was
full, the oldest that is not being sent, and a new one may follow those that
are kept. -/
structure Admits {α : Type} (id : α → Nat) (busy : α → Bool) (max next : Nat) (l : List α)
    (ids : List Nat) : Prop where
  room : ∃ kept, RoomMade busy max l kept ∧ (ids = kept.map id ∨ ids = kept.map id ++ [next])
  busy : ∀ x ∈ l, busy x = true → id x ∈ ids

end BtFramework
