import BtFramework.L2capOps

/-!
# The ids of the L2CAP channels

A channel gets its id in `alloc_free_channel` and gives it back in `free_l2cap_channel`, when
its node leaves the list. The ids of the channels are the numbers the allocator counts as taken,
so no id is used twice, and what `index_free` asserts holds at each of its calls.
-/

namespace BtFramework

open IndexAllocator (Answers Call)
open IndexAllocator Keyed List Runs

namespace L2capManager

variable {m m' : L2capManager} {server : Bool} {calls : List Call}

structure IdsOwned (m : L2capManager) : Prop extends PtrsUnique m where
  nodup_taken : m.ids.taken.Nodup
  owned : (m.owners.map (·.2)).Perm m.ids.taken

theorem idsOwned_init : init.IdsOwned where
  toPtrsUnique := ptrsUnique_init
  nodup_taken := nodup_nil
  owned := .refl _

theorem IdsOwned.of_owners (h : m.IdsOwned) (howners : m'.owners = m.owners)
    (hids : m'.ids = m.ids) (hptr : m'.nextPtr = m.nextPtr) :
    m'.IdsOwned ∧ Answers m.ids [] m'.ids := by
  refine ⟨⟨h.toPtrsUnique.of_owners howners hptr, hids ▸ h.nodup_taken, ?_⟩, hids ▸ .nil m'.ids⟩
  rw [howners, hids]
  exact h.owned

theorem IdsOwned.op (h : m.IdsOwned) (hop : ManagerOp server m calls m') :
    m'.IdsOwned ∧ Answers m.ids calls m'.ids := by
  have hptrs := h.toPtrsUnique.op hop
  cases hop with
  | quiet hsame => exact h.of_owners hsame.owners hsame.ids hsame.nextPtr
  | connect _ hkeys hids _ hptr => exact h.of_owners (owners_of_connect hkeys) hids hptr
  | @starve ids halloc =>
    obtain rfl := indexAlloc_none halloc
    exact ⟨h, .alloc halloc (.nil _)⟩
  | @giveBack id ids halloc =>
    have htaken : (ids.indexFree id).taken = m.ids.taken := by
      rw [indexFree, (indexAlloc_some halloc).2, erase_cons_head]
    refine ⟨⟨hptrs, htaken ▸ h.nodup_taken, htaken ▸ h.owned⟩, .alloc halloc (.free ?_ (.nil _))⟩
    rw [(indexAlloc_some halloc).2]
    exact mem_cons_self ..
  | @create channel ids halloc hptr hrole =>
    obtain ⟨hfree, htaken⟩ := indexAlloc_some halloc
    refine ⟨⟨hptrs, ?_, ?_⟩, .alloc halloc (.nil _)⟩
    · exact htaken ▸ nodup_cons.mpr ⟨hfree, h.nodup_taken⟩
    · rw [added_owners, map_append, L2capManager.added, htaken]
      exact (perm_append_singleton _ _).trans (h.owned.cons channel.id)
  | @remove channel hmem =>
    have hmem : channel.owner ∈ m.owners := keys_map_owner ▸ mem_map_of_mem hmem
    have htaken := h.owned.subset (mem_map_of_mem hmem)
    have hrest := (perm_cons_remove h.nodup hmem).map (·.2)
    refine ⟨⟨hptrs, ?_, ?_⟩, .free htaken ?_⟩
    · rw [removeChannel_ids]
      exact h.nodup_taken.erase _
    · rw [removeChannel_owners, removeChannel_ids]
      exact List.Perm.cons_inv ((hrest.symm.trans h.owned).trans (perm_cons_erase htaken))
    · rw [removeChannel_ids]
      exact .nil _
  | serve _ howners hids hptr => exact h.of_owners howners hids hptr

theorem IdsOwned.run (h : m.IdsOwned) (hops : OpRun server m calls m') :
    m'.IdsOwned ∧ Answers m.ids calls m'.ids := by
  induction hops with
  | nil m => exact ⟨h, .nil m.ids⟩
  | cons hop _ ih =>
    obtain ⟨hmid, hcalls⟩ := h.op hop
    obtain ⟨hend, hrest⟩ := ih hmid
    exact ⟨hend, hcalls.append hrest⟩

theorem IdsOwned.step (h : m.IdsOwned) (e : L2capEvent) :
    (m.step e).IdsOwned ∧ Answers m.ids (m.idCalls e) (m.step e).ids :=
  h.run (step_ops h.toPtrsUnique e)

/-! ## Runs -/

/-- The calls of the allocator in a run. -/
def idLog (m : L2capManager) : List L2capEvent → List Call
  | [] => []
  | e :: es => m.idCalls e ++ (m.step e).idLog es

theorem idsOwned_after (h : m.IdsOwned) (es : List L2capEvent) :
    (after step m es).IdsOwned ∧ Answers m.ids (m.idLog es) (after step m es).ids := by
  induction es generalizing m with
  | nil => exact ⟨h, .nil m.ids⟩
  | cons e es ih =>
    obtain ⟨hmid, hcalls⟩ := h.step e
    obtain ⟨hend, hrest⟩ := ih hmid
    exact ⟨hend, hcalls.append hrest⟩

/-- After any run the channels have distinct ids, and these are the ids taken. Ids were freed only
while taken, each as often as handed out, less the channel that still has it. -/
theorem liveIds_taken_released_once (es : List L2capEvent) :
    ((after step init es).channels.map (·.id)).Nodup
      ∧ ((after step init es).channels.map (·.id)).Perm (after step init es).ids.taken
      ∧ Answers init.ids (init.idLog es) (after step init es).ids
      ∧ ((init.idLog es).filterMap Call.handedOut).Perm
          ((init.idLog es).filterMap Call.freed ++ (after step init es).channels.map (·.id)) := by
  obtain ⟨hend, hcalls⟩ := idsOwned_after idsOwned_init es
  have howned : ((after step init es).channels.map (·.id)).Perm (after step init es).ids.taken := by
    have howned := hend.owned
    rwa [owners, map_map] at howned
  have hperm := hcalls.perm
  refine ⟨howned.nodup_iff.mpr hend.nodup_taken, howned, hcalls, ?_⟩
  have hnone : init.ids.taken = [] := rfl
  rw [hnone, append_nil] at hperm
  exact hperm.trans (howned.symm.append_left _)

end L2capManager

end BtFramework
