import BtFramework.L2capOps

/-!
# The PSMs of the L2CAP servers

`psm_map` has a bit for each dynamic PSM. `l2cap_listen_channel` sets it before there is a
channel, and `free_le_dynamic_psm` clears it when it finds neither a listening channel that is
not connected nor an accepted one that is.
-/

namespace BtFramework

open IndexAllocator (Call)
open Keyed List Runs

namespace L2capManager

variable {m m' : L2capManager} {channel : ManagedChannel}

/-! ## The bit map as a set of PSMs -/

def Reserves (map : BitVec 64) (psm : Nat) : Prop :=
  psmInRange psm = true ∧ map.getLsbD (psm - lePsmDynamicMin) = true
deriving Decidable

theorem psmInRange_iff {psm : Nat} : psmInRange psm = true ↔ 128 ≤ psm ∧ psm < 192 := by
  rw [psmInRange, Bool.and_eq_true, decide_eq_true_eq, decide_eq_true_eq]
  rfl

theorem getLsbD_psmBitMask {psm i : Nat} (hi : i < 64) :
    (psmBitMask psm).getLsbD i = decide (i = psm - lePsmDynamicMin) := by
  rw [psmBitMask, BitVec.getLsbD_shiftLeft, BitVec.getLsbD_one]
  grind

section Bits

variable {map : BitVec 64} {psm q : Nat}

theorem psmBit_eq_iff (hpsm : psmInRange psm = true) (hq : psmInRange q = true) :
    q - lePsmDynamicMin = psm - lePsmDynamicMin ↔ q = psm := by
  rw [psmInRange_iff] at hpsm hq
  rw [lePsmDynamicMin]
  omega

theorem psmBit_lt (hq : psmInRange q = true) : q - lePsmDynamicMin < 64 := by
  rw [psmInRange_iff] at hq
  rw [lePsmDynamicMin]
  omega

theorem reserves_or (hpsm : psmInRange psm = true) :
    Reserves (map ||| psmBitMask psm) q ↔ Reserves map q ∨ q = psm := by
  by_cases hq : psmInRange q = true
  · simp [Reserves, hq, getLsbD_psmBitMask (psmBit_lt hq), psmBit_eq_iff hpsm hq]
  · have hne : q ≠ psm := fun heq => hq (heq ▸ hpsm)
    simp [Reserves, hq, hne]

theorem reserves_and_not (hpsm : psmInRange psm = true) :
    Reserves (map &&& ~~~(psmBitMask psm)) q ↔ Reserves map q ∧ q ≠ psm := by
  rw [Reserves, Reserves, and_assoc]
  refine and_congr_right fun hq => ?_
  have hlt := psmBit_lt hq
  rw [BitVec.getLsbD_and, BitVec.getLsbD_not, getLsbD_psmBitMask hlt, Bool.and_eq_true]
  simp [hlt, psmBit_eq_iff hpsm hq]

theorem and_psmBitMask_eq_zero (hpsm : psmInRange psm = true) :
    map &&& psmBitMask psm = 0 ↔ ¬ Reserves map psm := by
  have hbits : (map &&& psmBitMask psm = 0) ↔ map.getLsbD (psm - lePsmDynamicMin) = false := by
    rw [BitVec.eq_of_getLsbD_eq_iff]
    refine ⟨fun h => ?_, fun h i hi => ?_⟩
    · simpa [getLsbD_psmBitMask (psmBit_lt hpsm)] using h _ (psmBit_lt hpsm)
    · rw [BitVec.getLsbD_and, getLsbD_psmBitMask hi]
      by_cases heq : i = psm - lePsmDynamicMin <;> simp [heq, h]
  rw [hbits, Reserves, Bool.eq_false_iff, not_and]
  exact ⟨fun h _ => h, fun h => h hpsm⟩

theorem eq_of_reserves {map map' : BitVec 64} (h : ∀ psm, Reserves map psm ↔ Reserves map' psm) :
    map = map' := by
  refine BitVec.eq_of_getLsbD_eq fun i hi => ?_
  have hrange : psmInRange (lePsmDynamicMin + i) = true := by
    rw [psmInRange_iff, lePsmDynamicMin]
    omega
  have hbit := h (lePsmDynamicMin + i)
  rw [Reserves, Reserves, Nat.add_sub_cancel_left] at hbit
  exact Bool.eq_iff_iff.mpr ⟨fun hi => (hbit.mp ⟨hrange, hi⟩).2,
    fun hi => (hbit.mpr ⟨hrange, hi⟩).2⟩

end Bits

/-! ## Exactness -/

def Serves (m : L2capManager) (psm : Nat) : Prop :=
  ∃ ch ∈ m.channels, ch.role ≠ .client ∧ ch.psm = psm
deriving Decidable

/-- The bits are those of the PSMs served. -/
def PsmExact (m : L2capManager) : Prop := ∀ psm, Reserves m.psmMap psm ↔ m.Serves psm

def ChannelKey.ServesPsm (psm : Nat) (k : ChannelKey) : Prop := k.role ≠ .client ∧ k.psm = psm

theorem serves_iff {psm : Nat} : m.Serves psm ↔ ∃ k ∈ m.keys, ChannelKey.ServesPsm psm k := by
  rw [keys]
  simp only [mem_map, exists_exists_and_eq_and]
  rfl

structure PsmsInUse (m : L2capManager) : Prop extends PtrsUnique m where
  found : ∀ k ∈ m.keys, k.role ≠ .client → (k.connected = true ↔ k.role = .serverAccept)
  exact : m.PsmExact

theorem psmsInUse_init : init.PsmsInUse where
  toPtrsUnique := ptrsUnique_init
  found := fun _ h => nomatch h
  exact := by
    intro psm
    constructor
    · rintro ⟨-, hbit⟩
      rw [init, show (0 : BitVec 64) = 0#64 from rfl, BitVec.getLsbD_zero] at hbit
      cases hbit
    · rintro ⟨_, hmem, -⟩
      cases hmem

theorem serves_congr {psm : Nat} (h : m'.channels = m.channels) : m'.Serves psm ↔ m.Serves psm := by
  rw [Serves, Serves, h]

theorem isSome_findL2capChannelByConnParam {psm : Nat} {role : L2capRole} {isConnected : Bool}
    (hrole : role ≠ .client) :
    (m.findL2capChannelByConnParam none psm role isConnected).isSome = true ↔
      ∃ k ∈ m.keys, k.psm = psm ∧ k.role = role ∧ k.connected = isConnected := by
  have hfind : m.findL2capChannelByConnParam none psm role isConnected
      = m.channels.find? fun ch =>
          ch.psm = psm ∧ ch.role = role ∧ ch.rx.channelConnected = isConnected := by
    cases role <;> first | rfl | exact absurd rfl hrole
  rw [hfind, find?_isSome, keys]
  simp only [mem_map, exists_exists_and_eq_and, decide_eq_true_eq]
  rfl

theorem reserves_freeLeDynamicPsm {psm q : Nat} (hpsm : psmInRange psm = true)
    (hfound : ∀ k ∈ m.keys, k.role ≠ .client → (k.connected = true ↔ k.role = .serverAccept)) :
    Reserves (m.freeLeDynamicPsm psm).psmMap q ↔
      Reserves m.psmMap q ∧ (q = psm → m.Serves psm) := by
  have hlistens : L2capRole.serverListen ≠ .client := by decide
  have haccepts : L2capRole.serverAccept ≠ .client := by decide
  have hserves : m.Serves psm ↔
      (m.findL2capChannelByConnParam none psm .serverListen false).isSome = true
        ∨ (m.findL2capChannelByConnParam none psm .serverAccept true).isSome = true := by
    rw [isSome_findL2capChannelByConnParam hlistens, isSome_findL2capChannelByConnParam haccepts,
      serves_iff]
    constructor
    · rintro ⟨k, hk, hrole, hkpsm⟩
      have hconnected := hfound k hk hrole
      cases hkrole : k.role with
      | client => exact absurd hkrole hrole
      | serverListen => exact .inl ⟨k, hk, hkpsm, hkrole, by simpa [hkrole] using hconnected⟩
      | serverAccept => exact .inr ⟨k, hk, hkpsm, hkrole, hconnected.mpr hkrole⟩
    · rintro (⟨k, hk, hkpsm, hrole, -⟩ | ⟨k, hk, hkpsm, hrole, -⟩)
      · exact ⟨k, hk, hrole ▸ hlistens, hkpsm⟩
      · exact ⟨k, hk, hrole ▸ haccepts, hkpsm⟩
  rw [freeLeDynamicPsm, hpsm, hserves]
  by_cases hlisten : (m.findL2capChannelByConnParam none psm .serverListen false).isSome = true
  · simp [hlisten]
  by_cases haccept : (m.findL2capChannelByConnParam none psm .serverAccept true).isSome = true
  · simp [hlisten, haccept]
  · simp only [hlisten, haccept, or_self, Bool.false_eq_true, imp_false]
    exact reserves_and_not hpsm

/-! ## Operations -/

section Ops

variable {calls : List Call}

theorem PtrsUnique.key_unique (h : m.PtrsUnique) {k : ChannelKey} (hk : k ∈ m.keys)
    (hmem : channel.key ∈ m.keys) (hptr : k.ptr = channel.ptr) : k = channel.key := by
  have hnodup : (m.keys.map (·.ptr)).Nodup := by
    have hnodup := h.nodup
    rwa [← keys_map_owner, map_map] at hnodup
  exact inj_on_of_nodup_map hnodup hk hmem hptr

theorem PsmsInUse.of_servers (h : m.PsmsInUse) (hptrs : m'.PtrsUnique)
    (hservers : ∀ k, k.role ≠ .client → (k ∈ m'.keys ↔ k ∈ m.keys))
    (hpsm : m'.psmMap = m.psmMap) : m'.PsmsInUse where
  toPtrsUnique := hptrs
  found := fun k hk hrole => h.found k ((hservers k hrole).mp hk) hrole
  exact := by
    intro psm
    rw [hpsm, h.exact psm, serves_iff, serves_iff]
    exact exists_congr fun k => and_congr_left fun hserves => (hservers k hserves.1).symm

theorem reserves_removeChannel {psm : Nat} (hrole : channel.role ≠ .client)
    (hrange : psmInRange channel.psm = true)
    (hfound : ∀ k ∈ (m.removeChannel channel).keys, k.role ≠ .client →
      (k.connected = true ↔ k.role = .serverAccept)) :
    Reserves (m.removeChannel channel).psmMap psm ↔
      Reserves m.psmMap psm ∧
        (psm = channel.psm → (m.removeChannel channel).Serves channel.psm) := by
  have hkeys : (m.removeChannel channel).keys
      = (Keyed.remove (·.ptr) channel.ptr m.channels).map (·.key) := by
    rw [keys, removeChannel_channels]
  have hserves : (m.removeChannel channel).Serves channel.psm ↔
      { m with
        channels := Keyed.remove (·.ptr) channel.ptr m.channels
        ids := m.ids.indexFree channel.id }.Serves channel.psm :=
    serves_congr removeChannel_channels
  rw [hkeys] at hfound
  rw [hserves, L2capManager.removeChannel, if_pos hrole]
  exact reserves_freeLeDynamicPsm hrange hfound

theorem PsmsInUse.removeChannel (h : m.PsmsInUse) (hmem : channel.key ∈ m.keys)
    (hptrs : (m.removeChannel channel).PtrsUnique) : (m.removeChannel channel).PsmsInUse := by
  have hkept : ∀ k, k ∈ (m.removeChannel channel).keys ↔ k ∈ m.keys ∧ k.ptr ≠ channel.ptr := by
    intro k
    rw [removeChannel_keys]
    exact mem_remove
  have hfound := fun k hk => h.found k ((hkept k).mp hk).1
  by_cases hrole : channel.role = .client
  · refine h.of_servers hptrs (fun k hk => ?_) ?_
    · rw [hkept, and_iff_left_iff_imp]
      intro hin hptr
      exact hk (h.key_unique hin hmem hptr ▸ hrole)
    · rw [L2capManager.removeChannel, if_neg (not_not.mpr hrole)]
  · have hserves : m.Serves channel.psm := serves_iff.mpr ⟨channel.key, hmem, hrole, rfl⟩
    have hrange : psmInRange channel.psm = true := ((h.exact _).mpr hserves).1
    refine ⟨hptrs, hfound, fun psm => ?_⟩
    rw [reserves_removeChannel hrole hrange hfound, h.exact psm]
    constructor
    · rintro ⟨hbefore, hlast⟩
      by_cases hpsm : psm = channel.psm
      · exact hpsm ▸ hlast hpsm
      · obtain ⟨k, hk, hkserves⟩ := serves_iff.mp hbefore
        refine serves_iff.mpr ⟨k, (hkept k).mpr ⟨hk, fun hptr => hpsm ?_⟩, hkserves⟩
        rw [← hkserves.2, h.key_unique hk hmem hptr]
        rfl
    · intro hafter
      obtain ⟨k, hk, hkserves⟩ := serves_iff.mp hafter
      exact ⟨serves_iff.mpr ⟨k, ((hkept k).mp hk).1, hkserves⟩, fun hpsm => hpsm ▸ hafter⟩

theorem PsmsInUse.op (h : m.PsmsInUse) (hop : ManagerOp false m calls m') : m'.PsmsInUse := by
  have hptrs := h.toPtrsUnique.op hop
  cases hop with
  | quiet hsame => exact h.of_servers hptrs (fun k _ => by rw [hsame.keys]) hsame.psmMap
  | @connect m' p hclient hkeys _ hpsm =>
    refine h.of_servers hptrs (fun k hk => ?_) hpsm
    rw [hkeys, mem_update]
    constructor
    · rintro (⟨k', hk', hptr, rfl⟩ | ⟨hin, -⟩)
      · exact absurd (hclient k' hk' hptr) hk
      · exact hin
    · intro hin
      exact .inr ⟨hin, fun hptr => hk (hclient k hin hptr)⟩
  | starve | giveBack => exact h.of_servers hptrs (fun _ _ => Iff.rfl) rfl
  | create channel halloc hptr hrole =>
    refine h.of_servers hptrs (fun k hk => ?_) rfl
    have hclient : channel.role = .client := hrole.resolve_right Bool.false_ne_true
    rw [added_keys, mem_append, mem_singleton, or_iff_left]
    rintro rfl
    exact hk hclient
  | remove hmem => exact h.removeChannel hmem hptrs
  | serve hserver => exact absurd hserver Bool.false_ne_true

theorem PsmsInUse.run (h : m.PsmsInUse) (hops : OpRun false m calls m') : m'.PsmsInUse := by
  induction hops with
  | nil m => exact h
  | cons hop _ ih => exact ih (h.op hop)

end Ops

/-! ## Listening -/

section Listen

variable {env : L2capRequestEnv} {option : L2capConfigOption} {app psm : Nat}

def AllocSucceeds (m : L2capManager) (calloc : Bool) : Prop :=
  m.ids.indexAlloc.1.isSome = true ∧ calloc = true
deriving Decidable

def TakesPsm (m : L2capManager) (env : L2capRequestEnv) (option : L2capConfigOption) (psm : Nat) :
    Prop :=
  env.leEnabled = true ∧ option.transport = .ble ∧ (l2capConfigParam option).isSome = true
    ∧ (m.takePsm psm).1.isSome = true
deriving Decidable

theorem allocFreeChannel_of_succeeds {calloc : Bool} (h : m.AllocSucceeds calloc)
    (app psm : Nat) :
    ∃ id ids, m.allocFreeChannel calloc app none psm .serverListen =
      (some (blankChannel m.nextPtr id app 0 psm .serverListen),
        m.added (blankChannel m.nextPtr id app 0 psm .serverListen) ids) := by
  obtain ⟨hid, rfl⟩ := h
  rw [allocFreeChannel]
  rcases halloc : m.ids.indexAlloc with ⟨_ | id, ids⟩
  · rw [halloc] at hid
    cases hid
  · exact ⟨id, ids, rfl⟩

theorem takePsm_some {taken : Nat} (h : m.takePsm psm = (some taken, m')) :
    psmInRange taken = true ∧ ¬ Reserves m.psmMap taken
      ∧ m' = { m with psmMap := m.psmMap ||| psmBitMask taken } := by
  simp only [takePsm, allocLeDynamicPsm] at h
  (repeat' split at h) <;> cases h
  next hfound =>
    obtain ⟨i, hi, hpsm⟩ := mem_map.mp (mem_of_find?_eq_some hfound)
    have hzero := find?_some hfound
    rw [decide_eq_true_eq] at hzero
    have hrange : psmInRange taken = true := by
      rw [mem_range, l2capLeDynamicPsmNum] at hi
      rw [lePsmDynamicMin] at hpsm
      rw [psmInRange_iff]
      omega
    exact ⟨hrange, (and_psmBitMask_eq_zero hrange).mp hzero, rfl⟩
  next havail =>
    rw [checkPsmAvailable, Bool.and_eq_true, decide_eq_true_eq] at havail
    exact ⟨havail.1, (and_psmBitMask_eq_zero havail.1).mp havail.2, rfl⟩

theorem takePsm_none (h : m.takePsm psm = (none, m')) : m' = m := by
  simp only [takePsm, allocLeDynamicPsm] at h
  (repeat' split at h) <;> first | (cases h; rfl) | cases h

theorem PsmsInUse.addListener (h : m.PsmsInUse) (hrange : psmInRange psm = true) (app id : Nat)
    (ids : IndexAllocator) :
    ({ m with psmMap := m.psmMap ||| psmBitMask psm }.added
      (blankChannel m.nextPtr id app 0 psm .serverListen) ids).PsmsInUse := by
  have hptrs : { m with psmMap := m.psmMap ||| psmBitMask psm }.PtrsUnique := ⟨h.nodup, h.fresh⟩
  have hkeys : { m with psmMap := m.psmMap ||| psmBitMask psm }.keys = m.keys := rfl
  refine ⟨hptrs.added rfl ids, ?_, ?_⟩
  · rw [added_keys, forall_mem_concat]
    exact ⟨h.found, fun _ => ⟨nofun, nofun⟩⟩
  · intro q
    refine (reserves_or hrange).trans ?_
    rw [h.exact q, serves_iff, serves_iff, added_keys, hkeys]
    simp only [mem_append, mem_singleton, or_and_right, exists_or, exists_eq_left]
    exact or_congr_right ⟨fun hq => ⟨nofun, hq.symm⟩, fun hserves => hserves.2.symm⟩

theorem PsmsInUse.l2capListenChannel (h : m.PsmsInUse)
    (hok : m.TakesPsm env option psm → m.AllocSucceeds env.calloc) :
    (m.l2capListenChannel env app option psm).2.PsmsInUse
      ∧ ((m.l2capListenChannel env app option psm).1 ≠ .success →
          (m.l2capListenChannel env app option psm).2.channels = m.channels) := by
  rw [L2capManager.l2capListenChannel]
  split
  · exact ⟨h, fun _ => rfl⟩
  next hle =>
  split
  · exact ⟨h, fun _ => rfl⟩
  next hble =>
  split
  · exact ⟨h, fun _ => rfl⟩
  next hconfig =>
  rcases htake : m.takePsm psm with ⟨_ | taken, m₁⟩
  · obtain rfl := takePsm_none htake
    exact ⟨h, fun _ => rfl⟩
  · obtain ⟨hrange, -, rfl⟩ := takePsm_some htake
    have hsucceeds : { m with psmMap := m.psmMap ||| psmBitMask taken }.AllocSucceeds
        env.calloc := by
      refine hok ⟨by simpa using hle, by simpa using hble, ?_, ?_⟩
      · simpa [Option.isSome_iff_ne_none] using hconfig
      · rw [htake]
        rfl
    obtain ⟨id, ids, halloc⟩ := allocFreeChannel_of_succeeds hsucceeds app taken
    have hmem : blankChannel m.nextPtr id app 0 taken .serverListen
        ∈ m.channels ++ [blankChannel m.nextPtr id app 0 taken .serverListen] :=
      mem_append_right _ (mem_singleton_self _)
    have hfresh : ∀ ch ∈ { m with psmMap := m.psmMap ||| psmBitMask taken }.channels,
        ch.ptr ≠ m.nextPtr := h.ne_nextPtr
    refine ⟨?_, (openChannel_channels hfresh rfl).1⟩
    dsimp only
    rw [openChannel, halloc]
    exact (h.addListener hrange app id ids).run (openPipe_ops (mem_keys hmem) env (.listen taken))

end Listen

/-! ## Accepting -/

section Accept

variable {env : L2capConnectEnv} {addr : BtAddress} {param : L2capChannelParam}

theorem finishAccept_keys (h : m'.PtrsUnique) (hmem : channel ∈ m'.channels)
    {listen : ManagedChannel} {keys : List ChannelKey}
    (hkeys : m'.keys = Keyed.update (·.ptr) channel.ptr ChannelKey.accept keys ++ [listen.key])
    (hne : channel.ptr ≠ listen.ptr) (hconnects : Connects env channel)
    (param : L2capChannelParam) :
    ((m'.prepareDataPath listen.ptr).finishConnect env channel param (some listen.id)).keys
      = Keyed.update (·.ptr) channel.ptr (fun k => k.accept.connect) keys ++ [listen.key] := by
  have hprepared : SameKeys m' (m'.prepareDataPath listen.ptr) := sameKeys_prepareDataPath _
  have hptrs := h.of_owners hprepared.owners hprepared.nextPtr
  have hkept : channel ∈ (m'.prepareDataPath listen.ptr).channels :=
    mem_update.mpr (.inr ⟨hmem, hne⟩)
  have hne : listen.key.ptr ≠ channel.ptr := hne.symm
  rw [finishConnect_keys hptrs hkept, if_pos hconnects, hprepared.keys, hkeys,
    update_concat_of_ne hne]
  exact congrArg (· ++ [listen.key]) (update_update fun _ _ hptr => hptr)

theorem acceptChannel_keys (h : m.PtrsUnique) (hmem : channel ∈ m.channels)
    (hsucceeds : m.AllocSucceeds env.calloc) (hpipe : env.pipeOpen = true)
    (hconnects : Connects env channel) (addr : BtAddress) (param : L2capChannelParam) :
    ∃ id, (m.acceptChannel env channel addr param).keys
        = Keyed.update (·.ptr) channel.ptr (fun k => k.accept.connect) m.keys
          ++ [(blankChannel m.nextPtr id channel.app 0 channel.psm .serverListen).key]
      ∧ (m.acceptChannel env channel addr param).psmMap = m.psmMap := by
  have hsucceeds : (m.write channel.ptr (acceptPeer addr param.localCid)).AllocSucceeds
      env.calloc := hsucceeds
  obtain ⟨id, ids, halloc⟩ := allocFreeChannel_of_succeeds hsucceeds channel.app channel.psm
  have hkeys : (m.write channel.ptr (acceptPeer addr param.localCid)).keys
      = Keyed.update (·.ptr) channel.ptr ChannelKey.accept m.keys :=
    map_update_comm (fun _ => rfl) fun _ _ _ => rfl
  have howners : (m.write channel.ptr (acceptPeer addr param.localCid)).owners = m.owners :=
    map_update fun _ _ _ => rfl
  have hptr : (blankChannel m.nextPtr id channel.app 0 channel.psm .serverListen).ptr
      = m.nextPtr := rfl
  have hptrs := (h.of_owners howners rfl).added hptr ids
  have haccepted : acceptPeer addr param.localCid channel
      ∈ (m.write channel.ptr (acceptPeer addr param.localCid)).channels :=
    mem_update.mpr (.inl ⟨channel, hmem, rfl, rfl⟩)
  refine ⟨id, ?_⟩
  rw [acceptChannel, halloc, hpipe]
  refine ⟨?_, (finishConnect_rest _ _ _ _ _).2.1⟩
  refine finishAccept_keys hptrs (mem_append_left _ haccepted) ?_ ?_ hconnects param
  · rw [added_keys, hkeys]
    rfl
  · exact h.ne_nextPtr channel hmem

theorem PsmsInUse.acceptChannel (h : m.PsmsInUse) (hmem : channel ∈ m.channels)
    (hrole : channel.role = .serverListen) (hsucceeds : m.AllocSucceeds env.calloc)
    (hpipe : env.pipeOpen = true) (hconnects : Connects env channel) :
    (m.acceptChannel env channel addr param).PsmsInUse := by
  obtain ⟨id, hkeys, hpsm⟩ := acceptChannel_keys h.toPtrsUnique hmem hsucceeds hpipe hconnects
    addr param
  have hptrs := h.toPtrsUnique.run (acceptChannel_ops env channel addr param)
  have hlistens : channel.role ≠ .client := by
    rw [hrole]
    decide
  refine ⟨hptrs, ?_, ?_⟩
  · rw [hkeys, forall_mem_concat]
    exact ⟨forall_mem_update (fun _ _ _ _ => iff_of_true rfl rfl) h.found, fun _ => ⟨nofun, nofun⟩⟩
  · intro psm
    rw [hpsm, h.exact psm, serves_iff, serves_iff, hkeys]
    constructor
    · rintro ⟨k, hk, hserves⟩
      by_cases hptr : k.ptr = channel.ptr
      · refine ⟨k.accept.connect, mem_append_left _ (mem_update.mpr
          (.inl ⟨k, hk, hptr, rfl⟩)), ?_, hserves.2⟩
        exact nofun
      · exact ⟨k, mem_append_left _ (mem_update.mpr (.inr ⟨hk, hptr⟩)), hserves⟩
    · rintro ⟨k, hk, hserves⟩
      rw [mem_append, mem_update, mem_singleton] at hk
      rcases hk with (⟨k, hk, hptr, rfl⟩ | ⟨hk, -⟩) | rfl
      · refine ⟨k, hk, ?_, hserves.2⟩
        rw [h.key_unique hk (mem_keys hmem) hptr]
        exact hlistens
      · exact ⟨k, hk, hserves⟩
      · exact ⟨channel.key, mem_keys hmem, hlistens, hserves.2⟩

end Accept

/-! ## Runs -/

/-- Every reserved PSM gets its channel, and every accepted channel gets connected. -/
def Grants (m : L2capManager) : L2capEvent → Prop
  | .listen env _ option psm => m.TakesPsm env option psm → m.AllocSucceeds env.calloc
  | .stack addr (.connected env param) =>
    param.isClient = false →
      ∀ channel ∈ m.findL2capChannelByConnParam (some addr) param.psm .serverListen false,
        channel.rx.proxyConnected = true →
          m.AllocSucceeds env.calloc ∧ env.pipeOpen = true ∧ Connects env channel
  | _ => True

instance (m : L2capManager) (e : L2capEvent) : Decidable (m.Grants e) := by
  unfold Grants
  split <;> infer_instance

/-- A listen request that fails leaves nothing behind. -/
def FailedListenUndone (m : L2capManager) : L2capEvent → Prop
  | .listen env app option psm =>
    (m.l2capListenChannel env app option psm).1 ≠ .success →
      (m.l2capListenChannel env app option psm).2.psmMap = m.psmMap
        ∧ (m.l2capListenChannel env app option psm).2.channels = m.channels
  | _ => True

theorem PsmsInUse.handleConneted {env : L2capConnectEnv} {addr : BtAddress}
    {param : L2capChannelParam} (h : m.PsmsInUse) (hserver : param.isClient = false)
    (hok : m.Grants (.stack addr (.connected env param))) :
    (m.handleConneted env addr param).PsmsInUse := by
  rw [L2capManager.handleConneted, hserver, if_neg Bool.false_ne_true]
  split
  · exact h.run (sameKeys_hangUp _ _).run
  next channel hfind =>
  obtain ⟨hmem, -, hrole, -⟩ := findL2capChannelByConnParam_listen hfind
  split
  · exact h.run (sameKeys_abort channel).run
  next hproxy =>
  obtain ⟨hsucceeds, hpipe, hconnects⟩ := hok hserver channel hfind (by simpa using hproxy)
  exact h.acceptChannel hmem hrole hsucceeds hpipe hconnects

theorem PsmsInUse.step (h : m.PsmsInUse) {e : L2capEvent} (hok : m.Grants e) :
    (m.step e).PsmsInUse := by
  cases hserves : e.serves with
  | false =>
    have hops := step_ops h.toPtrsUnique e
    rw [hserves] at hops
    exact h.run hops
  | true =>
    cases e with
    | listen env app option psm => exact (h.l2capListenChannel hok).1
    | stack addr e =>
      cases e with
      | connected env param =>
        exact h.handleConneted (by simpa [L2capEvent.serves] using hserves) hok
      | _ => cases hserves
    | _ => cases hserves

theorem PsmsInUse.failedListenUndone (h : m.PsmsInUse) {e : L2capEvent} (hok : m.Grants e) :
    m.FailedListenUndone e := by
  cases e with
  | listen env app option psm =>
    intro hfails
    obtain ⟨hafter, hchannels⟩ := h.l2capListenChannel hok
    refine ⟨eq_of_reserves fun psm => ?_, hchannels hfails⟩
    rw [h.exact psm, hafter.exact psm, serves_congr (hchannels hfails)]
  | _ => trivial

/-- If every PSM that is reserved gets its channel and every peer that is accepted gets
connected, the map is exact throughout, and listening that fails leaves no trace. -/
theorem psmMap_exact_of_grants {es : List L2capEvent} (h : Guarded step Grants init es) :
    (∀ m ∈ visited step init es, m.PsmExact) ∧ Guarded step FailedListenUndone init es := by
  have hkeep : ∀ (m : L2capManager) (e : L2capEvent), m.PsmsInUse → m.Grants e →
      (m.step e).PsmsInUse := fun _ _ hm hok => hm.step hok
  refine ⟨fun m hm => (h.invariant hkeep psmsInUse_init m hm).exact, ?_⟩
  exact h.steps hkeep (fun _ _ hm hok => hm.failedListenUndone hok) psmsInUse_init

def serverRun (env : L2capRequestEnv) (connectEnv : L2capConnectEnv) : List L2capEvent :=
  let option : L2capConfigOption := { transport := .ble, mtu := 64, leMps := 32, initCredits := 4 }
  let endpoint : L2capEndpointParam := { mtu := 64, leMps := 32, credits := 4 }
  [.listen env 1 option 0x80, .pipeConnected true true 0,
    .stack 0xA (.connected connectEnv
      { isClient := false, localCid := 0x40, psm := 0x80, incoming := endpoint
        outgoing := endpoint })]

theorem serverRun_psmMap_exact :
    let es := serverRun ⟨true, true, true, true⟩ ⟨true, true, true, true⟩
      ++ [.stopListen ⟨true, true, true, true⟩ 1 .ble 0x80, .stack 0xA (.disconnected 0x40 0)]
    Guarded step Grants init es ∧ (∀ m ∈ visited step init es, m.PsmExact)
      ∧ Guarded step FailedListenUndone init es := by
  exact ⟨by decide, psmMap_exact_of_grants (by decide)⟩

/-- Listening fails for want of memory and its PSM stays reserved. A peer connects, the next pipe
cannot be opened, and the PSM is free while the peer's channel is there. -/
theorem psm_leaks_and_is_freed_early :
    let failed := after step init
      ((serverRun ⟨true, false, true, true⟩ ⟨true, true, true, true⟩).take 1)
    let accepted := after step init (serverRun ⟨true, true, true, true⟩ ⟨true, false, true, true⟩)
    (failed.channels = [] ∧ Reserves failed.psmMap 0x80 ∧ ¬failed.PsmExact)
      ∧ accepted.channels.map (fun ch => (ch.role, ch.psm)) = [(.serverAccept, 0x80)]
      ∧ ¬Reserves accepted.psmMap 0x80 ∧ ¬accepted.PsmExact := by
  refine ⟨⟨by decide, by decide, fun h => ?_⟩, by decide, by decide, fun h => ?_⟩
  · exact absurd ((h 0x80).mp (by decide)) (by decide)
  · exact absurd ((h 0x80).mpr (by decide)) (by decide)

end L2capManager

end BtFramework
