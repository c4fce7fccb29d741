import BtFramework.ScanManager
import BtFramework.Runs

/-!
# What a scanner receives

The manager remembers devices for all scanners together. A scanner has no less than it wants; it
gets no more exactly if every remembered device is wanted by every filtered scanner, and the
filters of those who started earlier let no new device through that a later one's does not
(`Agrees`).
-/

namespace BtFramework

open Bool Keyed List List.Subset Nat Option Runs ScanManager

/-! ## What a scanner wants -/

def sameDevice (result result' : ScanResult) : Prop :=
  result.addr = result'.addr ∧ result.addrType = result'.addrType
deriving Decidable

def ScanFilter.lets (filter : ScanFilter) (result : ScanResult) : Bool :=
  scannerMatchFilter (scanRecordParse result.advData) filter

def Wanted (filter : ScanFilter) (heard : List ScanResult) (result : ScanResult) : Prop :=
  filter.active = false ∨ filter.lets result = true ∨
    ∃ earlier ∈ heard, sameDevice earlier result ∧ filter.lets earlier = true
deriving Decidable

def ScanFilter.ownFrom (filter : ScanFilter) : List ScanResult → List ScanResult → List ScanResult
  | _, [] => []
  | heard, result :: results =>
    if Wanted filter heard result then result :: filter.ownFrom (heard ++ [result]) results
    else filter.ownFrom (heard ++ [result]) results

def ScanFilter.own (filter : ScanFilter) (results : List ScanResult) : List ScanResult :=
  filter.ownFrom [] results

variable {filter : ScanFilter}

theorem ScanFilter.ownFrom_concat {heard results : List ScanResult} {result : ScanResult} :
    filter.ownFrom heard (results ++ [result]) = filter.ownFrom heard results ++
      if Wanted filter (heard ++ results) result then [result] else [] := by
  induction results generalizing heard with
  | nil => simp [ownFrom]
  | cons r results ih =>
    rw [cons_append, ownFrom, ownFrom, ih, append_assoc, singleton_append]
    split
    · rw [cons_append]
    · rfl

theorem ScanFilter.own_concat {results : List ScanResult} {result : ScanResult} :
    filter.own (results ++ [result]) = filter.own results ++
      if Wanted filter results result then [result] else [] := by
  rw [own, own, ownFrom_concat, nil_append]

/-! ## The manager and what was heard -/

/-- The manager, and what each scanner was offered. -/
structure ScanWatch where
  manager : ScanManager
  heard : List (Nat × ScanResult)

namespace ScanWatch

def init (cfg : ScanConfig) : ScanWatch := { manager := .init cfg, heard := [] }

def step (cfg : ScanConfig) (s : ScanWatch) (input : Input) : ScanWatch :=
  { manager := s.manager.step cfg input
    heard := match input with
      | .report false result _ => s.heard ++ s.manager.scanningList.map fun sc => (sc.ptr, result)
      | _ => s.heard }

def heardBy (s : ScanWatch) (ptr : Nat) : List ScanResult :=
  s.heard.filterMap fun (p, result) => if p = ptr then some result else none

def received (s : ScanWatch) (ptr : Nat) : List ScanResult :=
  s.manager.notices.filterMap fun
    | .result p result => if p = ptr then some result else none
    | _ => none

/-- Whatever report comes next, each scanner gets it exactly if it wants it. -/
def DeliversOwn (s : ScanWatch) : Prop :=
  ∀ result timestampMs, ∀ sc ∈ s.manager.scanningList,
    (sc.ptr ∈ (s.manager.offerAll result timestampMs).delivered ↔
      Wanted sc.filter (s.heardBy sc.ptr) result)

/-- The remembered devices are wanted by every filtered scanner, and a later one's filter lets
everything about a new device through that an earlier one's does. -/
structure Agrees (s : ScanWatch) : Prop where
  remembered : ∀ sc ∈ s.manager.scanningList, sc.filter.active = true →
    ∀ device ∈ s.manager.devices, ∃ result ∈ s.heardBy sc.ptr,
      ofDevice result device = true ∧ sc.filter.lets result = true
  filters : s.manager.scanningList.Pairwise fun earlier later =>
    earlier.filter.active = true → later.filter.active = true →
      ∀ result, scannerFindDevice s.manager.devices result = none →
        earlier.filter.lets result = true → later.filter.lets result = true

end ScanWatch

/-! ## A report on its way through the scanners -/

def accepted (result : ScanResult) : Bool → List Scanner → List Nat
  | _, [] => []
  | known, sc :: scanners =>
    if sc.filter.active = false then sc.ptr :: accepted result known scanners
    else if known = true ∨ sc.filter.lets result = true then
      sc.ptr :: accepted result true scanners
    else accepted result known scanners

section Offer

variable {result : ScanResult} {timestampMs : UInt32}

variable {pass : Pass} {sc : Scanner} {scanners : List Scanner}

theorem offer_active (hactive : sc.filter.active = true) (hplain : sc.filter.duplicated = false) :
    offer result timestampMs pass sc =
      if (scannerFindDevice pass.devices result).isSome = true then
        { pass with delivered := pass.delivered ++ [sc.ptr] }
      else if sc.filter.lets result = true then
        { pass with
          devices := pass.devices ++
            [{ addr := result.addr, addrType := result.addrType, timestamp := timestampMs }]
          delivered := pass.delivered ++ [sc.ptr] }
      else pass := by
  cases hfind : scannerFindDevice pass.devices result with
  | some device => simp [offer, hactive, hplain, hfind]
  | none => cases hlets : sc.filter.lets result <;> simp_all [offer, ScanFilter.lets]

theorem isSome_scannerFindDevice_of_subset {devices devices' : List ScannerDevice}
    (hsub : devices ⊆ devices') (h : (scannerFindDevice devices result).isSome = true) :
    (scannerFindDevice devices' result).isSome = true := by
  rw [scannerFindDevice, find?_isSome] at h ⊢
  obtain ⟨device, hmem, hdevice⟩ := h
  exact ⟨device, hsub hmem, hdevice⟩

theorem isSome_scannerFindDevice_new (devices : List ScannerDevice) :
    (scannerFindDevice (devices ++
      [{ addr := result.addr, addrType := result.addrType, timestamp := timestampMs }])
      result).isSome = true := by
  rw [scannerFindDevice, find?_isSome]
  exact ⟨_, mem_append_right _ (mem_singleton.mpr rfl), decide_eq_true ⟨rfl, rfl⟩⟩

theorem offer_spec (hplain : sc.filter.duplicated = false) (pass : Pass)
    (scanners : List Scanner) :
    (offer result timestampMs pass sc).delivered ++ accepted result
        (scannerFindDevice (offer result timestampMs pass sc).devices result).isSome scanners
        = pass.delivered ++
          accepted result (scannerFindDevice pass.devices result).isSome (sc :: scanners) ∧
      pass.devices ⊆ (offer result timestampMs pass sc).devices ∧
      (sc.filter.active = true → sc.filter.lets result = true →
        (scannerFindDevice (offer result timestampMs pass sc).devices result).isSome = true) := by
  rw [accepted]
  rcases eq_false_or_eq_true sc.filter.active with hactive | hactive
  · rw [if_neg (by rw [hactive]; exact nofun), offer_active hactive hplain]
    by_cases hknown : (scannerFindDevice pass.devices result).isSome = true
    · rw [if_pos hknown, if_pos (.inl hknown)]
      refine ⟨?_, refl _, fun _ _ => hknown⟩
      rw [hknown, append_assoc, singleton_append]
    by_cases hpass : sc.filter.lets result = true
    · rw [if_neg hknown, if_pos hpass, if_pos (.inr hpass)]
      refine ⟨?_, subset_append_left _ _, fun _ _ => isSome_scannerFindDevice_new _⟩
      rw [isSome_scannerFindDevice_new, append_assoc, singleton_append]
    · rw [if_neg hknown, if_neg hpass, if_neg (not_or.mpr ⟨hknown, hpass⟩)]
      exact ⟨rfl, refl _, fun _ h => absurd h hpass⟩
  · rw [offer, hactive, Bool.not_false, if_pos rfl, if_pos rfl]
    refine ⟨?_, refl _, nofun⟩
    rw [append_assoc, singleton_append]

theorem foldl_offer_spec (hplain : ∀ sc ∈ scanners, sc.filter.duplicated = false)
    (result : ScanResult) (timestampMs : UInt32) (pass : Pass) :
    (scanners.foldl (offer result timestampMs) pass).delivered = pass.delivered ++
        accepted result (scannerFindDevice pass.devices result).isSome scanners ∧
      pass.devices ⊆ (scanners.foldl (offer result timestampMs) pass).devices ∧
      ∀ sc ∈ scanners, sc.filter.active = true → sc.filter.lets result = true →
        (scannerFindDevice (scanners.foldl (offer result timestampMs) pass).devices
          result).isSome = true := by
  induction scanners generalizing pass with
  | nil => exact ⟨(append_nil _).symm, refl _, forall_mem_nil _⟩
  | cons sc scanners ih =>
    obtain ⟨hsc, hrest⟩ := forall_mem_cons.mp hplain
    obtain ⟨hmine, hmore, hlet⟩ := offer_spec hsc pass scanners
    obtain ⟨hdelivered, hsub, hlets⟩ := ih hrest (offer result timestampMs pass sc)
    rw [foldl_cons, forall_mem_cons]
    exact ⟨hdelivered.trans hmine, List.Subset.trans hmore hsub,
      fun hactive hpass => isSome_scannerFindDevice_of_subset hsub (hlet hactive hpass), hlets⟩

theorem accepted_true : accepted result true scanners = scanners.map (·.ptr) := by
  induction scanners with
  | nil => rfl
  | cons sc scanners ih =>
    rw [accepted, ih, map_cons]
    split
    · rfl
    · rw [if_pos (.inl rfl)]

theorem accepted_false
    (h : scanners.Pairwise fun earlier later => earlier.filter.active = true →
      later.filter.active = true → earlier.filter.lets result = true →
        later.filter.lets result = true) :
    accepted result false scanners
      = (scanners.filter fun sc => !sc.filter.active || sc.filter.lets result).map (·.ptr) := by
  induction scanners with
  | nil => rfl
  | cons sc scanners ih =>
    obtain ⟨hsc, hrest⟩ := pairwise_cons.mp h
    rw [accepted]
    split
    next hactive =>
      rw [filter_cons_of_pos (by rw [hactive]; rfl), map_cons, ih hrest]
    next hactive =>
      rw [not_eq_false] at hactive
      split
      next hlets =>
        have hlets := hlets.resolve_left (by decide)
        have hall : scanners.filter (fun sc => !sc.filter.active || sc.filter.lets result)
            = scanners := by
          rw [filter_eq_self]
          intro later hlater
          rcases eq_false_or_eq_true later.filter.active with hl | hl
          · rw [hsc later hlater hactive hl hlets, Bool.or_true]
          · rw [hl]
            rfl
        rw [filter_cons_of_pos (by rw [hlets, Bool.or_true]), hall, map_cons, accepted_true]
      next hlets =>
        have hstops : sc.filter.lets result = false := eq_false_iff.mpr fun h => hlets (.inr h)
        rw [filter_cons_of_neg (by rw [hactive, hstops]; decide), ih hrest]

theorem mem_accepted_of_sublist {earlier later : Scanner} {known : Bool}
    (h : [earlier, later].Sublist scanners) (hactive : earlier.filter.active = true)
    (hlets : earlier.filter.lets result = true) :
    later.ptr ∈ accepted result known scanners := by
  induction scanners generalizing known with
  | nil => cases h
  | cons sc scanners ih =>
    cases h with
    | cons _ h =>
      rw [accepted]
      split
      · exact mem_cons_of_mem _ (ih h)
      split
      · exact mem_cons_of_mem _ (ih h)
      · exact ih h
    | cons_cons _ h =>
      rw [accepted, if_neg (by rw [hactive]; decide), if_pos (.inr hlets), accepted_true]
      exact mem_cons_of_mem _ (mem_map_of_mem (singleton_sublist.mp h))

end Offer

namespace ScanWatch

/-! ## The invariant -/

structure Inv (s : ScanWatch) : Prop where
  nodup : (s.manager.scanningList.map (·.ptr)).Nodup
  fresh : ∀ sc ∈ s.manager.scanningList, sc.ptr < s.manager.nextPtr
  heardFresh : ∀ entry ∈ s.heard, entry.1 < s.manager.nextPtr
  receivedFresh : ∀ ptr result, .result ptr result ∈ s.manager.notices → ptr < s.manager.nextPtr
  plain : ∀ sc ∈ s.manager.scanningList, sc.filter.duplicated = false
  remembers : ∀ sc ∈ s.manager.scanningList, sc.filter.active = true →
    ∀ result ∈ s.heardBy sc.ptr, sc.filter.lets result = true →
      (scannerFindDevice s.manager.devices result).isSome = true

variable {s : ScanWatch} {cfg : ScanConfig}

variable {result : ScanResult} {m' : ScanManager}

theorem delivered_eq (h : s.Inv) {timestampMs : UInt32} :
    (s.manager.offerAll result timestampMs).delivered
      = accepted result (scannerFindDevice s.manager.devices result).isSome
        s.manager.scanningList := by
  rw [offerAll, (foldl_offer_spec h.plain _ _ _).1, nil_append]

theorem scannerFindDevice_congr {devices : List ScannerDevice} {result' : ScanResult}
    (h : sameDevice result result') :
    scannerFindDevice devices result = scannerFindDevice devices result' := by
  have hof : ofDevice result = ofDevice result' := by
    funext device
    rw [ofDevice, ofDevice, h.1, h.2]
  rw [scannerFindDevice, scannerFindDevice, hof]

theorem Inv.lets_of_wanted (h : s.Inv) {sc : Scanner} (hsc : sc ∈ s.manager.scanningList)
    (hactive : sc.filter.active = true)
    (hnone : scannerFindDevice s.manager.devices result = none)
    (hwanted : Wanted sc.filter (s.heardBy sc.ptr) result) : sc.filter.lets result = true := by
  rcases hwanted with hoff | hlets | ⟨earlier, hmem, hsame, hlets⟩
  · exact absurd (hoff.symm.trans hactive) (by decide)
  · exact hlets
  · have hsome := h.remembers sc hsc hactive earlier hmem hlets
    rw [scannerFindDevice_congr hsame, hnone] at hsome
    cases hsome

theorem Inv.agrees_of_deliversOwn (h : s.Inv) (hown : s.DeliversOwn) : s.Agrees where
  remembered := by
    intro sc hsc hactive device hdevice
    -- a report of the device that no filter lets through
    let result : ScanResult := { addr := device.addr, addrType := device.addrType, advData := [] }
    have hknown : (scannerFindDevice s.manager.devices result).isSome = true := by
      rw [scannerFindDevice, find?_isSome]
      exact ⟨device, hdevice, decide_eq_true ⟨rfl, rfl⟩⟩
    have hiff := hown result 0 sc hsc
    rw [delivered_eq h, hknown, accepted_true] at hiff
    rcases hiff.mp (mem_map_of_mem hsc) with hoff | hlets | ⟨earlier, hmem, hsame, hlets⟩
    · exact absurd (hoff.symm.trans hactive) (by decide)
    · have hstops : sc.filter.lets result = false := rfl
      exact absurd (hstops.symm.trans hlets) (by decide)
    · exact ⟨earlier, hmem, decide_eq_true ⟨hsame.1.symm, hsame.2.symm⟩, hlets⟩
  filters := by
    rw [pairwise_iff_forall_sublist]
    intro earlier later hsub hearlier hlater result hnone hlets
    have hmem : later ∈ s.manager.scanningList :=
      hsub.subset (mem_cons_of_mem _ (mem_singleton.mpr rfl))
    have hiff := hown result 0 later hmem
    rw [delivered_eq h] at hiff
    exact h.lets_of_wanted hmem hlater hnone (hiff.mp (mem_accepted_of_sublist hsub hearlier hlets))

theorem Inv.deliversOwn_of_agrees (h : s.Inv) (hagrees : s.Agrees) : s.DeliversOwn := by
  intro result timestampMs sc hsc
  rw [delivered_eq h]
  cases hfind : scannerFindDevice s.manager.devices result with
  | some device =>
    rw [isSome_some, accepted_true]
    refine iff_of_true (mem_map_of_mem hsc) ?_
    rcases eq_false_or_eq_true sc.filter.active with hactive | hactive
    · have hfound := find?_some hfind
      have hof := of_decide_eq_true hfound
      obtain ⟨earlier, hheard, hdevice, hlets⟩ :=
        hagrees.remembered sc hsc hactive device (mem_of_find?_eq_some hfind)
      have hof' := of_decide_eq_true hdevice
      exact .inr (.inr ⟨earlier, hheard, ⟨hof'.1.symm.trans hof.1, hof'.2.symm.trans hof.2⟩, hlets⟩)
    · exact .inl hactive
  | none =>
    rw [isSome_none, accepted_false (hagrees.filters.imp fun hfilters hearlier hlater =>
      hfilters hearlier hlater result hfind), List.mem_map]
    constructor
    · rintro ⟨sc', hmem', hptr⟩
      obtain ⟨hmem', hpass⟩ := mem_filter.mp hmem'
      rw [inj_on_of_nodup_map h.nodup hmem' hsc hptr] at hpass
      rcases or_eq_true _ _ |>.mp hpass with hoff | hlets
      · exact .inl (by rwa [not_eq_true'] at hoff)
      · exact .inr (.inl hlets)
    · intro hwanted
      refine ⟨sc, mem_filter.mpr ⟨hsc, ?_⟩, rfl⟩
      rcases eq_false_or_eq_true sc.filter.active with hactive | hactive
      · rw [h.lets_of_wanted hsc hactive hfind hwanted, Bool.or_true]
      · rw [hactive]
        rfl

/-! ## Steps -/

structure Stops (m m' : ScanManager) : Prop where
  scanning : m'.scanningList.Sublist m.scanningList
  devices : m'.devices = m.devices ∨ m'.scanningList = []
  nextPtr : m.nextPtr ≤ m'.nextPtr
  notices : ∃ new, m'.notices = m.notices ++ new ∧ ∀ n ∈ new, ∀ ptr result, n ≠ .result ptr result

theorem Stops.refl (m : ScanManager) : Stops m m where
  scanning := List.Sublist.refl _
  devices := .inl rfl
  nextPtr := Nat.le_refl _
  notices := ⟨[], (append_nil _).symm, forall_mem_nil _⟩

theorem Stops.trans {m m'' : ScanManager} (h : Stops m m') (h' : Stops m' m'') :
    Stops m m'' where
  scanning := h'.scanning.trans h.scanning
  devices := by
    rcases h'.devices with heq | hnil
    · rcases h.devices with heq' | hnil
      · exact .inl (heq.trans heq')
      · exact .inr (sublist_nil.mp (hnil ▸ h'.scanning))
    · exact .inr hnil
  nextPtr := Nat.le_trans h.nextPtr h'.nextPtr
  notices := by
    obtain ⟨new, heq, hnew⟩ := h.notices
    obtain ⟨new', heq', hnew'⟩ := h'.notices
    refine ⟨new ++ new', by rw [heq', heq, append_assoc], ?_⟩
    rw [forall_mem_append]
    exact ⟨hnew, hnew'⟩

theorem stops_stopScan (m : ScanManager) (ptr : Nat) : Stops m (m.stopScan ptr) := by
  rw [stopScan]
  split
  · exact .refl m
  dsimp only
  split
  next hlast =>
    rw [and_eq_true, List.isEmpty_iff] at hlast
    exact ⟨filter_sublist, .inr hlast.2, Nat.le_refl _, (Stops.refl m).notices⟩
  · exact ⟨filter_sublist, .inl rfl, Nat.le_refl _, (Stops.refl m).notices⟩

theorem stops_unregisterScanner (m : ScanManager) (ptr : Nat) :
    Stops m (m.unregisterScanner ptr) := by
  rw [unregisterScanner]
  split
  · refine (stops_stopScan m ptr).trans ⟨List.Sublist.refl _, .inl rfl, Nat.le_refl _, ?_⟩
    exact ⟨[.stopped ptr], rfl, forall_mem_singleton.mpr nofun⟩
  · exact .refl m

theorem stops_foldl_cleanupSlot (slots : List (Option Scanner)) (m : ScanManager) :
    Stops m (slots.foldl cleanupSlot m) := by
  induction slots generalizing m with
  | nil => exact .refl m
  | cons slot slots ih =>
    refine Stops.trans ?_ (ih (m.cleanupSlot slot))
    cases slot with
    | none => exact .refl m
    | some scanner => exact stops_unregisterScanner m scanner.ptr

theorem stops_cleanupScanner (m : ScanManager) : Stops m m.cleanupScanner :=
  (stops_foldl_cleanupSlot m.scannerList m).trans
    ⟨nil_sublist _, .inr rfl, Nat.le_refl _, (Stops.refl _).notices⟩

theorem takeSlot_some {scanner sc : Scanner} {i : Nat} {slots slots' : List (Option Scanner)}
    (h : takeSlot scanner i slots = some (sc, slots')) :
    ∃ j, slots[j]? = some none ∧ sc = { scanner with scannerId := i + j }
      ∧ slots' = slots.set j (some sc) := by
  induction slots generalizing i slots' with
  | nil => cases h
  | cons slot slots ih =>
    cases slot with
    | none =>
      cases h
      exact ⟨0, rfl, rfl, rfl⟩
    | some other =>
      rw [takeSlot, map_eq_some_iff] at h
      obtain ⟨⟨sc', rest⟩, htake, heq⟩ := h
      cases heq
      obtain ⟨j, hfree, hsc, hset⟩ := ih htake
      exact ⟨j + 1, hfree, by rw [hsc, Nat.add_assoc, Nat.add_comm j], congrArg _ hset⟩

theorem registerScanner_ok {scanner sc : Scanner}
    (h : registerScanner cfg m scanner = .ok (sc, m')) :
    ∃ j, m.scannerList[j]? = some none ∧ sc = { scanner with scannerId := j }
      ∧ m' = { m with
        scannerList := m.scannerList.set j (some sc), scannerCnt := (m.scannerCnt + 1) % 256 } := by
  rw [registerScanner] at h
  split at h
  · cases h
  split at h
  · cases h
  split at h
  · cases h
  next slots htake =>
  cases h
  obtain ⟨j, hfree, hsc, hset⟩ := takeSlot_some htake
  exact ⟨j, hfree, by rw [hsc, Nat.zero_add], by rw [hset]⟩

theorem startScan_spec (cfg : ScanConfig) (m : ScanManager) (sal : Bool) (remote : Option Nat)
    (callbacks : Nat) (filter : ScanFilter) :
    let m' := m.startScan cfg sal remote callbacks filter
    Stops m { m' with scanningList := m.scanningList } ∧
      (m'.scanningList = m.scanningList ∨
        ∃ sc : Scanner, sc.ptr = m.nextPtr ∧ sc.ptr < m'.nextPtr ∧ sc.filter = filter ∧
          m'.scanningList = m.scanningList ++ [sc]) := by
  have hstops : ∀ {m' : ScanManager} {status : ScanStatus}, m'.devices = m.devices →
      m'.nextPtr = m.nextPtr + 1 → m'.notices = m.notices ++ [.startStatus m.nextPtr status] →
      Stops m { m' with scanningList := m.scanningList } := fun hdevices hnext hnotices =>
    ⟨List.Sublist.refl _, .inl hdevices, hnext ▸ le_succ _,
      ⟨_, hnotices, forall_mem_singleton.mpr nofun⟩⟩
  rw [startScan]
  dsimp only
  split
  · exact ⟨hstops rfl rfl rfl, .inl rfl⟩
  next sc m' hregister =>
    obtain ⟨j, -, rfl, rfl⟩ := registerScanner_ok hregister
    split
    · exact ⟨hstops rfl rfl rfl, .inl rfl⟩
    · exact ⟨hstops rfl rfl rfl, .inr ⟨_, rfl, lt_succ_self _, rfl, rfl⟩⟩

theorem filterMap_eq_of_nodup {l : List Nat} (h : l.Nodup) {ptr : Nat} :
    l.filterMap (fun p => if p = ptr then some result else none)
      = if ptr ∈ l then [result] else [] := by
  induction l with
  | nil => rfl
  | cons p l ih =>
    obtain ⟨hp, hl⟩ := nodup_cons.mp h
    rw [filterMap_cons, ih hl]
    by_cases heq : p = ptr
    · subst heq
      simp [hp]
    · simp [heq, Ne.symm heq]

theorem accepted_sublist {known : Bool} {scanners : List Scanner} :
    (accepted result known scanners).Sublist (scanners.map (·.ptr)) := by
  induction scanners generalizing known with
  | nil => exact List.Sublist.refl _
  | cons sc scanners ih =>
    rw [accepted, map_cons]
    split
    · exact ih.cons_cons _
    split
    · exact ih.cons_cons _
    · exact ih.cons _

section Report

variable {result : ScanResult} {timestampMs : UInt32} {sc : Scanner}

theorem heardBy_report (h : s.Inv) (hsc : sc ∈ s.manager.scanningList) :
    (s.step cfg (.report false result timestampMs)).heardBy sc.ptr
      = s.heardBy sc.ptr ++ [result] := by
  have hhere : (s.manager.scanningList.map (·.ptr)).filterMap
      (fun p => if p = sc.ptr then some result else none) = [result] := by
    rw [filterMap_eq_of_nodup h.nodup, if_pos (mem_map_of_mem hsc)]
  rw [heardBy, heardBy, step]
  rw [filterMap_append, filterMap_map, ← hhere, filterMap_map]
  rfl

theorem received_report (h : s.Inv) :
    (s.step cfg (.report false result timestampMs)).received sc.ptr
      = s.received sc.ptr ++
        if sc.ptr ∈ (s.manager.offerAll result timestampMs).delivered then [result] else [] := by
  have hnodup : (s.manager.offerAll result timestampMs).delivered.Nodup := by
    rw [delivered_eq h]
    exact List.Nodup.sublist accepted_sublist h.nodup
  rw [received, received, step, ScanManager.step, notifyScannersScanResult]
  rw [if_neg (by decide), filterMap_append, filterMap_map, ← filterMap_eq_of_nodup hnodup]
  rfl

theorem Inv.report (h : s.Inv) : (s.step cfg (.report false result timestampMs)).Inv := by
  obtain ⟨-, hsub, hknown⟩ := foldl_offer_spec h.plain result timestampMs
    { devices := s.manager.devices, hashTable := s.manager.hashTable, delivered := [] }
  refine ⟨h.nodup, h.fresh, ?_, ?_, h.plain, ?_⟩
  · intro entry hentry
    rcases mem_append.mp hentry with hentry | hentry
    · exact h.heardFresh entry hentry
    · obtain ⟨sc, hsc, rfl⟩ := mem_map.mp hentry
      exact h.fresh sc hsc
  · intro ptr result' hmem
    rcases mem_append.mp hmem with hmem | hmem
    · exact h.receivedFresh ptr result' hmem
    · obtain ⟨p, hp, heq⟩ := mem_map.mp hmem
      cases heq
      rw [delivered_eq h] at hp
      obtain ⟨sc, hsc, rfl⟩ := mem_map.mp (accepted_sublist.subset hp)
      exact h.fresh sc hsc
  · intro sc hsc hactive result' hheard hlets
    rw [heardBy_report h hsc] at hheard
    rcases mem_append.mp hheard with hheard | hheard
    · exact isSome_scannerFindDevice_of_subset hsub
        (h.remembers sc hsc hactive result' hheard hlets)
    · rw [mem_singleton.mp hheard] at hlets ⊢
      exact hknown sc hsc hactive hlets

end Report

theorem received_of_notices {ptr : Nat} {new : List ScanNotice}
    (h : m'.notices = s.manager.notices ++ new)
    (hnew : ∀ n ∈ new, ∀ ptr result, n ≠ .result ptr result) :
    received { s with manager := m' } ptr = s.received ptr := by
  rw [received, received, h, filterMap_append]
  refine (congrArg (_ ++ ·) (filterMap_eq_nil_iff.mpr ?_)).trans (append_nil _)
  intro n hn
  cases n with
  | result p r => exact absurd rfl (hnew _ hn p r)
  | startStatus p status | stopped p => rfl

theorem Inv.of_stops (h : s.Inv) (hstops : Stops s.manager m') : Inv { s with manager := m' } := by
  obtain ⟨new, hnotices, hnew⟩ := hstops.notices
  refine ⟨List.Nodup.sublist (hstops.scanning.map _) h.nodup, ?_, ?_, ?_, ?_, ?_⟩
  · exact fun sc hsc => Nat.lt_of_lt_of_le (h.fresh sc (hstops.scanning.subset hsc)) hstops.nextPtr
  · exact fun entry hentry => Nat.lt_of_lt_of_le (h.heardFresh entry hentry) hstops.nextPtr
  · intro ptr result hmem
    rw [hnotices] at hmem
    rcases mem_append.mp hmem with hmem | hmem
    · exact Nat.lt_of_lt_of_le (h.receivedFresh ptr result hmem) hstops.nextPtr
    · exact absurd rfl (hnew _ hmem ptr result)
  · exact fun sc hsc => h.plain sc (hstops.scanning.subset hsc)
  · intro sc hsc hactive result hheard hlets
    rcases hstops.devices with heq | hnil
    · rw [heq]
      exact h.remembers sc (hstops.scanning.subset hsc) hactive result hheard hlets
    · rw [hnil] at hsc
      cases hsc

theorem Inv.heardBy_new (h : s.Inv) : s.heardBy s.manager.nextPtr = [] := by
  rw [heardBy, filterMap_eq_nil_iff]
  rintro ⟨p, result⟩ hmem
  exact if_neg (Nat.ne_of_lt (h.heardFresh _ hmem))

theorem Inv.received_new (h : s.Inv) : s.received s.manager.nextPtr = [] := by
  rw [received, filterMap_eq_nil_iff]
  intro n hn
  cases n with
  | result p r => exact if_neg (Nat.ne_of_lt (h.receivedFresh p r hn))
  | startStatus p status | stopped p => rfl

theorem filterOf_duplicated (filter : Option ScanFilter) :
    (filterOf filter).duplicated = false := by
  cases filter with
  | none => rfl
  | some filter =>
    rw [filterOf]
    split
    · rfl
    · rfl

theorem Inv.start (h : s.Inv) {sal : Bool} {remote : Option Nat} {callbacks : Nat}
    {filter : Option ScanFilter} :
    Inv { s with manager := s.manager.startScan cfg sal remote callbacks (filterOf filter) } := by
  obtain ⟨hstops, hscanning⟩ :=
    startScan_spec cfg s.manager sal remote callbacks (filterOf filter)
  generalize s.manager.startScan cfg sal remote callbacks (filterOf filter) = m' at *
  have h' := h.of_stops hstops
  rcases hscanning with heq | ⟨sc, hptr, hlt, hfilter, heq⟩
  · rwa [← heq] at h'
  · refine ⟨?_, ?_, h'.heardFresh, h'.receivedFresh, ?_, ?_⟩
    · rw [heq]
      refine nodup_concat h.nodup fun sc' hsc' => ?_
      rw [hptr]
      exact Nat.ne_of_lt (h.fresh sc' hsc')
    · rw [heq, forall_mem_concat]
      exact ⟨h'.fresh, hlt⟩
    · rw [heq, forall_mem_concat, hfilter]
      exact ⟨h.plain, filterOf_duplicated filter⟩
    · rw [heq, forall_mem_concat]
      refine ⟨h'.remembers, fun _ result hmem => ?_⟩
      rw [hptr] at hmem
      exact absurd hmem (h.heardBy_new ▸ not_mem_nil)

/-- **Step lemma.** -/
theorem Inv.step (h : s.Inv) (input : Input) : (s.step cfg input).Inv := by
  cases input with
  | start sal remote callbacks filter => exact h.start
  | stop ptr => exact h.of_stops (stops_unregisterScanner _ _)
  | report busy result timestampMs =>
    cases busy with
    | true => exact h
    | false => exact h.report
  | cleanup => exact h.of_stops (stops_cleanupScanner _)

theorem inv_init (cfg : ScanConfig) : (init cfg).Inv := by
  constructor <;> simp [init, ScanManager.init]

/-! ## Whole runs -/

/-- Each scanner has received what it wanted of what it was offered. -/
def ReceivedOwn (s : ScanWatch) : Prop :=
  ∀ sc ∈ s.manager.scanningList, s.received sc.ptr = sc.filter.own (s.heardBy sc.ptr)

theorem ReceivedOwn.of_stops (h : s.ReceivedOwn) (hstops : Stops s.manager m') :
    ReceivedOwn { s with manager := m' } := by
  intro sc hsc
  obtain ⟨new, hnotices, hnew⟩ := hstops.notices
  rw [received_of_notices hnotices hnew]
  exact h sc (hstops.scanning.subset hsc)

theorem ReceivedOwn.start (h : s.ReceivedOwn) (hinv : s.Inv) {sal : Bool} {remote : Option Nat}
    {callbacks : Nat} :
    ReceivedOwn { s with manager := s.manager.startScan cfg sal remote callbacks filter } := by
  obtain ⟨⟨-, -, -, new, hnotices, hnew⟩, hscanning⟩ :=
    startScan_spec cfg s.manager sal remote callbacks filter
  intro sc hsc
  refine (received_of_notices hnotices hnew).trans ?_
  rcases hscanning with heq | ⟨sc', hptr, -, -, heq⟩
  · rw [heq] at hsc
    exact h sc hsc
  · rw [heq, mem_append, mem_singleton] at hsc
    rcases hsc with hsc | rfl
    · exact h sc hsc
    · have hheard : heardBy
          { s with manager := s.manager.startScan cfg sal remote callbacks filter }
          s.manager.nextPtr = [] := hinv.heardBy_new
      rw [hptr, hinv.received_new, hheard]
      rfl

theorem ReceivedOwn.report (h : s.ReceivedOwn) (hinv : s.Inv) (hown : s.DeliversOwn)
    {timestampMs : UInt32} :
    (s.step cfg (.report false result timestampMs)).ReceivedOwn := by
  intro sc hsc
  rw [received_report hinv, heardBy_report hinv hsc, ScanFilter.own_concat, h sc hsc]
  simp only [hown result timestampMs sc hsc]

theorem ReceivedOwn.step (h : s.ReceivedOwn) (hinv : s.Inv) (hown : s.DeliversOwn)
    (input : Input) : (s.step cfg input).ReceivedOwn := by
  cases input with
  | start sal remote callbacks filter => exact h.start hinv
  | stop ptr => exact h.of_stops (stops_unregisterScanner _ _)
  | report busy result timestampMs =>
    cases busy with
    | true => exact h
    | false => exact h.report hinv hown
  | cleanup => exact h.of_stops (stops_cleanupScanner _)

/-- **Isolation of scanners.** Reports only go to the scanners that want them, and every scanner
has received what it would have received alone, exactly if the scanners agree at all times. -/
theorem scan_filters_isolate_iff (cfg : ScanConfig) (inputs : List Input) :
    (∀ s ∈ visited (step cfg) (init cfg) inputs, s.DeliversOwn ∧ s.ReceivedOwn) ↔
      ∀ s ∈ visited (step cfg) (init cfg) inputs, s.Agrees := by
  constructor
  · intro hown s hs
    have hinv : s.Inv :=
      guarded_true.invariant (fun s input h _ => h.step input) (inv_init cfg) s hs
    exact hinv.agrees_of_deliversOwn (hown s hs).1
  · intro hagrees s hs
    have hboth : s.Inv ∧ s.ReceivedOwn :=
      (guarded_of_forall_visited hagrees).invariant
        (fun s input (h : s.Inv ∧ s.ReceivedOwn) hagrees =>
          ⟨h.1.step input, h.2.step h.1 (h.1.deliversOwn_of_agrees hagrees) input⟩)
        ⟨inv_init cfg, forall_mem_nil _⟩ s hs
    exact ⟨hboth.1.deliversOwn_of_agrees (hagrees s hs), hboth.2⟩

def startFor (app : Nat) (uuid : UInt16) : Input :=
  .start true (some app) 0
    (some { duration := 0, period := 0, uuids := [uuid, 0], active := true, duplicated := false })

def report1111 : ScanResult := { addr := 0xD, addrType := 0, advData := [3, 3, 0x11, 0x11] }

/-- The scanner for 0x2222 receives the report for the scanner for 0x1111; alone it
would not. -/
theorem report_reaches_other_filter :
    let cfg : ScanConfig := { scannerMaxNum := 2, advReportSize := 10 }
    let both := after (step cfg) (init cfg)
      [startFor 1 0x1111, startFor 2 0x2222, .report false report1111 0]
    let alone := after (step cfg) (init cfg) [startFor 2 0x2222, .report false report1111 0]
    both.received 1 = [report1111] ∧ both.heardBy 1 = [report1111] ∧ alone.received 0 = [] ∧
      ¬both.ReceivedOwn := by
  refine ⟨by decide, by decide, by decide, fun h => ?_⟩
  have hsecond := h
    { ptr := 1, remote := some 2, callbacks := 0, scannerId := 1
      filter := { duration := 500, period := 5000, uuids := [0x2222, 0], active := true
                  duplicated := false } }
    (by decide)
  revert hsecond
  decide

end ScanWatch

end BtFramework
