import BtFramework.ScanIsolation
import Mathlib.Data.List.ReduceOption

/-!
# The registry of scanners

What goes wrong is a start whose call of the stack fails: `start_scan` deletes the scanner and
leaves its slot as it is. The counter of the slots has eight bits.
-/

namespace BtFramework.ScanManager

open Keyed List Runs

variable {cfg : ScanConfig} {m m' : ScanManager} {ptr : Nat} {sc : Scanner}

def Live (m : ScanManager) (ptr : Nat) : Prop :=
  .startStatus ptr .success ∈ m.notices ∧ .stopped ptr ∉ m.notices

def registered (m : ScanManager) : List Scanner :=
  m.scannerList.reduceOption

/-- All scanners with a slot live and scan, and the controller scans for them. -/
structure RegistryExact (m : ScanManager) : Prop where
  count : m.scannerCnt = m.registered.length
  live : ∀ sc ∈ m.registered, m.Live sc.ptr
  scanning : m.scanningList.Perm m.registered
  controller : m.isScanning = true ↔ m.scanningList ≠ []

/-- A start that is not reported as a success changes nothing. -/
def FailedStartKeeps (cfg : ScanConfig) (m : ScanManager) : Input → Prop
  | .start sal remote callbacks filter =>
    let m' := m.step cfg (.start sal remote callbacks filter)
    .startStatus m.nextPtr .success ∉ m'.notices →
      m'.scannerList = m.scannerList ∧ m'.scannerCnt = m.scannerCnt
        ∧ m'.scanningList = m.scanningList ∧ m'.isScanning = m.isScanning
  | _ => True

/-- A start that gets a slot is counted, and the stack accepts it. -/
def StartsCleanly (cfg : ScanConfig) (m : ScanManager) : Input → Prop
  | .start sal remote callbacks filter =>
    (registerScanner cfg m
      { ptr := m.nextPtr, remote, callbacks, scannerId := 0, filter := filterOf filter }).isOk →
      m.scannerCnt < 255 ∧ (m.isScanning = false → m.scanningList = [] → sal = true)
  | _ => True

/-! ## Slots -/

theorem reduceOption_cons {α : Type} (x : Option α) (l : List (Option α)) :
    (x :: l).reduceOption = x.toList ++ l.reduceOption := by
  cases x <;> rfl

theorem perm_reduceOption_set {α : Type} {l : List (Option α)} {i : Nat} {x y : Option α}
    (h : l[i]? = some x) :
    (x.toList ++ (l.set i y).reduceOption).Perm (y.toList ++ l.reduceOption) := by
  induction l generalizing i with
  | nil => cases h
  | cons z l ih =>
    cases i with
    | zero =>
      cases h
      rw [set_cons_zero, reduceOption_cons, reduceOption_cons]
      exact perm_append_comm_assoc ..
    | succ i =>
      rw [set_cons_succ, reduceOption_cons, reduceOption_cons]
      calc x.toList ++ (z.toList ++ (l.set i y).reduceOption)
        _ |>.Perm (z.toList ++ (x.toList ++ (l.set i y).reduceOption)) := perm_append_comm_assoc ..
        _ |>.Perm (z.toList ++ (y.toList ++ l.reduceOption)) := (ih h).append_left _
        _ |>.Perm (y.toList ++ (z.toList ++ l.reduceOption)) := perm_append_comm_assoc ..

/-! ## The invariant -/

structure Inv (m : ScanManager) : Prop where
  registry : m.RegistryExact
  bound : m.scannerCnt < 256
  ids : ∀ i (sc : Scanner), m.scannerList[i]? = some (some sc) → sc.scannerId = i
  ptrs : (m.registered.map (·.ptr)).Nodup
  fresh : ∀ sc ∈ m.registered, sc.ptr < m.nextPtr
  noticed : ∀ n ∈ m.notices, ∀ ptr, n = .startStatus ptr .success ∨ n = .stopped ptr →
    ptr < m.nextPtr

theorem inv_init : (init cfg).Inv where
  registry := by constructor <;> simp [registered, init]
  bound := by simp [init]
  ids i sc h := by simp [init, getElem?_replicate] at h
  ptrs := by simp [registered, init]
  fresh := by simp [registered, init]
  noticed := forall_mem_nil _

theorem Live.notify {n : ScanNotice} (h : m.Live ptr) (hn : n ≠ .stopped ptr) :
    (m.notify n).Live ptr :=
  ⟨mem_append_left _ h.1, by simpa [ScanManager.notify] using ⟨h.2, hn.symm⟩⟩

/-! ## Starting -/

theorem startScan_cases (cfg : ScanConfig) (m : ScanManager) (sal : Bool) (remote : Option Nat)
    (callbacks : Nat) (filter : ScanFilter) :
    let m' := m.startScan cfg sal remote callbacks filter
    let isOk := (registerScanner cfg m
      { ptr := m.nextPtr, remote, callbacks, scannerId := 0, filter }).isOk
    let first := !m.isScanning && m.scanningList.isEmpty
    (isOk = false ∧ ∃ status, status ≠ .success
      ∧ m' = { m with nextPtr := m.nextPtr + 1 }.notify (.startStatus m.nextPtr status)) ∨
    (isOk = true ∧ ∃ (j : Nat) (sc : Scanner), m.scannerList[j]? = some none ∧ sc.ptr = m.nextPtr
      ∧ sc.scannerId = j ∧
      let m₁ := { m with
        nextPtr := m.nextPtr + 1, scannerList := m.scannerList.set j (some sc)
        scannerCnt := (m.scannerCnt + 1) % 256 }
      ((first && !sal) = true ∧ m' = m₁.notify (.startStatus m.nextPtr .startFail) ∨
        (first && !sal) = false ∧ m' = { m₁ with
          isScanning := m.isScanning || first
          scanningList := m.scanningList ++ [sc] }.notify (.startStatus m.nextPtr .success))) := by
  rw [startScan]
  dsimp only
  have hok : (registerScanner cfg { m with nextPtr := m.nextPtr + 1 }
      { ptr := m.nextPtr, remote, callbacks, scannerId := 0, filter }).isOk
      = (registerScanner cfg m
        { ptr := m.nextPtr, remote, callbacks, scannerId := 0, filter }).isOk := by
    simp only [registerScanner]
    grind [Except.toBool]
  rw [← hok]
  split
  next status hregister =>
    refine .inl ⟨by rw [hregister]; rfl, status, ?_, rfl⟩
    rw [registerScanner] at hregister
    grind
  next sc m₁ hregister =>
    refine .inr ⟨by rw [hregister]; rfl, ?_⟩
    obtain ⟨j, hfree, rfl, rfl⟩ := ScanWatch.registerScanner_ok hregister
    refine ⟨j, { ptr := m.nextPtr, remote, callbacks, scannerId := j, filter }, hfree, rfl, rfl, ?_⟩
    split
    next hfails => exact .inl ⟨hfails, rfl⟩
    next hstarts => exact .inr ⟨Bool.eq_false_iff.mpr hstarts, rfl⟩

theorem perm_registered_set (sc : Scanner) {j : Nat} (hfree : m.scannerList[j]? = some none) :
    (m.scannerList.set j (some sc)).reduceOption.Perm (sc :: m.registered) :=
  perm_reduceOption_set hfree

theorem Inv.started_scanner (h : m.Inv) {j : Nat} {isScanning : Bool}
    (hfree : m.scannerList[j]? = some none) (hptr : sc.ptr = m.nextPtr) (hid : sc.scannerId = j)
    (hcount : m.scannerCnt < 255) (hon : isScanning = true) :
    Inv ({ m with
      nextPtr := m.nextPtr + 1, scannerList := m.scannerList.set j (some sc)
      scannerCnt := (m.scannerCnt + 1) % 256, isScanning
      scanningList := m.scanningList ++ [sc] }.notify (.startStatus m.nextPtr .success)) := by
  have hperm := perm_registered_set sc hfree
  have hmem : ∀ sc', sc' ∈ (m.scannerList.set j (some sc)).reduceOption
      ↔ sc' = sc ∨ sc' ∈ m.registered := fun sc' => hperm.mem_iff.trans mem_cons
  have hnoticed := h.noticed
  have hfresh := h.fresh
  refine ⟨⟨?_, fun sc' hsc' => ?_, ?_, ?_⟩, Nat.mod_lt _ (by decide), fun i sc' hi => ?_, ?_, ?_,
    ?_⟩
  · have hlen := hperm.length_eq
    have := h.registry.count
    simp only [ScanManager.notify, registered, length_cons] at *
    omega
  · rcases (hmem sc').mp hsc' with rfl | hsc'
    · rw [hptr]
      refine ⟨mem_concat_self, fun hstop => ?_⟩
      simp only [ScanManager.notify, mem_append, mem_singleton, reduceCtorEq, or_false] at hstop
      exact Nat.lt_irrefl _ (hnoticed _ hstop _ (.inr rfl))
    · exact (h.registry.live sc' hsc').notify nofun
  · exact (perm_append_singleton _ _).trans ((h.registry.scanning.cons sc).trans hperm.symm)
  · exact iff_of_true hon (by simp [ScanManager.notify])
  · have := h.ids
    simp only [ScanManager.notify, getElem?_set] at hi
    grind
  · refine ((hperm.map (·.ptr)).nodup_iff).mpr (nodup_cons.mpr ⟨fun hin => ?_, h.ptrs⟩)
    obtain ⟨sc', hsc', heq⟩ := mem_map.mp hin
    exact Nat.lt_irrefl _ (hptr ▸ heq ▸ hfresh sc' hsc')
  · intro sc' hsc'
    have := (hmem sc').mp hsc'
    simp only [ScanManager.notify]
    grind
  · simp only [ScanManager.notify, mem_append, mem_singleton]
    grind

/-! ## Stopping -/

theorem stopScan_spec (hsc : sc ∈ m.scanningList) (hon : m.isScanning = true) :
    let m' := m.stopScan sc.ptr
    m'.scanningList = remove (·.ptr) sc.ptr m.scanningList
      ∧ (m'.isScanning = true ↔ m'.scanningList ≠ []) ∧ m'.scannerList = m.scannerList
      ∧ m'.scannerCnt = m.scannerCnt ∧ m'.nextPtr = m.nextPtr ∧ m'.notices = m.notices := by
  have hany : m.scanningList.any (·.ptr = sc.ptr) = true := any_eq_true.mpr ⟨sc, hsc, by simp⟩
  dsimp only [stopScan]
  rw [hany, Bool.not_true, if_neg Bool.false_ne_true, hon, Bool.true_and]
  split
  next hlast => exact ⟨rfl, by simpa using hlast, rfl, rfl, rfl, rfl⟩
  next hmore => exact ⟨rfl, by simpa [hon] using hmore, rfl, rfl, rfl, rfl⟩

theorem Inv.unregister (h : m.Inv) (ptr : Nat) :
    (m.unregisterScanner ptr).Inv
      ∧ ∀ sc ∈ (m.unregisterScanner ptr).registered, sc ∈ m.registered ∧ sc.ptr ≠ ptr := by
  rw [unregisterScanner]
  split
  next sc hfind =>
    obtain rfl : sc.ptr = ptr := by simpa using find?_some hfind
    obtain ⟨j, hj⟩ := getElem?_of_mem (mem_of_find?_eq_some hfind)
    have hrest : (sc :: (m.scannerList.set j none).reduceOption).Perm m.registered :=
      perm_reduceOption_set hj
    have hptrs := nodup_cons.mp ((hrest.map (·.ptr)).nodup_iff.mpr h.ptrs)
    have hold : ∀ sc' ∈ (m.scannerList.set j none).reduceOption,
        sc' ∈ m.registered ∧ sc'.ptr ≠ sc.ptr := fun sc' hsc' =>
      ⟨hrest.mem_iff.mp (mem_cons_of_mem _ hsc'), fun heq => hptrs.1 (mem_map.mpr ⟨sc', hsc', heq⟩)⟩
    have hsc : sc ∈ m.scanningList :=
      h.registry.scanning.mem_iff.mpr (hrest.mem_iff.mp mem_cons_self)
    have hremove := perm_cons_remove (h.registry.scanning.map (·.ptr) |>.nodup_iff.mpr h.ptrs) hsc
    obtain ⟨hscanning, hcontroller, hlist, hcnt, hnext, hnotices⟩ :=
      stopScan_spec hsc (h.registry.controller.mpr (ne_nil_of_mem hsc))
    generalize m.stopScan sc.ptr = m₁ at *
    have hcount := h.registry.count.trans hrest.length_eq.symm
    have hbound := h.bound
    rw [length_cons] at hcount
    dsimp only [ScanManager.notify, registered]
    rw [hlist, h.ids j sc hj]
    refine ⟨⟨⟨?_, fun sc' hsc' => ?_, ?_, hcontroller⟩, ?_, fun i sc' hi => ?_, hptrs.2, ?_, ?_⟩,
      hold⟩
    · dsimp only [registered]
      omega
    · obtain ⟨hmem, hne⟩ := hold sc' hsc'
      have hlive : m₁.Live sc'.ptr := by
        rw [Live, hnotices]
        exact h.registry.live sc' hmem
      exact hlive.notify fun heq => hne (ScanNotice.stopped.inj heq).symm
    · rw [hscanning]
      exact (hremove.symm.trans (h.registry.scanning.trans hrest.symm)).cons_inv
    · exact Nat.mod_lt _ (by decide)
    · have := h.ids
      grind
    · exact fun sc' hsc' => hnext ▸ h.fresh sc' (hold sc' hsc').1
    · have := h.noticed
      have := h.fresh sc (hrest.mem_iff.mp mem_cons_self)
      grind
  next hnone =>
    refine ⟨h, fun sc hsc => ⟨hsc, fun heq => ?_⟩⟩
    have hmem : some sc ∈ m.scannerList := reduceOption_mem_iff.mp hsc
    cases hfind : m.scannerList.find? (·.any (·.ptr = ptr)) with
    | none => simpa [heq] using find?_eq_none.mp hfind _ hmem
    | some x =>
      have hx := find?_some hfind
      cases x with
      | none => cases hx
      | some sc' => exact hnone sc' hfind

theorem Inv.cleanupSlots (h : m.Inv) (slots : List (Option Scanner)) :
    (slots.foldl cleanupSlot m).Inv
      ∧ ∀ sc ∈ (slots.foldl cleanupSlot m).registered, sc ∈ m.registered ∧ some sc ∉ slots := by
  induction slots generalizing m with
  | nil => exact ⟨h, fun sc hsc => ⟨hsc, not_mem_nil⟩⟩
  | cons slot slots ih =>
    have hslot : (m.cleanupSlot slot).Inv
        ∧ ∀ sc ∈ (m.cleanupSlot slot).registered, sc ∈ m.registered ∧ slot ≠ some sc := by
      cases slot with
      | none => exact ⟨h, fun sc hsc => ⟨hsc, nofun⟩⟩
      | some scanner =>
        refine (h.unregister scanner.ptr).imp_right fun hold sc hsc => ?_
        exact (hold sc hsc).imp_right fun hne heq => hne (by cases heq; rfl)
    obtain ⟨hinv, hall⟩ := ih hslot.1
    refine ⟨hinv, fun sc hsc => ?_⟩
    obtain ⟨hmem, hnot⟩ := hall sc hsc
    obtain ⟨hmem, hne⟩ := hslot.2 sc hmem
    exact ⟨hmem, fun hin => (mem_cons.mp hin).elim (fun heq => hne heq.symm) hnot⟩

theorem Inv.cleanup (h : m.Inv) : m.cleanupScanner.Inv := by
  obtain ⟨hinv, hall⟩ := h.cleanupSlots m.scannerList
  rw [cleanupScanner]
  generalize m.scannerList.foldl cleanupSlot m = m' at *
  have hnone : m'.registered = [] := eq_nil_iff_forall_not_mem.mpr fun sc hsc =>
    (hall sc hsc).2 (reduceOption_mem_iff.mp (hall sc hsc).1)
  have hscanning : m'.scanningList = [] := (hnone ▸ hinv.registry.scanning).eq_nil
  exact { hinv with registry := { hinv.registry with
    scanning := hscanning ▸ hinv.registry.scanning
    controller := hscanning ▸ hinv.registry.controller } }

theorem Inv.report (h : m.Inv) (busy : Bool) (result : ScanResult) (timestampMs : UInt32) :
    (m.notifyScannersScanResult busy result timestampMs).Inv := by
  rw [notifyScannersScanResult]
  split
  · exact h
  have hold : ∀ n, (∀ ptr, n ≠ .result ptr result) →
      (n ∈ m.notices ++ (m.offerAll result timestampMs).delivered.map (.result · result)
        ↔ n ∈ m.notices) := by
    intro n hn
    simp only [mem_append, mem_map, or_iff_left_iff_imp]
    rintro ⟨p, -, rfl⟩
    exact absurd rfl (hn p)
  have := h.noticed
  refine { h with registry := { h.registry with live := fun sc hsc => ?_ }, noticed := ?_ }
  · rw [Live, hold _ (by simp), hold _ (by simp)]
    exact h.registry.live sc hsc
  · grind

/-! ## Whole runs -/

theorem Inv.step_clean (h : m.Inv) {input : Input} (hclean : StartsCleanly cfg m input) :
    (m.step cfg input).Inv ∧ FailedStartKeeps cfg m input := by
  cases input with
  | start sal remote callbacks filter =>
    dsimp only [FailedStartKeeps, step, StartsCleanly] at hclean ⊢
    rcases startScan_cases cfg m sal remote callbacks (filterOf filter) with
      ⟨-, status, hstatus, heq⟩ | ⟨hok, j, sc, hfree, hptr, hid, hstarts⟩
    · rw [heq]
      refine ⟨⟨{ h.registry with live := fun sc hsc => (h.registry.live sc hsc).notify nofun },
        h.bound, h.ids, h.ptrs, fun sc hsc => Nat.lt_succ_of_lt (h.fresh sc hsc), ?_⟩,
        fun _ => ⟨rfl, rfl, rfl, rfl⟩⟩
      have := h.noticed
      simp only [ScanManager.notify, mem_append, mem_singleton]
      grind
    obtain ⟨hcount, hsal⟩ := hclean hok
    have hcontroller := h.registry.controller
    rcases hstarts with ⟨hfails, -⟩ | ⟨-, heq⟩
    · simp_all
    · rw [heq]
      have hon : (m.isScanning || !m.isScanning && m.scanningList.isEmpty) = true := by
        cases hscan : m.isScanning <;> simp_all
      exact ⟨h.started_scanner hfree hptr hid hcount hon, fun hno => absurd mem_concat_self hno⟩
  | stop ptr => exact ⟨(h.unregister ptr).1, trivial⟩
  | report busy result timestampMs =>
    exact ⟨h.report busy result timestampMs, trivial⟩
  | cleanup => exact ⟨h.cleanup, trivial⟩

theorem Inv.not_registryExact (h : m.Inv) {input : Input} (hclean : ¬StartsCleanly cfg m input) :
    ¬(m.step cfg input).RegistryExact := by
  cases input with
  | start sal remote callbacks filter =>
    dsimp only [step, StartsCleanly] at hclean ⊢
    rcases startScan_cases cfg m sal remote callbacks (filterOf filter) with
      ⟨hok, -⟩ | ⟨-, j, sc, hfree, hptr, hid, hstarts⟩
    · simp [hok] at hclean
    have hperm := perm_registered_set sc hfree
    have hbound := h.bound
    intro hexact
    rcases hstarts with ⟨-, heq⟩ | ⟨hstarts, heq⟩
    · rw [heq] at hexact
      have hlive := (hexact.live sc (hperm.mem_iff.mpr mem_cons_self)).1
      rcases mem_append.mp hlive with hmem | hmem
      · exact Nat.lt_irrefl _ (hptr ▸ h.noticed _ hmem _ (.inl rfl))
      · simp at hmem
    · rw [heq] at hexact
      have hlen := hexact.count.trans hperm.length_eq
      dsimp only [ScanManager.notify, length_cons] at hlen
      have hmax : m.scannerCnt < 255 := by omega
      simp_all
  | stop ptr | report busy result timestampMs | cleanup => exact absurd trivial hclean

/-- **The registry.** It is exact in every state and a failed start leaves it as it was, exactly
if every start that gets a slot succeeds and finds less than 255 slots taken. -/
theorem scanner_registry_exact_iff (cfg : ScanConfig) (inputs : List Input) :
    ((∀ m ∈ visited (step cfg) (init cfg) inputs, m.RegistryExact)
      ∧ Guarded (step cfg) (FailedStartKeeps cfg) (init cfg) inputs)
      ↔ Guarded (step cfg) (StartsCleanly cfg) (init cfg) inputs := by
  have hiff : (∀ m ∈ visited (step cfg) (init cfg) inputs, m.RegistryExact)
      ↔ Guarded (step cfg) (StartsCleanly cfg) (init cfg) inputs :=
    forall_visited_iff_guarded (fun m (h : m.Inv) => h.registry)
      (fun m input h hclean => (h.step_clean hclean).1)
      (fun m input h => h.not_registryExact) inv_init
  rw [hiff]
  refine ⟨And.left, fun hclean => ⟨hclean, ?_⟩⟩
  exact hclean.steps (fun m input (h : m.Inv) hclean => (h.step_clean hclean).1)
    (fun m input h hclean => (h.step_clean hclean).2) inv_init

theorem failed_start_keeps_slot :
    ¬((init ⟨2, 10⟩).step ⟨2, 10⟩ (.start false none 0 none)).RegistryExact := by
  intro h
  have hlive := h.live { ptr := 0, remote := none, callbacks := 0, scannerId := 0, filter := .none }
    (by decide)
  exact absurd hlive.1 (by decide)

end BtFramework.ScanManager
