import BtFramework.Keyed
import BtFramework.Runs
import Mathlib.Data.List.Perm.Lattice

/-!
# The call list of the hands-free unit

The stack answers a query of the current calls with one report for each call and a final one
with index zero, on which `query_current_calls_final` brings `current_calls` in line with
`update_calls`. Every change is shown with one callback.

A number that is empty reaches the state machine as a null string and is then printed with `%s`.
What a C library prints for it is the parameter `nullText`.
-/

namespace BtFramework.Hfp

open Keyed List

/-! ## Texts and calls -/

/-- A string without its terminator. -/
abbrev CText := List UInt8

abbrev CBuf (n : Nat) := { text : CText // text.length < n }

def snprintf (n : Nat) (text : CText) : CBuf (n + 1) :=
  ⟨text.take n, by rw [List.length_take]; omega⟩

theorem snprintf_val (n : Nat) (text : CBuf (n + 1)) : snprintf n text.val = text :=
  Subtype.ext (take_of_length_le (Nat.le_of_lt_succ text.property))

inductive CallDirection where
  | outgoing
  | incoming
  deriving DecidableEq

inductive CallMpty where
  | single
  | multi
  deriving DecidableEq

inductive HfCallState where
  | active
  | held
  | dialing
  | alerting
  | incoming
  | waiting
  | heldByRespHold
  | disconnected
  deriving DecidableEq

/-- `hfp_current_call_t`. -/
structure CurrentCall where
  index : UInt32
  dir : CallDirection
  state : HfCallState
  mpty : CallMpty
  number : CBuf 32
  name : CBuf 64

/-- What the stack reports of a call. -/
structure CallReport where
  index : UInt32
  dir : CallDirection
  state : HfCallState
  mpty : CallMpty
  number : CText
  deriving DecidableEq

def CurrentCall.report (call : CurrentCall) : CallReport :=
  { index := call.index, dir := call.dir, state := call.state, mpty := call.mpty
    number := call.number.val }

structure CallMessage where
  index : UInt32
  dir : CallDirection
  state : HfCallState
  mpty : CallMpty
  number : Option CText

def msgAddStr (text : CText) : Option CText := if text.length ≠ 0 then some text else none

def hfpHfOnCurrentCallResponse (r : CallReport) : CallMessage :=
  { index := r.index, dir := r.dir, state := r.state, mpty := r.mpty
    number := msgAddStr r.number }

def finalCallResponse : CallMessage :=
  { index := 0, dir := .outgoing, state := .active, mpty := .single, number := none }

/-! ## The state machine's part -/

structure CallStatus where
  call : Nat
  callsetup : Nat
  callheld : Nat

inductive HfNotification where
  | call (value : Nat)
  | callsetup (value : Nat)
  | callheld (value : Nat)
  | clip (number name : Option CText)
  | callStateChanged (call : CurrentCall)
  | currentCalls (calls : List CurrentCall)

structure HfCalls where
  currentCalls : List CurrentCall
  updateCalls : List CurrentCall
  status : CallStatus
  lastReported : CallStatus
  needQueryCallback : Bool
  pendingQuery : Bool
  notified : List HfNotification

def HfCalls.notify (s : HfCalls) (n : HfNotification) : HfCalls :=
  { s with notified := s.notified ++ [n] }

def hfCallNew (nullText : CText) (m : CallMessage) : CurrentCall :=
  { index := m.index, dir := m.dir, state := m.state, mpty := m.mpty
    number := snprintf 31 (m.number.getD nullText)
    name := snprintf 63 [] }

def hfServiceFakeCiev (s : HfCalls) : HfCalls :=
  let s := if s.lastReported.call ≠ s.status.call then
    { s.notify (.call s.status.call) with
      lastReported := { s.lastReported with call := s.status.call } } else s
  let s := if s.lastReported.callsetup ≠ s.status.callsetup then
    { s.notify (.callsetup s.status.callsetup) with
      lastReported := { s.lastReported with callsetup := s.status.callsetup } } else s
  if s.lastReported.callheld ≠ s.status.callheld then
    { s.notify (.callheld s.status.callheld) with
      lastReported := { s.lastReported with callheld := s.status.callheld } } else s

def hfNotifyCurrentCalls (s : HfCalls) : HfCalls :=
  { s.notify (.currentCalls (s.currentCalls.take 4)) with needQueryCallback := false }

def updateCall (ucall ccall : CurrentCall) : CurrentCall :=
  { ccall with
    dir := ucall.dir
    state := ucall.state
    mpty := ucall.mpty
    number := snprintf 31 ucall.number.val }

def callChanged (ucall ccall : CurrentCall) : Bool :=
  ucall.dir ≠ ccall.dir ∨ ucall.state ≠ ccall.state ∨ ucall.mpty ≠ ccall.mpty ∨
    ucall.number ≠ ccall.number

def reconcileCurrent (ulist : List CurrentCall) :
    List CurrentCall → List CurrentCall × List CurrentCall
  | [] => ([], [])
  | ccall :: rest =>
    let (kept, notes) := reconcileCurrent ulist rest
    match ulist.find? (·.index = ccall.index) with
    | none => (kept, { ccall with state := .disconnected } :: notes)
    | some ucall =>
      if callChanged ucall ccall then
        (updateCall ucall ccall :: kept, updateCall ucall ccall :: notes)
      else (ccall :: kept, notes)

def addNewCalls : List CurrentCall → List CurrentCall → List CurrentCall × List CurrentCall
  | [], clist => (clist, [])
  | ucall :: rest, clist =>
    match clist.find? (·.index = ucall.index) with
    | none =>
      let (calls, notes) := addNewCalls rest (clist ++ [ucall])
      (calls, ucall :: notes)
    | some _ => addNewCalls rest clist

def queryCurrentCallsFinal (s : HfCalls) : HfCalls :=
  let s := hfServiceFakeCiev s
  let (kept, changed) := reconcileCurrent s.updateCalls s.currentCalls
  let (calls, new) := addNewCalls s.updateCalls kept
  let s := { s with
    currentCalls := calls
    notified := s.notified ++ (changed ++ new).map .callStateChanged }
  let s := if s.needQueryCallback then hfNotifyCurrentCalls s else s
  { s with pendingQuery := false, updateCalls := [] }

def setCurrentCallName (number name : CText) :
    List CurrentCall → List CurrentCall × List CurrentCall
  | [] => ([], [])
  | call :: rest =>
    if call.number.val = number then
      if call.name.val = name then (call :: rest, [])
      else
        let call := { call with name := snprintf 63 name }
        let (calls, notes) := setCurrentCallName number name rest
        (call :: calls, call :: notes)
    else
      let (calls, notes) := setCurrentCallName number name rest
      (call :: calls, notes)

inductive HfCallEvent where
  | call (value : Nat) (queried : Bool)
  | callsetup (value : Nat) (queried : Bool)
  | callheld (value : Nat) (queried : Bool)
  | clip (number name : Option CText)
  | currentCalls (m : CallMessage)
  | queryWithCallback
  | reset

def processCallEvent (nullText : CText) (s : HfCalls) : HfCallEvent → HfCalls
  | .call value queried =>
    { s with
      status := { s.status with call := value }
      pendingQuery := s.pendingQuery || queried }
  | .callsetup value queried =>
    { s with
      status := { s.status with callsetup := value }
      pendingQuery := s.pendingQuery || queried }
  | .callheld value queried =>
    { s with
      status := { s.status with callheld := value }
      pendingQuery := s.pendingQuery || queried }
  | .clip number name =>
    let s := s.notify (.clip number name)
    match number, name with
    | some number, some name =>
      let (calls, notes) := setCurrentCallName number name s.currentCalls
      { s with
        currentCalls := calls
        notified := s.notified ++ notes.map .callStateChanged }
    | _, _ => s
  | .currentCalls m =>
    if m.index = 0 then queryCurrentCallsFinal s
    else { s with updateCalls := s.updateCalls ++ [hfCallNew nullText m] }
  | .queryWithCallback =>
    if s.pendingQuery then { s with needQueryCallback := true } else hfNotifyCurrentCalls s
  | .reset =>
    { s with currentCalls := [], updateCalls := [], lastReported := ⟨0, 0, 0⟩ }

def processCallReports (nullText : CText) (s : HfCalls) (reports : List CallReport) : HfCalls :=
  (reports.map hfpHfOnCurrentCallResponse ++ [finalCallResponse]).foldl
    (fun s m => processCallEvent nullText s (.currentCalls m)) s

/-! ## The two passes

With `u.report` for what was reported, the first pass makes each call that
stays show its report, and the second adds the rest of the reports. -/

variable {ucall ccall : CurrentCall}

theorem report_updateCall (h : ucall.index = ccall.index) :
    (updateCall ucall ccall).report = ucall.report := by
  simp only [updateCall, CurrentCall.report, snprintf_val, h]

theorem callChanged_eq_false (h : ucall.index = ccall.index) :
    callChanged ucall ccall = false ↔ ccall.report = ucall.report := by
  simp only [callChanged, CurrentCall.report, CallReport.mk.injEq, decide_eq_false_iff_not,
    not_or, not_not, h, true_and, Subtype.ext_iff]
  constructor <;> exact fun ⟨h1, h2, h3, h4⟩ => ⟨h1.symm, h2.symm, h3.symm, h4.symm⟩

theorem updateCall_of_not_changed (h : ucall.index = ccall.index)
    (hc : callChanged ucall ccall = false) : updateCall ucall ccall = ccall := by
  have hr := (callChanged_eq_false h).mp hc
  simp only [CurrentCall.report, CallReport.mk.injEq] at hr
  obtain ⟨_, hdir, hstate, hmpty, hnumber⟩ := hr
  rw [updateCall, snprintf_val, ← hdir, ← hstate, ← hmpty, ← Subtype.ext hnumber]

theorem reconcileCurrent_kept (ulist clist : List CurrentCall) :
    (reconcileCurrent ulist clist).1 = clist.filterMap fun c =>
      (ulist.find? (·.index = c.index)).map fun u => updateCall u c := by
  induction clist with
  | nil => rfl
  | cons c rest ih =>
    rw [reconcileCurrent, filterMap_cons]
    cases hf : ulist.find? (·.index = c.index) with
    | none => exact ih
    | some u =>
      cases hc : callChanged u c with
      | true => simpa [hc] using ih
      | false =>
        have hu := updateCall_of_not_changed (mem_of_find? hf).2 hc
        simpa [hc, hu] using ih

theorem reconcileCurrent_notes (ulist clist : List CurrentCall) :
    (reconcileCurrent ulist clist).2 = clist.filterMap fun c =>
      match ulist.find? (·.index = c.index) with
      | none => some { c with state := .disconnected }
      | some u => if callChanged u c then some (updateCall u c) else none := by
  induction clist with
  | nil => rfl
  | cons c rest ih =>
    rw [reconcileCurrent, filterMap_cons]
    cases hf : ulist.find? (·.index = c.index) with
    | none => simpa using ih
    | some u =>
      cases hc : callChanged u c with
      | true | false => simpa [hc] using ih

def newCalls (ulist clist : List CurrentCall) : List CurrentCall :=
  ulist.filter fun u => (clist.find? (·.index = u.index)).isNone

theorem mem_newCalls {ulist clist : List CurrentCall} {u : CurrentCall} :
    u ∈ newCalls ulist clist ↔ u ∈ ulist ∧ ∀ c ∈ clist, c.index ≠ u.index := by
  simp [newCalls]

theorem addNewCalls_eq {ulist : List CurrentCall} (h : (ulist.map (·.index)).Nodup)
    (clist : List CurrentCall) :
    addNewCalls ulist clist = (clist ++ newCalls ulist clist, newCalls ulist clist) := by
  induction ulist generalizing clist with
  | nil => simp [addNewCalls, newCalls]
  | cons u rest ih =>
    rw [map_cons, nodup_cons] at h
    cases hf : clist.find? (·.index = u.index) with
    | none =>
      -- the call just added hides no later report, the indices being distinct
      have hrest : newCalls rest (clist ++ [u]) = newCalls rest clist := by
        apply filter_congr
        intro v hv
        have hne : u.index ≠ v.index := fun he =>
          h.1 (mem_map.mpr ⟨v, hv, he.symm⟩)
        simp [find?_append, hne]
      have hnew : newCalls (u :: rest) clist = u :: newCalls rest clist := by
        rw [newCalls, filter_cons_of_pos (by simp [hf])]
        rfl
      simp only [addNewCalls, hf, ih h.2, hrest, hnew, append_assoc, singleton_append]
    | some c =>
      have hnew : newCalls (u :: rest) clist = newCalls rest clist := by
        rw [newCalls, filter_cons_of_neg (by simp [hf])]
        rfl
      simp only [addNewCalls, hf, ih h.2, hnew]

theorem nodup_addNewCalls (ulist : List CurrentCall) {clist : List CurrentCall}
    (hc : (clist.map (·.index)).Nodup) :
    ((addNewCalls ulist clist).1.map (·.index)).Nodup := by
  induction ulist generalizing clist with
  | nil => exact hc
  | cons u rest ih =>
    rw [addNewCalls]
    cases hf : clist.find? (·.index = u.index) with
    | none => exact ih (nodup_concat hc fun c hc' => find?_eq_none hf hc')
    | some c => exact ih hc

/-! ## The reconciled list -/

section Reconcile

variable {ulist clist : List CurrentCall}

def reconciledCalls (ulist clist : List CurrentCall) : List CurrentCall :=
  (addNewCalls ulist (reconcileCurrent ulist clist).1).1

def reconcileNotes (ulist clist : List CurrentCall) : List CurrentCall :=
  (reconcileCurrent ulist clist).2 ++ (addNewCalls ulist (reconcileCurrent ulist clist).1).2

theorem nodup_kept (hc : (clist.map (·.index)).Nodup) :
    ((reconcileCurrent ulist clist).1.map (·.index)).Nodup := by
  rw [reconcileCurrent_kept]
  apply nodup_filterMap _ hc
  intro c k hk
  obtain ⟨u, _, rfl⟩ := Option.map_eq_some_iff.mp hk
  rfl

theorem nodup_reconciledCalls (hc : (clist.map (·.index)).Nodup) :
    ((reconciledCalls ulist clist).map (·.index)).Nodup :=
  nodup_addNewCalls ulist (nodup_kept hc)

theorem nodup_map_report {l : List CurrentCall} (h : (l.map (·.index)).Nodup) :
    (l.map CurrentCall.report).Nodup := by
  apply List.Nodup.of_map CallReport.index
  rw [map_map]
  exact h

variable (hu : (ulist.map (·.index)).Nodup)
include hu

theorem mem_kept {k : CurrentCall} :
    k ∈ (reconcileCurrent ulist clist).1 ↔
      ∃ c ∈ clist, ∃ u ∈ ulist, u.index = c.index ∧ k = updateCall u c := by
  rw [reconcileCurrent_kept, mem_filterMap]
  refine exists_congr fun c => and_congr_right fun _ => ?_
  simp only [Option.map_eq_some_iff, find?_eq_some hu, and_assoc, eq_comm (a := k)]

theorem mem_newCalls_kept {n : CurrentCall} :
    n ∈ newCalls ulist (reconcileCurrent ulist clist).1 ↔
      n ∈ ulist ∧ ∀ c ∈ clist, c.index ≠ n.index := by
  rw [mem_newCalls]
  refine and_congr_right fun hn => ⟨?_, ?_⟩
  · intro h c hc hindex
    exact h _ ((mem_kept hu).mpr ⟨c, hc, n, hn, hindex.symm, rfl⟩) hindex
  · intro h k hk
    obtain ⟨c, hc, u, _, _, rfl⟩ := (mem_kept hu).mp hk
    exact h c hc

theorem reconcileNotes_eq :
    reconcileNotes ulist clist = (reconcileCurrent ulist clist).2 ++
      newCalls ulist (reconcileCurrent ulist clist).1 := by
  rw [reconcileNotes, addNewCalls_eq hu]

theorem nodup_append_new {l : List CurrentCall} (hl : (l.map (·.index)).Nodup)
    (hold : ∀ k ∈ l, ∃ c ∈ clist, c.index = k.index) :
    ((l ++ newCalls ulist (reconcileCurrent ulist clist).1).map (·.index)).Nodup := by
  rw [map_append, nodup_append]
  refine ⟨hl, hu.sublist (filter_sublist.map _), ?_⟩
  intro i hi j hj
  obtain ⟨k, hk, rfl⟩ := mem_map.mp hi
  obtain ⟨n, hn, rfl⟩ := mem_map.mp hj
  obtain ⟨c, hc, hindex⟩ := hold k hk
  rw [← hindex]
  exact ((mem_newCalls_kept hu).mp hn).2 c hc

theorem reconciledCalls_perm (hc : (clist.map (·.index)).Nodup) :
    ((reconciledCalls ulist clist).map CurrentCall.report).Perm (ulist.map CurrentCall.report) := by
  rw [perm_ext_iff_of_nodup (nodup_map_report (nodup_reconciledCalls hc)) (nodup_map_report hu)]
  intro r
  rw [reconciledCalls, addNewCalls_eq hu]
  simp only [mem_map, mem_append]
  constructor
  · rintro ⟨k, hk | hk, rfl⟩
    · obtain ⟨c, _, u, hu', hindex, rfl⟩ := (mem_kept hu).mp hk
      exact ⟨u, hu', (report_updateCall hindex).symm⟩
    · exact ⟨k, (mem_newCalls.mp hk).1, rfl⟩
  · rintro ⟨u, hu', rfl⟩
    by_cases hold : ∃ c ∈ clist, c.index = u.index
    · obtain ⟨c, hc', hindex⟩ := hold
      exact ⟨updateCall u c, .inl ((mem_kept hu).mpr ⟨c, hc', u, hu', hindex.symm, rfl⟩),
        report_updateCall hindex.symm⟩
    · push Not at hold
      exact ⟨u, .inr ((mem_newCalls_kept hu).mpr ⟨hu', hold⟩), rfl⟩

theorem mem_reconcileCurrent_notes {n : CurrentCall} :
    n ∈ (reconcileCurrent ulist clist).2 ↔
      (∃ c ∈ clist, (∀ u ∈ ulist, u.index ≠ c.index) ∧ n = { c with state := .disconnected }) ∨
      (∃ c ∈ clist, ∃ u ∈ ulist, u.index = c.index ∧ c.report ≠ u.report ∧ n = updateCall u c) := by
  rw [reconcileCurrent_notes, mem_filterMap]
  constructor
  · rintro ⟨c, hc, hn⟩
    cases hf : ulist.find? (·.index = c.index) with
    | none =>
      rw [hf] at hn
      exact .inl ⟨c, hc, fun u hu' => find?_eq_none hf hu', (Option.some.inj hn).symm⟩
    | some u =>
      obtain ⟨hu', hindex⟩ := mem_of_find? hf
      rw [hf] at hn
      cases hch : callChanged u c with
      | false => simp [hch] at hn
      | true =>
        refine .inr ⟨c, hc, u, hu', hindex, ?_, ?_⟩
        · intro hr
          rw [(callChanged_eq_false hindex).mpr hr] at hch
          cases hch
        · simpa [hch, eq_comm] using hn
  · rintro (⟨c, hc, hgone, rfl⟩ | ⟨c, hc, u, hu', hindex, hr, rfl⟩)
    · refine ⟨c, hc, ?_⟩
      have hf : ulist.find? (·.index = c.index) = none := by simpa using hgone
      rw [hf]
    · refine ⟨c, hc, ?_⟩
      have hch : callChanged u c = true := by
        rw [← Bool.not_eq_false]
        exact fun h => hr ((callChanged_eq_false hindex).mp h)
      rw [(find?_eq_some hu).mpr ⟨hu', hindex⟩]
      exact if_pos hch

theorem nodup_reconcileNotes (hc : (clist.map (·.index)).Nodup) :
    ((reconcileNotes ulist clist).map (·.index)).Nodup := by
  rw [reconcileNotes_eq hu]
  apply nodup_append_new hu
  · rw [reconcileCurrent_notes]
    apply nodup_filterMap _ hc
    intro c n hn
    split at hn
    · cases hn; rfl
    · split at hn
      · cases hn; rfl
      · cases hn
  · intro n hn
    rcases (mem_reconcileCurrent_notes hu).mp hn with ⟨c, hc, _, rfl⟩ | ⟨c, hc, u, _, _, _, rfl⟩
    · exact ⟨c, hc, rfl⟩
    · exact ⟨c, hc, rfl⟩

end Reconcile

/-! ## One answer of the stack -/

def callChanges (notified : List HfNotification) : List CurrentCall :=
  notified.filterMap fun
    | .callStateChanged call => some call
    | _ => none

def changesSince (before after : HfCalls) : List CurrentCall :=
  (callChanges after.notified).drop (callChanges before.notified).length

theorem hfServiceFakeCiev_spec (s : HfCalls) :
    (hfServiceFakeCiev s).currentCalls = s.currentCalls ∧
      (hfServiceFakeCiev s).updateCalls = s.updateCalls ∧
      callChanges (hfServiceFakeCiev s).notified = callChanges s.notified := by
  simp only [hfServiceFakeCiev, HfCalls.notify]
  split <;> split <;> split <;> simp [callChanges]

theorem queryCurrentCallsFinal_spec (s : HfCalls) :
    (queryCurrentCallsFinal s).currentCalls = reconciledCalls s.updateCalls s.currentCalls ∧
      (queryCurrentCallsFinal s).updateCalls = [] ∧
      callChanges (queryCurrentCallsFinal s).notified =
        callChanges s.notified ++ reconcileNotes s.updateCalls s.currentCalls := by
  obtain ⟨hcur, hupd, hnote⟩ := hfServiceFakeCiev_spec s
  simp only [queryCurrentCallsFinal, reconciledCalls, reconcileNotes, ← hcur, ← hupd, ← hnote]
  split
  · simp [hfNotifyCurrentCalls, HfCalls.notify, callChanges]
  · simp [callChanges]

def collected (nullText : CText) (reports : List CallReport) : List CurrentCall :=
  reports.map fun r => hfCallNew nullText (hfpHfOnCurrentCallResponse r)

theorem processCallReports_eq (nullText : CText) {reports : List CallReport}
    (hz : ∀ r ∈ reports, r.index ≠ 0) (s : HfCalls) :
    processCallReports nullText s reports = queryCurrentCallsFinal
      { s with updateCalls := s.updateCalls ++
          collected nullText reports } := by
  induction reports generalizing s with
  | nil => rw [collected, map_nil, append_nil]; rfl
  | cons r rest ih =>
    rw [forall_mem_cons] at hz
    have hr : (hfpHfOnCurrentCallResponse r).index ≠ 0 := hz.1
    have hfirst : processCallReports nullText s (r :: rest) = processCallReports nullText
        (processCallEvent nullText s (.currentCalls (hfpHfOnCurrentCallResponse r))) rest := rfl
    rw [hfirst, processCallEvent, if_neg hr, ih hz.2, append_assoc]
    rfl

/-- The list shows the reports, the update list is empty, and the callbacks are, once each, the
calls that are gone, those whose fields changed, and those that are new. -/
structure Reconciled (before after : HfCalls) (reports : List CallReport) : Prop where
  calls : (after.currentCalls.map CurrentCall.report).Perm reports
  drained : after.updateCalls = []
  once : ((changesSince before after).map (·.index)).Nodup
  changes : ∀ n, n ∈ changesSince before after ↔
    (∃ c ∈ before.currentCalls, (∀ r ∈ reports, r.index ≠ c.index) ∧
      n = { c with state := .disconnected }) ∨
    (∃ c ∈ before.currentCalls, ∃ r ∈ reports, r.index = c.index ∧ c.report ≠ r ∧
      n.report = r ∧ n.name = c.name) ∨
    (∃ r ∈ reports, (∀ c ∈ before.currentCalls, c.index ≠ r.index) ∧ n.report = r ∧ n.name.val = [])

/-- The number is not cut, and not printed from a null string. -/
def NumberKept (nullText : CText) (number : CText) : Prop :=
  (number ≠ [] ∧ number.length < 32) ∨ (number = [] ∧ nullText = [])
deriving Decidable

theorem report_hfCallNew {nullText : CText} {r : CallReport} :
    (hfCallNew nullText (hfpHfOnCurrentCallResponse r)).report = r ↔
      NumberKept nullText r.number := by
  obtain ⟨index, dir, state, mpty, number⟩ := r
  simp only [CurrentCall.report, hfCallNew, hfpHfOnCurrentCallResponse, CallReport.mk.injEq,
    true_and, msgAddStr, snprintf, NumberKept]
  by_cases hn : number = []
  · simp [hn]
  · rw [if_pos (by simpa using hn), Option.getD_some, take_eq_self_iff]
    simp only [hn, ne_eq, not_false_eq_true, true_and, false_and, or_false]
    omega

section Answer

variable {nullText : CText} {s : HfCalls} {reports : List CallReport}

theorem nodup_collected (nullText : CText) (hr : (reports.map (·.index)).Nodup) :
    ((collected nullText reports).map (·.index)).Nodup := by
  rw [collected, map_map]
  exact hr

theorem mem_collected {u : CurrentCall} :
    u ∈ collected nullText reports ↔
      ∃ r ∈ reports, hfCallNew nullText (hfpHfOnCurrentCallResponse r) = u :=
  mem_map

theorem eq_updateCall_iff {n u c : CurrentCall} (h : u.index = c.index) :
    n = updateCall u c ↔ n.report = u.report ∧ n.name = c.name := by
  constructor
  · rintro rfl
    exact ⟨report_updateCall h, rfl⟩
  · rintro ⟨hreport, hname⟩
    obtain ⟨index, dir, state, mpty, number, name⟩ := n
    simp only [CurrentCall.report, CallReport.mk.injEq] at hreport
    obtain ⟨h1, h2, h3, h4, h5⟩ := hreport
    rw [updateCall, snprintf_val, CurrentCall.mk.injEq]
    exact ⟨h1.trans h, h2, h3, h4, Subtype.ext h5, hname⟩

theorem calls_perm_iff (hr : (reports.map (·.index)).Nodup) {clist : List CurrentCall}
    (hc : (clist.map (·.index)).Nodup) :
    ((reconciledCalls (collected nullText reports) clist).map CurrentCall.report).Perm reports ↔
      ∀ r ∈ reports, NumberKept nullText r.number := by
  have hperm := reconciledCalls_perm (nodup_collected nullText hr) hc
  constructor
  · intro h r hr'
    -- some collected report looks like `r`, and by its index it is the one of `r`
    have hmem := (hperm.symm.trans h).mem_iff.mpr hr'
    obtain ⟨u, hu', hur⟩ := mem_map.mp hmem
    obtain ⟨r', hr'', rfl⟩ := mem_collected.mp hu'
    have hindex : r'.index = r.index := by rw [← hur]; rfl
    have hself : r' = r := inj_on_of_nodup_map hr hr'' hr' hindex
    rw [hself] at hur
    exact report_hfCallNew.mp hur
  · intro hk
    refine hperm.trans (List.Perm.of_eq ?_)
    rw [collected, map_map]
    nth_rewrite 2 [← map_id reports]
    apply map_congr_left
    intro r hr'
    exact report_hfCallNew.mpr (hk r hr')

theorem reconciled_of_changes (hr : (reports.map (·.index)).Nodup)
    (hc : (s.currentCalls.map (·.index)).Nodup)
    (hk : ∀ r ∈ reports, NumberKept nullText r.number) {after : HfCalls}
    (hcalls : (after.currentCalls.map CurrentCall.report).Perm reports)
    (hdrained : after.updateCalls = [])
    (hchanges : changesSince s after
      = reconcileNotes (collected nullText reports) s.currentCalls) :
    Reconciled s after reports := by
  have hu := nodup_collected nullText hr
  refine ⟨hcalls, hdrained, ?_, fun n => ?_⟩
  · rw [hchanges]
    exact nodup_reconcileNotes hu hc
  rw [hchanges, reconcileNotes_eq hu, mem_append, mem_reconcileCurrent_notes hu,
    mem_newCalls_kept hu, or_assoc]
  refine or_congr ?_ (or_congr ?_ ?_)
  · refine exists_congr fun c => and_congr_right fun _ => and_congr_left fun _ => ?_
    simp only [collected, forall_mem_map]
    rfl
  · refine exists_congr fun c => and_congr_right fun _ => ?_
    constructor
    · rintro ⟨u, hu', hindex, hne, hn⟩
      obtain ⟨r, hr', rfl⟩ := mem_collected.mp hu'
      rw [eq_updateCall_iff hindex, report_hfCallNew.mpr (hk r hr')] at hn
      rw [report_hfCallNew.mpr (hk r hr')] at hne
      exact ⟨r, hr', hindex, hne, hn⟩
    · rintro ⟨r, hr', hindex, hne, hn⟩
      refine ⟨_, mem_collected.mpr ⟨r, hr', rfl⟩, hindex, ?_, ?_⟩
      · rwa [report_hfCallNew.mpr (hk r hr')]
      · rwa [eq_updateCall_iff hindex, report_hfCallNew.mpr (hk r hr')]
  · constructor
    · rintro ⟨hn, hnew⟩
      obtain ⟨r, hr', rfl⟩ := mem_collected.mp hn
      exact ⟨r, hr', hnew, report_hfCallNew.mpr (hk r hr'), rfl⟩
    · rintro ⟨r, hr', hnew, hreport, hname⟩
      have hn : n = hfCallNew nullText (hfpHfOnCurrentCallResponse r) := by
        have hself := eq_updateCall_iff (n := n)
          (u := hfCallNew nullText (hfpHfOnCurrentCallResponse r))
          (c := hfCallNew nullText (hfpHfOnCurrentCallResponse r)) rfl
        rw [updateCall, snprintf_val] at hself
        exact hself.mpr ⟨hreport.trans (report_hfCallNew.mpr (hk r hr')).symm, Subtype.ext hname⟩
      subst hn
      exact ⟨mem_collected.mpr ⟨r, hr', rfl⟩, hnew⟩

/-- One answer of the stack is taken over faithfully exactly when each number
in it arrives. -/
theorem call_reports_reconcile_iff (nullText : CText) (s : HfCalls)
    (hu : s.updateCalls = []) (hc : (s.currentCalls.map (·.index)).Nodup)
    (reports : List CallReport) (hr : (reports.map (·.index)).Nodup)
    (hz : ∀ r ∈ reports, r.index ≠ 0) :
    Reconciled s (processCallReports nullText s reports) reports ↔
      ∀ r ∈ reports, NumberKept nullText r.number := by
  have hafter := processCallReports_eq nullText hz s
  rw [hu, nil_append] at hafter
  obtain ⟨hcalls, hdrained, hnotes⟩ := queryCurrentCallsFinal_spec
    { s with updateCalls := collected nullText reports }
  rw [← hafter] at hcalls hdrained hnotes
  constructor
  · intro h
    have hperm := h.calls
    rw [hcalls] at hperm
    exact (calls_perm_iff hr hc).mp hperm
  · intro hk
    refine reconciled_of_changes hr hc hk ?_ hdrained ?_
    · rw [hcalls]
      exact (calls_perm_iff hr hc).mpr hk
    · rw [changesSince, hnotes, drop_left]

end Answer

/-! ## Examples of answers -/

def oneCall : HfCalls :=
  { currentCalls := [{ index := 1, dir := .outgoing, state := .active, mpty := .single
                       number := ⟨[0x35], by decide⟩, name := ⟨[0x41], by decide⟩ }]
    updateCalls := [], status := ⟨1, 0, 0⟩, lastReported := ⟨1, 0, 0⟩
    needQueryCallback := false, pendingQuery := true, notified := [] }

def incomingCall (number : CText) : CallReport :=
  { index := 2, dir := .incoming, state := .waiting, mpty := .single, number := number }

def nullPrinted : CText := [0x28, 0x6e, 0x75, 0x6c, 0x6c, 0x29]

/-- The call is held and another one waits. -/
theorem waiting_call_reconciled :
    Reconciled oneCall
      (processCallReports nullPrinted oneCall
        [{ index := 1, dir := .outgoing, state := .held, mpty := .single, number := [0x35] },
         incomingCall [0x37]])
      [{ index := 1, dir := .outgoing, state := .held, mpty := .single, number := [0x35] },
       incomingCall [0x37]] :=
  (call_reports_reconcile_iff nullPrinted oneCall rfl (by decide) _ (by decide)
    (by decide)).mpr (by decide)

/-- A caller who withholds the number is shown as "(null)", and a number of
32 digits loses its last one. -/
theorem withheld_and_long_numbers_not_reconciled :
    ¬ Reconciled oneCall (processCallReports nullPrinted oneCall [incomingCall []])
        [incomingCall []] ∧
      ¬ Reconciled oneCall
        (processCallReports nullPrinted oneCall [incomingCall (List.replicate 32 0x37)])
        [incomingCall (List.replicate 32 0x37)] := by
  constructor
  · intro h
    exact absurd (h.calls.mem_iff.mpr mem_cons_self) (by decide)
  · intro h
    exact absurd (h.calls.mem_iff.mpr mem_cons_self) (by decide)

end BtFramework.Hfp
