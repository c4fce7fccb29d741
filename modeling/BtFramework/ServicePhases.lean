import Mathlib.Data.List.Perm.Basic
import BtFramework.ServiceManager

/-!
# From a call to its notification

The check that the manager makes on a callback finds all services in place exactly when `undone`
is empty, and the callback of a service that was in the list takes it out. So as long as the
services that have still to call back are those in the list, the last of them, and no other,
causes a notification (`Progress`). `Apart` says what calls and callbacks of one transport leave
alone on another.
-/

namespace BtFramework.Services

open Keyed List

variable {ph : Phase} {t : UInt8} {m : Manager} {slots : List Slot} {now : List Nat}

/-! ## What a phase waits for -/

/-- The service has both functions and is ready when asked. -/
structure Regular (p : ProfileService) : Prop where
  startup : p.startup = true
  shutdown : p.shutdown = true
  getState : p.getState = none ∨ p.getState = some 1

def waiting (ph : Phase) (t : UInt8) (s : Slot) : Bool :=
  ph.covers t s.service && s.state != ph.target

def undone (ph : Phase) (t : UInt8) (slots : List Slot) : List Nat :=
  (slots.filter (waiting ph t)).map Slot.id

variable {id : Nat} {m' : Manager} {t' : UInt8} {slot : Slot}

theorem mem_undone :
    id ∈ undone ph t slots
      ↔ ∃ s ∈ slots, s.id = id ∧ ph.covers t s.service = true ∧ s.state ≠ ph.target := by
  simp only [undone, waiting, mem_map, mem_filter, Bool.and_eq_true, bne_iff_ne]
  constructor
  · rintro ⟨s, ⟨hs, hcov, hne⟩, hid⟩
    exact ⟨s, hs, hid, hcov, hne⟩
  · rintro ⟨s, hs, hid, hcov, hne⟩
    exact ⟨s, ⟨hs, hcov, hne⟩, hid⟩

theorem checkIsAll_iff (hreg : ∀ s ∈ slots, Regular s.service) :
    checkIsAll ph t slots = true ↔ undone ph t slots = [] := by
  rw [checkIsAll, all_eq_true, undone, map_eq_nil_iff, filter_eq_nil_iff]
  refine forall₂_congr fun s hs => ?_
  have hstate : (s.service.getState.getD 1 != 0) = true := by
    rcases (hreg s hs).getState with h | h
    · rw [h]
      rfl
    · rw [h]
      rfl
  rw [hstate, waiting, Bool.and_true, Bool.not_eq_true', Bool.not_eq_true]

theorem supported_of_regular {p : ProfileService} (h : Regular p) : ph.supported p = true := by
  cases ph
  · exact h.startup
  · exact h.shutdown

/-! ## Setting the state of a slot -/

def servicesOf (m : Manager) : List (Nat × ProfileService) :=
  m.slots.map fun s => (s.id, s.service)

theorem services_setState (id : Nat) (st : ProfileState) :
    servicesOf (setState id st m) = servicesOf m :=
  map_update fun _ _ _ => rfl

theorem exists_slot_of_services (h : servicesOf m' = servicesOf m) (hslot : slot ∈ m'.slots) :
    ∃ s ∈ m.slots, s.id = slot.id ∧ s.service = slot.service := by
  have hmem : (slot.id, slot.service) ∈ servicesOf m := h ▸ mem_map_of_mem hslot
  obtain ⟨s, hs, heq⟩ := mem_map.mp hmem
  exact ⟨s, hs, Prod.mk.inj heq⟩

theorem undone_update_eq {f : Slot → Slot} (id : Nat) (hid : ∀ s, (f s).id = s.id)
    (hf : ∀ s ∈ slots, s.id = id → waiting ph t (f s) = waiting ph t s) :
    undone ph t (Keyed.update Slot.id id f slots) = undone ph t slots := by
  have hsame : ∀ s ∈ slots, waiting ph t (if s.id = id then f s else s) = waiting ph t s := by
    intro s hs
    split
    next h => exact hf s hs h
    · rfl
  rw [undone, Keyed.update, filter_map, map_map]
  refine (congrArg (map _) (filter_congr hsame)).trans (map_congr_left fun s _ => ?_)
  dsimp only [Function.comp_apply]
  split
  · exact hid s
  · rfl

theorem undone_update_target {f : Slot → Slot} (id : Nat)
    (hnodup : (slots.map Slot.id).Nodup) (hf : ∀ s, waiting ph t (f s) = false) :
    undone ph t (Keyed.update Slot.id id f slots) = (undone ph t slots).erase id := by
  have hwaits : waiting ph t ∘ (fun s => if s.id = id then f s else s)
      = fun s => s.id != id && waiting ph t s := by
    funext s
    by_cases h : s.id = id <;> simp [h, hf]
  rw [undone, undone, (hnodup.sublist (filter_sublist.map _)).erase_eq_filter, Keyed.update,
    filter_map, hwaits, filter_map, filter_filter, map_map]
  refine map_congr_left fun s hs => ?_
  have hne : s.id ≠ id := by simpa using (Bool.and_eq_true_iff.mp (mem_filter.mp hs).2).1
  exact congrArg Slot.id (if_neg hne)

/-! ## A callback -/

structure Table (m : Manager) : Prop where
  nodup : (m.slots.map Slot.id).Nodup
  regular : ∀ s ∈ m.slots, Regular s.service

theorem Table.of_services (h : Table m) (hs : servicesOf m' = servicesOf m) : Table m' := by
  constructor
  · have hids := congrArg (map Prod.fst) hs
    rw [servicesOf, servicesOf, map_map, map_map] at hids
    exact hids ▸ h.nodup
  · intro s hslot
    obtain ⟨s', hs', -, hservice⟩ := exists_slot_of_services hs hslot
    exact hservice ▸ h.regular s' hs'

theorem Table.setState (h : Table m) (id : Nat) (st : ProfileState) : Table (setState id st m) :=
  h.of_services (services_setState id st)

theorem Table.notify (h : Table m) : Table (notify ph t m) := ⟨h.nodup, h.regular⟩

theorem covers_iff {p : ProfileService} :
    ph.covers t p = true ↔ p.transport = t ∧ (ph = .startup → p.autoStart = true) := by
  cases ph <;> simp [Phase.covers]

theorem Table.find_of_mem_undone (h : Table m) (hid : id ∈ undone ph t m.slots) :
    ∃ s, m.slots.find? (fun s => s.id = id) = some s ∧ s.service.transport = t := by
  obtain ⟨s, hs, hsid, hcov, -⟩ := mem_undone.mp hid
  exact ⟨s, (find?_eq_some h.nodup).mpr ⟨hs, hsid⟩, (covers_iff.mp hcov).1⟩

theorem undone_setState_target (h : Table m) (id : Nat) :
    undone ph t (setState id ph.target m).slots = (undone ph t m.slots).erase id := by
  refine undone_update_target id h.nodup fun s => ?_
  simp [waiting]

theorem serviceOn_of_mem (h : Table m) (hid : id ∈ undone ph t m.slots) :
    serviceOn ph id true m
      = if (undone ph t m.slots).erase id = [] then notify ph t (setState id ph.target m)
        else setState id ph.target m := by
  obtain ⟨s, hfind, htr⟩ := h.find_of_mem_undone hid
  have hcheck : checkIsAll ph t (Services.setState id ph.target m).slots = true
      ↔ (undone ph t m.slots).erase id = [] := by
    rw [checkIsAll_iff (h.setState id ph.target).regular, undone_setState_target h]
  rw [serviceOn, hfind]
  dsimp only
  rw [if_pos rfl, htr]
  by_cases hnil : (undone ph t m.slots).erase id = []
  · rw [if_pos hnil, if_pos (hcheck.mpr hnil)]
  · rw [if_neg hnil, if_neg fun hc => hnil (hcheck.mp hc)]

theorem serviceOn_cases (ph : Phase) (id : Nat) (ret : Bool) (m : Manager) :
    serviceOn ph id ret m = { m with failed := true }
      ∨ ∃ s ∈ m.slots, s.id = id ∧ (serviceOn ph id ret m = setState id ph.target m
        ∨ serviceOn ph id ret m = notify ph s.service.transport (setState id ph.target m)) := by
  unfold serviceOn
  split
  · exact .inl rfl
  next slot hfind =>
    obtain ⟨hmem, hid⟩ := mem_of_find? hfind
    split
    · refine .inr ⟨slot, hmem, hid, ?_⟩
      dsimp only
      split
      · exact .inr rfl
      · exact .inl rfl
    · exact .inl rfl

/-! ## The log -/

def isNotice (ph : Phase) (t : UInt8) : LogEntry → Bool
  | .notified ph' t' _ => ph' = ph && t' = t
  | .called _ _ => false

def isCall (ph : Phase) (t : UInt8) : LogEntry → Bool
  | .notified _ _ _ => false
  | .called ph' t' => ph' = ph && t' = t

def notices (ph : Phase) (t : UInt8) (log : List LogEntry) : Nat := log.countP (isNotice ph t)

def calls (ph : Phase) (t : UInt8) (log : List LogEntry) : Nat := log.countP (isCall ph t)

def Truthful (ph : Phase) (t : UInt8) (log : List LogEntry) : Prop :=
  ∀ tbl, .notified ph t tbl ∈ log → undone ph t tbl = []

/-! ## From a call to its notification -/

structure Progress (ph : Phase) (t : UInt8) (rest : List Nat) (k : Nat) (m : Manager) :
    Prop where
  table : Table m
  undone : rest.Perm (undone ph t m.slots)
  count : notices ph t m.log = k + if rest = [] then 1 else 0
  told : Truthful ph t m.log

variable {rest : List Nat} {k : Nat}

theorem Progress.perm (h : Progress ph t rest k m) {rest' : List Nat} (hp : rest'.Perm rest) :
    Progress ph t rest' k m := by
  refine ⟨h.table, hp.trans h.undone, ?_, h.told⟩
  have hnil : rest' = [] ↔ rest = [] := by
    rw [← length_eq_zero_iff, hp.length_eq, length_eq_zero_iff]
  rw [h.count]
  simp only [hnil]

theorem Progress.serviceOn (h : Progress ph t rest k m) (hid : id ∈ rest) :
    Progress ph t (rest.erase id) k (serviceOn ph id true m) := by
  have hmem : id ∈ Services.undone ph t m.slots := h.undone.mem_iff.mp hid
  have hrest : (rest.erase id).Perm ((Services.undone ph t m.slots).erase id) := h.undone.erase id
  have hnil : rest.erase id = [] ↔ (Services.undone ph t m.slots).erase id = [] := by
    rw [← length_eq_zero_iff, hrest.length_eq, length_eq_zero_iff]
  have hundone : Services.undone ph t (setState id ph.target m).slots
      = (Services.undone ph t m.slots).erase id := undone_setState_target h.table id
  have hcount : notices ph t m.log = k := by
    rw [h.count, if_neg (ne_nil_of_mem hid)]
    rfl
  rw [serviceOn_of_mem h.table hmem]
  split
  next hlast =>
    refine ⟨(h.table.setState id ph.target).notify, ?_, ?_, ?_⟩
    · exact hrest.trans (List.Perm.of_eq hundone.symm)
    · rw [if_pos (hnil.mpr hlast), notify, notices, countP_append, countP_singleton]
      change notices ph t m.log + _ = _
      rw [hcount, if_pos (by simp [isNotice])]
    · intro tbl htbl
      rcases mem_append.mp htbl with hold | hnew
      · exact h.told tbl hold
      · cases mem_singleton.mp hnew
        rw [hundone]
        exact hlast
  next hlast =>
    refine ⟨h.table.setState id ph.target, ?_, ?_, h.told⟩
    · exact hrest.trans (List.Perm.of_eq hundone.symm)
    · rw [if_neg fun hc => hlast (hnil.mp hc)]
      exact hcount

theorem Progress.turningOn (h : Progress .startup t rest k m) (hid : id ∈ rest) :
    Progress .startup t rest k (setState id .turningOn m) := by
  have hmem := mem_undone.mp (h.undone.mem_iff.mp hid)
  have hundone : Services.undone .startup t (setState id .turningOn m).slots
      = Services.undone .startup t m.slots := by
    refine undone_update_eq id (fun _ => rfl) fun s hs hsid => ?_
    obtain ⟨s', hs', hid', hcov, hne⟩ := hmem
    obtain rfl : s = s' := inj_on_of_nodup_map h.table.nodup hs hs' (hsid.trans hid'.symm)
    simp only [waiting, hcov, Bool.true_and]
    rw [bne_iff_ne.mpr hne]
    rfl
  refine ⟨h.table.setState id _, ?_, h.count, h.told⟩
  rw [hundone]
  exact h.undone

theorem Progress.pending (h : Progress ph t rest k m) (ps : List Pending) :
    Progress ph t rest k { m with pending := ps } :=
  ⟨⟨h.table.nodup, h.table.regular⟩, h.undone, h.count, h.told⟩

/-! ## What other transports and phases see -/

def about (ph : Phase) (t : UInt8) : LogEntry → Bool
  | .notified ph' t' _ => ph' = ph && t' = t
  | .called ph' t' => ph' = ph && t' = t

def LogSame (ph : Phase) (t : UInt8) (log log' : List LogEntry) : Prop :=
  log'.filter (about ph t) = log.filter (about ph t)

variable {log log' : List LogEntry}

theorem notices_filter : notices ph t (log.filter (about ph t)) = notices ph t log := by
  rw [notices, notices, countP_filter]
  refine countP_congr fun e _ => ?_
  cases e <;> simp [isNotice, about]

theorem calls_filter : calls ph t (log.filter (about ph t)) = calls ph t log := by
  rw [calls, calls, countP_filter]
  refine countP_congr fun e _ => ?_
  cases e <;> simp [isCall, about]

theorem LogSame.notices (h : LogSame ph t log log') : notices ph t log' = notices ph t log := by
  rw [← notices_filter, h, notices_filter]

theorem LogSame.calls (h : LogSame ph t log log') : calls ph t log' = calls ph t log := by
  rw [← calls_filter, h, calls_filter]

theorem LogSame.truthful (h : LogSame ph t log log') (ht : Truthful ph t log) :
    Truthful ph t log' := by
  intro tbl htbl
  have hmem : LogEntry.notified ph t tbl ∈ log'.filter (about ph t) :=
    mem_filter.mpr ⟨htbl, by simp [about]⟩
  rw [h] at hmem
  exact ht tbl (mem_filter.mp hmem).1

theorem LogSame.trans {log'' : List LogEntry} (h : LogSame ph t log log')
    (h' : LogSame ph t log' log'') : LogSame ph t log log'' :=
  Eq.trans h' h

theorem logSame_append {e : LogEntry} (he : about ph t e = false) :
    LogSame ph t log (log ++ [e]) := by
  rw [LogSame, filter_append, filter_cons_of_neg (by rw [he]; decide), filter_nil, append_nil]

structure Apart (t : UInt8) (m m' : Manager) : Prop where
  services : servicesOf m' = servicesOf m
  undone : ∀ ph, undone ph t m'.slots = undone ph t m.slots
  pending : m'.pending.filter (fun p => p.transport = t) = m.pending.filter fun p => p.transport = t
  log : ∀ ph, LogSame ph t m.log m'.log

theorem Apart.refl (t : UInt8) (m : Manager) : Apart t m m := ⟨rfl, fun _ => rfl, rfl, fun _ => rfl⟩

theorem Apart.trans {m'' : Manager} (h : Apart t m m') (h' : Apart t m' m'') : Apart t m m'' :=
  ⟨h'.services.trans h.services, fun ph => (h'.undone ph).trans (h.undone ph),
    h'.pending.trans h.pending, fun ph => (h.log ph).trans (h'.log ph)⟩

def OtherSlot (t : UInt8) (id : Nat) (m : Manager) : Prop :=
  ∀ s ∈ m.slots, s.id = id → s.service.transport ≠ t

theorem apart_setState (h : OtherSlot t id m) (st : ProfileState) :
    Apart t m (setState id st m) := by
  refine ⟨services_setState id st, fun ph => ?_, rfl, fun _ => rfl⟩
  refine undone_update_eq id (fun _ => rfl) fun s hs hid => ?_
  have hcov : ph.covers t s.service = false :=
    Bool.eq_false_iff.mpr fun hc => h s hs hid (covers_iff.mp hc).1
  simp only [waiting, hcov, Bool.false_and]

theorem apart_notify {ph : Phase} (hne : t' ≠ t) : Apart t m (notify ph t' m) := by
  refine ⟨rfl, fun _ => rfl, rfl, fun ph' => logSame_append ?_⟩
  simp [about, hne]

theorem apart_serviceOn (h : OtherSlot t id m) (ret : Bool) :
    Apart t m (serviceOn ph id ret m) := by
  rcases serviceOn_cases ph id ret m with hon | ⟨slot, hmem, hid, hon | hon⟩ <;> rw [hon]
  · exact ⟨rfl, fun _ => rfl, rfl, fun _ => rfl⟩
  · exact apart_setState h _
  · exact (apart_setState h _).trans (apart_notify (h slot hmem hid))

theorem otherSlot_of_services (h : OtherSlot t id m) (hs : servicesOf m' = servicesOf m) :
    OtherSlot t id m' := by
  intro s hmem hid
  obtain ⟨s', hs', hid', hservice⟩ := exists_slot_of_services hs hmem
  exact hservice ▸ h s' hs' (hid'.trans hid)

theorem apart_askService (hne : t' ≠ t) (h : slot.service.transport ≠ t → OtherSlot t slot.id m) :
    Apart t m (askService ph t' now m slot) := by
  unfold askService
  split
  next hcov =>
    have htr : slot.service.transport = t' := (covers_iff.mp (Bool.and_eq_true_iff.mp hcov).2).1
    have hother : OtherSlot t slot.id m := h (by rw [htr]; exact hne)
    have hpend : ∀ m₁ : Manager, Apart t m₁
        { m₁ with pending := m₁.pending ++ [{ phase := ph, transport := t', id := slot.id }] } := by
      intro m₁
      refine ⟨rfl, fun _ => rfl, ?_, fun _ => rfl⟩
      rw [filter_append, filter_cons_of_neg (by simpa using hne), filter_nil, append_nil]
    have hbegin : Apart t m (beginPhase ph slot.id m) := by
      cases ph with
      | startup => exact apart_setState hother .turningOn
      | shutdown => exact Apart.refl t m
    split
    · exact hbegin.trans (apart_serviceOn (otherSlot_of_services hother hbegin.services) true)
    · exact hbegin.trans (hpend _)
  · exact Apart.refl t m

theorem Table.otherSlot (h : Table m) (hslot : slot ∈ m.slots) (hne : slot.service.transport ≠ t) :
    OtherSlot t slot.id m := by
  intro s hs hid
  obtain rfl : s = slot := inj_on_of_nodup_map h.nodup hs hslot hid
  exact hne

theorem apart_foldl_askService (hne : t' ≠ t) (ss : List Slot)
    (h : ∀ slot ∈ ss, slot.service.transport ≠ t → OtherSlot t slot.id m) :
    Apart t m (ss.foldl (askService ph t' now) m) := by
  induction ss generalizing m with
  | nil => exact Apart.refl t m
  | cons slot ss ih =>
    have hone : Apart t m (askService ph t' now m slot) :=
      apart_askService hne (h slot mem_cons_self)
    refine hone.trans (ih fun s hs htr => ?_)
    exact otherSlot_of_services (h s (mem_cons_of_mem _ hs) htr) hone.services

theorem apart_serviceManagerCall (h : Table m) (hne : t' ≠ t) :
    Apart t m (serviceManagerCall ph t' now m) := by
  have hcall : Apart t m { m with log := m.log ++ [.called ph t'] } := by
    refine ⟨rfl, fun _ => rfl, rfl, fun ph' => logSame_append ?_⟩
    simp [about, hne]
  unfold serviceManagerCall
  dsimp only
  split
  · exact hcall.trans (apart_notify hne)
  · refine hcall.trans (apart_foldl_askService hne _ fun slot hslot htr => ?_)
    exact otherSlot_of_services (h.otherSlot hslot htr) rfl

/-! ## The loop of a call -/

theorem pending_serviceOn (id : Nat) (ret : Bool) :
    (serviceOn ph id ret m).pending = m.pending := by
  rcases serviceOn_cases ph id ret m with hon | ⟨_, _, _, hon | hon⟩ <;> rw [hon] <;> rfl

theorem log_serviceOn (ph : Phase) (m : Manager) (id : Nat) (ret : Bool) :
    (∀ ph' t', ph' ≠ ph → LogSame ph' t' m.log (serviceOn ph id ret m).log)
      ∧ ∀ ph' t', calls ph' t' (serviceOn ph id ret m).log = calls ph' t' m.log := by
  rcases serviceOn_cases ph id ret m with hon | ⟨slot, _, _, hon | hon⟩ <;> rw [hon]
  · exact ⟨fun _ _ _ => rfl, fun _ _ => rfl⟩
  · exact ⟨fun _ _ _ => rfl, fun _ _ => rfl⟩
  · refine ⟨fun ph' t' hne => logSame_append (by simp [about, hne.symm]), fun ph' t' => ?_⟩
    rw [notify, calls, countP_append]
    rfl

def covered (ph : Phase) (t : UInt8) (ss : List Slot) : List Nat :=
  (ss.filter fun s => ph.covers t s.service).map Slot.id

def owes (ph : Phase) (t : UInt8) (ids : List Nat) : List Pending :=
  ids.map fun id => { phase := ph, transport := t, id }

theorem Progress.beginPhase (h : Progress ph t rest k m) (hid : id ∈ rest) :
    Progress ph t rest k (beginPhase ph id m) := by
  cases ph with
  | startup => exact h.turningOn hid
  | shutdown => exact h

theorem beginPhase_log (id : Nat) : (beginPhase ph id m).log = m.log := by cases ph <;> rfl

theorem beginPhase_pending (id : Nat) : (beginPhase ph id m).pending = m.pending := by
  cases ph <;> rfl

structure Asked (ph : Phase) (t : UInt8) (owed : List Nat) (m m' : Manager) : Prop where
  pending : m'.pending = m.pending ++ owes ph t owed
  log : ∀ ph' t', ph' ≠ ph → LogSame ph' t' m.log m'.log
  calls : ∀ ph' t', calls ph' t' m'.log = calls ph' t' m.log

theorem Asked.trans {owed owed' : List Nat} {m'' : Manager} (h : Asked ph t owed m m')
    (h' : Asked ph t owed' m' m'') : Asked ph t (owed ++ owed') m m'' := by
  refine ⟨?_, fun ph' t' hne => (h.log ph' t' hne).trans (h'.log ph' t' hne),
    fun ph' t' => (h'.calls ph' t').trans (h.calls ph' t')⟩
  rw [h'.pending, h.pending, append_assoc, owes, owes, owes, map_append]

theorem Progress.askService (hreg : Regular slot.service)
    (hcov : ph.covers t slot.service = true) {out todo : List Nat}
    (h : Progress ph t (out ++ slot.id :: todo) k m) :
    ∃ owed, Progress ph t (out ++ owed ++ todo) k (askService ph t now m slot)
      ∧ Asked ph t owed m (askService ph t now m slot) := by
  have hask : (ph.supported slot.service && ph.covers t slot.service) = true := by
    rw [hcov, supported_of_regular hreg]
    rfl
  have hmem : slot.id ∈ out ++ slot.id :: todo := by simp
  have hbegin := h.beginPhase hmem
  unfold Services.askService
  rw [if_pos hask]
  dsimp only
  split
  · have hperm : (out ++ [] ++ todo).Perm ((out ++ slot.id :: todo).erase slot.id) := by
      have hmid : ((out ++ slot.id :: todo).erase slot.id).Perm
          ((slot.id :: (out ++ todo)).erase slot.id) := perm_middle.erase slot.id
      rw [erase_cons_head] at hmid
      rw [append_nil]
      exact hmid.symm
    obtain ⟨hlog, hcalls⟩ := log_serviceOn ph (Services.beginPhase ph slot.id m) slot.id true
    rw [beginPhase_log] at hlog hcalls
    refine ⟨[], (hbegin.serviceOn hmem).perm hperm, ?_, hlog, hcalls⟩
    rw [pending_serviceOn, beginPhase_pending]
    exact (append_nil _).symm
  · refine ⟨[slot.id], ?_, ?_, ?_, ?_⟩
    · rw [append_assoc, singleton_append]
      exact hbegin.pending _
    · dsimp only
      rw [beginPhase_pending]
      rfl
    · intro ph' t' _
      dsimp only
      rw [beginPhase_log]
      exact Eq.refl _
    · intro ph' t'
      dsimp only
      rw [beginPhase_log]

theorem Progress.ask_loop (now : List Nat) {ss : List Slot} (hreg : ∀ s ∈ ss, Regular s.service)
    {out : List Nat} (h : Progress ph t (out ++ covered ph t ss) k m) :
    ∃ owed, Progress ph t (out ++ owed) k (ss.foldl (Services.askService ph t now) m)
      ∧ Asked ph t owed m (ss.foldl (Services.askService ph t now) m) := by
  induction ss generalizing m out with
  | nil =>
    exact ⟨[], h, (append_nil _).symm, fun _ _ _ => rfl, fun _ _ => rfl⟩
  | cons s ss ih =>
    have hreg' : ∀ s ∈ ss, Regular s.service := fun s hs => hreg s (mem_cons_of_mem _ hs)
    rw [foldl_cons]
    cases hcov : ph.covers t s.service with
    | false =>
      have hskip : Services.askService ph t now m s = m := by
        unfold Services.askService
        rw [hcov, Bool.and_false, if_neg (by decide)]
      have hlist : covered ph t (s :: ss) = covered ph t ss := by
        simp only [covered, filter_cons, hcov]
        rfl
      rw [hlist] at h
      rw [hskip]
      exact ih hreg' h
    | true =>
      have hlist : covered ph t (s :: ss) = s.id :: covered ph t ss := by
        simp only [covered, filter_cons, hcov, if_true, map_cons]
      rw [hlist] at h
      obtain ⟨owed, hone, hasked⟩ := h.askService (hreg s mem_cons_self) hcov
      obtain ⟨owed', hrest, hasked'⟩ := ih hreg' hone
      refine ⟨owed ++ owed', ?_, hasked.trans hasked'⟩
      rw [← append_assoc]
      exact hrest

end BtFramework.Services
