import BtFramework.ServicePhases

/-!
# One notification for every call

A service that is in place calls back as well, and then the manager may find all services in
place twice.
-/

namespace BtFramework.Services

open List

variable {ph : Phase} {t : UInt8} {m : Manager} {slots : List Slot} {now : List Nat}

/-! ## Services never change -/

theorem servicesOf_serviceOn (id : Nat) (ret : Bool) :
    servicesOf (serviceOn ph id ret m) = servicesOf m := by
  rcases serviceOn_cases ph id ret m with hon | ⟨_, _, _, hon | hon⟩ <;> rw [hon]
  · rfl
  · exact services_setState id _
  · exact services_setState id _

theorem askService_spec (slot : Slot) :
    servicesOf (askService ph t now m slot) = servicesOf m
      ∧ ∀ p ∈ (askService ph t now m slot).pending, p ∈ m.pending
        ∨ (ph.covers t slot.service = true ∧ p = ⟨ph, t, slot.id⟩) := by
  have hbegin : servicesOf (beginPhase ph slot.id m) = servicesOf m := by
    cases ph with
    | startup => exact services_setState slot.id _
    | shutdown => rfl
  unfold askService
  split
  next hcov =>
    dsimp only
    split
    · refine ⟨(servicesOf_serviceOn slot.id true).trans hbegin, fun p hp => .inl ?_⟩
      rwa [pending_serviceOn, beginPhase_pending] at hp
    · refine ⟨hbegin, fun p hp => ?_⟩
      rw [beginPhase_pending] at hp
      refine (mem_append.mp hp).imp_right fun hnew => ?_
      exact ⟨(Bool.and_eq_true_iff.mp hcov).2, mem_singleton.mp hnew⟩
  · exact ⟨rfl, fun p hp => .inl hp⟩

def Placed (m : Manager) : Prop :=
  ∀ p ∈ m.pending, ∃ q ∈ servicesOf m, q.1 = p.id ∧ p.phase.covers p.transport q.2 = true

theorem Placed.askService (h : Placed m) {slot : Slot}
    (hslot : (slot.id, slot.service) ∈ servicesOf m) : Placed (askService ph t now m slot) := by
  obtain ⟨hsame, hpending⟩ : servicesOf (Services.askService ph t now m slot) = _ ∧ _ :=
    askService_spec slot
  intro p hp
  rw [hsame]
  rcases hpending p hp with hold | ⟨hcov, rfl⟩
  · exact h p hold
  · exact ⟨_, hslot, rfl, hcov⟩

theorem placed_foldl_askService {ss : List Slot} (h : Placed m)
    (hss : ∀ s ∈ ss, (s.id, s.service) ∈ servicesOf m) :
    Placed (ss.foldl (askService ph t now) m)
      ∧ servicesOf (ss.foldl (askService ph t now) m) = servicesOf m := by
  induction ss generalizing m with
  | nil => exact ⟨h, rfl⟩
  | cons s ss ih =>
    have hsame : servicesOf (askService ph t now m s) = servicesOf m := (askService_spec s).1
    have hstep : Placed (askService ph t now m s) := h.askService (hss s mem_cons_self)
    obtain ⟨hplaced, hserv⟩ := ih hstep fun s' hs' => by
      rw [hsame]
      exact hss s' (mem_cons_of_mem _ hs')
    exact ⟨hplaced, hserv.trans hsame⟩

theorem placed_serviceManagerCall (h : Placed m) :
    Placed (serviceManagerCall ph t now m)
      ∧ servicesOf (serviceManagerCall ph t now m) = servicesOf m := by
  unfold serviceManagerCall
  dsimp only
  split
  · exact ⟨h, rfl⟩
  · refine placed_foldl_askService (m := { m with log := m.log ++ [.called ph t] }) h ?_
    intro s hs
    exact mem_map_of_mem hs

theorem callBack_eq (p : Pending) :
    callBack p m = if p ∈ m.pending then
      serviceOn p.phase p.id true { m with pending := m.pending.erase p } else m := by
  unfold callBack
  cases p.phase <;> rfl

theorem placed_callBack (h : Placed m) (p : Pending) :
    Placed (callBack p m) ∧ servicesOf (callBack p m) = servicesOf m := by
  rw [callBack_eq]
  split
  · have hsame : servicesOf (serviceOn p.phase p.id true { m with pending := m.pending.erase p })
        = servicesOf m := servicesOf_serviceOn p.id true
    refine ⟨fun q hq => ?_, hsame⟩
    rw [pending_serviceOn] at hq
    rw [hsame]
    exact h q (mem_of_mem_erase hq)
  · exact ⟨h, rfl⟩

theorem placed_step (h : Placed m) (e : Event) :
    Placed (step m e) ∧ servicesOf (step m e) = servicesOf m := by
  cases e with
  | startup t now | shutdown t now => exact placed_serviceManagerCall h
  | callback p => exact placed_callBack h p

/-! ## The invariant of a transport -/

def owedOn (t : UInt8) (m : Manager) : List Pending := m.pending.filter fun p => p.transport = t

def outstanding (ph : Phase) (t : UInt8) (m : Manager) : List Nat :=
  ((owedOn t m).filter fun p => p.phase = ph).map Pending.id

/-- What the adapter relies on: every call has been answered by one notification, or
its callbacks are not all there, and a notification finds every service in place. -/
structure OneForEach (t : UInt8) (m : Manager) : Prop where
  count : ∀ ph, notices ph t m.log + (if outstanding ph t m = [] then 0 else 1)
    = calls ph t m.log
  told : ∀ ph tbl, .notified ph t tbl ∈ m.log →
    ∀ s ∈ tbl, ph.covers t s.service = true → s.state = ph.target

structure Inv (t : UInt8) (m : Manager) : Prop where
  table : Table m
  placed : Placed m
  waits : ∀ ph, outstanding ph t m ≠ [] → (outstanding ph t m).Perm (undone ph t m.slots)
  alone : ∀ ph ph', ph ≠ ph' → outstanding ph t m ≠ [] → outstanding ph' t m = []
  count : ∀ ph, notices ph t m.log + (if outstanding ph t m = [] then 0 else 1)
    = calls ph t m.log
  told : ∀ ph, Truthful ph t m.log
  settled : owedOn t m = [] → ∃ ph, undone ph t m.slots = []

theorem Inv.oneForEach (h : Inv t m) : OneForEach t m := by
  refine ⟨h.count, fun ph tbl htbl s hs hcov => ?_⟩
  by_contra hne
  have hmem : s.id ∈ undone ph t tbl := mem_undone.mpr ⟨s, hs, rfl, hcov, hne⟩
  rw [h.told ph tbl htbl] at hmem
  cases hmem

theorem Inv.of_apart {m' : Manager} (h : Inv t m) (hapart : Apart t m m') (hplaced : Placed m') :
    Inv t m' := by
  have hout : ∀ ph, outstanding ph t m' = outstanding ph t m := by
    intro ph
    rw [outstanding, outstanding, owedOn, hapart.pending]
    rfl
  refine ⟨h.table.of_services hapart.services, hplaced, ?_, ?_, ?_, ?_, ?_⟩
  · intro ph
    rw [hout, hapart.undone]
    exact h.waits ph
  · intro ph ph'
    rw [hout, hout]
    exact h.alone ph ph'
  · intro ph
    rw [hout, (hapart.log ph).notices, (hapart.log ph).calls]
    exact h.count ph
  · intro ph
    exact (hapart.log ph).truthful (h.told ph)
  · rw [owedOn, hapart.pending]
    intro hnil
    obtain ⟨ph, hph⟩ := h.settled hnil
    exact ⟨ph, (hapart.undone ph).trans hph⟩

def Quiet (t : UInt8) (m : Manager) : Prop := owedOn t m = []
deriving Decidable

theorem Quiet.outstanding (h : Quiet t m) (ph : Phase) : outstanding ph t m = [] := by
  rw [Services.outstanding, h]
  rfl

def AllOrNone (ph : Phase) (t : UInt8) (slots : List Slot) : Prop :=
  (∀ s ∈ slots, ph.covers t s.service = true → s.state = ph.target)
    ∨ ∀ s ∈ slots, ph.covers t s.service = true → s.state ≠ ph.target
deriving Decidable

theorem outstanding_append_owes {m' : Manager} {owed : List Nat}
    (h : m'.pending = m.pending ++ owes ph t owed) (ph' : Phase) :
    outstanding ph' t m' = outstanding ph' t m ++ if ph' = ph then owed else [] := by
  rw [outstanding, owedOn, h, filter_append, filter_append, map_append]
  refine congrArg _ ?_
  split
  next heq => simp [owes, heq, filter_map, Function.comp_def]
  next hne => simp [owes, Ne.symm hne]

theorem undone_eq_covered (h : ∀ s ∈ slots, ph.covers t s.service = true → s.state ≠ ph.target) :
    undone ph t slots = covered ph t slots := by
  refine congrArg _ (filter_congr fun s hs => ?_)
  cases hcov : ph.covers t s.service with
  | false => simp [waiting, hcov]
  | true => simpa [waiting, hcov] using h s hs hcov

theorem Inv.advance {m' : Manager} {rest : List Nat} {k : Nat} (h : Inv t m)
    (hplaced : Placed m') (hprog : Progress ph t rest k m')
    (hself : (outstanding ph t m').Perm rest) (hcalls : calls ph t m'.log = k + 1)
    (hbefore : ∀ ph', ph' ≠ ph → outstanding ph' t m = [])
    (hafter : ∀ ph', ph' ≠ ph → outstanding ph' t m' = [])
    (hlog : ∀ ph', ph' ≠ ph → LogSame ph' t m.log m'.log) : Inv t m' := by
  have hempty : outstanding ph t m' = [] ↔ rest = [] := by
    rw [← length_eq_zero_iff, hself.length_eq, length_eq_zero_iff]
  refine ⟨hprog.table, hplaced, ?_, ?_, ?_, ?_, ?_⟩
  · intro ph' hne
    by_cases heq : ph' = ph
    · subst heq
      exact hself.trans hprog.undone
    · exact absurd (hafter ph' heq) hne
  · intro ph₁ ph₂ hne hsome
    by_cases heq : ph₁ = ph
    · exact hafter ph₂ fun heq' => hne (heq.trans heq'.symm)
    · exact absurd (hafter ph₁ heq) hsome
  · intro ph'
    by_cases heq : ph' = ph
    · subst heq
      rw [hprog.count, hcalls]
      simp only [hempty]
      split <;> omega
    · have hcount := h.count ph'
      rw [if_pos (hbefore ph' heq)] at hcount
      rw [if_pos (hafter ph' heq), (hlog ph' heq).notices, (hlog ph' heq).calls]
      exact hcount
  · intro ph'
    by_cases heq : ph' = ph
    · subst heq
      exact hprog.told
    · exact (hlog ph' heq).truthful (h.told ph')
  · intro hquiet
    have hundone := hprog.undone
    rw [hempty.mp (Quiet.outstanding hquiet ph)] at hundone
    exact ⟨ph, hundone.symm.eq_nil⟩

/-! A call is logged first. -/

theorem notices_called (ph ph' : Phase) (log : List LogEntry) :
    notices ph' t (log ++ [.called ph t]) = notices ph' t log := by
  rw [notices, countP_append]
  rfl

theorem calls_called (ph : Phase) (log : List LogEntry) :
    calls ph t (log ++ [.called ph t]) = calls ph t log + 1 := by
  cases ph <;> simp [calls, isCall]

theorem logSame_called {ph' : Phase} (hne : ph' ≠ ph) (log : List LogEntry) :
    LogSame ph' t log (log ++ [.called ph t]) :=
  logSame_append (by cases ph <;> cases ph' <;> first | rfl | exact absurd rfl hne)

theorem Inv.told_called (h : Inv t m) : Truthful ph t (m.log ++ [.called ph t]) := by
  intro tbl htbl
  rcases mem_append.mp htbl with hold | hcall
  · exact h.told ph tbl hold
  · cases mem_singleton.mp hcall

theorem Inv.calls_of_quiet (h : Inv t m) (hquiet : Quiet t m) :
    calls ph t m.log = notices ph t m.log := by
  have hcount := h.count ph
  rw [if_pos (hquiet.outstanding ph)] at hcount
  exact hcount.symm

theorem Inv.call_done (h : Inv t m) (hquiet : Quiet t m) (hnil : undone ph t m.slots = []) :
    Inv t (notify ph t { m with log := m.log ++ [.called ph t] }) := by
  have hlog : (notify ph t { m with log := m.log ++ [.called ph t] }).log
      = m.log ++ [.called ph t] ++ [.notified ph t m.slots] := rfl
  have hprog : Progress ph t [] (notices ph t m.log)
      (notify ph t { m with log := m.log ++ [.called ph t] }) := by
    refine ⟨⟨h.table.nodup, h.table.regular⟩, List.Perm.of_eq hnil.symm, ?_, ?_⟩
    · rw [if_pos rfl, hlog, notices, countP_append, ← notices, notices_called]
      cases ph <;> simp [isNotice]
    · intro tbl htbl
      rcases mem_append.mp htbl with hold | hnew
      · exact h.told_called tbl hold
      · cases mem_singleton.mp hnew
        exact hnil
  refine h.advance h.placed hprog (List.Perm.of_eq (hquiet.outstanding ph)) ?_
    (fun ph' _ => hquiet.outstanding ph') (fun ph' _ => hquiet.outstanding ph') fun ph' hne => ?_
  · rw [hlog, calls, countP_append, ← calls, calls_called, h.calls_of_quiet hquiet]
    rfl
  · exact (logSame_called hne m.log).trans
      (logSame_append (by cases ph <;> cases ph' <;> first | rfl | exact absurd rfl hne))

theorem Inv.call_loop (h : Inv t m) (hquiet : Quiet t m) (hne : undone ph t m.slots ≠ [])
    (hnone : ∀ s ∈ m.slots, ph.covers t s.service = true → s.state ≠ ph.target)
    (hplaced : Placed (m.slots.foldl (askService ph t now)
      { m with log := m.log ++ [.called ph t] })) :
    Inv t (m.slots.foldl (askService ph t now) { m with log := m.log ++ [.called ph t] }) := by
  have hcovered := undone_eq_covered hnone
  have hstart : Progress ph t ([] ++ covered ph t m.slots) (notices ph t m.log)
      { m with log := m.log ++ [.called ph t] } := by
    refine ⟨⟨h.table.nodup, h.table.regular⟩, ?_, ?_, h.told_called⟩
    · rw [nil_append, ← hcovered]
    · rw [nil_append, ← hcovered, if_neg hne, notices_called]
      rfl
  obtain ⟨owed, hprog, hasked⟩ := hstart.ask_loop now h.table.regular
  have hout : ∀ ph', outstanding ph' t (m.slots.foldl (askService ph t now)
      { m with log := m.log ++ [.called ph t] }) = if ph' = ph then owed else [] := by
    intro ph'
    have hnil : outstanding ph' t { m with log := m.log ++ [.called ph t] } = [] :=
      hquiet.outstanding ph'
    rw [outstanding_append_owes hasked.pending, hnil, nil_append]
  rw [nil_append] at hprog
  refine h.advance hplaced hprog ?_ ?_ (fun ph' _ => hquiet.outstanding ph') ?_ ?_
  · rw [hout, if_pos rfl]
  · rw [hasked.calls, calls_called, h.calls_of_quiet hquiet]
  · intro ph' hne'
    rw [hout, if_neg hne']
  · exact fun ph' hne' => (logSame_called hne' m.log).trans (hasked.log ph' t hne')

theorem Inv.call (h : Inv t m) (hquiet : Quiet t m) (hall : AllOrNone ph t m.slots) :
    Inv t (serviceManagerCall ph t now m) := by
  have hplaced : Placed (serviceManagerCall ph t now m) := (placed_serviceManagerCall h.placed).1
  have hcheck : checkIsAll ph t m.slots = true ↔ undone ph t m.slots = [] :=
    checkIsAll_iff h.table.regular
  unfold serviceManagerCall at hplaced ⊢
  dsimp only at hplaced ⊢
  split
  next hdone => exact h.call_done hquiet (hcheck.mp hdone)
  next hdone =>
    rw [if_neg hdone] at hplaced
    have hne : undone ph t m.slots ≠ [] := fun hnil => hdone (hcheck.mpr hnil)
    refine h.call_loop hquiet hne ?_ hplaced
    refine hall.resolve_left fun hdone' => hne ?_
    refine eq_nil_iff_forall_not_mem.mpr fun id hid => ?_
    obtain ⟨s, hs, -, hcov, hstate⟩ := mem_undone.mp hid
    exact hstate (hdone' s hs hcov)

theorem outstanding_erase {p : Pending} (hp : p ∈ m.pending) (ph : Phase) :
    (outstanding ph p.transport { m with pending := m.pending.erase p }).Perm
      (if ph = p.phase then (outstanding ph p.transport m).erase p.id
       else outstanding ph p.transport m) := by
  have hperm : m.pending.Perm (p :: m.pending.erase p) := perm_cons_erase hp
  have hout : (outstanding ph p.transport m).Perm
      (if ph = p.phase then
        p.id :: outstanding ph p.transport { m with pending := m.pending.erase p }
       else outstanding ph p.transport { m with pending := m.pending.erase p }) := by
    have hfilter := ((hperm.filter fun q => q.transport = p.transport).filter
      fun q => q.phase = ph).map Pending.id
    rw [filter_cons_of_pos (by simp)] at hfilter
    by_cases heq : ph = p.phase
    · rw [if_pos heq]
      rwa [filter_cons_of_pos (by simp [heq])] at hfilter
    · rw [if_neg heq]
      rwa [filter_cons_of_neg (by simpa using Ne.symm heq)] at hfilter
  by_cases heq : ph = p.phase
  · rw [if_pos heq] at hout ⊢
    have herase := hout.erase p.id
    rw [erase_cons_head] at herase
    exact herase.symm
  · rw [if_neg heq] at hout ⊢
    exact hout.symm

theorem Inv.callBack (h : Inv t m) {p : Pending} (hp : p ∈ m.pending) (htr : p.transport = t) :
    Inv t (callBack p m) := by
  have hplaced := (placed_callBack h.placed p).1
  rw [callBack_eq, if_pos hp] at hplaced ⊢
  subst htr
  have hmem : p.id ∈ outstanding p.phase p.transport m := by
    refine mem_map_of_mem (mem_filter.mpr ⟨mem_filter.mpr ⟨hp, ?_⟩, ?_⟩) <;> simp
  have hsome := ne_nil_of_mem hmem
  have hprog : Progress p.phase p.transport (outstanding p.phase p.transport m)
      (notices p.phase p.transport m.log) m := by
    refine ⟨h.table, h.waits p.phase hsome, ?_, h.told _⟩
    rw [if_neg hsome]
    rfl
  have hdone := (hprog.pending (m.pending.erase p)).serviceOn hmem
  obtain ⟨hlog, hcalls⟩ := log_serviceOn p.phase { m with pending := m.pending.erase p } p.id true
  have hother : ∀ ph, ph ≠ p.phase → outstanding ph p.transport m = [] :=
    fun ph hne => h.alone p.phase ph hne.symm hsome
  have hout : ∀ ph, (outstanding ph p.transport
      (Services.serviceOn p.phase p.id true { m with pending := m.pending.erase p })).Perm
        (if ph = p.phase then (outstanding p.phase p.transport m).erase p.id else []) := by
    intro ph
    have hsame : outstanding ph p.transport
        (Services.serviceOn p.phase p.id true { m with pending := m.pending.erase p })
          = outstanding ph p.transport { m with pending := m.pending.erase p } := by
      rw [outstanding, owedOn, pending_serviceOn]
      rfl
    have hperm := outstanding_erase hp ph
    rw [hsame]
    by_cases heq : ph = p.phase
    · rw [if_pos heq] at hperm ⊢
      rwa [heq] at hperm ⊢
    · rw [if_neg heq] at hperm ⊢
      rwa [hother ph heq] at hperm
  refine h.advance hplaced hdone ?_ ?_ hother ?_ fun ph hne => hlog ph p.transport hne
  · have hself := hout p.phase
    rwa [if_pos rfl] at hself
  · have hcount := h.count p.phase
    rw [if_neg hsome] at hcount
    rw [hcalls, ← hcount]
  · intro ph hne
    have hperm := hout ph
    rw [if_neg hne] at hperm
    exact hperm.eq_nil

/-! ## Runs -/

/-- A call is made when no callback of the transport is owed and when either all or none of its
services are in place already. -/
def Guard (t : UInt8) (m : Manager) : Event → Prop
  | .startup t' _ => t' = t → Quiet t m ∧ AllOrNone .startup t m.slots
  | .shutdown t' _ => t' = t → Quiet t m ∧ AllOrNone .shutdown t m.slots
  | .callback _ => True

theorem Inv.apart_callBack (h : Inv t m) {p : Pending} (hp : p ∈ m.pending)
    (hne : p.transport ≠ t) : Apart t m (Services.callBack p m) := by
  rw [callBack_eq, if_pos hp]
  have hother : OtherSlot t p.id m := by
    obtain ⟨q, hq, hid, hcov⟩ := h.placed p hp
    obtain ⟨s, hs, rfl⟩ := mem_map.mp hq
    rw [← hid]
    refine h.table.otherSlot hs ?_
    rw [(covers_iff.mp hcov).1]
    exact hne
  have herase : Apart t m { m with pending := m.pending.erase p } := by
    refine ⟨rfl, fun _ => rfl, ?_, fun _ => rfl⟩
    rw [← erase_filter]
    exact erase_of_not_mem fun hmem => hne (by simpa using (mem_filter.mp hmem).2)
  exact herase.trans (apart_serviceOn (otherSlot_of_services hother herase.services) true)

theorem Inv.step (h : Inv t m) {e : Event} (hg : Guard t m e) : Inv t (step m e) := by
  have hplaced := (placed_step h.placed e).1
  have hcall : ∀ ph t', (t' = t → Quiet t m ∧ AllOrNone ph t m.slots) →
      ∀ now, Placed (serviceManagerCall ph t' now m) → Inv t (serviceManagerCall ph t' now m) := by
    intro ph t' hg now hplaced
    by_cases heq : t' = t
    · subst heq
      obtain ⟨hquiet, hall⟩ := hg rfl
      exact h.call hquiet hall
    · exact h.of_apart (apart_serviceManagerCall h.table heq) hplaced
  cases e with
  | startup t' now => exact hcall .startup t' hg now hplaced
  | shutdown t' now => exact hcall .shutdown t' hg now hplaced
  | callback p =>
    by_cases hp : p ∈ m.pending
    · by_cases htr : p.transport = t
      · exact h.callBack hp htr
      · exact h.of_apart (h.apart_callBack hp htr) hplaced
    · rw [Services.step, callBack_eq, if_neg hp]
      exact h

theorem inv_registered {services : List (Nat × ProfileService)}
    (hids : (services.map Prod.fst).Nodup) (hreg : ∀ p ∈ services, Regular p.2) :
    Inv t (registered services) := by
  have hslots : (registered services).slots.map Slot.id = services.map Prod.fst := by
    rw [registered, map_map]
    rfl
  refine ⟨⟨by rw [hslots]; exact hids, ?_⟩, nofun, ?_, fun _ _ _ _ => rfl, fun _ => rfl, ?_, ?_⟩
  · intro s hs
    obtain ⟨p, hp, rfl⟩ := mem_map.mp hs
    exact hreg p hp
  · intro ph hne
    exact absurd rfl hne
  · intro ph tbl htbl
    cases htbl
  · intro _
    refine ⟨.shutdown, eq_nil_iff_forall_not_mem.mpr fun id hid => ?_⟩
    obtain ⟨s, hs, -, -, hstate⟩ := mem_undone.mp hid
    obtain ⟨p, -, rfl⟩ := mem_map.mp hs
    exact hstate rfl

/-- In every run in which the calls for a transport meet the guard, each is answered by exactly
one notification, whatever happens on the other transports. -/
theorem one_notification_for_each_call {services : List (Nat × ProfileService)}
    (hids : (services.map Prod.fst).Nodup) (hreg : ∀ p ∈ services, Regular p.2)
    {es : List Event} (hg : Runs.Guarded step (Guard t) (registered services) es) :
    ∀ m ∈ Runs.visited step (registered services) es, OneForEach t m := by
  intro m hm
  exact (hg.invariant (fun _ _ hinv hok => hinv.step hok)
    (inv_registered hids hreg) m hm).oneForEach

instance (e : Event) : Decidable (Guard t m e) := by
  cases e <;> (unfold Guard; infer_instance)

def autoService (t : UInt8) : ProfileService :=
  { transport := t, autoStart := true, startup := true, shutdown := true, getState := none }

/-- Two services of one transport and one of another: the first reports at once and
the second later. -/
theorem two_services_answered_once :
    Runs.Guarded step (Guard 0)
        (registered [(0, autoService 0), (6, autoService 0), (9, autoService 1)])
        [.startup 0 [0], .shutdown 1 [], .callback ⟨.startup, 0, 6⟩, .shutdown 0 [6],
          .callback ⟨.shutdown, 0, 0⟩]
      ∧ ∀ m ∈ Runs.visited step
          (registered [(0, autoService 0), (6, autoService 0), (9, autoService 1)])
          [.startup 0 [0], .shutdown 1 [], .callback ⟨.startup, 0, 6⟩, .shutdown 0 [6],
            .callback ⟨.shutdown, 0, 0⟩], OneForEach 0 m := by
  refine ⟨by decide, one_notification_for_each_call (by decide) ?_ (by decide)⟩
  intro p hp
  simp only [mem_cons, not_mem_nil, or_false] at hp
  rcases hp with rfl | rfl | rfl <;> exact ⟨rfl, rfl, Or.inl rfl⟩

/-- A service that is not started with its transport calls back all the same when it is
stopped: one call of the manager is then answered twice. -/
theorem shutdown_of_two_answered_twice :
    (∀ p ∈ [(0, autoService 0), (6, { autoService 0 with autoStart := false })], Regular p.2)
      ∧ calls .shutdown 0 (Runs.after step
          (registered [(0, autoService 0), (6, { autoService 0 with autoStart := false })])
          [.startup 0 [0], .shutdown 0 [0, 6]]).log = 1
      ∧ notices .shutdown 0 (Runs.after step
          (registered [(0, autoService 0), (6, { autoService 0 with autoStart := false })])
          [.startup 0 [0], .shutdown 0 [0, 6]]).log = 2 := by
  refine ⟨?_, by decide, by decide⟩
  intro p hp
  rcases mem_pair.mp hp with rfl | rfl <;> exact ⟨rfl, rfl, Or.inl rfl⟩

end BtFramework.Services
