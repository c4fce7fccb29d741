import BtFramework.GattDiscovery

/-!
# What a discovery has to report

The notices a database calls for: the attributes of each primary service, in handle order, and
then the completion. A run goes `Astray` when what it has sent, or what it has gathered for the
service it is at, no longer agrees with them; since a run only ever adds to both, it never comes
back.
-/

namespace BtFramework.Gattc

open List State

/-! ## The expected notices -/

def Descriptor.attribute (d : Descriptor) : Attribute :=
  ⟨.descriptor, d.handle, d.uuid, 0⟩

def Include.attribute (i : Include) : Attribute :=
  ⟨.included, i.handle, i.uuid, 0⟩

def Characteristic.value (c : Characteristic) : Attribute :=
  ⟨.characteristic, c.valueHandle, c.uuid, c.properties⟩

def Characteristic.attributes (c : Characteristic) : List Attribute :=
  c.value :: c.descriptors.map Descriptor.attribute

def PrimaryService.declaration (s : PrimaryService) : Attribute :=
  ⟨.primary, s.handle, s.uuid, 0⟩

def PrimaryService.attributes (s : PrimaryService) : List Attribute :=
  s.declaration :: s.includes.map Include.attribute
    ++ s.characteristics.flatMap Characteristic.attributes

def PrimaryService.notice (s : PrimaryService) : Notice Attribute :=
  .serviceDiscovered s.attributes

def Database.notices (db : Database) : List (Notice Attribute) :=
  db.services.map PrimaryService.notice ++ [.discoverCompleted]

def State.sent (st : State) : List (Notice Attribute) :=
  st.out.map (Notice.map Element.toAttribute)

def State.gathered (st : State) : List Attribute :=
  st.elementDb.map Element.toAttribute

/-- The run comes to rest having sent exactly the notices. -/
def Rebuilds (cfg : Config) (db : Database) (st : State) : Prop :=
  ∃ n, ((step cfg db)^[n] st).request = none ∧ ((step cfg db)^[n] st).sent = db.notices

/-! ## Going astray -/

def Astray (db : Database) (st : State) : Prop :=
  ¬ st.sent <+: db.notices ∨
    (st.inst.currentElementBaseIdx ≤ st.inst.element.size ∧ st.sent ≠ db.notices ∧
      ∀ l, st.sent ++ [.serviceDiscovered l] <+: db.notices → ¬ st.gathered <+: l)

def Lost (db : Database) (st : State) : Prop :=
  Astray db st ∨ st.request = none ∧ st.sent ≠ db.notices

section Astray

variable {cfg : Config} {db : Database} {st : State}

theorem gathered_push (hbase : st.inst.currentElementBaseIdx ≤ st.inst.element.size)
    (fill : Element → Element) :
    ({ st with inst.element := st.inst.element.push fill } : State).gathered
      = st.gathered ++ [(fill (st.inst.element.cell st.inst.element.size)).toAttribute] := by
  have hlen : st.inst.currentElementBaseIdx ≤ st.inst.element.live.length := by
    rwa [Slots.length_live]
  simp only [gathered, elementDb, Slots.live_push]
  rw [drop_append_of_le_length hlen, map_append, map_singleton]

theorem disconnect_not_mem_notices (db : Database) : Notice.disconnect ∉ db.notices := by
  simp [Database.notices, PrimaryService.notice]

theorem astray_disconnect (st : State) : Astray db (disconnect st) := by
  refine .inl fun hpre => disconnect_not_mem_notices db (hpre.subset ?_)
  simp [sent, disconnect, Notice.map]

theorem sent_onServiceDiscovered (st : State) :
    (onServiceDiscovered st).sent = st.sent ++ [.serviceDiscovered st.gathered] := by
  simp [sent, onServiceDiscovered, Notice.map, gathered]

section

variable (h : Astray db st)

include h

theorem Astray.sent_ne : st.sent ≠ db.notices := by
  rcases h with h | h
  · intro heq
    exact h (heq ▸ prefix_rfl)
  · exact h.2.1

theorem Astray.congr {st' : State} (hel : st'.inst.element = st.inst.element)
    (hbase : st'.inst.currentElementBaseIdx = st.inst.currentElementBaseIdx)
    (hout : st'.out = st.out) : Astray db st' := by
  have hsent : st'.sent = st.sent := by rw [sent, sent, hout]
  have hgath : st'.gathered = st.gathered := by
    rw [gathered, gathered, elementDb, elementDb, hel, hbase]
  rw [Astray, hsent, hgath, hel, hbase]
  exact h

theorem Astray.alloc {fill : Element → Element} {st' : State}
    (halloc : gattAllocElement cfg fill st = some st') : Astray db st' := by
  rw [gattAllocElement] at halloc
  split at halloc
  · cases halloc
  · cases halloc
    rcases h with h | ⟨hbase, hne, hl⟩
    · exact .inl h
    · refine .inr ⟨hbase.trans (Nat.le_succ _), hne, fun l hpre hgath => hl l hpre ?_⟩
      rw [gathered_push hbase] at hgath
      exact (prefix_append _ _).trans hgath

theorem Astray.alloc_getD {fill : Element → Element} :
    Astray db ((gattAllocElement cfg fill st).getD st) := by
  cases halloc : gattAllocElement cfg fill st with
  | none => exact h
  | some st' => exact h.alloc halloc

theorem Astray.not_prefix_report : ¬ (onServiceDiscovered st).sent <+: db.notices := by
  rw [sent_onServiceDiscovered]
  rcases h with h | ⟨_, _, hl⟩
  · exact fun hpre => h ((prefix_append _ _).trans hpre)
  · exact fun hpre => hl _ hpre prefix_rfl

theorem Astray.reportService : Astray db (reportService st) :=
  .inl h.not_prefix_report

theorem Astray.finishDiscovery : Astray db (finishDiscovery st) := by
  refine .inl fun hpre => h.not_prefix_report (IsPrefix.trans ?_ hpre)
  simp [sent, Gattc.finishDiscovery, gattDiscoverCleanup, Notice.map]

theorem Astray.closeService {next : State → State}
    (hnext : ∀ st, Astray db st → Astray db (next st)) : Astray db (closeService next st) := by
  rw [Gattc.closeService]
  split
  · exact hnext _ h.reportService
  · exact h.finishDiscovery

theorem Astray.descNextService : Astray db (descNextService cfg st) :=
  h.alloc_getD.congr rfl rfl rfl

theorem Astray.descIterNextService : Astray db (descIterNextService cfg st) :=
  h.alloc_getD.congr rfl rfl rfl

theorem Astray.chrcIterNextService : Astray db (chrcIterNextService cfg st) := by
  rw [Gattc.chrcIterNextService]
  split
  · rename_i halloc
    exact (h.alloc halloc).congr rfl rfl rfl
  · exact h

theorem Astray.iterAdvance {next again : State → State} {service : Service} {char : ElementChar}
    (hnext : ∀ st, Astray db st → Astray db (next st))
    (hagain : ∀ st, Astray db st → Astray db (again st)) :
    Astray db (iterAdvance next again service char st) := by
  simp only [Gattc.iterAdvance]
  split
  all_goals
    split
    · exact h.congr rfl rfl rfl
    split
    · refine Astray.closeService ?_ hnext
      exact h.congr rfl rfl rfl
    · exact hagain _ (h.congr rfl rfl rfl)

end

theorem Lost.sent_ne (h : Lost db st) : st.sent ≠ db.notices := by
  rcases h with h | h
  · exact h.sent_ne
  · exact h.2

/-! Every piece of the callbacks keeps a run astray. -/

theorem astray_iterBody {full next again : State → State}
    (hfull : Astray db (full st))
    (hnext : ∀ st, Astray db st → Astray db (next st))
    (hagain : ∀ st, Astray db st → Astray db (again st))
    (halloc : ∀ fill st', gattAllocElement cfg fill st = some st' →
      (∀ e, (fill e).type = .characteristic) → Astray db st') :
    Astray db (iterBody cfg full next again st) := by
  rw [iterBody]
  split
  · exact hfull
  · rename_i st' heq
    exact (halloc _ st' heq fun _ => rfl).iterAdvance hnext hagain

theorem Astray.iterLoop {full next : State → State}
    (hfull : ∀ st, Astray db st → Astray db (full st))
    (hnext : ∀ st, Astray db st → Astray db (next st)) (n : Nat) :
    ∀ {st : State}, Astray db st → Astray db (iterLoop cfg full next n st) := by
  induction n with
  | zero => exact id
  | succ n ih =>
    intro st h
    exact astray_iterBody (hfull st h) hnext (fun _ => ih) fun _ _ heq _ => h.alloc heq

theorem Astray.btGattDiscover {α : Type} {callback : Option α → State → Iter × State}
    (hcall : ∀ attr st, Astray db st → Astray db (callback attr st).2) (attrs : List α) :
    ∀ {st : State}, Astray db st → Astray db (btGattDiscover callback attrs st) := by
  induction attrs with
  | nil =>
    intro st h
    exact hcall none st h
  | cons attr attrs ih =>
    intro st h
    have hst := hcall (some attr) st h
    rw [Gattc.btGattDiscover]
    split <;> rename_i heq <;> rw [heq] at hst
    · exact hst
    · exact ih hst

section

variable (h : Astray db st)

include h

theorem Astray.chrcIter : Astray db (chrcIter cfg st) :=
  Astray.iterLoop (fun st _ => astray_disconnect st) (fun _ h => h.chrcIterNextService) _ h

theorem Astray.descIter : Astray db (descIter cfg st) :=
  Astray.iterLoop (fun _ h => h) (fun _ h => h.descIterNextService) _ h

theorem Astray.discServiceCallback (attr : Option PrimaryService) :
    Astray db (discServiceCallback cfg attr st).2 := by
  cases attr with
  | none => exact h.alloc_getD.congr rfl rfl rfl
  | some attr =>
    simp only [Gattc.discServiceCallback, gattAllocService]
    split
    · exact astray_disconnect st
    · rename_i heq
      split at heq <;> cases heq
      exact h.congr rfl rfl rfl

theorem Astray.discIncludeCallback (attr : Option Include) :
    Astray db (discIncludeCallback cfg attr st).2 := by
  cases attr with
  | none => exact h.congr rfl rfl rfl
  | some attr => exact h.alloc_getD

theorem Astray.discChrcCallback (attr : Option Characteristic) :
    Astray db (discChrcCallback cfg attr st).2 := by
  cases attr with
  | none => exact h.chrcIter
  | some attr =>
    simp only [Gattc.discChrcCallback]
    split
    · exact astray_disconnect st
    · exact h.congr rfl rfl rfl

theorem Astray.discDescCallback (attr : Option Descriptor) :
    Astray db (discDescCallback cfg attr st).2 := by
  cases attr with
  | none =>
    simp only [Gattc.discDescCallback]
    split
    · exact h.closeService fun _ h => h.descNextService
    · exact h.descIter
  | some attr =>
    simp only [Gattc.discDescCallback]
    split
    · exact h
    · rename_i heq
      exact h.alloc heq

theorem Astray.step : Astray db (step cfg db st) := by
  rw [Gattc.step]
  split
  · exact h
  · rename_i type lo hi _
    have h' : Astray db { st with request := none } := h.congr rfl rfl rfl
    cases type with
    | primary => exact Astray.btGattDiscover (fun a _ h => h.discServiceCallback a) _ h'
    | included => exact Astray.btGattDiscover (fun a _ h => h.discIncludeCallback a) _ h'
    | characteristic => exact Astray.btGattDiscover (fun a _ h => h.discChrcCallback a) _ h'
    | descriptor => exact Astray.btGattDiscover (fun a _ h => h.discDescCallback a) _ h'

end

theorem step_of_request_none (h : st.request = none) : Gattc.step cfg db st = st := by
  rw [Gattc.step, h]

theorem Lost.step (h : Lost db st) : Lost db (step cfg db st) := by
  rcases h with h | h
  · exact .inl h.step
  · rw [step_of_request_none h.1]
    exact .inr h

end Astray

/-! ## Runs -/

def Reaches (cfg : Config) (db : Database) (st st' : State) : Prop :=
  ∃ n, (step cfg db)^[n] st = st'

section Reaches

variable {cfg : Config} {db : Database} {st st' st'' : State}

theorem Reaches.refl : Reaches cfg db st st := ⟨0, rfl⟩

theorem Reaches.head (h : Reaches cfg db (step cfg db st) st') : Reaches cfg db st st' := by
  obtain ⟨n, hn⟩ := h
  exact ⟨n + 1, by rw [Function.iterate_succ_apply, hn]⟩

theorem Reaches.trans (h : Reaches cfg db st st') (h' : Reaches cfg db st' st'') :
    Reaches cfg db st st'' := by
  obtain ⟨m, rfl⟩ := h
  obtain ⟨n, rfl⟩ := h'
  exact ⟨n + m, Function.iterate_add_apply ..⟩

theorem Reaches.rebuilds_iff (h : Reaches cfg db st st') :
    Rebuilds cfg db st ↔ Rebuilds cfg db st' := by
  obtain ⟨n, rfl⟩ := h
  constructor
  · rintro ⟨m, hrest, hsent⟩
    rcases Nat.le_total n m with hle | hle
    · obtain ⟨k, rfl⟩ := Nat.exists_eq_add_of_le' hle
      rw [Function.iterate_add_apply] at hrest hsent
      exact ⟨k, hrest, hsent⟩
    · obtain ⟨k, rfl⟩ := Nat.exists_eq_add_of_le' hle
      rw [Function.iterate_add_apply, Function.iterate_fixed (step_of_request_none hrest)]
      exact ⟨0, hrest, hsent⟩
  · rintro ⟨k, hrest, hsent⟩
    rw [← Function.iterate_add_apply] at hrest hsent
    exact ⟨k + n, hrest, hsent⟩

theorem Lost.not_rebuilds (h : Lost db st) :
    ¬ Rebuilds cfg db st := by
  rintro ⟨n, _, hsent⟩
  exact (Function.Iterate.rec (Lost db) h (fun _ h => h.step) n).sent_ne hsent

end Reaches

end BtFramework.Gattc
