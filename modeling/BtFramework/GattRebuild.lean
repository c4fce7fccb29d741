import BtFramework.GattWalk

/-!
# Discovery rebuilds the peer's database

From service to service. A discovery arrives at a service asking for its includes, or,
when it comes from the loop of the descriptor callback, for its characteristics at once;
the includes are then missed. A service without characteristics is reported with one that
is left over from before, and a discovery that finds no service reports one all the same.
These, and a value at the very last handle, are the only databases that are not rebuilt.
-/

namespace BtFramework.Gattc

open Database List PrimaryService

/-! ## The databases that are rebuilt -/

def PrimaryService.SkipsNextIncludes (s : PrimaryService) : Prop :=
  ¬ s.characteristics.IsChain Packed ∧ ∃ c ∈ s.characteristics.getLast?, c.valueHandle = s.endHandle
deriving Decidable

def PrimaryService.Spares (s t : PrimaryService) : Prop :=
  s.SkipsNextIncludes → t.includes = []

instance : DecidableRel PrimaryService.Spares := fun _ _ => inferInstanceAs (Decidable (_ → _))

@[mk_iff]
structure Walkable (db : Database) (services : List PrimaryService) : Prop where
  characteristics : ∀ s ∈ services, s.characteristics ≠ []
  spares : services.IsChain PrimaryService.Spares
  lastValue : ∀ s ∈ services, ∀ c ∈ s.characteristics, c.valueHandle = 65535 → db.descriptors = []

instance (db : Database) (services : List PrimaryService) : Decidable (Walkable db services) :=
  decidable_of_iff _ (walkable_iff db services).symm

/-- There is a service, every service has a characteristic, no service with includes stands behind
one that makes the discovery skip them, and no value stands at the last handle unless there are no
descriptors. -/
def Database.Rebuildable (db : Database) : Prop :=
  db.services ≠ [] ∧ Walkable db db.services
deriving Decidable

/-! ## Arriving at a service -/

def Arrived (db : Database) (done : List PrimaryService) (s : PrimaryService) (skip : Prop)
    (st : State) : Prop :=
  ∃ st', Holds db done done.length [s.declaration] st' ∧ Chars [] 0 st' ∧
    (¬ skip ∧ st = discoverIncludeService s.handle s.endHandle st' ∨
      skip ∧ st = discoverChrc s.handle s.endHandle st')

section Services

variable {cfg : Config} {db : Database} {done rest : List PrimaryService}
  {s t : PrimaryService} {view : List Attribute} {st : State} {i : Nat}

/-! ## Through a service -/

section

variable (hlim : WithinLimits cfg db) (hsplit : db.services = done ++ s :: rest)

include hsplit

theorem notice_of_prefix {l : List Attribute}
    (h : done.map PrimaryService.notice ++ [.serviceDiscovered l] <+: db.notices) :
    l = s.attributes := by
  rw [notices, hsplit, map_append, append_assoc,
    prefix_append_right_inj, map_cons, cons_append,
    cons_prefix_cons] at h
  exact Notice.serviceDiscovered.inj h.1

theorem Holds.sent_ne (h : Holds db done i view st) : st.sent ≠ db.notices := by
  intro heq
  have hlen := congrArg List.length heq
  rw [h.sent, notices, hsplit] at hlen
  simp at hlen

theorem astray_of_push (h : Holds db done i view st) {fill : Element → Element} {st' : State}
    (halloc : gattAllocElement cfg fill st = some st')
    (hnot : ∀ e, ¬ view ++ [(fill e).toAttribute] <+: s.attributes) : Astray db st' := by
  rw [gattAllocElement] at halloc
  split at halloc
  · cases halloc
  · cases halloc
    have hbase : st.inst.currentElementBaseIdx ≤ st.inst.element.size := by
      rw [h.base, h.size]
      omega
    refine .inr ⟨hbase.trans (Nat.le_succ _), (h.sent_ne hsplit :), fun l hpre => ?_⟩
    have hl : l = s.attributes := notice_of_prefix hsplit (by rw [← h.sent]; exact hpre)
    rw [gathered_push hbase, h.gathered, hl]
    exact hnot _

theorem crest_eq_nil_of_value {cdone crest : List Characteristic} {c : Characteristic}
    (hchars : s.characteristics = cdone ++ c :: crest) (hv : c.valueHandle = 65535) :
    crest = [] := by
  cases hcrest : crest with
  | nil => rfl
  | cons d crest' =>
    rw [hcrest] at hchars
    have hlt := valueHandle_lt_declHandle hsplit hchars
    have hle := declHandle_le_65535 hsplit
      (by simp [hchars] : s.characteristics = (cdone ++ [c]) ++ d :: crest')
    omega

theorem not_rebuilds_of_descriptor {lo hi : Nat} {d : Descriptor} {ds : List Descriptor}
    (hds : db.descriptorsIn lo hi = d :: ds) (h : Holds db done i s.attributes st) :
    ¬ Rebuilds cfg db (discoverDescriptor lo hi st) := by
  have hlost : Lost db (step cfg db (discoverDescriptor lo hi st)) := by
    rw [step_discoverDescriptor h.atRest, hds, btGattDiscover, discDescCallback]
    cases halloc : gattAllocElement cfg
        (fun _ => ⟨⟨.descriptor, d.handle, d.uuid, 0⟩, d.perm⟩) st with
    | none => exact .inr ⟨h.atRest, h.sent_ne hsplit⟩
    | some st' =>
      refine .inl (Astray.btGattDiscover (fun a _ h => h.discDescCallback a) ds ?_)
      refine astray_of_push hsplit h halloc fun _ hpre => ?_
      have hle := hpre.length_le
      rw [length_append, length_singleton] at hle
      omega
  have hreach : Reaches cfg db (discoverDescriptor lo hi st)
      (step cfg db (discoverDescriptor lo hi st)) := .head .refl
  rw [hreach.rebuilds_iff]
  exact hlost.not_rebuilds

include hlim

theorem saveServiceDeclaration_holds (h : Holds db done done.length [] st) (hc : Chars [] 0 st) :
    ∃ st', saveServiceDeclaration cfg st = some st' ∧
      Holds db done done.length [s.declaration] st' ∧ Chars [] 0 st' := by
  have hroom := hlim.room hsplit
  rw [attributes, cons_append, length_cons] at hroom
  rw [saveServiceDeclaration, gattAllocElement_of_lt _ (by rw [h.size]; simp; omega),
    currentService_of_split hsplit h]
  exact ⟨_, rfl, h.push fun _ => rfl, hc.live, hc.idx⟩

theorem not_rebuilds_of_chrc (h : Holds db done done.length view st) (hc : Chars [] 0 st)
    (hnot : ∀ a : Attribute, a.type = .characteristic → ¬ view ++ [a] <+: s.attributes) :
    ¬ Rebuilds cfg db (discoverChrc s.handle s.endHandle st) := by
  obtain ⟨st', hrun, h', _⟩ := discChrcCallback_collects s.characteristics h hc
    (by simpa using hlim.characteristics s (mem_services hsplit))
  have hlost : Astray db (chrcIter cfg st') :=
    astray_iterBody (astray_disconnect st') (fun _ h => h.chrcIterNextService)
      (fun _ h => Astray.iterLoop (fun st _ => astray_disconnect st)
        (fun _ h => h.chrcIterNextService) _ h)
      fun fill st'' heq htype => astray_of_push hsplit h' heq fun e => hnot _ (htype e)
  have hstep : step cfg db (discoverChrc s.handle s.endHandle st) = chrcIter cfg st' := by
    rw [step_discoverChrc h.atRest, characteristicsIn_service hsplit, hrun]
  have hreach : Reaches cfg db (discoverChrc s.handle s.endHandle st) (chrcIter cfg st') :=
    .head (hstep ▸ .refl)
  rw [hreach.rebuilds_iff]
  exact Lost.not_rebuilds (.inl hlost)

theorem reaches_chrc (h : Holds db done done.length [s.declaration] st) (hc : Chars [] 0 st) :
    ∃ st', Reaches cfg db (discoverIncludeService s.handle s.endHandle st)
        (discoverChrc s.handle s.endHandle st') ∧
      Holds db done done.length (s.declaration :: s.includes.map Include.attribute) st' ∧
      Chars [] 0 st' := by
  have hroom := hlim.room hsplit
  rw [attributes, length_append, length_cons, length_map] at hroom
  obtain ⟨st', hrun, h', hkeep⟩ := btGattDiscover_gather (discIncludeCallback cfg)
    (fun a _ => ⟨a.attribute, 0⟩) (fun _ _ => rfl)
    (fun _ _ _ halloc => by rw [discIncludeCallback]; exact halloc ▸ rfl) s.includes h
    (by simp; omega)
  refine ⟨st', .head ?_, h', hkeep hc⟩
  have hcall : (discIncludeCallback cfg none st').2 = discoverChrc s.handle s.endHandle st' := by
    rw [discIncludeCallback, currentService_of_split hsplit h']
    rfl
  rw [step_discoverIncludeService h.atRest, includesIn_service hsplit, hrun, hcall]
  exact .refl

theorem reaches_close_of_gather {lo hi : Nat} {ds : List Descriptor}
    (hds : db.descriptorsIn lo hi = ds) (h : Holds db done (done.length + 1) view st)
    (hc : Chars [] 0 st) (hview : view ++ ds.map Descriptor.attribute = s.attributes) :
    ∃ st', Reaches cfg db (discoverDescriptor lo hi st)
        (closeService (descNextService cfg) st') ∧
      Holds db done (done.length + 1) s.attributes st' ∧ Chars [] 0 st' := by
  have hroom := hlim.room hsplit
  rw [← hview, length_append, length_map, ← Nat.add_assoc] at hroom
  obtain ⟨st', hrun, h', hkeep⟩ := btGattDiscover_gather (discDescCallback cfg)
    (fun a _ => ⟨a.attribute, a.perm⟩) (fun _ _ => rfl)
    (fun _ _ _ halloc => by rw [discDescCallback]; exact halloc ▸ rfl) ds h hroom
  have hc' := hkeep hc
  have hcall : (discDescCallback cfg none st').2 = closeService (descNextService cfg) st' := by
    rw [discDescCallback, if_pos]
    simp [gattIsServiceDiscoveryComplete, hc'.idx, hc'.size]
  refine ⟨st', .head ?_, hview ▸ h', hc'⟩
  rw [step_discoverDescriptor h.atRest, hds, hrun, hcall]
  exact .refl

theorem arrived_rebuilds_iff_of_chrc {skip p : Prop} (harr : Arrived db done s skip st)
    (hchrc : ∀ st',
      Holds db done done.length (s.declaration :: s.includes.map Include.attribute) st' →
      Chars [] 0 st' → (Rebuilds cfg db (discoverChrc s.handle s.endHandle st') ↔ p)) :
    Rebuilds cfg db st ↔ (skip → s.includes = []) ∧ p := by
  obtain ⟨st', h, hc, ⟨hskip, rfl⟩ | ⟨hskip, rfl⟩⟩ := harr
  · obtain ⟨st'', hreach, h'', hc''⟩ := reaches_chrc hlim hsplit h hc
    rw [hreach.rebuilds_iff, hchrc st'' h'' hc'', and_iff_right (fun hs => absurd hs hskip)]
  by_cases hinc : s.includes = []
  · rw [hchrc st' (by rw [hinc]; exact h) hc, and_iff_right fun _ => hinc]
  · refine iff_of_false (not_rebuilds_of_chrc hlim hsplit h hc fun a htype hpre => ?_)
      fun hp => hinc (hp.1 hskip)
    obtain ⟨i, is, hcons⟩ := exists_cons_of_ne_nil hinc
    rw [attributes, hcons, map_cons, cons_append, cons_append,
      cons_append, cons_prefix_cons, nil_append, cons_prefix_cons] at hpre
    rw [hpre.2.1] at htype
    cases htype

variable (h : Holds db done done.length (s.declaration :: s.includes.map Include.attribute) st)
  (hc : Chars [] 0 st)

include h hc

section

variable {cinit : List Characteristic} {last : Characteristic}
  (hchars : s.characteristics = cinit ++ [last])

include hchars

theorem chrc_reaches :
    ∃ st' w, Holds db done (done.length + 1) w st' ∧ Chars [] 0 st' ∧
      w ++ last.descriptors.map Descriptor.attribute = s.attributes ∧
      Reaches cfg db (discoverChrc s.handle s.endHandle st)
        (if (last.valueHandle + 1) % 65536 ≤ s.endHandle
          then discoverDescriptor ((last.valueHandle + 1) % 65536) s.endHandle st'
          else closeService (walkNext cfg (chrcIterNextService cfg) s.characteristics) st') := by
  obtain ⟨st₁, hrun, h₁, hc₁⟩ := discChrcCallback_collects s.characteristics h hc
    (by simpa using hlim.characteristics s (mem_services hsplit))
  obtain ⟨c, crest, hcons⟩ := exists_cons_of_ne_nil (by rw [hchars]; simp : s.characteristics ≠ [])
  have hlast : s.characteristics.getLast? = some last := by rw [hchars]; simp
  have hroom := hlim.room hsplit
  rw [attributes, length_append, ← Nat.add_assoc, hcons] at hroom
  have hcons' : s.characteristics = [] ++ c :: crest := hcons
  have hc₁' : Chars s.characteristics ([] : List Characteristic).length st₁ := hc₁
  obtain ⟨st', w, h', hc', hw, hreach⟩ := iterLoop_reaches hsplit hlast crest disconnect
    (chrcIterNextService cfg) hcons' h₁ hc₁' hroom (chars_turns hcons' hc₁')
  refine ⟨st', w, h', hc', ?_, .head ?_⟩
  · rw [hw, attributes, hcons]
  · rw [step_discoverChrc h.atRest, characteristicsIn_service hsplit, hrun, hcons]
    exact hreach

theorem chrc_outcome (hvalue : last.valueHandle = 65535 → db.descriptors = []) :
    ∃ st' next, Holds db done (done.length + 1) s.attributes st' ∧ Chars [] 0 st' ∧
      Reaches cfg db (discoverChrc s.handle s.endHandle st) (closeService next st') ∧
      (next = descNextService cfg ∧ (last.valueHandle ≠ s.endHandle ∨ rest = []) ∨
        next = walkNext cfg (chrcIterNextService cfg) s.characteristics ∧
          last.valueHandle = s.endHandle) := by
  have hle := le_endHandle hsplit hchars last.valueHandle_mem
  have hend := db.last s (mem_services hsplit)
  obtain ⟨st₁, w, h₁, hc₁, hw, hreach⟩ := chrc_reaches hlim hsplit h hc hchars
  by_cases hmax : last.valueHandle = 65535
  · have hs : s.endHandle = 65535 := by omega
    have hnil : db.descriptorsIn 0 s.endHandle = last.descriptors := by
      rw [hs, descriptorsIn_all, hvalue hmax, descriptors_eq_nil_of_bare hsplit hchars (by omega)]
    rw [hmax, if_pos (by omega)] at hreach
    obtain ⟨st', hclose, h', hc'⟩ := reaches_close_of_gather hlim hsplit hnil h₁ hc₁ hw
    exact ⟨st', _, h', hc', hreach.trans hclose,
      .inl ⟨rfl, .inr (rest_eq_nil_of_endHandle hsplit hs)⟩⟩
  · have hstart : (last.valueHandle + 1) % 65536 = last.valueHandle + 1 := by omega
    rw [hstart] at hreach
    by_cases hroom : last.valueHandle + 1 ≤ s.endHandle
    · rw [if_pos hroom] at hreach
      obtain ⟨st', hclose, h', hc'⟩ := reaches_close_of_gather hlim hsplit
        (descriptorsIn_last hsplit hchars) h₁ hc₁ hw
      exact ⟨st', _, h', hc', hreach.trans hclose, .inl ⟨rfl, .inl (by omega)⟩⟩
    · rw [if_neg hroom] at hreach
      rw [descriptors_eq_nil_of_bare hsplit hchars (by omega), map_nil, append_nil] at hw
      exact ⟨st₁, _, hw ▸ h₁, hc₁, hreach, .inr ⟨rfl, by omega⟩⟩

end

theorem not_rebuilds_of_value {c : Characteristic} (hmem : c ∈ s.characteristics)
    (hmax : c.valueHandle = 65535) (hsome : db.descriptors ≠ []) :
    ¬ Rebuilds cfg db (discoverChrc s.handle s.endHandle st) := by
  obtain ⟨cinit, crest, hchars⟩ := append_of_mem hmem
  rw [crest_eq_nil_of_value hsplit hchars hmax] at hchars
  have hle := le_endHandle hsplit hchars c.valueHandle_mem
  have hend := db.last s (mem_services hsplit)
  have hs : s.endHandle = 65535 := by omega
  obtain ⟨st₁, w, h₁, hc₁, hw, hreach⟩ := chrc_reaches hlim hsplit h hc hchars
  rw [descriptors_eq_nil_of_bare hsplit hchars (by omega), map_nil, append_nil] at hw
  rw [hmax, if_pos (by omega)] at hreach
  obtain ⟨d, ds, hds⟩ := exists_cons_of_ne_nil hsome
  have hall : db.descriptorsIn 0 s.endHandle = d :: ds := by
    rw [hs, descriptorsIn_all, hds]
  rw [hreach.rebuilds_iff]
  exact not_rebuilds_of_descriptor hsplit hall (hw ▸ h₁)

theorem chrc_rebuilds_iff {p : Prop}
    (hclose : ∀ cinit last st' next, s.characteristics = cinit ++ [last] →
      Holds db done (done.length + 1) s.attributes st' → Chars [] 0 st' →
      (next = descNextService cfg ∧ (last.valueHandle ≠ s.endHandle ∨ rest = []) ∨
        next = walkNext cfg (chrcIterNextService cfg) s.characteristics ∧
          last.valueHandle = s.endHandle) →
      (Rebuilds cfg db (closeService next st') ↔ p)) :
    Rebuilds cfg db (discoverChrc s.handle s.endHandle st) ↔
      (s.characteristics ≠ [] ∧
        ∀ c ∈ s.characteristics, c.valueHandle = 65535 → db.descriptors = []) ∧ p := by
  by_cases hnil : s.characteristics = []
  · have hview : s.attributes = s.declaration :: s.includes.map Include.attribute := by
      simp [attributes, hnil]
    refine iff_of_false (not_rebuilds_of_chrc hlim hsplit h hc fun a _ hpre => ?_)
      fun hp => hp.1.1 hnil
    have hle := hpre.length_le
    rw [hview, length_append, length_singleton] at hle
    omega
  by_cases hval : ∀ c ∈ s.characteristics, c.valueHandle = 65535 → db.descriptors = []
  · obtain ⟨cinit, last, hchars⟩ :=
      (eq_nil_or_concat' s.characteristics).resolve_left hnil
    obtain ⟨st', next, h', hc', hreach, hnext⟩ :=
      chrc_outcome hlim hsplit h hc hchars (hval last (by rw [hchars]; simp))
    rw [hreach.rebuilds_iff, hclose cinit last st' next hchars h' hc' hnext]
    exact ⟨fun hp => ⟨⟨hnil, hval⟩, hp⟩, fun hp => hp.2⟩
  · refine iff_of_false ?_ fun hp => hval hp.1.2
    push Not at hval
    obtain ⟨c, hmem, hmax, hsome⟩ := hval
    exact not_rebuilds_of_value hlim hsplit h hc hmem hmax hsome

end

/-! ## Leaving a service -/

theorem Holds.report (h : Holds db done (done.length + 1) s.attributes st) :
    Holds db (done ++ [s]) (done ++ [s]).length [] (reportService st) := by
  refine ⟨h.atRest, h.services, by simp [reportService, onServiceDiscovered, h.idx], ?_, ?_, ?_, ?_⟩
  · simp [reportService, onServiceDiscovered, h.size, gone]
  · simp [reportService, onServiceDiscovered, h.size, gone]
  · have hnil : st.inst.element.live.drop st.inst.element.size = [] :=
      drop_eq_nil_of_le (by rw [Slots.length_live])
    simp [State.gathered, State.elementDb, reportService, onServiceDiscovered, hnil]
  · change (onServiceDiscovered st).sent = _
    rw [sent_onServiceDiscovered, h.sent, h.gathered, map_append]
    rfl

theorem closeService_last (hsplit : db.services = done ++ [s])
    (h : Holds db done (done.length + 1) s.attributes st) (next : State → State) :
    Rebuilds cfg db (closeService next st) := by
  have hfin : closeService next st = finishDiscovery st := by
    refine if_neg ?_
    rw [h.idx, service_size h, hsplit]
    simp
  refine ⟨0, ?_, ?_⟩
  · rw [Function.iterate_zero_apply, hfin]
    exact h.atRest
  · have hsent : (finishDiscovery st).sent
        = (onServiceDiscovered st).sent ++ [.discoverCompleted] := by
      simp [State.sent, finishDiscovery, gattDiscoverCleanup, Notice.map]
    rw [Function.iterate_zero_apply, hfin, hsent, sent_onServiceDiscovered, h.sent,
      h.gathered, notices, hsplit, map_append]
    rfl

theorem closeService_arrived (hlim : WithinLimits cfg db)
    (hsplit : db.services = done ++ s :: t :: rest)
    (h : Holds db done (done.length + 1) s.attributes st) (hc : Chars [] 0 st) :
    Arrived db (done ++ [s]) t False (closeService (descNextService cfg) st) ∧
      Arrived db (done ++ [s]) t False (closeService (chrcIterNextService cfg) st) ∧
      Arrived db (done ++ [s]) t True (closeService (descIterNextService cfg) st) := by
  have hsplit' : db.services = (done ++ [s]) ++ t :: rest := by simp [hsplit]
  have hcur := currentService_of_split hsplit' h.report
  obtain ⟨st', hsave, h', hc'⟩ :=
    saveServiceDeclaration_holds hlim hsplit' h.report ⟨hc.live, hc.idx⟩
  have hclose : ∀ next : State → State, closeService next st = next (reportService st) :=
    fun _ => if_pos (by rw [h.idx, service_size h, hsplit]; simp)
  simp only [hclose, descNextService, chrcIterNextService,
    descIterNextService, hcur, hsave, Option.getD_some]
  exact ⟨⟨st', h', hc', .inl ⟨id, rfl⟩⟩, ⟨st', h', hc', .inl ⟨id, rfl⟩⟩,
    ⟨st', h', hc', .inr ⟨trivial, rfl⟩⟩⟩

/-! ## From service to service -/

theorem Arrived.congr {skip skip' : Prop} (hiff : skip ↔ skip')
    (h : Arrived db done s skip st) : Arrived db done s skip' st := by
  rwa [Arrived, ← hiff]

theorem closeService_arrived_iff {cinit : List Characteristic} {last : Characteristic}
    (hlim : WithinLimits cfg db)
    (hsplit : db.services = done ++ s :: t :: rest)
    (h : Holds db done (done.length + 1) s.attributes st) (hc : Chars [] 0 st)
    (hchars : s.characteristics = cinit ++ [last]) {next : State → State}
    (hnext : next = descNextService cfg ∧ last.valueHandle ≠ s.endHandle ∨
      next = walkNext cfg (chrcIterNextService cfg) s.characteristics ∧
        last.valueHandle = s.endHandle) :
    Arrived db (done ++ [s]) t s.SkipsNextIncludes (closeService next st) := by
  have hlast : s.characteristics.getLast? = some last := by rw [hchars]; simp
  obtain ⟨hdesc, hchrc, hiter⟩ := closeService_arrived hlim hsplit h hc
  rcases hnext with ⟨rfl, hne⟩ | ⟨rfl, heq⟩
  · refine hdesc.congr ⟨False.elim, ?_⟩
    rintro ⟨_, c, hc, hv⟩
    rw [hlast, Option.mem_some_iff] at hc
    exact hne (hc ▸ hv)
  · rw [walkNext]
    by_cases hpacked : s.characteristics.IsChain Packed
    · rw [if_pos hpacked]
      exact hchrc.congr ⟨False.elim, fun hskip => hskip.1 hpacked⟩
    · rw [if_neg hpacked]
      exact hiter.congr ⟨fun _ => ⟨hpacked, last, hlast, heq⟩, fun _ => trivial⟩

theorem walkable_singleton : Walkable db [s] ↔ s.characteristics ≠ [] ∧
    ∀ c ∈ s.characteristics, c.valueHandle = 65535 → db.descriptors = [] := by
  simp [walkable_iff]

theorem walkable_cons_cons : Walkable db (s :: t :: rest) ↔ (s.characteristics ≠ [] ∧
    ∀ c ∈ s.characteristics, c.valueHandle = 65535 → db.descriptors = []) ∧
      s.Spares t ∧ Walkable db (t :: rest) := by
  simp only [walkable_iff, forall_mem_cons, isChain_cons_cons]
  tauto

theorem arrived_rebuilds_iff (hlim : WithinLimits cfg db) (rest : List PrimaryService) :
    ∀ {done : List PrimaryService} {s : PrimaryService} {skip : Prop} {st : State},
      db.services = done ++ s :: rest → Arrived db done s skip st →
      (Rebuilds cfg db st ↔ (skip → s.includes = []) ∧ Walkable db (s :: rest)) := by
  induction rest with
  | nil =>
    intro done s skip st hsplit harr
    refine arrived_rebuilds_iff_of_chrc hlim hsplit harr fun st' h hc => ?_
    rw [walkable_singleton]
    have hiff := chrc_rebuilds_iff hlim hsplit h hc
      fun _ _ _ next _ h' _ _ => iff_true_intro (closeService_last hsplit h' next)
    rwa [and_true] at hiff
  | cons t rest ih =>
    intro done s skip st hsplit harr
    refine arrived_rebuilds_iff_of_chrc hlim hsplit harr fun st' h hc => ?_
    rw [walkable_cons_cons]
    refine chrc_rebuilds_iff hlim hsplit h hc
      fun cinit last st' next hchars h' hc' hnext => ?_
    refine ih (by simp [hsplit]) (closeService_arrived_iff hlim hsplit h' hc' hchars ?_)
    rcases hnext with ⟨hnext, hne | hrest⟩ | hnext
    · exact .inl ⟨hnext, hne⟩
    · cases hrest
    · exact .inr hnext

end Services

/-! ## The whole discovery -/

section Whole

variable {cfg : Config} {db : Database}

theorem discServiceCallback_collects (cfg : Config) (ss : List PrimaryService) :
    ∀ st : State, st.inst.service.size + ss.length ≤ cfg.serviceMax →
      ∃ slots : Slots Service, btGattDiscover (discServiceCallback cfg) ss st
          = (discServiceCallback cfg none { st with inst.service := slots }).2 ∧
        slots.live = st.inst.service.live ++ ss.map PrimaryService.toService := by
  induction ss with
  | nil =>
    intro st _
    exact ⟨st.inst.service, rfl, by simp⟩
  | cons s ss ih =>
    intro st hroom
    rw [length_cons] at hroom
    obtain ⟨slots, hrun, hlive⟩ :=
      ih { st with inst.service := st.inst.service.push fun _ => s.toService }
        (by rw [Slots.size_push]; omega)
    have halloc : gattAllocService cfg (fun _ => ⟨s.handle, s.endHandle, s.uuid⟩) st
        = some { st with inst.service := st.inst.service.push fun _ => s.toService } :=
      if_neg (by omega)
    have hcall : discServiceCallback cfg (some s) st = (.cont,
        { st with inst.service := st.inst.service.push fun _ => s.toService }) := by
      rw [discServiceCallback, halloc]
    refine ⟨slots, ?_, ?_⟩
    · rw [btGattDiscover, hcall]
      exact hrun
    · rw [hlive, Slots.live_push]
      simp

variable (services : Nat → Service) (elements : Nat → Element) (chars : Nat → ElementChar)

theorem astray_of_no_services (h : db.services = []) :
    Astray db (discoverAllServices services elements chars) := by
  refine .inr ⟨le_refl _, ?_, fun l hpre => ?_⟩
  · simp [State.sent, discoverAllServices, notices]
  · simp [State.sent, discoverAllServices, notices, h] at hpre

theorem arrived_first (hlim : WithinLimits cfg db) {s : PrimaryService}
    {rest : List PrimaryService} (h : db.services = s :: rest) :
    Arrived db [] s False (step cfg db (discoverAllServices services elements chars)) := by
  have hsplit : db.services = [] ++ s :: rest := h
  obtain ⟨slots, hrun, hlive⟩ := discServiceCallback_collects cfg db.services
    { discoverAllServices services elements chars with request := none }
    (by simpa [discoverAllServices] using hlim.services)
  have hholds : Holds db [] 0 []
      { discoverAllServices services elements chars with
        request := none, inst.service := slots } :=
    ⟨rfl, hlive, rfl, rfl, rfl, rfl, rfl⟩
  obtain ⟨st', hsave, h', hc'⟩ := saveServiceDeclaration_holds hlim hsplit hholds ⟨rfl, rfl⟩
  refine ⟨st', h', hc', .inl ⟨id, ?_⟩⟩
  change btGattDiscover (discServiceCallback cfg) (db.primariesIn 1 65535)
    { discoverAllServices services elements chars with request := none } = _
  rw [primariesIn_all, hrun, discServiceCallback, hsave, currentService_of_split hsplit hholds]
  rfl

/-- Whatever earlier runs left in the arrays: the discovery reports each primary service once, in
handle order, with exactly its attributes, and then the completion, if and only if the database is
of the kind described. -/
theorem discovery_rebuilds_iff (hlim : WithinLimits cfg db) :
    Rebuilds cfg db (discoverAllServices services elements chars) ↔ db.Rebuildable := by
  cases hservices : db.services with
  | nil =>
    exact iff_of_false (Lost.not_rebuilds
      (.inl (astray_of_no_services services elements chars hservices)))
      fun h => h.1 hservices
  | cons s rest =>
    have hreach : Reaches cfg db (discoverAllServices services elements chars)
        (step cfg db (discoverAllServices services elements chars)) := .head .refl
    have hsplit : db.services = [] ++ s :: rest := hservices
    rw [hreach.rebuilds_iff, arrived_rebuilds_iff hlim rest hsplit
      (arrived_first services elements chars hlim hservices), Database.Rebuildable,
      hservices]
    simp

end Whole

/-! ## Databases that are and are not rebuilt -/

def discoverAllFresh : State :=
  discoverAllServices (fun _ => ⟨0, 0, .uuid16 0⟩) (fun _ => ⟨⟨.primary, 0, .uuid16 0, 0⟩, 0⟩)
    fun _ => ⟨0, 0, 0, .uuid16 0⟩

def twoServices : Database where
  services :=
    [⟨1, 3, .uuid16 0x1800, [], [⟨2, 3, 2, .uuid16 0x2A00, []⟩]⟩,
      ⟨4, 8, .uuid16 0x180F, [⟨5, .uuid16 0x1812⟩],
        [⟨6, 7, 0x12, .uuid16 0x2A19, [⟨8, .uuid16 0x2902, 0⟩]⟩]⟩]
  increasing := by decide
  within := by decide
  apart := by decide
  first := by decide
  last := by decide

theorem two_services_rebuilt : twoServices.Rebuildable ∧
    Rebuilds defaultConfig twoServices discoverAllFresh :=
  ⟨by decide, (discovery_rebuilds_iff _ _ _ (by decide)).mpr (by decide)⟩

def includeBehindBareEnd : Database where
  services :=
    [⟨1, 6, .uuid16 0x180F, [],
        [⟨2, 3, 0x12, .uuid16 0x2A19, [⟨4, .uuid16 0x2902, 0⟩]⟩, ⟨5, 6, 2, .uuid16 0x2A1A, []⟩]⟩,
      ⟨7, 10, .uuid16 0x1812, [⟨8, .uuid16 0x180F⟩], [⟨9, 10, 2, .uuid16 0x2A4A, []⟩]⟩]
  increasing := by decide
  within := by decide
  apart := by decide
  first := by decide
  last := by decide

def bareService : Database where
  services := [⟨1, 1, .uuid16 0x1801, [], []⟩]
  increasing := by decide
  within := by decide
  apart := by decide
  first := by decide
  last := by decide

def noServices : Database where
  services := []
  increasing := by decide
  within := by decide
  apart := by decide
  first := by decide
  last := by decide

/-- The discovery misses the include of the second service, gives the service without
characteristics one of handle zero, and reports a service where there is none. -/
theorem not_rebuilt_within_limits :
    (WithinLimits defaultConfig includeBehindBareEnd ∧
        ¬ Rebuilds defaultConfig includeBehindBareEnd discoverAllFresh) ∧
      (WithinLimits defaultConfig bareService ∧
        ¬ Rebuilds defaultConfig bareService discoverAllFresh) ∧
      (WithinLimits defaultConfig noServices ∧
        ¬ Rebuilds defaultConfig noServices discoverAllFresh) := by
  have hlost : ∀ db n, ((step defaultConfig db)^[n] discoverAllFresh).request.isNone →
      ((step defaultConfig db)^[n] discoverAllFresh).sent ≠ db.notices →
      ¬ Rebuilds defaultConfig db discoverAllFresh := by
    intro db n hrest hsent
    have hreach : Reaches defaultConfig db discoverAllFresh
        ((step defaultConfig db)^[n] discoverAllFresh) := ⟨n, rfl⟩
    rw [hreach.rebuilds_iff]
    exact Lost.not_rebuilds (.inr ⟨Option.isNone_iff_eq_none.mp hrest, hsent⟩)
  exact ⟨⟨by decide, hlost _ 5 (by decide) (by decide)⟩,
    ⟨by decide, hlost _ 4 (by decide) (by decide)⟩,
    ⟨by decide, hlost _ 4 (by decide) (by decide)⟩⟩

end BtFramework.Gattc
