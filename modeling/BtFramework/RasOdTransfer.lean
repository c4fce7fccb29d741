import BtFramework.RasProcedures
import BtFramework.Runs

/-!
# On-demand transfers

`OdSound` is not an invariant of the server: a lost connection frees the procedures and leaves
the cursor, a Get may start while another procedure is being sent, and a refused send clears the
flag with the cursor still set. `TransferOk` excludes exactly these.
-/

namespace BtFramework

open Relation (ReflTransGen)
open Keyed List Runs

/-- The cursor is in the procedure being sent, and no other is being sent. -/
structure OdSound (v : OdStore) : Prop where
  cursor : ∀ cur, v.cursor = some cur → ∃ p ∈ v.procs, p.count = v.count
    ∧ p.processing = true ∧ p.id = cur.procId ∧ cur.pos < p.segList.length
  single : ∀ p ∈ v.procs, ∀ q ∈ v.procs, p.processing = true → q.processing = true → p = q

variable {s : RasSrv} {v v' : OdStore} {i : RasInput}

/-! ## Housekeeping -/

structure OdCarried (v v' : OdStore) : Prop where
  cursor : v'.cursor = v.cursor
  count : v'.count = v.count
  fwd : ∀ p ∈ v.procs, p.processing = true → ∃ p' ∈ v'.procs, p.Grows p'
  back : ∀ p' ∈ v'.procs, p'.processing = true → ∃ p ∈ v.procs, p.Grows p'

theorem OdStep.carried {w : Option Nat} (hstep : OdStep w v v') (h : v.WF) : OdCarried v v' := by
  cases hstep with
  | @drop q hq hidle =>
    refine ⟨rfl, rfl, fun p hp hproc => ⟨p, mem_remove.mpr ⟨hp, fun hid => ?_⟩, .refl p⟩,
      fun p hp _ => ⟨p, (mem_remove.mp hp).1, .refl p⟩⟩
    rw [h.eq_of_id hp hq hid, hidle] at hproc
    cases hproc
  | create =>
    refine ⟨rfl, rfl, fun p hp _ => ⟨p, mem_append_left _ hp, .refl p⟩, ?_⟩
    intro p hp hproc
    rcases mem_append.mp hp with hp | hp
    · exact ⟨p, hp, .refl p⟩
    · rw [mem_singleton.mp hp] at hproc
      cases hproc
  | @grow q f hq hgrow =>
    refine ⟨rfl, rfl, ?_, ?_⟩
    · intro p hp _
      by_cases hid : p.id = q.id
      · obtain rfl := h.eq_of_id hp hq hid
        exact ⟨f p, mem_update.mpr (.inl ⟨p, hp, rfl, rfl⟩), hgrow⟩
      · exact ⟨p, mem_update.mpr (.inr ⟨hp, hid⟩), .refl p⟩
    · intro p' hp' _
      rcases mem_update.mp hp' with ⟨p, hp, hid, rfl⟩ | ⟨hp, -⟩
      · obtain rfl := h.eq_of_id hp hq hid
        exact ⟨p, hp, hgrow⟩
      · exact ⟨p', hp, .refl p'⟩
  | tick => exact ⟨rfl, rfl, fun p hp _ => ⟨p, hp, .refl p⟩, fun p hp _ => ⟨p, hp, .refl p⟩⟩

theorem OdSound.carried (hs : OdSound v) (hc : OdCarried v v') (h' : v'.WF) : OdSound v' where
  cursor := by
    intro cur hcur
    rw [hc.cursor] at hcur
    obtain ⟨p, hp, hcount, hproc, hid, hpos⟩ := hs.cursor cur hcur
    obtain ⟨p', hp', hgrow⟩ := hc.fwd p hp hproc
    refine ⟨p', hp', ?_, hgrow.processing.trans hproc, hgrow.id.trans hid,
      Nat.lt_of_lt_of_le hpos hgrow.segList.length_le⟩
    rw [hgrow.count, hc.count, hcount]
  single := by
    intro p' hp' q' hq' hpp hqp
    obtain ⟨p, hp, hpg⟩ := hc.back p' hp' hpp
    obtain ⟨q, hq, hqg⟩ := hc.back q' hq' hqp
    have heq := hs.single p hp q hq (hpg.processing ▸ hpp) (hqg.processing ▸ hqp)
    exact h'.eq_of_id hp' hq' (by rw [hpg.id, hqg.id, heq])

theorem OdSound.steps {w : Option Nat} (hs : OdSound v) (h : v.WF)
    (hsteps : ReflTransGen (OdStep w) v v') : OdSound v' := by
  induction hsteps with
  | refl => exact hs
  | tail hsteps hstep ih =>
    have hwf := OdStep.wf_of_steps hsteps h
    exact ih.carried (hstep.carried hwf) (hstep.wf hwf)

/-! ## The flag of one procedure -/

variable {p : RasOdProcedure} {cur : OdCursor}

theorem mem_setProcessing (h : v.WF) (hp : p ∈ v.procs) {b : Bool} {q : RasOdProcedure} :
    q ∈ Keyed.update (·.id) p.id (setProcessing b) v.procs
      ↔ q = setProcessing b p ∨ (q ∈ v.procs ∧ q ≠ p) := by
  rw [mem_update]
  constructor
  · rintro (⟨r, hr, hid, rfl⟩ | ⟨hq, hid⟩)
    · rw [h.eq_of_id hr hp hid]
      exact .inl rfl
    · exact .inr ⟨hq, fun heq => hid (heq ▸ rfl)⟩
  · rintro (rfl | ⟨hq, hne⟩)
    · exact .inl ⟨p, hp, rfl, rfl⟩
    · exact .inr ⟨hq, fun hid => hne (h.eq_of_id hq hp hid)⟩

theorem OdSound.clear (hs : OdSound v) (h : v.WF) (hp : p ∈ v.procs) {cur : Option OdCursor}
    (hcur : cur = none ∨ (cur = v.cursor
      ∧ (v.cursor ≠ none → p.segList = [] ∨ p.count ≠ v.count))) :
    OdSound { v with
      procs := Keyed.update (·.id) p.id (setProcessing false) v.procs
      cursor := cur } where
  cursor := by
    intro c hc
    rcases hcur with rfl | ⟨rfl, hfree⟩
    · cases hc
    · obtain ⟨q, hq, hcount, hproc, hid, hpos⟩ := hs.cursor c hc
      refine ⟨q, (mem_setProcessing h hp).mpr (.inr ⟨hq, ?_⟩), hcount, hproc, hid, hpos⟩
      rintro rfl
      rcases hfree (by rw [show v.cursor = _ from hc]; exact nofun) with hnil | hne
      · simp [hnil] at hpos
      · exact hne hcount
  single := by
    intro q hq r hr hqp hrp
    rcases (mem_setProcessing h hp).mp hq with rfl | ⟨hq, -⟩
    · cases hqp
    · rcases (mem_setProcessing h hp).mp hr with rfl | ⟨hr, -⟩
      · cases hrp
      · exact hs.single q hq r hr hqp hrp

theorem not_odSound_clear (h : v.WF) (hp : p ∈ v.procs) (hcount : p.count = v.count) :
    ¬ OdSound { v with
      procs := Keyed.update (·.id) p.id (setProcessing false) v.procs
      cursor := some cur } := by
  intro hs
  obtain ⟨q, hq, hqc, hproc, -⟩ := hs.cursor cur rfl
  rcases (mem_setProcessing h hp).mp hq with rfl | ⟨hq, hne⟩
  · cases hproc
  · exact hne (h.eq_of_count hq hp (hqc.trans hcount.symm))

theorem nextNode_eq_some {pos : Nat} (h : nextNode p pos = some cur) :
    p.id = cur.procId ∧ cur.pos < p.segList.length := by
  unfold nextNode at h
  split at h
  · cases h
    exact ⟨rfl, ‹_›⟩
  · cases h

/-! ## The condition on a step -/

/-- The steps that keep transfers sound:

- a Get that is accepted comes when no other procedure is being sent, and one
  that is refused is not for the procedure the cursor is in;
- the connection is not lost while the cursor is set;
- the send after a completion is not refused unless it is for the last
  segment. -/
structure TransferOk (s : RasSrv) (i : RasInput) : Prop where
  get : ∀ c ∈ i.event.getCount, s.charNotifyState.onDemandData.enabled = true →
    ∀ p ∈ s.odProcedureList, p.count = c → p.segList ≠ [] →
      if i.accepted then ∀ q ∈ s.odProcedureList, q.processing = true → q = p
      else s.onDemandCurrNode ≠ none → s.procedureCount ≠ c
  disconnect : i.event = .disconnect → s.connected = true → s.onDemandCurrNode = none
  completion : i.event = .notifyCb true .onDemand →
    s.charNotifyState.onDemandData.enabled = true → i.accepted = false →
    ∀ cur ∈ s.onDemandCurrNode, ∀ p ∈ s.odProcedureList, p.id = cur.procId →
      nextNode p cur.pos = none

instance (s : RasSrv) (i : RasInput) : Decidable (TransferOk s i) :=
  have (c : Nat) : Decidable (∀ p ∈ s.odProcedureList, p.count = c → p.segList ≠ [] →
      if i.accepted then ∀ q ∈ s.odProcedureList, q.processing = true → q = p
      else s.onDemandCurrNode ≠ none → s.procedureCount ≠ c) := inferInstance
  decidable_of_iff (_ ∧ _ ∧ _)
    ⟨fun h => ⟨h.1, h.2.1, h.2.2⟩, fun h => ⟨h.get, h.disconnect, h.completion⟩⟩

theorem OdSound.gets {c : Nat} (hs : OdSound s.od) (h : s.od.WF) (hok : TransferOk s i)
    (hi : i.event.getCount = some c)
    (hget : OdGets s.charNotifyState.onDemandData.enabled i.accepted c s.od v') :
    OdSound v' := by
  cases hget with
  | ignored => exact hs
  | @started p hen hp hcount hsegs hacc =>
    have honly := hok.get c hi hen p hp hcount hsegs
    rw [hacc, if_pos rfl] at honly
    have hself := (mem_setProcessing h hp (b := true)).mpr (.inl rfl)
    refine ⟨fun cur hcur => ?_, ?_⟩
    · obtain ⟨hid, hpos⟩ := nextNode_eq_some hcur
      exact ⟨_, hself, hcount, rfl, hid, hpos⟩
    · have hall : ∀ q ∈ Keyed.update (·.id) p.id (setProcessing true) s.od.procs,
          q.processing = true → q = setProcessing true p := by
        intro q hq hqp
        rcases (mem_setProcessing h hp).mp hq with rfl | ⟨hq, hne⟩
        · rfl
        · exact absurd (honly q hq hqp) hne
      intro q hq r hr hqp hrp
      rw [hall q hq hqp, hall r hr hrp]
  | @failed p hen hp hcount hacc =>
    refine hs.clear h hp (.inr ⟨rfl, fun hcur => ?_⟩)
    by_cases hsegs : p.segList = []
    · exact .inl hsegs
    · have hfree := hok.get c hi hen p hp hcount hsegs
      rw [hacc.resolve_right hsegs, if_neg (by decide)] at hfree
      exact .inr fun heq => hfree hcur (heq.symm.trans hcount)

theorem OdSound.finishes (hs : OdSound s.od) (h : s.od.WF) (hok : TransferOk s i)
    (hi : i.event = .notifyCb true .onDemand)
    (hen : s.charNotifyState.onDemandData.enabled = true)
    (hfin : OdFinishes i.accepted s.od v') : OdSound v' := by
  cases hfin with
  | ignored => exact hs
  | completed hcur hp hcount => exact hs.clear h hp (.inr ⟨rfl, fun hne => absurd hcur hne⟩)
  | @advanced cur p hcur hp hid =>
    obtain ⟨q, hq, hcount, hproc, hqid, -⟩ := hs.cursor cur hcur
    obtain rfl := h.eq_of_id hq hp (hqid.trans hid.symm)
    refine ⟨fun cur' hcur' => ?_, hs.single⟩
    obtain ⟨hid', hpos⟩ := nextNode_eq_some hcur'
    exact ⟨q, hq, hcount, hproc, hid', hpos⟩
  | @stopped cur p q hcur hp hid hq hcount hacc =>
    rw [hok.completion hi hen hacc cur hcur p hp hid]
    exact hs.clear h hq (.inl rfl)
  | lost => exact ⟨nofun, hs.single⟩

theorem OdSound.step (hs : OdSound s.od) (h : s.od.WF) (hok : TransferOk s i) :
    OdSound (rasStep s i).od := by
  have hmove := rasStep_od h i
  generalize (rasStep s i).od = v' at hmove ⊢
  cases hmove with
  | keeps _ hsteps => exact hs.steps h hsteps
  | gets hi hget => exact hs.gets h hok hi hget
  | finishes hi hen hfin => exact hs.finishes h hok hi hen hfin
  | clears hi hconn =>
    refine ⟨fun cur hcur => ?_, nofun⟩
    cases (hok.disconnect hi hconn).symm.trans hcur

/-! ## Nothing weaker will do -/

theorem OdSound.transferOk_get {c : Nat} (h : s.od.WF)
    (hget : OdGets s.charNotifyState.onDemandData.enabled i.accepted c s.od v')
    (hs' : OdSound v') (hen : s.charNotifyState.onDemandData.enabled = true)
    (hp : p ∈ s.od.procs) (hcount : p.count = c) (hsegs : p.segList ≠ []) :
    if i.accepted then ∀ q ∈ s.od.procs, q.processing = true → q = p
    else s.onDemandCurrNode ≠ none → s.procedureCount ≠ c := by
  cases hget with
  | ignored hnone => exact absurd hcount (hnone hen p hp)
  | @started p' _ hp' hcount' _ hacc =>
    obtain rfl := h.eq_of_count hp' hp (hcount'.trans hcount.symm)
    rw [hacc, if_pos rfl]
    intro q hq hproc
    -- both would be marked, under different numbers
    by_contra hne
    have heq := hs'.single q ((mem_setProcessing h hp).mpr (.inr ⟨hq, hne⟩)) _
      ((mem_setProcessing h hp).mpr (.inl rfl)) hproc rfl
    have hid : q.id = (setProcessing true p').id := congrArg RasOdProcedure.id heq
    exact hne (h.eq_of_id hq hp hid)
  | @failed p' _ hp' hcount' hacc =>
    obtain rfl := h.eq_of_count hp' hp (hcount'.trans hcount.symm)
    rw [hacc.resolve_right hsegs, if_neg (by decide)]
    intro hcur heq
    obtain ⟨cur, hcur⟩ := Option.ne_none_iff_exists'.mp hcur
    refine not_odSound_clear h hp (hcount.trans heq.symm) (?_ : OdSound ⟨_, some cur, _, _⟩)
    rw [← hcur]
    exact hs'

theorem OdSound.transferOk_completion (hs : OdSound s.od) (h : s.od.WF)
    (hfin : OdFinishes i.accepted s.od v') (hs' : OdSound v') (hacc : i.accepted = false)
    (hcur : s.onDemandCurrNode = some cur) (hp : p ∈ s.od.procs) (hid : p.id = cur.procId) :
    nextNode p cur.pos = none := by
  obtain ⟨r, hr, hrcount, -, hrid, hpos⟩ := hs.cursor cur hcur
  obtain rfl := h.eq_of_id hr hp (hrid.trans hid.symm)
  cases hfin with
  | ignored _ hgone => exact absurd (hgone cur hcur r hr hid) (Nat.not_le.mpr hpos)
  | completed hcur' => cases hcur'.symm.trans hcur
  | advanced _ _ _ hacc' => cases hacc.symm.trans hacc'
  | @stopped cur' p' q hcur' hp' hid' hq hqcount =>
    cases hcur'.symm.trans hcur
    obtain rfl := h.eq_of_id hp' hp (hid'.trans hid.symm)
    by_contra hne
    obtain ⟨next, hnext⟩ := Option.ne_none_iff_exists'.mp hne
    rw [hnext] at hs'
    exact not_odSound_clear h hq hqcount hs'
  | lost _ hnone => exact absurd hrcount (hnone r hr)

theorem OdSound.transferOk (hs : OdSound s.od) (h : s.od.WF)
    (hs' : OdSound (rasStep s i).od) : TransferOk s i := by
  have hmove := rasStep_od h i
  generalize (rasStep s i).od = v' at hmove hs'
  have hother : ∀ {c e}, i.event.getCount = some c → i.event = e → e.getCount = none →
      False := by
    intro c e hget he hnone
    rw [he, hnone] at hget
    cases hget
  cases hmove with
  | keeps hquiet =>
    refine ⟨fun c hi => ?_, fun hi hconn => ?_, fun hi hen => ?_⟩
    · cases hquiet.get.symm.trans hi
    · cases (hquiet.disconnect hi).symm.trans hconn
    · cases (hquiet.completion hi).symm.trans hen
  | gets hi hget =>
    refine ⟨fun c hi' hen p hp hcount hsegs => ?_, fun he => ?_, fun he => ?_⟩
    · cases hi.symm.trans hi'
      exact OdSound.transferOk_get h hget hs' hen hp hcount hsegs
    · exact (hother hi he rfl).elim
    · exact (hother hi he rfl).elim
  | finishes hi hen hfin =>
    refine ⟨fun c hi' => (hother hi' hi rfl).elim, fun he => ?_, ?_⟩
    · cases hi.symm.trans he
    · intro _ _ hacc cur hcur p hp hid
      exact hs.transferOk_completion h hfin hs' hacc hcur hp hid
  | clears hi hconn =>
    refine ⟨fun c hi' => (hother hi' hi rfl).elim, fun _ _ => ?_, fun he => ?_⟩
    · by_contra hne
      obtain ⟨cur, hcur⟩ := Option.ne_none_iff_exists'.mp hne
      obtain ⟨p, hp, -⟩ := hs'.cursor cur hcur
      cases hp
    · cases hi.symm.trans he

theorem od_sound_iff {is : List RasInput} (h : s.od.WF) (hs : OdSound s.od) :
    (∀ t ∈ visited rasStep s is, OdSound t.od) ↔ Guarded rasStep TransferOk s is :=
  forall_visited_iff_guarded
    (fun t (hinv : t.od.WF ∧ OdSound t.od) => hinv.2)
    (fun _ i hinv hok => ⟨rasStep_wf hinv.1 i, hinv.2.step hinv.1 hok⟩)
    (fun _ _ hinv hno hs' => hno (hinv.2.transferOk hinv.1 hs')) ⟨h, hs⟩

/-- **Transfers.** Every state of a run is sound exactly when every step of the
run meets the condition. -/
theorem od_sound_iff_transferOk (is : List RasInput) :
    (∀ t ∈ visited rasStep rasSrvEnabled is, OdSound t.od)
      ↔ Guarded rasStep TransferOk rasSrvEnabled is :=
  od_sound_iff od_wf_rasSrvEnabled ⟨nofun, nofun⟩

def startedTransfer : List RasInput :=
  [⟨.connect, [], []⟩, ⟨.cccWrite .onDemandData [1, 0], [], []⟩,
    ⟨.cccWrite .ctrPt [1, 0], [], []⟩, ⟨.mtuUpdated 13, [], []⟩,
    ⟨.subevent ⟨⟨7, 0, 0, 1, 0, 0, 0, 0, 0, 0, 1⟩, [0, 5, 3, 10, 20, 30]⟩, [], []⟩,
    ⟨.controlPointWrite [0, 7, 0], [], []⟩]

example : Guarded rasStep TransferOk rasSrvEnabled (startedTransfer ++
    [⟨.notifyCb true .onDemand, [], []⟩, ⟨.notifyCb true .onDemand, [], []⟩,
      ⟨.controlPointWrite [1, 7, 0], [], []⟩, ⟨.disconnect, [], []⟩]) := by
  decide +kernel

def nextConnection : List RasInput :=
  [⟨.connect, [], []⟩,
    ⟨.subevent ⟨⟨8, 0, 0, 1, 0, 0, 0, 0, 0, 0, 1⟩, [0, 5, 3, 10, 20, 30]⟩, [], []⟩,
    ⟨.controlPointWrite [2, 8, 0, 0, 0], [], []⟩, ⟨.notifyCb true .onDemand, [], []⟩]

/-- Losing the connection during a transfer leaves the cursor at a freed
segment, and a completion on the next connection reads it. -/
theorem disconnect_leaves_cursor :
    ¬ OdSound (after rasStep rasSrvEnabled (startedTransfer ++ [⟨.disconnect, [], []⟩])).od
      ∧ (after rasStep rasSrvEnabled
          (startedTransfer ++ [⟨.disconnect, [], []⟩] ++ nextConnection)).fault = true := by
  constructor
  · intro h
    obtain ⟨p, hp, -⟩ := h.cursor ⟨0, 1⟩ (by decide +kernel)
    have hnil : (after rasStep rasSrvEnabled
        (startedTransfer ++ [⟨.disconnect, [], []⟩])).od.procs = [] := by
      decide +kernel
    rw [hnil] at hp
    cases hp
  · decide +kernel

end BtFramework
