import BtFramework.GattNotices
import BtFramework.GattRanges

/-!
# The walk through a service

Where a discovery that has gone well so far stands (`Holds`), and how it goes on: through
the includes, through the characteristics, and from characteristic to characteristic in
the loops of the two callbacks. The walk through a service ends in the request for its
last characteristic's descriptors, or, where there is no handle left for them, in the
transition to the next service.
-/

namespace BtFramework.Gattc

open Characteristic List Slots

/-! ## Limits -/

/-- The arrays can hold the database. -/
@[mk_iff]
structure WithinLimits (cfg : Config) (db : Database) : Prop where
  services : db.services.length ≤ cfg.serviceMax
  characteristics : ∀ s ∈ db.services, s.characteristics.length ≤ cfg.charPerServiceMax
  elements : (db.services.flatMap PrimaryService.attributes).length ≤ cfg.elementMax

instance (cfg : Config) (db : Database) : Decidable (WithinLimits cfg db) :=
  decidable_of_iff _ (withinLimits_iff cfg db).symm

def gone (done : List PrimaryService) : Nat :=
  (done.flatMap PrimaryService.attributes).length

theorem WithinLimits.room {cfg : Config} {db : Database} (h : WithinLimits cfg db)
    {done rest : List PrimaryService} {s : PrimaryService}
    (hsplit : db.services = done ++ s :: rest) :
    gone done + s.attributes.length ≤ cfg.elementMax := by
  have hle := h.elements
  rw [hsplit, flatMap_append, flatMap_cons, length_append, length_append] at hle
  rw [gone]
  omega

/-! ## Where a discovery stands -/

def PrimaryService.toService (s : PrimaryService) : Service :=
  ⟨s.handle, s.endHandle, s.uuid⟩

def Characteristic.toElementChar (c : Characteristic) : ElementChar :=
  ⟨c.declHandle, c.valueHandle, c.properties, c.uuid⟩

structure Holds (db : Database) (done : List PrimaryService) (i : Nat)
    (view : List Attribute) (st : State) : Prop where
  atRest : st.request = none
  services : st.inst.service.live = db.services.map PrimaryService.toService
  idx : st.inst.serviceIdx = i
  base : st.inst.currentElementBaseIdx = gone done
  size : st.inst.element.size = gone done + view.length
  gathered : st.gathered = view
  sent : st.sent = done.map PrimaryService.notice

structure Chars (cs : List Characteristic) (i : Nat) (st : State) : Prop where
  live : st.inst.elementChar.live = cs.map Characteristic.toElementChar
  idx : st.inst.elementCharIdx = i

theorem Chars.size {cs : List Characteristic} {i : Nat} {st : State} (h : Chars cs i st) :
    st.inst.elementChar.size = cs.length := by
  rw [← length_live, h.live, length_map]

section Holds

variable {cfg : Config} {db : Database} {done rest : List PrimaryService} {s : PrimaryService}
  {i : Nat} {view : List Attribute} {st : State}

theorem Holds.setChars (h : Holds db done i view st) (n : Nat) (slots : Slots ElementChar) :
    Holds db done i view
      { st with inst.elementCharIdx := n, inst.elementChar := slots } :=
  ⟨h.atRest, h.services, h.idx, h.base, h.size, h.gathered, h.sent⟩

theorem Holds.push (h : Holds db done i view st) {fill : Element → Element} {a : Attribute}
    (hfill : ∀ e, (fill e).toAttribute = a) :
    Holds db done i (view ++ [a])
      { st with inst.element := st.inst.element.push fill } := by
  refine ⟨h.atRest, h.services, h.idx, h.base, ?_, ?_, h.sent⟩
  · rw [length_append, length_singleton, ← Nat.add_assoc, ← h.size]
    rfl
  · rw [gathered_push (by rw [h.base, h.size]; omega), h.gathered, hfill]

theorem gattAllocElement_of_lt (fill : Element → Element)
    (h : st.inst.element.size < cfg.elementMax) :
    gattAllocElement cfg fill st = some { st with inst.element := st.inst.element.push fill } :=
  if_neg (Nat.not_le.mpr h)

theorem currentService_of_split (hsplit : db.services = done ++ s :: rest)
    (h : Holds db done done.length view st) : st.currentService = s.toService := by
  refine cell_of_live ?_
  rw [h.services, h.idx, hsplit]
  simp

theorem service_size (h : Holds db done i view st) : st.inst.service.size = db.services.length := by
  rw [← length_live, h.services, length_map]

theorem btGattDiscover_gather {α : Type} (callback : Option α → State → Iter × State)
    {attr : α → Attribute} (fill : α → Element → Element)
    (hfill : ∀ a e, (fill a e).toAttribute = attr a)
    (hcall : ∀ a st st', gattAllocElement cfg (fill a) st = some st' →
      callback (some a) st = (.cont, st'))
    (attrs : List α) : ∀ {view : List Attribute} {st : State}, Holds db done i view st →
      gone done + view.length + attrs.length ≤ cfg.elementMax →
      ∃ st', btGattDiscover callback attrs st = (callback none st').2 ∧
        Holds db done i (view ++ attrs.map attr) st' ∧
        ∀ {cs j}, Chars cs j st → Chars cs j st' := by
  induction attrs with
  | nil =>
    intro view st h _
    exact ⟨st, rfl, by simpa using h, id⟩
  | cons a attrs ih =>
    intro view st h hroom
    rw [length_cons] at hroom
    have hcont := hcall a st _ (gattAllocElement_of_lt _ (by rw [h.size]; omega))
    obtain ⟨st', hrun, hholds, hchars⟩ := ih (h.push (hfill a)) (by simp; omega)
    refine ⟨st', ?_, by simpa using hholds, fun hc => hchars ⟨hc.live, hc.idx⟩⟩
    rw [btGattDiscover, hcont]
    exact hrun

theorem discChrcCallback_collects (cs : List Characteristic) :
    ∀ {cdone : List Characteristic} {st : State}, Holds db done i view st →
      Chars cdone 0 st → cdone.length + cs.length ≤ cfg.charPerServiceMax →
      ∃ st', btGattDiscover (discChrcCallback cfg) cs st = chrcIter cfg st' ∧
        Holds db done i view st' ∧ Chars (cdone ++ cs) 0 st' := by
  induction cs with
  | nil =>
    intro cdone st h hc _
    exact ⟨st, rfl, h, by simpa using hc⟩
  | cons c cs ih =>
    intro cdone st h hc hroom
    rw [length_cons] at hroom
    have hsize := hc.size
    have hnext : Chars (cdone ++ [c]) 0
        { st with inst.elementChar := st.inst.elementChar.push fun _ => c.toElementChar } :=
      ⟨by rw [live_push, hc.live, map_append, map_singleton], hc.idx⟩
    obtain ⟨st', hrun, hholds, hchars⟩ := ih (h.setChars _ _) hnext (by simp; omega)
    refine ⟨st', ?_, hholds, by simpa using hchars⟩
    rw [btGattDiscover, discChrcCallback, if_neg (by omega)]
    exact hrun

theorem step_discoverIncludeService (h : st.request = none) (lo hi : Nat) :
    step cfg db (discoverIncludeService lo hi st)
      = btGattDiscover (discIncludeCallback cfg) (db.includesIn lo hi) st := by
  cases st
  cases h
  rfl

theorem step_discoverChrc (h : st.request = none) (lo hi : Nat) :
    step cfg db (discoverChrc lo hi st)
      = btGattDiscover (discChrcCallback cfg) (db.characteristicsIn lo hi) st := by
  cases st
  cases h
  rfl

theorem step_discoverDescriptor (h : st.request = none) (lo hi : Nat) :
    step cfg db (discoverDescriptor lo hi st)
      = btGattDiscover (discDescCallback cfg) (db.descriptorsIn lo hi) st := by
  cases st
  cases h
  rfl

end Holds

/-! ## The loop over the characteristics -/

section Loop

variable {cfg : Config} {db : Database} {done rest : List PrimaryService} {s : PrimaryService}
  {view : List Attribute} {st : State} {cdone crest : List Characteristic}
  {c d : Characteristic}
  (hsplit : db.services = done ++ s :: rest)
include hsplit

theorem iterBody_of_room (full next again : State → State)
    (hchars : s.characteristics = cdone ++ c :: crest)
    (h : Holds db done done.length view st) (hc : Chars s.characteristics cdone.length st)
    (hroom : gone done + view.length < cfg.elementMax) :
    ∃ st', iterBody cfg full next again st
        = iterAdvance next again s.toService c.toElementChar st' ∧
      Holds db done done.length (view ++ [c.value]) st' ∧
      Chars s.characteristics cdone.length st' := by
  have hcell : st.inst.elementChar.cell st.inst.elementCharIdx = c.toElementChar := by
    refine cell_of_live ?_
    rw [hc.live, hc.idx, hchars]
    simp
  rw [iterBody, gattAllocElement_of_lt _ (by rw [h.size]; exact hroom), hcell,
    currentService_of_split hsplit h]
  exact ⟨_, rfl, h.push fun _ => rfl, hc.live, hc.idx⟩

variable (next again : State → State)

theorem iterAdvance_gap (hchars : s.characteristics = cdone ++ c :: d :: crest)
    (h : Holds db done done.length view st) (hc : Chars s.characteristics cdone.length st) :
    ∃ st', Holds db done done.length view st' ∧
      Chars s.characteristics (cdone.length + 1) st' ∧
      iterAdvance next again s.toService c.toElementChar st
        = if c.valueHandle + 1 < d.declHandle
          then discoverDescriptor (c.valueHandle + 1) (d.declHandle - 1) st'
          else again st' := by
  have hlt : st.inst.elementCharIdx + 1 < st.inst.elementChar.size := by
    rw [hc.size, hc.idx, hchars]
    simp
  have hcell : st.inst.elementChar.cell (st.inst.elementCharIdx + 1) = d.toElementChar := by
    refine cell_of_live ?_
    rw [hc.live, hc.idx, hchars]
    simp
  have hvd := valueHandle_lt_declHandle hsplit hchars
  have hchars' : s.characteristics = (cdone ++ [c]) ++ d :: crest := by simp [hchars]
  have hd := declHandle_le_65535 hsplit hchars'
  have hstart : (c.valueHandle + 1) % 65536 = c.valueHandle + 1 := by omega
  have hend : (d.declHandle + 65535) % 65536 = d.declHandle - 1 := by omega
  refine ⟨{ st with inst.elementCharIdx := st.inst.elementCharIdx + 1 },
    h.setChars _ st.inst.elementChar, ⟨hc.live, congrArg (· + 1) hc.idx⟩, ?_⟩
  simp only [iterAdvance, if_pos hlt, hcell, toElementChar, hstart, hend,
    gattIsServiceDiscoveryComplete]
  by_cases hgap : c.valueHandle + 1 < d.declHandle
  · rw [if_pos (by omega), if_pos hgap]
  · rw [if_neg (by omega), if_neg hgap]
    simp

omit hsplit in
theorem iterAdvance_last (hchars : s.characteristics = cdone ++ [c])
    (h : Holds db done done.length view st) (hc : Chars s.characteristics cdone.length st) :
    ∃ st', Holds db done (done.length + 1) view st' ∧ Chars [] 0 st' ∧
      iterAdvance next again s.toService c.toElementChar st
        = if (c.valueHandle + 1) % 65536 ≤ s.endHandle
          then discoverDescriptor ((c.valueHandle + 1) % 65536) s.endHandle st'
          else closeService next st' := by
  have hnlt : ¬ st.inst.elementCharIdx + 1 < st.inst.elementChar.size := by
    rw [hc.size, hc.idx, hchars]
    simp
  refine ⟨{ st with
    inst.elementCharIdx := 0
    inst.elementChar := st.inst.elementChar.clear
    inst.serviceIdx := st.inst.serviceIdx + 1 },
    ⟨h.atRest, h.services, congrArg (· + 1) h.idx, h.base, h.size, h.gathered, h.sent⟩,
    ⟨rfl, rfl⟩, ?_⟩
  simp only [iterAdvance, if_neg hnlt, toElementChar,
    PrimaryService.toService, gattIsServiceDiscoveryComplete]
  split
  · rfl
  · simp

def Packed (c d : Characteristic) : Prop :=
  d.declHandle ≤ c.valueHandle + 1

instance : DecidableRel Packed := fun _ _ => inferInstanceAs (Decidable (_ ≤ _))

def walkNext (cfg : Config) (next : State → State) (cs : List Characteristic) : State → State :=
  if cs.IsChain Packed then next else descIterNextService cfg

omit hsplit in
theorem chars_turns (hchars : s.characteristics = cdone ++ c :: crest)
    (hc : Chars s.characteristics cdone.length st) : crest.length < iterTurns st := by
  rw [iterTurns, hc.size, hc.idx, hchars, length_append, length_cons]
  omega

omit hsplit in
theorem walkNext_of_gap (next : State → State) (hgap : c.valueHandle + 1 < d.declHandle) :
    walkNext cfg next (c :: d :: crest) = walkNext cfg (descIterNextService cfg) (d :: crest) := by
  have hnot : ¬ (c :: d :: crest).IsChain Packed := by
    rw [isChain_cons_cons]
    exact fun hp => Nat.not_le.mpr hgap hp.1
  rw [walkNext, walkNext, if_neg hnot, ite_self]

omit hsplit in
theorem walkNext_of_packed (next : State → State) (hp : Packed c d) :
    walkNext cfg next (c :: d :: crest) = walkNext cfg next (d :: crest) := by
  simp only [walkNext, isChain_cons_cons, and_iff_right hp]

theorem gap_reaches (cfg : Config) (hchars : s.characteristics = cdone ++ c :: d :: crest)
    (h : Holds db done (done.length) view st)
    (hc : Chars s.characteristics (cdone ++ [c]).length st)
    (hroom : gone done + view.length + c.descriptors.length ≤ cfg.elementMax) :
    ∃ st', Holds db done done.length (view ++ c.descriptors.map Descriptor.attribute) st' ∧
      Chars s.characteristics (cdone ++ [c]).length st' ∧
      ∀ {st''}, Reaches cfg db (descIter cfg st') st'' →
        Reaches cfg db (discoverDescriptor (c.valueHandle + 1) (d.declHandle - 1) st) st'' := by
  obtain ⟨st', hgather, h', hkeep⟩ := btGattDiscover_gather (discDescCallback cfg)
    (fun a _ => ⟨a.attribute, a.perm⟩) (fun _ _ => rfl)
    (fun _ _ _ halloc => by rw [discDescCallback]; exact halloc ▸ rfl) c.descriptors h hroom
  have hc' := hkeep hc
  have hcall : discDescCallback cfg none st' = (.stop, descIter cfg st') := by
    rw [discDescCallback, if_neg]
    simp [gattIsServiceDiscoveryComplete, hc'.idx]
  refine ⟨st', h', hc', fun hreach => Reaches.head ?_⟩
  rw [step_discoverDescriptor h.atRest, descriptorsIn_gap hsplit hchars, hgather, hcall]
  exact hreach

theorem iterLoop_reaches {last : Characteristic}
    (hlast : s.characteristics.getLast? = some last) (crest : List Characteristic) :
    ∀ (full next : State → State) {cdone : List Characteristic} {c : Characteristic}
      {view : List Attribute} {st : State} {n : Nat},
      s.characteristics = cdone ++ c :: crest → Holds db done done.length view st →
      Chars s.characteristics cdone.length st →
      gone done + view.length + ((c :: crest).flatMap Characteristic.attributes).length
        ≤ cfg.elementMax → crest.length < n →
      ∃ st' w, Holds db done (done.length + 1) w st' ∧ Chars [] 0 st' ∧
        w ++ last.descriptors.map Descriptor.attribute
          = view ++ (c :: crest).flatMap Characteristic.attributes ∧
        Reaches cfg db (iterLoop cfg full next n st)
          (if (last.valueHandle + 1) % 65536 ≤ s.endHandle
            then discoverDescriptor ((last.valueHandle + 1) % 65536) s.endHandle st'
            else closeService (walkNext cfg next (c :: crest)) st') := by
  induction crest with
  | nil =>
    intro full next cdone c view st n hchars h hc hroom hn
    cases n with
    | zero => omega
    | succ n =>
      have hcl : c = last := by simpa [hchars] using hlast
      subst hcl
      simp only [flatMap_cons, flatMap_nil, append_nil, attributes, length_cons] at hroom
      have hlt : gone done + view.length < cfg.elementMax := by omega
      obtain ⟨st₁, hbody, h₁, hc₁⟩ := iterBody_of_room hsplit full next
        (iterLoop cfg full next n) hchars h hc hlt
      obtain ⟨st₂, h₂, hc₂, hadv⟩ := iterAdvance_last next (iterLoop cfg full next n) hchars h₁ hc₁
      refine ⟨st₂, _, h₂, hc₂, by simp [attributes], ?_⟩
      rw [iterLoop, hbody, hadv, walkNext, if_pos (isChain_singleton c)]
      exact Reaches.refl
  | cons d crest ih =>
    intro full next cdone c view st n hchars h hc hroom hn
    have hchars' : s.characteristics = (cdone ++ [c]) ++ d :: crest := by simp [hchars]
    have hlen : (cdone ++ [c]).length = cdone.length + 1 := by simp
    cases n with
    | zero => omega
    | succ n =>
      rw [flatMap_cons, length_append, attributes, length_cons, length_map] at hroom
      have hlt : gone done + view.length < cfg.elementMax := by omega
      obtain ⟨st₁, hbody, h₁, hc₁⟩ := iterBody_of_room hsplit full next
        (iterLoop cfg full next n) hchars h hc hlt
      obtain ⟨st₂, h₂, hc₂, hadv⟩ :=
        iterAdvance_gap hsplit next (iterLoop cfg full next n) hchars h₁ hc₁
      rw [← hlen] at hc₂
      rw [iterLoop, hbody, hadv]
      by_cases hgap : c.valueHandle + 1 < d.declHandle
      · obtain ⟨st₃, h₃, hc₃, hover⟩ := gap_reaches hsplit cfg hchars h₂ hc₂
          (by simp only [length_append, length_singleton]; omega)
        obtain ⟨st', w, h', hc', hw, hreach⟩ := ih id
          (descIterNextService cfg) hchars' h₃ hc₃
          (by simp only [length_append, length_singleton, length_map]; omega)
          (chars_turns hchars' hc₃)
        refine ⟨st', w, h', hc', by simpa [attributes] using hw, ?_⟩
        rw [if_pos hgap, walkNext_of_gap next hgap]
        exact hover hreach
      · have hpacked : Packed c d := Nat.not_lt.mp hgap
        have hnil := descriptors_eq_nil_of_packed hsplit hchars hpacked
        obtain ⟨st', w, h', hc', hw, hreach⟩ := ih full next hchars' h₂ hc₂
          (by rw [length_append, length_singleton]; omega) (Nat.lt_of_succ_lt_succ hn)
        refine ⟨st', w, h', hc', by simpa [attributes, hnil] using hw, ?_⟩
        rw [if_neg hgap, walkNext_of_packed next hpacked]
        exact hreach

end Loop

end BtFramework.Gattc
