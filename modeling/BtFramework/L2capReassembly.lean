import BtFramework.Runs
import BtFramework.L2capChannel

/-!
# Reassembly of L2CAP SDUs

Reassembly shares its state with the credit and abort logic, and an SDU that arrives in one
segment takes a path of its own. `Awaits` relates the SDU in progress to the segments still to
come and to the SDUs they produce.
-/

namespace BtFramework

open List Runs

/-! ## Segment streams -/

structure CutOf (mps : Nat) (sdu got : List UInt8) (segs : List L2capSegment) :
    Prop where
  bytes : got ++ (segs.map (·.data)).flatten = sdu
  piece : ∀ s ∈ segs, s.data ≠ [] ∧ s.data.length ≤ mps ∧ s.sduLen = sdu.length

/-- The SDU cut into segments, with their offsets. -/
structure SegmentsOf (mps : Nat) (sdu : List UInt8) (segs : List L2capSegment) :
    Prop where
  cut : CutOf mps sdu [] segs
  offsets : ∃ first later, segs = first :: later ∧ first.segOff = 0 ∧ ∀ s ∈ later, 0 < s.segOff

inductive Awaits (mps mtu : Nat) :
    Option L2capPkt → List L2capSegment → List (List UInt8) → Prop where
  | done : Awaits mps mtu none [] []
  | idle {sdu sdus segs rest} (hmtu : sdu.length ≤ mtu) (hne : segs ≠ [])
      (hcut : CutOf mps sdu [] segs) (hrest : Awaits mps mtu none rest sdus) :
      Awaits mps mtu none (segs ++ rest) (sdu :: sdus)
  | midway {p sdu sdus segs rest} (hmtu : sdu.length ≤ mtu) (hne : segs ≠ [])
      (htotal : p.lenTotal = sdu.length) (hrecv : p.lenReceived = p.data.length)
      (hcut : CutOf mps sdu p.data segs) (hrest : Awaits mps mtu none rest sdus) :
      Awaits mps mtu (some p) (segs ++ rest) (sdu :: sdus)

variable {got sdu : List UInt8} {s : L2capSegment} {segs : List L2capSegment}
  {sdus : List (List UInt8)}

theorem CutOf.tail {mps : Nat} (h : CutOf mps sdu got (s :: segs)) :
    CutOf mps sdu (got ++ s.data) segs where
  bytes := by simpa using h.bytes
  piece := fun t ht => h.piece t (mem_cons_of_mem _ ht)

theorem CutOf.length_le {mps : Nat} (h : CutOf mps sdu got segs) : got.length ≤ sdu.length := by
  rw [← h.bytes, length_append]
  exact Nat.le_add_right _ _

theorem CutOf.length_eq_iff {mps : Nat} (h : CutOf mps sdu got segs) :
    got.length = sdu.length ↔ segs = [] := by
  constructor
  · intro hlen
    cases segs with
    | nil => rfl
    | cons s rest =>
      have hpos := length_pos_iff.mpr (h.piece s (mem_cons_self ..)).1
      have := congrArg List.length h.bytes
      simp only [map_cons, flatten_cons, length_append] at this
      omega
  · rintro rfl
    have := h.bytes
    simp only [map_nil, flatten_nil, append_nil] at this
    rw [this]

theorem awaits_of_segmentsOf {mps mtu : Nat} :
    ∀ {sdus : List (List UInt8)} {segss : List (List L2capSegment)},
      (∀ sdu ∈ sdus, sdu.length ≤ mtu) → List.Forall₂ (SegmentsOf mps) sdus segss →
      Awaits mps mtu none segss.flatten sdus
  | [], _, _, .nil => .done
  | sdu :: sdus, _, hmtu, .cons hsegs hrest => by
      obtain ⟨first, later, rfl, -, -⟩ := hsegs.offsets
      exact .idle (hmtu sdu (mem_cons_self ..)) (cons_ne_nil _ _) hsegs.cut
        (awaits_of_segmentsOf (fun s hs => hmtu s (mem_cons_of_mem _ hs)) hrest)

def InProgress (sdu got : List UInt8) : Option L2capPkt → Prop
  | none => got = []
  | some p => p.data = got ∧ p.lenTotal = sdu.length ∧ p.lenReceived = got.length

theorem Awaits.next {mps mtu : Nat} {p : Option L2capPkt} {stream : List L2capSegment}
    (h : Awaits mps mtu p (s :: stream) sdus) :
    ∃ sdu sdus' got later rest, sdus = sdu :: sdus' ∧ stream = later ++ rest
      ∧ sdu.length ≤ mtu ∧ InProgress sdu got p
      ∧ CutOf mps sdu got (s :: later) ∧ Awaits mps mtu none rest sdus' := by
  generalize hl : s :: stream = l at h
  cases h with
  | done => cases hl
  | @idle sdu sdus' segs rest hmtu hne hcut hrest =>
    cases segs with
    | nil => exact absurd rfl hne
    | cons s' later =>
      obtain ⟨rfl, rfl⟩ := List.cons.inj hl
      exact ⟨sdu, sdus', [], later, rest, rfl, rfl, hmtu, rfl, hcut, hrest⟩
  | @midway p sdu sdus' segs rest hmtu hne htotal hrecv hcut hrest =>
    cases segs with
    | nil => exact absurd rfl hne
    | cons s' later =>
      obtain ⟨rfl, rfl⟩ := List.cons.inj hl
      exact ⟨sdu, sdus', p.data, later, rest, rfl, rfl, hmtu, ⟨rfl, htotal, hrecv⟩, hcut, hrest⟩

/-! ## The data path -/

structure RxReady (mps mtu : Nat) (ch : L2capChannel) : Prop where
  pipe : ch.pipe = true
  proxy : ch.proxyConnected = true
  cid : l2capCidDynamicMin ≤ ch.localCid
  leMps : ch.incoming.leMps = mps
  mtu : ch.incoming.mtu = mtu

def SameRxPath (ch ch' : L2capChannel) : Prop :=
  ch'.localCid = ch.localCid ∧ ch'.incoming.leMps = ch.incoming.leMps
    ∧ ch'.incoming.mtu = ch.incoming.mtu ∧ ch'.pipe = ch.pipe
    ∧ ch'.proxyConnected = ch.proxyConnected ∧ ch'.rxSdu = ch.rxSdu
    ∧ ch'.written = ch.written

variable {env : L2capEnv} {ch ch' : L2capChannel} {mps mtu : Nat}

theorem RxReady.of_same (h : RxReady mps mtu ch) (hs : SameRxPath ch ch') :
    RxReady mps mtu ch' := by
  obtain ⟨hcid, hmps, hmtu, hpipe, hproxy, -, -⟩ := hs
  exact ⟨hpipe.trans h.pipe, hproxy.trans h.proxy, hcid ▸ h.cid,
    hmps.trans h.leMps, hmtu.trans h.mtu⟩

theorem l2capRefillCredits_same (env : L2capEnv) (ch : L2capChannel) :
    SameRxPath ch (l2capRefillCredits env ch) := by
  simp only [l2capRefillCredits, l2capAddIncomingCredits]
  split
  · split
    · exact ⟨rfl, rfl, rfl, rfl, rfl, rfl, rfl⟩
    · split <;> exact ⟨rfl, rfl, rfl, rfl, rfl, rfl, rfl⟩
  · exact ⟨rfl, rfl, rfl, rfl, rfl, rfl, rfl⟩

theorem l2capTakeIn_same (env : L2capEnv) (ch : L2capChannel) (packet : L2capPkt) :
    SameRxPath ch (l2capTakeIn env ch packet) :=
  l2capRefillCredits_same env { ch with
    incoming := { ch.incoming with credits := ch.incoming.credits - 1 }
    rxBufSize := (ch.rxBufSize + 65536 - packet.lenReceived) % 65536 }

theorem l2capSendSduToAppCb_same (env : L2capEnv) (ch : L2capChannel) :
    SameRxPath ch (l2capSendSduToAppCb env true ch) := by
  unfold l2capSendSduToAppCb
  split
  · exact ⟨rfl, rfl, rfl, rfl, rfl, rfl, rfl⟩
  split
  next h => cases h
  split
  · exact ⟨rfl, rfl, rfl, rfl, rfl, rfl, rfl⟩
  · exact l2capRefillCredits_same _ _

/-! ## One segment -/

theorem awaits_after_segment {p : L2capPkt} {later rest : List L2capSegment}
    (hready : RxReady mps mtu ch) (hwrite : env.pipeWrite = true) (hmtu : sdu.length ≤ mtu)
    (htotal : p.lenTotal = sdu.length) (hrecv : p.lenReceived = p.data.length)
    (hcut : CutOf mps sdu p.data later) (hrest : Awaits mps mtu none rest sdus)
    (hch' : ch' = if p.lenReceived = p.lenTotal then l2capSendSduToApp env ch p
      else { ch with rxSdu := some p }) :
    ∃ out sdus', sdu :: sdus = out ++ sdus' ∧ ch'.written = ch.written ++ out
      ∧ RxReady mps mtu ch' ∧ Awaits mps mtu ch'.rxSdu (later ++ rest) sdus' := by
  by_cases hfull : p.lenReceived = p.lenTotal
  · have hlen : p.data.length = sdu.length := by omega
    have hlater := hcut.length_eq_iff.mp hlen
    subst hlater
    have hdata : p.data = sdu := by simpa using hcut.bytes
    simp only [if_pos hfull, l2capSendSduToApp, hwrite, Bool.not_true,
      Bool.false_eq_true, if_false] at hch'
    subst hch'
    refine ⟨[sdu], sdus, rfl, ?_, ⟨hready.pipe, hready.proxy, hready.cid,
      hready.leMps, hready.mtu⟩, hrest⟩
    rw [htotal, hdata, take_length]
  · have hlater : later ≠ [] := by
      intro h
      have := hcut.length_eq_iff.mpr h
      omega
    rw [if_neg hfull] at hch'
    subst hch'
    exact ⟨[], sdu :: sdus, rfl, by simp, ⟨hready.pipe, hready.proxy, hready.cid,
      hready.leMps, hready.mtu⟩, .midway hmtu hlater htotal hrecv hcut hrest⟩

theorem RxReady.exists_packet (hready : RxReady mps mtu ch) (halloc : env.alloc = true)
    (hcredits : 0 < ch.incoming.credits) (hne : s.data ≠ []) (hmps : s.data.length ≤ mps)
    (hsdu : s.data.length ≤ s.sduLen) (hmtu : s.sduLen ≤ mtu) :
    ∃ packet, l2capRxStep ch (.segment env s)
        = l2capReassemble env (l2capTakeIn env ch packet) packet
      ∧ packet.lenTotal = s.sduLen ∧ packet.lenReceived = s.data.length
      ∧ packet.data = s.data := by
  obtain ⟨packet, hpacket, htotal, hrecv, hdata⟩ : ∃ packet,
      l2capOnSegmentReceived env ch.localCid s.data s.sduLen s.segOff = some packet
        ∧ packet.lenTotal = s.sduLen ∧ packet.lenReceived = s.data.length
        ∧ packet.data = s.data := by
    have hpos := length_pos_iff.mpr hne
    have hcid := hready.cid
    unfold l2capOnSegmentReceived
    rw [if_neg (by omega), if_neg (by omega), if_neg (by omega), halloc]
    exact ⟨_, rfl, rfl, rfl, rfl⟩
  refine ⟨packet, ?_, htotal, hrecv, hdata⟩
  have hmps' := hready.leMps
  have hmtu' := hready.mtu
  rw [l2capRxStep, hpacket]
  dsimp only
  rw [handlePacketReceived, if_neg (by omega), if_neg (by omega),
    if_neg (by omega), hready.proxy, hready.pipe]
  rfl

/-- **One segment** of an awaited stream, with a credit left. -/
theorem awaits_segment {stream : List L2capSegment} (hready : RxReady mps mtu ch)
    (halloc : env.alloc = true) (hwrite : env.pipeWrite = true)
    (hcredits : 0 < ch.incoming.credits) (hawait : Awaits mps mtu ch.rxSdu (s :: stream) sdus)
    (hch' : ch' = l2capRxStep ch (.segment env s)) :
    ∃ out sdus', sdus = out ++ sdus' ∧ ch'.written = ch.written ++ out
      ∧ RxReady mps mtu ch' ∧ Awaits mps mtu ch'.rxSdu stream sdus' := by
  obtain ⟨sdu, sdus', got, later, rest, rfl, rfl, hmtu, hprog, hcut, hrest⟩ := hawait.next
  obtain ⟨hne, hmps, hlen⟩ := hcut.piece s (mem_cons_self ..)
  have hgot := hcut.tail.length_le
  rw [length_append] at hgot
  obtain ⟨packet, htaken, htotal, hrecv, hdata⟩ :=
    hready.exists_packet halloc hcredits hne hmps (by omega) (by omega)
  rw [hlen] at htotal
  have hstep := hch'.trans htaken
  have hsame := l2capTakeIn_same env ch packet
  have hready' := hready.of_same hsame
  obtain ⟨-, -, -, -, -, hsdu, hwritten⟩ := hsame
  rw [← hwritten]
  rw [l2capReassemble, hsdu] at hstep
  cases hrx : ch.rxSdu with
  | none =>
    rw [hrx] at hprog hstep
    have hgot' : got = [] := hprog
    subst hgot'
    exact awaits_after_segment hready' hwrite hmtu htotal (by rw [hdata, hrecv])
      (by simpa [hdata] using hcut.tail) hrest hstep
  | some p =>
    rw [hrx] at hprog hstep
    obtain ⟨rfl, hptotal, hprecv⟩ := hprog
    dsimp only at hstep
    rw [if_neg (by omega)] at hstep
    refine awaits_after_segment
      (p := { p with
        data := p.data ++ packet.data
        lenReceived := p.lenReceived + packet.lenReceived })
      hready' hwrite hmtu hptotal ?_ ?_ hrest hstep
    · simp [hprecv, hrecv, hdata]
    · simpa [hdata] using hcut.tail

/-! ## Whole runs -/

def L2capRxEvent.segment? : L2capRxEvent → Option L2capSegment
  | .segment _ seg => some seg
  | .writeDone _ _ => none

/-- There is memory, and the pipe takes the SDUs. -/
def L2capRxEvent.Succeeds : L2capRxEvent → Prop
  | .segment env _ => env.alloc = true ∧ env.pipeWrite = true
  | .writeDone _ statusOk => statusOk = true

/-- The peer keeps to its credits. -/
def HasCredit (ch : L2capChannel) (e : L2capRxEvent) : Prop :=
  e.segment?.isSome → 0 < ch.incoming.credits
deriving Decidable

theorem awaits_run {es : List L2capRxEvent} (hready : RxReady mps mtu ch)
    (hok : ∀ e ∈ es, e.Succeeds) (hcredits : Guarded l2capRxStep HasCredit ch es)
    (hawait : Awaits mps mtu ch.rxSdu (es.filterMap (·.segment?)) sdus) :
    (after l2capRxStep ch es).written = ch.written ++ sdus
      ∧ (after l2capRxStep ch es).rxSdu = none := by
  induction es generalizing ch sdus with
  | nil =>
    rw [filterMap_nil] at hawait
    -- an empty stream is awaited only by an idle channel that owes nothing
    generalize hl : ([] : List L2capSegment) = l at hawait
    generalize hp : ch.rxSdu = p at hawait
    cases hawait with
    | done => exact ⟨(append_nil _).symm, hp⟩
    | idle _ hne | midway _ hne => exact absurd (append_eq_nil_iff.mp hl.symm).1 hne
  | cons e es ih =>
    obtain ⟨hcredit, hcredits⟩ := hcredits
    have hok' := fun e' he' => hok e' (mem_cons_of_mem e he')
    have he := hok e (mem_cons_self ..)
    rw [after_cons]
    cases e with
    | segment env seg =>
      obtain ⟨out, sdus', rfl, hwritten, hready', hawait'⟩ :=
        awaits_segment hready he.1 he.2 (hcredit rfl) hawait rfl
      obtain ⟨hrun, hsdu⟩ := ih hready' hok' hcredits hawait'
      rw [hrun, hwritten, append_assoc]
      exact ⟨rfl, hsdu⟩
    | writeDone env statusOk =>
      cases he
      have hsame := l2capSendSduToAppCb_same env ch
      have hready' := hready.of_same hsame
      obtain ⟨-, -, -, -, -, hsdu, hwritten⟩ := hsame
      rw [← hwritten]
      refine ih hready' hok' hcredits ?_
      rw [l2capRxStep, hsdu]
      exact hawait

/-- **Reassembly is exact.** SDUs within the MTU, cut into non-empty segments within the MPS in
any way, with completions and credit grants anywhere between them and a credit left at each
segment: the buffers written are the SDUs, in order, and none is left in progress. -/
theorem reassembly_exact (ch : L2capChannel) (hpipe : ch.pipe = true)
    (hproxy : ch.proxyConnected = true) (hcid : l2capCidDynamicMin ≤ ch.localCid)
    (hidle : ch.rxSdu = none) (sdus : List (List UInt8))
    (hsdus : ∀ sdu ∈ sdus, sdu ≠ [] ∧ sdu.length ≤ ch.incoming.mtu)
    (segss : List (List L2capSegment))
    (hsegss : List.Forall₂ (SegmentsOf ch.incoming.leMps) sdus segss)
    (es : List L2capRxEvent) (hes : es.filterMap (·.segment?) = segss.flatten)
    (hok : ∀ e ∈ es, e.Succeeds)
    (hcredits : Guarded l2capRxStep HasCredit ch es) :
    (after l2capRxStep ch es).written = ch.written ++ sdus
      ∧ (after l2capRxStep ch es).rxSdu = none := by
  refine awaits_run ⟨hpipe, hproxy, hcid, rfl, rfl⟩ hok hcredits ?_
  rw [hidle, hes]
  exact awaits_of_segmentsOf (fun sdu h => (hsdus sdu h).2) hsegss

def twoSduEvents : List L2capRxEvent :=
  [.segment ⟨true, false, true⟩ ⟨[1, 2], 3, 0⟩,
    .segment ⟨true, true, true⟩ ⟨[3], 3, 2⟩,
    .writeDone ⟨true, true, true⟩ true,
    .segment ⟨true, true, true⟩ ⟨[4], 1, 0⟩]

def smallChannel : L2capChannel :=
  connectedChannel 0x40 true true
    { transport := .ble, mtu := 64, leMps := 32, initCredits := 4 }

theorem twoSduEvents_written :
    (after l2capRxStep smallChannel twoSduEvents).written = [[1, 2, 3], [4]]
      ∧ (after l2capRxStep smallChannel twoSduEvents).rxSdu = none := by
  refine reassembly_exact smallChannel rfl rfl (by decide) rfl [[1, 2, 3], [4]]
    (by decide) [[⟨[1, 2], 3, 0⟩, ⟨[3], 3, 2⟩], [⟨[4], 1, 0⟩]] ?_ twoSduEvents
    rfl ?_ (by decide)
  · refine .cons ⟨⟨rfl, by decide⟩, _, _, rfl, rfl, by decide⟩ (.cons ?_ .nil)
    exact ⟨⟨rfl, by decide⟩, _, _, rfl, rfl, by decide⟩
  · intro e he
    simp only [twoSduEvents, mem_cons, not_mem_nil, or_false] at he
    rcases he with rfl | rfl | rfl | rfl
    · exact ⟨rfl, rfl⟩
    · exact ⟨rfl, rfl⟩
    · rfl
    · exact ⟨rfl, rfl⟩

end BtFramework
