import BtFramework.L2capCredits
import BtFramework.L2capReassembly

/-!
# The length of a received SDU

A segment comes with its bytes, the length of its SDU and its offset, all from the peer. It is
copied into a packet with room for the whole SDU if the offset is 0 and for the segment alone
otherwise, and the packet becomes the SDU in progress or is appended to it. Whether there is
room is never asked.
-/

namespace BtFramework

open List Runs

/-! ## Packets -/

structure L2capPkt.Within (p : L2capPkt) : Prop where
  announced : p.lenReceived ≤ p.lenTotal
  reserved : p.data.length ≤ p.dataLen
  counted : p.data.length = p.lenReceived

structure L2capPkt.Filling (p : L2capPkt) : Prop where
  incomplete : p.lenReceived < p.lenTotal
  room : p.lenTotal ≤ p.dataLen
  counted : p.data.length = p.lenReceived

theorem L2capPkt.Filling.within {p : L2capPkt} (h : p.Filling) : p.Within where
  announced := Nat.le_of_lt h.incomplete
  reserved := by
    have := h.incomplete
    have := h.room
    have := h.counted
    omega
  counted := h.counted

variable {env : L2capEnv} {ch ch' : L2capChannel} {packet : L2capPkt} {seg : L2capSegment}

theorem l2capOnSegmentReceived_some
    (h : l2capOnSegmentReceived env ch.localCid seg.data seg.sduLen seg.segOff = some packet) :
    packet.lenTotal = seg.sduLen ∧ packet.lenReceived = seg.data.length
      ∧ packet.dataLen = (if seg.segOff ≠ 0 then seg.data.length else seg.sduLen)
      ∧ packet.data = seg.data ∧ seg.data.length ≠ 0
      ∧ (seg.sduLen = 0 ∨ seg.data.length ≤ seg.sduLen) := by
  unfold l2capOnSegmentReceived at h
  split at h
  · cases h
  next hne =>
    split at h
    · cases h
    split at h
    · cases h
    next hfits =>
      split at h
      · cases h
      · cases h
        exact ⟨rfl, rfl, rfl, rfl, hne, by omega⟩

/-! ## One segment -/

@[simp] theorem l2capAbortChannel_rxSdu : (l2capAbortChannel ch).rxSdu = ch.rxSdu := by
  simp only [l2capAbortChannel]
  split <;> split <;> rfl

@[simp] theorem l2capAbortChannel_written : (l2capAbortChannel ch).written = ch.written := by
  simp only [l2capAbortChannel]
  split <;> split <;> rfl

def announcedLength (ch : L2capChannel) (seg : L2capSegment) : Nat :=
  ch.rxSdu.elim seg.sduLen (·.lenTotal)

def receivedLength (ch : L2capChannel) : Nat := ch.rxSdu.elim 0 (·.lenReceived)

def Aborted (ch ch' : L2capChannel) : Prop := ch'.pipe = false ∧ ch'.written = ch.written

inductive Appended (ch : L2capChannel) (seg : L2capSegment) : L2capChannel → Prop where
  | aborted {next : L2capChannel} (h : Aborted ch next)
      (hsdu : next.rxSdu = ch.rxSdu ∨ next.rxSdu = none) : Appended ch seg next
  | kept {next : L2capChannel} {p : L2capPkt} (hsdu : next.rxSdu = some p) (hp : p.Filling)
      (hwritten : next.written = ch.written)
      (hfits : receivedLength ch + seg.data.length ≤ announcedLength ch seg) :
      Appended ch seg next
  | handed {next : L2capChannel} {w : List UInt8} (hsdu : next.rxSdu = none)
      (hwritten : next.written = ch.written ++ [w]) (hlen : w.length = announcedLength ch seg)
      (hfits : receivedLength ch + seg.data.length ≤ announcedLength ch seg) :
      Appended ch seg next

theorem appended_sendSduToApp {sdu : L2capPkt} (hwritten : ch'.written = ch.written)
    (hfull : sdu.data.length = sdu.lenTotal) (htotal : sdu.lenTotal = announcedLength ch seg)
    (hfits : receivedLength ch + seg.data.length ≤ announcedLength ch seg) :
    Appended ch seg (l2capSendSduToApp env ch' sdu) := by
  unfold l2capSendSduToApp
  split
  · exact .aborted ⟨l2capAbortChannel_pipe, l2capAbortChannel_written.trans hwritten⟩
      (.inr l2capAbortChannel_rxSdu)
  · refine .handed rfl (congrArg (· ++ _) hwritten) ?_ hfits
    rw [length_take, hfull, Nat.min_self, htotal]

theorem appended_reassemble (hfilling : ∀ p ∈ ch.rxSdu, p.Filling)
    (htotal : packet.lenTotal = seg.sduLen) (hlen : packet.lenReceived = seg.data.length)
    (hdata : packet.data = seg.data)
    (hfirst : ch.rxSdu = none → seg.data.length ≤ seg.sduLen ∧ packet.lenTotal ≤ packet.dataLen) :
    Appended ch seg (l2capReassemble env (l2capTakeIn env ch packet) packet) := by
  obtain ⟨-, -, -, -, -, hsdu, hwritten⟩ := l2capTakeIn_same env ch packet
  unfold l2capReassemble
  rw [hsdu]
  cases hrx : ch.rxSdu with
  | none =>
    obtain ⟨hfits, hroom⟩ := hfirst hrx
    have hann : announcedLength ch seg = seg.sduLen := by rw [announcedLength, hrx]; rfl
    have hrec : receivedLength ch = 0 := by rw [receivedLength, hrx]; rfl
    dsimp only
    split
    next hcomplete =>
      exact appended_sendSduToApp hwritten (by rw [hdata]; omega) (by omega) (by omega)
    next hpart =>
      exact .kept rfl ⟨by omega, hroom, by rw [hdata]; omega⟩ hwritten (by omega)
  | some sdu =>
    obtain ⟨hpart, hroom, hcounted⟩ := hfilling sdu hrx
    have hann : announcedLength ch seg = sdu.lenTotal := by rw [announcedLength, hrx]; rfl
    have hrec : receivedLength ch = sdu.lenReceived := by rw [receivedLength, hrx]; rfl
    dsimp only
    split
    · refine .aborted ⟨l2capAbortChannel_pipe, ?_⟩ (.inr l2capAbortChannel_rxSdu)
      exact l2capAbortChannel_written.trans hwritten
    next hfits =>
      have hgrown : (sdu.data ++ packet.data).length = sdu.lenReceived + packet.lenReceived := by
        rw [length_append, hdata]
        omega
      split
      next hcomplete =>
        exact appended_sendSduToApp hwritten (hgrown.trans hcomplete) hann.symm (by omega)
      next hpart' =>
        exact .kept rfl ⟨Nat.lt_of_le_of_ne (Nat.le_of_not_lt hfits) hpart', hroom, hgrown⟩
          hwritten (by omega)

/-- A segment with offset 0 announces a length at all, and an SDU starts with offset 0. -/
def Announces (ch : L2capChannel) : L2capRxEvent → Prop
  | .segment _ seg => (seg.segOff = 0 → 0 < seg.sduLen) ∧ (ch.rxSdu = none → seg.segOff = 0)
  | .writeDone _ _ => True

instance (ch : L2capChannel) (e : L2capRxEvent) : Decidable (Announces ch e) := by
  cases e <;> unfold Announces <;> infer_instance

theorem segment_appended (hfilling : ∀ p ∈ ch.rxSdu, p.Filling)
    (hann : Announces ch (.segment env seg)) :
    l2capRxStep ch (.segment env seg) = ch
      ∨ Appended ch seg (l2capRxStep ch (.segment env seg)) := by
  have habort : Appended ch seg (l2capAbortChannel ch) :=
    .aborted ⟨l2capAbortChannel_pipe, l2capAbortChannel_written⟩ (.inl l2capAbortChannel_rxSdu)
  rw [l2capRxStep]
  cases hposted : l2capOnSegmentReceived env ch.localCid seg.data seg.sduLen seg.segOff with
  | none => exact .inl rfl
  | some packet =>
    obtain ⟨htotal, hlen, hroom, hdata, hne, hfits⟩ := l2capOnSegmentReceived_some hposted
    dsimp only
    unfold handlePacketReceived
    split
    · exact .inr habort
    split
    · exact .inr habort
    split
    · exact .inr habort
    split
    · exact .inl rfl
    · refine .inr (appended_reassemble hfilling htotal hlen hdata fun hnone => ?_)
      have hoff := hann.2 hnone
      have hpos := hann.1 hoff
      rw [if_neg (not_not.mpr hoff)] at hroom
      omega

/-! ## Whole runs -/

/-- The posted packet holds the copy of its segment; the SDU in progress is within its bounds;
what is handed to the application has the announced length; a segment that would outgrow it is
dropped or aborts the channel. -/
structure KeepsSduLength (ch : L2capChannel) (env : L2capEnv) (seg : L2capSegment) : Prop where
  posted : ∀ packet ∈ l2capOnSegmentReceived env ch.localCid seg.data seg.sduLen seg.segOff,
    packet.data.length ≤ packet.dataLen
  within : ∀ p ∈ (l2capRxStep ch (.segment env seg)).rxSdu, p.Within
  handed : ∀ w, (l2capRxStep ch (.segment env seg)).written = ch.written ++ [w] →
    w.length = announcedLength ch seg
  refused : announcedLength ch seg < receivedLength ch + seg.data.length →
    l2capRxStep ch (.segment env seg) = ch ∨ Aborted ch (l2capRxStep ch (.segment env seg))

theorem posted_of_announces (hann : Announces ch (.segment env seg)) :
    ∀ packet ∈ l2capOnSegmentReceived env ch.localCid seg.data seg.sduLen seg.segOff,
      packet.data.length ≤ packet.dataLen := by
  intro packet hposted
  obtain ⟨-, -, hroom, hdata, -, hfits⟩ := l2capOnSegmentReceived_some hposted
  rw [hroom, hdata]
  split
  · exact Nat.le_refl _
  next hoff =>
    have := hann.1 (not_not.mp hoff)
    omega

theorem keepsSduLength_of_announces (hfilling : ∀ p ∈ ch.rxSdu, p.Filling)
    (hann : Announces ch (.segment env seg)) : KeepsSduLength ch env seg := by
  have hposted := posted_of_announces hann
  have hself : ∀ w : List UInt8, ch.written ≠ ch.written ++ [w] := fun w h => by
    have := congrArg List.length h
    rw [length_append, length_singleton] at this
    omega
  rcases segment_appended hfilling hann with hdrop | happ
  · refine ⟨hposted, ?_, ?_, fun _ => .inl hdrop⟩
    · rw [hdrop]
      exact fun p hp => (hfilling p hp).within
    · rw [hdrop]
      exact fun w hw => absurd hw (hself w)
  cases happ with
  | aborted h hsdu =>
    refine ⟨hposted, ?_, fun w hw => absurd (h.2.symm.trans hw) (hself w), fun _ => .inr h⟩
    rcases hsdu with hsdu | hsdu
    · rw [hsdu]
      exact fun p hp => (hfilling p hp).within
    · rw [hsdu]
      exact fun p hp => nomatch hp
  | kept hsdu hp hwritten hfits =>
    refine ⟨hposted, ?_, fun w hw => absurd (hwritten.symm.trans hw) (hself w), fun hbad => ?_⟩
    · rw [hsdu]
      rintro p ⟨⟩
      exact hp.within
    · omega
  | handed hsdu hwritten hlen hfits =>
    refine ⟨hposted, ?_, fun w hw => ?_, fun hbad => ?_⟩
    · rw [hsdu]
      exact fun p hp => nomatch hp
    · have := append_cancel_left (hwritten.symm.trans hw)
      cases this
      exact hlen
    · omega

theorem l2capSendSduToAppCb_rxSdu (env : L2capEnv) (statusOk : Bool) (ch : L2capChannel) :
    (l2capSendSduToAppCb env statusOk ch).rxSdu = ch.rxSdu := by
  cases statusOk with
  | true =>
    obtain ⟨-, -, -, -, -, hsdu, -⟩ := l2capSendSduToAppCb_same env ch
    exact hsdu
  | false =>
    unfold l2capSendSduToAppCb
    split
    · rfl
    · exact l2capAbortChannel_rxSdu

theorem filling_step {e : L2capRxEvent} (hfilling : ∀ p ∈ ch.rxSdu, p.Filling)
    (hann : Announces ch e) : ∀ p ∈ (l2capRxStep ch e).rxSdu, p.Filling := by
  cases e with
  | writeDone env statusOk =>
    rw [l2capRxStep, l2capSendSduToAppCb_rxSdu]
    exact hfilling
  | segment env seg =>
    intro p hp
    rcases segment_appended hfilling hann with hdrop | happ
    · exact hfilling p (hdrop ▸ hp)
    cases happ with
    | aborted _ hsdu =>
      rcases hsdu with hsdu | hsdu
      · exact hfilling p (hsdu ▸ hp)
      · rw [hsdu] at hp
        cases hp
    | kept hsdu hkept =>
      rw [hsdu] at hp
      cases hp
      exact hkept
    | handed hsdu =>
      rw [hsdu] at hp
      cases hp

/-- No copy runs out of its block. -/
def HandledWithinLength (ch : L2capChannel) : L2capRxEvent → Prop
  | .segment env seg => KeepsSduLength ch env seg
  | .writeDone _ _ => True

/-- **SDU length.** If each segment announces its SDU as it should, no SDU outgrows the announced
length or its block, every SDU handed on has that length, and a segment that does not fit is
dropped or aborts the channel. -/
theorem segments_keep_sdu_length (ch : L2capChannel) (hidle : ch.rxSdu = none)
    (es : List L2capRxEvent) (h : Guarded l2capRxStep Announces ch es) :
    Guarded l2capRxStep HandledWithinLength ch es := by
  have hkeep : ∀ ch e, (∀ p ∈ ch.rxSdu, p.Filling) → Announces ch e →
      ∀ p ∈ (l2capRxStep ch e).rxSdu, p.Filling := fun _ _ => filling_step
  refine h.steps hkeep (fun ch e hfilling hann => ?_) (by rw [hidle]; exact fun p hp => nomatch hp)
  cases e with
  | segment env seg => exact keepsSduLength_of_announces hfilling hann
  | writeDone env statusOk => trivial

theorem twoSduEvents_keep_length :
    Guarded l2capRxStep Announces smallChannel twoSduEvents
      ∧ Guarded l2capRxStep HandledWithinLength smallChannel twoSduEvents :=
  ⟨by decide, segments_keep_sdu_length smallChannel rfl twoSduEvents (by decide)⟩

def lengthlessSegment : L2capRxEvent := .segment ⟨true, true, true⟩ ⟨[1, 2], 0, 0⟩

def shortBlock : List L2capRxEvent :=
  [.segment ⟨true, true, true⟩ ⟨[1, 2], 4, 1⟩, .segment ⟨true, true, true⟩ ⟨[3], 4, 3⟩]

/-- The first is copied into a packet with no room at all. The second SDU has a block of two bytes
and three bytes in it. Neither channel is aborted. -/
theorem segments_outgrow_their_blocks :
    ¬Guarded l2capRxStep HandledWithinLength smallChannel [lengthlessSegment]
      ∧ (l2capRxStep smallChannel lengthlessSegment).rxSdu.map
          (fun p => (p.lenReceived, p.lenTotal, p.dataLen)) = some (2, 0, 0)
      ∧ (l2capRxStep smallChannel lengthlessSegment).pipe = true
      ∧ ¬Guarded l2capRxStep HandledWithinLength smallChannel shortBlock
      ∧ (after l2capRxStep smallChannel shortBlock).rxSdu.map
          (fun p => (p.lenReceived, p.lenTotal, p.dataLen)) = some (3, 4, 2)
      ∧ (after l2capRxStep smallChannel shortBlock).pipe = true := by
  refine ⟨fun h => ?_, by decide, by decide, fun h => ?_, by decide, by decide⟩
  · have hposted := h.1.posted _ rfl
    exact absurd hposted (by decide)
  · have hreserved := (h.2.1.within _ rfl).reserved
    exact absurd hreserved (by decide)

end BtFramework
