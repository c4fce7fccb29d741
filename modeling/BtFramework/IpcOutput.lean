import BtFramework.IpcServer
import BtFramework.Runs

/-!
# The output stream of the service

Whatever the socket takes of each packet, the bytes it has taken, followed by those still
cached, are the packets that were sent. `Ready` is the state of a connection on which nothing
has failed; each function that sends keeps it and moves bytes from the cache to the wire.
-/

namespace BtFramework.Ipc

open List

variable {n : Nat}

/-- A send takes bytes, or none for now. -/
def SendResult.Benign (r : SendResult) : Prop := r ≠ .error ∧ r ≠ .sent 0
deriving Decidable

def Sock.Benign (s : Sock) : Prop := ∀ r ∈ s.results, r.Benign

def unsent (queue : List (PacketCache n)) : List UInt8 :=
  queue.flatMap fun cache => cache.packet.bytes.drop cache.offset

def Instance.buffered (ins : Instance n) : List UInt8 := unsent ins.msgQueue

/-- It waits for the socket to become writable. -/
def Instance.Armed (ins : Instance n) : Prop := ∃ poll, ins.poll = some poll ∧ poll.writable

structure Instance.Ready (ins : Instance n) : Prop where
  attached : ins.attached = true
  polled : ∃ poll, ins.poll = some poll ∧ poll.readable
  armed : ins.msgQueue ≠ [] → ins.Armed
  offset_lt : ∀ cache ∈ ins.msgQueue, cache.offset < sizeofPacket n

theorem ready_newInstance : (newInstance : Instance n).Ready where
  attached := rfl
  polled := ⟨_, rfl, rfl⟩
  armed := fun h => absurd rfl h
  offset_lt := nofun

/-! ## One call -/

variable {s : Sock} {ins : Instance n}

theorem sendInternal_benign {bytes : List UInt8} (hs : s.Benign) (hne : bytes ≠ []) :
    ∃ k s', sendInternal bytes s = (some k, s') ∧ s'.Benign ∧ k ≤ bytes.length
      ∧ s'.wire = s.wire ++ bytes.take k := by
  obtain ⟨results, wire⟩ := s
  cases results with
  | nil => exact ⟨0, _, rfl, hs, Nat.zero_le _, by simp⟩
  | cons r rs =>
    have hrs : ∀ r ∈ rs, r.Benign := fun r hr => hs r (mem_cons_of_mem _ hr)
    have hr := hs r (mem_cons_self ..)
    cases r with
    | again => exact ⟨0, _, rfl, hrs, Nat.zero_le _, by simp⟩
    | error => exact absurd rfl hr.1
    | sent k =>
      have hk : k ≠ 0 := fun h => hr.2 (by rw [h])
      have hlen := length_pos_iff.mpr hne
      have hpos : ¬ min k bytes.length = 0 := by omega
      exact ⟨min k bytes.length, ⟨rs, wire ++ bytes.take (min k bytes.length)⟩,
        by simp only [sendInternal, if_neg hpos], hrs, Nat.min_le_right _ _, rfl⟩

theorem length_drop_bytes (cache : PacketCache n) :
    (cache.packet.bytes.drop cache.offset).length = sizeofPacket n - cache.offset := by
  rw [length_drop, cache.packet.length_bytes]

theorem flushQueue_benign {queue : List (PacketCache n)} (hs : s.Benign)
    (hoff : ∀ cache ∈ queue, cache.offset < sizeofPacket n) :
    ∃ queue' s', flushQueue queue s = (true, queue', s') ∧ s'.Benign
      ∧ s'.wire ++ unsent queue' = s.wire ++ unsent queue
      ∧ ∀ cache ∈ queue', cache.offset < sizeofPacket n := by
  induction queue generalizing s with
  | nil => exact ⟨[], s, rfl, hs, rfl, hoff⟩
  | cons cache caches ih =>
    have hlt := hoff cache (mem_cons_self ..)
    have hrest : ∀ c ∈ caches, c.offset < sizeofPacket n :=
      fun c hc => hoff c (mem_cons_of_mem _ hc)
    have hlen := length_drop_bytes cache
    have hne : cache.packet.bytes.drop cache.offset ≠ [] := length_pos_iff.mp (by omega)
    obtain ⟨k, s₁, hsend, hs₁, hk, hwire⟩ := sendInternal_benign hs hne
    by_cases hall : k = sizeofPacket n - cache.offset
    · obtain ⟨queue', s', hflush, hs', hbytes, hoff'⟩ := ih hs₁ hrest
      refine ⟨queue', s', ?_, hs', ?_, hoff'⟩
      · simp only [flushQueue, hsend, hall, ne_eq, not_true_eq_false, if_false, hflush]
      · rw [hbytes, hwire, take_of_length_le (by omega)]
        simp only [unsent, flatMap_cons, append_assoc]
    · refine ⟨{ cache with offset := cache.offset + k } :: caches, s₁,
        by simp only [flushQueue, hsend, ne_eq, hall, not_false_eq_true, if_true], hs₁, ?_, ?_⟩
      · rw [hwire]
        simp only [unsent, flatMap_cons, append_assoc]
        rw [← drop_drop, ← append_assoc (List.take _ _), take_append_drop]
      · intro c hc
        rcases mem_cons.mp hc with rfl | hc
        · show cache.offset + k < sizeofPacket n
          omega
        · exact hrest c hc

structure Sent (ins : Instance n) (s : Sock) (bytes : List UInt8) (ins' : Instance n)
    (s' : Sock) : Prop where
  ready : ins'.Ready
  benign : s'.Benign
  bytes : s'.wire ++ ins'.buffered = s.wire ++ ins.buffered ++ bytes
  packet : ins'.packet = ins.packet

theorem trysend_sent (hins : ins.Ready) (hs : s.Benign) :
    ∃ ok ins' s', trysend ins s = (ok, ins', s') ∧ Sent ins s [] ins' s'
      ∧ (ok = true → ins'.msgQueue = []) := by
  obtain ⟨queue, s', hflush, hs', hbytes, hoff⟩ := flushQueue_benign hs hins.offset_lt
  obtain ⟨poll, hpoll, hread⟩ := hins.polled
  have hbytes' : s'.wire ++ unsent queue = s.wire ++ ins.buffered ++ [] := by
    rw [append_nil, hbytes, Instance.buffered]
  unfold trysend
  rw [hflush, hpoll]
  dsimp only
  by_cases hq : queue = []
  · subst hq
    by_cases hold : ins.msgQueue = []
    · rw [if_neg (by simp), if_neg (by simpa using hold)]
      exact ⟨_, _, _, rfl, ⟨⟨hins.attached, ⟨_, rfl, hread⟩, fun h => absurd rfl h, hoff⟩, hs',
        hbytes', rfl⟩, fun _ => rfl⟩
    · rw [if_neg (by simp), if_pos hold]
      exact ⟨_, _, _, rfl, ⟨⟨hins.attached, ⟨_, rfl, rfl⟩, fun h => absurd rfl h, hoff⟩, hs',
        hbytes', rfl⟩, fun _ => rfl⟩
  · rw [if_pos hq]
    exact ⟨_, _, _, rfl, ⟨⟨hins.attached, ⟨_, rfl, rfl⟩, fun _ => ⟨_, rfl, rfl⟩, hoff⟩, hs',
      hbytes', rfl⟩, fun h => absurd h (by decide)⟩

theorem Packet.bytes_ne_nil (p : Packet n) : p.bytes ≠ [] := by
  refine length_pos_iff.mp ?_
  rw [p.length_bytes]
  exact sizeofPacket_pos n

theorem Sent.cache {ins' : Instance n} {s' s'' : Sock} (h : Sent ins s [] ins' s')
    (hs : s''.Benign) (packet : Packet n) {ret : Nat} (hret : ret < sizeofPacket n)
    (hwire : s''.wire ++ ins'.buffered = s'.wire ++ ins'.buffered ++ packet.bytes.take ret) :
    Sent ins s packet.bytes { ins' with
      msgQueue := ins'.msgQueue ++ [⟨ret, packet⟩], poll := some ⟨true, true⟩ } s'' where
  ready := by
    exact ⟨h.ready.attached, ⟨_, rfl, rfl⟩, fun _ => ⟨_, rfl, rfl⟩,
      forall_mem_append.mpr ⟨h.ready.offset_lt, forall_mem_singleton.mpr hret⟩⟩
  benign := hs
  bytes := by
    have hunsent : unsent (ins'.msgQueue ++ [⟨ret, packet⟩])
        = ins'.buffered ++ packet.bytes.drop ret := by
      simp [unsent, Instance.buffered]
    have hbytes := h.bytes
    rw [append_nil] at hbytes
    show s''.wire ++ unsent (ins'.msgQueue ++ [⟨ret, packet⟩]) = _
    rw [hunsent, ← append_assoc, hwire, hbytes, append_assoc, take_append_drop]
  packet := h.packet

theorem send_sent (hins : ins.Ready) (hs : s.Benign) (packet : Packet n) (code : UInt32) :
    ∃ ins' s', send ins packet code true s = (true, ins', s')
      ∧ Sent ins s (packet.setCode code).bytes ins' s' := by
  obtain ⟨ok, ins₁, s₁, htry, hsent, hempty⟩ := trysend_sent hins hs
  have hpoll : ins₁.poll.isSome := by
    obtain ⟨poll, hpoll, -⟩ := hsent.ready.polled
    rw [hpoll]
    rfl
  unfold send
  rw [hins.attached, htry]
  cases ok with
  | false =>
    have hpos := sizeofPacket_pos n
    simp only [Bool.not_true, Bool.false_eq_true, if_false, hpoll, Bool.and_true,
      decide_eq_true_eq, if_pos hpos.ne, ne_eq, if_true]
    exact ⟨_, _, rfl, hsent.cache hsent.benign _ hpos (by simp)⟩
  | true =>
    have hnil : ins₁.buffered = [] := by rw [Instance.buffered, hempty rfl]; rfl
    obtain ⟨k, s₂, hsend, hs₂, hk, hwire⟩ :=
      sendInternal_benign hsent.benign (packet.setCode code).bytes_ne_nil
    rw [(packet.setCode code).length_bytes] at hk
    simp only [Bool.not_true, Bool.false_eq_true, if_false, if_true, hsend,
      hpoll, Bool.and_true, decide_eq_true_eq, ne_eq]
    by_cases hall : k = sizeofPacket n
    · rw [if_neg (by simpa using hall)]
      refine ⟨_, _, rfl, hsent.ready, hs₂, ?_, hsent.packet⟩
      have hbytes := hsent.bytes
      rw [hnil, append_nil, append_nil] at hbytes
      rw [hnil, append_nil, hwire, hbytes, hall,
        take_of_length_le (packet.setCode code).length_bytes.le]
    · rw [if_pos hall]
      refine ⟨_, _, rfl, hsent.cache hs₂ _ (by omega) ?_⟩
      rw [hnil, append_nil, append_nil, hwire]

variable (config : Group → Bool)

theorem handleEvent_writable (hins : ins.Ready) (hs : s.Benign) :
    ∃ ins' s', handleEvent config ins ⟨false, true, false, false⟩ .again [] true s
        = some (ins', s') ∧ Sent ins s [] ins' s' := by
  obtain ⟨ok, ins', s', htry, hsent, -⟩ := trysend_sent hins hs
  refine ⟨ins', s', ?_, hsent⟩
  simp [handleEvent, htry]

theorem handleEvent_readable_part {bytes : List UInt8}
    (hpart : (ins.packet ++ bytes).length ≠ sizeofPacket n) (body : List UInt8) (mem : Bool)
    (s : Sock) :
    handleEvent config ins ⟨true, false, false, false⟩
        (if bytes = [] then .again else .data bytes) body mem s
      = some ({ ins with packet := ins.packet ++ bytes }, s) := by
  by_cases hnil : bytes = []
  · simp [handleEvent, receive, hnil]
  · rw [if_neg hnil]
    simp only [handleEvent, receive, dif_neg hpart, Bool.or_false, Bool.false_eq_true, if_false,
      if_true]

theorem handleEvent_readable_full (hins : ins.Ready) (hs : s.Benign) {bytes : List UInt8}
    (hne : bytes ≠ []) (hfull : (ins.packet ++ bytes).length = sizeofPacket n)
    (hserves : serves config (Packet.mk _ hfull).code = true) (body : List UInt8) :
    ∃ ins' s', handleEvent config ins ⟨true, false, false, false⟩
        (if bytes = [] then .again else .data bytes) body true s = some (ins', s')
      ∧ Sent { ins with packet := [] } s
        (((Packet.mk _ hfull).setBody body).setCode (Packet.mk _ hfull).code).bytes ins' s' := by
  have hready : Instance.Ready { ins with packet := [] } :=
    ⟨hins.attached, hins.polled, hins.armed, hins.offset_lt⟩
  obtain ⟨ins', s', hsend, hsent⟩ := send_sent hready hs
    ((Packet.mk _ hfull).setBody body) (Packet.mk _ hfull).code
  refine ⟨ins', s', ?_, hsent⟩
  rw [if_neg hne]
  simp only [handleEvent, receive, dif_pos hfull, if_pos hserves, hsend, Bool.or_false,
    Bool.false_eq_true, if_false, if_true]

/-! ## Calls and writable events -/

/-- The instance, and what the socket has taken. -/
structure Output (n : Nat) where
  ins : Instance n
  accepted : List UInt8

def Output.start : Output n := ⟨newInstance, []⟩

/-- A packet is sent, or the socket is writable again. -/
inductive OutputEvent (n : Nat) where
  | send (packet : Packet n) (code : UInt32) (mem : Bool) (results : List SendResult)
  | writable (results : List SendResult)

def Output.step (config : Group → Bool) (st : Output n) : OutputEvent n → Output n
  | .send packet code mem results =>
    let (_, ins, s) := Ipc.send st.ins packet code mem ⟨results, []⟩
    ⟨ins, st.accepted ++ s.wire⟩
  | .writable results =>
    match handleEvent config st.ins ⟨false, true, false, false⟩ .again [] true ⟨results, []⟩ with
    | none => st
    | some (ins, s) => ⟨ins, st.accepted ++ s.wire⟩

namespace OutputEvent

def bytes : OutputEvent n → List UInt8
  | .send packet code _ _ => (packet.setCode code).bytes
  | .writable _ => []

def Benign : OutputEvent n → Prop
  | .send _ _ mem results => mem = true ∧ ∀ r ∈ results, r.Benign
  | .writable results => ∀ r ∈ results, r.Benign

end OutputEvent

structure Output.Carries (st : Output n) (sent : List UInt8) : Prop where
  ready : st.ins.Ready
  bytes : st.accepted ++ st.ins.buffered = sent

theorem Output.Carries.sent {st : Output n} {sent bytes : List UInt8} (h : st.Carries sent)
    {rs : List SendResult} (hsent : Sent st.ins ⟨rs, []⟩ bytes ins s) :
    Output.Carries ⟨ins, st.accepted ++ s.wire⟩ (sent ++ bytes) where
  ready := hsent.ready
  bytes := by
    have hbytes := hsent.bytes
    rw [nil_append] at hbytes
    rw [append_assoc, hbytes, ← append_assoc, h.bytes]

theorem Output.Carries.step {st : Output n} {sent : List UInt8} {e : OutputEvent n}
    (h : st.Carries sent) (he : e.Benign) : (st.step config e).Carries (sent ++ e.bytes) := by
  cases e with
  | send packet code mem results =>
    obtain ⟨rfl, hresults⟩ := he
    obtain ⟨ins, s, hsend, hsent⟩ := send_sent (s := ⟨results, []⟩) h.ready hresults packet code
    simp only [Output.step, hsend]
    exact h.sent hsent
  | writable results =>
    obtain ⟨ins, s, hevent, hsent⟩ := handleEvent_writable config (s := ⟨results, []⟩) h.ready he
    simp only [Output.step, hevent]
    exact h.sent hsent

/-- What the socket has taken and what waits for it is what was sent, and nothing
waits unless the writable event is armed. -/
theorem accepted_append_buffered (config : Group → Bool) {es : List (OutputEvent n)}
    (hes : ∀ e ∈ es, e.Benign) :
    (Runs.after (Output.step config) Output.start es).accepted
        ++ (Runs.after (Output.step config) Output.start es).ins.buffered
        = es.flatMap OutputEvent.bytes
      ∧ ((Runs.after (Output.step config) Output.start es).ins.msgQueue ≠ [] →
        (Runs.after (Output.step config) Output.start es).ins.Armed) := by
  have hrun : (Runs.after (Output.step config) Output.start es).Carries
      (es.flatMap OutputEvent.bytes) := by
    induction es using List.reverseRecOn with
    | nil => exact ⟨ready_newInstance, rfl⟩
    | append_singleton es e ih =>
      rw [Runs.after_concat, flatMap_append]
      simp only [flatMap_cons, flatMap_nil, append_nil]
      exact (ih fun e he => hes e (mem_append_left _ he)).step config
        (hes e (mem_append_right _ (mem_singleton_self e)))
  exact ⟨hrun.bytes, hrun.ready.armed⟩

/-- Of a first packet the socket takes seven bytes, then nothing, so that a second
one waits behind it; then the rest of the first and a part of the second. -/
theorem two_packets_cut :
    (∀ e ∈ [OutputEvent.send (Packet.zero 4) 22 true [.sent 7],
        .send (Packet.zero 4) 23 true [.again], .writable [.sent 9, .sent 3]], e.Benign)
      ∧ (Runs.after (Output.step fun _ => true) Output.start
          [OutputEvent.send (Packet.zero 4) 22 true [.sent 7],
            .send (Packet.zero 4) 23 true [.again], .writable [.sent 9, .sent 3]]).accepted
          ++ (Runs.after (Output.step fun _ => true) Output.start
            [OutputEvent.send (Packet.zero 4) 22 true [.sent 7],
              .send (Packet.zero 4) 23 true [.again], .writable [.sent 9, .sent 3]]).ins.buffered
          = ((Packet.zero 4).setCode 22).bytes ++ ((Packet.zero 4).setCode 23).bytes := by
  have hes : ∀ e ∈ [OutputEvent.send (Packet.zero 4) 22 true [.sent 7],
      .send (Packet.zero 4) 23 true [.again], .writable [.sent 9, .sent 3]], e.Benign := by
    simp [OutputEvent.Benign, SendResult.Benign]
  exact ⟨hes, (accepted_append_buffered (fun _ => true) hes).1⟩

end BtFramework.Ipc
