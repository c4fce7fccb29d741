import BtFramework.IpcLink

/-!
# Replies and callbacks, end to end

A packet whose code is a `BT_IPC_CODE` is neither reply nor callback to the client and stops it,
and callbacks of groups that `callback_map` does not have are dropped. Otherwise each request's
reply callback runs once, with its own reply and in order, and each callback is dispatched once.
-/

namespace BtFramework.Ipc

open Framing Instance Link List Runs

variable {n : Nat} {ρ : Type*}

/-! ## What a run has issued and sent -/

namespace LinkEvent

def issues : LinkEvent n ρ → List (Packet n × Context ρ)
  | .request packet code reply ptr written =>
    if ptr ≠ 0 ∧ written = true then
      [((packet.setCode code).setContext ptr, ⟨ptr, reply⟩)]
    else []
  | _ => []

def callbacks : LinkEvent n ρ → List (Packet n)
  | .callback packet code _ _ => [packet.setCode code]
  | _ => []

/-- The client knows the codes of what the event brings. -/
def CodeKnown (config : Group → Bool) (e : LinkEvent n ρ) : Prop :=
  (∀ i ∈ e.issues, messageCodes.check i.1.code = true)
    ∧ ∀ p ∈ e.callbacks, (Delivery.callback p).Known config
deriving Decidable

end LinkEvent

variable {st : Link n ρ} {config : Group → Bool}

/-- A client that has failed stays so; until then every event issues and sends its own. -/
theorem Link.step_log (config : Group → Bool) (st : Link n ρ) (e : LinkEvent n ρ) :
    (st.client.failed = true → (st.step config e).client.failed = true)
      ∧ (st.client.failed = false → (st.step config e).issued = st.issued ++ e.issues)
      ∧ (st.step config e).sent.filterMap Delivery.callback?
        = st.sent.filterMap Delivery.callback? ++ e.callbacks := by
  cases e <;>
    simp only [step, request, Client.sendWithReply, serverReads, record, serverWrites, callback,
      clientReads, LinkEvent.issues, LinkEvent.callbacks] <;>
    (repeat' split) <;> simp_all [Delivery.callback?]

theorem issued_after (config : Group → Bool) {es : List (LinkEvent n ρ)}
    (hrun : (after (step config) start es).client.failed = false) :
    (after (step config) start es).issued = es.flatMap LinkEvent.issues := by
  induction es using List.reverseRecOn with
  | nil => rfl
  | append_singleton es e ih =>
    rw [after_concat] at hrun ⊢
    have hbefore : (after (step config) start es).client.failed = false := by
      rw [Bool.eq_false_iff]
      intro hfailed
      rw [(step_log config _ e).1 hfailed] at hrun
      cases hrun
    rw [(step_log config _ e).2.1 hbefore, ih hbefore, flatMap_append]
    simp

theorem callbacks_after (config : Group → Bool) (es : List (LinkEvent n ρ)) :
    (after (step config) start es).sent.filterMap Delivery.callback?
      = es.flatMap LinkEvent.callbacks := by
  induction es using List.reverseRecOn with
  | nil => rfl
  | append_singleton es e ih =>
    rw [after_concat, (step_log config _ e).2.2, ih, flatMap_append]
    simp

/-! ## Replies and callbacks -/

/-- Nothing is under way or buffered. -/
structure Link.Drained (st : Link n ρ) : Prop where
  out : st.out = []
  toServer : st.toServer = []
  buffered : st.server.buffered = []
  toClient : st.toClient = []

/-- The client has called the reply callbacks of the first requests, each with its own reply, and
has dispatched the first callbacks; all of them once nothing is under way. -/
structure Link.Faithful (requests : List (Packet n × Context ρ)) (callbacks : List (Packet n))
    (st : Link n ρ) : Prop where
  asserted : st.client.failed = false
  served : st.served.map Prod.fst <+: requests.map Prod.fst
  own : ∀ s ∈ st.served, s.2.code = s.1.code ∧ s.2.context = s.1.context
  replies : ∃ k ≤ st.served.length,
    st.client.replies = ((requests.zip (st.served.map Prod.snd)).take k).filterMap ran
      ∧ st.client.pending = (requests.drop k).map Prod.snd
  dispatched : st.client.dispatched.map Prod.snd <+: callbacks
  all : st.Drained → st.served.map Prod.fst = requests.map Prod.fst
    ∧ st.client.replies = (requests.zip (st.served.map Prod.snd)).filterMap ran
    ∧ st.client.dispatched.map Prod.snd = callbacks

section Streams

variable {config : Group → Bool} {st : Link n ρ} {handled : List (Delivery n)}

theorem Link.Wired.handled_of_drained (h : st.Wired config handled) (hd : st.Drained) :
    handled = st.sent := by
  have hdown := h.downstream
  rw [hd.toClient, hd.buffered] at hdown
  exact hdown.drained Delivery.length_bytes h.clientPart

theorem Link.Wired.served_of_drained (h : st.Wired config handled) (hd : st.Drained) :
    st.served.map Prod.fst = st.issued.map Prod.fst := by
  have hup := h.upstream
  rw [hd.toServer, hd.out] at hup
  exact hup.drained Packet.length_bytes h.serverPart

theorem Link.Wired.code_of_reply (h : st.Wired config handled) {p : Packet n}
    (hp : Delivery.reply p ∈ st.sent) : ∃ i ∈ st.issued, p.code = i.1.code := by
  have hserved : p ∈ st.served.map Prod.snd := by
    rw [← h.replies]
    exact mem_filterMap.mpr ⟨_, hp, rfl⟩
  obtain ⟨s, hs, rfl⟩ := mem_map.mp hserved
  obtain ⟨qs, hissued, -⟩ := h.upstream
  have hfst : s.1 ∈ st.issued.map Prod.fst := by
    rw [hissued]
    exact mem_append_left _ (mem_map_of_mem hs)
  obtain ⟨i, hi, hcode⟩ := mem_map.mp hfst
  exact ⟨i, hi, by rw [(h.own s hs).1, hcode]⟩

theorem Link.Sound.accounts (h : st.Sound config)
    (hissued : ∀ i ∈ st.issued, messageCodes.check i.1.code = true)
    (hcallbacks : ∀ p ∈ st.sent.filterMap Delivery.callback?, (Delivery.callback p).Known config) :
    ∃ handled, st.Wired config handled ∧ st.Accounts config handled := by
  obtain ⟨handled, hw, hlost | hacc⟩ := h
  · obtain ⟨d, hd, hunknown⟩ := hlost.unknown
    obtain ⟨qs, hsent, -⟩ := hw.downstream
    have hmem : d ∈ st.sent := by rw [hsent]; exact mem_append_left _ hd
    cases d with
    | reply p =>
      obtain ⟨i, hi, hcode⟩ := hw.code_of_reply hmem
      exact absurd (by rw [Delivery.Known, hcode]; exact hissued i hi) hunknown
    | callback p =>
      exact absurd (hcallbacks p (mem_filterMap.mpr ⟨_, hmem, rfl⟩)) hunknown
  · exact ⟨handled, hw, hacc⟩

theorem Link.Accounts.faithful (h : st.Accounts config handled) (hw : st.Wired config handled) :
    st.Faithful st.issued (st.sent.filterMap Delivery.callback?) := by
  obtain ⟨answered, waiting, hissued, hlen, hpending, hreplies⟩ := h.requests
  obtain ⟨todo, hsent, -⟩ := id hw.downstream
  have hserved : st.served.map Prod.snd
      = handled.filterMap Delivery.reply? ++ todo.filterMap Delivery.reply? := by
    rw [← hw.replies, hsent, filterMap_append]
  have hzip : (st.issued.zip (st.served.map Prod.snd)).take answered.length
      = answered.zip (handled.filterMap Delivery.reply?) := by
    rw [hissued, hserved, zip_append hlen, take_left']
    rw [length_zip, hlen, Nat.min_self]
  have hle : answered.length ≤ st.served.length := by
    have hcount := congrArg List.length hserved
    rw [length_map, length_append] at hcount
    omega
  obtain ⟨qs, hup, -⟩ := id hw.upstream
  refine ⟨h.asserted, ⟨qs, hup.symm⟩, hw.own, ⟨answered.length, hle, by rw [hzip, hreplies], ?_⟩,
    ⟨todo.filterMap Delivery.callback?, ?_⟩, fun hd => ?_⟩
  · rw [hissued, drop_left, hpending]
  · rw [h.dispatched, hsent, filterMap_append]
  · have hall := hw.handled_of_drained hd
    refine ⟨hw.served_of_drained hd, ?_, by rw [h.dispatched, hall]⟩
    rw [hreplies, ← hzip, take_of_length_le]
    rw [length_zip, hlen, hall, hw.replies]
    exact Nat.min_le_right _ _

theorem Link.Wired.reply_mem_sent (h : st.Wired config handled) {s : Packet n × Packet n}
    (hs : s ∈ st.served) : Delivery.reply s.2 ∈ st.sent := by
  have hreply : s.2 ∈ st.sent.filterMap Delivery.reply? := by
    rw [h.replies]
    exact mem_map_of_mem hs
  obtain ⟨_ | _, hd, ⟨⟩⟩ := mem_filterMap.mp hreply
  exact hd

theorem callback_mem_sent {sent : List (Delivery n)} {p : Packet n}
    (h : p ∈ sent.filterMap Delivery.callback?) : Delivery.callback p ∈ sent := by
  obtain ⟨_ | _, hd, ⟨⟩⟩ := mem_filterMap.mp h
  exact hd

theorem Link.Sound.known_of_drained (h : st.Sound config) (hd : st.Drained)
    (hrun : st.client.failed = false)
    (hall : st.client.dispatched.length = (st.sent.filterMap Delivery.callback?).length) :
    ∀ d ∈ st.sent, d.Known config := by
  obtain ⟨handled, hw, hlost | hacc⟩ := h
  · rcases hlost.undone with hfailed | hlt
    · rw [hrun] at hfailed
      cases hfailed
    · rw [hw.handled_of_drained hd] at hlt
      omega
  · rw [← hw.handled_of_drained hd]
    exact hacc.known

end Streams

/-! ## Bytes under way arrive -/

def Link.weight (st : Link n ρ) : Nat :=
  5 * st.out.length + 4 * st.toServer.length + 3 * st.server.packet.length
    + 2 * st.server.buffered.length + st.toClient.length

theorem chunk_ne_nil {part stream : List UInt8} (hpart : part.length < sizeofPacket n)
    (hne : stream ≠ []) : 0 < (Link.chunk n part stream (sizeofPacket n)).length := by
  have hpos := length_pos_iff.mpr hne
  rw [chunk, length_take]
  omega

theorem sock_trysend (ins : Instance n) (s : Sock) :
    (trysend ins s).2.2 = (flushQueue ins.msgQueue s).2.2 := by
  unfold trysend
  dsimp only
  split
  · rfl
  · split <;> rfl

theorem wire_trysend {ins : Instance n} (hins : ins.Ready) (hne : ins.buffered ≠ []) :
    (trysend ins ⟨[.sent (sizeofPacket n)], []⟩).2.2.wire ≠ [] := by
  rw [sock_trysend]
  cases hq : ins.msgQueue with
  | nil => exact absurd (by rw [buffered, hq]; rfl) hne
  | cons cache caches =>
    have hlt := hins.offset_lt cache (by rw [hq]; exact mem_cons_self ..)
    have hlen := length_drop_bytes cache
    have hmin : min (sizeofPacket n) (cache.packet.bytes.drop cache.offset).length
        = sizeofPacket n - cache.offset := by omega
    have hfirst : sendInternal (cache.packet.bytes.drop cache.offset)
        ⟨[.sent (sizeofPacket n)], []⟩
        = (some (sizeofPacket n - cache.offset), ⟨[], cache.packet.bytes.drop cache.offset⟩) := by
      simp only [sendInternal, hmin]
      rw [if_neg (by omega), take_of_length_le (by omega), nil_append]
    -- the next packet finds a socket that would block
    have hrest : (flushQueue caches ⟨[], cache.packet.bytes.drop cache.offset⟩).2.2
        = ⟨[], cache.packet.bytes.drop cache.offset⟩ := by
      cases caches with
      | nil => rfl
      | cons next caches =>
        have hnext := hins.offset_lt next (by rw [hq]; simp)
        have hzero : 0 ≠ sizeofPacket n - next.offset := by omega
        simp only [flushQueue, sendInternal, if_pos hzero]
    simp only [flushQueue, hfirst, ne_eq, not_true_eq_false, if_false, hrest]
    exact length_pos_iff.mp (by omega)

theorem weight_clientWrites (hrun : st.client.failed = false) (hne : st.out ≠ []) :
    (st.step config (.clientWrites st.out.length)).weight < st.weight := by
  have hpos := length_pos_iff.mpr hne
  simp only [step, hrun, Bool.false_eq_true, if_false, weight, drop_length,
    take_length, length_append, length_nil]
  omega

theorem weight_clientReads (hrun : st.client.failed = false)
    (hpart : st.client.packet.length < sizeofPacket n) (hne : st.toClient ≠ []) :
    (st.step config (.clientReads (sizeofPacket n))).weight < st.weight := by
  have hpos := length_pos_iff.mpr hne
  have hchunk := chunk_ne_nil hpart hne
  simp only [step, hrun, Bool.false_eq_true, if_false, weight, clientReads, length_drop]
  omega

theorem benign_full (n : Nat) : ∀ r ∈ [SendResult.sent (sizeofPacket n)], r.Benign := by
  have hpos := sizeofPacket_pos n
  simp only [SendResult.Benign, mem_singleton, forall_eq, ne_eq, reduceCtorEq,
    not_false_eq_true, true_and, SendResult.sent.injEq]
  omega

theorem weight_serverWrites (hready : st.server.Ready) (hne : st.server.buffered ≠ []) :
    (st.step config (.serverWrites [.sent (sizeofPacket n)])).weight < st.weight := by
  obtain ⟨poll, hpoll, harmed⟩ := hready.armed fun hq => hne (by rw [buffered, hq]; rfl)
  obtain ⟨ok, ins', s', htry, hsent, -⟩ := trysend_sent hready
    (show Sock.Benign ⟨[.sent (sizeofPacket n)], []⟩ from benign_full n)
  have hwire : s'.wire ≠ [] := by
    have hne' := wire_trysend hready hne
    rwa [htry] at hne'
  have hbytes := congrArg List.length hsent.bytes
  have hpos := length_pos_iff.mpr hwire
  simp only [nil_append, append_nil, length_append] at hbytes
  simp only [step, serverWrites, hpoll, Option.any_some, harmed, if_true, handleEvent,
    htry, Bool.or_false, Bool.false_eq_true, if_false, weight, hsent.packet,
    length_append]
  omega

theorem weight_serverReads {handled : List (Delivery n)} (hw : st.Wired config handled)
    (hne : st.toServer ≠ []) :
    (st.step config (.serverReads (sizeofPacket n) [] true [])).weight < st.weight := by
  obtain ⟨poll, hpoll, hread⟩ := hw.ready.polled
  have hbytes := chunk_append_drop n st.server.packet st.toServer (sizeofPacket n)
  have hchunk := chunk_ne_nil hw.serverPart hne
  have hroom := length_chunk_le n st.server.packet st.toServer (sizeofPacket n)
  simp only [step, serverReads, hpoll, Option.any_some, hread, if_true]
  generalize chunk n st.server.packet st.toServer (sizeofPacket n) = bytes at hbytes hchunk hroom
  have hsum := congrArg List.length hbytes
  rw [length_append] at hsum
  by_cases hfull : (st.server.packet ++ bytes).length = sizeofPacket n
  · obtain ⟨hmem, -⟩ := hw.next_request hfull hbytes
    obtain ⟨i, hi, hpacket⟩ := mem_map.mp hmem
    have hserves : serves config (Packet.mk _ hfull).code = true := hpacket ▸ (hw.known i hi).1
    obtain ⟨server, s, hevent, hsent⟩ := handleEvent_readable_full config
      (s := ⟨[], []⟩) hw.ready (forall_mem_nil _)
      (length_pos_iff.mp hchunk) hfull hserves []
    have hout := congrArg List.length hsent.bytes
    rw [length_append, nil_append, length_append, Packet.length_bytes] at hout
    have hsame : buffered { st.server with packet := [] } = st.server.buffered := rfl
    rw [hsame] at hout
    rw [length_append] at hfull
    rw [hevent]
    simp only [record, weight, hsent.packet, length_append, length_nil]
    split <;> dsimp only <;> omega
  · rw [handleEvent_readable_part config hfull]
    simp only [record, dif_neg hfull, weight, append_nil]
    have hsame : buffered { st.server with packet := st.server.packet ++ bytes }
        = st.server.buffered := rfl
    rw [hsame, length_append]
    omega

theorem Link.Wired.exists_lighter {handled : List (Delivery n)} (hw : st.Wired config handled)
    (hrun : st.client.failed = false) (hd : ¬ st.Drained) :
    ∃ e : LinkEvent n ρ, e.Moves ∧ e.Allowed config ∧ (st.step config e).weight < st.weight := by
  by_cases hout : st.out = []
  · by_cases hserver : st.toServer = []
    · by_cases hbuf : st.server.buffered = []
      · by_cases hclient : st.toClient = []
        · exact absurd ⟨hout, hserver, hbuf, hclient⟩ hd
        · exact ⟨.clientReads (sizeofPacket n), trivial, trivial,
            weight_clientReads hrun hw.clientPart hclient⟩
      · exact ⟨.serverWrites [.sent (sizeofPacket n)], trivial, benign_full n,
          weight_serverWrites hw.ready hbuf⟩
    · exact ⟨.serverReads (sizeofPacket n) [] true [], trivial,
        ⟨rfl, nofun⟩, weight_serverReads hw hserver⟩
  · exact ⟨.clientWrites st.out.length, trivial, trivial, weight_clientWrites hrun hout⟩

/-! ## Runs -/

section Runs

variable {config : Group → Bool} {es : List (LinkEvent n ρ)}

theorem sound_after (hes : ∀ e ∈ es, e.Allowed config) :
    (after (step config) start es).Sound config := by
  induction es using List.reverseRecOn with
  | nil => exact ⟨[], wired_start config, .inr (accounts_start config)⟩
  | append_singleton es e ih =>
    rw [after_concat]
    rw [forall_mem_append, forall_mem_singleton] at hes
    exact (ih hes.1).step hes.2

theorem accounts_after (hes : ∀ e ∈ es, e.Allowed config)
    (hcodes : ∀ e ∈ es, e.CodeKnown config) :
    ∃ handled, (after (step config) start es).Wired config handled
      ∧ (after (step config) start es).Accounts config handled := by
  induction es using List.reverseRecOn with
  | nil => exact ⟨[], wired_start config, accounts_start config⟩
  | append_singleton es e ih =>
    obtain ⟨hold, hlast⟩ := forall_mem_append.mp hcodes
    obtain ⟨handled, -, hacc⟩ := ih (forall_mem_append.mp hes).1 hold
    refine (sound_after hes).accounts ?_ ?_
    · rw [after_concat, (step_log config _ e).2.1 hacc.asserted, issued_after config hacc.asserted,
        forall_mem_append]
      refine ⟨fun i hi => ?_, (hlast e (mem_singleton_self e)).1⟩
      obtain ⟨e', he', hi⟩ := mem_flatMap.mp hi
      exact (hold e' he').1 i hi
    · rw [callbacks_after]
      intro p hp
      obtain ⟨e', he', hp⟩ := mem_flatMap.mp hp
      exact (hcodes e' he').2 p hp

theorem LinkEvent.Moves.silent {e : LinkEvent n ρ} (h : e.Moves) :
    e.issues = [] ∧ e.callbacks = [] := by
  cases e with
  | request packet code reply ptr written | callback packet code mem results => exact h.elim
  | clientWrites k | serverReads k body mem results | serverWrites results | clientReads k =>
    exact ⟨rfl, rfl⟩

theorem LinkEvent.Moves.codeKnown {e : LinkEvent n ρ} (h : e.Moves) : e.CodeKnown config := by
  obtain ⟨hissues, hcallbacks⟩ := h.silent
  rw [LinkEvent.CodeKnown, hissues, hcallbacks]
  exact ⟨nofun, nofun⟩

theorem exists_drained (hes : ∀ e ∈ es, e.Allowed config)
    (hcodes : ∀ e ∈ es, e.CodeKnown config) :
    ∃ es' : List (LinkEvent n ρ), (∀ e ∈ es', e.Moves ∧ e.Allowed config)
      ∧ (after (step config) start (es ++ es')).Drained := by
  induction hweight : (after (step config) start es).weight
    using Nat.strong_induction_on generalizing es with
  | _ w ih =>
    by_cases hd : (after (step config) start es).Drained
    · exact ⟨[], nofun, by rw [append_nil]; exact hd⟩
    obtain ⟨handled, hw, hacc⟩ := accounts_after hes hcodes
    obtain ⟨e, hmoves, hallowed, hlt⟩ := hw.exists_lighter hacc.asserted hd
    have hlighter : (after (step config) start (es ++ [e])).weight < w := by
      rw [after_concat, ← hweight]
      exact hlt
    obtain ⟨es', hes', hdrained⟩ := ih _ hlighter
      (forall_mem_append.mpr ⟨hes, forall_mem_singleton.mpr hallowed⟩)
      (forall_mem_append.mpr ⟨hcodes, forall_mem_singleton.mpr hmoves.codeKnown⟩) rfl
    rw [append_assoc] at hdrained
    exact ⟨e :: es', forall_mem_cons.mpr ⟨⟨hmoves, hallowed⟩, hes'⟩, hdrained⟩

theorem flatMap_append_moves (es : List (LinkEvent n ρ)) {es' : List (LinkEvent n ρ)}
    (h : ∀ e ∈ es', e.Moves) :
    (es ++ es').flatMap LinkEvent.issues = es.flatMap LinkEvent.issues
      ∧ (es ++ es').flatMap LinkEvent.callbacks = es.flatMap LinkEvent.callbacks := by
  rw [flatMap_append, flatMap_append,
    flatMap_eq_nil_iff.mpr fun e he => (h e he).silent.1,
    flatMap_eq_nil_iff.mpr fun e he => (h e he).silent.2, append_nil, append_nil]
  exact ⟨rfl, rfl⟩

theorem codeKnown_of_drained (hes : ∀ e ∈ es, e.Allowed config)
    (hd : (after (step config) start es).Drained)
    (hf : (after (step config) start es).Faithful (es.flatMap LinkEvent.issues)
      (es.flatMap LinkEvent.callbacks)) : ∀ e ∈ es, e.CodeKnown config := by
  obtain ⟨hserved, -, hdispatched⟩ := hf.all hd
  have hcallbacks := callbacks_after config es
  have hcount := congrArg List.length hdispatched
  rw [length_map, ← hcallbacks] at hcount
  have hknown := (sound_after hes).known_of_drained hd hf.asserted hcount
  obtain ⟨handled, hw, -⟩ := sound_after hes
  intro e he
  refine ⟨fun i hi => ?_, fun p hp => ?_⟩
  · have hmem : i.1 ∈ (after (step config) start es).served.map Prod.fst := by
      rw [hserved]
      exact mem_map_of_mem (mem_flatMap.mpr ⟨e, he, hi⟩)
    obtain ⟨s, hs, hsi⟩ := mem_map.mp hmem
    rw [← hsi, ← (hw.own s hs).1]
    exact hknown _ (hw.reply_mem_sent hs)
  · refine hknown _ (callback_mem_sent ?_)
    rw [hcallbacks]
    exact mem_flatMap.mpr ⟨e, he, hp⟩

end Runs

/-- Requests and callbacks are put on the connection and bytes move, in any order. However they
then move on, every reply callback is called once, with its own reply and in order, every callback
is dispatched once, no assertion fails, and everything can arrive: if and only if the client knows
the codes. -/
theorem exactly_once_iff (config : Group → Bool) {es : List (LinkEvent n ρ)}
    (hes : ∀ e ∈ es, e.Allowed config) :
    ((∀ es' : List (LinkEvent n ρ), (∀ e ∈ es', e.Moves ∧ e.Allowed config) →
          (Runs.after (Link.step config) Link.start (es ++ es')).Faithful
            (es.flatMap LinkEvent.issues) (es.flatMap LinkEvent.callbacks))
        ∧ ∃ es' : List (LinkEvent n ρ), (∀ e ∈ es', e.Moves ∧ e.Allowed config)
          ∧ (Runs.after (Link.step config) Link.start (es ++ es')).Drained)
      ↔ ∀ e ∈ es, e.CodeKnown config := by
  have hallowed : ∀ es' : List (LinkEvent n ρ), (∀ e ∈ es', e.Moves ∧ e.Allowed config) →
      ∀ e ∈ es ++ es', e.Allowed config := fun es' hes' =>
    forall_mem_append.mpr ⟨hes, fun e he => (hes' e he).2⟩
  constructor
  · rintro ⟨hfaithful, es', hes', hd⟩
    obtain ⟨hissues, hcallbacks⟩ := flatMap_append_moves es fun e he => (hes' e he).1
    have hf := hfaithful es' hes'
    rw [← hissues, ← hcallbacks] at hf
    exact fun e he =>
      codeKnown_of_drained (hallowed es' hes') hd hf e (mem_append_left _ he)
  · intro hcodes
    refine ⟨fun es' hes' => ?_, exists_drained hes hcodes⟩
    obtain ⟨hissues, hcallbacks⟩ := flatMap_append_moves es fun e he => (hes' e he).1
    obtain ⟨handled, hw, hacc⟩ := accounts_after (hallowed es' hes')
      (forall_mem_append.mpr ⟨hcodes, fun e he => (hes' e he).1.codeKnown⟩)
    rw [← hissues, ← hcallbacks, ← issued_after config hacc.asserted, ← callbacks_after config]
    exact hacc.faithful hw

def mixedRun : List (LinkEvent 4 String) :=
  [.request (Packet.zero 4) 23 (some "first") 64 true, .clientWrites 9,
    .request (Packet.zero 4) 24 (some "second") 128 true, .serverReads 5 [] true [],
    .callback (Packet.zero 4) 268 true [.sent 3], .clientWrites 23]

theorem mixedRun_exactly_once :
    (∀ e ∈ mixedRun, e.Allowed fun _ => true)
      ∧ (∀ es' : List (LinkEvent 4 String), (∀ e ∈ es', e.Moves ∧ e.Allowed fun _ => true) →
        (Runs.after (Link.step fun _ => true) Link.start (mixedRun ++ es')).Faithful
          (mixedRun.flatMap LinkEvent.issues) (mixedRun.flatMap LinkEvent.callbacks)) := by
  have hes : ∀ e ∈ mixedRun, e.Allowed fun _ => true := by decide
  have hcodes : ∀ e ∈ mixedRun, e.CodeKnown fun _ => true := by decide
  exact ⟨hes, ((exactly_once_iff (fun _ => true) hes).mpr hcodes).1⟩

def batchScanRun : List (LinkEvent 0 String) :=
  [.callback (Packet.zero 0) leOnBatchScanResult true [.sent 12], .clientReads 12]

def avrcpControlRun : List (LinkEvent 0 String) :=
  [.callback (Packet.zero 0) 289 true [.sent 12], .clientReads 12]

def limitedDiscoveryRun : List (LinkEvent 0 String) :=
  [.request (Packet.zero 0) (UInt32.ofNat (ipcCode ipcTypeCommand Group.adapter.ipcGroup 1))
      (some "limited") 64 true, .clientWrites 12, .serverReads 12 [] true [.sent 12],
    .clientReads 12]

theorem unknown_codes_not_faithful :
    (∀ es ∈ [batchScanRun, avrcpControlRun, limitedDiscoveryRun],
        (∀ e ∈ es, e.Allowed fun _ => true)
          ∧ ¬ (Runs.after (Link.step fun _ => true) Link.start es).Faithful
            (es.flatMap LinkEvent.issues) (es.flatMap LinkEvent.callbacks))
      ∧ (Runs.after (Link.step fun _ => true) Link.start batchScanRun).client.failed = true
      ∧ (Runs.after (Link.step fun _ => true) Link.start avrcpControlRun).client.dispatched = []
      ∧ (Runs.after (Link.step fun _ => true) Link.start limitedDiscoveryRun).client.failed
        = true := by
  have hbatch : (after (step fun _ => true) start batchScanRun).client.failed = true := by decide
  have hlimited : (after (step fun _ => true) start
      limitedDiscoveryRun).client.failed = true := by decide
  have hdropped : (after (step fun _ => true) start
      avrcpControlRun).client.dispatched = [] := by decide
  have hdrained : (after (step fun _ => true) start avrcpControlRun).Drained :=
    ⟨by decide, by decide, by decide, by decide⟩
  refine ⟨?_, hbatch, hdropped, hlimited⟩
  rw [forall_mem_cons, forall_mem_cons, forall_mem_singleton]
  refine ⟨⟨by decide, fun h => ?_⟩, ⟨by decide, fun h => ?_⟩, ⟨by decide, fun h => ?_⟩⟩
  · exact absurd h.asserted (by rw [hbatch]; decide)
  · have hall := (h.all hdrained).2.2
    exact absurd (congrArg List.length hall) (by decide)
  · exact absurd h.asserted (by rw [hlimited]; decide)

end BtFramework.Ipc
