import BtFramework.Framing
import BtFramework.IpcClient
import BtFramework.IpcOutput

/-!
# What holds along a connection

The bytes between the two sides are packets: upstream those of the requests the service has not
received, downstream those of what it has sent and the client has not handled (`Wired`). As long
as every packet the client has handled has a code it knows, the replies have been matched with
the first of the requests, one by one, and the callbacks have been dispatched (`Accounts`).
-/

namespace BtFramework.Ipc

open Client Delivery Framing Link List

variable {n : Nat} {ρ : Type*}

/-! ## Events -/

namespace LinkEvent

/-- Codes are served or those of callbacks, there is memory, and no send fails. -/
def Allowed (config : Group → Bool) : LinkEvent n ρ → Prop
  | .request _ code _ _ _ => serves config code = true
  | .serverReads _ _ mem results => mem = true ∧ ∀ r ∈ results, r.Benign
  | .serverWrites results => ∀ r ∈ results, r.Benign
  | .callback _ code mem results =>
    messageCodes.check code = false ∧ mem = true ∧ ∀ r ∈ results, r.Benign
  | .clientWrites _ | .clientReads _ => True

instance (config : Group → Bool) (e : LinkEvent n ρ) : Decidable (e.Allowed config) := by
  cases e <;> unfold Allowed <;> infer_instance

/-- Nothing new is asked for. -/
def Moves : LinkEvent n ρ → Prop
  | .request .. | .callback .. => False
  | _ => True

end LinkEvent

/-! ## The streams -/

structure Link.Wired (config : Group → Bool) (st : Link n ρ) (handled : List (Delivery n)) :
    Prop where
  ready : st.server.Ready
  running : st.aborted = false
  serverPart : st.server.packet.length < sizeofPacket n
  clientPart : st.client.packet.length < sizeofPacket n
  upstream : Remains Packet.bytes (st.issued.map Prod.fst) (st.served.map Prod.fst)
    st.server.packet (st.toServer ++ st.out)
  downstream : Remains Delivery.bytes st.sent handled
    st.client.packet (st.toClient ++ st.server.buffered)
  known : ∀ i ∈ st.issued, serves config i.1.code = true ∧ i.1.context = i.2.ptr ∧ i.2.ptr ≠ 0
  own : ∀ s ∈ st.served, s.2.code = s.1.code ∧ s.2.context = s.1.context
  replies : st.sent.filterMap Delivery.reply? = st.served.map Prod.snd
  callbacks : ∀ p ∈ st.sent.filterMap Delivery.callback?, messageCodes.check p.code = false

theorem Delivery.length_bytes (d : Delivery n) : d.bytes.length = sizeofPacket n :=
  d.packet.length_bytes

theorem length_chunk_le (n : Nat) (part stream : List UInt8) (k : Nat) :
    (Link.chunk n part stream k).length ≤ sizeofPacket n - part.length :=
  (length_take_le _ _).trans (Nat.min_le_right _ _)

theorem chunk_append_drop (n : Nat) (part stream : List UInt8) (k : Nat) :
    Link.chunk n part stream k ++ stream.drop (Link.chunk n part stream k).length = stream := by
  rw [← prefix_iff_eq_append]
  exact take_prefix _ _

theorem wired_start (config : Group → Bool) : (Link.start : Link n ρ).Wired config [] where
  ready := ready_newInstance
  running := rfl
  serverPart := sizeofPacket_pos n
  clientPart := sizeofPacket_pos n
  upstream := ⟨[], rfl, rfl⟩
  downstream := ⟨[], rfl, rfl⟩
  known := nofun
  own := nofun
  replies := rfl
  callbacks := nofun

namespace Link.Wired

variable {config : Group → Bool} {st : Link n ρ} {handled : List (Delivery n)}

section

variable (h : st.Wired config handled)
include h

theorem request {code : UInt32} (hcode : serves config code = true) (packet : Packet n)
    (reply : Option ρ) {ptr : UInt64} (hptr : ptr ≠ 0) {client : Client n ρ}
    (hpart : client.packet = st.client.packet) :
    Link.Wired config { st with
      client
      out := st.out ++ ((packet.setCode code).setContext ptr).bytes
      issued := st.issued ++ [((packet.setCode code).setContext ptr, ⟨ptr, reply⟩)] } handled :=
  { h with
    clientPart := by rw [hpart]; exact h.clientPart
    upstream := by
      have happ := h.upstream.append [(packet.setCode code).setContext ptr]
      simp only [flatMap_cons, flatMap_nil, append_nil, append_assoc] at happ
      rw [map_append]
      exact happ
    downstream := by rw [hpart]; exact h.downstream
    known := forall_mem_append.mpr ⟨h.known, forall_mem_singleton.mpr
      ⟨by simpa using hcode, by simp, hptr⟩⟩ }

theorem clientWrites (k : Nat) :
    Link.Wired config { st with
      out := st.out.drop k, toServer := st.toServer ++ st.out.take k } handled :=
  { h with
    upstream := by
      rw [append_assoc, take_append_drop]
      exact h.upstream }

theorem sent (ds : List (Delivery n)) {rs : List SendResult} {server : Instance n} {s : Sock}
    (hsent : Sent st.server ⟨rs, []⟩ (ds.flatMap Delivery.bytes) server s)
    (hreplies : ds.filterMap Delivery.reply? = [])
    (hcallbacks : ∀ p ∈ ds.filterMap Delivery.callback?, messageCodes.check p.code = false) :
    Link.Wired config { st with
      server, toClient := st.toClient ++ s.wire, sent := st.sent ++ ds } handled :=
  { h with
    ready := hsent.ready
    serverPart := by rw [hsent.packet]; exact h.serverPart
    upstream := by rw [hsent.packet]; exact h.upstream
    downstream := by
      have hbytes := hsent.bytes
      rw [nil_append] at hbytes
      rw [append_assoc, hbytes, ← append_assoc]
      exact h.downstream.append ds
    replies := by rw [filterMap_append, hreplies, append_nil, h.replies]
    callbacks := by
      rw [filterMap_append, forall_mem_append]
      exact ⟨h.callbacks, hcallbacks⟩ }

theorem serverReads_part {bytes : List UInt8}
    (hlen : (st.server.packet ++ bytes).length < sizeofPacket n)
    (hbytes : bytes ++ st.toServer.drop bytes.length = st.toServer) :
    Link.Wired config { st with
      server := { st.server with packet := st.server.packet ++ bytes }
      toServer := st.toServer.drop bytes.length
      toClient := st.toClient ++ [] } handled :=
  { h with
    ready := ⟨h.ready.attached, h.ready.polled, h.ready.armed, h.ready.offset_lt⟩
    serverPart := hlen
    upstream := by
      refine Remains.shift ?_
      rw [← append_assoc, hbytes]
      exact h.upstream
    downstream := by
      rw [append_nil]
      exact h.downstream }

theorem next_request {bytes : List UInt8}
    (hfull : (st.server.packet ++ bytes).length = sizeofPacket n)
    (hbytes : bytes ++ st.toServer.drop bytes.length = st.toServer) :
    Packet.mk _ hfull ∈ st.issued.map Prod.fst
      ∧ Remains Packet.bytes (st.issued.map Prod.fst)
        (st.served.map Prod.fst ++ [Packet.mk _ hfull]) []
        (st.toServer.drop bytes.length ++ st.out) := by
  have hshift : Remains Packet.bytes (st.issued.map Prod.fst) (st.served.map Prod.fst)
      (st.server.packet ++ bytes) (st.toServer.drop bytes.length ++ st.out) := by
    refine Remains.shift ?_
    rw [← append_assoc, hbytes]
    exact h.upstream
  obtain ⟨p, hp, hpbytes, hrest⟩ := hshift.full Packet.length_bytes (sizeofPacket_pos n) hfull
  have heq : Packet.mk _ hfull = p := by
    cases p
    cases hpbytes
    rfl
  rw [heq]
  exact ⟨hp, hrest⟩

theorem serverReads_full {bytes body : List UInt8}
    (hfull : (st.server.packet ++ bytes).length = sizeofPacket n)
    (hbytes : bytes ++ st.toServer.drop bytes.length = st.toServer) {reply : Packet n}
    (hreply : reply = ((Packet.mk _ hfull).setBody body).setCode (Packet.mk _ hfull).code)
    {rs : List SendResult} {server : Instance n} {s : Sock}
    (hsent : Sent { st.server with packet := [] } ⟨rs, []⟩ reply.bytes server s) :
    Link.Wired config { st with
      server
      toServer := st.toServer.drop bytes.length
      toClient := st.toClient ++ s.wire
      served := st.served ++ [(Packet.mk _ hfull, reply)]
      sent := st.sent ++ [.reply reply] } handled :=
  { h with
    ready := hsent.ready
    serverPart := by rw [hsent.packet]; exact sizeofPacket_pos n
    upstream := by
      rw [hsent.packet, map_append]
      exact (h.next_request hfull hbytes).2
    downstream := by
      have hsbytes := hsent.bytes
      have happ := h.downstream.append [.reply reply]
      rw [flatMap_cons, flatMap_nil, append_nil] at happ
      rw [append_assoc, hsbytes, ← append_assoc]
      exact happ
    own := forall_mem_append.mpr ⟨h.own, forall_mem_singleton.mpr (by simp [hreply])⟩
    replies := by
      rw [filterMap_append, h.replies, map_append]
      rfl
    callbacks := by
      intro p hp
      exact h.callbacks p (by simpa [callback?] using hp) }

theorem clientReads (k : Nat) {client : Client n ρ} {handled' : List (Delivery n)}
    (hpart : client.packet.length < sizeofPacket n)
    (hremains : Remains Delivery.bytes st.sent handled' client.packet
      (st.toClient.drop (chunk n st.client.packet st.toClient k).length ++ st.server.buffered)) :
    Link.Wired config { st with
      client
      toClient := st.toClient.drop (chunk n st.client.packet st.toClient k).length } handled' :=
  { h with
    clientPart := hpart
    downstream := hremains }

end

end Link.Wired

/-! ## The client -/

def Delivery.Known (config : Group → Bool) : Delivery n → Prop
  | .reply p => messageCodes.check p.code = true
  | .callback p => callbackCodes.check p.code = true ∧ (callbackProcess config p.code).isSome

instance (config : Group → Bool) (d : Delivery n) : Decidable (d.Known config) := by
  cases d <;> unfold Known <;> infer_instance

def ran (x : (Packet n × Context ρ) × Packet n) : Option (ρ × Packet n) :=
  x.1.2.reply.map (·, x.2)

structure Link.Accounts (config : Group → Bool) (st : Link n ρ) (handled : List (Delivery n)) :
    Prop where
  known : ∀ d ∈ handled, d.Known config
  asserted : st.client.failed = false
  requests : ∃ answered waiting, st.issued = answered ++ waiting
    ∧ answered.length = (handled.filterMap Delivery.reply?).length
    ∧ st.client.pending = waiting.map Prod.snd
    ∧ st.client.replies = (answered.zip (handled.filterMap Delivery.reply?)).filterMap ran
  dispatched : st.client.dispatched.map Prod.snd = handled.filterMap Delivery.callback?

structure Link.Lost (config : Group → Bool) (st : Link n ρ) (handled : List (Delivery n)) :
    Prop where
  unknown : ∃ d ∈ handled, ¬ d.Known config
  undone : st.client.failed = true
    ∨ st.client.dispatched.length < (handled.filterMap Delivery.callback?).length

theorem accounts_start (config : Group → Bool) : (Link.start : Link n ρ).Accounts config [] where
  known := nofun
  asserted := rfl
  requests := ⟨[], [], rfl, rfl, rfl, rfl⟩
  dispatched := rfl

theorem not_callback_of_serves {config : Group → Bool} {code : UInt32}
    (h : serves config code = true) : callbackCodes.check code = false := by
  rw [serves, any_eq_true] at h
  obtain ⟨g, -, hg⟩ := h
  rw [Bool.eq_false_iff]
  intro hc
  obtain ⟨hstart, hstop⟩ := CodeRange.check_iff.mp hc
  rcases Bool.or_eq_true .. |>.mp hg with hg | hg
  · obtain ⟨r, hr, hcheck⟩ := Option.any_eq_true _ _ |>.mp hg
    have hle : r.stop ≤ messageCodes.stop := by cases g <;> cases hr <;> decide
    have hlt := (CodeRange.check_iff.mp hcheck).2
    have hbelow : messageCodes.stop ≤ callbackCodes.start := by decide
    omega
  · have hle : callbackCodes.stop ≤ g.commandCodes.start := by cases g <;> decide
    have hlt := (CodeRange.check_iff.mp hg).1
    omega

section Handling

variable {config : Group → Bool} {st : Link n ρ} {handled todo : List (Delivery n)} {p : Packet n}

theorem Link.Wired.next_reply (h : st.Wired config handled)
    (hnext : st.sent = handled ++ .reply p :: todo) :
    ∃ answered i waiting, st.issued = answered ++ i :: waiting
      ∧ answered.length = (handled.filterMap Delivery.reply?).length
      ∧ p.code = i.1.code ∧ p.context = i.1.context := by
  have hserved : st.served.map Prod.snd = handled.filterMap Delivery.reply?
      ++ p :: todo.filterMap Delivery.reply? := by
    rw [← h.replies, hnext, filterMap_append]
    rfl
  obtain ⟨before, rest, hsplit, hbefore, hrest⟩ := map_eq_append_iff.mp hserved
  obtain ⟨x, after, rfl, hx, -⟩ := map_eq_cons_iff.mp hrest
  obtain ⟨qs, hissued, -⟩ := h.upstream
  rw [hsplit, map_append, map_cons, append_assoc] at hissued
  obtain ⟨answered, rest', hi, hanswered, hrest'⟩ := map_eq_append_iff.mp hissued
  obtain ⟨i, waiting, rfl, hix, -⟩ := map_eq_cons_iff.mp hrest'
  have hlen := congrArg List.length hanswered
  have hown := h.own x (by rw [hsplit]; simp)
  rw [length_map, length_map] at hlen
  refine ⟨answered, i, waiting, hi, ?_, ?_, ?_⟩
  · rw [hlen, ← hbefore, length_map]
  · rw [← hx, hown.1, hix]
  · rw [← hx, hown.2, hix]

theorem Link.Accounts.reply (h : st.Accounts config handled) (hw : st.Wired config handled)
    (hnext : st.sent = handled ++ .reply p :: todo) (hp : messageCodes.check p.code = true) :
    Link.Accounts config { st with
      client := st.client.handlePacket config p } (handled ++ [.reply p]) := by
  obtain ⟨answered, i, waiting, hissued, hlen, -, hcontext⟩ := hw.next_reply hnext
  obtain ⟨answered', waiting', hissued', hlen', hpending, hreplies⟩ := h.requests
  obtain ⟨rfl, rfl⟩ := append_inj (hissued'.symm.trans hissued) (by omega)
  have hi := hw.known i (by rw [hissued]; simp)
  have hptr : i.2.ptr = p.context := by rw [hcontext, hi.2.1]
  have hne : p.context ≠ 0 := by rw [← hptr]; exact hi.2.2
  have hhandle : st.client.handlePacket config p = { st.client with
      pending := waiting.map Prod.snd
      replies := st.client.replies ++ i.2.reply.toList.map (·, p) } := by
    rw [handlePacket, if_pos hp, hpending]
    simp only [map_cons, if_pos hptr, if_pos hne]
  rw [hhandle]
  have hreply : (handled ++ [Delivery.reply p]).filterMap Delivery.reply?
      = handled.filterMap Delivery.reply? ++ [p] := by
    rw [filterMap_append]
    rfl
  refine ⟨?_, h.asserted, ⟨answered' ++ [i], waiting, by simp [hissued], ?_, rfl, ?_⟩, ?_⟩
  · exact forall_mem_append.mpr ⟨h.known, forall_mem_singleton.mpr hp⟩
  · rw [hreply, length_append, length_append, hlen']
    rfl
  · rw [hreply, zip_append hlen', filterMap_append, ← hreplies]
    cases hr : i.2.reply <;> simp [ran, hr]
  · rw [filterMap_append, ← h.dispatched]
    simp [callback?]

theorem Link.Accounts.callback (h : st.Accounts config handled) {g : Group}
    (hmsg : messageCodes.check p.code = false) (hcheck : callbackCodes.check p.code = true)
    (hg : callbackProcess config p.code = some g) :
    Link.Accounts config { st with
      client := st.client.handlePacket config p } (handled ++ [.callback p]) := by
  have hhandle : st.client.handlePacket config p = { st.client with
      dispatched := st.client.dispatched ++ [(g, p)] } := by
    rw [handlePacket, if_neg (by rw [hmsg]; decide), if_pos hcheck, hg]
  have hreply : (handled ++ [Delivery.callback p]).filterMap Delivery.reply?
      = handled.filterMap Delivery.reply? := by
    simp [Delivery.reply?]
  rw [hhandle]
  refine ⟨?_, h.asserted, by rw [hreply]; exact h.requests, ?_⟩
  · exact forall_mem_append.mpr ⟨h.known, forall_mem_singleton.mpr ⟨hcheck, by rw [hg]; rfl⟩⟩
  · rw [filterMap_append, ← h.dispatched, map_append]
    rfl

theorem handlePacket_with_packet (c : Client n ρ) (part : List UInt8) (p : Packet n) :
    Client.handlePacket config { c with packet := part } p
      = { c.handlePacket config p with packet := part } := by
  unfold handlePacket
  dsimp only
  (repeat' split) <;> rfl

theorem dispatched_handlePacket (c : Client n ρ) (hp : callbackCodes.check p.code = false) :
    (c.handlePacket config p).dispatched = c.dispatched := by
  unfold handlePacket
  rw [hp]
  (repeat' split) <;> first | rfl | contradiction

theorem Link.Lost.handle (h : st.Lost config handled) (hrun : st.client.failed = false)
    (hw : st.Wired config handled) {d : Delivery n} (hnext : st.sent = handled ++ d :: todo) :
    Link.Lost config { st with client := st.client.handlePacket config d.packet }
      (handled ++ [d]) := by
  obtain ⟨⟨u, hu, hunknown⟩, hundone⟩ := h
  rw [hrun] at hundone
  have hlt := hundone.resolve_left (by decide)
  refine ⟨⟨u, mem_append_left _ hu, hunknown⟩, .inr ?_⟩
  rw [filterMap_append, length_append]
  cases d with
  | reply p =>
    obtain ⟨answered, i, waiting, hissued, -, hcode, -⟩ := hw.next_reply hnext
    have hi := hw.known i (by rw [hissued]; simp)
    have hcallback := not_callback_of_serves (hcode ▸ hi.1)
    rw [Delivery.packet, dispatched_handlePacket _ hcallback]
    exact Nat.lt_add_right _ hlt
  | callback p =>
    have hle : (st.client.handlePacket config p).dispatched.length
        ≤ st.client.dispatched.length + 1 := by
      unfold handlePacket
      (repeat' split) <;> simp
    rw [Delivery.packet]
    simp only [filterMap_cons, callback?, filterMap_nil, length_singleton]
    omega

theorem Link.Accounts.handle (h : st.Accounts config handled) (hw : st.Wired config handled)
    {d : Delivery n} (hnext : st.sent = handled ++ d :: todo) :
    Link.Lost config { st with client := st.client.handlePacket config d.packet }
        (handled ++ [d])
      ∨ Link.Accounts config { st with client := st.client.handlePacket config d.packet }
        (handled ++ [d]) := by
  have hmem : d ∈ handled ++ [d] := by simp
  cases d with
  | reply p =>
    cases hp : messageCodes.check p.code with
    | true => exact .inr (h.reply hw hnext hp)
    | false =>
      obtain ⟨answered, i, waiting, hissued, -, hcode, -⟩ := hw.next_reply hnext
      have hi := hw.known i (by rw [hissued]; simp)
      have hcallback := not_callback_of_serves (hcode ▸ hi.1)
      refine .inl ⟨⟨_, hmem, by simp [Delivery.Known, hp]⟩, .inl ?_⟩
      simp [Delivery.packet, handlePacket, hp, hcallback]
  | callback p =>
    have hmsg := hw.callbacks p (by rw [hnext]; simp [callback?])
    cases hcheck : callbackCodes.check p.code with
    | false =>
      refine .inl ⟨⟨_, hmem, by simp [Delivery.Known, hcheck]⟩, .inl ?_⟩
      simp [Delivery.packet, handlePacket, hmsg, hcheck]
    | true =>
      cases hg : callbackProcess config p.code with
      | some g => exact .inr (h.callback hmsg hcheck hg)
      | none =>
        refine .inl ⟨⟨_, hmem, by simp [Delivery.Known, hg]⟩, .inr ?_⟩
        have hlen := congrArg List.length h.dispatched
        rw [length_map] at hlen
        simp [Delivery.packet, handlePacket, hmsg, hcheck, hg, callback?, hlen]

end Handling

/-! ## Steps -/

def Link.Sound (config : Group → Bool) (st : Link n ρ) : Prop :=
  ∃ handled, st.Wired config handled ∧ (st.Lost config handled ∨ st.Accounts config handled)

namespace Link.Sound

variable {config : Group → Bool} {st : Link n ρ} {results : List SendResult}

theorem request (h : st.Sound config) {code : UInt32} (hcode : serves config code = true)
    (packet : Packet n) (reply : Option ρ) (ptr : UInt64) (written : Bool) :
    (st.request packet code reply ptr written).Sound config := by
  obtain ⟨handled, hw, hclient⟩ := h
  unfold Link.request sendWithReply
  by_cases hptr : ptr = 0
  · rw [if_pos hptr]
    exact ⟨handled, hw, hclient⟩
  rw [if_neg hptr]
  cases written with
  | false => exact ⟨handled, hw, hclient⟩
  | true =>
    refine ⟨handled, hw.request hcode packet reply hptr rfl, ?_⟩
    rcases hclient with hlost | hacc
    · exact .inl ⟨hlost.unknown, hlost.undone⟩
    · obtain ⟨answered, waiting, hissued, hlen, hpending, hreplies⟩ := hacc.requests
      refine .inr ⟨hacc.known, hacc.asserted,
        ⟨answered, waiting ++ [((packet.setCode code).setContext ptr, ⟨ptr, reply⟩)], ?_, hlen, ?_,
          hreplies⟩, hacc.dispatched⟩
      · show st.issued ++ _ = _
        rw [hissued, append_assoc]
      · rw [hpending, map_append]
        rfl

theorem of_wired {handled : List (Delivery n)} {st' : Link n ρ} (hw : st'.Wired config handled)
    (hclient : st.Lost config handled ∨ st.Accounts config handled) {part : List UInt8}
    (hsame : st'.client = { st.client with packet := part }) (hissued : st'.issued = st.issued) :
    st'.Sound config := by
  refine ⟨handled, hw, hclient.imp (fun hlost => ⟨hlost.unknown, ?_⟩)
    fun hacc => ⟨hacc.known, ?_, ?_, ?_⟩⟩
  · rw [hsame]
    exact hlost.undone
  · rw [hsame]
    exact hacc.asserted
  · rw [hsame, hissued]
    exact hacc.requests
  · rw [hsame]
    exact hacc.dispatched

theorem serverReads (h : st.Sound config) (k : Nat) (body : List UInt8)
    (hresults : ∀ r ∈ results, r.Benign) :
    (st.serverReads config k body true results).Sound config := by
  obtain ⟨handled, hw, hclient⟩ := h
  have hbytes := chunk_append_drop n st.server.packet st.toServer k
  have hroom := length_chunk_le n st.server.packet st.toServer k
  have hpart := hw.serverPart
  unfold Link.serverReads
  generalize chunk n st.server.packet st.toServer k = bytes at hbytes hroom
  dsimp only
  by_cases hfull : (st.server.packet ++ bytes).length = sizeofPacket n
  · have hne : bytes ≠ [] := by
      rintro rfl
      rw [append_nil] at hfull
      omega
    obtain ⟨hmem, -⟩ := hw.next_request hfull hbytes
    obtain ⟨i, hi, hpacket⟩ := mem_map.mp hmem
    have hserves : serves config (Packet.mk _ hfull).code = true := hpacket ▸ (hw.known i hi).1
    obtain ⟨server, s, hevent, hsent⟩ := handleEvent_readable_full config
      (s := ⟨results, []⟩) hw.ready hresults hne hfull hserves body
    rw [hevent]
    simp only [record, dif_pos hfull]
    exact of_wired (hw.serverReads_full hfull hbytes rfl hsent) hclient rfl rfl
  · rw [length_append] at hfull
    have hlen : (st.server.packet ++ bytes).length < sizeofPacket n := by
      rw [length_append]
      omega
    rw [handleEvent_readable_part config hlen.ne]
    simp only [record, dif_neg hlen.ne]
    exact of_wired (hw.serverReads_part hlen hbytes) hclient rfl rfl

theorem serverWrites (h : st.Sound config) (hresults : ∀ r ∈ results, r.Benign) :
    (st.serverWrites config results).Sound config := by
  obtain ⟨handled, hw, hclient⟩ := h
  obtain ⟨server, s, hevent, hsent⟩ :=
    handleEvent_writable config (s := ⟨results, []⟩) hw.ready hresults
  have hw' := hw.sent [] hsent rfl (by simp)
  rw [append_nil] at hw'
  unfold Link.serverWrites
  rw [hevent]
  exact of_wired hw' hclient rfl rfl

theorem callback (h : st.Sound config) (packet : Packet n) {code : UInt32}
    (hcode : messageCodes.check code = false) (hresults : ∀ r ∈ results, r.Benign) :
    (st.callback packet code true results).Sound config := by
  obtain ⟨handled, hw, hclient⟩ := h
  obtain ⟨server, s, hsend, hsent⟩ := send_sent (s := ⟨results, []⟩) hw.ready hresults packet code
  have hw' := hw.sent [.callback (packet.setCode code)]
    (by simpa [Delivery.bytes, Delivery.packet] using hsent) rfl
    (by simpa [callback?] using hcode)
  unfold Link.callback
  rw [hsend]
  exact of_wired hw' hclient rfl rfl

theorem clientReads (h : st.Sound config) (hrun : st.client.failed = false) (k : Nat) :
    (st.clientReads config k).Sound config := by
  obtain ⟨handled, hw, hclient⟩ := h
  have hroom := length_chunk_le n st.client.packet st.toClient k
  have hshift : Remains Delivery.bytes st.sent handled
      (st.client.packet ++ chunk n st.client.packet st.toClient k)
      (st.toClient.drop (chunk n st.client.packet st.toClient k).length ++ st.server.buffered) := by
    refine Remains.shift ?_
    rw [← append_assoc, chunk_append_drop]
    exact hw.downstream
  have hpart := hw.clientPart
  unfold Link.clientReads readCb
  dsimp only
  by_cases hfull : (st.client.packet ++ chunk n st.client.packet st.toClient k).length
      = sizeofPacket n
  · obtain ⟨d, -, hd, todo, hnext, hrest⟩ :=
      hshift.full length_bytes (sizeofPacket_pos n) hfull
    have hpacket : Packet.mk _ hfull = d.packet := by
      cases hp : d.packet
      have hdp : d.packet.bytes = _ := hd
      rw [hp] at hdp
      cases hdp
      rfl
    have hnext' : st.sent = handled ++ d :: todo := by
      rw [hnext, append_assoc]
      rfl
    rw [dif_pos hfull, hpacket, handlePacket_with_packet]
    have hhandled := hclient.elim (fun hlost => .inl (hlost.handle hrun hw hnext'))
      fun hacc => hacc.handle hw hnext'
    exact of_wired (hw.clientReads k (sizeofPacket_pos n) ⟨todo, hnext, hrest⟩) hhandled rfl rfl
  · rw [dif_neg hfull]
    rw [length_append] at hfull
    exact of_wired (hw.clientReads k (by rw [length_append]; omega) hshift) hclient rfl rfl

theorem step (h : st.Sound config) {e : LinkEvent n ρ} (he : e.Allowed config) :
    (st.step config e).Sound config := by
  cases e with
  | request packet code reply ptr written =>
    simp only [Link.step]
    split
    · exact h
    · exact h.request he packet reply ptr written
  | clientWrites k =>
    simp only [Link.step]
    split
    · exact h
    · obtain ⟨handled, hw, hclient⟩ := h
      exact of_wired (hw.clientWrites k) hclient rfl rfl
  | serverReads k body mem results =>
    obtain ⟨rfl, hresults⟩ := he
    simp only [Link.step]
    split
    · exact h.serverReads k body hresults
    · exact h
  | serverWrites results =>
    simp only [Link.step]
    split
    · exact h.serverWrites he
    · exact h
  | callback packet code mem results =>
    obtain ⟨hcode, rfl, hresults⟩ := he
    exact h.callback packet hcode hresults
  | clientReads k =>
    simp only [Link.step]
    split
    · exact h
    next hrun => exact h.clientReads (Bool.eq_false_iff.mpr hrun) k

end Link.Sound

end BtFramework.Ipc
