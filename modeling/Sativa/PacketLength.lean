import Sativa.ClientBase
import Sativa.LinkCalls
import Sativa.RpcFraming

/-!
The length in the header of a packet.

A receiver compares it with the bytes it got, and the server does so without the header: a
packet may claim up to eight bytes that were not received. A writer stores the length of a packet
in 16 bits, and a longer packet goes out with a length that is cut.
-/

namespace Sativa.RpcServer

open Sativa Sativa.Rpc Sativa.Cbor Sativa.Store

/-! ### Receiving -/

/-- The header of a chunk and the bytes that are handed to `cbor_load`. -/
def handedToLoad (env : CallbackEnv) (pending : Bytes) : Except RpcError (RpcHeader × Bytes) := do
  let hdr ← checkHeader pending
  return (hdr, payloadBytes env pending (hdr.length.toNat - headerSize))

/-- The read callback, from what is handed to `cbor_load`. -/
def readHanded (cbor : Libcbor) (env : CallbackEnv) (ev : ℕ) (pending : Bytes)
    (handed : Except RpcError (RpcHeader × Bytes)) : ServerProg Unit := do
  let client ← clientAt ev
  .modify fun s => s.setClient ev { client with receiveBuf := pending }
  let (hdr, b) ← .ofExcept handed
  let item ← .ofExcept (loadItem cbor b)
  if hdr.endpoint = kConfigQuery then doCfgQuery cbor env pending item ev
  else if hdr.endpoint = kConfigUpdate then doCfgUpdate cbor env pending item ev
  else .fail (.unknownEndpoint hdr.endpoint)

/-- Only bytes that were received are decoded by the read callback. -/
structure DecodesReceived (env : CallbackEnv) (pending : Bytes) : Prop where
  callback : ∀ cbor ev, handleClientRead cbor env ev pending =
    readHanded cbor env ev pending (handedToLoad env pending)
  exact : ∀ hdr b, handedToLoad env pending = .ok (hdr, b) →
    headerSize ≤ hdr.length.toNat ∧ hdr.length.toNat ≤ pending.length ∧
      b = (pending.take hdr.length.toNat).drop headerSize
  rejected : pending.length < (RpcHeader.read pending).length.toNat →
    ∃ e, handedToLoad env pending = .error e

section Receive

variable {cbor : Libcbor} {env : CallbackEnv} {pending b : Bytes} {hdr : RpcHeader} {ev : ℕ}

lemma handleClientRead_handed : handleClientRead cbor env ev pending =
    readHanded cbor env ev pending (handedToLoad env pending) := by
  unfold handleClientRead readHanded handedToLoad checkHeader
  simp only [Prog.ofExcept_bind, Prog.ofExcept_guard, Prog.ofExcept_ok_eq, bind_assoc, pure_bind]
  rfl

lemma handedToLoad_ok (h : handedToLoad env pending = .ok (hdr, b)) :
    checkHeader pending = .ok hdr ∧
      b = payloadBytes env pending (hdr.length.toNat - headerSize) := by
  obtain ⟨hdr', hcheck, h⟩ := except_bind_ok.mp h
  cases h
  exact ⟨hcheck, rfl⟩

lemma handedToLoad_exact (h : handedToLoad env pending = .ok (hdr, b))
    (hle : hdr.length.toNat ≤ pending.length) :
    b = (pending.take hdr.length.toNat).drop headerSize := by
  obtain ⟨-, rfl⟩ := handedToLoad_ok h
  rw [payloadBytes, ← List.drop_take, List.take_append_of_le_length hle]

/-- **Received bytes only**: a chunk is decoded from the bytes that were received, unless its
header claims up to eight bytes more. -/
theorem decodesReceived_iff (hsize : headerSize ≤ pending.length) :
    DecodesReceived env pending ↔
      ¬ ((RpcHeader.read pending).version = kRpcVersionLatest ∧
        pending.length < (RpcHeader.read pending).length.toNat ∧
        (RpcHeader.read pending).length.toNat ≤ pending.length + headerSize) := by
  constructor
  · rintro h ⟨hversion, hlong, hle⟩
    -- the check passes, since it counts the header among the payload
    have hcheck : checkHeader pending = .ok (RpcHeader.read pending) := by
      unfold checkHeader
      dsimp only
      rw [if_neg (by omega), if_neg (not_not.mpr hversion), if_neg (by omega), if_neg (by omega)]
    obtain ⟨e, he⟩ := h.rejected hlong
    unfold handedToLoad at he
    rw [hcheck] at he
    cases he
  · intro h
    have hwithin : ∀ hdr b, handedToLoad env pending = .ok (hdr, b) →
        headerSize ≤ hdr.length.toNat ∧ hdr.length.toNat ≤ pending.length := by
      intro hdr b hb
      obtain ⟨hread, hversion, hshort, hlong⟩ := checkHeader_ok (handedToLoad_ok hb).1
      subst hread
      refine ⟨hshort, ?_⟩
      by_contra hgt
      exact h ⟨hversion, not_le.mp hgt, by omega⟩
    refine ⟨fun _ _ => handleClientRead_handed, fun hdr b hb => ?_, fun hlong => ?_⟩
    · obtain ⟨hshort, hle⟩ := hwithin hdr b hb
      exact ⟨hshort, hle, handedToLoad_exact hb hle⟩
    · rcases hhanded : handedToLoad env pending with e | ⟨hdr, b⟩
      · exact ⟨e, rfl⟩
      · obtain ⟨-, hle⟩ := hwithin hdr b hhanded
        obtain ⟨hread, -⟩ := checkHeader_ok (handedToLoad_ok hhanded).1
        subst hread
        exact absurd hle (not_le.mpr hlong)

/-- A query behind which one more byte was received. -/
theorem decodesReceived_iff_sample :
    headerSize < sampleQuery.length ∧ DecodesReceived (.ok 0) (sampleQuery ++ [0]) :=
  ⟨by decide, (decodesReceived_iff (by decide)).mpr (by decide)⟩

/-- A header without a payload. -/
abbrev bareHeader (length : UInt16) : Bytes :=
  (⟨kRpcVersionLatest, length, kConfigQuery, 7, 0, 0⟩ : RpcHeader).bytes

/-- A header alone that claims nine bytes has one byte decoded that was not received. -/
theorem unreceived_byte_decoded : ¬ ∀ (env : CallbackEnv) (pending : Bytes),
    headerSize ≤ pending.length → DecodesReceived env pending := by
  intro h
  obtain ⟨-, hle, -⟩ := (h (.ok 0) (bareHeader 9) (by decide)).exact _ _ rfl
  revert hle
  decide

end Receive

end Sativa.RpcServer

/-! ### Sending -/

namespace Sativa.Rpc

open Sativa Sativa.Cbor Sativa.Store Sativa.RpcServer Sativa.Confd

/-- What a writer made of a payload: whether it returned, and what was transmitted. -/
structure Sent where
  returned : Bool
  bytes : Bytes

/-- The payload was transmitted in a packet with an exact length, or there was an error and
nothing was transmitted. -/
def Sent.Exact (s : Sent) (payload : Bytes) : Prop :=
  Framed s.bytes ∧ s.bytes.drop headerSize = payload ∨ s.returned = false ∧ s.bytes = []

/-- A socket that keeps what the kernel takes. -/
def tapSocket (kernel : Outcome) : Socket Bytes where
  write b taken := match kernel.count b.length with
    | .error errno => (.error errno, taken)
    | .ok n => (.ok n, taken ++ b.take n)
  read _ taken := (.ok [], taken)

/-- `sendPacket` of libconfd. -/
def sentByLibrary (kernel : Outcome) (conn : RpcConnection) (ep : UInt8) (payload : Bytes) : Sent :=
  let r := (Confd.sendPacket (tapSocket kernel) ep payload).run ⟨conn, []⟩
  ⟨r.1.isOk, r.2.sock⟩

/-- `replyTo` of confd. -/
def sentByServer (env : CallbackEnv) (s : Server) (ev : ℕ) (req : RpcHeader) (payload : Bytes) :
    Sent :=
  let r := (replyTo env ev req payload).run s
  ⟨r.1.isOk, newBytes ev s r.2⟩

/-- `sendPacket` of pl-common. -/
def sentByClient (kernel : Outcome) (c : PlCommon.ClientBase) (endpoint : UInt8) (payload : Bytes) :
    Sent :=
  let r := (PlCommon.sendPacket kernel endpoint payload).run c
  ⟨r.1.isOk, (r.2.written.drop c.written.length).flatMap Prod.snd⟩

abbrev packetSize (payload : Bytes) : ℕ := headerSize + payload.length

section Send

variable {hdr : RpcHeader} {payload : Bytes} {kernel : Outcome} {ep : UInt8}

/-- All three writers put the size of the packet into the header like this. -/
lemma framed_iff (h : hdr.length = UInt16.ofNat (packetSize payload)) :
    Framed (hdr.bytes ++ payload) ↔ packetSize payload < 2 ^ 16 := by
  have hlen : (hdr.bytes ++ payload).length = packetSize payload := by simp
  unfold Framed
  rw [RpcHeader.read_bytes_append, h, hlen, UInt16.toNat_ofNat']
  constructor
  · rintro ⟨-, hmod⟩
    rw [← hmod]
    exact Nat.mod_lt _ (by norm_num)
  · intro hlt
    exact ⟨Nat.le_add_right _ _, Nat.mod_eq_of_lt hlt⟩

lemma exact_nil {returned : Bool} : (⟨returned, []⟩ : Sent).Exact payload ↔ returned = false := by
  simp [Sent.Exact, Framed, headerSize]

lemma exact_take {returned : Bool} {n : ℕ} (h : hdr.length = UInt16.ofNat (packetSize payload))
    (hn : n ≤ packetSize payload) :
    (⟨returned, (hdr.bytes ++ payload).take n⟩ : Sent).Exact payload ↔
      n = packetSize payload ∧ packetSize payload < 2 ^ 16 ∨ returned = false ∧ n = 0 := by
  have hlen : (hdr.bytes ++ payload).length = packetSize payload := by simp
  have htake : ((hdr.bytes ++ payload).take n).length = n := by rw [List.length_take, hlen]; omega
  have hall : (hdr.bytes ++ payload).take (packetSize payload) = hdr.bytes ++ payload :=
    List.take_of_length_le hlen.le
  have hempty : (hdr.bytes ++ payload).take n = [] ↔ n = 0 := by
    rw [← List.length_eq_zero_iff, htake]
  unfold Sent.Exact
  refine or_congr ?_ (and_congr_right fun _ => hempty)
  constructor
  · rintro ⟨hframed, hdrop⟩
    have hsize : headerSize ≤ n := htake ▸ hframed.1
    have hwhole : n = packetSize payload := by
      have hrest := congrArg List.length hdrop
      rw [List.length_drop, htake] at hrest
      change n = headerSize + payload.length
      omega
    rw [hwhole, hall] at hframed
    exact ⟨hwhole, (framed_iff h).mp hframed⟩
  · rintro ⟨rfl, hlt⟩
    rw [hall]
    exact ⟨(framed_iff h).mpr hlt, RpcHeader.drop_bytes_append _ _⟩

lemma count_le {size n : ℕ} (h : kernel.count size = .ok n) : n ≤ size := by
  cases kernel with
  | full => cases h; exact le_refl _
  | short k =>
    cases h
    exact (min_le_right _ _).trans (Nat.sub_le _ _)
  | error e => cases h

lemma sentByLibrary_exact {conn : RpcConnection} :
    (sentByLibrary kernel conn ep payload).Exact payload ↔
      (∃ errno, kernel.count (packetSize payload) = .error errno) ∨
        kernel.count (packetSize payload) = .ok 0 ∨
        kernel.count (packetSize payload) = .ok (packetSize payload) ∧
          packetSize payload < 2 ^ 16 := by
  set packet := requestPacket ep (conn.nextTag + 1) payload with hpacket
  have hlen : packet.length = packetSize payload := by simp [hpacket, requestPacket]
  unfold sentByLibrary
  rw [run_sendPacket]
  rcases hk : kernel.count (packetSize payload) with errno | n
  · have hw : (tapSocket kernel).write packet [] = (.error errno, []) := by
      simp only [tapSocket, hlen, hk]
    simp only [Endpoint.sent, ← hpacket, hw]
    exact iff_of_true (exact_nil.mpr rfl) (.inl ⟨errno, rfl⟩)
  · have hw : (tapSocket kernel).write packet [] = (.ok n, packet.take n) := by
      simp only [tapSocket, hlen, hk, List.nil_append]
    simp only [Endpoint.sent, ← hpacket, hw, hlen]
    rw [hpacket, requestPacket, exact_take rfl (count_le hk)]
    by_cases hn : n = packetSize payload
    · simp [hn, headerSize, Except.isOk, Except.toBool]
    · simp [hn, Except.isOk, Except.toBool]

lemma sentByServer_exact {env : CallbackEnv} {s : Server} {ev : ℕ} {req : RpcHeader}
    (hc : s.clients ev ≠ none) : (sentByServer env s ev req payload).Exact payload ↔
      env.writeOk = false ∨ packetSize payload < 2 ^ 16 := by
  obtain ⟨client, hc⟩ := Option.ne_none_iff_exists'.mp hc
  unfold sentByServer
  cases hw : env.writeOk with
  | false =>
    have hrun : (replyTo env ev req payload).run s = (.error .writeReply, s.setClient ev
        { client with transmitBuf := replyPacket req payload }) := by
      rw [run_replyTo_send hc, send, hw]
      rfl
    rw [hrun]
    simp [newBytes, Server.setClient, exact_nil, Except.isOk, Except.toBool]
  | true =>
    rw [run_replyTo hc hw]
    have hnew : newBytes ev s (s.replied ev client.receiveBuf (replyPacket req payload) s.store) =
        replyPacket req payload := by simp [newBytes, Server.replied]
    have hframed := @framed_iff (replyHeader req (packetSize payload)) payload rfl
    simp only [hnew]
    simp [Sent.Exact, replyPacket, hframed, Except.isOk, Except.toBool]

lemma sentByClient_exact {c : PlCommon.ClientBase} :
    (sentByClient kernel c ep payload).Exact payload ↔
      (∃ errno, kernel.count (packetSize payload) = .error errno) ∨
        kernel.count (packetSize payload) = .ok (packetSize payload) ∧
          packetSize payload < 2 ^ 16 := by
  set hdr := PlCommon.packetHeader ep (PlCommon.advanceTag c.nextTag) (packetSize payload)
    with hhdr
  have hlen : (hdr.bytes ++ payload).length = packetSize payload := by simp
  unfold sentByClient
  rw [PlCommon.run_sendPacket]
  simp only [← hhdr, hlen]
  rcases hk : kernel.count (packetSize payload) with errno | n
  · simp [exact_nil, Except.isOk, Except.toBool]
  · simp only [List.drop_left, List.flatMap_cons, List.flatMap_nil, List.append_nil]
    rw [exact_take rfl (count_le hk)]
    simp [Except.isOk, Except.toBool]

lemma queryReply_framed {cbor : Libcbor} {env : CallbackEnv} {db store : Db} {key : Bytes}
    {pending packet : Bytes} {flags : Flags} {value : PropertyValue}
    (hserve : serve cbor env db pending = .ok (packet, store))
    (hdecode : decodeRequest cbor env pending = .ok (hdr, .query key flags))
    (hkey : key.length < 2 ^ 64) (hget : getKey db key = .ok value) :
    Framed packet ↔ headerSize + mapSize (replyPairs key value flags) < 2 ^ 16 := by
  obtain ⟨request, pairs, hrequest, hperform, rfl⟩ := serve_ok hserve
  cases hdecode.symm.trans hrequest
  rw [perform_query_ok hget] at hperform
  cases hperform
  rw [replyPacket, framed_iff rfl, packetSize, cbor.length_serialize (simple_queryReply hkey hget)]

/-- **Exact lengths**: a writer keeps to the length in the header if the packet is shorter than
`2 ^ 16` bytes and the kernel takes all of it, or if nothing is transmitted and the error is seen;
and the reply to a query does so if key and value leave room for the reply. -/
theorem length_exact_iff (cbor : Libcbor) (payload : Bytes) :
    (∀ kernel conn ep, (sentByLibrary kernel conn ep payload).Exact payload ↔
      (∃ errno, kernel.count (packetSize payload) = .error errno) ∨
        kernel.count (packetSize payload) = .ok 0 ∨
        kernel.count (packetSize payload) = .ok (packetSize payload) ∧
          packetSize payload < 2 ^ 16) ∧
    (∀ env s ev req, s.clients ev ≠ none →
      ((sentByServer env s ev req payload).Exact payload ↔
        env.writeOk = false ∨ packetSize payload < 2 ^ 16)) ∧
    (∀ kernel c ep, (sentByClient kernel c ep payload).Exact payload ↔
      (∃ errno, kernel.count (packetSize payload) = .error errno) ∨
        kernel.count (packetSize payload) = .ok (packetSize payload) ∧
          packetSize payload < 2 ^ 16) ∧
    ∀ env db pending packet store hdr key flags value,
      serve cbor env db pending = .ok (packet, store) →
      decodeRequest cbor env pending = .ok (hdr, .query key flags) → key.length < 2 ^ 64 →
      getKey db key = .ok value →
      (Framed packet ↔ headerSize + mapSize (replyPairs key value flags) < 2 ^ 16) :=
  ⟨fun _ _ _ => sentByLibrary_exact, fun _ _ _ _ => sentByServer_exact,
    fun _ _ _ => sentByClient_exact,
    fun _ _ _ _ _ _ _ _ _ hserve hdecode => queryReply_framed hserve hdecode⟩

/-- A client that is sent one byte, and the reply to a query for a key that is not there. -/
theorem length_exact_iff_sample :
    (sentByServer (.ok 0) ⟨fun _ => some ⟨[], []⟩, .initSchema, []⟩ 1
      (requestHeader kConfigQuery 7 8) [0]).Exact [0] ∧
    ∃ packet, serve codec (.ok 0) .initSchema sampleQuery = .ok (packet, .initSchema) ∧
      Framed packet := by
  obtain ⟨-, hserver, -, hquery⟩ := length_exact_iff codec [0]
  refine ⟨(hserver _ _ _ _ (by simp)).mpr (.inr (by decide)), _, rfl, ?_⟩
  exact (hquery (.ok 0) .initSchema sampleQuery _ _ _ (ascii "a") .none .monostate rfl rfl
    (by decide) rfl).mpr (by decide)

/-- An update with a blob of 65512 bytes is sent as a packet of `2 ^ 16` bytes, and its header says
`0`. -/
theorem update_length_wraps : ¬ ∀ (conn : RpcConnection) (key : CString) (blob : Region),
    (sentByLibrary .full conn kConfigUpdate
      (serializeUpdateRequest codec key (.bytestring blob.bytes))).Exact
        (serializeUpdateRequest codec key (.bytestring blob.bytes)) := by
  intro h
  obtain ⟨blob, hlen⟩ : ∃ blob : Region, blob.bytes.length = 65512 :=
    ⟨⟨List.replicate 65512 0, by rw [List.length_replicate]; omega⟩, List.length_replicate⟩
  set key : CString := ⟨ascii "a", by decide, by decide⟩ with hkey
  have hheads : headSize 2 = 1 ∧ headSize 65512 = 3 := by decide
  have hnames : (Item.string (ascii "key")).size = 4 ∧ (Item.string (ascii "value")).size = 6 ∧
    (Item.string key.bytes).size = 2 := by decide
  have hblob : (Item.bytestring blob.bytes).size = 65515 := by rw [Item.size, hlen, hheads.2]
  have hitem : (Item.bytestring blob.bytes).Scalar := blob.sized
  have hsize : packetSize (serializeUpdateRequest codec key (.bytestring blob.bytes)) = 2 ^ 16 := by
    rw [packetSize, serializeUpdateRequest, codec.length_serialize (simple_updatePairs hitem)]
    simp [mapSize, updatePairs, hnames, hblob, hheads, headerSize]
  rcases sentByLibrary_exact.mp (h .open key blob) with ⟨errno, herr⟩ | hzero | ⟨-, hlt⟩
  · cases herr
  · rw [hsize] at hzero
    cases hzero
  · exact absurd hlt (by rw [hsize]; decide)

end Send

end Sativa.Rpc
