import Sativa.Confd
import Sativa.RpcFraming

/-!
The library connected to the server, with packets delivered whole.

What the library writes is one chunk for the server's read callback, and what the server
writes back is read in order. When the server drops the client, reads find the end of the
stream.
-/

namespace Sativa.Confd

open Sativa Sativa.Rpc Sativa.Cbor Sativa.RpcServer Sativa.Store

/-! ### Requests -/

section Requests

variable {ep tag : UInt8} {payload : Bytes}

lemma toNat_length_requestPacket :
    (RpcHeader.read (requestPacket ep tag payload)).length.toNat =
      (headerSize + payload.length) % 2 ^ 16 := by
  simp [requestPacket, requestHeader]

lemma framed_requestPacket (hfit : headerSize + payload.length < 2 ^ 16) :
    Framed (requestPacket ep tag payload) := by
  refine ⟨by simp [requestPacket], ?_⟩
  rw [toNat_length_requestPacket, Nat.mod_eq_of_lt hfit]
  simp [requestPacket]

end Requests

/-! ### The socket -/

/-- A client of the server, and what was written to it and not read yet. -/
structure Link where
  server : Server
  ev : ℕ
  inbox : Bytes

/-- The client is connected and has read everything. -/
def Link.Idle (l : Link) : Prop := l.server.clients l.ev ≠ none ∧ l.inbox = []

/-- What the server wrote to a client between two states. -/
def newBytes (ev : ℕ) (s s' : Server) : Bytes :=
  ((s'.written.drop s.written.length).filter fun r => r.1 == ev).flatMap Prod.snd

def epipe : Errno := ⟨32, by decide⟩

/-- The socket of a client, when its chunks are handled in the environment `env`. -/
def linkSocket (cbor : Libcbor) (env : CallbackEnv) : Socket Link where
  write packet l := match l.server.clients l.ev with
    | none => (.error epipe, l)
    | some _ =>
      let server := (step cbor l.server (.read l.ev packet env)).2
      (.ok packet.length, ⟨server, l.ev, l.inbox ++ newBytes l.ev l.server server⟩)
  read n l := (.ok (l.inbox.take n), { l with inbox := l.inbox.drop n })

section Write

variable {cbor : Libcbor} {env : CallbackEnv} {l : Link} {packet : Bytes}

lemma link_write_refused {e : RpcError} (hl : l.server.clients l.ev ≠ none)
    (hw : env.writeOk = true) (h : serve cbor env l.server.store packet = .error e) :
    (linkSocket cbor env).write packet l =
      (.ok packet.length, ⟨l.server.erase l.ev, l.ev, l.inbox⟩) := by
  obtain ⟨client, hc⟩ := Option.ne_none_iff_exists'.mp hl
  have hstep : (step cbor l.server (.read l.ev packet env)).2 = l.server.erase l.ev := by
    change (readCallback cbor env l.server l.ev packet).2 = _
    rw [readCallback_eq hc hw, h]
  unfold linkSocket
  simp [hc, hstep, newBytes, Server.erase]

lemma link_write_served {reply : Bytes} {store : Db} (hl : l.server.clients l.ev ≠ none)
    (hw : env.writeOk = true) (h : serve cbor env l.server.store packet = .ok (reply, store)) :
    (linkSocket cbor env).write packet l = (.ok packet.length,
      ⟨l.server.replied l.ev packet reply store, l.ev, l.inbox ++ reply⟩) := by
  obtain ⟨client, hc⟩ := Option.ne_none_iff_exists'.mp hl
  have hstep : (step cbor l.server (.read l.ev packet env)).2 =
      l.server.replied l.ev packet reply store := by
    change (readCallback cbor env l.server l.ev packet).2 = _
    rw [readCallback_eq hc hw, h]
  unfold linkSocket
  simp [hc, hstep, newBytes, Server.replied]

end Write

/-! ### One request and its reply -/

section Exchange

variable {cbor : Libcbor} {env : CallbackEnv} {c : Endpoint Link} {ep : UInt8} {payload : Bytes}

lemma sendPacket_link {w : Link} (hwrite : (linkSocket cbor env).write
      (requestPacket ep (c.conn.nextTag + 1) payload) c.sock =
        (.ok (requestPacket ep (c.conn.nextTag + 1) payload).length, w)) :
    (sendPacket (linkSocket cbor env) ep payload).run c = (.ok (c.conn.nextTag + 1),
      ⟨⟨requestPacket ep (c.conn.nextTag + 1) payload, c.conn.receiveBuf, c.conn.nextTag + 1⟩,
        w⟩) := by
  rw [run_sendPacket, hwrite]
  simp [Endpoint.sent, hwrite]

lemma exchange_refused {e : RpcError} (hidle : c.sock.Idle) (hw : env.writeOk = true)
    (h : serve cbor env c.sock.server.store (requestPacket ep (c.conn.nextTag + 1) payload) =
      .error e) :
    ∃ c', (sendPacketWithReply (linkSocket cbor env) ep payload).run c =
      (.error .insufficientHeader, c') := by
  have hsend := sendPacket_link (link_write_refused hidle.1 hw h)
  have hread : (linkSocket cbor env).read headerSize
      ⟨c.sock.server.erase c.sock.ev, c.sock.ev, c.sock.inbox⟩ =
      (.ok [], ⟨c.sock.server.erase c.sock.ev, c.sock.ev, []⟩) := by
    simp [linkSocket, hidle.2]
  unfold sendPacketWithReply
  rw [Prog.run_bind_of_ok hsend]
  obtain ⟨receiveBuf, -, hrecv⟩ := run_receivePacket_of_short (c := ⟨_, _⟩) hread
    (fun b hb => by cases hb; decide)
  exact ⟨_, Prog.run_bind_of_error hrecv⟩

/-- The connection when the reply to a request is in the inbox. -/
def Endpoint.awaiting (c : Endpoint Link) (ep : UInt8) (payload reply : Bytes) (store : Db) :
    Endpoint Link where
  conn := ⟨requestPacket ep (c.conn.nextTag + 1) payload, c.conn.receiveBuf, c.conn.nextTag + 1⟩
  sock := ⟨c.sock.server.replied c.sock.ev (requestPacket ep (c.conn.nextTag + 1) payload) reply
    store, c.sock.ev, reply⟩

section Served

variable {p : Bytes} {store : Db}

/-- The header of the reply to the request with the next tag. -/
def Endpoint.replyHdr (c : Endpoint Link) (ep : UInt8) (payload p : Bytes) : RpcHeader :=
  replyHeader (requestHeader ep (c.conn.nextTag + 1) (headerSize + payload.length))
    (headerSize + p.length)

lemma toNat_length_replyHdr : (c.replyHdr ep payload p).length.toNat =
    (headerSize + p.length) % 2 ^ 16 := by
  simp [Endpoint.replyHdr, replyHeader]

lemma read_header_served : (linkSocket cbor env).read headerSize
    (c.awaiting ep payload ((c.replyHdr ep payload p).bytes ++ p) store).sock =
      (.ok (c.replyHdr ep payload p).bytes,
        { (c.awaiting ep payload ((c.replyHdr ep payload p).bytes ++ p) store).sock with
          inbox := p }) := by
  simp [linkSocket, Endpoint.awaiting]

variable (hidle : c.sock.Idle) (hw : env.writeOk = true)
  (hserve : serve cbor env c.sock.server.store (requestPacket ep (c.conn.nextTag + 1) payload) =
    .ok ((c.replyHdr ep payload p).bytes ++ p, store))

include hidle hw hserve

lemma sendPacket_served : (sendPacket (linkSocket cbor env) ep payload).run c =
    (.ok (c.conn.nextTag + 1),
      c.awaiting ep payload ((c.replyHdr ep payload p).bytes ++ p) store) := by
  rw [sendPacket_link (link_write_served hidle.1 hw hserve), hidle.2, List.nil_append]
  rfl

lemma exchange_fits (hp : p ≠ []) (hfit : headerSize + p.length < 2 ^ 16) :
    ∃ c', (sendPacketWithReply (linkSocket cbor env) ep payload).run c = (.ok p, c') ∧
      c'.conn.receiveBuf = (c.replyHdr ep payload p).bytes ++ p ∧ c'.sock.Idle ∧
      c'.sock.ev = c.sock.ev ∧ c'.sock.server.store = store := by
  have hlen : (c.replyHdr ep payload p).length.toNat = headerSize + p.length := by
    rw [toNat_length_replyHdr, Nat.mod_eq_of_lt hfit]
  set c₁ := c.awaiting ep payload ((c.replyHdr ep payload p).bytes ++ p) store with hc₁
  have hbody : (linkSocket cbor env).read p.length { c₁.sock with inbox := p } =
      (.ok p, { c₁.sock with inbox := [] }) := by simp [linkSocket]
  have hrecv := receivePacket_whole (c := c₁) read_header_served rfl hlen hp hbody
  refine ⟨_, run_sendPacketWithReply (sendPacket_served hidle hw hserve) hrecv rfl rfl, rfl,
    ⟨?_, rfl⟩, rfl, rfl⟩
  simp [Endpoint.setReceiveBuf, hc₁, Endpoint.awaiting, Server.replied]

lemma exchange_invalid (hlen : (headerSize + p.length) % 2 ^ 16 < headerSize) :
    ∃ c', (sendPacketWithReply (linkSocket cbor env) ep payload).run c =
      (.error .invalidLength, c') := by
  have hread := @read_header_served cbor env c ep payload p store
  obtain ⟨c', hrecv, -⟩ := receivePacket_invalid hread rfl
    (by rw [toNat_length_replyHdr]; exact hlen)
  refine ⟨c', ?_⟩
  unfold sendPacketWithReply
  rw [Prog.run_bind_of_ok (sendPacket_served hidle hw hserve)]
  exact Prog.run_bind_of_error hrecv

lemma exchange_stale (hlen : (headerSize + p.length) % 2 ^ 16 = headerSize) :
    ∃ c', (sendPacketWithReply (linkSocket cbor env) ep payload).run c =
      (.ok (c.conn.receiveBuf.drop headerSize), c') := by
  have hread := @read_header_served cbor env c ep payload p store
  obtain ⟨c', hrecv, -⟩ := receivePacket_empty hread rfl
    (by rw [toNat_length_replyHdr]; exact hlen)
  exact ⟨c', run_sendPacketWithReply (sendPacket_served hidle hw hserve) hrecv rfl rfl⟩

lemma exchange_cut (hwrap : 2 ^ 16 ≤ headerSize + p.length)
    (hlen : headerSize < (headerSize + p.length) % 2 ^ 16) :
    ∃ n < p.length, ∃ c', (sendPacketWithReply (linkSocket cbor env) ep payload).run c =
      (.ok (p.take n), c') := by
  set n := (headerSize + p.length) % 2 ^ 16 - headerSize with hn
  have hnp : n < p.length := by
    have := Nat.mod_lt (headerSize + p.length) (show 0 < 2 ^ 16 by norm_num)
    omega
  have htake : (p.take n).length = n := by rw [List.length_take]; omega
  have hne : p.take n ≠ [] := List.length_pos_iff.mp (by omega)
  set c₁ := c.awaiting ep payload ((c.replyHdr ep payload p).bytes ++ p) store
  have hbody : (linkSocket cbor env).read (p.take n).length { c₁.sock with inbox := p } =
      (.ok (p.take n), { c₁.sock with inbox := p.drop n }) := by
    rw [htake]
    rfl
  have hrecv := receivePacket_whole (c := c₁) read_header_served rfl
    (by rw [toNat_length_replyHdr, htake]; omega) hne hbody
  exact ⟨n, hnp, _, run_sendPacketWithReply (sendPacket_served hidle hw hserve) hrecv rfl rfl⟩

end Served

end Exchange

end Sativa.Confd
