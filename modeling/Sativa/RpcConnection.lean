import Sativa.Rpc
import Sativa.Prog
import Mathlib.Data.Int.Notation

/-!
The library's end of a connection: one request, one reply, with an 8-bit tag.

The socket is a parameter, so that the same code runs against a server that is delivered
whole packets and against a kernel that returns any counts and errors.
-/

namespace Sativa.Confd

open Sativa Sativa.Rpc

/-- The values of `errno`. -/
abbrev Errno := {n : ℕ // 0 < n}

/-- `write` and `read` on a stream with state `σ`: the count of bytes written, and the bytes
read into the buffer. -/
structure Socket (σ : Type) where
  write : Bytes → σ → Except Errno ℕ × σ
  read : ℕ → σ → Except Errno Bytes × σ

/-- `enum confd_status`. -/
inductive Status
  | success | typeMismatch | accessDenied | notFound | notSupported | invalidResponse | nullValue
  | noMemory | invalidArguments
  deriving DecidableEq

def Status.code : Status → ℤ
  | success => 0
  | typeMismatch => 1
  | accessDenied => 2
  | notFound => 3
  | notSupported => 4
  | invalidResponse => 5
  | nullValue => 6
  | noMemory => 7
  | invalidArguments => 8

/-- What the library throws. -/
inductive LibError where
  /-- a `ConfdError` with its status -/
  | confd (status : Status)
  /-- a `std::system_error` -/
  | system (errno : Errno)
  /-- `insufficient write` -/
  | insufficientWrite
  /-- `insufficient read (header)` -/
  | insufficientHeader
  /-- `invalid rpc version` -/
  | invalidVersion
  /-- `invalid rpc message length` -/
  | invalidLength
  /-- `insufficient read (payload)` -/
  | insufficientPayload
  /-- `received empty reply packet?` -/
  | emptyReply
  /-- `ep mismatch` -/
  | epMismatch
  /-- `tag mismatch` -/
  | tagMismatch
  /-- no exception: a null item was accessed -/
  | crash
  deriving DecidableEq

/-- `RpcConnection`. -/
structure RpcConnection where
  transmitBuf : Bytes
  receiveBuf : Bytes
  nextTag : UInt8

/-- A connection that was just opened. -/
def RpcConnection.open : RpcConnection := ⟨[], [], 0⟩

/-- A connection and its socket. -/
structure Endpoint (σ : Type) where
  conn : RpcConnection
  sock : σ

variable {σ : Type}

abbrev LibProg (σ : Type) := Prog LibError (Endpoint σ)

def Endpoint.setReceiveBuf (c : Endpoint σ) (receiveBuf : Bytes) : Endpoint σ :=
  { c with conn := { c.conn with receiveBuf } }

section Programs

variable (sock : Socket σ)

/-- `write`, with the check for an error. -/
def writeSocket (b : Bytes) : LibProg σ ℕ :=
  ⟨fun c => let r := sock.write b c.sock
    (r.1.mapError .system, { c with sock := r.2 })⟩

/-- `read`, with the check for an error. -/
def readSocket (n : ℕ) : LibProg σ Bytes :=
  ⟨fun c => let r := sock.read n c.sock
    (r.1.mapError .system, { c with sock := r.2 })⟩

/-- The header of a request of `msgSize` bytes. -/
def requestHeader (ep tag : UInt8) (msgSize : ℕ) : RpcHeader where
  version := kRpcVersionLatest
  length := UInt16.ofNat msgSize
  endpoint := ep
  tag := tag
  flags := 0
  reserved := 0

/-- `sendPacket` of a raw packet. -/
def sendRaw (packet : Bytes) : LibProg σ Unit := do
  let err ← writeSocket sock packet
  .throwIf (err ≠ packet.length) .insufficientWrite

/-- `sendPacket`: the tag of the packet. -/
def sendPacket (ep : UInt8) (payload : Bytes) : LibProg σ UInt8 := do
  let conn := (← Prog.get).conn
  let transmitBuf := splice (clearedBuffer conn.transmitBuf payload) headerSize payload
  let tag := conn.nextTag + 1
  let hdr := requestHeader ep tag (headerSize + payload.length)
  let transmitBuf := splice transmitBuf 0 hdr.bytes
  .modify fun c => { c with conn := { c.conn with transmitBuf, nextTag := tag } }
  sendRaw sock transmitBuf
  return tag

/-- `receivePacket`: what the receive buffer holds, which is more than the packet if the packet
has no payload. -/
def receivePacket : LibProg σ Bytes := do
  .modify fun c =>
    if c.conn.receiveBuf.length < headerSize then
      c.setReceiveBuf (resize c.conn.receiveBuf headerSize)
    else c
  let b ← readSocket sock headerSize
  .modify fun c => c.setReceiveBuf (splice c.conn.receiveBuf 0 b)
  .throwIf (b.length ≠ headerSize) .insufficientHeader
  let hdr := RpcHeader.read (← Prog.get).conn.receiveBuf
  .throwIf (hdr.version ≠ kRpcVersionLatest) .invalidVersion
  .throwIf (hdr.length.toNat < headerSize) .invalidLength
  let payloadToRead := hdr.length.toNat - headerSize
  .when (payloadToRead ≠ 0) do
    .modify fun c => c.setReceiveBuf (resize c.conn.receiveBuf (headerSize + payloadToRead))
    let b ← readSocket sock payloadToRead
    .modify fun c => c.setReceiveBuf (splice c.conn.receiveBuf headerSize b)
    .throwIf (b.length ≠ payloadToRead) .insufficientPayload
  return (← Prog.get).conn.receiveBuf

/-- `sendPacketWithReply`: the payload of the reply. -/
def sendPacketWithReply (ep : UInt8) (payload : Bytes) : LibProg σ Bytes := do
  let tag ← sendPacket sock ep payload
  let replyPacket ← receivePacket sock
  .throwIf (replyPacket = []) .emptyReply
  let replyHdr := RpcHeader.read replyPacket
  .throwIf (replyHdr.endpoint ≠ ep) .epMismatch
  .throwIf (replyHdr.tag ≠ tag) .tagMismatch
  return replyPacket.drop headerSize

end Programs

/-! ### Sending and receiving -/

section Runs

variable {sock : Socket σ} {c : Endpoint σ} {w : σ} {hdr : RpcHeader}

/-- The packet of a request. -/
def requestPacket (ep tag : UInt8) (payload : Bytes) : Bytes :=
  (requestHeader ep tag (headerSize + payload.length)).bytes ++ payload

/-- The connection after a packet was formed and written. -/
def Endpoint.sent (c : Endpoint σ) (sock : Socket σ) (ep : UInt8) (payload : Bytes) :
    Endpoint σ where
  conn := ⟨requestPacket ep (c.conn.nextTag + 1) payload, c.conn.receiveBuf, c.conn.nextTag + 1⟩
  sock := (sock.write (requestPacket ep (c.conn.nextTag + 1) payload) c.sock).2

lemma run_writeSocket {b : Bytes} {r : Except Errno ℕ} (h : sock.write b c.sock = (r, w)) :
    (writeSocket sock b).run c = (r.mapError .system, { c with sock := w }) := by
  simp [writeSocket, h]

lemma run_readSocket {n : ℕ} {r : Except Errno Bytes} (h : sock.read n c.sock = (r, w)) :
    (readSocket sock n).run c = (r.mapError .system, { c with sock := w }) := by
  simp [readSocket, h]

lemma run_sendPacket (ep : UInt8) (payload : Bytes) : (sendPacket sock ep payload).run c =
    (match (sock.write (requestPacket ep (c.conn.nextTag + 1) payload) c.sock).1 with
      | .error e => .error (.system e)
      | .ok n => if n = (requestPacket ep (c.conn.nextTag + 1) payload).length then
          .ok (c.conn.nextTag + 1) else .error .insufficientWrite,
      c.sent sock ep payload) := by
  unfold sendPacket
  rw [Prog.run_bind_of_ok Prog.run_get]
  simp only [splice_payload_header]
  rw [Prog.run_bind_of_ok (Prog.run_modify _)]
  set packet := requestPacket ep (c.conn.nextTag + 1) payload with hpacket
  set c₁ : Endpoint σ := ⟨⟨packet, c.conn.receiveBuf, c.conn.nextTag + 1⟩, c.sock⟩ with hc₁
  have hsent : c.sent sock ep payload = { c₁ with sock := (sock.write packet c.sock).2 } := rfl
  change ((writeSocket sock packet >>= fun err => Prog.throwIf (err ≠ packet.length)
    .insufficientWrite) >>= fun _ => pure (c.conn.nextTag + 1)).run c₁ = _
  rw [hsent, bind_assoc]
  rcases hw : sock.write packet c.sock with ⟨e | n, w⟩
  · exact Prog.run_bind_of_error (run_writeSocket (c := c₁) hw)
  · refine (Prog.run_bind_of_ok (run_writeSocket (c := c₁) hw)).trans ?_
    by_cases hn : n = packet.length
    · rw [Prog.throwIf_neg (not_not.mpr hn)]
      simp [hn]
    · rw [Prog.throwIf_pos hn, Prog.fail_bind]
      simp [hn]

/-- The receive buffer when the header is read. -/
def headerBuffer (receiveBuf : Bytes) : Bytes :=
  if receiveBuf.length < headerSize then resize receiveBuf headerSize else receiveBuf

lemma run_ensureHeader : (Prog.modify fun c : Endpoint σ => if c.conn.receiveBuf.length < headerSize
    then c.setReceiveBuf (resize c.conn.receiveBuf headerSize) else c : LibProg σ Unit).run c =
    (.ok (), c.setReceiveBuf (headerBuffer c.conn.receiveBuf)) := by
  rw [Prog.run_modify, headerBuffer]
  split_ifs <;> rfl

lemma length_headerBuffer (b : Bytes) : (headerBuffer b).length = max b.length headerSize := by
  unfold headerBuffer
  split
  · rw [length_resize]
    omega
  · omega

lemma length_headerRead (receiveBuf : Bytes) :
    (hdr.bytes ++ (headerBuffer receiveBuf).drop headerSize).length =
      max receiveBuf.length headerSize := by
  rw [List.length_append, List.length_drop, length_headerBuffer, RpcHeader.length_bytes]
  omega

lemma run_receivePacket_of_short {r : Except Errno Bytes}
    (hread : sock.read headerSize c.sock = (r, w)) (hr : ∀ b, r = .ok b → b.length < headerSize) :
    ∃ receiveBuf, receiveBuf.length = max c.conn.receiveBuf.length headerSize ∧
      (receivePacket sock).run c =
        (match r with
          | .error errno => .error (.system errno)
          | .ok _ => .error .insufficientHeader,
          { c with sock := w }.setReceiveBuf receiveBuf) := by
  set c₀ : Endpoint σ := c.setReceiveBuf (headerBuffer c.conn.receiveBuf)
  unfold receivePacket
  rw [Prog.run_bind_of_ok run_ensureHeader]
  have hlength := length_headerBuffer c.conn.receiveBuf
  rcases r with errno | b
  · exact ⟨headerBuffer c.conn.receiveBuf, hlength,
      Prog.run_bind_of_error (run_readSocket (c := c₀) hread)⟩
  · have hb := hr b rfl
    refine ⟨splice (headerBuffer c.conn.receiveBuf) 0 b, ?_, ?_⟩
    · rw [length_splice (by omega), hlength]
    · rw [Prog.run_bind_of_ok (run_readSocket (c := c₀) hread),
        Prog.run_bind_of_ok (Prog.run_modify _), Prog.throwIf_pos hb.ne]
      rfl

/-- What is left to do when a header of the right version is at the start of the buffer of `c`. -/
def receiveBehind (sock : Socket σ) (hdr : RpcHeader) (w : σ) (c : Endpoint σ) :
    Except LibError Bytes × Endpoint σ :=
  if hdr.length.toNat < headerSize then (.error .invalidLength, c)
  else if hdr.length.toNat = headerSize then (.ok c.conn.receiveBuf, c)
  else match sock.read (hdr.length.toNat - headerSize) w with
    | (.error e, w') => (.error (.system e), { c with sock := w' }.setReceiveBuf
        (resize c.conn.receiveBuf hdr.length.toNat))
    | (.ok b, w') =>
      let c' : Endpoint σ := { c with sock := w' }.setReceiveBuf
        (splice (resize c.conn.receiveBuf hdr.length.toNat) headerSize b)
      (if b.length ≠ hdr.length.toNat - headerSize then .error .insufficientPayload
        else .ok c'.conn.receiveBuf, c')

lemma run_receivePacket_of_header (hread : sock.read headerSize c.sock = (.ok hdr.bytes, w)) :
    let c₁ : Endpoint σ := { c with sock := w }.setReceiveBuf
      (hdr.bytes ++ (headerBuffer c.conn.receiveBuf).drop headerSize)
    (receivePacket sock).run c =
      if hdr.version ≠ kRpcVersionLatest then (.error .invalidVersion, c₁)
      else receiveBehind sock hdr w c₁ := by
  intro c₁
  set c₀ : Endpoint σ := c.setReceiveBuf (headerBuffer c.conn.receiveBuf)
  have hread₀ : (readSocket sock headerSize).run c₀ = (.ok hdr.bytes, { c₀ with sock := w }) :=
    run_readSocket (c := c₀) hread
  have hsplice : (Prog.modify fun c : Endpoint σ => c.setReceiveBuf
      (splice c.conn.receiveBuf 0 hdr.bytes) : LibProg σ Unit).run { c₀ with sock := w } =
      (.ok (), c₁) := rfl
  have hhdr : RpcHeader.read c₁.conn.receiveBuf = hdr := RpcHeader.read_bytes_append _ _
  -- the checks in the order of the source: version, length below a header, no payload, payload
  unfold receivePacket
  rw [Prog.run_bind_of_ok run_ensureHeader, Prog.run_bind_of_ok hread₀, Prog.run_bind_of_ok hsplice,
    Prog.throwIf_neg (by simp), pure_bind, Prog.run_bind_of_ok Prog.run_get, hhdr]
  dsimp only
  by_cases hv : hdr.version ≠ kRpcVersionLatest
  · rw [if_pos hv, Prog.throwIf_pos hv]
    rfl
  rw [if_neg hv, Prog.throwIf_neg hv, pure_bind, receiveBehind]
  by_cases hshort : hdr.length.toNat < headerSize
  · rw [if_pos hshort, Prog.throwIf_pos hshort]
    rfl
  rw [if_neg hshort, Prog.throwIf_neg hshort, pure_bind]
  by_cases hempty : hdr.length.toNat = headerSize
  · rw [if_pos hempty, Prog.when, if_neg (by omega), pure_bind]
    rfl
  -- the buffer is resized to the whole packet, and the payload is read behind the header
  have hlen : headerSize + (hdr.length.toNat - headerSize) = hdr.length.toNat := by omega
  rw [if_neg hempty, Prog.when, if_pos (by omega), bind_assoc,
    Prog.run_bind_of_ok (Prog.run_modify _), hlen, bind_assoc]
  set c₂ : Endpoint σ := c₁.setReceiveBuf (resize c₁.conn.receiveBuf hdr.length.toNat) with hc₂
  rcases hr : sock.read (hdr.length.toNat - headerSize) w with ⟨e | b, w'⟩
  · exact Prog.run_bind_of_error (run_readSocket (c := c₂) hr)
  · rw [Prog.run_bind_of_ok (run_readSocket (c := c₂) hr), bind_assoc,
      Prog.run_bind_of_ok (Prog.run_modify _)]
    by_cases hb : b.length ≠ hdr.length.toNat - headerSize
    · rw [Prog.throwIf_pos hb]
      simp [hb]
      rfl
    · rw [Prog.throwIf_neg hb]
      simp [hb]
      rfl

lemma run_receivePacket (hread : sock.read headerSize c.sock = (.ok hdr.bytes, w))
    (hv : hdr.version = kRpcVersionLatest) :
    (receivePacket sock).run c = receiveBehind sock hdr w ({ c with sock := w }.setReceiveBuf
      (hdr.bytes ++ (headerBuffer c.conn.receiveBuf).drop headerSize)) := by
  rw [run_receivePacket_of_header hread, if_neg (not_not.mpr hv)]

lemma drop_headerBuffer (receiveBuf : Bytes) :
    (headerBuffer receiveBuf).drop headerSize = receiveBuf.drop headerSize := by
  unfold headerBuffer
  split_ifs with h
  · rw [List.drop_eq_nil_of_le (by simp), List.drop_eq_nil_of_le (by omega)]
  · rfl

section Receive

variable (hread : sock.read headerSize c.sock = (.ok hdr.bytes, w))
  (hv : hdr.version = kRpcVersionLatest)

include hread hv

lemma receivePacket_invalid (hlen : hdr.length.toNat < headerSize) :
    ∃ c', (receivePacket sock).run c = (.error .invalidLength, c') ∧ c'.sock = w := by
  rw [run_receivePacket hread hv, receiveBehind, if_pos hlen]
  exact ⟨_, rfl, rfl⟩

/-- A packet without payload leaves what the buffer held behind its header. -/
lemma receivePacket_empty (hlen : hdr.length.toNat = headerSize) :
    ∃ c', (receivePacket sock).run c =
      (.ok (hdr.bytes ++ c.conn.receiveBuf.drop headerSize), c') ∧ c'.sock = w := by
  rw [run_receivePacket hread hv, receiveBehind, if_neg (by omega), if_pos hlen, drop_headerBuffer]
  exact ⟨_, rfl, rfl⟩

variable {b : Bytes} {w' : σ}

lemma receivePacket_whole (hlen : hdr.length.toNat = headerSize + b.length) (hb : b ≠ [])
    (hbody : sock.read b.length w = (.ok b, w')) :
    (receivePacket sock).run c =
      (.ok (hdr.bytes ++ b), { c with sock := w' }.setReceiveBuf (hdr.bytes ++ b)) := by
  have hpos : 0 < b.length := List.length_pos_iff.mpr hb
  have hsplice :=
    splice_resize_append hdr.bytes ((headerBuffer c.conn.receiveBuf).drop headerSize) b
  rw [RpcHeader.length_bytes] at hsplice
  have hbody' : sock.read (hdr.length.toNat - headerSize) w = (.ok b, w') := by
    rw [hlen, Nat.add_sub_cancel_left, hbody]
  rw [run_receivePacket hread hv, receiveBehind, if_neg (by omega), if_neg (by omega), hbody']
  dsimp only [Endpoint.setReceiveBuf]
  rw [if_neg (by omega), hlen, hsplice]

end Receive

lemma run_sendPacketWithReply_of_error {ep : UInt8} {payload : Bytes} {tag : UInt8} {e : LibError}
    {c₁ c₂ : Endpoint σ} (hsend : (sendPacket sock ep payload).run c = (.ok tag, c₁))
    (hrecv : (receivePacket sock).run c₁ = (.error e, c₂)) :
    (sendPacketWithReply sock ep payload).run c = (.error e, c₂) := by
  unfold sendPacketWithReply
  rw [Prog.run_bind_of_ok hsend, Prog.run_bind_of_error hrecv]

lemma run_sendPacketWithReply_of_packet {ep : UInt8} {payload b : Bytes} {tag : UInt8}
    {c₁ c₂ : Endpoint σ} (hsend : (sendPacket sock ep payload).run c = (.ok tag, c₁))
    (hrecv : (receivePacket sock).run c₁ = (.ok (hdr.bytes ++ b), c₂)) :
    (sendPacketWithReply sock ep payload).run c =
      (if hdr.endpoint ≠ ep then .error .epMismatch
        else if hdr.tag ≠ tag then .error .tagMismatch else .ok b, c₂) := by
  have hne : hdr.bytes ++ b ≠ [] := List.append_ne_nil_of_left_ne_nil (by simp [RpcHeader.bytes]) b
  unfold sendPacketWithReply
  rw [Prog.run_bind_of_ok hsend, Prog.run_bind_of_ok hrecv, Prog.throwIf_neg hne, pure_bind]
  simp only [RpcHeader.read_bytes_append]
  by_cases hep : hdr.endpoint ≠ ep
  · rw [Prog.throwIf_pos hep, Prog.fail_bind, if_pos hep]
    rfl
  rw [Prog.throwIf_neg hep, pure_bind, if_neg hep]
  by_cases htag : hdr.tag ≠ tag
  · rw [Prog.throwIf_pos htag, Prog.fail_bind, if_pos htag]
    rfl
  rw [Prog.throwIf_neg htag, pure_bind, if_neg htag]
  rfl

lemma run_sendPacketWithReply {ep : UInt8} {payload b : Bytes} {tag : UInt8} {c₁ c₂ : Endpoint σ}
    (hsend : (sendPacket sock ep payload).run c = (.ok tag, c₁))
    (hrecv : (receivePacket sock).run c₁ = (.ok (hdr.bytes ++ b), c₂))
    (hep : hdr.endpoint = ep) (htag : hdr.tag = tag) :
    (sendPacketWithReply sock ep payload).run c = (.ok b, c₂) := by
  rw [run_sendPacketWithReply_of_packet hsend hrecv, if_neg (not_not.mpr hep),
    if_neg (not_not.mpr htag)]

end Runs

end Sativa.Confd
