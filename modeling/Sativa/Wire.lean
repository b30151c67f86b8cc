import Sativa.Link

/-!
The library on a stream whose kernel returns any counts and errors.

The other end is an ideal confd: it splits what it receives into requests by their header
lengths, and answers each of them once and in order. Which payloads it answers with is a
parameter. As long as no transfer is cut, the stream that the library reads is a sequence of
whole replies, from the oldest that is still unread to the one for the request just sent.
-/

namespace Sativa.Confd

open Sativa Sativa.Rpc Sativa.RpcServer

/-- What the kernel makes of a `write` or a `read`. -/
inductive Outcome
  | full
  | short (n : ℕ)
  | error (errno : Errno)

/-- The bytes transferred of `asked`; fewer than asked if the outcome is short. -/
def Outcome.count (asked : ℕ) : Outcome → Except Errno ℕ
  | full => .ok asked
  | short n => .ok (min n (asked - 1))
  | error e => .error e

/-- The outcomes of the `write` and the `read`s of one call of the library. -/
structure Kernel where
  write : Outcome
  header : Outcome
  payload : Outcome

/-- The payload of the reply to a request, after earlier ones. -/
abbrev Peer := List Bytes → Bytes → Bytes

/-- The stream between the library and the other end. -/
structure Wire where
  /-- the outcomes of the transfers to come -/
  kernel : List Outcome
  /-- the requests that the other end has received whole and answered -/
  requests : List Bytes
  /-- what it has received of a further request -/
  pending : Bytes
  /-- what it has sent and was not read yet -/
  inbox : Bytes

/-- The other end answers the request at the front of what it has received, if it is whole. -/
def Wire.answer (peer : Peer) (w : Wire) : Wire :=
  let len := (RpcHeader.read w.pending).length.toNat
  if headerSize ≤ w.pending.length ∧ headerSize ≤ len ∧ len ≤ w.pending.length then
    let request := w.pending.take len
    { w with
      requests := w.requests ++ [request]
      pending := w.pending.drop len
      inbox := w.inbox ++ replyPacket (RpcHeader.read request) (peer w.requests request) }
  else w

/-- The other end receives some bytes; each of them completes at most one request. -/
def Wire.receive (peer : Peer) (w : Wire) (b : Bytes) : Wire :=
  (Wire.answer peer)^[b.length] { w with pending := w.pending ++ b }

def Wire.next (w : Wire) : Outcome × Wire :=
  (w.kernel.headD .full, { w with kernel := w.kernel.tail })

def wireSocket (peer : Peer) : Socket Wire where
  write packet w := match w.next.1.count packet.length with
    | .error e => (.error e, w.next.2)
    | .ok n => (.ok n, w.next.2.receive peer (packet.take n))
  read n w := match w.next.1.count n with
    | .error e => (.error e, w.next.2)
    | .ok k => (.ok (w.inbox.take k), { w.next.2 with inbox := w.inbox.drop k })

/-- The connection at the start of a call with these outcomes. -/
def Endpoint.withKernel (c : Endpoint Wire) (kernel : Kernel) : Endpoint Wire :=
  { c with sock := { c.sock with kernel := [kernel.write, kernel.header, kernel.payload] } }

@[simp] lemma Endpoint.conn_withKernel (c : Endpoint Wire) (kernel : Kernel) :
    (c.withKernel kernel).conn = c.conn := rfl

/-- Every reply has a payload, and a length that its header counts. -/
structure Peer.Exact (peer : Peer) : Prop where
  nonempty : ∀ past request, peer past request ≠ []
  fits : ∀ past request, headerSize + (peer past request).length < 2 ^ 16

/-- A reply as the other end sends it. -/
structure WholeReply where
  hdr : RpcHeader
  payload : Bytes
  version : hdr.version = kRpcVersionLatest
  exact : hdr.length.toNat = headerSize + payload.length
  nonempty : payload ≠ []

def WholeReply.bytes (r : WholeReply) : Bytes := r.hdr.bytes ++ r.payload

/-- Nothing was received in part, and what is unread is a sequence of whole replies. -/
structure Wire.Aligned (w : Wire) : Prop where
  pending : w.pending = []
  inbox : ∃ unread : List WholeReply, w.inbox = unread.flatMap WholeReply.bytes

section Wire

variable {peer : Peer} {w : Wire}

lemma iterate_answer_of_nil (h : w.pending = []) (n : ℕ) : (Wire.answer peer)^[n] w = w := by
  have hfix : Wire.answer peer w = w := by
    unfold Wire.answer
    rw [if_neg (by simp [h, headerSize])]
  exact Function.iterate_fixed hfix n

/-- A whole request is answered at once. -/
lemma receive_framed {packet : Bytes} (hp : w.pending = []) (hf : Framed packet) :
    w.receive peer packet =
      { w with
        requests := w.requests ++ [packet]
        inbox := w.inbox ++ replyPacket (RpcHeader.read packet) (peer w.requests packet) } := by
  obtain ⟨hsize, hlen⟩ := hf
  obtain ⟨n, hn⟩ : ∃ n, packet.length = n + 1 :=
    Nat.exists_eq_succ_of_ne_zero (by unfold headerSize at hsize; omega)
  have hanswer : Wire.answer peer { w with pending := packet } =
      { w with
        requests := w.requests ++ [packet]
        pending := []
        inbox := w.inbox ++ replyPacket (RpcHeader.read packet) (peer w.requests packet) } := by
    unfold Wire.answer
    simp only [hlen]
    rw [if_pos ⟨hsize, hsize, le_refl _⟩, List.take_length, List.drop_length]
  rw [Wire.receive, hp, List.nil_append, hn, Function.iterate_succ_apply, hanswer,
    iterate_answer_of_nil rfl]

/-- The reply to a request of the library. -/
def ownReply (hpeer : peer.Exact) (past : List Bytes) (ep tag : UInt8) (payload : Bytes) :
    WholeReply where
  hdr := replyHeader (requestHeader ep tag (headerSize + payload.length))
    (headerSize + (peer past (requestPacket ep tag payload)).length)
  payload := peer past (requestPacket ep tag payload)
  version := rfl
  exact := by
    have hfits := hpeer.fits past (requestPacket ep tag payload)
    simp only [replyHeader, UInt16.toNat_ofNat']
    exact Nat.mod_eq_of_lt hfits
  nonempty := hpeer.nonempty _ _

end Wire

/-! ### One request -/

section Exchange

variable {peer : Peer} {c : Endpoint Wire} {ep : UInt8} {payload : Bytes} {kernel : Kernel}

/-- The transfers of a call that are not errors are full, the payload of the reply is read, and the
oldest reply that is still unread has another tag than the request. -/
structure Undisturbed (c : Endpoint Wire) (payload : Bytes) (kernel : Kernel) : Prop where
  fits : headerSize + payload.length < 2 ^ 16
  write : ∀ n, kernel.write ≠ .short n
  header : ∀ n, kernel.header ≠ .short n
  payload : kernel.payload = .full
  tag : c.sock.inbox ≠ [] → (RpcHeader.read c.sock.inbox).tag ≠ c.conn.nextTag + 1

/-- How a call ends that is undisturbed: the stream is still a sequence of whole replies, and a
reply that is accepted is the one to the request of the call. -/
structure Exchanged (peer : Peer) (c : Endpoint Wire) (ep : UInt8) (payload : Bytes)
    (r : Except LibError Bytes × Endpoint Wire) : Prop where
  aligned : r.2.sock.Aligned
  error : ∀ e, r.1 = .error e → e.exit ≠ .status 0
  own : ∀ reply, r.1 = .ok reply →
    reply = peer c.sock.requests (requestPacket ep (c.conn.nextTag + 1) payload) ∧
      r.2.sock.requests = c.sock.requests ++ [requestPacket ep (c.conn.nextTag + 1) payload]

lemma exchanged_of_error {e : LibError} {c' : Endpoint Wire} (ha : c'.sock.Aligned)
    (he : e.exit ≠ .status 0) : Exchanged peer c ep payload (.error e, c') :=
  ⟨ha, fun _ h => (by cases h; exact he), fun _ h => (by cases h)⟩

lemma exit_system (errno : Errno) : (LibError.system errno).exit ≠ .status 0 := by
  have := errno.property
  simp only [LibError.exit, ne_eq, Exit.status.injEq]
  omega

/-- The stream after the request was written whole. -/
def Endpoint.written (c : Endpoint Wire) (peer : Peer) (ep : UInt8) (payload : Bytes)
    (kernel : Kernel) : Endpoint Wire where
  conn := ⟨requestPacket ep (c.conn.nextTag + 1) payload, c.conn.receiveBuf, c.conn.nextTag + 1⟩
  sock := ⟨[kernel.header, kernel.payload],
    c.sock.requests ++ [requestPacket ep (c.conn.nextTag + 1) payload], [],
    c.sock.inbox ++
      replyPacket (requestHeader ep (c.conn.nextTag + 1) (headerSize + payload.length))
        (peer c.sock.requests (requestPacket ep (c.conn.nextTag + 1) payload))⟩

lemma sendPacket_full (ha : c.sock.Aligned) (hfit : headerSize + payload.length < 2 ^ 16)
    (hw : kernel.write = .full) :
    (sendPacket (wireSocket peer) ep payload).run (c.withKernel kernel) =
      (.ok (c.conn.nextTag + 1), c.written peer ep payload kernel) := by
  set packet := requestPacket ep (c.conn.nextTag + 1) payload with hpacket
  have hread : RpcHeader.read packet = requestHeader ep (c.conn.nextTag + 1)
    (headerSize + payload.length) := RpcHeader.read_bytes_append _ _
  have hwrite : (wireSocket peer).write packet (c.withKernel kernel).sock =
      (.ok packet.length, (c.written peer ep payload kernel).sock) := by
    have hreceive := @receive_framed peer { c.sock with kernel := [kernel.header, kernel.payload] }
      packet ha.pending (framed_requestPacket hfit)
    simp only [wireSocket, Endpoint.withKernel, Wire.next, List.headD_cons, hw, Outcome.count,
      List.tail_cons, List.take_length]
    rw [hreceive, hread]
    simp [Endpoint.written, ha.pending, hpacket]
  rw [run_sendPacket]
  simp only [Endpoint.conn_withKernel, ← hpacket, hwrite, if_true]
  simp only [Endpoint.sent, Endpoint.conn_withKernel, ← hpacket, hwrite]
  rfl

lemma sendPacket_refused {errno : Errno} (ha : c.sock.Aligned) (hw : kernel.write = .error errno) :
    ∃ c', (sendPacket (wireSocket peer) ep payload).run (c.withKernel kernel) =
      (.error (.system errno), c') ∧ c'.sock.Aligned := by
  have hwrite : ∀ packet, (wireSocket peer).write packet (c.withKernel kernel).sock =
      (.error errno, { c.sock with kernel := [kernel.header, kernel.payload] }) := by
    intro packet
    simp [wireSocket, Wire.next, Endpoint.withKernel, hw, Outcome.count]
  refine ⟨(c.withKernel kernel).sent (wireSocket peer) ep payload, ?_, ?_⟩
  · rw [run_sendPacket, hwrite]
  · rw [Endpoint.sent, hwrite]
    exact ⟨ha.pending, ha.inbox⟩

/-- The stream that is written whole is aligned again, with the own reply at its end. -/
lemma aligned_written (hpeer : peer.Exact) (ha : c.sock.Aligned) :
    (c.written peer ep payload kernel).sock.Aligned ∧
    ∃ (u : WholeReply) (rest : List WholeReply),
      (c.written peer ep payload kernel).sock.inbox = u.bytes ++ rest.flatMap WholeReply.bytes ∧
      (u = ownReply hpeer c.sock.requests ep (c.conn.nextTag + 1) payload ∨
        c.sock.inbox ≠ [] ∧ u.hdr.tag = (RpcHeader.read c.sock.inbox).tag) := by
  obtain ⟨unread, hunread⟩ := ha.inbox
  set own := ownReply hpeer c.sock.requests ep (c.conn.nextTag + 1) payload with hown
  have hinbox : (c.written peer ep payload kernel).sock.inbox =
      (unread ++ [own]).flatMap WholeReply.bytes := by
    rw [List.flatMap_append, ← hunread]
    simp [Endpoint.written, hown, ownReply, WholeReply.bytes, replyPacket]
  refine ⟨⟨rfl, unread ++ [own], hinbox⟩, ?_⟩
  cases unread with
  | nil => exact ⟨own, [], hinbox, .inl rfl⟩
  | cons u unread =>
    refine ⟨u, unread ++ [own], hinbox, .inr ?_⟩
    have hfront : c.sock.inbox = u.hdr.bytes ++ (u.payload ++ unread.flatMap WholeReply.bytes) := by
      rw [hunread, List.flatMap_cons, WholeReply.bytes, List.append_assoc]
    rw [hfront, RpcHeader.read_bytes_append]
    exact ⟨List.append_ne_nil_of_left_ne_nil (by simp [RpcHeader.bytes]) _, rfl⟩

lemma receivePacket_full {c₁ : Endpoint Wire} {u : WholeReply} {rest : List WholeReply}
    (hk : c₁.sock.kernel = [.full, .full])
    (hinbox : c₁.sock.inbox = u.bytes ++ rest.flatMap WholeReply.bytes) :
    ∃ c₂, (receivePacket (wireSocket peer)).run c₁ = (.ok u.bytes, c₂) ∧
      c₂.sock = { c₁.sock with kernel := [], inbox := rest.flatMap WholeReply.bytes } := by
  have hread : (wireSocket peer).read headerSize c₁.sock = (.ok u.hdr.bytes,
      { c₁.sock with kernel := [.full], inbox := u.payload ++ rest.flatMap WholeReply.bytes }) := by
    simp [wireSocket, Wire.next, hk, Outcome.count, hinbox, WholeReply.bytes]
  have hbody : (wireSocket peer).read u.payload.length
      { c₁.sock with kernel := [.full], inbox := u.payload ++ rest.flatMap WholeReply.bytes } =
        (.ok u.payload, { c₁.sock with kernel := [], inbox := rest.flatMap WholeReply.bytes }) := by
    simp [wireSocket, Wire.next, Outcome.count]
  exact ⟨_, receivePacket_whole hread u.version u.exact u.nonempty hbody, rfl⟩

/-- **An undisturbed call** leaves the stream aligned, and accepts no other reply than its own. -/
theorem exchange_undisturbed (hpeer : peer.Exact) (ha : c.sock.Aligned)
    (hu : Undisturbed c payload kernel) : Exchanged peer c ep payload
      ((sendPacketWithReply (wireSocket peer) ep payload).run (c.withKernel kernel)) := by
  -- write and header are full or failed; a failure ends the call with the stream aligned
  rcases hw : kernel.write with _ | n | errno
  · have hsend := @sendPacket_full peer c ep payload kernel ha hu.fits hw
    obtain ⟨haligned, u, rest, hinbox, hfront⟩ := @aligned_written peer c ep payload kernel hpeer ha
    rcases hh : kernel.header with _ | n | errno
    · have hk : (c.written peer ep payload kernel).sock.kernel = [.full, .full] := by
        simp [Endpoint.written, hh, hu.payload]
      obtain ⟨c₂, hrecv, hsock⟩ := @receivePacket_full peer _ u rest hk hinbox
      have haligned₂ : c₂.sock.Aligned := by
        rw [hsock]
        exact ⟨haligned.pending, rest, rfl⟩
      rw [run_sendPacketWithReply_of_packet hsend hrecv]
      split_ifs with hep htag
      · exact exchanged_of_error haligned₂ (by simp [LibError.exit])
      · exact exchanged_of_error haligned₂ (by simp [LibError.exit])
      · refine ⟨haligned₂, fun _ h => (by cases h), fun reply h => ?_⟩
        cases h
        -- the packet in front is the reply to this request, or an older one, which has another tag
        rcases hfront with rfl | ⟨hne, hold⟩
        · exact ⟨rfl, by rw [hsock]; rfl⟩
        · exact absurd (hold.symm.trans (not_not.mp htag)) (hu.tag hne)
    · exact absurd hh (hu.header n)
    · have hread : (wireSocket peer).read headerSize (c.written peer ep payload kernel).sock =
          (.error errno,
            { (c.written peer ep payload kernel).sock with kernel := [kernel.payload] }) := by
        simp [wireSocket, Wire.next, Endpoint.written, hh, Outcome.count]
      obtain ⟨receiveBuf, -, hrecv⟩ := run_receivePacket_of_short hread (fun b hb => by cases hb)
      unfold sendPacketWithReply
      rw [Prog.run_bind_of_ok hsend, Prog.run_bind_of_error hrecv]
      exact exchanged_of_error ⟨haligned.pending, haligned.inbox⟩ (exit_system errno)
  · exact absurd hw (hu.write n)
  · obtain ⟨c', hsend, haligned⟩ := @sendPacket_refused peer c ep payload kernel errno ha hw
    unfold sendPacketWithReply
    rw [Prog.run_bind_of_error hsend]
    exact exchanged_of_error haligned (exit_system errno)

end Exchange

end Sativa.Confd
