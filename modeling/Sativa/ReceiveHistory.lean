import Sativa.RpcConnection
import Sativa.Machine

/-!
What a connection receives over its whole life.

The calls of the library run on one connection with arbitrary results of the system calls. The
receive buffer is only resized for packets with a payload, so a packet without one is handed out
with what the last payload left behind it.
-/

namespace Sativa.Confd

open Sativa Sativa.Rpc

/-- The results of the system calls of one call of the library. -/
structure Tape where
  /-- what `write` returns -/
  written : Except Errno ℕ
  /-- what the calls of `read` return that are still to come; at most as much as was asked for -/
  reads : List (Except Errno Bytes)
  /-- the bytes that were read -/
  got : Bytes

def tapeSocket : Socket Tape where
  write _ t := (t.written, t)
  read n t := match t.reads with
    | [] => (.ok [], t)
    | .error e :: rest => (.error e, { t with reads := rest })
    | .ok b :: rest => (.ok (b.take n), { t with reads := rest, got := t.got ++ b.take n })

/-- The header that is read first, if it is read whole and has the right version. -/
def Tape.header (t : Tape) : Option RpcHeader :=
  match t.reads with
  | .ok b :: _ =>
    if headerSize ≤ b.length ∧ (RpcHeader.read b).version = kRpcVersionLatest then
      some (RpcHeader.read b) else none
  | _ => none

/-- The packet has no payload. -/
def Tape.HeaderOnly (t : Tape) : Prop := ∃ hdr, t.header = some hdr ∧ hdr.length.toNat = headerSize

/-- The packet has a payload, whether that can be read or not. -/
def Tape.WithPayload (t : Tape) : Prop := ∃ hdr, t.header = some hdr ∧ headerSize < hdr.length.toNat

/-- The calls that receive a packet. -/
inductive ReceiveCall
  | receivePacket
  | sendPacketWithReply (ep : UInt8) (payload : Bytes)

/-- What is handed out: a packet, or the payload of a reply. -/
def ReceiveCall.prog : ReceiveCall → LibProg Tape Bytes
  | receivePacket => Confd.receivePacket tapeSocket
  | sendPacketWithReply ep payload => Confd.sendPacketWithReply tapeSocket ep payload

/-- A connection with its calls; an answer is what the call returns or throws, and the bytes that
it read. -/
def receiver : Machine RpcConnection (Tape × ReceiveCall) (Except LibError Bytes × Bytes) where
  init := .open
  step conn e :=
    let r := e.2.prog.run ⟨conn, { e.1 with got := [] }⟩
    ((r.1, r.2.sock.got), r.2.conn)

/-- A packet that is handed out is what was read, as long as its header says; a payload is that
without the header. -/
def ExactPacket : ReceiveCall → Except LibError Bytes × Bytes → Prop
  | .receivePacket, (result, got) =>
    ∀ out, result = .ok out → out = got ∧ out.length = (RpcHeader.read out).length.toNat
  | .sendPacketWithReply _ _, (result, got) =>
    ∀ out, result = .ok out → headerSize ≤ got.length ∧ out = got.drop headerSize ∧
      got.length = (RpcHeader.read got).length.toNat

/-- The call goes on to receive a packet: the request, if there is one, is written whole. -/
def ReceiveCall.Receives : ReceiveCall → Tape → Prop
  | receivePacket, _ => True
  | sendPacketWithReply _ payload, t => t.written = .ok (headerSize + payload.length)

/-- The packet is handed out: it has the endpoint and the tag of the request. -/
def ReceiveCall.Accepts (conn : RpcConnection) : ReceiveCall → Tape → Prop
  | receivePacket, _ => True
  | sendPacketWithReply ep _, t => ∀ hdr, t.header = some hdr → hdr.endpoint = ep ∧
      hdr.tag = conn.nextTag + 1

/-! ### One packet -/

/-- What `receivePacket` does on a tape: nothing comes of the header; the packet has no payload;
its payload cannot be read; or it is read whole. -/
inductive Received (c : Endpoint Tape) : Except LibError Bytes × Endpoint Tape → Prop
  | refused (e : LibError) (c' : Endpoint Tape) (htag : c'.conn.nextTag = c.conn.nextTag)
      (hbuf : c'.conn.receiveBuf.length = max c.conn.receiveBuf.length headerSize)
      (hempty : ¬ c.sock.HeaderOnly) (hpayload : ¬ c.sock.WithPayload) : Received c (.error e, c')
  | empty (hdr : RpcHeader) (c' : Endpoint Tape) (htag : c'.conn.nextTag = c.conn.nextTag)
      (hbuf : c'.conn.receiveBuf = hdr.bytes ++ c.conn.receiveBuf.drop headerSize)
      (hgot : c'.sock.got = c.sock.got ++ hdr.bytes) (hhdr : c.sock.header = some hdr)
      (hlen : hdr.length.toNat = headerSize) : Received c (.ok c'.conn.receiveBuf, c')
  | cut (e : LibError) (c' : Endpoint Tape) (htag : c'.conn.nextTag = c.conn.nextTag)
      (hbuf : headerSize < c'.conn.receiveBuf.length) (hpayload : c.sock.WithPayload) :
      Received c (.error e, c')
  | whole (hdr : RpcHeader) (b : Bytes) (c' : Endpoint Tape)
      (htag : c'.conn.nextTag = c.conn.nextTag) (hbuf : c'.conn.receiveBuf = hdr.bytes ++ b)
      (hgot : c'.sock.got = c.sock.got ++ (hdr.bytes ++ b)) (hhdr : c.sock.header = some hdr)
      (hlen : hdr.length.toNat = headerSize + b.length) (hb : b ≠ []) :
      Received c (.ok c'.conn.receiveBuf, c')

section Receive

variable {c : Endpoint Tape}

lemma header_of_cons {b : Bytes} {rest : List (Except Errno Bytes)}
    (h : c.sock.reads = .ok b :: rest) : c.sock.header =
      if headerSize ≤ b.length ∧ (RpcHeader.read b).version = kRpcVersionLatest then
        some (RpcHeader.read b) else none := by
  rw [Tape.header, h]

lemma received_of_short {r : Except Errno Bytes} {w : Tape}
    (hread : tapeSocket.read headerSize c.sock = (r, w))
    (hr : ∀ b, r = .ok b → b.length < headerSize) (hnone : c.sock.header = none) :
    Received c ((receivePacket tapeSocket).run c) := by
  obtain ⟨receiveBuf, hlength, hrun⟩ := run_receivePacket_of_short hread hr
  rw [hrun]
  rcases r with errno | b
  · exact .refused _ _ rfl hlength (by simp [Tape.HeaderOnly, hnone])
      (by simp [Tape.WithPayload, hnone])
  · exact .refused _ _ rfl hlength (by simp [Tape.HeaderOnly, hnone])
      (by simp [Tape.WithPayload, hnone])

lemma received_of_payload {hdr : RpcHeader} {w : Tape}
    (hread : tapeSocket.read headerSize c.sock = (.ok hdr.bytes, w))
    (hgot : w.got = c.sock.got ++ hdr.bytes) (hhdr : c.sock.header = some hdr)
    (hv : hdr.version = kRpcVersionLatest) (hlen : headerSize < hdr.length.toNat) :
    Received c ((receivePacket tapeSocket).run c) := by
  have hpayload : c.sock.WithPayload := ⟨hdr, hhdr, hlen⟩
  rw [run_receivePacket hread hv, receiveBehind, if_neg (by omega), if_neg (by omega)]
  rcases hr : tapeSocket.read (hdr.length.toNat - headerSize) w with ⟨errno | b, w'⟩
  · exact .cut _ _ rfl (by simpa [Endpoint.setReceiveBuf] using hlen) hpayload
  dsimp only
  have hb : b.length ≤ hdr.length.toNat - headerSize ∧ w'.got = w.got ++ b := by
    unfold tapeSocket at hr
    rcases hreads : w.reads with _ | ⟨_ | p, rest⟩ <;> simp only [hreads] at hr <;> cases hr
    · simp
    · exact ⟨by rw [List.length_take]; exact Nat.min_le_left _ _, rfl⟩
  -- the payload may be cut by the end of the stream
  by_cases hshort : b.length ≠ hdr.length.toNat - headerSize
  · rw [if_pos hshort]
    refine .cut _ _ rfl ?_ hpayload
    simp only [Endpoint.setReceiveBuf]
    rw [length_splice (by rw [length_resize]; omega), length_resize]
    exact hlen
  · rw [if_neg hshort]
    rw [ne_eq, not_not] at hshort
    have htotal : hdr.length.toNat = headerSize + b.length := by omega
    refine .whole hdr b _ rfl ?_ ?_ hhdr htotal fun hnil => ?_
    · have hsplice := splice_resize_append hdr.bytes
        ((headerBuffer c.conn.receiveBuf).drop headerSize) b
      rw [RpcHeader.length_bytes] at hsplice
      simp only [Endpoint.setReceiveBuf]
      rw [htotal, hsplice]
    · simp only [Endpoint.setReceiveBuf]
      rw [hb.2, hgot, List.append_assoc]
    · rw [hnil, List.length_nil] at htotal
      omega

lemma receivePacket_received : Received c ((receivePacket tapeSocket).run c) := by
  rcases hreads : c.sock.reads with _ | ⟨errno | b, rest⟩
  · refine received_of_short (r := .ok []) (w := c.sock) (by simp [tapeSocket, hreads])
      (fun b hb => ?_) (by simp [Tape.header, hreads])
    cases hb
    decide
  · exact received_of_short (r := .error errno) (by simp [tapeSocket, hreads]; rfl)
      (fun b hb => by cases hb) (by simp [Tape.header, hreads])
  have hread : tapeSocket.read headerSize c.sock = (.ok (b.take headerSize),
      { c.sock with reads := rest, got := c.sock.got ++ b.take headerSize }) := by
    simp [tapeSocket, hreads]
  have hheader := header_of_cons hreads
  -- less than a header
  by_cases hshort : b.length < headerSize
  · refine received_of_short hread (fun b' hb => ?_) ?_
    · cases hb
      rw [List.length_take]
      omega
    · rw [hheader, if_neg (by omega)]
  have hbytes : (RpcHeader.read b).bytes = b.take headerSize := by
    rw [← RpcHeader.read_take (Nat.le_refl _), RpcHeader.bytes_read]
    rw [List.length_take]
    omega
  rw [← hbytes] at hread
  by_cases hv : (RpcHeader.read b).version = kRpcVersionLatest
  · rw [if_pos ⟨by omega, hv⟩] at hheader
    -- a length below that of a header, a header alone, a payload
    rcases Nat.lt_trichotomy (RpcHeader.read b).length.toNat headerSize with hlen | hlen | hlen
    · rw [run_receivePacket hread hv, receiveBehind, if_pos hlen]
      refine .refused _ _ rfl (length_headerRead _) ?_ ?_
      · rintro ⟨hdr, hhdr, h⟩
        obtain rfl := Option.some.inj (hheader.symm.trans hhdr)
        omega
      · rintro ⟨hdr, hhdr, h⟩
        obtain rfl := Option.some.inj (hheader.symm.trans hhdr)
        omega
    · rw [run_receivePacket hread hv, receiveBehind, if_neg (by omega), if_pos hlen]
      exact .empty _ _ rfl (by simp [Endpoint.setReceiveBuf, drop_headerBuffer]) rfl hheader hlen
    · exact received_of_payload hread rfl hheader hv hlen
  · rw [if_neg fun h => hv h.2] at hheader
    rw [run_receivePacket_of_header hread, if_pos hv]
    exact .refused _ _ rfl (length_headerRead _) (by simp [Tape.HeaderOnly, hheader])
      (by simp [Tape.WithPayload, hheader])

end Receive

/-! ### One call -/

section Call

variable {conn : RpcConnection} {t : Tape} {call : ReceiveCall}

def Tape.start (t : Tape) (conn : RpcConnection) : Endpoint Tape := ⟨conn, { t with got := [] }⟩

/-- The endpoint after a request was written. -/
def Tape.sent (t : Tape) (conn : RpcConnection) (ep : UInt8) (payload : Bytes) : Endpoint Tape :=
  (t.start conn).sent tapeSocket ep payload

lemma sendPacket_tape (t : Tape) (conn : RpcConnection) (ep : UInt8) (payload : Bytes) :
    (sendPacket tapeSocket ep payload).run (t.start conn) =
      (match t.written with
        | .error e => .error (.system e)
        | .ok n => if n = headerSize + payload.length then .ok (conn.nextTag + 1)
            else .error .insufficientWrite, t.sent conn ep payload) := by
  have hlength : (requestPacket ep ((t.start conn).conn.nextTag + 1) payload).length =
      headerSize + payload.length := by simp [requestPacket]
  rw [run_sendPacket, hlength]
  rfl

/-- How a call ends: it does not receive a packet, or it hands out what it receives, or it
receives a reply to something else. -/
inductive Called (t : Tape) (conn : RpcConnection) (call : ReceiveCall) :
    Except LibError Bytes × Endpoint Tape → Prop
  | unsent (e : LibError) (c' : Endpoint Tape) (hsent : ¬ call.Receives t)
      (hbuf : c'.conn.receiveBuf = conn.receiveBuf) : Called t conn call (.error e, c')
  | packet (hcall : call = .receivePacket) {r : Except LibError Bytes × Endpoint Tape}
      (hr : Received (t.start conn) r) : Called t conn call r
  | failed (e : LibError) (c' : Endpoint Tape) (ep : UInt8) (payload : Bytes)
      (hcall : call = .sendPacketWithReply ep payload) (hsent : call.Receives t)
      (hr : Received (t.sent conn ep payload) (.error e, c')) : Called t conn call (.error e, c')
  | reply (hdr : RpcHeader) (b : Bytes) (c' : Endpoint Tape) (ep : UInt8) (payload : Bytes)
      (hcall : call = .sendPacketWithReply ep payload) (hsent : call.Receives t)
      (hr : Received (t.sent conn ep payload) (.ok (hdr.bytes ++ b), c'))
      (hhdr : t.header = some hdr) (result : Except LibError Bytes)
      (hresult : result = if hdr.endpoint ≠ ep then .error .epMismatch
        else if hdr.tag ≠ conn.nextTag + 1 then .error .tagMismatch else .ok b) :
      Called t conn call (result, c')

lemma called (t : Tape) (conn : RpcConnection) (call : ReceiveCall) :
    Called t conn call (call.prog.run (t.start conn)) := by
  cases call with
  | receivePacket => exact .packet rfl receivePacket_received
  | sendPacketWithReply ep payload =>
    have hsend := sendPacket_tape t conn ep payload
    by_cases hw : t.written = .ok (headerSize + payload.length)
    · simp only [hw, if_true] at hsend
      have hr := receivePacket_received (c := t.sent conn ep payload)
      rcases hrecv : (receivePacket tapeSocket).run (t.sent conn ep payload) with ⟨e | p, c'⟩
      · rw [hrecv] at hr
        rw [ReceiveCall.prog, run_sendPacketWithReply_of_error hsend hrecv]
        exact .failed e c' ep payload rfl hw hr
      · rw [hrecv] at hr
        obtain ⟨hdr, b, hhdr, rfl⟩ : ∃ hdr b, t.header = some hdr ∧ p = hdr.bytes ++ b := by
          cases hr with
          | empty hdr _ _ hbuf _ hhdr _ => exact ⟨hdr, _, hhdr, hbuf⟩
          | whole hdr b _ _ hbuf _ hhdr _ _ => exact ⟨hdr, b, hhdr, hbuf⟩
        rw [ReceiveCall.prog, run_sendPacketWithReply_of_packet hsend hrecv]
        exact .reply hdr b c' ep payload rfl hw hr hhdr _ rfl
    -- the request was not written whole, and nothing is received
    · have hfail : ∃ e, (sendPacket tapeSocket ep payload).run (t.start conn) =
          (.error e, t.sent conn ep payload) := by
        rw [hsend]
        rcases hwritten : t.written with e | n
        · exact ⟨_, rfl⟩
        · rw [hwritten] at hw
          exact ⟨.insufficientWrite, by dsimp only; rw [if_neg fun h => hw (by rw [h])]⟩
      obtain ⟨e, hfail⟩ := hfail
      rw [ReceiveCall.prog, sendPacketWithReply, Prog.run_bind_of_error hfail]
      exact .unsent e _ hw rfl

lemma Received.buffer {c : Endpoint Tape} {r : Except LibError Bytes × Endpoint Tape}
    (h : Received c r) : headerSize < r.2.conn.receiveBuf.length ↔
      headerSize < c.conn.receiveBuf.length ∨ c.sock.WithPayload := by
  cases h with
  | refused e c' htag hbuf hempty hpayload =>
    simp only [hbuf, hpayload, or_false]
    omega
  | empty hdr c' htag hbuf hgot hhdr hlen =>
    have hnone : ¬ c.sock.WithPayload := by
      rintro ⟨hdr', hhdr', hlen'⟩
      obtain rfl := Option.some.inj (hhdr.symm.trans hhdr')
      omega
    simp only [hbuf, List.length_append, RpcHeader.length_bytes, List.length_drop, hnone, or_false]
    omega
  | cut e c' htag hbuf hpayload => simp [hbuf, hpayload]
  | whole hdr b c' htag hbuf hgot hhdr hlen hb =>
    have hpos := List.length_pos_iff.mpr hb
    have hpayload : c.sock.WithPayload := ⟨hdr, hhdr, by omega⟩
    simp only [hbuf, List.length_append, RpcHeader.length_bytes, hpayload, or_true, iff_true]
    omega

lemma Received.not_headerOnly {c c' : Endpoint Tape} {e : LibError}
    (h : Received c (.error e, c')) : ¬ c.sock.HeaderOnly := by
  cases h with
  | refused _ _ htag hbuf hempty hpayload => exact hempty
  | cut _ _ htag hbuf hpayload =>
    rintro ⟨hdr, hhdr, hlen⟩
    obtain ⟨hdr', hhdr', hlen'⟩ := hpayload
    obtain rfl := Option.some.inj (hhdr.symm.trans hhdr')
    omega

/-- What is handed out is what was read, unless the packet has no payload and the buffer is larger
than its header. -/
lemma Received.packet {c c' : Endpoint Tape} {p : Bytes} (h : Received c (.ok p, c')) :
    ∃ hdr b q, c.sock.header = some hdr ∧ p = hdr.bytes ++ b ∧
      c'.sock.got = c.sock.got ++ (hdr.bytes ++ q) ∧ hdr.length.toNat = headerSize + q.length ∧
      (b = q ↔ ¬ (c.sock.HeaderOnly ∧ headerSize < c.conn.receiveBuf.length)) := by
  cases h with
  | empty hdr _ htag hbuf hgot hhdr hlen =>
    refine ⟨hdr, c.conn.receiveBuf.drop headerSize, [], hhdr, hbuf, by simpa using hgot, hlen, ?_⟩
    have honly : c.sock.HeaderOnly := ⟨hdr, hhdr, hlen⟩
    simp [honly]
  | whole hdr b _ htag hbuf hgot hhdr hlen hb =>
    refine ⟨hdr, b, b, hhdr, hbuf, hgot, hlen, iff_of_true rfl ?_⟩
    rintro ⟨⟨hdr', hhdr', hlen'⟩, -⟩
    obtain rfl := Option.some.inj (hhdr.symm.trans hhdr')
    exact hb (List.length_eq_zero_iff.mp (by omega))

lemma step_buffer (e : Tape × ReceiveCall) :
    headerSize < (receiver.step conn e).2.receiveBuf.length ↔
      headerSize < conn.receiveBuf.length ∨ (e.2.Receives e.1 ∧ e.1.WithPayload) := by
  obtain ⟨t, call⟩ := e
  have hcalled := called t conn call
  change headerSize < (call.prog.run (t.start conn)).2.conn.receiveBuf.length ↔ _
  rcases hrun : call.prog.run (t.start conn) with ⟨result, c'⟩
  rw [hrun] at hcalled
  cases hcalled with
  | unsent e _ hsent hbuf => simp [hbuf, hsent]
  | packet hcall hr =>
    subst hcall
    exact hr.buffer.trans (or_congr_right ⟨fun h => ⟨True.intro, h⟩, fun h => h.2⟩)
  | failed e _ ep payload hcall hsent hr =>
    exact hr.buffer.trans (or_congr_right ⟨fun h => ⟨hsent, h⟩, fun h => h.2⟩)
  | reply hdr b _ ep payload hcall hsent hr hhdr _ hresult =>
    exact hr.buffer.trans (or_congr_right ⟨fun h => ⟨hsent, h⟩, fun h => h.2⟩)

/-- The buffer is larger than a header once a packet with a payload was received. -/
lemma after_buffer (es : List (Tape × ReceiveCall)) :
    headerSize < (receiver.after conn es).receiveBuf.length ↔
      headerSize < conn.receiveBuf.length ∨ ∃ e ∈ es, e.2.Receives e.1 ∧ e.1.WithPayload := by
  induction es generalizing conn with
  | nil => simp [Machine.after]
  | cons e es ih =>
    change headerSize < (receiver.after (receiver.step conn e).2 es).receiveBuf.length ↔ _
    rw [ih, step_buffer, List.exists_mem_cons_iff, or_assoc]

lemma exactPacket_error {e : LibError} {got : Bytes} : ExactPacket call (.error e, got) := by
  cases call <;> exact fun out hout => by cases hout

lemma exactPacket_receivePacket {hdr : RpcHeader} {b q : Bytes}
    (hlen : hdr.length.toNat = headerSize + q.length) :
    ExactPacket .receivePacket (.ok (hdr.bytes ++ b), hdr.bytes ++ q) ↔ b = q := by
  constructor
  · intro h
    exact List.append_cancel_left (h _ rfl).1
  · rintro rfl out hout
    cases hout
    exact ⟨rfl, by simp [hlen]⟩

lemma exactPacket_reply {hdr : RpcHeader} {b q : Bytes} {ep : UInt8} {payload : Bytes}
    (hlen : hdr.length.toNat = headerSize + q.length) :
    ExactPacket (.sendPacketWithReply ep payload) (.ok b, hdr.bytes ++ q) ↔ b = q := by
  constructor
  · intro h
    simpa using (h _ rfl).2.1
  · rintro rfl out hout
    cases hout
    exact ⟨by simp, by simp, by simp [hlen]⟩

lemma exactPacket_iff : ExactPacket call (receiver.step conn (t, call)).1 ↔
    ¬ (call.Receives t ∧ call.Accepts conn t ∧ t.HeaderOnly ∧
      headerSize < conn.receiveBuf.length) := by
  have hcalled := called t conn call
  have hstep : (receiver.step conn (t, call)).1 =
      ((call.prog.run (t.start conn)).1, (call.prog.run (t.start conn)).2.sock.got) := rfl
  rw [hstep]
  rcases hrun : call.prog.run (t.start conn) with ⟨result, c'⟩
  rw [hrun] at hcalled
  cases hcalled with
  | unsent e _ hsent hbuf => exact iff_of_true exactPacket_error fun h => hsent h.1
  | packet hcall hr =>
    subst hcall
    rcases result with e | p
    · exact iff_of_true exactPacket_error fun h => hr.not_headerOnly h.2.2.1
    obtain ⟨hdr, b, q, hhdr, rfl, hgot, hlen, hsame⟩ := hr.packet
    have hgot' : c'.sock.got = hdr.bytes ++ q := hgot
    rw [hgot', exactPacket_receivePacket hlen, hsame]
    exact not_congr ⟨fun h => ⟨True.intro, True.intro, h⟩, fun h => h.2.2⟩
  | failed e _ ep payload hcall hsent hr =>
    exact iff_of_true exactPacket_error fun h => hr.not_headerOnly h.2.2.1
  | reply hdr b _ ep payload hcall hsent hr hhdr _ hresult =>
    subst hcall
    obtain ⟨hdr', b', q, hhdr', hpacket, hgot, hlen, hsame⟩ := hr.packet
    obtain rfl : hdr = hdr' := Option.some.inj (hhdr.symm.trans hhdr')
    obtain rfl : b = b' := List.append_cancel_left hpacket
    have hgot' : c'.sock.got = hdr.bytes ++ q := hgot
    -- a reply to another request is an error
    by_cases hep : hdr.endpoint ≠ ep
    · rw [if_pos hep] at hresult
      rw [hresult]
      exact iff_of_true exactPacket_error fun h => hep (h.2.1 hdr hhdr).1
    by_cases htag : hdr.tag ≠ conn.nextTag + 1
    · rw [if_neg hep, if_pos htag] at hresult
      rw [hresult]
      exact iff_of_true exactPacket_error fun h => htag (h.2.1 hdr hhdr).2
    rw [if_neg hep, if_neg htag] at hresult
    have haccepts : (ReceiveCall.sendPacketWithReply ep payload).Accepts conn t := by
      intro hdr₁ hhdr₁
      obtain rfl := Option.some.inj (hhdr.symm.trans hhdr₁)
      exact ⟨not_not.mp hep, not_not.mp htag⟩
    rw [hresult, hgot', exactPacket_reply hlen, hsame]
    exact not_congr ⟨fun h => ⟨hsent, haccepts, h⟩, fun h => h.2.2⟩

/-- **Stale bytes**: what a call hands out is what it has read, unless the packet has no payload
and an earlier one on the connection had. -/
theorem receive_exact_iff (es : List (Tape × ReceiveCall)) (t : Tape) (call : ReceiveCall) :
    ExactPacket call (receiver.step (receiver.after receiver.init es) (t, call)).1 ↔
      ¬ (call.Receives t ∧ call.Accepts (receiver.after receiver.init es) t ∧ t.HeaderOnly ∧
        ∃ e ∈ es, e.2.Receives e.1 ∧ e.1.WithPayload) := by
  have hbuffer : headerSize < (receiver.after receiver.init es).receiveBuf.length ↔
      ∃ e ∈ es, e.2.Receives e.1 ∧ e.1.WithPayload := by
    rw [after_buffer]
    exact or_iff_right (by decide)
  rw [exactPacket_iff, hbuffer]

/-- The results for a request without payload that is answered with `reply`. -/
def replyTape (tag : UInt8) (reply : Bytes) : Tape where
  written := .ok headerSize
  reads := [.ok (RpcHeader.bytes ⟨kRpcVersionLatest, UInt16.ofNat (headerSize + reply.length),
    kConfigQuery, tag, 1, 0⟩), .ok reply]
  got := []

/-- The second reply has no payload, and that of the first is handed out for it. -/
theorem stale_payload : ¬ ∀ (es : List (Tape × ReceiveCall)) (t : Tape) (call : ReceiveCall),
    ExactPacket call (receiver.step (receiver.after receiver.init es) (t, call)).1 := by
  intro h
  have hexact := h [(replyTape 1 [7], .sendPacketWithReply kConfigQuery [])] (replyTape 2 [])
    (.sendPacketWithReply kConfigQuery [])
  have hdrop := (hexact [7] (by decide)).2.1
  revert hdrop
  decide

end Call

/-! ### One answer -/

/-- What a peer answers to a request, apart from the endpoint and the tag. -/
structure Answer where
  flags : UInt8
  reserved : UInt8
  payload : Bytes
  fits : headerSize + payload.length < 2 ^ 16

section Answers

variable {conn : RpcConnection} {ep : UInt8} {request : Bytes} {a : Answer}

/-- The header of an answer to the next request. -/
def Answer.header (a : Answer) (conn : RpcConnection) (ep : UInt8) : RpcHeader where
  version := kRpcVersionLatest
  length := UInt16.ofNat (headerSize + a.payload.length)
  endpoint := ep
  tag := conn.nextTag + 1
  flags := a.flags
  reserved := a.reserved

/-- The request is written whole and the answer is read whole. -/
def Answer.endpoint (a : Answer) (conn : RpcConnection) (ep : UInt8) (request : Bytes) :
    Endpoint Tape :=
  ⟨conn, ⟨.ok (headerSize + request.length), [.ok (a.header conn ep).bytes, .ok a.payload], []⟩⟩

/-- What is handed out for the answer; for one without a payload that is what the buffer holds
behind the header. -/
def Answer.handedOut (a : Answer) (conn : RpcConnection) : Bytes :=
  if a.payload = [] then conn.receiveBuf.drop headerSize else a.payload

lemma Answer.length_header : (a.header conn ep).length.toNat = headerSize + a.payload.length :=
  Nat.mod_eq_of_lt a.fits

lemma run_sendPacketWithReply_answer (a : Answer) (conn : RpcConnection) (ep : UInt8)
    (request : Bytes) : ∃ c', (sendPacketWithReply tapeSocket ep request).run
      (a.endpoint conn ep request) = (.ok (a.handedOut conn), c') := by
  set hdr := a.header conn ep with hhdr
  set t : Tape := ⟨.ok (headerSize + request.length), [.ok hdr.bytes, .ok a.payload], []⟩
  have hsend := sendPacket_tape t conn ep request
  simp only [t, if_true] at hsend
  have hread : tapeSocket.read headerSize (t.sent conn ep request).sock =
      (.ok hdr.bytes, ⟨t.written, [.ok a.payload], hdr.bytes⟩) := rfl
  have hlen : hdr.length.toNat = headerSize + a.payload.length := Answer.length_header
  unfold Answer.handedOut
  by_cases hp : a.payload = []
  · rw [if_pos hp]
    rw [hp, List.length_nil] at hlen
    obtain ⟨c', hrecv, -⟩ := receivePacket_empty hread rfl hlen
    exact ⟨c', run_sendPacketWithReply hsend hrecv rfl rfl⟩
  · rw [if_neg hp]
    have hbody : tapeSocket.read a.payload.length ⟨t.written, [.ok a.payload], hdr.bytes⟩ =
        (.ok a.payload, ⟨t.written, [], hdr.bytes ++ a.payload⟩) := by
      simp [tapeSocket]
    have hrecv := receivePacket_whole hread rfl hlen hp hbody
    exact ⟨_, run_sendPacketWithReply hsend hrecv rfl rfl⟩

end Answers

end Sativa.Confd
