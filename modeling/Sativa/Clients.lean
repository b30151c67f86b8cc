import Sativa.Link
import Sativa.Simulation

/-!
Any number of clients of one server.

A call is cut where it waits: it begins by sending its request, the server handles what it got of
the request in a read callback, and the call is finished when the reply is there. In between, other
clients do what they want. A client makes one call at a time, because it holds the lock of its
connection.
-/

namespace Sativa.Clients

open Sativa Sativa.Rpc Sativa.Cbor Sativa.RpcServer Sativa.Store Sativa.Confd

/-! ### The halves of a call -/

/-- A call of the library: a getter with its handler, or a setter with the item of its value. -/
inductive Call (β : Type)
  | get (key : CString) (replyHandler : Handler β)
  | set (key : CString) (value : {item : Item // item.Scalar})

section Halves

variable {σ β : Type} (cbor : Libcbor) (sock : Socket σ)

def Call.key : Call β → CString
  | get key _ => key
  | set key _ => key

def Call.endpoint : Call β → UInt8
  | get _ _ => kConfigQuery
  | set _ _ => kConfigUpdate

/-- The payload of the request. -/
def Call.payload : Call β → Bytes
  | get key _ => serializeKeyRequest cbor key
  | set key value => serializeUpdateRequest cbor key value

/-- What becomes of the payload of the reply. -/
def Call.result : Call β → Except LibError Bytes → Result β
  | _, .error e => ⟨e.exit, none⟩
  | get _ replyHandler, .ok replyPayload => handleReply cbor replyHandler replyPayload
  | set _ _, .ok replyPayload => match cbor.load replyPayload with
    | none => ⟨.status Status.invalidResponse.code, none⟩
    | some _ => ⟨.status 0, none⟩

/-- `DoQuery` or `DoUpdate`. -/
def Call.run (call : Call β) (c : Endpoint σ) : Result β × Endpoint σ :=
  match call with
  | get key replyHandler => doQuery cbor sock key replyHandler c
  | set key value => let r := doUpdate cbor sock key value c; (⟨r.1, none⟩, r.2)

/-- `sendPacketWithReply` from where it waits. -/
def awaitReply (ep tag : UInt8) : LibProg σ Bytes := do
  let replyPacket ← receivePacket sock
  .throwIf (replyPacket = []) .emptyReply
  let replyHdr := RpcHeader.read replyPacket
  .throwIf (replyHdr.endpoint ≠ ep) .epMismatch
  .throwIf (replyHdr.tag ≠ tag) .tagMismatch
  return replyPacket.drop headerSize

/-- The part of a call up to where it waits. -/
def Call.begin (call : Call β) : LibProg σ UInt8 :=
  sendPacket sock call.endpoint (call.payload cbor)

/-- The part from there on. -/
def Call.finish (call : Call β) (tag : UInt8) (c : Endpoint σ) : Result β × Endpoint σ :=
  let r := (awaitReply sock call.endpoint tag).run c
  (call.result cbor r.1, r.2)

/-- A call that is not interrupted is its two parts. -/
lemma Call.run_eq (call : Call β) (c : Endpoint σ) : call.run cbor sock c =
    match (call.begin cbor sock).run c with
    | (.error e, c') => (call.result cbor (.error e), c')
    | (.ok tag, c') => call.finish cbor sock tag c' := by
  have hparts : ∀ ep payload, (sendPacketWithReply sock ep payload).run c =
      match (sendPacket sock ep payload).run c with
      | (.error e, c') => (.error e, c')
      | (.ok tag, c') => (awaitReply sock ep tag).run c' := by
    intro ep payload
    change (sendPacket sock ep payload >>= awaitReply sock ep).run c = _
    rw [Prog.run_bind]
    rcases (sendPacket sock ep payload).run c with ⟨e | tag, c'⟩ <;> rfl
  -- what a wrapper does of the result is the same in both
  cases call with
  | get key replyHandler =>
    dsimp only [Call.run, Call.begin, Call.finish, Call.endpoint, Call.payload, doQuery]
    rw [hparts]
    rcases (sendPacket sock kConfigQuery (serializeKeyRequest cbor key)).run c with ⟨e | tag, c'⟩
    · rfl
    · dsimp only
      rcases (awaitReply sock kConfigQuery tag).run c' with ⟨e | p, c''⟩ <;> rfl
  | set key value =>
    dsimp only [Call.run, Call.begin, Call.finish, Call.endpoint, Call.payload, doUpdate]
    rw [hparts]
    rcases (sendPacket sock kConfigUpdate (serializeUpdateRequest cbor key value)).run c with
      ⟨e | tag, c'⟩
    · rfl
    · dsimp only
      rcases (awaitReply sock kConfigUpdate tag).run c' with ⟨e | p, c''⟩
      · rfl
      · dsimp only [Call.result]
        rcases cbor.load p with _ | item <;> rfl

end Halves

/-! ### The system -/

/-- The stream between a client and the server. -/
structure Pipe where
  /-- what the client wrote and the server has not handled yet -/
  outbox : Bytes
  /-- what the server wrote and the client has not read yet -/
  inbox : Bytes
  isOpen : Bool

def Pipe.open : Pipe := ⟨[], [], true⟩

/-- The client's end. A read does not wait; see `Event.finish`. -/
def pipeSocket : Socket Pipe where
  write packet p := if p.isOpen then (.ok packet.length, { p with outbox := p.outbox ++ packet })
    else (.error epipe, p)
  read n p := (.ok (p.inbox.take n), { p with inbox := p.inbox.drop n })

/-- A process that uses the library, with the call that it waits for and the tag of its request. -/
structure Party (β : Type) where
  conn : Endpoint Pipe
  waiting : Option (Call β × UInt8)

/-- The server and its clients. Client `i` is known to the server as `bufferevent` `i`. -/
structure World (β : Type) where
  server : Server
  party : ℕ → Option (Party β)

inductive Event (β : Type)
  | connect (i : ℕ)
  | call (i : ℕ) (call : Call β)
  /-- the read callback of client `i`, which gets no more than `more + 1` of the bytes sent -/
  | serve (i more : ℕ) (env : CallbackEnv)
  | finish (i : ℕ)
  | disconnect (i : ℕ)

section System

variable {β : Type}

def World.setParty (w : World β) (i : ℕ) (p : Option (Party β)) : World β :=
  { w with party := Function.update w.party i p }

/-- Before any client is connected, with an empty store. -/
def World.init : World β := ⟨⟨fun _ => none, .initSchema, []⟩, fun _ => none⟩

variable (cbor : Libcbor) (w : World β)

def connect (i : ℕ) : World β := match w.party i with
  | none => { w with server := acceptClient w.server i }.setParty i (some ⟨⟨.open, .open⟩, none⟩)
  | some _ => w

/-- A call that cannot send its request is at its end. -/
def beginCall (i : ℕ) (call : Call β) : Option (Result β) × World β := match w.party i with
  | some ⟨conn, none⟩ => match (call.begin cbor pipeSocket).run conn with
    | (.error e, conn) => (some (call.result cbor (.error e)), w.setParty i (some ⟨conn, none⟩))
    | (.ok tag, conn) => (none, w.setParty i (some ⟨conn, some (call, tag)⟩))
  | _ => (none, w)

/-- What the server writes goes to the client; a client that was dropped finds the end of the
stream behind it. -/
def serveParty (i more : ℕ) (env : CallbackEnv) : World β := match w.party i with
  | some ⟨⟨conn, pipe⟩, waiting⟩ =>
    if pipe.outbox = [] ∨ pipe.isOpen = false then w
    else
      let server := (readCallback cbor env w.server i (pipe.outbox.take (more + 1))).2
      let inbox := pipe.inbox ++ newBytes i w.server server
      { w with server }.setParty i (some
        ⟨⟨conn, ⟨pipe.outbox.drop (more + 1), inbox, (server.clients i).isSome⟩⟩, waiting⟩)
  | none => w

/-- A read on an open stream without bytes waits, and so nothing happens. -/
def finishCall (i : ℕ) : Option (Result β) × World β := match w.party i with
  | some ⟨conn, some (call, tag)⟩ =>
    if conn.sock.inbox = [] ∧ conn.sock.isOpen = true then (none, w)
    else
      let r := call.finish cbor pipeSocket tag conn
      (some r.1, w.setParty i (some ⟨r.2, none⟩))
  | _ => (none, w)

def disconnect (i : ℕ) : World β := match w.party i with
  | some ⟨_, none⟩ => { w with server := handleClientEvent w.server i }.setParty i none
  | _ => w

/-- A step, with the result of the call if one ends. -/
def World.step (w : World β) : Event β → Option (Result β) × World β
  | .connect i => (none, connect w i)
  | .call i call => beginCall cbor w i call
  | .serve i more env => (none, serveParty cbor w i more env)
  | .finish i => finishCall cbor w i
  | .disconnect i => (none, disconnect w i)

def machine : Machine (World β) (Event β) (Option (Result β)) := ⟨.init, World.step cbor⟩

end System

end Sativa.Clients
