import Sativa.ClientBase
import Sativa.Machine
import Sativa.Rules

/-!
A client of pl-common from its construction to its destruction.

The implementation of a client sends, and overrides the handlers. What a handler does in a run is
part of the event that it handles: the packets it sends and whether it throws.
-/

namespace Sativa.PlCommon

open Sativa Sativa.Rpc Sativa.Confd Sativa.Cbor

/-- What is thrown in the life of a client. -/
inductive LifeError
  | client (e : ClientError)
  /-- a `std::invalid_argument` -/
  | invalidArgument
  /-- a `std::runtime_error` -/
  | runtime
  /-- anything that a handler throws -/
  | handler

/-- A client, with the descriptors that were closed and the calls of `handleIncomingMessageRaw` in
the current callback. -/
structure Client where
  base : ClientBase
  rxBuf : Bytes
  closed : List ℤ
  delivered : List (RpcHeader × Bytes)

/-- The members before the constructor runs. -/
def Client.blank : Client := ⟨⟨-1, 0, []⟩, [], [], []⟩

abbrev LifeProg := Prog LifeError Client

def Client.setFd (c : Client) (fd : ℤ) : Client := { c with base := { c.base with fd } }

def close (fd : ℤ) : LifeProg Unit := .modify fun c => { c with closed := c.closed ++ [fd] }

/-! ### Construction and destruction -/

/-- What the constructor is given, and what the kernel and libevent make of its calls. -/
structure Construction where
  rpcSocketPath : Bytes
  socket : Except Errno ℕ
  /-- the error of `connect`, if any -/
  connect : Option Errno
  /-- that of `evutil_make_socket_nonblocking` -/
  nonblocking : Option Errno
  /-- `bufferevent_socket_new` returns a bufferevent -/
  bufferevent : Bool
  /-- `bufferevent_enable` does not fail -/
  enable : Bool

/-- `close(fd)` and a `std::system_error`, if there is one. -/
def closeOnError (fd : ℤ) : Option Errno → LifeProg Unit
  | none => pure ()
  | some errno => do
    close fd
    .fail (.client (.system errno))

def connectSocket (k : Construction) : LifeProg ℤ := do
  let fd ← .ofExcept (k.socket.mapError fun errno => .client (.system errno))
  closeOnError fd k.connect
  closeOnError fd k.nonblocking
  return fd

/-- `ClientBase::ClientBase`. -/
def construct (k : Construction) : LifeProg Unit := do
  .throwIf (k.rpcSocketPath = []) .invalidArgument
  let fd ← connectSocket k
  .modify (·.setFd fd)
  .throwIf (!k.bufferevent) .runtime
  .throwIf (!k.enable) .runtime

/-- `ClientBase::~ClientBase`; the bufferevent does not close the descriptor. -/
def destroy : LifeProg Unit := do
  let fd := (← Prog.get).base.fd
  .when (fd ≠ -1) (close fd)

/-! ### Calls and callbacks -/

/-- A packet that the implementation sends. -/
inductive Send
  | sendRaw (kernel : Outcome) (payload : Bytes)
  | sendPacket (kernel : Outcome) (endpoint : UInt8) (payload : Bytes)

/-- What it makes of the client. -/
def Send.base (b : ClientBase) : Send → ClientBase
  | sendRaw kernel payload => ((PlCommon.sendRaw kernel payload).run b).2
  | sendPacket kernel endpoint payload => ((PlCommon.sendPacket kernel endpoint payload).run b).2

/-- An error is the implementation's to handle. -/
def Send.perform (s : Send) : LifeProg Unit := .modify fun c => { c with base := s.base c.base }

/-- What a handler does in a call: what it sends, and whether it throws at the end. -/
structure Handled where
  sends : List Send
  throws : Bool

def Handled.perform (h : Handled) : LifeProg Unit := do
  h.sends.forM Send.perform
  .throwIf h.throws .handler

def BEV_EVENT_EOF : ℕ := 0x10

def BEV_EVENT_ERROR : ℕ := 0x20

/-- `bevEvent`, where `handler` is the handler that is called, `handleConnectionClosed` or
`handleIoError`. -/
def bevEvent (flags : ℕ) (handler : Handled) : LifeProg Unit :=
  if flags &&& BEV_EVENT_EOF ≠ 0 then do
    handler.perform
    .modify (·.setFd 0)
  else .when (flags &&& BEV_EVENT_ERROR ≠ 0) handler.perform

/-- What a read callback finds. -/
structure Chunk where
  /-- the bytes in the input buffer -/
  pending : Bytes
  /-- `evbuffer_remove` does not fail -/
  removed : Bool
  /-- the memory behind the receive buffer, by its distance from the start of the buffer -/
  behind : ℕ → UInt8
  /-- what `handleIncomingMessage` does -/
  handler : RpcHeader → Option Item → Handled

/-- The `n` bytes of memory from the position `i` of a buffer on. -/
def memory (rxBuf : Bytes) (behind : ℕ → UInt8) (i n : ℕ) : Bytes :=
  (List.range n).map fun k => rxBuf.getD (i + k) (behind (i + k))

def handleIncomingMessageRaw (cbor : Libcbor) (chunk : Chunk) (header : RpcHeader)
    (payload : Bytes) : LifeProg Unit := do
  .modify fun c => { c with delivered := c.delivered ++ [(header, payload)] }
  let message := if payload = [] then none else cbor.load payload
  .throwIf (payload ≠ [] ∧ message = none) .runtime
  (chunk.handler header message).perform

/-- `bevRead`; the length of the packet is not compared with that of the chunk. -/
def bevRead (cbor : Libcbor) (chunk : Chunk) : LifeProg Unit := do
  .modify fun c => { c with rxBuf := resize c.rxBuf chunk.pending.length }
  .throwIf (!chunk.removed) .runtime
  .modify fun c => { c with rxBuf := splice c.rxBuf 0 chunk.pending }
  .when (headerSize ≤ chunk.pending.length) do
    let rxBuf := (← Prog.get).rxBuf
    let hdr := RpcHeader.read rxBuf
    .when (hdr.version = kRpcVersionLatest ∧ headerSize ≤ hdr.length.toNat) do
      let payload := memory rxBuf chunk.behind headerSize (hdr.length.toNat - headerSize)
      handleIncomingMessageRaw cbor chunk hdr payload

/-- What happens to a client. -/
inductive Event
  | send (s : Send)
  | read (chunk : Chunk)
  | event (flags : ℕ) (handler : Handled)

def Event.prog (cbor : Libcbor) : Event → LifeProg Unit
  | send s => s.perform
  | read chunk => bevRead cbor chunk
  | event flags handler => bevEvent flags handler

/-- The event is the end of the file, and its handler returns. -/
def Event.Ends : Event → Prop
  | event flags handler => flags &&& BEV_EVENT_EOF ≠ 0 ∧ handler.throws = false
  | _ => False

/-- A client with its events; the callbacks log what is thrown. The answer is the calls of
`handleIncomingMessageRaw`. -/
def clientMachine (cbor : Libcbor) (c : Client) :
    Machine Client Event (List (RpcHeader × Bytes)) where
  init := c
  step c e :=
    let c' := ((e.prog cbor).run { c with delivered := [] }).2
    (c'.delivered, c')

/-! ### What is kept -/

section Keeps

variable {P : Client → Prop} {cbor : Libcbor} {c c₀ : Client} {e : Event}

lemma Handled.ensures (h : Handled)
    (hsend : ∀ (s : Send) c, P c → P { c with base := s.base c.base }) :
    Prog.Ensures P h.perform (fun _ c => P c ∧ h.throws = false)
      fun _ c => P c ∧ h.throws = true :=
  (Prog.Ensures.forM fun s _ => .modify (hsend s)).bind fun _ =>
    .throwIf (fun _ hc hthrows => ⟨hc, hthrows⟩) fun _ hc hthrows => ⟨hc, by simpa using hthrows⟩

lemma Handled.keeps (h : Handled)
    (hsend : ∀ (s : Send) c, P c → P { c with base := s.base c.base }) :
    Prog.Keeps P h.perform fun _ => P :=
  (h.ensures hsend).weaken (fun _ hc => hc) (fun _ _ hc => hc.1) fun _ _ hc => hc.1

lemma Event.keeps (hsend : ∀ (s : Send) c, P c → P { c with base := s.base c.base })
    (hread : ∀ (rxBuf : Bytes) (delivered : List (RpcHeader × Bytes)) (c : Client), P c →
      P { c with rxBuf, delivered })
    (hfd : e.Ends → ∀ c, P c → P (c.setFd 0)) : Prog.Keeps P (e.prog cbor) fun _ => P := by
  cases e with
  | send s => exact .modify (hsend s)
  | read chunk =>
    -- the statements of `bevRead`, one after the other
    refine Prog.Ensures.bind (Q := fun _ => P) (.modify fun c hc => hread _ _ c hc) fun _ => ?_
    refine Prog.Ensures.bind (Q := fun _ => P) (.throwIf (fun _ hc _ => hc) fun _ hc _ => hc)
      fun _ => ?_
    refine Prog.Ensures.bind (Q := fun _ => P) (.modify fun c hc => hread _ _ c hc) fun _ => ?_
    refine .when (fun _ => ?_) fun _ hc _ => hc
    refine Prog.Ensures.bind (Q := fun _ => P) (.get fun _ hc => hc) fun _ => ?_
    refine .when (fun _ => ?_) fun _ hc _ => hc
    refine Prog.Ensures.bind (Q := fun _ => P) (.modify fun c hc => hread _ _ c hc) fun _ => ?_
    refine Prog.Ensures.bind (Q := fun _ => P) (.throwIf (fun _ hc _ => hc) fun _ hc _ => hc)
      fun _ => ?_
    exact Handled.keeps _ hsend
  | event flags handler =>
    change Prog.Keeps P (bevEvent flags handler) fun _ => P
    unfold bevEvent
    by_cases heof : flags &&& BEV_EVENT_EOF ≠ 0
    · rw [if_pos heof]
      exact ((handler.ensures hsend).weaken (fun _ hc => hc) (fun _ _ hc => hc)
        fun _ _ hc => hc.1).bind_fact fun _ hthrows => .modify fun c hc => hfd ⟨heof, hthrows⟩ c hc
    · rw [if_neg heof]
      exact .when (fun _ => handler.keeps hsend) fun _ hc _ => hc

lemma step_keeps (hsend : ∀ (s : Send) c, P c → P { c with base := s.base c.base })
    (hread : ∀ (rxBuf : Bytes) (delivered : List (RpcHeader × Bytes)) (c : Client), P c →
      P { c with rxBuf, delivered })
    (hfd : e.Ends → ∀ c, P c → P (c.setFd 0)) (hc : P c) :
    P ((clientMachine cbor c₀).step c e).2 :=
  (Event.keeps hsend hread hfd).state (hread c.rxBuf [] c hc)

end Keeps

end Sativa.PlCommon
