import Sativa.Wire
import Sativa.RoundTrip

/-!
Runs of calls on one connection, and which reply a getter takes for its own.

A call that fails leaves its reply in the stream while the connection stays in use. Later
calls tell such a reply by its tag, as long as the stream is read in whole replies; after a
reply that was read in part, what is left of it is taken for a packet.
-/

namespace Sativa.Confd

open Sativa Sativa.Rpc Sativa.Cbor Sativa.RpcServer Sativa.Store

/-! ### Calls -/

/-- What the getters write. -/
inductive Value
  | bytes (b : OutBytes)
  | int (n : Int64)
  | real (d : Double)
  | bool (b : Bool)
  deriving DecidableEq

inductive Getter
  | string (outStrLen : ℕ)
  | blob (outBlobLen : ℕ)
  | int
  | real
  | bool

inductive Setter
  | string (str : Region)
  | blob (b : Region)
  | int (value : Int64)
  | real (value : Double)
  | bool (value : Bool)
  | null

inductive Call
  | get (key : CString) (getter : Getter)
  | set (key : CString) (setter : Setter)

def Result.map {β γ : Type} (f : β → γ) (r : Result β) : Result γ := ⟨r.exit, r.out.map f⟩

section Calls

variable {σ : Type} (cbor : Libcbor) (sock : Socket σ)

def Getter.run (key : CString) (c : Endpoint σ) : Getter → Result Value × Endpoint σ
  | string n => (confdGetString cbor sock key n c).map (·.map .bytes) id
  | blob n => (confdGetBlob cbor sock key n c).map (·.map .bytes) id
  | int => (confdGetInt cbor sock key c).map (·.map .int) id
  | real => (confdGetReal cbor sock key c).map (·.map .real) id
  | bool => (confdGetBool cbor sock key c).map (·.map .bool) id

/-- What a getter makes of the payload of a reply. -/
def Getter.deliver (payload : Bytes) : Getter → Result Value
  | string n => (handleReply cbor (stringHandler n) payload).map .bytes
  | blob n => (handleReply cbor (blobHandler n) payload).map .bytes
  | int => (handleReply cbor intHandler payload).map .int
  | real => (handleReply cbor realHandler payload).map .real
  | bool => (handleReply cbor boolHandler payload).map .bool

def Setter.run (key : CString) (c : Endpoint σ) : Setter → Exit × Endpoint σ
  | string str => confdSetString cbor sock key str c
  | blob b => confdSetBlob cbor sock key b c
  | int value => confdSetInt cbor sock key value c
  | real value => confdSetReal cbor sock key value c
  | bool value => confdSetBool cbor sock key value c
  | null => confdSetNull cbor sock key c

/-- The item that a setter sends. -/
def Setter.item : Setter → Item
  | string str => .string str.bytes
  | blob b => .bytestring b.bytes
  | int value => .uint .int64 value.toUInt64
  | real value => .float8 value
  | bool value => buildBool value
  | null => ctrlNull

/-- The payload of the request of a call. -/
def Call.payload : Call → Bytes
  | get key _ => serializeKeyRequest cbor key
  | set key setter => serializeUpdateRequest cbor key setter.item

def Call.run (c : Endpoint σ) : Call → Result Value × Endpoint σ
  | get key getter => getter.run cbor sock key c
  | set key setter => (setter.run cbor sock key c).map (⟨·, none⟩) id

end Calls

/-- A connection to `peer`, on which each call comes with what the kernel makes of its transfers. -/
def machine (cbor : Libcbor) (peer : Peer) :
    Machine (Endpoint Wire) (Call × Kernel) (Result Value) where
  init := ⟨.open, ⟨[], [], [], []⟩⟩
  step c e := e.1.run cbor (wireSocket peer) (c.withKernel e.2)

/-! ### Steps -/

section Steps

variable {β : Type} {cbor : Libcbor} {peer : Peer} {c : Endpoint Wire} {kernel : Kernel}
  {key : CString} {handler : Handler β}

/-- The packet of a query that is sent next. -/
abbrev nextQuery (cbor : Libcbor) (c : Endpoint Wire) (key : CString) : Bytes :=
  requestPacket kConfigQuery (c.conn.nextTag + 1) (serializeKeyRequest cbor key)

lemma doQuery_undisturbed (hpeer : peer.Exact) (ha : c.sock.Aligned)
    (hu : Undisturbed c (serializeKeyRequest cbor key) kernel) :
    (doQuery cbor (wireSocket peer) key handler (c.withKernel kernel)).2.sock.Aligned ∧
    ((doQuery cbor (wireSocket peer) key handler (c.withKernel kernel)).1.exit = .status 0 →
      (doQuery cbor (wireSocket peer) key handler (c.withKernel kernel)).1 =
          handleReply cbor handler (peer c.sock.requests (nextQuery cbor c key)) ∧
        (doQuery cbor (wireSocket peer) key handler (c.withKernel kernel)).2.sock.requests =
          c.sock.requests ++ [nextQuery cbor c key]) := by
  have hx := @exchange_undisturbed peer c kConfigQuery _ kernel hpeer ha hu
  unfold doQuery
  rcases hr : (sendPacketWithReply (wireSocket peer) kConfigQuery
    (serializeKeyRequest cbor key)).run (c.withKernel kernel) with ⟨e | reply, c'⟩
  · rw [hr] at hx
    exact ⟨hx.aligned, fun h => absurd h (hx.error e rfl)⟩
  · rw [hr] at hx
    obtain ⟨rfl, hrequests⟩ := hx.own reply rfl
    exact ⟨hx.aligned, fun _ => ⟨rfl, hrequests⟩⟩

lemma doUpdate_undisturbed {item : Item} (hpeer : peer.Exact) (ha : c.sock.Aligned)
    (hu : Undisturbed c (serializeUpdateRequest cbor key item) kernel) :
    (doUpdate cbor (wireSocket peer) key item (c.withKernel kernel)).2.sock.Aligned :=
  (@exchange_undisturbed peer c kConfigUpdate _ kernel hpeer ha hu).aligned

lemma setter_run_eq {σ : Type} {sock : Socket σ} (setter : Setter) (c : Endpoint σ) :
    setter.run cbor sock key c = doUpdate cbor sock key setter.item c := by
  cases setter <;> rfl

lemma doQuery_map_undisturbed (f : β → Value) (hpeer : peer.Exact) (ha : c.sock.Aligned)
    (hu : Undisturbed c (serializeKeyRequest cbor key) kernel) :
    let r := (doQuery cbor (wireSocket peer) key handler (c.withKernel kernel)).map (·.map f) id
    r.2.sock.Aligned ∧ (r.1.exit = .status 0 →
      r.1 = (handleReply cbor handler (peer c.sock.requests (nextQuery cbor c key))).map f ∧
        r.2.sock.requests = c.sock.requests ++ [nextQuery cbor c key]) := by
  intro r
  obtain ⟨haligned, hown⟩ := @doQuery_undisturbed β cbor peer c kernel key handler hpeer ha hu
  refine ⟨haligned, fun h => ?_⟩
  obtain ⟨hreply, hrequests⟩ := hown h
  exact ⟨congrArg (Result.map f) hreply, hrequests⟩

lemma getter_undisturbed (getter : Getter) (hpeer : peer.Exact) (ha : c.sock.Aligned)
    (hu : Undisturbed c (serializeKeyRequest cbor key) kernel) :
    (getter.run cbor (wireSocket peer) key (c.withKernel kernel)).2.sock.Aligned ∧
    ((getter.run cbor (wireSocket peer) key (c.withKernel kernel)).1.exit = .status 0 →
      (getter.run cbor (wireSocket peer) key (c.withKernel kernel)).1 =
          getter.deliver cbor (peer c.sock.requests (nextQuery cbor c key)) ∧
        (getter.run cbor (wireSocket peer) key (c.withKernel kernel)).2.sock.requests =
          c.sock.requests ++ [nextQuery cbor c key]) := by
  have hskip : ∀ r : Result OutBytes, r.exit = .status Status.invalidArguments.code →
      (r.map Value.bytes).exit ≠ .status 0 := by
    intro r hr h
    cases hr.symm.trans h
  -- an empty buffer is refused before anything is sent
  cases getter with
  | string n =>
    by_cases hn : n = 0
    · simp only [Getter.run, confdGetString, if_pos hn]
      exact ⟨⟨ha.pending, ha.inbox⟩, fun h => absurd h (hskip _ rfl)⟩
    · simp only [Getter.run, confdGetString, if_neg hn]
      exact doQuery_map_undisturbed _ hpeer ha hu
  | blob n =>
    by_cases hn : n = 0
    · simp only [Getter.run, confdGetBlob, if_pos hn]
      exact ⟨⟨ha.pending, ha.inbox⟩, fun h => absurd h (hskip _ rfl)⟩
    · simp only [Getter.run, confdGetBlob, if_neg hn]
      exact doQuery_map_undisturbed _ hpeer ha hu
  | int => exact doQuery_map_undisturbed _ hpeer ha hu
  | real => exact doQuery_map_undisturbed _ hpeer ha hu
  | bool => exact doQuery_map_undisturbed _ hpeer ha hu

end Steps

/-! ### Runs -/

section Runs

variable {cbor : Libcbor} {peer : Peer} {c : Endpoint Wire}

/-- The calls of a run are undisturbed, each in the state it comes in. -/
abbrev CallUndisturbed (cbor : Libcbor) (c : Endpoint Wire) (e : Call × Kernel) : Prop :=
  Undisturbed c (e.1.payload cbor) e.2

lemma aligned_of_reachable (hpeer : peer.Exact)
    (h : (machine cbor peer).ReachableBy (CallUndisturbed cbor) c) : c.sock.Aligned := by
  refine h.invariant (P := fun c => c.sock.Aligned) ⟨rfl, [], rfl⟩ fun c e ha hu => ?_
  obtain ⟨call, kernel⟩ := e
  cases call with
  | get key getter => exact (getter_undisturbed getter hpeer ha hu).1
  | set key setter =>
    have haligned := @doUpdate_undisturbed cbor peer c kernel key setter.item hpeer ha hu
    rw [← setter_run_eq] at haligned
    exact haligned

/-- **Attribution**: in a run of undisturbed calls, of any length and in any order, a getter that
returns `0` returns what the reply to its own request carries. -/
theorem get_own_reply (hpeer : peer.Exact)
    (h : (machine cbor peer).ReachableBy (CallUndisturbed cbor) c) {key : CString} {getter : Getter}
    {kernel : Kernel} (hu : CallUndisturbed cbor c (.get key getter, kernel))
    (h0 : ((machine cbor peer).step c (.get key getter, kernel)).1.exit = .status 0) :
    ((machine cbor peer).step c (.get key getter, kernel)).1 =
        getter.deliver cbor (peer c.sock.requests (nextQuery cbor c key)) ∧
      ((machine cbor peer).step c (.get key getter, kernel)).2.sock.requests =
        c.sock.requests ++ [nextQuery cbor c key] :=
  (getter_undisturbed getter hpeer (aligned_of_reachable hpeer h) hu).2 h0

/-- The payload of the reply for a value of the key `a`. -/
abbrev sampleReply (value : PropertyValue) : Bytes :=
  codec.serialize (.map (replyPairs (ascii "a") value .none))

/-- A packet that has the form of a reply with tag `2`. -/
abbrev forgedReply : Bytes :=
  replyPacket (requestHeader kConfigQuery 2 headerSize) (sampleReply (.uint64 7))

/-- The first query is answered with a blob that is such a packet, every other one with `5`. -/
def samplePeer : Peer := fun past _ =>
  if past = [] then sampleReply (.blob forgedReply) else sampleReply (.uint64 5)

lemma exact_samplePeer : samplePeer.Exact where
  nonempty past request := by
    unfold samplePeer
    split_ifs
    · decide
    · decide
  fits past request := by
    unfold samplePeer
    split_ifs
    · decide
    · decide

abbrev fullKernel : Kernel := ⟨.full, .full, .full⟩

/-- The first `write` is interrupted, and the blob is read by the second call. -/
theorem get_own_reply_sample :
    let m := machine codec samplePeer
    let c := (m.step m.init (.get sampleKey .int, ⟨.error ⟨4, by decide⟩, .full, .full⟩)).2
    (m.step c (.get sampleKey (.blob 64), fullKernel)).1 =
      Getter.deliver codec (samplePeer c.sock.requests (nextQuery codec c sampleKey))
        (.blob 64) := by
  have hfirst : CallUndisturbed codec (machine codec samplePeer).init
      (.get sampleKey .int, ⟨.error ⟨4, by decide⟩, .full, .full⟩) :=
    ⟨by decide, fun _ h => (nomatch h), fun _ h => (nomatch h), rfl, fun h => absurd rfl h⟩
  have hsecond : CallUndisturbed codec
      ((machine codec samplePeer).step (machine codec samplePeer).init
        (.get sampleKey .int, ⟨.error ⟨4, by decide⟩, .full, .full⟩)).2
      (.get sampleKey (.blob 64), fullKernel) :=
    ⟨by decide, fun _ h => (nomatch h), fun _ h => (nomatch h), rfl, fun h => absurd rfl h⟩
  exact (get_own_reply exact_samplePeer (.step .init hfirst) hsecond (by decide)).1

/-- When the read of the blob stops before the packet in it, that packet is taken for the reply to
the next call. -/
theorem forged_reply_taken : samplePeer.Exact ∧ ¬ ∀ c, (machine codec samplePeer).Reachable c →
    ∀ key getter kernel,
      ((machine codec samplePeer).step c (.get key getter, kernel)).1.exit = .status 0 →
      ((machine codec samplePeer).step c (.get key getter, kernel)).1 =
        getter.deliver codec (samplePeer c.sock.requests (nextQuery codec c key)) := by
  refine ⟨exact_samplePeer, fun h => ?_⟩
  have hown := h _ ⟨_, (machine codec samplePeer).run_exec
    [(.get sampleKey (.blob 64), ⟨.full, .full, .short 15⟩)]⟩ sampleKey .int fullKernel (by decide)
  exact absurd (congrArg Result.out hown) (by decide)

end Runs

end Sativa.Confd
