import Sativa.RpcServe
import Sativa.StoreRuns
import Sativa.CborCodec

/-!
Requests are all or nothing, and clients are isolated from each other.

A chunk is refused, and then only its client is gone, or it is answered, and then one packet
is written to its client. This holds in any state, hence after any events.
-/

namespace Sativa.RpcServer

open Sativa Sativa.Rpc Sativa.Cbor Sativa.Store

/-- The server of a store, in any environment. -/
def machine (cbor : Libcbor) (store : Db) : Machine Server Event (Except RpcError Unit) where
  init := ⟨fun _ => none, store, []⟩
  step := step cbor

def Event.client : Event → ℕ
  | accept ev => ev
  | read ev _ _ => ev
  | close ev => ev

/-- The socket takes the reply, if there is one. -/
def Event.WriteOk : Event → Prop
  | read _ _ env => env.writeOk = true
  | _ => True

/-- Nothing was written and nothing stored, and the client is gone. -/
structure Refused (s : Server) (ev : ℕ) (s' : Server) : Prop where
  written : s'.written = s.written
  store : s'.store = s.store
  gone : s'.clients ev = none

/-- The request in `pending` was performed, and `packet` was written to its client. -/
structure Answered (cbor : Libcbor) (env : CallbackEnv) (s : Server) (ev : ℕ)
    (pending packet : Bytes) (s' : Server) : Prop where
  written : s'.written = s.written ++ [(ev, packet)]
  endpoint : (RpcHeader.read packet).endpoint = (RpcHeader.read pending).endpoint
  tag : (RpcHeader.read packet).tag = (RpcHeader.read pending).tag
  flags : (RpcHeader.read packet).flags = 1
  payload : ∃ request pairs,
    decodeRequest cbor env pending = .ok (RpcHeader.read pending, request) ∧
    request.perform env.sql s.store = .ok (pairs, s'.store) ∧
    packet.drop headerSize = cbor.serialize (.map pairs)
  buffers : s'.clients ev = some ⟨pending, packet⟩
  query : (RpcHeader.read pending).endpoint ≠ kConfigUpdate → s'.store = s.store

section Requests

variable {cbor : Libcbor} {env : CallbackEnv} {pending : Bytes} {hdr : RpcHeader}
  {request : Request}

lemma checkHeader_ok (h : checkHeader pending = .ok hdr) :
    hdr = RpcHeader.read pending ∧ hdr.version = kRpcVersionLatest ∧
      headerSize ≤ hdr.length.toNat ∧ hdr.length.toNat - headerSize ≤ pending.length := by
  unfold checkHeader at h
  dsimp only at h
  split_ifs at h with h₁ h₂ h₃ h₄
  cases h
  exact ⟨rfl, not_not.mp h₂, not_lt.mp h₃, not_lt.mp h₄⟩

lemma decodeRequest_ok (h : decodeRequest cbor env pending = .ok (hdr, request)) :
    checkHeader pending = .ok hdr ∧
      ∃ item, cbor.load (payloadBytes env pending (hdr.length.toNat - headerSize)) = some item ∧
        (hdr.endpoint = kConfigQuery ∧ decodeQuery item = .ok request ∨
          hdr.endpoint = kConfigUpdate ∧ decodeUpdate env.heap item = .ok request) := by
  obtain ⟨hdr', hcheck, h⟩ := except_bind_ok.mp h
  obtain ⟨item, hload, h⟩ := except_bind_ok.mp h
  have hitem : cbor.load (payloadBytes env pending (hdr'.length.toNat - headerSize)) =
      some item := by
    unfold loadItem at hload
    rcases hl : cbor.load (payloadBytes env pending (hdr'.length.toNat - headerSize)) with _ | i
    · rw [hl] at hload; cases hload
    · rw [hl] at hload; cases hload; rfl
  split_ifs at h with hq hu
  · obtain ⟨request', hr, h⟩ := except_bind_ok.mp h
    cases h
    exact ⟨hcheck, item, hitem, .inl ⟨hq, hr⟩⟩
  · obtain ⟨request', hr, h⟩ := except_bind_ok.mp h
    cases h
    exact ⟨hcheck, item, hitem, .inr ⟨hu, hr⟩⟩

lemma decodeQuery_ok {item : Item} (h : decodeQuery item = .ok request) :
    ∃ key flags, request = .query key flags := by
  obtain ⟨pairs, -, h⟩ := except_bind_ok.mp h
  obtain ⟨key, -, h⟩ := except_bind_ok.mp h
  obtain ⟨flags, -, h⟩ := except_bind_ok.mp h
  exact ⟨key, flags, (Except.ok.inj h).symm⟩

end Requests

section Events

variable {cbor : Libcbor} {env : CallbackEnv} {s : Server} {ev : ℕ} {client : Client}
  {pending packet : Bytes} {db store : Db}

lemma refused_erase : Refused s ev (s.erase ev) := ⟨rfl, rfl, by simp [Server.erase]⟩

lemma serve_ok (h : serve cbor env db pending = .ok (packet, store)) :
    ∃ request pairs, decodeRequest cbor env pending = .ok (RpcHeader.read pending, request) ∧
      request.perform env.sql db = .ok (pairs, store) ∧
      packet = replyPacket (RpcHeader.read pending) (cbor.serialize (.map pairs)) := by
  obtain ⟨⟨hdr, request⟩, hdecode, h⟩ := except_bind_ok.mp h
  obtain ⟨⟨pairs, store'⟩, hperform, h⟩ := except_bind_ok.mp h
  cases h
  obtain ⟨rfl, -⟩ := checkHeader_ok (decodeRequest_ok hdecode).1
  exact ⟨request, pairs, hdecode, hperform, rfl⟩

lemma replied_answered (h : serve cbor env s.store pending = .ok (packet, store)) :
    Answered cbor env s ev pending packet (s.replied ev pending packet store) := by
  obtain ⟨request, pairs, hdecode, hperform, rfl⟩ := serve_ok h
  obtain ⟨-, item, -, hkind⟩ := decodeRequest_ok hdecode
  refine ⟨rfl, ?_, ?_, ?_, ⟨request, pairs, hdecode, hperform, ?_⟩, ?_, fun hne => ?_⟩
  · simp [replyPacket, replyHeader]
  · simp [replyPacket, replyHeader]
  · simp [replyPacket, replyHeader]
  · simp [replyPacket]
  · simp [Server.replied]
  · rcases hkind with ⟨-, hq⟩ | ⟨hu, -⟩
    · obtain ⟨key, flags, rfl⟩ := decodeQuery_ok hq
      exact perform_query_store hperform
    · exact absurd hu hne

lemma clients_erase_of_ne {ev' : ℕ} (h : ev' ≠ ev) : (s.erase ev).clients ev' = s.clients ev' :=
  Function.update_of_ne h _ _

lemma readCallback_absent (hc : s.clients ev = none) :
    readCallback cbor env s ev pending = (.error .outOfRange, s.erase ev) := by
  have hat : (clientAt ev).run s = (.error .outOfRange, s) := by simp [clientAt, hc]
  have hrun : (handleClientRead cbor env ev pending).run s = (.error .outOfRange, s) :=
    Prog.run_bind_of_error hat
  rw [readCallback, hrun]
  rfl

/-- **Isolation**: whatever happens on one client, every other client is left alone. A chunk
from a connected client is refused or answered, and nothing else writes or stores anything. -/
theorem event_isolated (cbor : Libcbor) (store : Db) (s : Server) (e : Event) (hw : e.WriteOk) :
    (∀ ev ≠ e.client, ((machine cbor store).step s e).2.clients ev = s.clients ev) ∧
    match e with
    | .read ev pending env => s.clients ev ≠ none →
      Refused s ev ((machine cbor store).step s e).2 ∨
        ∃ packet, Answered cbor env s ev pending packet ((machine cbor store).step s e).2
    | _ => ((machine cbor store).step s e).2.written = s.written ∧
        ((machine cbor store).step s e).2.store = s.store := by
  -- the first half is a frame condition; the second says more for a read of a known client
  cases e with
  | accept ev =>
    change (∀ ev' ≠ ev, (acceptClient s ev).clients ev' = s.clients ev') ∧
      (acceptClient s ev).written = s.written ∧ (acceptClient s ev).store = s.store
    unfold acceptClient
    rcases s.clients ev with _ | client
    · exact ⟨fun ev' h => Function.update_of_ne h _ _, rfl, rfl⟩
    · exact ⟨fun _ _ => rfl, rfl, rfl⟩
  | close ev => exact ⟨fun ev' h => clients_erase_of_ne h, rfl, rfl⟩
  | read ev pending env =>
    change (∀ ev' ≠ ev, (readCallback cbor env s ev pending).2.clients ev' = s.clients ev') ∧
      (s.clients ev ≠ none → Refused s ev (readCallback cbor env s ev pending).2 ∨
        ∃ packet, Answered cbor env s ev pending packet (readCallback cbor env s ev pending).2)
    rcases hc : s.clients ev with _ | client
    · rw [readCallback_absent hc]
      exact ⟨fun ev' h => clients_erase_of_ne h, fun h => absurd rfl h⟩
    · rw [readCallback_eq hc hw]
      rcases hs : serve cbor env s.store pending with e | ⟨packet, store⟩
      · exact ⟨fun ev' h => clients_erase_of_ne h, fun _ => .inl refused_erase⟩
      · exact ⟨fun ev' h => Function.update_of_ne h _ _,
          fun _ => .inr ⟨packet, replied_answered hs⟩⟩

/-- An update of the key `a` to 5. -/
def sampleUpdate : Bytes :=
  (⟨kRpcVersionLatest, 22, kConfigUpdate, 7, 0, 0⟩ : RpcHeader).bytes ++ codec.serialize
    (.map [(.string (ascii "key"), .string (ascii "a")), (.string (ascii "value"), .uint .int8 5)])

/-- The first of two clients sends an update, which is answered. -/
theorem event_isolated_sample :
    let m := machine codec .initSchema
    let s := (m.exec [.accept 1, .accept 2]).2
    let s' := (m.step s (.read 1 sampleUpdate (.ok 1))).2
    s'.clients 2 = some ⟨[], []⟩ ∧ getKey s'.store (ascii "a") = .ok (.uint64 5) ∧
      ∃ packet, Answered codec (.ok 1) s 1 sampleUpdate packet s' := by
  intro m s s'
  obtain ⟨hothers, hanswered⟩ :=
    event_isolated codec .initSchema s (.read 1 sampleUpdate (.ok 1)) rfl
  refine ⟨hothers 2 (by decide), ?_, (hanswered (by decide)).resolve_left fun hrefused => ?_⟩
  · decide
  · exact absurd hrefused.gone (by decide)

end Events

end Sativa.RpcServer
