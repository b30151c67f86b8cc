import Sativa.RpcIsolation

/-!
Framing: one request for each read callback.

The callback takes whatever is buffered for one packet. As long as every chunk starts with a
whole request, the server is the service below, which has no buffers and knows no bytes
beyond its requests; without that, requests are lost.
-/

namespace Sativa.RpcServer

open Sativa Sativa.Rpc Sativa.Cbor Sativa.Store

/-- A whole request, with an exact header length. -/
def Framed (request : Bytes) : Prop :=
  headerSize ≤ request.length ∧ (RpcHeader.read request).length.toNat = request.length

instance (request : Bytes) : Decidable (Framed request) :=
  inferInstanceAs (Decidable (_ ∧ _))

/-- A chunk that starts with a whole request; what follows it is drained with it. -/
structure Delivery where
  ev : ℕ
  request : Bytes
  rest : Bytes
  env : CallbackEnv

def Delivery.event (d : Delivery) : Event := .read d.ev (d.request ++ d.rest) d.env

/-- Clients that are connected, a store, and the replies so far. -/
@[ext] structure Service where
  connected : ℕ → Bool
  store : Db
  replies : List (ℕ × Bytes)

/-- One request is executed and answered, or it is refused and its client dropped. -/
def Service.perform (cbor : Libcbor) (a : Service) (d : Delivery) : Service :=
  if a.connected d.ev then match serve cbor d.env a.store d.request with
    | .error _ => { a with connected := Function.update a.connected d.ev false }
    | .ok (packet, store) => { a with store, replies := a.replies ++ [(d.ev, packet)] }
  else a

/-- The service that a server provides. -/
def Server.service (s : Server) : Service :=
  ⟨fun ev => (s.clients ev).isSome, s.store, s.written⟩

section Serve

variable {cbor : Libcbor} {env : CallbackEnv} {db : Db} {request : Bytes}

lemma checkHeader_framed (h : Framed request) (rest : Bytes) : checkHeader (request ++ rest) =
    if (RpcHeader.read request).version ≠ kRpcVersionLatest then
      .error (.unsupportedVersion (RpcHeader.read request).version)
    else .ok (RpcHeader.read request) := by
  obtain ⟨hsize, hlen⟩ := h
  have hread : RpcHeader.read (request ++ rest) = RpcHeader.read request := by
    have := RpcHeader.read_take hsize (request ++ rest)
    rwa [List.take_left, eq_comm] at this
  have hshort : ¬ (request ++ rest).length < headerSize := by simp; omega
  have hlong : ¬ (request ++ rest).length < (RpcHeader.read request).length.toNat - headerSize := by
    simp; omega
  have hsize : ¬ (RpcHeader.read request).length.toNat < headerSize := by omega
  unfold checkHeader
  simp only [hread, if_neg hshort, if_neg hlong, if_neg hsize]

lemma payloadBytes_framed (h : Framed request) (rest : Bytes) :
    payloadBytes env (request ++ rest) ((RpcHeader.read request).length.toNat - headerSize) =
      request.drop headerSize := by
  obtain ⟨hsize, hlen⟩ := h
  unfold payloadBytes
  rw [hlen, List.append_assoc, List.drop_append_of_le_length hsize, List.take_left' (by simp)]

lemma decodeRequest_append (h : Framed request) (rest : Bytes) :
    decodeRequest cbor env (request ++ rest) = decodeRequest cbor env request := by
  have hcheck := checkHeader_framed h rest
  have hcheck' := checkHeader_framed h []
  have hpayload := @payloadBytes_framed env request h rest
  have hpayload' := @payloadBytes_framed env request h []
  rw [List.append_nil] at hcheck' hpayload'
  unfold decodeRequest
  rw [hcheck, hcheck']
  by_cases hv : (RpcHeader.read request).version ≠ kRpcVersionLatest
  · rw [if_pos hv]
    rfl
  · rw [if_neg hv]
    change (loadItem cbor (payloadBytes env (request ++ rest) _) >>= _) =
      (loadItem cbor (payloadBytes env request _) >>= _)
    rw [hpayload, hpayload']

lemma serve_append (h : Framed request) (rest : Bytes) :
    serve cbor env db (request ++ rest) = serve cbor env db request := by
  unfold serve
  rw [decodeRequest_append h]

end Serve

section Runs

variable {cbor : Libcbor}

/-- One callback is one request of the service. -/
lemma service_step {s : Server} {d : Delivery} (hf : Framed d.request)
    (hw : d.env.writeOk = true) :
    (step cbor s d.event).2.service = s.service.perform cbor d := by
  change (readCallback cbor d.env s d.ev (d.request ++ d.rest)).2.service = _
  unfold Service.perform
  rcases hc : s.clients d.ev with _ | client
  · have hconn : s.service.connected d.ev = false := by simp [Server.service, hc]
    rw [readCallback_absent hc, if_neg (by simp [hconn])]
    -- an event for no client leaves all clients as they are
    have herase : s.erase d.ev = s := by
      simp only [Server.erase, ← hc, Function.update_eq_self]
    rw [herase]
  · have hconn : s.service.connected d.ev = true := by simp [Server.service, hc]
    have hstore : s.service.store = s.store := rfl
    rw [readCallback_eq hc hw, serve_append hf, if_pos hconn, hstore]
    -- the answer depends on the request alone, the bytes behind it do not reach it
    rcases serve cbor d.env s.store d.request with e | ⟨packet, store⟩
    · ext ev
      · by_cases hev : ev = d.ev <;> simp [Server.service, Server.erase, hev]
      · rfl
      · rfl
    · ext ev
      · by_cases hev : ev = d.ev
        · subst hev
          simp [Server.service, Server.replied, hc]
        · simp [Server.service, Server.replied, hev]
      · rfl
      · rfl

/-- The replies to a client. -/
def Service.repliesTo (a : Service) (ev : ℕ) : List (ℕ × Bytes) :=
  a.replies.filter fun r => r.1 == ev

lemma perform_repliesTo (a : Service) (d : Delivery) (ev : ℕ)
    (h : (a.perform cbor d).connected ev = true) :
    a.connected ev = true ∧ ((a.perform cbor d).repliesTo ev).length =
      (a.repliesTo ev).length + ([d].filter fun d => d.ev == ev).length := by
  unfold Service.perform at h ⊢
  by_cases hconn : a.connected d.ev = true
  · rw [if_pos hconn] at h ⊢
    rcases hserve : serve cbor d.env a.store d.request with e | ⟨packet, store⟩
    · simp only [hserve] at h ⊢
      by_cases hev : ev = d.ev
      · simp [hev] at h
      · rw [Function.update_of_ne hev] at h
        exact ⟨h, by simp [Service.repliesTo, Ne.symm hev]⟩
    · simp only [hserve] at h ⊢
      refine ⟨h, ?_⟩
      by_cases hev : d.ev = ev <;> simp [Service.repliesTo, hev]
  · rw [if_neg hconn] at h ⊢
    refine ⟨h, ?_⟩
    have hev : d.ev ≠ ev := by
      rintro rfl
      exact hconn h
    simp [hev]

lemma run_repliesTo (ds : List Delivery) (a : Service) (ev : ℕ)
    (h : (ds.foldl (Service.perform cbor) a).connected ev = true) :
    a.connected ev = true ∧ ((ds.foldl (Service.perform cbor) a).repliesTo ev).length =
      (a.repliesTo ev).length + (ds.filter fun d => d.ev == ev).length := by
  induction ds generalizing a with
  | nil => exact ⟨h, rfl⟩
  | cons d ds ih =>
    obtain ⟨hconn, hlen⟩ := ih (a.perform cbor d) h
    obtain ⟨hconn', hlen'⟩ := perform_repliesTo a d ev hconn
    have happend : (d :: ds).filter (fun d => d.ev == ev) =
        [d].filter (fun d => d.ev == ev) ++ ds.filter fun d => d.ev == ev := by
      rw [← List.filter_append, List.singleton_append]
    refine ⟨hconn', ?_⟩
    rw [List.foldl_cons, hlen, hlen', happend, List.length_append]
    omega

/-- **Framing**: when every chunk starts with a whole request, the server performs exactly
these requests, each once and in order, and a client that is not dropped gets one reply for
each of its requests. -/
theorem run_framed (cbor : Libcbor) (s : Server) (ds : List Delivery)
    (hf : ∀ d ∈ ds, Framed d.request) (hw : ∀ d ∈ ds, d.env.writeOk = true) :
    (ds.foldl (fun s d => (step cbor s d.event).2) s).service =
      ds.foldl (Service.perform cbor) s.service ∧
    ∀ ev, (ds.foldl (fun s d => (step cbor s d.event).2) s).clients ev ≠ none →
      ((ds.foldl (fun s d => (step cbor s d.event).2) s).service.repliesTo ev).length =
        (s.service.repliesTo ev).length + (ds.filter fun d => d.ev == ev).length := by
  have hrun : (ds.foldl (fun s d => (step cbor s d.event).2) s).service =
      ds.foldl (Service.perform cbor) s.service := by
    induction ds generalizing s with
    | nil => rfl
    | cons d ds ih =>
      rw [List.foldl_cons, List.foldl_cons,
        ih _ (fun x hx => hf x (List.mem_cons_of_mem _ hx))
          (fun x hx => hw x (List.mem_cons_of_mem _ hx)),
        service_step (hf d List.mem_cons_self) (hw d List.mem_cons_self)]
  refine ⟨hrun, fun ev hev => ?_⟩
  have hconn : (ds.foldl (Service.perform cbor) s.service).connected ev = true := by
    rw [← hrun]
    exact Option.isSome_iff_ne_none.mpr hev
  rw [hrun]
  exact (run_repliesTo ds s.service ev hconn).2

/-- A query for the key `a`. -/
def sampleQuery : Bytes :=
  (⟨kRpcVersionLatest, 15, kConfigQuery, 7, 0, 0⟩ : RpcHeader).bytes ++
    codec.serialize (.map [(.string (ascii "key"), .string (ascii "a"))])

theorem run_framed_sample :
    let s := ((machine codec .initSchema).exec [.accept 1]).2
    let ds : List Delivery := [⟨1, sampleQuery, [], .ok 0⟩, ⟨1, sampleQuery, [0], .ok 0⟩]
    ((ds.foldl (fun s d => (step codec s d.event).2) s).service.repliesTo 1).length = 2 :=
  (run_framed codec _ _ (by decide) (by decide)).2 1 (by decide)

/-- Two whole requests that are each answered when they come alone get one reply when they
come in one chunk. -/
theorem merged_requests_lost :
    Framed sampleQuery ∧
    ¬ ∀ chunks : List Bytes, chunks.flatten = sampleQuery ++ sampleQuery →
      (∀ c ∈ chunks, headerSize ≤ c.length) →
      ((machine codec .initSchema).exec
        (.accept 1 :: chunks.map fun c => .read 1 c (.ok 0))).2.written.length = 2 := by
  refine ⟨by decide, fun h => ?_⟩
  have hlost := h [sampleQuery ++ sampleQuery] (by decide) (by decide)
  revert hlost
  decide

end Runs

end Sativa.RpcServer
