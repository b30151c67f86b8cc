import Sativa.ClientLife
import Sativa.CborCodec

/-!
Which bytes a client of pl-common takes for a message.

The length of a packet is what its header says. It is compared with the size of the header and not
with that of the chunk, so that the payload may reach into the memory behind the buffer.
-/

namespace Sativa.PlCommon

open Sativa Sativa.Rpc Sativa.Confd Sativa.Cbor

/-- The header of the chunk, as the read callback reads it. -/
def Chunk.header (chunk : Chunk) : RpcHeader := RpcHeader.read chunk.pending

/-- The chunk is taken for a packet: it has a header of the right version, whose length is at least
that of a header. -/
def Chunk.Taken (chunk : Chunk) : Prop :=
  chunk.removed = true ∧ headerSize ≤ chunk.pending.length ∧
    chunk.header.version = kRpcVersionLatest ∧ headerSize ≤ chunk.header.length.toNat

instance (chunk : Chunk) : Decidable chunk.Taken := by
  unfold Chunk.Taken
  infer_instance

/-- A call of `handleIncomingMessageRaw` gets the payload that was received in the chunk, and there
is none if the chunk is shorter than its header says. -/
structure Chunk.Exact (chunk : Chunk) (calls : List (RpcHeader × Bytes)) : Prop where
  payload : ∀ call ∈ calls, call.1 = chunk.header ∧ headerSize ≤ chunk.header.length.toNat ∧
    chunk.header.length.toNat ≤ chunk.pending.length ∧
    call.2 = (chunk.pending.take chunk.header.length.toNat).drop headerSize
  dropped : chunk.pending.length < chunk.header.length.toNat → calls = []

/-- The same for all events; only a read callback delivers anything. -/
def Event.Exact (calls : List (RpcHeader × Bytes)) : Event → Prop
  | read chunk => chunk.Exact calls
  | _ => calls = []

/-- The event is a chunk that is taken for a longer packet than it is. -/
def Event.Overlong : Event → Prop
  | read chunk => chunk.Taken ∧ chunk.pending.length < chunk.header.length.toNat
  | _ => False

/-- The calls of `handleIncomingMessageRaw` for a chunk. -/
def Chunk.calls (chunk : Chunk) : List (RpcHeader × Bytes) :=
  if chunk.Taken then [(chunk.header,
    memory chunk.pending chunk.behind headerSize (chunk.header.length.toNat - headerSize))]
  else []

/-- The calls for an event. -/
def Event.calls : Event → List (RpcHeader × Bytes)
  | read chunk => chunk.calls
  | _ => []

/-! ### Memory -/

section Memory

variable {rxBuf : Bytes} {behind : ℕ → UInt8} {i n : ℕ}

@[simp] lemma length_memory : (memory rxBuf behind i n).length = n := by simp [memory]

lemma memory_of_le (h : i + n ≤ rxBuf.length) :
    memory rxBuf behind i n = (rxBuf.take (i + n)).drop i := by
  refine List.ext_getElem (by rw [length_memory, List.length_drop, List.length_take]; omega) ?_
  intro k hk _
  rw [length_memory] at hk
  have hin : i + k < rxBuf.length := by omega
  simp [memory, hin]

end Memory

/-! ### One callback -/

section Callback

variable {cbor : Libcbor} {chunk : Chunk} {c c₀ : Client} {d : List (RpcHeader × Bytes)}

lemma delivered_perform (h : Handled) :
    Prog.Keeps (fun c => c.delivered = d) h.perform fun _ c => c.delivered = d :=
  h.keeps fun _ _ hc => hc

lemma delivered_handle (header : RpcHeader) (payload : Bytes) :
    ((handleIncomingMessageRaw cbor chunk header payload).run c).2.delivered =
      c.delivered ++ [(header, payload)] := by
  have hkeeps : Prog.Keeps (fun s : Client => s.delivered = c.delivered ++ [(header, payload)])
      (do
        let message := if payload = [] then none else cbor.load payload
        .throwIf (payload ≠ [] ∧ message = none) .runtime
        (chunk.handler header message).perform)
      fun _ s => s.delivered = c.delivered ++ [(header, payload)] :=
    Prog.Ensures.bind (.throwIf (fun _ hs _ => hs) fun _ hs _ => hs) fun _ =>
      delivered_perform _
  rw [handleIncomingMessageRaw, Prog.run_bind_of_ok (Prog.run_modify _)]
  exact hkeeps.state rfl

lemma delivered_bevRead :
    ((bevRead cbor chunk).run c).2.delivered = c.delivered ++ chunk.calls := by
  have hbuffer (b : Bytes) : splice (resize b chunk.pending.length) 0 chunk.pending =
      chunk.pending := by
    simp [splice]
  rw [bevRead, Prog.run_bind_of_ok (Prog.run_modify _)]
  -- the checks of `bevRead`, in their order; behind the last one the handler is called
  by_cases hremoved : chunk.removed = true
  · rw [Prog.throwIf_neg (by simp [hremoved]), pure_bind,
      Prog.run_bind_of_ok (Prog.run_modify _)]
    dsimp only
    rw [hbuffer]
    by_cases hsize : headerSize ≤ chunk.pending.length
    · have hheader : RpcHeader.read chunk.pending = chunk.header := rfl
      rw [Prog.when, if_pos hsize, Prog.run_bind_of_ok Prog.run_get]
      dsimp only
      rw [hheader]
      by_cases htaken : chunk.header.version = kRpcVersionLatest ∧
          headerSize ≤ chunk.header.length.toNat
      · rw [Prog.when, if_pos htaken, Chunk.calls, if_pos ⟨hremoved, hsize, htaken⟩]
        exact delivered_handle _ _
      · rw [Prog.when, if_neg htaken, Chunk.calls, if_neg fun h => htaken h.2.2]
        simp
    · rw [Prog.when, if_neg hsize, Chunk.calls, if_neg fun h => hsize h.2.1]
      simp
  · rw [Prog.throwIf_pos (by simp [hremoved]), Chunk.calls, if_neg fun h => hremoved h.1]
    simp

/-- The calls in a callback depend on the chunk alone. -/
lemma step_calls (e : Event) : ((clientMachine cbor c₀).step c e).1 = e.calls := by
  cases e with
  | send s => rfl
  | read chunk => exact delivered_bevRead
  | event flags handler =>
    have hkeeps : Prog.Keeps (fun s : Client => s.delivered = []) (bevEvent flags handler)
        fun _ s => s.delivered = [] := by
      unfold bevEvent
      by_cases heof : flags &&& BEV_EVENT_EOF ≠ 0
      · rw [if_pos heof]
        exact (delivered_perform handler).bind fun _ => .modify fun _ hs => hs
      · rw [if_neg heof]
        exact .when (fun _ => delivered_perform handler) fun _ hs _ => hs
    exact hkeeps.state rfl

end Callback

/-! ### Runs -/

section Runs

variable {cbor : Libcbor} {chunk : Chunk}

lemma calls_exact_iff (e : Event) : e.Exact e.calls ↔ ¬ e.Overlong := by
  cases e with
  | send s => exact iff_of_true rfl id
  | event flags handler => exact iff_of_true rfl id
  | read chunk =>
    change chunk.Exact chunk.calls ↔ ¬ (chunk.Taken ∧ _)
    unfold Chunk.calls
    by_cases htaken : chunk.Taken
    · rw [if_pos htaken]
      obtain ⟨-, -, -, hlen⟩ := id htaken
      constructor
      · rintro h ⟨-, hlong⟩
        cases h.dropped hlong
      · intro h
        have hle : chunk.header.length.toNat ≤ chunk.pending.length :=
          not_lt.mp fun hlong => h ⟨htaken, hlong⟩
        refine ⟨fun call hcall => ?_, fun hlong => absurd hle (not_le.mpr hlong)⟩
        obtain rfl := List.mem_singleton.mp hcall
        refine ⟨rfl, hlen, hle, ?_⟩
        rw [memory_of_le (by omega), Nat.add_sub_cancel' hlen]
    · rw [if_neg htaken]
      exact iff_of_true ⟨by simp, fun _ => rfl⟩ fun h => htaken h.1

lemma exec_calls (c : Client) (es : List Event) :
    ((clientMachine cbor c).exec es).1 = es.map fun e => (e, e.calls) := by
  induction es using List.reverseRecOn with
  | nil => rfl
  | append_singleton es e ih =>
    rw [Machine.exec, List.foldl_append, List.map_append]
    exact congrArg₂ (fun h calls => h ++ [(e, calls)]) ih (step_calls e)

/-- **Received bytes only**: in a run of a client the payloads are what was received, just if no
chunk is taken for a longer packet. -/
theorem delivers_received_iff (cbor : Libcbor) (c : Client) (es : List Event) :
    (∀ r ∈ ((clientMachine cbor c).exec es).1, r.1.Exact r.2) ↔ ∀ e ∈ es, ¬ e.Overlong := by
  rw [exec_calls, List.forall_mem_map]
  exact forall₂_congr fun e _ => calls_exact_iff e

/-- A header alone that claims nine bytes. -/
def bareChunk : Chunk where
  pending := RpcHeader.bytes ⟨kRpcVersionLatest, 9, 1, 0, 0, 0⟩
  removed := true
  behind := fun _ => 0xff
  handler := fun _ _ => ⟨[], false⟩

/-- The byte behind the chunk is delivered. -/
theorem unreceived_byte_delivered : ¬ ∀ (cbor : Libcbor) (c : Client) (es : List Event),
    ∀ r ∈ ((clientMachine cbor c).exec es).1, r.1.Exact r.2 := by
  intro h
  have hexact := h codec .blank [.read bareChunk]
  rw [exec_calls] at hexact
  have hcalls : bareChunk.calls = [] :=
    (hexact (.read bareChunk, bareChunk.calls) (by simp [Event.calls])).dropped (by decide)
  revert hcalls
  decide

end Runs

end Sativa.PlCommon
