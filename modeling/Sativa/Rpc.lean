import Sativa.Buffer

/-!
The packets of the configuration protocol.

Every packet starts with a header of eight bytes in the byte order of the machine, here
little-endian, and its `length` counts the header.
-/

namespace Sativa.Rpc

open Sativa

def kRpcVersionLatest : UInt16 := 0x0100

/-- Access the configuration database (read). -/
def kConfigQuery : UInt8 := 0x01

/-- Access the configuration database (write). -/
def kConfigUpdate : UInt8 := 0x02

structure RpcHeader where
  version : UInt16
  length : UInt16
  endpoint : UInt8
  tag : UInt8
  flags : UInt8
  reserved : UInt8

/-- `sizeof(struct rpc_header)`, which is also `offsetof(struct rpc_header, payload)`. -/
def headerSize : ℕ := 8

namespace RpcHeader

/-- The header in memory. -/
def bytes (h : RpcHeader) : Bytes :=
  le16 h.version ++ le16 h.length ++ [h.endpoint, h.tag, h.flags, h.reserved]

/-- The header at the start of a buffer. -/
def read (b : Bytes) : RpcHeader where
  version := ofLe16 (b.getD 0 0) (b.getD 1 0)
  length := ofLe16 (b.getD 2 0) (b.getD 3 0)
  endpoint := b.getD 4 0
  tag := b.getD 5 0
  flags := b.getD 6 0
  reserved := b.getD 7 0

@[simp] lemma length_bytes (h : RpcHeader) : h.bytes.length = headerSize := rfl

@[simp] lemma drop_bytes_append (h : RpcHeader) (b : Bytes) :
    (h.bytes ++ b).drop headerSize = b := rfl

@[simp] lemma take_bytes_append (h : RpcHeader) (b : Bytes) :
    (h.bytes ++ b).take headerSize = h.bytes := rfl

@[simp] lemma read_bytes_append (h : RpcHeader) (b : Bytes) : read (h.bytes ++ b) = h := by
  have hv := ofLe16_le16 h.version
  have hl := ofLe16_le16 h.length
  cases h
  simp only [bytes, le16, read]
  simp only [List.cons_append, List.nil_append, List.getD_cons_zero, List.getD_cons_succ]
  exact congrArg₂ (RpcHeader.mk · · _ _ _ _) hv hl

lemma bytes_read {b : Bytes} (h : b.length = headerSize) : (read b).bytes = b := by
  match b, h with
  | [v₀, v₁, l₀, l₁, ep, tag, flags, reserved], _ =>
    simp only [bytes, read, List.getD_cons_zero, List.getD_cons_succ, le16_ofLe16]
    rfl

lemma read_take {n : ℕ} (h : headerSize ≤ n) (b : Bytes) : read (b.take n) = read b := by
  unfold headerSize at h
  simp [read, List.getD_eq_getElem?_getD, show 0 < n by omega,
    show 1 < n by omega, show 2 < n by omega, show 3 < n by omega, show 4 < n by omega,
    show 5 < n by omega, show 6 < n by omega, show 7 < n by omega]

end RpcHeader

/-- Both sides build a packet in a buffer that they reuse, with the header cleared first. -/
def clearedBuffer (buf : Bytes) (payload : Bytes) : Bytes :=
  splice (resize buf (headerSize + payload.length)) 0 (List.replicate headerSize 0)

lemma length_clearedBuffer (buf payload : Bytes) :
    (clearedBuffer buf payload).length = headerSize + payload.length := by
  rw [clearedBuffer, length_splice (by simp), length_resize]

lemma splice_header_payload (buf : Bytes) (h : RpcHeader) (payload : Bytes) :
    splice (splice (clearedBuffer buf payload) 0 h.bytes) headerSize payload =
      h.bytes ++ payload :=
  splice_splice (length_clearedBuffer buf payload : _ = h.bytes.length + payload.length)

lemma splice_payload_header (buf : Bytes) (h : RpcHeader) (payload : Bytes) :
    splice (splice (clearedBuffer buf payload) headerSize payload) 0 h.bytes =
      h.bytes ++ payload :=
  splice_splice_zero (length_clearedBuffer buf payload : _ = h.bytes.length + payload.length)

end Sativa.Rpc
