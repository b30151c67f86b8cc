import Sativa.Prog
import Sativa.Rpc
import Sativa.Wire

/-!
`ClientBase` of pl-common: the writing end of an RPC client.

The header is the one of the configuration protocol. What the kernel makes of a `write` is given
to each call, and what it took is recorded with the descriptor.
-/

namespace Sativa.PlCommon

open Sativa Sativa.Rpc Sativa.Confd

/-- What the methods throw. -/
inductive ClientError where
  /-- a `std::system_error` -/
  | system (errno : Errno)

/-- A client, and what was written to which descriptor. -/
structure ClientBase where
  fd : ℤ
  nextTag : UInt8
  written : List (ℤ × Bytes)

abbrev ClientProg := Prog ClientError ClientBase

/-- `sendRaw`; the count that `write` returns is not looked at. -/
def sendRaw (kernel : Outcome) (payload : Bytes) : ClientProg Unit :=
  ⟨fun c => match kernel.count payload.length with
    | .error errno => (.error (.system errno), c)
    | .ok n => (.ok (), { c with written := c.written ++ [(c.fd, payload.take n)] })⟩

/-- `do { hdr->tag = ++nextTag; } while(!hdr->tag)`. -/
def advanceTag (tag : UInt8) : UInt8 := if tag + 1 = 0 then tag + 2 else tag + 1

/-- The header of a packet of `size` bytes. -/
def packetHeader (endpoint tag : UInt8) (size : ℕ) : RpcHeader where
  version := kRpcVersionLatest
  length := UInt16.ofNat size
  endpoint := endpoint
  tag := tag
  flags := 0
  reserved := 0

/-- `sendPacket`: the tag of the packet. -/
def sendPacket (kernel : Outcome) (endpoint : UInt8) (payload : Bytes) : ClientProg UInt8 := do
  let buffer := List.replicate (headerSize + payload.length) 0
  let tag := advanceTag (← Prog.get).nextTag
  let hdr := packetHeader endpoint tag (headerSize + payload.length)
  let buffer := splice buffer 0 hdr.bytes
  .modify fun c => { c with nextTag := tag }
  let buffer := splice buffer headerSize payload
  sendRaw kernel buffer
  return tag

section Runs

variable {kernel : Outcome} {endpoint : UInt8} {payload : Bytes} {c : ClientBase}

lemma run_sendPacket : (sendPacket kernel endpoint payload).run c =
    let tag := advanceTag c.nextTag
    let packet := (packetHeader endpoint tag (headerSize + payload.length)).bytes ++ payload
    match kernel.count packet.length with
    | .error errno => (.error (.system errno), { c with nextTag := tag })
    | .ok n => (.ok tag, ⟨c.fd, tag, c.written ++ [(c.fd, packet.take n)]⟩) := by
  set tag := advanceTag c.nextTag with htag
  set hdr := packetHeader endpoint tag (headerSize + payload.length) with hhdr
  have hbuffer : splice (splice (List.replicate (headerSize + payload.length) 0) 0 hdr.bytes)
      headerSize payload = hdr.bytes ++ payload := by
    have h := @splice_splice (List.replicate (headerSize + payload.length) 0) hdr.bytes payload
    rw [RpcHeader.length_bytes] at h
    exact h (by simp)
  unfold sendPacket
  rw [Prog.run_bind_of_ok Prog.run_get]
  simp only [← htag, ← hhdr, hbuffer]
  rw [Prog.run_bind_of_ok (Prog.run_modify _)]
  rcases hk : kernel.count (hdr.bytes ++ payload).length with errno | n
  · refine Prog.run_bind_of_error ?_
    simp only [sendRaw, hk]
  · refine (Prog.run_bind_of_ok (a := ()) ?_).trans Prog.run_pure
    simp only [sendRaw, hk]

end Runs

end Sativa.PlCommon
