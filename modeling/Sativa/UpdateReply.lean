import Sativa.ReceiveHistory
import Sativa.RequestFields
import Sativa.Attribution

/-!
What a setter makes of the reply.

`ValidateResponse` is to raise an error unless the update was completed, and is empty. So a setter
returns `0` for every reply that decodes, whatever it says.
-/

namespace Sativa.Confd

open Sativa Sativa.Rpc Sativa.Cbor Sativa.RpcServer Sativa.Store

/-- The map has an entry `updated`, and it is true. -/
def SaysUpdated (entries : List (Item × Item)) : Prop :=
  (∃ entry ∈ entries, wholeText? entry.1 = some (ascii "updated")) ∧
  ∀ entry ∈ entries, wholeText? entry.1 = some (ascii "updated") → entry.2 = ctrlTrue

/-- The payload of a reply that confirms an update. -/
def Confirms (cbor : Libcbor) (payload : Bytes) : Prop :=
  ∃ entries, cbor.load payload = some (.map entries) ∧ SaysUpdated entries

/-- Success is reported for a payload that confirms the update, and an error for any other that
decodes. -/
structure ReportsUpdate (cbor : Libcbor) (payload : Bytes) (exit : Exit) : Prop where
  success : exit = .status 0 → Confirms cbor payload
  failure : ∀ root, cbor.load payload = some root → ¬ Confirms cbor payload →
    ∃ code ≠ 0, exit = .status code

section Updates

variable {σ : Type} {cbor : Libcbor} {sock : Socket σ} {key : CString} {item : Item}
  {setter : Setter} {c c' : Endpoint σ} {p : Bytes} {conn : RpcConnection} {a : Answer}

lemma run_doUpdate (h : (sendPacketWithReply sock kConfigUpdate
    (serializeUpdateRequest cbor key item)).run c = (.ok p, c')) :
    (doUpdate cbor sock key item c).1 =
      if (cbor.load p).isSome then .status 0 else .status Status.invalidResponse.code := by
  unfold doUpdate
  rw [h]
  dsimp only
  rcases cbor.load p with _ | root <;> rfl

/-- A setter that is answered. -/
def Setter.answered (setter : Setter) (cbor : Libcbor) (key : CString) (conn : RpcConnection)
    (a : Answer) : Exit :=
  (setter.run cbor tapeSocket key
    (a.endpoint conn kConfigUpdate (serializeUpdateRequest cbor key setter.item))).1

lemma answered_eq : setter.answered cbor key conn a =
    if (cbor.load (a.handedOut conn)).isSome then .status 0
    else .status Status.invalidResponse.code := by
  obtain ⟨c', hr⟩ := run_sendPacketWithReply_answer a conn kConfigUpdate
    (serializeUpdateRequest cbor key setter.item)
  rw [Setter.answered, setter_run_eq, run_doUpdate hr]

lemma keyEntry_not_updated : wholeText? (keyEntry key).1 ≠ some (ascii "updated") := by
  intro h
  have hname : ascii "key" = ascii "updated" := Option.some.inj h
  exact absurd hname (by decide)

/-- The replies of the server: an update without a value is not confirmed, and any other is. -/
lemma confirms_updateReply (h8 : Utf8.Valid key.bytes) (value : PropertyValue) :
    Confirms cbor (updateReply cbor key value) ↔ value ≠ .monostate := by
  constructor
  · rintro ⟨entries, hload, ⟨entry, hmem, hname⟩, -⟩ rfl
    -- a monostate is answered with the key alone, and there is no "updated" to check
    have hpairs : replyPairs key.bytes .monostate ⟨false, true, true⟩ = [keyEntry key] := by
      rw [replyPairs_not_updated, key.cstr_bytes]
    have hentries : cbor.load (updateReply cbor key .monostate) = some (.map [keyEntry key]) := by
      rw [← hpairs]
      apply cbor.load_serialize_exact
      · rw [hpairs]
        exact simple_keyEntry .nil (by decide)
      · rw [hpairs]
        exact readable_keyEntry.mpr ⟨h8, readable_nil⟩
      · rw [hpairs]
        simp [Item.isNaN]
    obtain rfl : [keyEntry key] = entries := by simpa [hentries] using hload
    rw [List.mem_singleton] at hmem
    subst hmem
    exact keyEntry_not_updated hname
  · intro hv
    -- otherwise the second pair is the only one with that name
    refine ⟨_, load_updateReply h8 hv, ?_, ?_⟩
    · exact ⟨_, List.mem_cons_of_mem _ (List.mem_singleton_self _), rfl⟩
    · intro entry hmem hname
      simp only [List.mem_cons, List.not_mem_nil, or_false] at hmem
      rcases hmem with rfl | rfl
      · exact absurd hname keyEntry_not_updated
      · rfl

/-- **Unconfirmed updates**: a setter reports what the answer says just if what is handed out for
it does not decode, or it confirms the update. -/
theorem setter_reports_iff (cbor : Libcbor) (key : CString) (setter : Setter)
    (conn : RpcConnection) (a : Answer) :
    ReportsUpdate cbor a.payload (setter.answered cbor key conn a) ↔
      cbor.load (a.handedOut conn) = none ∨ Confirms cbor a.payload := by
  rw [answered_eq]
  constructor
  · intro h
    rcases hload : cbor.load (a.handedOut conn) with _ | root
    · exact .inl rfl
    · rw [hload] at h
      exact .inr (h.success rfl)
  · intro h
    by_cases hconfirms : Confirms cbor a.payload
    · exact ⟨fun _ => hconfirms, fun _ _ hno => absurd hconfirms hno⟩
    · rw [h.resolve_right hconfirms]
      refine ⟨fun hexit => ?_, fun _ _ _ => ⟨Status.invalidResponse.code, by decide, rfl⟩⟩
      have hcode : Status.invalidResponse.code = 0 := Exit.status.inj hexit
      exact absurd hcode (by decide)

/-- The answer says that nothing was updated. -/
theorem refused_update_succeeds : ¬ ∀ (cbor : Libcbor) (key : CString) (setter : Setter)
    (conn : RpcConnection) (a : Answer),
    ReportsUpdate cbor a.payload (setter.answered cbor key conn a) := by
  intro h
  let a : Answer := ⟨1, 0, codec.serialize (.map [(.string (ascii "updated"), ctrlFalse)]),
    by decide⟩
  have hload : codec.load a.payload = some (.map [(.string (ascii "updated"), ctrlFalse)]) := rfl
  obtain ⟨entries, hentries, -, htrue⟩ := (h codec sampleKey (.int 1) .open a).success
    (by rw [answered_eq]; rfl)
  obtain rfl : [(Item.string (ascii "updated"), ctrlFalse)] = entries := by
    simpa [hload] using hentries
  cases htrue _ (List.mem_singleton_self _) rfl

end Updates

end Sativa.Confd
