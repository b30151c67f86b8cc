import Sativa.RpcIsolation

/-!
What becomes of a key while other things happen at the server.

Only an accepted update writes to the store, so between two updates of a key any events on
any clients leave the key alone. Keys are told apart as the store tells them apart.
-/

namespace Sativa.RpcServer

open Sativa Sativa.Rpc Sativa.Cbor Sativa.Store

/-- The event is an accepted update of the key that the store knows by `name`. -/
def Updates (cbor : Libcbor) (s : Server) (name : Bytes) : Event → Prop
  | .read ev pending env => s.clients ev ≠ none ∧ ∃ hdr key value,
      decodeRequest cbor env pending = .ok (hdr, .update key value) ∧ cstr key = name ∧
        ((setKey env.sql key value).run s.store).1 = .ok ()
  | _ => False

/-- Any events between `s` and a later state, of which none is an accepted update of `name`. -/
inductive Quiet (cbor : Libcbor) (name : Bytes) (s : Server) : Server → Prop
  | refl : Quiet cbor name s s
  | step {s' : Server} (e : Event) (quiet : Quiet cbor name s s')
      (other : ¬ Updates cbor s' name e) : Quiet cbor name s (RpcServer.step cbor s' e).2

/-- The event updates another key, whose row has the same id modulo `2 ^ 32`. -/
def Clashes (cbor : Libcbor) (s : Server) (name : Bytes) : Event → Prop
  | .read _ pending env => ∃ hdr key value r r',
      decodeRequest cbor env pending = .ok (hdr, .update key value) ∧ cstr key ≠ name ∧
        s.store.keyRow name = some r ∧ s.store.keyRow (cstr key) = some r' ∧
          uint32 r'.id = uint32 r.id
  | _ => False

/-- Quiet, and without clashes. -/
inductive Spared (cbor : Libcbor) (name : Bytes) (s : Server) : Server → Prop
  | refl : Spared cbor name s s
  | step {s' : Server} (e : Event) (spared : Spared cbor name s s')
      (other : ¬ Updates cbor s' name e) (clear : ¬ Clashes cbor s' name e) :
      Spared cbor name s (RpcServer.step cbor s' e).2

section Step

variable {cbor : Libcbor} {env : CallbackEnv} {s : Server} {ev : ℕ}

lemma store_replyTo (req : RpcHeader) (payload : Bytes) :
    ((replyTo env ev req payload).run s).2.store = s.store := by
  rcases hc : s.clients ev with _ | client
  · have hat : (clientAt ev).run s = (.error .outOfRange, s) := by simp [clientAt, hc]
    rw [replyTo, Prog.run_bind_of_error hat]
  · rw [run_replyTo_send hc]
    unfold send
    by_cases hw : env.writeOk = false
    · rw [Prog.throwIf_pos hw]
      rfl
    · rw [Prog.throwIf_neg hw]
      rfl

lemma store_answer (hdr : RpcHeader) (request : Request) :
    ((answer cbor env ev hdr request).run s).2.store = s.store ∨
    ∃ key value, request = .update key value ∧ (setKey env.sql key value).run s.store =
      (.ok (), ((answer cbor env ev hdr request).run s).2.store) := by
  rw [run_answer]
  rcases hperform : request.perform env.sql s.store with e | ⟨pairs, store⟩
  · exact .inl rfl
  · dsimp only
    rw [store_replyTo]
    cases request with
    | query key flags => exact .inl (perform_query_store hperform)
    | update key value => exact .inr ⟨key, value, rfl, (perform_update_inv hperform).1⟩

lemma store_readCallback (pending : Bytes) :
    (readCallback cbor env s ev pending).2.store = s.store ∨
    s.clients ev ≠ none ∧ ∃ hdr key value,
      decodeRequest cbor env pending = .ok (hdr, .update key value) ∧
      (setKey env.sql key value).run s.store =
        (.ok (), (readCallback cbor env s ev pending).2.store) := by
  -- dropping the client after an error does not touch the store
  have hdrop : (readCallback cbor env s ev pending).2.store =
      ((handleClientRead cbor env ev pending).run s).2.store := by
    unfold readCallback
    rcases (handleClientRead cbor env ev pending).run s with ⟨e | _, s'⟩ <;> rfl
  rcases hc : s.clients ev with _ | client
  · rw [readCallback_absent hc]
    exact .inl rfl
  rw [hdrop, run_handleClientRead hc]
  set s₁ := s.setClient ev { client with receiveBuf := pending }
  rcases hd : decodeRequest cbor env pending with e | ⟨hdr, request⟩
  · exact .inl rfl
  · rcases @store_answer cbor env s₁ ev hdr request with hkeep | ⟨key, value, rfl, hset⟩
    · exact .inl hkeep
    · exact .inr ⟨by simp, hdr, key, value, rfl, hset⟩

/-- A step leaves the store alone, or it is an accepted update. -/
lemma store_step (cbor : Libcbor) (s : Server) (e : Event) : (step cbor s e).2.store = s.store ∨
    ∃ ev pending env hdr key value, e = .read ev pending env ∧ s.clients ev ≠ none ∧
      decodeRequest cbor env pending = .ok (hdr, .update key value) ∧
      (setKey env.sql key value).run s.store = (.ok (), (step cbor s e).2.store) := by
  cases e with
  | accept ev =>
    refine .inl ?_
    change (acceptClient s ev).store = s.store
    unfold acceptClient
    rcases s.clients ev with _ | client <;> rfl
  | close ev => exact .inl rfl
  | read ev pending env =>
    rcases @store_readCallback cbor env s ev pending with
      hkeep | ⟨hc, hdr, key, value, hd, hset⟩
    · exact .inl hkeep
    · exact .inr ⟨ev, pending, env, hdr, key, value, rfl, hc, hd, hset⟩

end Step

/-! ### Runs -/

section Runs

variable {cbor : Libcbor} {s s' : Server} {name : Bytes}

lemma seq_step (cbor : Libcbor) (s : Server) (e : Event) :
    s.store.seq ≤ (step cbor s e).2.store.seq := by
  rcases store_step cbor s e with hkeep | ⟨ev, pending, env, hdr, key, value, -, -, -, hset⟩
  · rw [hkeep]
  · exact seq_le_of_setKey hset

lemma Quiet.seq_le (hq : Quiet cbor name s s') : s.store.seq ≤ s'.store.seq := by
  induction hq with
  | refl => exact le_refl _
  | step e _ _ ih => exact ih.trans (seq_step _ _ e)

lemma Quiet.spared (hq : Quiet cbor name s s') (hseq : s'.store.seq < 2 ^ 32) :
    Spared cbor name s s' := by
  induction hq with
  | refl => exact .refl
  | @step s₁ e _ hother ih =>
    have hle := seq_step cbor s₁ e
    have hlt : s₁.store.seq < 2 ^ 32 := by omega
    refine .step e (ih hlt) hother fun hclash => ?_
    cases e with
    | accept ev => exact hclash
    | close ev => exact hclash
    | read ev pending env =>
      obtain ⟨hdr, key, value, r, r', -, hne, hr, hr', hsame⟩ := hclash
      rw [uint32_of_lt ((Db.id_le_seq hr).trans_lt hlt),
        uint32_of_lt ((Db.id_le_seq hr').trans_lt hlt)] at hsame
      exact Db.id_ne hr hr' hne hsame

/-- **Between updates** of a key and without clashes, the tables say the same of it. -/
lemma Spared.sameKey (hs : Spared cbor name s s') : Db.SameKey name s.store s'.store := by
  induction hs with
  | refl => exact .refl _ _
  | @step s₁ e _ hother hclear ih =>
    refine ih.trans ?_
    rcases store_step cbor s₁ e with hkeep | ⟨ev, pending, env, hdr, key, value, rfl, hc, hd, hset⟩
    · rw [hkeep]
      exact .refl _ _
    · have hne : name ≠ cstr key := fun heq =>
        hother ⟨hc, hdr, key, value, hd, heq.symm, by rw [hset]⟩
      refine setKey_sameKey hset hne fun r r' hr hr' hid => ?_
      refine hclear ⟨hdr, key, value, r, r', hd, hne.symm, hr, hr', ?_⟩
      rw [hid]
      exact (Nat.mod_mod _ _).symm

end Runs

end Sativa.RpcServer
