import Sativa.RpcServe
import Sativa.RowIds

/-!
When two keys of requests are two keys of the store.

A request names a key by a text of any bytes, and the store is asked by a `const char *`.
So keys are told apart by what comes before their first NUL.
-/

namespace Sativa.RpcServer

open Sativa Sativa.Cbor Sativa.Store

/-- The entries of the reply to a request, or its refusal. -/
def Request.reply (sql : SqlEnv) (db : Db) (request : Request) :
    Except RpcError (List (Item × Item)) :=
  (request.perform sql db).map Prod.fst

/-- An accepted update of `k₁` never changes what a query for `k₂` is answered, and the row of
`k₁` is not the one that a query for `k₂` is answered from. -/
structure Independent (db : Db) (k₁ k₂ : Bytes) : Prop where
  unchanged : ∀ {heap item₁ value sql pairs db' item₂ flags},
    decodeUpdate heap item₁ = .ok (.update k₁ value) →
    (Request.update k₁ value).perform sql db = .ok (pairs, db') →
    decodeQuery item₂ = .ok (.query k₂ flags) →
    (Request.query k₂ flags).reply sql db' = (Request.query k₂ flags).reply sql db
  rows : ∀ r, db.keyRow (cstr k₁) = some r → db.keyRow (cstr k₂) ≠ some r

section Reply

variable {sql : SqlEnv} {db db' : Db} {key : Bytes} {flags : Flags}

lemma reply_query_congr (h : getKey db' key = getKey db key) :
    (Request.query key flags).reply sql db' = (Request.query key flags).reply sql db := by
  unfold Request.reply
  rcases hg : getKey db key with e | value
  · rw [perform_query_error hg, perform_query_error (h.trans hg)]
  · rw [perform_query_ok hg, perform_query_ok (h.trans hg)]
    rfl

lemma length_replyPairs_query (value : PropertyValue) :
    (replyPairs key value .none).length = if value.isMonostate then 2 else 3 := by
  cases value <;> rfl

lemma reply_query_ne (hbefore : getKey db key = .ok .monostate)
    (hafter : getKey db' key ≠ .ok .monostate) :
    (Request.query key .none).reply sql db' ≠ (Request.query key .none).reply sql db := by
  intro hreply
  unfold Request.reply at hreply
  rw [perform_query_ok hbefore] at hreply
  rcases hg : getKey db' key with e | value
  · rw [perform_query_error hg] at hreply
    cases hreply
  · rw [perform_query_ok hg] at hreply
    have hlength : (replyPairs key value .none).length =
        (replyPairs key .monostate .none).length := congrArg List.length (Except.ok.inj hreply)
    have hvalue : value.isMonostate = false := by
      refine PropertyValue.isMonostate_eq_false ?_
      rintro rfl
      exact hafter hg
    simp only [length_replyPairs_query, hvalue] at hlength
    cases hlength

end Reply

lemma getKey_ne_monostate {db : Db} {name : Bytes} {r : KeyRow}
    (h : db.keyRow (cstr name) = some r) : getKey db name ≠ .ok .monostate := by
  intro hg
  rcases getKey_ok hg with ⟨hnone, -⟩ | ⟨r', -, ⟨-, hv⟩ | ⟨t, column, -, hv⟩⟩
  · cases hnone.symm.trans h
  · cases hv
  · cases t <;> cases hv

/-- The row of the key, if there is one, has an id of 32 bits. -/
def Narrow (db : Db) (key : Bytes) : Prop := ∀ r, db.keyRow (cstr key) = some r → r.id < 2 ^ 32

lemma sameKey_of_setKey {sql : SqlEnv} {db db' : Db} {k₁ : Bytes} {value : PropertyValue}
    {name : Bytes} (hid₁ : Narrow db k₁) (hset : (setKey sql k₁ value).run db = (.ok (), db'))
    (hne : name ≠ cstr k₁) : Db.SameKey name db db' := by
  rcases setKey_inv hset with ⟨-, hinsert⟩ | ⟨r, hr, hupdate, -⟩
  · exact (insertKey_ok hinsert).2.2 name hne
  · rw [uint32_of_lt (hid₁ r hr)] at hupdate
    exact (updateKey_only hupdate).sameKey hr hne

/-- **Names**: two keys with row ids of 32 bits are independent exactly if they differ before their
first NUL. -/
theorem independent_iff {db : Db} (hseq : db.seq < 2 ^ 63 - 1) {k₁ k₂ : Bytes} (h₁ : k₁ ≠ [])
    (h₂ : k₂ ≠ []) (hid₁ : Narrow db k₁) (hid₂ : Narrow db k₂) :
    Independent db k₁ k₂ ↔ cstr k₁ ≠ cstr k₂ := by
  constructor
  · intro hind heq
    have hnew : db.keyRow (cstr k₁) = none := by
      rcases hr : db.keyRow (cstr k₁) with _ | r
      · rfl
      · exact absurd (heq ▸ hr) (hind.rows r hr)
    -- a key of the same C string is created by an update of the other
    obtain ⟨db', hinsert⟩ := @insertKey_of_bind _ _ (.uint64 0) false _ _ 0 h₁ hseq hnew rfl rfl
      (Db.rowFits_of_le (by decide))
    have hset : (setKey (.ok 0) k₁ (.uint64 0)).run db = (.ok (), db') := by
      rw [setKey_run, hnew]
      exact hinsert
    obtain ⟨-, ⟨r, hr, -⟩, -⟩ := insertKey_ok hinsert
    have hupdate : decodeUpdate (fun _ => []) (.map (updatePairs k₁ (.uint .int64 0))) =
        .ok (.update k₁ (.uint64 0)) := decodeUpdate_updatePairs h₁
    have hbefore : getKey db k₂ = .ok .monostate := getKey_of_none (heq ▸ hnew)
    have hafter : getKey db' k₂ ≠ .ok .monostate := getKey_ne_monostate (heq ▸ hr)
    exact reply_query_ne hbefore hafter
      (hind.unchanged hupdate (perform_update_ok hset) (decodeQuery_queryPairs h₂))
  · intro hne
    -- other C strings have other rows
    refine ⟨fun _ hperform _ => reply_query_congr ?_, fun r hr hr' => hne ?_⟩
    · obtain ⟨hset, -⟩ := perform_update_inv hperform
      exact getKey_congr hid₂ (sameKey_of_setKey hid₁ hset (Ne.symm hne))
    · exact (Db.keyRow_mem hr).2.symm.trans (Db.keyRow_mem hr').2

/-- A store with the keys `a` and `b`. -/
abbrev sampleStore : Db := (Store.machine.exec
  [(.ok 1, .setKey (ascii "a") (.uint64 5)), (.ok 2, .setKey (ascii "b") (.uint64 6))]).2

theorem independent_iff_sample : Independent sampleStore (ascii "a") (ascii "b") := by
  have ha : Narrow sampleStore (ascii "a") := fun r hr => by
    cases hr
    decide
  have hb : Narrow sampleStore (ascii "b") := fun r hr => by
    cases hr
    decide
  exact (independent_iff (by decide) (by decide) (by decide) ha hb).mpr (by decide)

/-- An update of `a\0b` is found under `a\0c`. -/
theorem not_independent_nul :
    ¬ Independent .initSchema (ascii "a" ++ [0] ++ ascii "b") (ascii "a" ++ [0] ++ ascii "c") := by
  intro h
  have hupdate : decodeUpdate (fun _ => [])
      (.map (updatePairs (ascii "a" ++ [0] ++ ascii "b") (.uint .int64 5))) =
      .ok (.update (ascii "a" ++ [0] ++ ascii "b") (.uint64 5)) := by rfl
  have hquery : decodeQuery (.map (queryPairs (ascii "a" ++ [0] ++ ascii "c"))) =
      .ok (.query (ascii "a" ++ [0] ++ ascii "c") .none) := by rfl
  have hreply := @Independent.unchanged _ _ _ h _ _ _ (.ok 0) _ _ _ _ hupdate rfl hquery
  have hlength := congrArg (fun r => r.toOption.map List.length) hreply
  revert hlength
  decide

end Sativa.RpcServer
