import Sativa.RoundTrip

/-!
The values that are control items on the wire: bools and null.

A bool is sent as one, stored as an integer and never sent back as a bool, which is the only
thing its getter takes. Null is decoded as a bool, so setting a key to null stores `false`.
-/

namespace Sativa.Confd

open Sativa Sativa.Rpc Sativa.Cbor Sativa.RpcServer Sativa.Store

section ControlValues

variable {β : Type} {cbor : Libcbor} {env env₂ : CallbackEnv} {c c' c₂ : Endpoint Link}
  {key : CString} {value : PropertyValue} {handler : Handler β}

/-! ### Bools -/

lemma handleReply_bool {db : Db} (h8 : Utf8.Valid key.bytes)
    (hget : getKey db key.bytes = .ok value) :
    (handleReply cbor boolHandler (cbor.serialize (.map (replyPairs key.bytes value .none)))).exit ≠
      .status 0 := by
  rcases hi : valueItem .none value with _ | item
  · rw [valueItem_eq_none.mp hi, handleReply_absent h8]
    simp [Status.code]
  · obtain ⟨hscalar, hbool⟩ := valueItem_of_getKey hget hi
    by_cases hread : item.Readable
    swap
    · rw [handleReply_unreadable hi hscalar hread]
      simp [Status.code]
    obtain ⟨item', root, hsame, hload, hextract⟩ :=
      @load_reply_value cbor key _ _ h8 hi hscalar hread
    by_cases hn : item'.isNull = true
    · rw [if_pos hn] at hextract
      rw [handleReply_error hload hextract]
      simp [LibError.exit, Status.code]
    · rw [if_neg hn] at hextract
      -- no item that is sent is a bool: true and false are stored as 1 and 0
      have hhandler : ∃ out, boolHandler item' =
          (.error (notBool item' (.confd .typeMismatch)), out) := by
        unfold boolHandler
        simp [← hsame.bool?_eq, hbool]
      obtain ⟨out, hhandler⟩ := hhandler
      rw [handleReply_throw hload hextract hhandler]
      unfold notBool
      split_ifs <;> simp [LibError.exit, Status.code]

/-- **Bools** are never read back: after a bool or an integer was set, whatever the server does
in the meantime, the getter fails. -/
theorem bool_never_reads_back (hidle : c.sock.Idle) (hw : env.writeOk = true)
    (hset : (∃ b, confdSetBool cbor (linkSocket cbor env) key b c = (.status 0, c')) ∨
      ∃ n, confdSetInt cbor (linkSocket cbor env) key n c = (.status 0, c'))
    (hconn : c₂.conn = c'.conn) (hidle₂ : c₂.sock.Idle) (hw₂ : env₂.writeOk = true) :
    (confdGetBool cbor (linkSocket cbor env₂) key c₂).1.exit ≠ .status 0 := by
  obtain ⟨item, hitem, hupdate⟩ : ∃ item : Item, item.Scalar ∧
      doUpdate cbor (linkSocket cbor env) key item c = (.status 0, c') := by
    rcases hset with ⟨b, hset⟩ | ⟨n, hset⟩
    · exact ⟨_, scalar_buildBool b, hset⟩
    · exact ⟨.uint .int64 n.toUInt64, trivial, hset⟩
  obtain ⟨-, -, ⟨h8, -⟩, -⟩ := doUpdate_ok hidle hw hitem hupdate
  change (doQuery _ _ _ _ _).1.exit ≠ _
  rcases doQuery_after boolHandler hidle hw hitem hupdate hconn hidle₂ hw₂ with
    ⟨code, hcode, hx⟩ | ⟨stored, hget, -, hx⟩
  · rw [hx]
    rintro ⟨⟩
    revert hcode
    decide
  · rw [hx]
    exact handleReply_bool h8 hget

abbrev sampleBool : Exit × Endpoint Link :=
  confdSetBool codec (linkSocket codec (.ok 0)) sampleKey true sampleConn

theorem bool_never_reads_back_sample :
    (confdGetBool codec (linkSocket codec (.ok 0)) sampleKey sampleBool.2).1.exit ≠ .status 0 :=
  bool_never_reads_back ⟨by decide, rfl⟩ rfl (.inl ⟨true, (Prod.ext (by decide) rfl :
    sampleBool = (.status 0, sampleBool.2))⟩) rfl ⟨by decide, by decide⟩ rfl

/-- `true` does not come back. -/
theorem bool_lost : ¬ ∀ (key : CString) (b : Bool) (env : CallbackEnv) (c c' : Endpoint Link),
    Store.machine.Reachable c.sock.server.store → c.sock.Idle → env.writeOk = true →
    confdSetBool codec (linkSocket codec env) key b c = (.status 0, c') →
    ReadsBack codec key c'.sock.server (fun sock => confdGetBool codec sock key)
      ⟨.status 0, some b⟩ := by
  intro h
  have hback := h sampleKey true (.ok 0) sampleConn sampleBool.2 .init ⟨by decide, rfl⟩ rfl
    (Prod.ext (by decide) rfl) sampleBool.2 (.ok 0) .refl ⟨by decide, by decide⟩ rfl (by decide)
  exact absurd (congrArg Result.exit hback) (by decide)

/-! ### Null -/

/-- Some getter returns `kConfdNullValue`. -/
def ReadsNull (cbor : Libcbor) (sock : Socket Link) (key : CString) (c : Endpoint Link) : Prop :=
  (∃ n, (confdGetString cbor sock key n c).1.exit = .status Status.nullValue.code) ∨
  (∃ n, (confdGetBlob cbor sock key n c).1.exit = .status Status.nullValue.code) ∨
  (confdGetInt cbor sock key c).1.exit = .status Status.nullValue.code ∨
  (confdGetReal cbor sock key c).1.exit = .status Status.nullValue.code ∨
  (confdGetBool cbor sock key c).1.exit = .status Status.nullValue.code

/-- A handler throws for a value of a wrong type only, or crashes on it. -/
def Handler.Checks (handler : Handler β) : Prop :=
  ∀ item, (handler item).1 = .ok () ∨ ∃ e, (handler item).1 = .error e ∧
    (e = .confd .typeMismatch ∨ e = .crash)

lemma checks_stringHandler (n : ℕ) : (stringHandler n).Checks := by
  intro item
  unfold stringHandler
  rcases item.text? with _ | str
  · exact .inr ⟨_, rfl, .inl rfl⟩
  · exact .inl rfl

lemma checks_blobHandler (n : ℕ) : (blobHandler n).Checks := by
  intro item
  cases item <;> first | exact .inl rfl | exact .inr ⟨_, rfl, .inl rfl⟩

lemma checks_intHandler : intHandler.Checks := by
  intro item
  cases item <;> first | exact .inl rfl | exact .inr ⟨_, rfl, .inl rfl⟩

lemma checks_realHandler : realHandler.Checks := by
  intro item
  cases item <;> first | exact .inl rfl | exact .inr ⟨_, rfl, .inl rfl⟩

lemma checks_boolHandler : boolHandler.Checks := by
  intro item
  unfold boolHandler
  rcases item.bool? with _ | b
  · refine .inr ⟨_, rfl, ?_⟩
    unfold notBool
    split_ifs
    · exact .inr rfl
    · exact .inl rfl
  · exact .inl rfl

lemma handleReply_ne_null {db : Db} (h8 : Utf8.Valid key.bytes) (hh : handler.Checks)
    (hget : getKey db key.bytes = .ok value) (hv : value ≠ .null) :
    (handleReply cbor handler (cbor.serialize (.map (replyPairs key.bytes value .none)))).exit ≠
      .status Status.nullValue.code := by
  rcases hi : valueItem .none value with _ | item
  · rw [valueItem_eq_none.mp hi, handleReply_absent h8]
    simp [Status.code]
  · have hscalar : item.Scalar := (valueItem_of_getKey hget hi).1
    by_cases hread : item.Readable
    swap
    · rw [handleReply_unreadable hi hscalar hread]
      simp [Status.code]
    obtain ⟨item', root, hsame, hload, hextract⟩ :=
      @load_reply_value cbor key _ _ h8 hi hscalar hread
    have hnull : item'.isNull = false := by
      rw [← hsame.isNull_eq]
      cases value with
      | null => exact absurd rfl hv
      | bool b => cases hi; cases b <;> rfl
      | _ => cases hi <;> rfl
    rw [hnull] at hextract
    rcases hr : handler item' with ⟨r, out⟩
    rcases hh item' with hok | ⟨e, hthrow, he⟩
    · rw [hr] at hok
      rw [handleReply_ok hload hextract (hr.trans (congrArg (·, out) hok))]
      simp [Status.code]
    · rw [hr] at hthrow
      rw [handleReply_throw hload hextract (hr.trans (congrArg (·, out) hthrow))]
      rcases he with rfl | rfl <;> simp [LibError.exit, Status.code]

lemma getKey_ne_null {sql : SqlEnv} {db db' : Db} {b : Bool}
    (hset : (setKey sql key.bytes (.bool b)).run db = (.ok (), db')) :
    getKey db' key.bytes ≠ .ok .null := by
  have hinteger : typeForValue (.bool b) ≠ .null := by simp [typeForValue]
  obtain ⟨r, hr, htype⟩ := setKey_valueType hinteger hset
  intro hget
  rcases getKey_ok hget with ⟨-, hv⟩ | ⟨r', hr', ⟨hnull, -⟩ | ⟨t, column, -, hv⟩⟩
  · cases hv
  · cases hr.symm.trans hr'
    exact hinteger (code_inj (htype.symm.trans hnull))
  · cases t <;> cases hv

lemma doQuery_ne_null {γ : Type} {handler : Handler γ} (hh : handler.Checks) (hidle : c.sock.Idle)
    (hw : env.writeOk = true) (hw₂ : env₂.writeOk = true)
    (hset : doUpdate cbor (linkSocket cbor env) key ctrlNull c = (.status 0, c')) :
    (doQuery cbor (linkSocket cbor env₂) key handler c').1.exit ≠
      .status Status.nullValue.code := by
  have hitem : ctrlNull.Scalar := .inr (.inr rfl)
  obtain ⟨-, -, ⟨h8, -⟩, item', value, hsame, hvalue, hsql, hidle', -⟩ :=
    doUpdate_ok hidle hw hitem hset
  obtain rfl : ctrlNull = item' := hsame.eq rfl
  cases hvalue
  rcases doQuery_after handler hidle hw hitem hset rfl hidle' hw₂ with
    ⟨code, hcode, hx⟩ | ⟨value, hget, -, hx⟩
  · rw [hx]
    rintro ⟨⟩
    revert hcode
    decide
  · rw [hx]
    refine handleReply_ne_null h8 hh hget ?_
    rintro rfl
    exact getKey_ne_null hsql hget

/-- **Null** is never set: the setter fails, or after it no getter returns `kConfdNullValue`. -/
theorem null_never_reads_back (cbor : Libcbor) (key : CString) (hidle : c.sock.Idle)
    (hw : env.writeOk = true) (hw₂ : env₂.writeOk = true) :
    ¬ ((confdSetNull cbor (linkSocket cbor env) key c).1 = .status 0 ∧
      ReadsNull cbor (linkSocket cbor env₂) key
        (confdSetNull cbor (linkSocket cbor env) key c).2) := by
  rintro ⟨hexit, hnull⟩
  set c' := (confdSetNull cbor (linkSocket cbor env) key c).2
  have hset : doUpdate cbor (linkSocket cbor env) key ctrlNull c = (.status 0, c') :=
    Prod.ext hexit rfl
  have hquery : ∀ {γ : Type} {handler : Handler γ}, handler.Checks →
      (doQuery cbor (linkSocket cbor env₂) key handler c').1.exit ≠
        .status Status.nullValue.code := fun hh => doQuery_ne_null hh hidle hw hw₂ hset
  rcases hnull with ⟨n, hx⟩ | ⟨n, hx⟩ | hx | hx | hx
  · unfold confdGetString at hx
    split_ifs at hx
    · cases hx
    · exact hquery (checks_stringHandler n) hx
  · unfold confdGetBlob at hx
    split_ifs at hx
    · cases hx
    · exact hquery (checks_blobHandler n) hx
  · exact hquery checks_intHandler hx
  · exact hquery checks_realHandler hx
  · exact hquery checks_boolHandler hx

abbrev sampleNull : Exit × Endpoint Link :=
  confdSetNull codec (linkSocket codec (.ok 0)) sampleKey sampleConn

theorem null_never_reads_back_sample : ¬ (sampleNull.1 = .status 0 ∧
    ReadsNull codec (linkSocket codec (.ok 0)) sampleKey sampleNull.2) :=
  null_never_reads_back codec sampleKey ⟨by decide, rfl⟩ rfl rfl

/-- A key that was set to null is read as the integer `0`. -/
theorem null_reads_zero : ¬ ∀ (key : CString) (env : CallbackEnv) (c : Endpoint Link),
    Store.machine.Reachable c.sock.server.store → c.sock.Idle → env.writeOk = true →
    (confdSetNull codec (linkSocket codec env) key c).1 = .status 0 ∧
    (confdGetInt codec (linkSocket codec env) key
      (confdSetNull codec (linkSocket codec env) key c).2).1.exit =
        .status Status.nullValue.code := by
  intro h
  have hnull := (h sampleKey (.ok 0) sampleConn .init ⟨by decide, rfl⟩ rfl).2
  exact absurd hnull (by decide)

end ControlValues

end Sativa.Confd
