import Sativa.LinkCalls
import Sativa.Quiet
import Sativa.RowIds

/-!
Round trips: what a getter returns after a setter.

Integers and blobs come back as they were set. Texts come back as they were set only if they
have no NUL and the memory behind the decoded text starts with one.
-/

namespace Sativa.Confd

open Sativa Sativa.Rpc Sativa.Cbor Sativa.RpcServer Sativa.Store

/-- The reply that carries the value fits in a packet. -/
def ReplyFits (cbor : Libcbor) (key : CString) (value : PropertyValue) : Prop :=
  headerSize + (cbor.serialize (.map (replyPairs key.bytes value .none))).length < 2 ^ 16

/-- As long as no other update of the key is accepted, the getter ends with `r`, on any connection
that is idle. -/
def ReadsBack {β : Type} (cbor : Libcbor) (key : CString) (s : Server)
    (get : Socket Link → Endpoint Link → Result β × Endpoint Link) (r : Result β) : Prop :=
  ∀ (c : Endpoint Link) (env : CallbackEnv), Quiet cbor key.bytes s c.sock.server →
    c.sock.Idle → env.writeOk = true → c.sock.server.store.seq < 2 ^ 32 →
    (get (linkSocket cbor env) c).1 = r

/-- The same for a server that has handed out more ids, as long as none of a key that clashes with
it is accepted either. -/
def ReadsSpared {β : Type} (cbor : Libcbor) (key : CString) (s : Server)
    (get : Socket Link → Endpoint Link → Result β × Endpoint Link) (r : Result β) : Prop :=
  ∀ (c : Endpoint Link) (env : CallbackEnv), Spared cbor key.bytes s c.sock.server →
    c.sock.Idle → env.writeOk = true → (get (linkSocket cbor env) c).1 = r

section RoundTrip

variable {β : Type} {cbor : Libcbor} {env env₂ : CallbackEnv} {c c' c₂ : Endpoint Link}
  {key : CString} {item : Item} {value : PropertyValue} {handler : Handler β}

lemma getKey_of_spared {sql : SqlEnv} {db : Db} {s s' : Server}
    (hr : Store.machine.Reachable db)
    (hset : (setKey sql key.bytes value).run db = (.ok (), s.store))
    (hid : db.rowId key.bytes < 2 ^ 32) (hs : Spared cbor key.bytes s s') :
    getKey s'.store key.bytes = .ok (sql.kept value).fetch := by
  rw [← key.cstr_bytes] at hid
  have hreads := setKey_reads hr hset hid
  rw [key.cstr_bytes] at hreads
  have hlater := hs.sameKey.reads hreads
  rw [← key.cstr_bytes] at hlater
  exact getKey_of_reads hlater

lemma rowId_lt {sql : SqlEnv} {db db' : Db}
    (hset : (setKey sql key.bytes value).run db = (.ok (), db')) (hseq : db'.seq < 2 ^ 32) :
    db.rowId key.bytes < 2 ^ 32 := by
  unfold Db.rowId
  rcases hr : db.keyRow key.bytes with _ | r
  · rw [← key.cstr_bytes] at hr
    rcases setKey_inv hset with ⟨-, hinsert⟩ | ⟨r, hr', -⟩
    · exact (insertKey_ok hinsert).1 ▸ hseq
    · cases hr.symm.trans hr'
  · exact (Db.id_le_seq hr).trans_lt ((seq_le_of_setKey hset).trans_lt hseq)

/-- **Round trip**: after a setter returned `0`, the handler of a getter gets the item of the
value that was stored. -/
lemma readsSpared_of_item {out : Option β} (hr : Store.machine.Reachable c.sock.server.store)
    (hidle : c.sock.Idle) (hw : env.writeOk = true) (hitem : item.Scalar)
    (hnan : item.isNaN = false)
    (hset : doUpdate cbor (linkSocket cbor env) key item c = (.status 0, c'))
    (hid : c.sock.server.store.rowId key.bytes < 2 ^ 32)
    (hvalue : updateValue env.heap 1 item = .ok value) (hkept : env.sql.kept value = value)
    {stored : Item} (hstored : valueItem .none value.fetch = some stored)
    (hplain : stored.isNaN = false ∧ stored.isNull = false)
    (hread : item.Readable → stored.Readable) (hfit : ReplyFits cbor key value.fetch)
    (hhandler : handler stored = (.ok (), out)) :
    ReadsSpared cbor key c'.sock.server (fun sock => doQuery cbor sock key handler)
      ⟨.status 0, out⟩ := by
  obtain ⟨hne, hrequest, ⟨h8, hitem8⟩, item', value', hsame, hvalue', hsql, -⟩ :=
    doUpdate_ok hidle hw hitem hset
  obtain rfl : item = item' := hsame.eq hnan
  obtain rfl : value = value' := Except.ok.inj (hvalue.symm.trans hvalue')
  -- until then the key was not set again, and no other took its row
  intro c₂ env₂ hs hidle₂ hw₂
  have hget := getKey_of_spared hr hsql hid hs
  rw [hkept] at hget
  have hle := @length_keyRequest_le cbor key item hitem
  have hquery := @doQuery_fits β cbor env₂ c₂ key value.fetch handler hidle₂ hw₂ hne h8 (by omega)
    hget hfit
  obtain ⟨stored', root, hsame', hload, hextract⟩ :=
    @load_reply_value cbor key _ _ h8 hstored (valueItem_of_getKey hget hstored).1 (hread hitem8)
  obtain rfl : stored = stored' := hsame'.eq hplain.1
  rw [hplain.2] at hextract
  exact hquery.trans (handleReply_ok hload hextract hhandler)

lemma readsBack_of_spared {get : Socket Link → Endpoint Link → Result β × Endpoint Link}
    {r : Result β} (hidle : c.sock.Idle) (hw : env.writeOk = true) (hitem : item.Scalar)
    (hset : doUpdate cbor (linkSocket cbor env) key item c = (.status 0, c'))
    (h : c.sock.server.store.rowId key.bytes < 2 ^ 32 →
      ReadsSpared cbor key c'.sock.server get r) : ReadsBack cbor key c'.sock.server get r := by
  obtain ⟨-, -, -, item', value, -, -, hsql, -⟩ := doUpdate_ok hidle hw hitem hset
  intro c₂ env₂ hq hidle₂ hw₂ hseq
  have hid := rowId_lt hsql (hq.seq_le.trans_lt hseq)
  exact h hid c₂ env₂ (hq.spared hseq) hidle₂ hw₂

/-- **Integers and blobs** come back exactly, from any reachable store and through any faults,
whatever else is set in between. -/
theorem int_blob_reads_back (hr : Store.machine.Reachable c.sock.server.store) (hidle : c.sock.Idle)
    (hw : env.writeOk = true) :
    (∀ n, confdSetInt cbor (linkSocket cbor env) key n c = (.status 0, c') →
      ReplyFits cbor key (.uint64 n.toUInt64) →
      ReadsBack cbor key c'.sock.server (fun sock => confdGetInt cbor sock key)
        ⟨.status 0, some n⟩) ∧
    ∀ blob outBlobLen, confdSetBlob cbor (linkSocket cbor env) key blob c = (.status 0, c') →
      ReplyFits cbor key (.blob blob.bytes) → 0 < outBlobLen → blob.bytes.length ≤ outBlobLen →
      ReadsBack cbor key c'.sock.server (fun sock => confdGetBlob cbor sock key outBlobLen)
        ⟨.status 0, some ⟨blob.bytes.length, blob.bytes⟩⟩ := by
  refine ⟨fun n hset hfit => ?_, fun blob outBlobLen hset hfit hpos hlen => ?_⟩
  · have hitem : (Item.uint .int64 n.toUInt64).Scalar := trivial
    have hvalue : updateValue env.heap 1 (.uint .int64 n.toUInt64) = .ok (.uint64 n.toUInt64) := rfl
    refine readsBack_of_spared hidle hw hitem hset fun hid => readsSpared_of_item hr hidle hw hitem
      rfl hset hid hvalue rfl rfl ⟨rfl, rfl⟩ id hfit ?_
    simp [intHandler]
  · have hget : (fun sock => confdGetBlob cbor sock key outBlobLen) =
        fun sock : Socket Link => doQuery cbor sock key (blobHandler outBlobLen) := by
      funext sock c
      exact if_neg (by omega)
    rw [hget]
    have hitem : (Item.bytestring blob.bytes).Scalar := blob.sized
    have hvalue : updateValue env.heap 1 (.bytestring blob.bytes) = .ok (.blob blob.bytes) := rfl
    refine readsBack_of_spared hidle hw hitem hset fun hid => readsSpared_of_item hr hidle hw hitem
      rfl hset hid hvalue rfl rfl ⟨rfl, rfl⟩ id hfit ?_
    simp [blobHandler, List.take_of_length_le hlen]

/-- A connection that was just opened, to a server with an empty store. -/
def sampleConn : Endpoint Link :=
  ⟨.open, ⟨((RpcServer.machine codec .initSchema).exec [.accept 1]).2, 1, []⟩⟩

def sampleKey : CString := ⟨ascii "a", by decide, by decide⟩

/-- The connection after a call that set the key. -/
abbrev sampleInt : Exit × Endpoint Link :=
  confdSetInt codec (linkSocket codec (.ok 0)) sampleKey (-5) sampleConn

abbrev sampleBlob : Exit × Endpoint Link :=
  confdSetBlob codec (linkSocket codec (.ok 0)) sampleKey ⟨[0, 7], by decide⟩ sampleConn

theorem int_blob_reads_back_sample :
    (confdGetInt codec (linkSocket codec (.ok 0)) sampleKey sampleInt.2).1 =
        ⟨.status 0, some (-5)⟩ ∧
    (confdGetBlob codec (linkSocket codec (.ok 0)) sampleKey 4 sampleBlob.2).1 =
        ⟨.status 0, some ⟨2, [0, 7]⟩⟩ := by
  have hidle : sampleConn.sock.Idle := ⟨by decide, rfl⟩
  have hint : sampleInt = (.status 0, sampleInt.2) := Prod.ext (by decide) rfl
  have hblob : sampleBlob = (.status 0, sampleBlob.2) := Prod.ext (by decide) rfl
  have hintFits : ReplyFits codec sampleKey (.uint64 (-5 : Int64).toUInt64) := by
    unfold ReplyFits
    decide
  have hblobFits : ReplyFits codec sampleKey (.blob [0, 7]) := by
    unfold ReplyFits
    decide
  exact ⟨(int_blob_reads_back .init hidle rfl).1 _ hint hintFits sampleInt.2 (.ok 0) .refl
      ⟨by decide, by decide⟩ rfl (by decide),
    (int_blob_reads_back .init hidle rfl).2 _ 4 hblob hblobFits (by decide) (by decide)
      sampleBlob.2 (.ok 0) .refl ⟨by decide, by decide⟩ rfl (by decide)⟩

/-! ### Texts -/

lemma handleReply_string {v : Bytes} {outStrLen : ℕ} {db : Db} (h8 : Utf8.Valid key.bytes)
    (hv : Utf8.Valid v) (hget : getKey db key.bytes = .ok (.string v)) (h0 : 0 ∉ v) :
    handleReply cbor (stringHandler outStrLen)
      (cbor.serialize (.map (replyPairs key.bytes (.string v) .none))) =
        ⟨.status 0, some ⟨v.length, v.take (outStrLen - 1) ++ [0]⟩⟩ := by
  have hstored : valueItem .none (.string v) = some (.string v) := by
    simp [valueItem, cstr_of_not_mem h0]
  obtain ⟨item', root, hsame, hload, hextract⟩ :=
    @load_reply_value cbor key _ _ h8 hstored (valueItem_of_getKey hget hstored).1 hv
  obtain rfl : Item.string v = item' := hsame.eq rfl
  exact handleReply_ok hload hextract rfl

/-- What a getter of texts delivers after a setter that returned `0` is the text that is stored:
the text up to its first NUL, looked for past its end. -/
lemma string_of_readsSpared {str : Region} {outStrLen : ℕ} {out : OutBytes}
    (hr : Store.machine.Reachable c.sock.server.store) (hidle : c.sock.Idle)
    (hw : env.writeOk = true)
    (hid : c.sock.server.store.rowId key.bytes < 2 ^ 32)
    (hset : confdSetString cbor (linkSocket cbor env) key str c = (.status 0, c'))
    (h : ReadsSpared cbor key c'.sock.server
      (fun sock => doQuery cbor sock key (stringHandler outStrLen)) ⟨.status 0, some out⟩) :
    out = ⟨(cstr (str.bytes ++ env.heap 1)).length,
      (cstr (str.bytes ++ env.heap 1)).take (outStrLen - 1) ++ [0]⟩ := by
  have hitem : (Item.string str.bytes).Scalar := str.sized
  obtain ⟨-, -, ⟨h8, -⟩, item', value, hsame, hvalue, hsql, hidle', -⟩ :=
    doUpdate_ok hidle hw hitem hset
  obtain rfl : Item.string str.bytes = item' := hsame.eq rfl
  cases hvalue
  -- it is enough to look at the getter that follows at once
  have hback := h c' (.ok 0) .refl hidle' rfl
  have hstored : getKey c'.sock.server.store key.bytes =
      .ok (.string (cstr (str.bytes ++ env.heap 1))) :=
    getKey_of_spared hr hsql hid (.refl : Spared cbor _ _ _)
  have hok : (CallbackEnv.ok 0).writeOk = true := rfl
  rcases doQuery_after (stringHandler outStrLen) hidle hw hitem hset rfl hidle' hok with
    ⟨code, hcode, hx⟩ | ⟨stored, hfound, -, hx⟩
  · have hout := congrArg Result.out (hx.symm.trans hback)
    cases hout
  · cases hstored.symm.trans hfound
    set v := cstr (str.bytes ++ env.heap 1) with hv
    have hstored' : valueItem .none (.string v) = some (.string v) := by
      simp [valueItem, hv, cstr_of_not_mem (zero_not_mem_cstr _)]
    have hscalar : (Item.string v).Scalar := (valueItem_of_getKey hstored hstored').1
    -- a text that is no UTF-8 is not decoded, but the getter has returned `0`
    have hv8 : Utf8.Valid v := by
      by_contra hn
      cases congrArg Result.out
        ((handleReply_unreadable hstored' hscalar hn).symm.trans (hx.symm.trans hback))
    have hhandled := @handleReply_string cbor key _ outStrLen _ h8 hv8 hstored (zero_not_mem_cstr _)
    have hresult := (hx.symm.trans hback).symm.trans hhandled
    exact Option.some.inj (congrArg Result.out hresult)

/-- **Texts** come back exactly if they have no NUL and the memory behind the decoded text starts
with one. -/
theorem string_reads_back_iff {str : Region} {outStrLen : ℕ}
    (hr : Store.machine.Reachable c.sock.server.store) (hidle : c.sock.Idle)
    (hw : env.writeOk = true) (hid : c.sock.server.store.rowId key.bytes < 2 ^ 32)
    (hset : confdSetString cbor (linkSocket cbor env) key str c = (.status 0, c'))
    (hfit : ReplyFits cbor key (.string str.bytes)) (hlen : str.bytes.length < outStrLen) :
    ReadsSpared cbor key c'.sock.server (fun sock => confdGetString cbor sock key outStrLen)
        ⟨.status 0, some ⟨str.bytes.length, str.bytes ++ [0]⟩⟩ ↔
      0 ∉ str.bytes ∧ cstr (env.heap 1) = [] := by
  have hget : (fun sock => confdGetString cbor sock key outStrLen) =
      fun sock : Socket Link => doQuery cbor sock key (stringHandler outStrLen) := by
    funext sock c
    exact if_neg (by omega)
  have hitem : (Item.string str.bytes).Scalar := str.sized
  rw [hget]
  constructor
  · intro h
    set v := cstr (str.bytes ++ env.heap 1) with hv
    have heq : v = str.bytes := by
      have hout := string_of_readsSpared hr hidle hw hid hset h
      obtain ⟨hlength, hbytes⟩ := OutBytes.mk.inj hout
      rw [List.take_of_length_le (by omega)] at hbytes
      exact (List.append_cancel_right hbytes).symm
    have h0 : 0 ∉ str.bytes := heq ▸ zero_not_mem_cstr _
    refine ⟨h0, ?_⟩
    rw [hv, cstr_append_of_not_mem h0] at heq
    exact List.append_right_eq_self.mp heq
  · rintro ⟨h0, hheap⟩
    have hvalue : updateValue env.heap 1 (.string str.bytes) = .ok (.string str.bytes) := by
      simp [updateValue, cstr_append_of_not_mem h0, hheap]
    have hstored : valueItem .none (.string str.bytes) = some (.string str.bytes) := by
      simp [valueItem, cstr_of_not_mem h0]
    have hroom : str.bytes.length ≤ outStrLen - 1 := by omega
    refine readsSpared_of_item hr hidle hw hitem rfl hset hid hvalue rfl hstored ⟨rfl, rfl⟩ id
      hfit ?_
    simp [stringHandler, Item.text?, List.take_of_length_le hroom]

abbrev sampleString (str : Region) : Exit × Endpoint Link :=
  confdSetString codec (linkSocket codec (.ok 0)) sampleKey str sampleConn

theorem string_reads_back_iff_sample :
    (confdGetString codec (linkSocket codec (.ok 0)) sampleKey 16
      (sampleString ⟨ascii "::1", by decide⟩).2).1 =
        ⟨.status 0, some ⟨3, ascii "::1" ++ [0]⟩⟩ := by
  have hidle : sampleConn.sock.Idle := ⟨by decide, rfl⟩
  have hset : sampleString ⟨ascii "::1", by decide⟩ =
    (.status 0, (sampleString ⟨ascii "::1", by decide⟩).2) := Prod.ext (by decide) rfl
  have hfit : ReplyFits codec sampleKey (.string (ascii "::1")) := by
    unfold ReplyFits
    decide
  exact (string_reads_back_iff .init hidle rfl (by decide) hset hfit (by decide)).mpr
    ⟨by decide, rfl⟩ _ (.ok 0) .refl ⟨by decide, by decide⟩ rfl

abbrev nulText : Region := ⟨ascii "a" ++ [0] ++ ascii "b", by decide⟩

/-- The text `a\0b` comes back as `a`. -/
theorem string_cut : ¬ ∀ (key : CString) (str : Region) (outStrLen : ℕ) (env : CallbackEnv)
    (c c' : Endpoint Link), Store.machine.Reachable c.sock.server.store → c.sock.Idle →
    env.writeOk = true → confdSetString codec (linkSocket codec env) key str c = (.status 0, c') →
    ReplyFits codec key (.string str.bytes) → str.bytes.length < outStrLen →
    ReadsBack codec key c'.sock.server (fun sock => confdGetString codec sock key outStrLen)
      ⟨.status 0, some ⟨str.bytes.length, str.bytes ++ [0]⟩⟩ := by
  intro h
  have hfit : ReplyFits codec sampleKey (.string nulText.bytes) := by
    unfold ReplyFits
    decide
  have hback := h sampleKey nulText 16 (.ok 0) sampleConn (sampleString nulText).2 .init
    ⟨by decide, rfl⟩ rfl (Prod.ext (by decide) rfl) hfit (by decide)
    (sampleString nulText).2 (.ok 0) .refl ⟨by decide, by decide⟩ rfl (by decide)
  exact absurd (congrArg Result.out hback) (by decide)

end RoundTrip

end Sativa.Confd
