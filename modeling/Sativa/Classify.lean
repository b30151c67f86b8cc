import Sativa.RoundTrip
import Sativa.StoreTypes

/-!
What the status codes of the getters say about the store.

Each getter takes values of one type. A status tells whether the key is there, whether it is null,
and whether it has the type of the getter; only the arguments are looked at before.
-/

namespace Sativa.Confd

open Sativa Sativa.Rpc Sativa.Cbor Sativa.RpcServer Sativa.Store

/-- The result of a getter for the type, as what the store has for the key determines it. -/
structure Classifies {β : Type} (db : Db) (key : Bytes) (type : PropertyValueType) (r : Result β) :
    Prop where
  success : r.exit = .status 0 ↔ db.HasType key type
  notFound : r.exit = .status Status.notFound.code ↔ db.keyRow key = none
  nullValue : r.exit = .status Status.nullValue.code ↔ db.HasType key .null
  typeMismatch : r.exit = .status Status.typeMismatch.code ↔
    ¬ db.HasType key type ∧ db.keyRow key ≠ none ∧ ¬ db.HasType key .null
  written : r.out ≠ none → r.exit = .status 0

/-- The handler takes what is sent for values of the type, and writes nothing for others. -/
def Handler.Selects {β : Type} (handler : Handler β) (type : PropertyValueType) : Prop :=
  ∀ (value : PropertyValue) (item item' : Item), typeForValue value ≠ .null →
    valueItem .none value.fetch = some item → Item.Same item item' →
      if typeForValue value = type then ∃ out, handler item' = (.ok (), out)
      else handler item' = (typeMismatch, none)

/-- What is sent of the text, which is read as a C string, is UTF-8. -/
def ReadableText (s : Bytes) : Prop := Utf8.Valid (cstr s)

/-- What the handler makes of an item that is sent for a value of type `t`. -/
def Handler.Sorts {β : Type} (handler : Handler β) (type t : PropertyValueType) (item : Item) :
    Prop :=
  if t = type then ∃ out, handler item = (.ok (), out) else handler item = (typeMismatch, none)

section Classify

variable {β : Type} {cbor : Libcbor} {env : CallbackEnv} {c : Endpoint Link} {key : CString}
  {item item' : Item} {value : PropertyValue} {handler : Handler β} {type : PropertyValueType}

lemma sent_item (hv : typeForValue value ≠ .null) (hi : valueItem .none value.fetch = some item)
    (hsame : Item.Same item item') :
    typeForValue value = .string ∧ (∃ b, item' = .string b) ∨
    typeForValue value = .blob ∧ (∃ b, item' = .bytestring b) ∨
    typeForValue value = .integer ∧ (∃ n, item' = .uint .int64 n) ∨
    typeForValue value = .real ∧ ∃ d, item' = .float8 d := by
  cases value with
  | monostate => exact absurd rfl hv
  | null => exact absurd rfl hv
  | string s =>
    cases hi
    exact .inl ⟨rfl, _, (hsame.eq rfl).symm⟩
  | blob b =>
    cases hi
    exact .inr (.inl ⟨rfl, _, (hsame.eq rfl).symm⟩)
  | uint64 n =>
    cases hi
    exact .inr (.inr (.inl ⟨rfl, _, (hsame.eq rfl).symm⟩))
  | bool b =>
    cases hi
    exact .inr (.inr (.inl ⟨rfl, _, (hsame.eq rfl).symm⟩))
  | double d =>
    cases hi
    refine .inr (.inr (.inr ⟨rfl, ?_⟩))
    -- only a NaN may be another one
    cases hsame with
    | refl => exact ⟨_, rfl⟩
    | nan8 => exact ⟨_, rfl⟩

lemma readable_of_text (h : valueItem .none value = some item)
    (hread : ∀ s, value = .string s → ReadableText s) : item.Readable := by
  cases value with
  | monostate => cases h
  | string s =>
    cases h
    exact hread s rfl
  | bool b =>
    cases h
    cases b <;> trivial
  | _ =>
    cases h
    trivial

lemma selects_of_sorts (hstring : ∀ b, handler.Sorts type .string (.string b))
    (hblob : ∀ b, handler.Sorts type .blob (.bytestring b))
    (hint : ∀ n, handler.Sorts type .integer (.uint .int64 n))
    (hreal : ∀ d, handler.Sorts type .real (.float8 d)) : handler.Selects type := by
  intro value item item' hv hi hsame
  rcases sent_item hv hi hsame with ⟨ht, b, rfl⟩ | ⟨ht, b, rfl⟩ | ⟨ht, n, rfl⟩ | ⟨ht, d, rfl⟩
  · rw [ht]
    exact hstring b
  · rw [ht]
    exact hblob b
  · rw [ht]
    exact hint n
  · rw [ht]
    exact hreal d

lemma selects_stringHandler (n : ℕ) : (stringHandler n).Selects .string :=
  selects_of_sorts (fun _ => ⟨_, rfl⟩) (fun _ => rfl) (fun _ => rfl) fun _ => rfl

lemma selects_blobHandler (n : ℕ) : (blobHandler n).Selects .blob :=
  selects_of_sorts (fun _ => rfl) (fun _ => ⟨_, rfl⟩) (fun _ => rfl) fun _ => rfl

lemma selects_intHandler : intHandler.Selects .integer :=
  selects_of_sorts (fun _ => rfl) (fun _ => rfl) (fun _ => ⟨_, rfl⟩) fun _ => rfl

lemma selects_realHandler : realHandler.Selects .real :=
  selects_of_sorts (fun _ => rfl) (fun _ => rfl) (fun _ => rfl) fun _ => ⟨_, rfl⟩

lemma classifies_absent {db : Db} {name : Bytes} (hnone : db.keyRow name = none) :
    Classifies db name type (⟨.status Status.notFound.code, none⟩ : Result β) := by
  have hno : ∀ t, ¬ db.HasType name t := by
    rintro t ⟨r, hr, -⟩
    cases hnone.symm.trans hr
  exact ⟨iff_of_false (by simp [Status.code]) (hno _), iff_of_true rfl hnone,
    iff_of_false (by simp [Status.code]) (hno _),
    iff_of_false (by simp [Status.code]) fun h => h.2.1 hnone, fun h => absurd rfl h⟩

lemma classifies_null {db : Db} {name : Bytes} (htype : type ≠ .null)
    (hnull : db.HasType name .null) :
    Classifies db name type (⟨.status Status.nullValue.code, none⟩ : Result β) := by
  have hsome : db.keyRow name ≠ none := by
    obtain ⟨r, hr, -⟩ := hnull
    simp [hr]
  exact ⟨iff_of_false (by simp [Status.code]) fun h => htype (h.unique hnull),
    iff_of_false (by simp [Status.code]) hsome, iff_of_true rfl hnull,
    iff_of_false (by simp [Status.code]) fun h => h.2.2 hnull, fun h => absurd rfl h⟩

lemma classifies_own {db : Db} {name : Bytes} {out : Option β} (htype : type ≠ .null)
    (hown : db.HasType name type) : Classifies db name type ⟨.status 0, out⟩ := by
  have hsome : db.keyRow name ≠ none := by
    obtain ⟨r, hr, -⟩ := hown
    simp [hr]
  exact ⟨iff_of_true rfl hown, iff_of_false (by simp [Status.code]) hsome,
    iff_of_false (by simp [Status.code]) fun h => htype (hown.unique h),
    iff_of_false (by simp [Status.code]) fun h => h.1 hown, fun _ => rfl⟩

lemma classifies_other {db : Db} {name : Bytes} {type' : PropertyValueType}
    (hother : db.HasType name type') (hne : type' ≠ type) (hnull : type' ≠ .null) :
    Classifies db name type (⟨.status Status.typeMismatch.code, none⟩ : Result β) := by
  have hsome : db.keyRow name ≠ none := by
    obtain ⟨r, hr, -⟩ := hother
    simp [hr]
  have hown : ¬ db.HasType name type := fun h => hne (hother.unique h)
  have hno : ¬ db.HasType name .null := fun h => hnull (hother.unique h)
  exact ⟨iff_of_false (by simp [Status.code]) hown, iff_of_false (by simp [Status.code]) hsome,
    iff_of_false (by simp [Status.code]) hno, iff_of_true rfl ⟨hown, hsome, hno⟩,
    fun h => absurd rfl h⟩

lemma classifies_queryReply {db : Db} {value : PropertyValue} (h8 : Utf8.Valid key.bytes)
    (hholds : db.Holds key.bytes value) (hread : ∀ s, value.fetch = .string s → ReadableText s)
    (hget : getKey db key.bytes = .ok value.fetch) (htype : type ≠ .null)
    (hsel : handler.Selects type) :
    Classifies db key.bytes type (handleReply cbor handler (queryReply cbor key value.fetch)) := by
  obtain ⟨item, hitem⟩ : ∃ item, valueItem .none value.fetch = some item := by
    cases value <;> exact ⟨_, rfl⟩
  obtain ⟨item', root, hsame, hload, hextract⟩ :=
    @load_reply_value cbor key _ _ h8 hitem (valueItem_of_getKey hget hitem).1
      (readable_of_text hitem hread)
  by_cases hnull : typeForValue value = .null
  · have hfetch : value.fetch = .null := by
      cases value <;> first | rfl | cases hnull
    rw [hfetch] at hitem
    cases hitem
    cases hsame.eq rfl
    rw [hfetch] at hload
    rw [hfetch, handleReply_error hload hextract]
    exact classifies_null htype (hnull ▸ hholds.hasType)
  -- no null: the type of the item tells whether it is the getter's
  · have hselect := hsel value item item' hnull hitem hsame
    have hplain : item'.isNull = false := by
      rcases sent_item hnull hitem hsame with ⟨-, b, rfl⟩ | ⟨-, b, rfl⟩ | ⟨-, b, rfl⟩ |
        ⟨-, b, rfl⟩ <;> rfl
    rw [hplain] at hextract
    split_ifs at hselect with hown
    · obtain ⟨out, hout⟩ := hselect
      rw [handleReply_ok hload hextract hout]
      exact classifies_own htype (hown ▸ hholds.hasType)
    · rw [handleReply_throw hload hextract hselect]
      exact classifies_other hholds.hasType hown hnull

lemma classifies_doQuery (hr : Store.machine.Reachable c.sock.server.store)
    (hseq : c.sock.server.store.seq < 2 ^ 32) (hidle : c.sock.Idle) (hw : env.writeOk = true)
    (hkey : key.bytes ≠ []) (h8 : Utf8.Valid key.bytes)
    (hrequest : headerSize + (serializeKeyRequest cbor key).length < 2 ^ 16)
    (hreply : ∀ value, getKey c.sock.server.store key.bytes = .ok value → ReplyFits cbor key value)
    (hread : ∀ s, getKey c.sock.server.store key.bytes = .ok (.string s) → ReadableText s)
    (htype : type ≠ .null) (hsel : handler.Selects type) :
    Classifies c.sock.server.store key.bytes type
      (doQuery cbor (linkSocket cbor env) key handler c).1 := by
  set db := c.sock.server.store with hdb
  have hquery : ∀ value, getKey db key.bytes = .ok value →
      (doQuery cbor (linkSocket cbor env) key handler c).1 =
        handleReply cbor handler (queryReply cbor key value) := fun value hget =>
    doQuery_fits hidle hw hkey h8 hrequest hget (hreply value hget)
  rcases hrow : db.keyRow key.bytes with _ | r
  · have hget : getKey db key.bytes = .ok .monostate := getKey_of_none (key.cstr_bytes.symm ▸ hrow)
    rw [hquery _ hget, handleReply_absent h8]
    exact classifies_absent hrow
  · obtain ⟨value, hat⟩ := (reachable_coherent hr hseq).holds hrow
    have hholds : db.Holds key.bytes value := ⟨r, hrow, hat⟩
    have hget : getKey db key.bytes = .ok value.fetch :=
      getKey_of_holds hseq (key.cstr_bytes.symm ▸ hholds)
    rw [hquery _ hget]
    exact classifies_queryReply h8 hholds (fun s hs => hread s (hs ▸ hget)) hget htype hsel

/-- **Status codes**: with a key, and a text for it, that are UTF-8 and a buffer that is not empty,
each getter tells by its status what the store has for the key, and writes its results only when it
returns `0`. An empty buffer is refused before anything is asked. -/
theorem getters_classify (hr : Store.machine.Reachable c.sock.server.store)
    (hseq : c.sock.server.store.seq < 2 ^ 32) (hidle : c.sock.Idle) (hw : env.writeOk = true)
    (hkey : key.bytes ≠ []) (h8 : Utf8.Valid key.bytes)
    (hrequest : headerSize + (serializeKeyRequest cbor key).length < 2 ^ 16)
    (hreply : ∀ value, getKey c.sock.server.store key.bytes = .ok value → ReplyFits cbor key value)
    (hread : ∀ s, getKey c.sock.server.store key.bytes = .ok (.string s) → ReadableText s) :
    (∀ outStrLen, let r := (confdGetString cbor (linkSocket cbor env) key outStrLen c).1
      if outStrLen = 0 then r = ⟨.status Status.invalidArguments.code, none⟩
      else Classifies c.sock.server.store key.bytes .string r) ∧
    (∀ outBlobLen, let r := (confdGetBlob cbor (linkSocket cbor env) key outBlobLen c).1
      if outBlobLen = 0 then r = ⟨.status Status.invalidArguments.code, none⟩
      else Classifies c.sock.server.store key.bytes .blob r) ∧
    Classifies c.sock.server.store key.bytes .integer
      (confdGetInt cbor (linkSocket cbor env) key c).1 ∧
    Classifies c.sock.server.store key.bytes .real
      (confdGetReal cbor (linkSocket cbor env) key c).1 := by
  refine ⟨fun outStrLen => ?_, fun outBlobLen => ?_, ?_, ?_⟩
  · dsimp only
    unfold confdGetString
    split_ifs
    · rfl
    · exact classifies_doQuery hr hseq hidle hw hkey h8 hrequest hreply hread (by decide)
        (selects_stringHandler _)
  · dsimp only
    unfold confdGetBlob
    split_ifs
    · rfl
    · exact classifies_doQuery hr hseq hidle hw hkey h8 hrequest hreply hread (by decide)
        (selects_blobHandler _)
  · exact classifies_doQuery hr hseq hidle hw hkey h8 hrequest hreply hread (by decide)
      selects_intHandler
  · exact classifies_doQuery hr hseq hidle hw hkey h8 hrequest hreply hread (by decide)
      selects_realHandler

/-- After the key was set to an integer. -/
theorem getters_classify_sample :
    Classifies sampleInt.2.sock.server.store (ascii "a") .string
      (confdGetString codec (linkSocket codec (.ok 0)) sampleKey 16 sampleInt.2).1 ∧
    Classifies sampleInt.2.sock.server.store (ascii "a") .integer
      (confdGetInt codec (linkSocket codec (.ok 0)) sampleKey sampleInt.2).1 := by
  have hget : getKey sampleInt.2.sock.server.store sampleKey.bytes =
      .ok (.uint64 (-5 : Int64).toUInt64) := rfl
  have hfits : ReplyFits codec sampleKey (.uint64 (-5 : Int64).toUInt64) := by
    unfold ReplyFits
    decide
  have hreach : Store.machine.Reachable sampleInt.2.sock.server.store :=
    Machine.Reachable.init.step (SqlEnv.ok 0,
      Call.setKey (ascii "a") (.uint64 (-5 : Int64).toUInt64))
  have h := @getters_classify codec (.ok 0) sampleInt.2 sampleKey hreach (by decide)
    ⟨by decide, by decide⟩ rfl (by decide) (by decide) (by decide)
    (fun value hvalue => by cases hget.symm.trans hvalue; exact hfits)
    fun s hs => by cases hget.symm.trans hs
  exact ⟨h.1 16, h.2.2.1⟩

/-- The getter of texts classifies what is stored, whatever the key and the buffer are. -/
def AlwaysClassifies (cbor : Libcbor) (key : CString) (outStrLen : ℕ) : Prop :=
  ∀ (env : CallbackEnv) (c : Endpoint Link), Store.machine.Reachable c.sock.server.store →
    c.sock.server.store.seq < 2 ^ 32 → c.sock.Idle → env.writeOk = true → key.bytes ≠ [] →
    headerSize + (serializeKeyRequest cbor key).length < 2 ^ 16 →
    (∀ value, getKey c.sock.server.store key.bytes = .ok value → ReplyFits cbor key value) →
    Classifies c.sock.server.store key.bytes .string
      (confdGetString cbor (linkSocket cbor env) key outStrLen c).1

/-- A key of one byte that is no UTF-8. -/
def badKey : CString := ⟨[0xff], by decide, by decide⟩

/-- A connection to a server whose store has a text that is no UTF-8. -/
def badTextConn : Endpoint Link :=
  ⟨.open, ⟨((RpcServer.machine codec (Store.machine.exec
    [(.ok 1, .setKey (ascii "a") (.string [0xff]))]).2).exec [.accept 1]).2, 1, []⟩⟩

/-- An empty buffer, a key that is no UTF-8 and a text that is none: the status does not say that
the keys are not there, and that the text is. -/
theorem unclassified : ¬ AlwaysClassifies codec sampleKey 0 ∧ ¬ AlwaysClassifies codec badKey 16 ∧
    ¬ AlwaysClassifies codec sampleKey 16 := by
  have hfits : ∀ {key : CString} {value : PropertyValue} {db : Db},
      getKey db key.bytes = .ok value → ReplyFits codec key value →
        ∀ v, getKey db key.bytes = .ok v → ReplyFits codec key v := by
    intro key value db hget hfit v hv
    cases hget.symm.trans hv
    exact hfit
  refine ⟨fun h => ?_, fun h => ?_, fun h => ?_⟩
  · have hget : getKey sampleConn.sock.server.store sampleKey.bytes = .ok .monostate := rfl
    have hfit : ReplyFits codec sampleKey .monostate := by
      unfold ReplyFits
      decide
    have hclass := h (.ok 0) sampleConn .init (by decide) ⟨by decide, rfl⟩ rfl (by decide)
      (by decide) (hfits hget hfit)
    have hstatus := hclass.notFound.mpr rfl
    revert hstatus
    decide
  · have hget : getKey sampleConn.sock.server.store badKey.bytes = .ok .monostate := rfl
    have hfit : ReplyFits codec badKey .monostate := by
      unfold ReplyFits
      decide
    have hclass := h (.ok 0) sampleConn .init (by decide) ⟨by decide, rfl⟩ rfl (by decide)
      (by decide) (hfits hget hfit)
    have hstatus := hclass.notFound.mpr rfl
    revert hstatus
    decide
  · have hget : getKey badTextConn.sock.server.store sampleKey.bytes = .ok (.string [0xff]) := rfl
    have hfit : ReplyFits codec sampleKey (.string [0xff]) := by
      unfold ReplyFits
      decide
    have hclass := h (.ok 0) badTextConn (.step .init (SqlEnv.ok 1, Call.setKey (ascii "a")
      (.string [0xff]))) (by decide) ⟨by decide, rfl⟩ rfl (by decide) (by decide) (hfits hget hfit)
    have hstatus := hclass.success.mpr ⟨_, rfl, rfl⟩
    revert hstatus
    decide

end Classify

end Sativa.Confd
