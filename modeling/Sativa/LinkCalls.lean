import Sativa.KeyNames
import Sativa.Link

/-!
A getter and a setter against the server.

A setter that returns `0` has been served, and its reply has been read whole. A getter ends
with what its handler makes of the reply, or with one of a few errors if there is no reply or
the reply is too long for a packet.
-/

namespace Sativa.Confd

open Sativa Sativa.Rpc Sativa.Cbor Sativa.RpcServer Sativa.Store

/-- The payload of the reply to a query. -/
abbrev queryReply (cbor : Libcbor) (key : CString) (value : PropertyValue) : Bytes :=
  cbor.serialize (.map (replyPairs key.bytes value .none))

/-- The payload of the reply to an update. -/
abbrev updateReply (cbor : Libcbor) (key : CString) (value : PropertyValue) : Bytes :=
  cbor.serialize (.map (replyPairs key.bytes value ⟨false, true, true⟩))

/-! ### What goes over the wire -/

section Simple

variable {key : CString} {item : Item} {value : PropertyValue} {l : List (Item × Item)}

/-- The entry of a request or a reply for the key. -/
abbrev keyEntry (key : CString) : Item × Item := (.string (ascii "key"), .string key.bytes)

lemma replyPairs_value (h : valueItem .none value = some item) :
    replyPairs key.bytes value .none =
      [keyEntry key, (.string (ascii "value"), item), (.string (ascii "found"), ctrlTrue)] := by
  have hpairs : replyPairs key.bytes value .none = _ := replyPairs_query h
  rwa [key.cstr_bytes] at hpairs

lemma replyPairs_absent : replyPairs key.bytes .monostate .none =
    [keyEntry key, (.string (ascii "found"), ctrlFalse)] := by
  have hpairs : replyPairs key.bytes .monostate .none = _ := replyPairs_query_absent
  rwa [key.cstr_bytes] at hpairs

lemma replyPairs_update (h : value ≠ .monostate) : replyPairs key.bytes value ⟨false, true, true⟩ =
    [keyEntry key, (.string (ascii "updated"), ctrlTrue)] := by
  rw [replyPairs_updated h, key.cstr_bytes]

lemma scalar_buildBool (b : Bool) : (buildBool b).Scalar := by
  cases b
  · exact .inl rfl
  · exact .inr (.inl rfl)

lemma simple_keyEntry (hl : Simple l) (hcount : l.length + 1 < 2 ^ 64) :
    Simple (keyEntry key :: l) :=
  hl.cons (by decide) key.sized hcount

lemma simple_flag {name : Bytes} (hname : name.length < 2 ^ 64) (b : Bool) :
    Simple [(.string name, buildBool b)] :=
  Simple.nil.cons hname (scalar_buildBool b) (by simp)

lemma simple_queryPairs : Simple (queryPairs key.bytes) := simple_keyEntry .nil (by simp)

lemma simple_updatePairs (h : item.Scalar) : Simple (updatePairs key.bytes item) :=
  simple_keyEntry (Simple.nil.cons (by decide) h (by simp)) (by simp)

lemma simple_reply_value (h : valueItem .none value = some item) (hs : item.Scalar) :
    Simple (replyPairs key.bytes value .none) := by
  have hfound : Simple [(.string (ascii "found"), ctrlTrue)] := simple_flag (by decide) true
  rw [replyPairs_value h]
  exact simple_keyEntry (hfound.cons (by decide) hs (by simp)) (by simp)

lemma simple_reply_absent : Simple (replyPairs key.bytes .monostate .none) := by
  have hfound : Simple [(.string (ascii "found"), ctrlFalse)] := simple_flag (by decide) false
  rw [replyPairs_absent]
  exact simple_keyEntry hfound (by simp)

lemma simple_reply_update (h : value ≠ .monostate) :
    Simple (replyPairs key.bytes value ⟨false, true, true⟩) := by
  have hupdated : Simple [(.string (ascii "updated"), ctrlTrue)] := simple_flag (by decide) true
  rw [replyPairs_update h]
  exact simple_keyEntry hupdated (by simp)

lemma readable_keyEntry :
    Readable (keyEntry key :: l) ↔ Utf8.Valid key.bytes ∧ Readable l := by
  have hname : Utf8.Valid (ascii "key") := by decide
  rw [Readable.cons_iff]
  exact and_congr_left fun _ => and_iff_right hname

lemma readable_nil : Readable [] := fun _ h => by cases h

lemma readable_queryPairs : Readable (queryPairs key.bytes) ↔ Utf8.Valid key.bytes :=
  readable_keyEntry.trans (and_iff_left readable_nil)

lemma readable_updatePairs :
    Readable (updatePairs key.bytes item) ↔ Utf8.Valid key.bytes ∧ item.Readable := by
  have hname : Utf8.Valid (ascii "value") := by decide
  refine readable_keyEntry.trans (and_congr_right fun _ => ?_)
  rw [Readable.cons_iff]
  exact ⟨fun h => h.1.2, fun h => ⟨⟨hname, h⟩, readable_nil⟩⟩

lemma readable_reply_value (h : valueItem .none value = some item) :
    Readable (replyPairs key.bytes value .none) ↔ Utf8.Valid key.bytes ∧ item.Readable := by
  have hname : Utf8.Valid (ascii "value") := by decide
  have hfound : Readable [(.string (ascii "found"), ctrlTrue)] := by decide
  rw [replyPairs_value h, readable_keyEntry, Readable.cons_iff]
  exact and_congr_right fun _ => ⟨fun h => h.1.2, fun h => ⟨⟨hname, h⟩, hfound⟩⟩

lemma readable_reply_absent (h8 : Utf8.Valid key.bytes) :
    Readable (replyPairs key.bytes .monostate .none) := by
  rw [replyPairs_absent]
  exact readable_keyEntry.mpr ⟨h8, by decide⟩

lemma readable_reply_update (h8 : Utf8.Valid key.bytes) (h : value ≠ .monostate) :
    Readable (replyPairs key.bytes value ⟨false, true, true⟩) := by
  rw [replyPairs_update h]
  exact readable_keyEntry.mpr ⟨h8, by decide⟩

lemma samePairs_updatePairs {name : Bytes} (h : SamePairs (updatePairs name item) l) :
    ∃ item', Item.Same item item' ∧ l = updatePairs name item' := by
  rcases h with _ | ⟨⟨hkey, hname⟩, _ | ⟨⟨hvalue, hitem⟩, _ | _⟩⟩
  rename_i q q'
  obtain ⟨q₁, q₂⟩ := q
  obtain ⟨q₁', q₂'⟩ := q'
  cases hkey
  cases hvalue
  cases hname.eq rfl
  exact ⟨_, hitem, rfl⟩

end Simple

/-! ### What the server makes of a request -/

section Serve

variable {cbor : Libcbor} {env : CallbackEnv} {db store : Db} {ep tag : UInt8} {reply : Bytes}
  {key : CString} {item : Item} {value : PropertyValue} {l : List (Item × Item)}

lemma serialize_ne_nil (hl : Simple l) : cbor.serialize (.map l) ≠ [] := by
  have hlen : (cbor.serialize (.map l)).length = mapSize l := cbor.length_serialize hl
  apply List.ne_nil_of_length_pos
  rw [hlen]
  exact mapSize_pos l

/-- A request whose length does not fit in its header is cut, and not decoded. -/
lemma load_requestPacket {payload : Bytes} (hl : Simple l) (hp : payload = cbor.serialize (.map l))
    (h : cbor.load (payloadBytes env (requestPacket ep tag payload)
      ((RpcHeader.read (requestPacket ep tag payload)).length.toNat - headerSize)) = some item) :
    headerSize + payload.length < 2 ^ 16 ∧ cbor.load payload = some item := by
  have hpos : 0 < payload.length := List.length_pos_iff.mpr (hp ▸ serialize_ne_nil hl)
  set len := (headerSize + payload.length) % 2 ^ 16 with hlen
  have hlt : len < 2 ^ 16 := Nat.mod_lt _ (Nat.two_pow_pos 16)
  have hle : len ≤ headerSize + payload.length := Nat.mod_le _ _
  have hbytes : payloadBytes env (requestPacket ep tag payload) (len - headerSize) =
      payload.take (len - headerSize) := by
    unfold payloadBytes requestPacket
    rw [List.append_assoc, RpcHeader.drop_bytes_append, List.take_append_of_le_length (by omega)]
  rw [toNat_length_requestPacket, hbytes] at h
  by_cases hfit : headerSize + payload.length < 2 ^ 16
  · have hexact : len - headerSize = payload.length := by
      rw [hlen, Nat.mod_eq_of_lt hfit]
      omega
    rw [hexact, List.take_length] at h
    exact ⟨hfit, h⟩
  · have hcut : len - headerSize < (cbor.serialize (.map l)).length := by
      rw [← hp]
      omega
    rw [hp, cbor.load_take _ hl hcut] at h
    cases h

lemma decodeRequest_of_fits {payload : Bytes} {request : Request}
    (hfit : headerSize + payload.length < 2 ^ 16) (hload : cbor.load payload = some item)
    (hdecode : ep = kConfigQuery ∧ decodeQuery item = .ok request ∨
      ep = kConfigUpdate ∧ decodeUpdate env.heap item = .ok request) :
    decodeRequest cbor env (requestPacket ep tag payload) =
      .ok (requestHeader ep tag (headerSize + payload.length), request) := by
  set hdr := requestHeader ep tag (headerSize + payload.length) with hhdr
  have hread : RpcHeader.read (requestPacket ep tag payload) = hdr :=
    RpcHeader.read_bytes_append _ _
  have hframed := @framed_requestPacket ep tag payload hfit
  have hcheck := checkHeader_framed hframed []
  have hbytes := @payloadBytes_framed env _ hframed []
  rw [List.append_nil, hread] at hcheck hbytes
  rw [if_neg (by simp [hhdr, requestHeader])] at hcheck
  have hitem : loadItem cbor (payloadBytes env (requestPacket ep tag payload)
      (hdr.length.toNat - headerSize)) = .ok item := by
    rw [hbytes, requestPacket, RpcHeader.drop_bytes_append, loadItem, hload]
    rfl
  refine except_bind_ok.mpr ⟨hdr, hcheck, except_bind_ok.mpr ⟨item, hitem, ?_⟩⟩
  rcases hdecode with ⟨rfl, hdecode⟩ | ⟨rfl, hdecode⟩
  · rw [if_pos (by simp [hhdr, requestHeader])]
    exact except_bind_ok.mpr ⟨request, hdecode, rfl⟩
  · rw [if_neg (by simp [hhdr, requestHeader, kConfigQuery, kConfigUpdate]),
      if_pos (by simp [hhdr, requestHeader])]
    exact except_bind_ok.mpr ⟨request, hdecode, rfl⟩

lemma load_keyRequest (h8 : Utf8.Valid key.bytes) :
    cbor.load (serializeKeyRequest cbor key) = some (.map (queryPairs key.bytes)) := by
  apply cbor.load_serialize_exact simple_queryPairs (readable_queryPairs.mpr h8)
  simp [queryPairs, Item.isNaN]

lemma serve_query (hkey : key.bytes ≠ []) (h8 : Utf8.Valid key.bytes)
    (hfit : headerSize + (serializeKeyRequest cbor key).length < 2 ^ 16)
    (hget : getKey db key.bytes = .ok value) :
    serve cbor env db (requestPacket kConfigQuery tag (serializeKeyRequest cbor key)) =
      .ok (replyPacket (requestHeader kConfigQuery tag
        (headerSize + (serializeKeyRequest cbor key).length)) (queryReply cbor key value), db) := by
  unfold serve
  rw [decodeRequest_of_fits hfit (load_keyRequest h8) (.inl ⟨rfl, decodeQuery_queryPairs hkey⟩)]
  change (Request.perform env.sql db (.query key.bytes .none) >>= _) = _
  rw [perform_query_ok hget]
  rfl

lemma serve_query_inv (h : serve cbor env db
      (requestPacket kConfigQuery tag (serializeKeyRequest cbor key)) = .ok (reply, store)) :
    Utf8.Valid key.bytes ∧ ∃ value, getKey db key.bytes = .ok value ∧
      reply = replyPacket (requestHeader kConfigQuery tag
        (headerSize + (serializeKeyRequest cbor key).length)) (queryReply cbor key value) ∧
      store = db := by
  obtain ⟨request, pairs, hdecode, hperform, rfl⟩ := serve_ok h
  obtain ⟨-, item, hload, hkind⟩ := decodeRequest_ok hdecode
  obtain ⟨-, hload⟩ := load_requestPacket simple_queryPairs rfl hload
  have h8 : Utf8.Valid key.bytes :=
    readable_queryPairs.mp (cbor.readable_of_load simple_queryPairs hload)
  cases (load_keyRequest h8).symm.trans hload
  have hread : RpcHeader.read (requestPacket kConfigQuery tag (serializeKeyRequest cbor key)) = _ :=
    RpcHeader.read_bytes_append _ _
  rw [hread] at hkind ⊢
  obtain ⟨-, hq⟩ | ⟨hu, -⟩ := hkind
  · obtain ⟨-, rfl⟩ := decodeQuery_inv hq
    rcases hget : getKey db key.bytes with e | value
    · rw [perform_query_error hget] at hperform
      cases hperform
    · rw [perform_query_ok hget] at hperform
      cases hperform
      exact ⟨h8, value, rfl, rfl, rfl⟩
  · cases hu

lemma serve_update_inv (hitem : item.Scalar)
    (h : serve cbor env db (requestPacket kConfigUpdate tag
      (serializeUpdateRequest cbor key item)) = .ok (reply, store)) :
    key.bytes ≠ [] ∧ headerSize + (serializeUpdateRequest cbor key item).length < 2 ^ 16 ∧
    (Utf8.Valid key.bytes ∧ item.Readable) ∧
    ∃ item' value, Item.Same item item' ∧ updateValue env.heap 1 item' = .ok value ∧
      (setKey env.sql key.bytes value).run db = (.ok (), store) ∧
      reply = replyPacket (requestHeader kConfigUpdate tag
        (headerSize + (serializeUpdateRequest cbor key item).length))
        (updateReply cbor key value) := by
  obtain ⟨request, pairs, hdecode, hperform, rfl⟩ := serve_ok h
  obtain ⟨-, root, hload, hkind⟩ := decodeRequest_ok hdecode
  obtain ⟨hfit, hload⟩ := load_requestPacket (simple_updatePairs hitem) rfl hload
  have hreadable := cbor.readable_of_load (simple_updatePairs hitem) hload
  -- what was decoded is what was serialized, but for a NaN
  obtain ⟨l, hl, hsame⟩ := cbor.load_serialize (simple_updatePairs hitem) hreadable
  cases hl.symm.trans hload
  obtain ⟨item', hitem', rfl⟩ := samePairs_updatePairs hsame
  have hread : RpcHeader.read
      (requestPacket kConfigUpdate tag (serializeUpdateRequest cbor key item)) = _ :=
    RpcHeader.read_bytes_append _ _
  rw [hread] at hkind ⊢
  obtain ⟨hq, -⟩ | ⟨-, hu⟩ := hkind
  · cases hq
  · obtain ⟨hne, value, hvalue, rfl⟩ := decodeUpdate_inv hu
    obtain ⟨hset, rfl⟩ := perform_update_inv hperform
    exact ⟨hne, hfit, readable_updatePairs.mp hreadable, item', value, hitem', hvalue, hset, rfl⟩

end Serve

/-! ### What a getter makes of a reply -/

section Replies

variable {β : Type} {cbor : Libcbor} {key : CString} {item root : Item} {value : PropertyValue}
  {handler : Handler β} {p : Bytes} {e : LibError} {out : Option β}

lemma extractValue_value : extractValue (.map [keyEntry key, (.string (ascii "value"), item),
    (.string (ascii "found"), ctrlTrue)]) =
      if item.isNull then .error (.confd .nullValue) else .ok item := rfl

lemma extractValue_absent : extractValue
    (.map [keyEntry key, (.string (ascii "found"), ctrlFalse)]) = .error (.confd .notFound) := rfl

lemma extractValue_update : extractValue
    (.map [keyEntry key, (.string (ascii "updated"), ctrlTrue)]) = .error (.confd .notFound) := rfl

lemma handleReply_none (h : cbor.load p = none) :
    handleReply cbor handler p = ⟨.status Status.invalidResponse.code, none⟩ := by
  unfold handleReply
  rw [h]

lemma handleReply_error (h : cbor.load p = some root) (hx : extractValue root = .error e) :
    handleReply cbor handler p = ⟨e.exit, none⟩ := by
  unfold handleReply
  simp only [h, hx]

lemma handleReply_ok (h : cbor.load p = some root) (hx : extractValue root = .ok item)
    (hh : handler item = (.ok (), out)) : handleReply cbor handler p = ⟨.status 0, out⟩ := by
  unfold handleReply
  simp only [h, hx, hh]

lemma handleReply_throw (h : cbor.load p = some root) (hx : extractValue root = .ok item)
    (hh : handler item = (.error e, out)) : handleReply cbor handler p = ⟨e.exit, out⟩ := by
  unfold handleReply
  simp only [h, hx, hh]

lemma load_reply_value (h8 : Utf8.Valid key.bytes) (h : valueItem .none value = some item)
    (hs : item.Scalar) (hread : item.Readable) :
    ∃ item' root, Item.Same item item' ∧ cbor.load (queryReply cbor key value) = some root ∧
      extractValue root = if item'.isNull then .error (.confd .nullValue) else .ok item' := by
  obtain ⟨l, hl, hsame⟩ := cbor.load_serialize (@simple_reply_value key item value h hs)
    ((readable_reply_value h).mpr ⟨h8, hread⟩)
  rw [replyPairs_value h] at hsame
  rcases hsame with _ | ⟨⟨hk, hkey⟩, _ | ⟨⟨hv, hvalue⟩, _ | ⟨⟨hf, hfound⟩, _ | _⟩⟩⟩
  rename_i q₁ q₂ q₃
  obtain ⟨_, _⟩ := q₁
  obtain ⟨_, item'⟩ := q₂
  obtain ⟨_, _⟩ := q₃
  cases hk
  cases hv
  cases hf
  cases hkey.eq rfl
  cases hfound.eq rfl
  exact ⟨item', _, hvalue, hl, extractValue_value⟩

lemma handleReply_unreadable (h : valueItem .none value = some item) (hs : item.Scalar)
    (hread : ¬ item.Readable) : handleReply cbor handler (queryReply cbor key value) =
      ⟨.status Status.invalidResponse.code, none⟩ :=
  handleReply_none <| cbor.load_unreadable (simple_reply_value h hs) fun hr =>
    hread ((readable_reply_value h).mp hr).2

lemma load_updateReply (h8 : Utf8.Valid key.bytes) (hv : value ≠ .monostate) :
    cbor.load (updateReply cbor key value) =
      some (.map [keyEntry key, (.string (ascii "updated"), ctrlTrue)]) := by
  rw [← replyPairs_update hv]
  apply cbor.load_serialize_exact (simple_reply_update hv) (readable_reply_update h8 hv)
  rw [replyPairs_update hv]
  simp [Item.isNaN]

lemma handleReply_update (h8 : Utf8.Valid key.bytes) (hv : value ≠ .monostate) :
    handleReply cbor handler (updateReply cbor key value) =
      ⟨.status Status.notFound.code, none⟩ :=
  handleReply_error (load_updateReply h8 hv) extractValue_update

lemma handleReply_absent (h8 : Utf8.Valid key.bytes) :
    handleReply cbor handler (queryReply cbor key .monostate) =
      ⟨.status Status.notFound.code, none⟩ := by
  have hload : cbor.load (queryReply cbor key .monostate) =
      some (.map [keyEntry key, (.string (ascii "found"), ctrlFalse)]) := by
    rw [← replyPairs_absent]
    apply cbor.load_serialize_exact simple_reply_absent (readable_reply_absent h8)
    rw [replyPairs_absent]
    simp [Item.isNaN]
  exact handleReply_error hload extractValue_absent

lemma valueItem_eq_none : valueItem .none value = none ↔ value = .monostate := by
  cases value <;> simp [valueItem]

lemma valueItem_of_getKey {db : Db} {name : Bytes} (h : getKey db name = .ok value)
    (hi : valueItem .none value = some item) : item.Scalar ∧ item.bool? = none := by
  have hmax : sqliteMaxLength < 2 ^ 64 := by decide
  rcases getKey_ok h with ⟨-, rfl⟩ | ⟨r, -, ⟨-, rfl⟩ | ⟨t, column, -, rfl⟩⟩
  · cases hi
  · cases hi
    exact ⟨.inr (.inr rfl), rfl⟩
  · cases t with
    | propertyValuesString =>
      cases hi
      have hlen : (cstr column.val).length ≤ column.val.length := length_cstr_le _
      have hcolumn : column.val.length ≤ sqliteMaxLength := column.property
      exact ⟨hlen.trans_lt (hcolumn.trans_lt hmax), rfl⟩
    | propertyValuesBlob =>
      cases hi
      refine ⟨?_, rfl⟩
      rcases column with _ | b
      · exact Nat.two_pow_pos 64
      · exact b.property.trans_lt hmax
    | propertyValuesInteger =>
      cases hi
      exact ⟨trivial, rfl⟩
    | propertyValuesReal =>
      cases hi
      exact ⟨trivial, rfl⟩

lemma simple_mapAdd {capacity : ℕ} {name : String} {l : List (Item × Item)} (hl : Simple l)
    (hcapacity : capacity < 2 ^ 64) (hname : (ascii name).length < 2 ^ 64) (hitem : item.Scalar) :
    Simple (mapAdd capacity l name item) := by
  unfold mapAdd
  split_ifs with hroom
  · refine ⟨by simp; omega, fun p hp => ?_, fun p hp => ?_⟩
    · rcases List.mem_append.mp hp with hp | hp
      · exact hl.keys p hp
      · rw [List.mem_singleton.mp hp]
        exact ⟨_, rfl, hname⟩
    · rcases List.mem_append.mp hp with hp | hp
      · exact hl.values p hp
      · rw [List.mem_singleton.mp hp]
        exact hitem
  · exact hl

/-- The map of a reply: the key, the value if there is one to send, and the flag. -/
lemma replyPairs_eq (name : Bytes) (value : PropertyValue) (flags : Flags) :
    ∃ capacity ≤ 3, ∃ root hasValue, replyPairs name value flags = mapAdd capacity root
        (if flags.isSetRequest then "updated" else "found") (buildBool hasValue) ∧
      let keyOnly := mapAdd capacity [] "key" (.string (cstr name))
      (root = keyOnly ∨ ∃ item, valueItem flags value = some item ∧
        root = mapAdd capacity keyOnly "value" item) := by
  have hcapacity : (if !value.isMonostate then 3 else 2) -
      (if !flags.excludeValue then 0 else 1) ≤ 3 := by split_ifs <;> omega
  unfold replyPairs
  refine ⟨_, hcapacity, ?_⟩
  cases hout : !flags.excludeValue with
  | false =>
    simp only [Bool.false_eq_true, if_false]
    exact ⟨_, _, rfl, .inl rfl⟩
  | true =>
    simp only [if_true]
    rcases hitem : valueItem flags value with _ | item
    · exact ⟨_, _, rfl, .inl rfl⟩
    · exact ⟨_, _, rfl, .inr ⟨item, rfl, rfl⟩⟩

lemma simple_replyPairs {name : Bytes} {flags : Flags} (hname : name.length < 2 ^ 64)
    (hscalar : ∀ i, valueItem flags value = some i → i.Scalar) :
    Simple (replyPairs name value flags) := by
  obtain ⟨capacity, hcapacity, root, hasValue, hpairs, hroot⟩ := replyPairs_eq name value flags
  have hcap : capacity < 2 ^ 64 := by omega
  have hkey : Simple (mapAdd capacity [] "key" (.string (cstr name))) :=
    simple_mapAdd .nil hcap (by decide) ((length_cstr_le name).trans_lt hname)
  have hsimple : Simple root := by
    rcases hroot with rfl | ⟨i, hi, rfl⟩
    · exact hkey
    · exact simple_mapAdd hkey hcap (by decide) (hscalar i hi)
  rw [hpairs]
  exact simple_mapAdd hsimple hcap (by split_ifs <;> decide) (scalar_buildBool hasValue)

lemma simple_queryReply {db : Db} {name : Bytes} {flags : Flags} (hname : name.length < 2 ^ 64)
    (h : getKey db name = .ok value) : Simple (replyPairs name value flags) := by
  refine simple_replyPairs hname fun i hi => ?_
  cases value with
  | double d =>
    simp only [valueItem] at hi
    split_ifs at hi <;> cases hi <;> trivial
  | _ => exact (valueItem_of_getKey h hi).1

lemma simple_of_getKey {db : Db} (h : getKey db key.bytes = .ok value) :
    Simple (replyPairs key.bytes value .none) := by
  rcases hi : valueItem .none value with _ | item
  · rw [valueItem_eq_none.mp hi]
    exact simple_reply_absent
  · exact simple_reply_value hi (valueItem_of_getKey h hi).1

end Replies

/-! ### Calls -/

section Calls

variable {β : Type} {cbor : Libcbor} {env : CallbackEnv} {c c' : Endpoint Link} {key : CString}
  {item : Item} {value : PropertyValue} {handler : Handler β} {p : Bytes} {e : LibError}

lemma doUpdate_of_error (h : (sendPacketWithReply (linkSocket cbor env) kConfigUpdate
      (serializeUpdateRequest cbor key item)).run c = (.error e, c')) :
    doUpdate cbor (linkSocket cbor env) key item c = (e.exit, c') := by
  unfold doUpdate
  rw [h]

lemma doUpdate_of_reply (h : (sendPacketWithReply (linkSocket cbor env) kConfigUpdate
      (serializeUpdateRequest cbor key item)).run c = (.ok p, c')) :
    (doUpdate cbor (linkSocket cbor env) key item c).2 = c' := by
  unfold doUpdate
  rw [h]

lemma doQuery_of_error (h : (sendPacketWithReply (linkSocket cbor env) kConfigQuery
      (serializeKeyRequest cbor key)).run c = (.error e, c')) :
    (doQuery cbor (linkSocket cbor env) key handler c).1 = ⟨e.exit, none⟩ := by
  unfold doQuery
  rw [h]

lemma doQuery_of_reply (h : (sendPacketWithReply (linkSocket cbor env) kConfigQuery
      (serializeKeyRequest cbor key)).run c = (.ok p, c')) :
    (doQuery cbor (linkSocket cbor env) key handler c).1 = handleReply cbor handler p := by
  unfold doQuery
  rw [h]

lemma length_updateReply (hitem : item.Scalar) (hv : value ≠ .monostate) :
    (updateReply cbor key value).length ≤ (serializeUpdateRequest cbor key item).length + 2 := by
  have hvalue : (Item.string (ascii "value")).size = 6 := by decide
  have hupdated : (Item.string (ascii "updated")).size + ctrlTrue.size = 9 := by decide
  have hpos : 0 < item.size := item.size_pos
  calc (updateReply cbor key value).length
      = mapSize [keyEntry key, (.string (ascii "updated"), ctrlTrue)] := by
        rw [cbor.length_serialize (simple_reply_update hv), replyPairs_update hv]
    _ ≤ mapSize (updatePairs key.bytes item) + 2 := by
        simp only [mapSize, updatePairs, List.length_cons, List.length_nil, List.map_cons,
          List.map_nil, List.sum_cons, List.sum_nil]
        omega
    _ = (serializeUpdateRequest cbor key item).length + 2 := by
        rw [serializeUpdateRequest, cbor.length_serialize (simple_updatePairs hitem)]

lemma length_keyRequest_le (hitem : item.Scalar) : (serializeKeyRequest cbor key).length ≤
    (serializeUpdateRequest cbor key item).length := by
  have hhead : headSize 1 ≤ headSize 2 := headSize_mono (by omega)
  calc (serializeKeyRequest cbor key).length
      = mapSize (queryPairs key.bytes) := cbor.length_serialize simple_queryPairs
    _ ≤ mapSize (updatePairs key.bytes item) := by
        simp only [mapSize, queryPairs, updatePairs, List.length_cons, List.length_nil,
          List.map_cons, List.map_nil, List.sum_cons, List.sum_nil, Nat.zero_add, Nat.reduceAdd]
        omega
    _ = (serializeUpdateRequest cbor key item).length :=
        (cbor.length_serialize (simple_updatePairs hitem)).symm

lemma updateValue_ne_monostate {heap : ℕ → Bytes} {i : ℕ}
    (h : updateValue heap i item = .ok value) : value ≠ .monostate := by
  rintro rfl
  cases item <;> cases h

/-- **A setter that returns `0`**: the value that the server decoded is set, the connection has
read everything, and what its buffer holds is the reply. -/
lemma doUpdate_ok (hidle : c.sock.Idle) (hw : env.writeOk = true) (hitem : item.Scalar)
    (h : doUpdate cbor (linkSocket cbor env) key item c = (.status 0, c')) :
    key.bytes ≠ [] ∧ headerSize + (serializeUpdateRequest cbor key item).length < 2 ^ 16 ∧
    (Utf8.Valid key.bytes ∧ item.Readable) ∧
    ∃ item' value, Item.Same item item' ∧ updateValue env.heap 1 item' = .ok value ∧
      (setKey env.sql key.bytes value).run c.sock.server.store = (.ok (), c'.sock.server.store) ∧
      c'.sock.Idle ∧ c'.conn.receiveBuf.drop headerSize = updateReply cbor key value := by
  rcases hserve : serve cbor env c.sock.server.store (requestPacket kConfigUpdate
    (c.conn.nextTag + 1) (serializeUpdateRequest cbor key item)) with e | ⟨reply, store⟩
  · obtain ⟨c₁, hx⟩ := exchange_refused hidle hw hserve
    rw [doUpdate_of_error hx] at h
    cases h
  -- so the request was served, and the key is set
  obtain ⟨hne, hfit, hread, item', value, hsame, hvalue, hset, rfl⟩ :=
    serve_update_inv hitem hserve
  have hv : value ≠ .monostate := updateValue_ne_monostate hvalue
  have hp : updateReply cbor key value ≠ [] := serialize_ne_nil (simple_reply_update hv)
  refine ⟨hne, hfit, hread, item', value, hsame, hvalue, ?_⟩
  by_cases hshort : headerSize + (updateReply cbor key value).length < 2 ^ 16
  · obtain ⟨c₁, hx, hbuf, hidle₁, -, hstore⟩ := exchange_fits hidle hw hserve hp hshort
    obtain rfl : c₁ = c' := by rw [← doUpdate_of_reply hx, h]
    exact ⟨hstore ▸ hset, hidle₁, by rw [hbuf, RpcHeader.drop_bytes_append]⟩
  · -- the length of the reply has wrapped around, to `0` or `1`
    have hle := @length_updateReply cbor key item value hitem hv
    have hwrap : (headerSize + (updateReply cbor key value).length) % 2 ^ 16 < headerSize := by
      unfold headerSize at hshort hfit ⊢
      omega
    obtain ⟨c₁, hx⟩ := exchange_invalid hidle hw hserve hwrap
    rw [doUpdate_of_error hx] at h
    cases h

lemma doQuery_fits (hidle : c.sock.Idle) (hw : env.writeOk = true) (hkey : key.bytes ≠ [])
    (h8 : Utf8.Valid key.bytes)
    (hrequest : headerSize + (serializeKeyRequest cbor key).length < 2 ^ 16)
    (hget : getKey c.sock.server.store key.bytes = .ok value)
    (hfit : headerSize + (queryReply cbor key value).length < 2 ^ 16) :
    (doQuery cbor (linkSocket cbor env) key handler c).1 =
      handleReply cbor handler (queryReply cbor key value) := by
  have hserve := @serve_query cbor env _ (c.conn.nextTag + 1) _ _ hkey h8 hrequest hget
  have hp : queryReply cbor key value ≠ [] := serialize_ne_nil (simple_of_getKey hget)
  obtain ⟨c₁, hx, -⟩ := exchange_fits hidle hw hserve hp hfit
  exact doQuery_of_reply hx

/-- **A getter in general**: it gets no reply, the reply, a part of it that is not decoded, or
what the receive buffer held before. -/
lemma doQuery_cases (hidle : c.sock.Idle) (hw : env.writeOk = true) :
    (doQuery cbor (linkSocket cbor env) key handler c).1 = ⟨.status (-1), none⟩ ∨
    ∃ value, getKey c.sock.server.store key.bytes = .ok value ∧
      (headerSize + (queryReply cbor key value).length < 2 ^ 16 ∧
          (doQuery cbor (linkSocket cbor env) key handler c).1 =
            handleReply cbor handler (queryReply cbor key value) ∨
        (doQuery cbor (linkSocket cbor env) key handler c).1 =
          ⟨.status Status.invalidResponse.code, none⟩ ∨
        (doQuery cbor (linkSocket cbor env) key handler c).1 =
          handleReply cbor handler (c.conn.receiveBuf.drop headerSize)) := by
  rcases hserve : serve cbor env c.sock.server.store (requestPacket kConfigQuery
    (c.conn.nextTag + 1) (serializeKeyRequest cbor key)) with e | ⟨reply, store⟩
  · obtain ⟨c₁, hx⟩ := exchange_refused hidle hw hserve
    exact .inl (doQuery_of_error hx)
  obtain ⟨-, value, hget, rfl, rfl⟩ := serve_query_inv hserve
  have hs : Simple (replyPairs key.bytes value .none) := simple_of_getKey hget
  by_cases hfit : headerSize + (queryReply cbor key value).length < 2 ^ 16
  · obtain ⟨c₁, hx, -⟩ := exchange_fits hidle hw hserve (serialize_ne_nil hs) hfit
    exact .inr ⟨value, hget, .inl ⟨hfit, doQuery_of_reply hx⟩⟩
  -- a reply that does not fit announces another length
  rcases lt_trichotomy ((headerSize + (queryReply cbor key value).length) % 2 ^ 16) headerSize
    with hlt | heq | hgt
  · obtain ⟨c₁, hx⟩ := exchange_invalid hidle hw hserve hlt
    exact .inl (doQuery_of_error hx)
  · obtain ⟨c₁, hx⟩ := exchange_stale hidle hw hserve heq
    exact .inr ⟨value, hget, .inr (.inr (doQuery_of_reply hx))⟩
  · obtain ⟨n, hn, c₁, hx⟩ := exchange_cut hidle hw hserve (not_lt.mp hfit) hgt
    have hcut : cbor.load ((queryReply cbor key value).take n) = none := cbor.load_take n hs hn
    refine .inr ⟨value, hget, .inr (.inl ?_)⟩
    rw [doQuery_of_reply hx]
    exact handleReply_none hcut

/-- After a setter that returned `0`, what the buffer holds is the reply to it, which is no value:
a getter on the same connection gets the reply for the value, or an error. -/
lemma doQuery_after {c₂ : Endpoint Link} {env₂ : CallbackEnv} (handler : Handler β)
    (hidle : c.sock.Idle) (hw : env.writeOk = true) (hitem : item.Scalar)
    (hset : doUpdate cbor (linkSocket cbor env) key item c = (.status 0, c'))
    (hconn : c₂.conn = c'.conn) (hidle₂ : c₂.sock.Idle) (hw₂ : env₂.writeOk = true) :
    (∃ code, code ∈ [-1, Status.notFound.code, Status.invalidResponse.code] ∧
      (doQuery cbor (linkSocket cbor env₂) key handler c₂).1 = ⟨.status code, none⟩) ∨
    ∃ value, getKey c₂.sock.server.store key.bytes = .ok value ∧
      headerSize + (queryReply cbor key value).length < 2 ^ 16 ∧
      (doQuery cbor (linkSocket cbor env₂) key handler c₂).1 =
        handleReply cbor handler (queryReply cbor key value) := by
  obtain ⟨-, -, ⟨h8, -⟩, item', value, -, hvalue, -, -, hbuf⟩ := doUpdate_ok hidle hw hitem hset
  rcases doQuery_cases hidle₂ hw₂ with hx | ⟨value₂, hget, ⟨hfit, hx⟩ | hx | hx⟩
  · exact .inl ⟨_, by simp, hx⟩
  · exact .inr ⟨value₂, hget, hfit, hx⟩
  · exact .inl ⟨_, by simp, hx⟩
  · rw [hconn, hbuf, handleReply_update h8 (updateValue_ne_monostate hvalue)] at hx
    exact .inl ⟨_, by simp, hx⟩

end Calls

end Sativa.Confd
