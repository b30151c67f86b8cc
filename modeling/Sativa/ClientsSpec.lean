import Sativa.Clients
import Sativa.StoreAccepts
import Sativa.RoundTrip

/-!
Clients that run at the same time, against a map.

The specification knows no packets and no tables: a client is idle or in a call, and at one moment
between the start and the end of a call the map is read or set. That moment is the read callback of
the server. A call that cannot be performed is refused, and its client is hung up on; so is one
whose request comes in pieces.
-/

namespace Sativa.Clients

open Sativa Sativa.Rpc Sativa.Cbor Sativa.RpcServer Sativa.Store Sativa.Confd

/-! ### The map -/

/-- What is found at a name. -/
def find (m : KeyMap) (name : Bytes) : PropertyValue := (m name).elim .monostate PropertyValue.fetch

/-- What a getter makes of what is found. A text that is not UTF-8 cannot be received. -/
def lookup {β : Type} (replyHandler : Handler β) (found : PropertyValue) : Result β :=
  match valueItem .none found with
  | none => ⟨.status Status.notFound.code, none⟩
  | some value =>
    if ¬ value.Readable then ⟨.status Status.invalidResponse.code, none⟩
    else if value.isNull then ⟨.status Status.nullValue.code, none⟩
    else match replyHandler value with
      | (.ok (), out) => ⟨.status 0, out⟩
      | (.error e, out) => ⟨e.exit, out⟩

/-- A new name takes any value, and one that is there null or a value of its type. -/
def Takes (m : KeyMap) (name : Bytes) (value : PropertyValue) : Prop :=
  ∀ old, m name = some old → value = .null ∨ typeForValue old = typeForValue value

/-- The tables hold what the map says. -/
def Stores (db : Db) (m : KeyMap) : Prop := ∀ name, match m name with
  | none => db.keyRow name = none
  | some value => db.Holds name value

section Stores

variable {db db' : Db} {m : KeyMap} {name : Bytes} {value : PropertyValue}

lemma Stores.of_none (h : Stores db m) (hm : m name = none) : db.keyRow name = none := by
  have hn := h name
  rwa [hm] at hn

lemma Stores.of_some (h : Stores db m) (hm : m name = some value) : db.Holds name value := by
  have hn := h name
  rwa [hm] at hn

lemma Stores.coherent (h : Stores db m) : db.Coherent := by
  refine Db.coherent_of_names fun name r hr => ?_
  rcases hm : m name with _ | value
  · cases (h.of_none hm).symm.trans hr
  · exact ⟨value, h.of_some hm⟩

lemma Stores.getKey (h : Stores db m) (hseq : db.seq < 2 ^ 32) (h0 : 0 ∉ name) :
    Store.getKey db name = .ok (find m name) := by
  have hname : cstr name = name := cstr_of_not_mem h0
  unfold find
  rcases hm : m name with _ | value
  · exact getKey_of_none (hname.symm ▸ h.of_none hm)
  · exact getKey_of_holds hseq (hname.symm ▸ h.of_some hm)

lemma Stores.setKey {env : SqlEnv} (h : Stores db m) (hseq : db.seq < 2 ^ 32) (h0 : 0 ∉ name)
    (hset : (Store.setKey env name value).run db = (.ok (), db')) :
    Stores db' (Function.update m name (some (env.kept value))) := by
  obtain ⟨hholds, hother⟩ := setKey_ok h.coherent hseq hset
  rw [cstr_of_not_mem h0] at hholds hother
  intro n
  by_cases hn : n = name
  · subst hn
    simpa using hholds
  · rw [Function.update_of_ne hn]
    rcases hm : m n with _ | v
    · exact (hother n hn).1.trans (h.of_none hm)
    · exact (hother n hn).holds (h.of_some hm)

lemma Stores.accepts_iff (h : Stores db m) (h0 : 0 ∉ name) (hne : name ≠ [])
    (hv : value ≠ .monostate) : db.Accepts name value ↔ Takes m name value := by
  unfold Db.Accepts Takes
  rw [cstr_of_not_mem h0]
  rcases hm : m name with _ | old
  · rw [h.of_none hm]
    exact ⟨fun _ _ hold => (by cases hold), fun _ => ⟨hne, hv⟩⟩
  · obtain ⟨r, hr, hat⟩ := h.of_some hm
    have htype : r.valueType = (typeForValue value).code ↔
        typeForValue old = typeForValue value := by
      rw [hat.type]
      exact ⟨code_inj, congrArg _⟩
    rw [hr]
    dsimp only
    rw [htype]
    exact ⟨fun hor _ hold => (by cases hold; exact hor), fun hall => hall old rfl⟩

lemma Stores.takes {env : SqlEnv} (h : Stores db m) (h0 : 0 ∉ name)
    (hset : (Store.setKey env name value).run db = (.ok (), db')) (hv : value ≠ .monostate) :
    Takes m name value := by
  intro old hold
  obtain ⟨r, hr, hat⟩ := h.of_some hold
  rw [← cstr_of_not_mem h0] at hr
  rcases setKey_inv hset with ⟨hnone, -⟩ | ⟨r', hr', -, hnull | hsame⟩
  · cases hnone.symm.trans hr
  · left
    cases value <;> first | rfl | exact absurd rfl hv | cases hnull
  · cases hr.symm.trans hr'
    rw [hat.type, uint32_code] at hsame
    exact .inr (code_inj hsame)

end Stores

/-! ### The specification -/

section Spec

variable {β : Type} (cbor : Libcbor)

/-- The texts of the request are UTF-8. -/
def Call.Readable : Call β → Prop
  | get key _ => Utf8.Valid key.bytes
  | set key value => Utf8.Valid key.bytes ∧ value.val.Readable

/-- The request has a name, can be decoded and fits in a packet. -/
structure Call.Sound (call : Call β) : Prop where
  name : call.key.bytes ≠ []
  readable : call.Readable
  fits : headerSize + (call.payload cbor).length < 2 ^ 16

/-- A call that is performed on the map: its result and the map after it. A setter sets what the
server decodes, but for the sign of a zero. -/
inductive Performs (env : CallbackEnv) (m : KeyMap) : Call β → Result β → KeyMap → Prop
  | get {key : CString} {replyHandler : Handler β}
      (sound : (Call.get key replyHandler).Sound cbor) :
      Performs env m (.get key replyHandler) (lookup replyHandler (find m key.bytes)) m
  | set {key : CString} {item : {item : Item // item.Scalar}} {item' : Item} {value : PropertyValue}
      (sound : (Call.set key item : Call β).Sound cbor) (same : Item.Same item.val item')
      (decoded : updateValue env.heap 1 item' = .ok value) (takes : Takes m key.bytes value) :
      Performs env m (.set key item) ⟨.status 0, none⟩
        (Function.update m key.bytes (some (env.sql.kept value)))

/-- A call of which `received` bytes were received, and which is refused. -/
inductive Refused (env : CallbackEnv) (received : ℕ) (m : KeyMap) : Call β → Prop
  | cut {call : Call β} (h : received < headerSize + (call.payload cbor).length) :
      Refused env received m call
  | unsound {call : Call β} (h : ¬ call.Sound cbor) : Refused env received m call
  | value {key : CString} {item : {item : Item // item.Scalar}} {item' : Item}
      {value : PropertyValue} (same : Item.Same item.val item')
      (decoded : updateValue env.heap 1 item' = .ok value)
      (h : ¬ (Takes m key.bytes value ∧ ∀ id ≤ 2 ^ 32, value.Storable id)) :
      Refused env received m (.set key item)
  | fault {key : CString} {item : {item : Item // item.Scalar}} {site : Site}
      (h : env.sql.fault site ≠ none) : Refused env received m (.set key item)

/-- What a client is at. -/
inductive Phase (β : Type)
  | off
  | idle
  | called (call : Call β)
  /-- the call has taken effect -/
  | answered (r : Result β)
  | hungUp
  /-- the connection is closed, and the client knows -/
  | broken

/-- A map and its clients. -/
structure Atomic (β : Type) where
  map : KeyMap
  phase : ℕ → Phase β

def Atomic.to (a : Atomic β) (i : ℕ) (p : Phase β) : Atomic β :=
  { a with phase := Function.update a.phase i p }

/-- The event finds something to do. -/
def Atomic.Enabled (a : Atomic β) : Event β → Prop
  | .connect i => a.phase i = .off
  | .call i _ => a.phase i = .idle ∨ a.phase i = .broken
  | .serve i _ _ => ∃ call, a.phase i = .called call
  | .finish i => (∃ r, a.phase i = .answered r) ∨ a.phase i = .hungUp
  | .disconnect i => a.phase i = .idle ∨ a.phase i = .broken

/-- The status of a call that found the connection closed. -/
abbrev closed : Result β := ⟨.status (-1), none⟩

/-- The status of a call on a connection that is closed, which is `EPIPE`. -/
abbrev brokenPipe : Result β := ⟨.status (-32), none⟩

inductive Atomic.Step : Atomic β → Event β → Option (Result β) → Atomic β → Prop
  | connect {a : Atomic β} {i : ℕ} (h : a.phase i = .off) : Step a (.connect i) none (a.to i .idle)
  | call {a : Atomic β} {i : ℕ} {call : Call β} (h : a.phase i = .idle) :
      Step a (.call i call) none (a.to i (.called call))
  | callBroken {a : Atomic β} {i : ℕ} {call : Call β} (h : a.phase i = .broken) :
      Step a (.call i call) (some brokenPipe) a
  | serve {a : Atomic β} {i more : ℕ} {env : CallbackEnv} {call : Call β} {r : Result β}
      {m : KeyMap} (h : a.phase i = .called call)
      (whole : headerSize + (call.payload cbor).length ≤ more + 1)
      (hp : Performs cbor env a.map call r m) :
      Step a (.serve i more env) none ({ a with map := m }.to i (.answered r))
  | refuse {a : Atomic β} {i more : ℕ} {env : CallbackEnv} {call : Call β}
      (h : a.phase i = .called call) (hr : Refused cbor env (more + 1) a.map call) :
      Step a (.serve i more env) none (a.to i .hungUp)
  | finish {a : Atomic β} {i : ℕ} {r : Result β} (h : a.phase i = .answered r) :
      Step a (.finish i) (some r) (a.to i .idle)
  | finishHungUp {a : Atomic β} {i : ℕ} (h : a.phase i = .hungUp) :
      Step a (.finish i) (some closed) (a.to i .broken)
  | disconnect {a : Atomic β} {i : ℕ} (h : a.phase i = .idle ∨ a.phase i = .broken) :
      Step a (.disconnect i) none (a.to i .off)
  | skip {a : Atomic β} {e : Event β} (h : ¬ a.Enabled e) : Step a e none a

/-- No clients, and nothing set. -/
def atomicSpec : Spec (Atomic β) (Event β) (Option (Result β)) :=
  ⟨⟨fun _ => none, fun _ => .off⟩, Atomic.Step cbor⟩

/-- What a read callback of the client gets. -/
def World.received (w : World β) (i more : ℕ) : Bytes :=
  (w.party i).elim [] fun p => p.conn.sock.outbox.take (more + 1)

/-- Up to eight bytes are missing of what the header claims. -/
abbrev Overclaims (pending : Bytes) : Prop :=
  headerSize ≤ pending.length ∧ pending.length < (RpcHeader.read pending).length.toNat ∧
    (RpcHeader.read pending).length.toNat ≤ pending.length + headerSize

/-- The reply to what is received fits in a packet. -/
def replyFits (w : World β) (env : CallbackEnv) (pending : Bytes) : Bool :=
  match serve cbor env w.server.store pending with
  | .ok (reply, _) => reply.length < 2 ^ 16
  | .error _ => true

/-- No request is cut in its last eight bytes, replies are written and fit in a packet, and ids
in 32 bits. -/
def Allowed (w : World β) : Event β → Prop
  | .serve i more env => ¬ Overclaims (w.received i more) ∧ env.writeOk = true ∧
    w.server.store.seq < 2 ^ 32 ∧ replyFits cbor w env (w.received i more) = true
  | _ => True

end Spec

/-! ### What the server makes of a call -/

section Serve

variable {β : Type} {cbor : Libcbor} {env : CallbackEnv} {db : Db} {m : KeyMap} {key : CString}
  {item : {item : Item // item.Scalar}} {replyHandler : Handler β} {value found : PropertyValue}
  {tag : UInt8}

/-- The packet of a call. -/
abbrev Call.packet (cbor : Libcbor) (tag : UInt8) (call : Call β) : Bytes :=
  requestPacket call.endpoint tag (call.payload cbor)

/-- The reply to a call. -/
abbrev Call.reply (cbor : Libcbor) (tag : UInt8) (call : Call β) (p : Bytes) : Bytes :=
  replyPacket (requestHeader call.endpoint tag (headerSize + (call.payload cbor).length)) p

lemma isNaN_of_fetch {i : Item} (h : valueItem .none value.fetch = some i) : i.isNaN = false := by
  cases value with
  | double d =>
    cases h
    by_cases hd : Ieee.isNaN64 d
    · rw [if_pos hd]
      decide
    · rw [if_neg hd]
      exact Bool.eq_false_of_not_eq_true hd
  | _ =>
    cases h
    rfl

lemma isNaN_of_find {i : Item} {name : Bytes} (h : valueItem .none (find m name) = some i) :
    i.isNaN = false := by
  unfold find at h
  rcases hm : m name with _ | value
  · rw [hm] at h
    cases h
  · rw [hm] at h
    exact isNaN_of_fetch h

lemma handleReply_find (h8 : Utf8.Valid key.bytes)
    (hget : getKey db key.bytes = .ok (find m key.bytes)) :
    handleReply cbor replyHandler (queryReply cbor key (find m key.bytes)) =
      lookup replyHandler (find m key.bytes) := by
  unfold lookup
  rcases hi : valueItem .none (find m key.bytes) with _ | i
  · rw [valueItem_eq_none.mp hi]
    exact handleReply_absent h8
  have hscalar : i.Scalar := (valueItem_of_getKey hget hi).1
  dsimp only
  by_cases hread : i.Readable
  swap
  · rw [if_pos hread]
    exact handleReply_unreadable hi hscalar hread
  rw [if_neg (not_not.mpr hread)]
  obtain ⟨i', root, hsame, hload, hextract⟩ :=
    @load_reply_value cbor key _ _ h8 hi hscalar hread
  obtain rfl : i = i' := hsame.eq (isNaN_of_find hi)
  by_cases hnull : i.isNull
  · rw [if_pos hnull] at hextract ⊢
    exact handleReply_error hload hextract
  · rw [if_neg hnull] at hextract ⊢
    rcases hh : replyHandler i with ⟨e | ⟨⟩, out⟩
    · exact handleReply_throw hload hextract hh
    · exact handleReply_ok hload hextract hh

lemma sound_of_serve {call : Call β} {reply : Bytes} {store : Db}
    (h : serve cbor env db (call.packet cbor tag) = .ok (reply, store)) : call.Sound cbor := by
  cases call with
  | set key item =>
    obtain ⟨hne, hfit, hread, -⟩ := serve_update_inv item.property h
    exact ⟨hne, hread, hfit⟩
  | get key replyHandler =>
    obtain ⟨h8, -⟩ := serve_query_inv h
    obtain ⟨request, pairs, hdecode, -⟩ := serve_ok h
    obtain ⟨-, root, hload, hkind⟩ := decodeRequest_ok hdecode
    obtain ⟨hfit, hload⟩ := load_requestPacket simple_queryPairs rfl hload
    cases (load_keyRequest h8).symm.trans hload
    have hread : RpcHeader.read ((Call.get key replyHandler).packet cbor tag) = _ :=
      RpcHeader.read_bytes_append _ _
    rw [hread] at hkind
    obtain ⟨-, hq⟩ | ⟨hu, -⟩ := hkind
    · exact ⟨(decodeQuery_inv hq).1, h8, hfit⟩
    · cases hu

lemma Call.exists_pairs (call : Call β) :
    ∃ l, Simple l ∧ call.payload cbor = cbor.serialize (.map l) := by
  cases call with
  | get key replyHandler => exact ⟨_, simple_queryPairs, rfl⟩
  | set key value => exact ⟨_, simple_updatePairs value.property, rfl⟩

/-- A request that is cut is refused, unless it is cut in its last eight bytes. -/
lemma serve_cut {call : Call β} {n : ℕ} (hn : n < headerSize + (call.payload cbor).length)
    (hclaim : ¬ Overclaims ((call.packet cbor tag).take n)) :
    ∃ e, serve cbor env db ((call.packet cbor tag).take n) = .error e := by
  rcases h : serve cbor env db ((call.packet cbor tag).take n) with e | ⟨reply, store⟩
  · exact ⟨e, rfl⟩
  obtain ⟨request, pairs, hdecode, -⟩ := serve_ok h
  obtain ⟨hcheck, item, hload, -⟩ := decodeRequest_ok hdecode
  obtain ⟨-, -, hshort, hlen⟩ := checkHeader_ok hcheck
  obtain ⟨l, hl, hpayload⟩ := @Call.exists_pairs β cbor call
  have hsize : (call.packet cbor tag).length = headerSize + (call.payload cbor).length := by
    simp [requestPacket]
  have hpending : ((call.packet cbor tag).take n).length = n := by
    rw [List.length_take, hsize]
    omega
  have hlong : headerSize ≤ n := by
    by_contra hlt
    unfold checkHeader at hcheck
    rw [if_pos (by rw [hpending]; omega)] at hcheck
    cases hcheck
  set hdr := requestHeader call.endpoint tag (headerSize + (call.payload cbor).length) with hhdr
  have hcut : (call.packet cbor tag).take n =
      hdr.bytes ++ (call.payload cbor).take (n - headerSize) := by
    rw [Call.packet, requestPacket, List.take_append, List.take_of_length_le (by simpa using hlong),
      RpcHeader.length_bytes]
  have hread : RpcHeader.read ((call.packet cbor tag).take n) = hdr := by
    rw [hcut, RpcHeader.read_bytes_append]
  rw [Overclaims, hpending, hread] at hclaim
  rw [hread] at hload hshort hlen
  rw [hpending] at hlen
  -- the header claims no more than what is there, which is less than the payload
  have hle : hdr.length.toNat ≤ n := by omega
  have hbytes : payloadBytes env ((call.packet cbor tag).take n) (hdr.length.toNat - headerSize) =
      (cbor.serialize (.map l)).take (hdr.length.toNat - headerSize) := by
    unfold payloadBytes
    rw [hcut, List.append_assoc, RpcHeader.drop_bytes_append,
      List.take_append_of_le_length (by rw [List.length_take]; omega), List.take_take, ← hpayload]
    congr 1
    omega
  rw [hbytes, cbor.load_take _ hl (by rw [← hpayload]; omega)] at hload
  cases hload

lemma exists_updateValue {heap : ℕ → Bytes} {i : ℕ} {item item' : Item} (hs : item.Scalar)
    (hsame : Item.Same item item') : ∃ value, updateValue heap i item' = .ok value := by
  cases hsame with
  | refl =>
    cases item with
    | uint w v => exact ⟨_, rfl⟩
    | bytestring b => exact ⟨_, rfl⟩
    | string b => exact ⟨_, rfl⟩
    | float4 b => exact ⟨_, rfl⟩
    | float8 b => exact ⟨_, rfl⟩
    | ctrl v => exact ⟨_, rfl⟩
    | _ => cases hs
  | nan4 => exact ⟨_, rfl⟩
  | nan8 => exact ⟨_, rfl⟩

lemma rowId_le {name : Bytes} (hseq : db.seq < 2 ^ 32) : db.rowId name ≤ 2 ^ 32 := by
  unfold Db.rowId
  rcases hr : db.keyRow name with _ | r
  · exact hseq
  · exact ((Db.id_le_seq hr).trans_lt hseq).le

lemma refused_of_serve {e : RpcError} {n : ℕ} (hs : Stores db m) (hseq : db.seq < 2 ^ 32)
    (h : serve cbor env db ((Call.set key item : Call β).packet cbor tag) = .error e) :
    Refused cbor env n m (Call.set key item : Call β) := by
  by_contra hr
  have hsound : (Call.set key item : Call β).Sound cbor := by
    by_contra hsound
    exact hr (.unsound hsound)
  obtain ⟨l, hload, hl⟩ := cbor.load_serialize (@simple_updatePairs key item.val item.property)
    (readable_updatePairs.mpr hsound.readable)
  obtain ⟨item', hsame, rfl⟩ := samePairs_updatePairs hl
  obtain ⟨value, hvalue⟩ := @exists_updateValue env.heap 1 _ _ item.property hsame
  have htakes : Takes m key.bytes value ∧ ∀ id ≤ 2 ^ 32, value.Storable id := by
    by_contra htakes
    exact hr (.value hsame hvalue htakes)
  have henv : env.sql = .faultless env.sql.now env.sql.signedZero := by
    have hfault : env.sql.fault = fun _ => none := by
      funext site
      by_contra hsite
      exact hr (.fault hsite)
    rw [SqlEnv.faultless, ← hfault]
  have haccepts : db.Accepts key.bytes value :=
    (hs.accepts_iff key.nulFree hsound.name (updateValue_ne_monostate hvalue)).mpr htakes.1
  obtain ⟨store, hset⟩ : ∃ store, (setKey (.faultless env.sql.now env.sql.signedZero) key.bytes
      value).run db = (.ok (), store) :=
    (setKey_returns hs.coherent hseq).mpr ⟨haccepts, htakes.2 _ (rowId_le hseq)⟩
  rw [← henv] at hset
  have hdecode : decodeUpdate env.heap (.map (updatePairs key.bytes item')) =
      .ok (.update key.bytes value) := by
    have hne : key.bytes ≠ [] := hsound.name
    rw [decodeUpdate_updatePairs hne, hvalue]
    rfl
  -- so the request is decoded and performed, and not refused
  have hserved := @decodeRequest_of_fits cbor env _ tag _ _ _ hsound.fits hload
    (.inr ⟨rfl, hdecode⟩)
  change serve cbor env db (requestPacket kConfigUpdate tag
    (serializeUpdateRequest cbor key item.val)) = _ at h
  unfold serve at h
  change (decodeRequest cbor env (requestPacket kConfigUpdate tag
    (serializeUpdateRequest cbor key item.val)) >>= _) = _ at h
  rw [show decodeRequest cbor env (requestPacket kConfigUpdate tag
    (serializeUpdateRequest cbor key item.val)) = _ from hserved] at h
  change (Request.perform env.sql db (.update key.bytes value) >>= _) = _ at h
  rw [perform_update_ok hset] at h
  cases h

/-- **One request**: the call is performed on the map, or it is refused. -/
lemma serve_call (call : Call β) {n : ℕ} (hs : Stores db m) (hseq : db.seq < 2 ^ 32)
    (hclaim : ¬ Overclaims ((call.packet cbor tag).take n)) :
    (headerSize + (call.payload cbor).length ≤ n ∧ ∃ p store m',
      serve cbor env db ((call.packet cbor tag).take n) = .ok (call.reply cbor tag p, store) ∧
      p ≠ [] ∧ Performs cbor env m call (call.result cbor (.ok p)) m' ∧ Stores store m') ∨
    ∃ e, serve cbor env db ((call.packet cbor tag).take n) = .error e ∧
      Refused cbor env n m call := by
  by_cases hn : n < headerSize + (call.payload cbor).length
  · obtain ⟨e, he⟩ := @serve_cut β cbor env db tag call n hn hclaim
    exact .inr ⟨e, he, .cut hn⟩
  have hwhole : (call.packet cbor tag).take n = call.packet cbor tag :=
    List.take_of_length_le (by simpa [requestPacket] using not_lt.mp hn)
  rw [hwhole]
  rcases h : serve cbor env db (call.packet cbor tag) with e | ⟨reply, store⟩
  · cases call with
    | set key item => exact .inr ⟨e, rfl, refused_of_serve hs hseq h⟩
    | get key replyHandler =>
      refine .inr ⟨e, rfl, .unsound fun hsound => ?_⟩
      have hget : getKey db key.bytes = .ok (find m key.bytes) := hs.getKey hseq key.nulFree
      cases h.symm.trans (serve_query hsound.name hsound.readable hsound.fits hget)
  -- a request that is served is performed on the map
  · have hsound := sound_of_serve h
    refine .inl ⟨not_lt.mp hn, ?_⟩
    cases call with
    | get key replyHandler =>
      have hget : getKey db key.bytes = .ok (find m key.bytes) := hs.getKey hseq key.nulFree
      obtain ⟨h8, value, hvalue, rfl, rfl⟩ := serve_query_inv h
      cases hget.symm.trans hvalue
      refine ⟨_, store, m, rfl, serialize_ne_nil (simple_of_getKey hget), ?_, hs⟩
      have hresult : (Call.get key replyHandler).result cbor
          (.ok (queryReply cbor key (find m key.bytes))) = _ := handleReply_find h8 hget
      rw [hresult]
      exact .get hsound
    | set key item =>
      obtain ⟨-, -, hread, item', value, hsame, hvalue, hset, rfl⟩ :=
        serve_update_inv item.property h
      have hv : value ≠ .monostate := updateValue_ne_monostate hvalue
      have htakes : Takes m key.bytes value := hs.takes key.nulFree hset hv
      refine ⟨_, store, _, rfl, serialize_ne_nil (simple_reply_update hv), ?_,
        hs.setKey hseq key.nulFree hset⟩
      have hresult : (Call.set key item : Call β).result cbor (.ok (updateReply cbor key value)) =
          ⟨.status 0, none⟩ := by
        simp only [Call.result, load_updateReply hread.1 hv]
      rw [hresult]
      exact .set hsound hsame hvalue htakes

end Serve

/-! ### Simulation -/

section Simulation

variable {β : Type} {cbor : Libcbor} {w w' : World β} {a : Atomic β} {i : ℕ} {m : KeyMap}
  {party : Option (Party β)} {client : Option RpcServer.Client}

/-- Where the packets of a client are in each phase. -/
def Phase.Of (cbor : Libcbor) (party : Option (Party β)) (client : Option RpcServer.Client) :
    Phase β → Prop
  | .off => party = none ∧ client = none
  | .idle => ∃ conn, party = some ⟨⟨conn, .open⟩, none⟩ ∧ client ≠ none
  | .called call => ∃ conn tag,
    party = some ⟨⟨conn, ⟨call.packet cbor tag, [], true⟩⟩, some (call, tag)⟩ ∧ client ≠ none
  | .answered r => ∃ conn call tag p,
    party = some ⟨⟨conn, ⟨[], call.reply cbor tag p, true⟩⟩, some (call, tag)⟩ ∧ client ≠ none ∧
      p ≠ [] ∧ headerSize + p.length < 2 ^ 16 ∧ call.result cbor (.ok p) = r
  | .hungUp => ∃ conn rest call tag,
    party = some ⟨⟨conn, ⟨rest, [], false⟩⟩, some (call, tag)⟩ ∧ client = none
  | .broken => ∃ conn rest, party = some ⟨⟨conn, ⟨rest, [], false⟩⟩, none⟩ ∧ client = none

/-- The specification is where the system is. -/
structure Linked (cbor : Libcbor) (w : World β) (a : Atomic β) : Prop where
  stores : Stores w.server.store a.map
  phases : ∀ i, (a.phase i).Of cbor (w.party i) (w.server.clients i)

lemma Linked.move {phase : Phase β} (h : Linked cbor w a) (hstores : Stores w'.server.store m)
    (hi : phase.Of cbor (w'.party i) (w'.server.clients i))
    (hother : ∀ j ≠ i, w'.party j = w.party j ∧ w'.server.clients j = w.server.clients j) :
    Linked cbor w' ({ a with map := m }.to i phase) where
  stores := hstores
  phases j := by
    by_cases hj : j = i
    · subst hj
      simpa [Atomic.to] using hi
    · obtain ⟨hparty, hclient⟩ := hother j hj
      simpa [Atomic.to, hj, hparty, hclient] using h.phases j

lemma Linked.setParty {phase : Phase β} {p : Option (Party β)} (h : Linked cbor w a)
    (hi : phase.Of cbor p (w.server.clients i)) :
    Linked cbor (w.setParty i p) (a.to i phase) := by
  have hstores : Stores (w.setParty i p).server.store a.map := h.stores
  refine h.move hstores ?_ fun j hj => ⟨?_, rfl⟩
  · simpa [World.setParty] using hi
  · simp [World.setParty, hj]

/-- What a step does that is one of the specification. -/
def Follows (cbor : Libcbor) (a : Atomic β) (e : Event β) (r : Option (Result β) × World β) :
    Prop :=
  ∃ a', a.Step cbor e r.1 a' ∧ Linked cbor r.2 a'

lemma Follows.skip {e : Event β} (h : Linked cbor w a) (he : ¬ a.Enabled e) :
    Follows cbor a e (none, w) := ⟨a, .skip he, h⟩

lemma Linked.phase {phase : Phase β} (h : Linked cbor w a) (hp : a.phase i = phase) :
    phase.Of cbor (w.party i) (w.server.clients i) := hp ▸ h.phases i

lemma follows_connect (h : Linked cbor w a) : Follows cbor a (.connect i) (none, connect w i) := by
  have hskip : ∀ p, w.party i = some p → a.phase i ≠ .off →
      Follows cbor a (.connect i) (none, connect w i) := by
    intro p hparty hp
    have hconnect : connect w i = w := by simp [connect, hparty]
    rw [hconnect]
    exact .skip h hp
  -- only a client that is off connects
  cases hp : a.phase i with
  | off =>
    obtain ⟨hparty, hclient⟩ := h.phase hp
    refine ⟨a.to i .idle, .connect hp, ?_⟩
    have hconnect : connect w i =
        { w with server := w.server.setClient i ⟨[], []⟩ }.setParty i
          (some ⟨⟨.open, .open⟩, none⟩) := by simp [connect, hparty, acceptClient, hclient]
    rw [hconnect]
    refine h.move (m := a.map) h.stores ⟨.open, ?_, ?_⟩ fun j hj => ⟨?_, ?_⟩
    · simp [World.setParty]
    · simp [World.setParty, Server.setClient]
    · simp [World.setParty, hj]
    · simp [World.setParty, Server.setClient, hj]
  | idle =>
    obtain ⟨conn, hparty, -⟩ := h.phase hp
    exact hskip _ hparty (by simp [hp])
  | called call =>
    obtain ⟨conn, tag, hparty, -⟩ := h.phase hp
    exact hskip _ hparty (by simp [hp])
  | answered r =>
    obtain ⟨conn, call, tag, p, hparty, -⟩ := h.phase hp
    exact hskip _ hparty (by simp [hp])
  | hungUp =>
    obtain ⟨conn, rest, call, tag, hparty, -⟩ := h.phase hp
    exact hskip _ hparty (by simp [hp])
  | broken =>
    obtain ⟨conn, rest, hparty, -⟩ := h.phase hp
    exact hskip _ hparty (by simp [hp])

/-! #### Calling -/

lemma run_begin (call : Call β) (conn : RpcConnection) :
    (call.begin cbor pipeSocket).run ⟨conn, .open⟩ = (.ok (conn.nextTag + 1),
      ⟨⟨call.packet cbor (conn.nextTag + 1), conn.receiveBuf, conn.nextTag + 1⟩,
        ⟨call.packet cbor (conn.nextTag + 1), [], true⟩⟩) := by
  unfold Call.begin
  rw [run_sendPacket]
  simp [pipeSocket, Pipe.open, Endpoint.sent, Call.packet]

lemma run_begin_closed {rest : Bytes} (call : Call β) (conn : RpcConnection) :
    ∃ conn', (call.begin cbor pipeSocket).run ⟨conn, ⟨rest, [], false⟩⟩ =
      (.error (.system epipe), ⟨conn', ⟨rest, [], false⟩⟩) := by
  unfold Call.begin
  rw [run_sendPacket]
  exact ⟨_, rfl⟩

lemma result_error (call : Call β) (e : LibError) :
    call.result cbor (.error e) = ⟨e.exit, none⟩ := by
  cases call <;> rfl

lemma follows_call (h : Linked cbor w a) (call : Call β) :
    Follows cbor a (.call i call) (beginCall cbor w i call) := by
  have hskip : beginCall cbor w i call = (none, w) → ¬ a.Enabled (.call i call) →
      Follows cbor a (.call i call) (beginCall cbor w i call) := by
    intro hbegin he
    rw [hbegin]
    exact .skip h he
  -- an idle client sends its request; a broken one fails at once
  cases hp : a.phase i with
  | off =>
    obtain ⟨hparty, -⟩ := h.phase hp
    exact hskip (by simp [beginCall, hparty]) (by simp [Atomic.Enabled, hp])
  | idle =>
    obtain ⟨conn, hparty, hclient⟩ := h.phase hp
    refine ⟨a.to i (.called call), ?_, ?_⟩
    · simp only [beginCall, hparty, run_begin]
      exact .call hp
    · simp only [beginCall, hparty, run_begin]
      exact h.setParty ⟨_, _, rfl, hclient⟩
  | called call' =>
    obtain ⟨conn, tag, hparty, -⟩ := h.phase hp
    exact hskip (by simp [beginCall, hparty]) (by simp [Atomic.Enabled, hp])
  | answered r =>
    obtain ⟨conn, call', tag, p, hparty, -⟩ := h.phase hp
    exact hskip (by simp [beginCall, hparty]) (by simp [Atomic.Enabled, hp])
  | hungUp =>
    obtain ⟨conn, rest, call', tag, hparty, -⟩ := h.phase hp
    exact hskip (by simp [beginCall, hparty]) (by simp [Atomic.Enabled, hp])
  | broken =>
    obtain ⟨conn, rest, hparty, hclient⟩ := h.phase hp
    obtain ⟨conn', hrun⟩ := @run_begin_closed β cbor rest call conn
    have hto : a.to i .broken = a := by rw [Atomic.to, ← hp, Function.update_eq_self]
    refine ⟨a, ?_, ?_⟩
    · simp only [beginCall, hparty, hrun, result_error]
      exact .callBroken hp
    · simp only [beginCall, hparty, hrun]
      rw [← hto]
      exact h.setParty ⟨_, _, rfl, hclient⟩

/-! #### Serving -/

lemma serveParty_eq {env : CallbackEnv} {conn : RpcConnection} {call : Call β} {tag : UInt8}
    (more : ℕ) (hparty : w.party i =
      some ⟨⟨conn, ⟨call.packet cbor tag, [], true⟩⟩, some (call, tag)⟩)
    (hclient : w.server.clients i ≠ none) (hw : env.writeOk = true) :
    serveParty cbor w i more env =
      match serve cbor env w.server.store ((call.packet cbor tag).take (more + 1)) with
      | .ok (reply, store) =>
        { w with
          server := w.server.replied i ((call.packet cbor tag).take (more + 1)) reply store
        }.setParty i (some
          ⟨⟨conn, ⟨(call.packet cbor tag).drop (more + 1), reply, true⟩⟩, some (call, tag)⟩)
      | .error _ => { w with server := w.server.erase i }.setParty i (some
          ⟨⟨conn, ⟨(call.packet cbor tag).drop (more + 1), [], false⟩⟩, some (call, tag)⟩) := by
  obtain ⟨client, hc⟩ := Option.ne_none_iff_exists'.mp hclient
  have hne : call.packet cbor tag ≠ [] :=
    List.append_ne_nil_of_left_ne_nil (by simp [RpcHeader.bytes]) _
  set pending := (call.packet cbor tag).take (more + 1) with hpending
  have hread := @readCallback_eq cbor env w.server i client hc hw pending
  rcases hserve : serve cbor env w.server.store pending with e | ⟨reply, store⟩
  · simp only [hserve] at hread
    simp [serveParty, hparty, hne, ← hpending, hread, newBytes, Server.erase]
  · simp only [hserve] at hread
    simp [serveParty, hparty, hne, ← hpending, hread, newBytes, Server.replied]

lemma follows_serve_called {more : ℕ} {env : CallbackEnv} {call : Call β} (h : Linked cbor w a)
    (hok : Allowed cbor w (.serve i more env)) (hp : a.phase i = .called call) :
    Follows cbor a (.serve i more env) (none, serveParty cbor w i more env) := by
  obtain ⟨conn, tag, hparty, hclient⟩ := h.phase hp
  obtain ⟨hclaim, hw, hseq, hfits⟩ := hok
  have hreceived : w.received i more = (call.packet cbor tag).take (more + 1) := by
    simp [World.received, hparty]
  rw [hreceived] at hclaim hfits
  have hstep := serveParty_eq more hparty hclient hw
  rcases @serve_call β cbor env _ _ tag call _ h.stores hseq hclaim with
    ⟨hwhole, p, store, m', hserve, hne, hperforms, hstores⟩ | ⟨e, hserve, hrefused⟩
  · simp only [hserve] at hstep
    have hreply : (call.reply cbor tag p).length < 2 ^ 16 := by
      simpa [replyFits, hserve] using hfits
    have hrest : (call.packet cbor tag).drop (more + 1) = [] :=
      List.drop_of_length_le (by simpa [requestPacket] using hwhole)
    -- here the call takes effect
    refine ⟨_, .serve hp hwhole hperforms, ?_⟩
    rw [hstep, hrest]
    refine h.move hstores ⟨conn, call, tag, p, ?_, ?_, hne, ?_, rfl⟩ fun j hj => ⟨?_, ?_⟩
    · simp [World.setParty]
    · simp [World.setParty, Server.replied]
    · simpa [Call.reply, replyPacket] using hreply
    · simp [World.setParty, hj]
    · simp [World.setParty, Server.replied, hj]
  · simp only [hserve] at hstep
    refine ⟨_, .refuse hp hrefused, ?_⟩
    rw [hstep]
    refine h.move (m := a.map) h.stores
      ⟨conn, (call.packet cbor tag).drop (more + 1), call, tag, ?_, ?_⟩ fun j hj => ⟨?_, ?_⟩
    · simp [World.setParty]
    · simp [World.setParty, Server.erase]
    · simp [World.setParty, hj]
    · simp [World.setParty, Server.erase, hj]

lemma follows_serve {more : ℕ} {env : CallbackEnv} (h : Linked cbor w a)
    (hok : Allowed cbor w (.serve i more env)) :
    Follows cbor a (.serve i more env) (none, serveParty cbor w i more env) := by
  have hskip : serveParty cbor w i more env = w → ¬ a.Enabled (.serve i more env) →
      Follows cbor a (.serve i more env) (none, serveParty cbor w i more env) := by
    intro hserve he
    rw [hserve]
    exact .skip h he
  -- only a client that has called has sent something
  cases hp : a.phase i with
  | off =>
    obtain ⟨hparty, -⟩ := h.phase hp
    exact hskip (by simp [serveParty, hparty]) (by simp [Atomic.Enabled, hp])
  | idle =>
    obtain ⟨conn, hparty, -⟩ := h.phase hp
    exact hskip (by simp [serveParty, hparty, Pipe.open]) (by simp [Atomic.Enabled, hp])
  | called call => exact follows_serve_called h hok hp
  | answered r =>
    obtain ⟨conn, call, tag, p, hparty, -⟩ := h.phase hp
    exact hskip (by simp [serveParty, hparty]) (by simp [Atomic.Enabled, hp])
  | hungUp =>
    obtain ⟨conn, rest, call, tag, hparty, -⟩ := h.phase hp
    exact hskip (by simp [serveParty, hparty]) (by simp [Atomic.Enabled, hp])
  | broken =>
    obtain ⟨conn, rest, hparty, -⟩ := h.phase hp
    exact hskip (by simp [serveParty, hparty]) (by simp [Atomic.Enabled, hp])

/-! #### The end of a call -/

lemma finish_reply {conn : RpcConnection} {call : Call β} {tag : UInt8} {p : Bytes} (hp : p ≠ [])
    (hfit : headerSize + p.length < 2 ^ 16) :
    ∃ conn', call.finish cbor pipeSocket tag ⟨conn, ⟨[], call.reply cbor tag p, true⟩⟩ =
      (call.result cbor (.ok p), ⟨conn', .open⟩) := by
  set hdr := replyHeader (requestHeader call.endpoint tag (headerSize + (call.payload cbor).length))
    (headerSize + p.length) with hhdr
  have hlen : hdr.length.toNat = headerSize + p.length := by
    simpa [hhdr, replyHeader] using hfit
  set c : Endpoint Pipe := ⟨conn, ⟨[], call.reply cbor tag p, true⟩⟩ with hc
  have hread : pipeSocket.read headerSize c.sock = (.ok hdr.bytes, ⟨[], p, true⟩) := rfl
  have hbody : pipeSocket.read p.length ⟨[], p, true⟩ = (.ok p, .open) := by
    simp [pipeSocket, Pipe.open]
  have hrecv := receivePacket_whole hread rfl hlen hp hbody
  have hne : hdr.bytes ++ p ≠ [] :=
    List.append_ne_nil_of_left_ne_nil (by simp [RpcHeader.bytes]) p
  -- endpoint and tag of the reply are those of the request
  have hawait : (awaitReply pipeSocket call.endpoint tag).run c =
      (.ok p, { c with sock := Pipe.open }.setReceiveBuf (hdr.bytes ++ p)) := by
    unfold awaitReply
    rw [Prog.run_bind_of_ok hrecv, Prog.throwIf_neg hne, pure_bind]
    simp only [RpcHeader.read_bytes_append]
    rw [Prog.throwIf_neg (by simp [hhdr, replyHeader, requestHeader]), pure_bind,
      Prog.throwIf_neg (by simp [hhdr, replyHeader, requestHeader]), pure_bind]
    rfl
  unfold Call.finish
  rw [hawait]
  exact ⟨_, rfl⟩

lemma finish_closed {rest : Bytes} (conn : RpcConnection) (call : Call β) (tag : UInt8) :
    ∃ conn', call.finish cbor pipeSocket tag ⟨conn, ⟨rest, [], false⟩⟩ =
      (closed, ⟨conn', ⟨rest, [], false⟩⟩) := by
  set c : Endpoint Pipe := ⟨conn, ⟨rest, [], false⟩⟩ with hc
  have hread : pipeSocket.read headerSize c.sock = (.ok [], ⟨rest, [], false⟩) := rfl
  obtain ⟨receiveBuf, -, hrecv⟩ :=
    run_receivePacket_of_short hread fun b hb => by cases hb; decide
  have hawait : (awaitReply pipeSocket call.endpoint tag).run c =
      (.error .insufficientHeader, c.setReceiveBuf receiveBuf) := Prog.run_bind_of_error hrecv
  have hresult : call.result cbor (.error .insufficientHeader) = closed := result_error _ _
  unfold Call.finish
  rw [hawait]
  exact ⟨_, Prod.ext hresult rfl⟩

lemma follows_finish (h : Linked cbor w a) :
    Follows cbor a (.finish i) (finishCall cbor w i) := by
  have hskip : finishCall cbor w i = (none, w) → ¬ a.Enabled (.finish i) →
      Follows cbor a (.finish i) (finishCall cbor w i) := by
    intro hfinish he
    rw [hfinish]
    exact .skip h he
  -- a client that still waits is not done
  cases hp : a.phase i with
  | off =>
    obtain ⟨hparty, -⟩ := h.phase hp
    exact hskip (by simp [finishCall, hparty]) (by simp [Atomic.Enabled, hp])
  | idle =>
    obtain ⟨conn, hparty, -⟩ := h.phase hp
    exact hskip (by simp [finishCall, hparty]) (by simp [Atomic.Enabled, hp])
  | called call =>
    obtain ⟨conn, tag, hparty, -⟩ := h.phase hp
    exact hskip (by simp [finishCall, hparty]) (by simp [Atomic.Enabled, hp])
  | answered r =>
    obtain ⟨conn, call, tag, p, hparty, hclient, hne, hfit, rfl⟩ := h.phase hp
    obtain ⟨conn', hfinish⟩ := @finish_reply β cbor conn call tag p hne hfit
    have hinbox : call.reply cbor tag p ≠ [] := List.append_ne_nil_of_right_ne_nil _ hne
    refine ⟨a.to i .idle, ?_, ?_⟩
    · simp only [finishCall, hparty, hinbox, hfinish, false_and, if_false]
      exact .finish hp
    · simp only [finishCall, hparty, hinbox, hfinish, false_and, if_false]
      exact h.setParty ⟨_, rfl, hclient⟩
  | hungUp =>
    obtain ⟨conn, rest, call, tag, hparty, hclient⟩ := h.phase hp
    obtain ⟨conn', hfinish⟩ := @finish_closed β cbor rest conn call tag
    refine ⟨a.to i .broken, ?_, ?_⟩
    · simp only [finishCall, hparty, hfinish, Bool.false_eq_true, and_false, if_false]
      exact .finishHungUp hp
    · simp only [finishCall, hparty, hfinish, Bool.false_eq_true, and_false, if_false]
      exact h.setParty ⟨_, _, rfl, hclient⟩
  | broken =>
    obtain ⟨conn, rest, hparty, -⟩ := h.phase hp
    exact hskip (by simp [finishCall, hparty]) (by simp [Atomic.Enabled, hp])

/-! #### Going away -/

lemma follows_disconnect (h : Linked cbor w a) :
    Follows cbor a (.disconnect i) (none, disconnect w i) := by
  have hskip : disconnect w i = w → ¬ a.Enabled (.disconnect i) →
      Follows cbor a (.disconnect i) (none, disconnect w i) := by
    intro hdisconnect he
    rw [hdisconnect]
    exact .skip h he
  have hoff : ∀ conn, w.party i = some ⟨conn, none⟩ → a.phase i = .idle ∨ a.phase i = .broken →
      Follows cbor a (.disconnect i) (none, disconnect w i) := by
    intro conn hparty hp
    have hstep : disconnect w i =
        { w with server := handleClientEvent w.server i }.setParty i none := by
      simp [disconnect, hparty]
    refine ⟨a.to i .off, .disconnect hp, ?_⟩
    rw [hstep]
    refine h.move (m := a.map) h.stores ⟨?_, ?_⟩ fun j hj => ⟨?_, ?_⟩
    · simp [World.setParty]
    · simp [World.setParty, handleClientEvent, Server.erase]
    · simp [World.setParty, hj]
    · simp [World.setParty, handleClientEvent, Server.erase, hj]
  -- a client disconnects between two calls
  cases hp : a.phase i with
  | off =>
    obtain ⟨hparty, -⟩ := h.phase hp
    exact hskip (by simp [disconnect, hparty]) (by simp [Atomic.Enabled, hp])
  | idle =>
    obtain ⟨conn, hparty, -⟩ := h.phase hp
    exact hoff _ hparty (.inl hp)
  | called call =>
    obtain ⟨conn, tag, hparty, -⟩ := h.phase hp
    exact hskip (by simp [disconnect, hparty]) (by simp [Atomic.Enabled, hp])
  | answered r =>
    obtain ⟨conn, call, tag, p, hparty, -⟩ := h.phase hp
    exact hskip (by simp [disconnect, hparty]) (by simp [Atomic.Enabled, hp])
  | hungUp =>
    obtain ⟨conn, rest, call, tag, hparty, -⟩ := h.phase hp
    exact hskip (by simp [disconnect, hparty]) (by simp [Atomic.Enabled, hp])
  | broken =>
    obtain ⟨conn, rest, hparty, -⟩ := h.phase hp
    exact hoff _ hparty (.inr hp)

/-! #### Waiting -/

lemma Linked.waiting {p : Party β} (h : Linked cbor w a) (hparty : w.party i = some p)
    (hw : p.waiting ≠ none) : (∃ call, a.phase i = .called call) ∨ a.Enabled (.finish i) := by
  have hno : ∀ conn, w.party i ≠ some ⟨conn, none⟩ := by
    intro conn hconn
    cases hparty.symm.trans hconn
    exact hw rfl
  cases hp : a.phase i with
  | off =>
    obtain ⟨hnone, -⟩ := h.phase hp
    cases hparty.symm.trans hnone
  | idle =>
    obtain ⟨conn, hconn, -⟩ := h.phase hp
    exact absurd hconn (hno _)
  | called call => exact .inl ⟨call, rfl⟩
  | answered r => exact .inr (.inl ⟨r, hp⟩)
  | hungUp => exact .inr (.inr hp)
  | broken =>
    obtain ⟨conn, rest, hconn, -⟩ := h.phase hp
    exact absurd hconn (hno _)

lemma Atomic.Step.finish_of_serve {a' : Atomic β} {more : ℕ} {env : CallbackEnv}
    {o : Option (Result β)} (h : a.Step cbor (.serve i more env) o a')
    (hp : (∃ call, a.phase i = .called call) ∨ a.Enabled (.finish i)) : a'.Enabled (.finish i) := by
  cases h with
  | serve h hwhole hperforms => exact .inl ⟨_, Function.update_self ..⟩
  | refuse h hrefused => exact .inr (Function.update_self ..)
  | skip he => exact hp.resolve_left he

lemma Atomic.Step.answer_of_finish {a' : Atomic β} {o : Option (Result β)}
    (h : a.Step cbor (.finish i) o a') (he : a.Enabled (.finish i)) : ∃ r, o = some r := by
  cases h with
  | finish h => exact ⟨_, rfl⟩
  | finishHungUp h => exact ⟨_, rfl⟩
  | skip hno => exact absurd he hno

lemma linked_init : Linked cbor (.init : World β) ⟨fun _ => none, fun _ => .off⟩ where
  stores _ := rfl
  phases _ := ⟨rfl, rfl⟩

/-- The system steps as the specification does. -/
lemma simulates : (machine cbor).Simulates (Allowed cbor) (atomicSpec cbor)
    (Linked cbor : World β → Atomic β → Prop) where
  init := linked_init
  step w a e h hok := by
    cases e with
    | connect i => exact follows_connect h
    | call i call => exact follows_call h call
    | serve i more env => exact follows_serve h hok
    | finish i => exact follows_finish h
    | disconnect i => exact follows_disconnect h

end Simulation

/-- **No call is left waiting**: whenever a client waits, a read callback of the server is enough
for its call to end. -/
theorem waiting_call_ends {β : Type} (cbor : Libcbor) {h : List (Event β × Option (Result β))}
    {w : World β} {i more : ℕ} {p : Party β} {env : CallbackEnv}
    (hr : (machine cbor).RunBy (Allowed cbor) h w) (hparty : w.party i = some p)
    (hwaiting : p.waiting ≠ none) (hok : Allowed cbor w (.serve i more env)) :
    ∃ r, ((machine cbor).step ((machine cbor).step w (.serve i more env)).2 (.finish i)).1 =
      some r := by
  obtain ⟨a, -, hlinked⟩ := simulates.run hr
  obtain ⟨a₁, hserve, hlinked₁⟩ := follows_serve hlinked hok
  obtain ⟨a₂, hfinish, -⟩ := @follows_finish β cbor _ a₁ i hlinked₁
  exact hfinish.answer_of_finish (hserve.finish_of_serve (hlinked.waiting hparty hwaiting))

/-- A getter that waits. -/
def sampleWaiting : World Int64 :=
  ((machine codec).exec [.connect 0, .call 0 (.get sampleKey intHandler)]).2

theorem waiting_call_ends_sample : ∃ r, ((machine codec).step
    ((machine codec).step sampleWaiting (.serve 0 100 (.ok 0))).2 (.finish 0)).1 = some r := by
  have hr : (machine codec).RunBy (Allowed codec) _ sampleWaiting :=
    (Machine.RunBy.init.snoc trivial).snoc trivial
  exact waiting_call_ends codec hr rfl (Option.some_ne_none _)
    ⟨by decide, rfl, by decide, by decide⟩

end Sativa.Clients
