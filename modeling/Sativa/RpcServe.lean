import Sativa.RpcServer
import Sativa.StoreSpec

/-!
What a read callback does, as a function of the chunk and the store.

`serve` decodes a request, performs it on the store and composes the reply, or refuses with
the store unchanged. The callback is `serve`, with the reply written to the client in the
one case and the client dropped in the other: `readCallback_eq`.
-/

namespace Sativa.RpcServer

open Sativa Sativa.Rpc Sativa.Cbor Sativa.Store

/-- A request, as the handlers decode it. -/
inductive Request
  | query (key : Bytes) (flags : Flags)
  | update (key : Bytes) (value : PropertyValue)

def requestKey (pairs : List (Item × Item)) : Except RpcError Bytes := do
  let key ← extractKeyName pairs
  if key = [] then .error .noKeyName else .ok key

def decodeQuery (item : Item) : Except RpcError Request := do
  let pairs ← expectMap item
  let key ← requestKey pairs
  return .query key (← getCfgQueryFlags pairs)

def decodeUpdate (heap : ℕ → Bytes) (item : Item) : Except RpcError Request := do
  let pairs ← expectMap item
  let key ← requestKey pairs
  return .update key (← scanFields (ascii "value") (fun i item _ => updateValue heap i item)
    0 pairs .monostate)

/-- A header that is accepted leaves the payload to decode. -/
def checkHeader (pending : Bytes) : Except RpcError RpcHeader :=
  let hdr := RpcHeader.read pending
  if pending.length < headerSize then .error (.tooFewBytes pending.length)
  else if hdr.version ≠ kRpcVersionLatest then .error (.unsupportedVersion hdr.version)
  else if hdr.length.toNat < headerSize then .error (.lengthTooShort hdr.length)
  else if pending.length < hdr.length.toNat - headerSize then .error (.lengthTooLong hdr.length)
  else .ok hdr

/-- A chunk, decoded. -/
def decodeRequest (cbor : Libcbor) (env : CallbackEnv) (pending : Bytes) :
    Except RpcError (RpcHeader × Request) := do
  let hdr ← checkHeader pending
  let item ← loadItem cbor (payloadBytes env pending (hdr.length.toNat - headerSize))
  if hdr.endpoint = kConfigQuery then return (hdr, ← decodeQuery item)
  else if hdr.endpoint = kConfigUpdate then return (hdr, ← decodeUpdate env.heap item)
  else .error (.unknownEndpoint hdr.endpoint)

/-- The entries of the reply and the store after a request. -/
def Request.perform (sql : SqlEnv) (db : Db) :
    Request → Except RpcError (List (Item × Item) × Db)
  | .query key flags => match getKey db key with
    | .error e => .error (.store e)
    | .ok value => .ok (replyPairs key value flags, db)
  | .update key value => match (setKey sql key value).run db with
    | (.error e, _) => .error (.store e)
    | (.ok (), db') => .ok (replyPairs key value ⟨false, true, true⟩, db')

def replyPacket (req : RpcHeader) (payload : Bytes) : Bytes :=
  (replyHeader req (headerSize + payload.length)).bytes ++ payload

section Perform

variable {sql : SqlEnv} {db db' : Db} {key : Bytes} {flags : Flags} {value : PropertyValue}
  {e : StoreError}

lemma perform_query_error (h : getKey db key = .error e) :
    (Request.query key flags).perform sql db = .error (.store e) := by
  simp [Request.perform, h]

lemma perform_query_ok (h : getKey db key = .ok value) :
    (Request.query key flags).perform sql db = .ok (replyPairs key value flags, db) := by
  simp [Request.perform, h]

lemma perform_update_error (h : (setKey sql key value).run db = (.error e, db')) :
    (Request.update key value).perform sql db = .error (.store e) := by
  simp [Request.perform, h]

lemma perform_update_ok (h : (setKey sql key value).run db = (.ok (), db')) :
    (Request.update key value).perform sql db =
      .ok (replyPairs key value ⟨false, true, true⟩, db') := by
  simp [Request.perform, h]

lemma perform_query_store {pairs : List (Item × Item)}
    (h : (Request.query key flags).perform sql db = .ok (pairs, db')) : db' = db := by
  rcases hg : getKey db key with e | value
  · rw [perform_query_error hg] at h
    cases h
  · rw [perform_query_ok hg] at h
    cases h
    rfl

lemma perform_update_inv {pairs : List (Item × Item)}
    (h : (Request.update key value).perform sql db = .ok (pairs, db')) :
    (setKey sql key value).run db = (.ok (), db') ∧
      pairs = replyPairs key value ⟨false, true, true⟩ := by
  rcases hs : (setKey sql key value).run db with ⟨e | ⟨⟩, d⟩
  · rw [perform_update_error hs] at h
    cases h
  · rw [perform_update_ok hs] at h
    cases h
    exact ⟨rfl, rfl⟩

end Perform

/-- The reply to a chunk and the store after it. -/
def serve (cbor : Libcbor) (env : CallbackEnv) (db : Db) (pending : Bytes) :
    Except RpcError (Bytes × Db) := do
  let (hdr, request) ← decodeRequest cbor env pending
  let (pairs, db') ← request.perform env.sql db
  return (replyPacket hdr (cbor.serialize (.map pairs)), db')

/-- The server after a reply. -/
def Server.replied (s : Server) (ev : ℕ) (receiveBuf packet : Bytes) (store : Db) : Server where
  clients := Function.update s.clients ev (some ⟨receiveBuf, packet⟩)
  store := store
  written := s.written ++ [(ev, packet)]

/-! ### The requests that the library sends -/

/-- The map of `SerializeKeyRequest`. -/
def queryPairs (key : Bytes) : List (Item × Item) := [(.string (ascii "key"), .string key)]

/-- The map of `SerializeUpdateRequest`. -/
def updatePairs (key : Bytes) (value : Item) : List (Item × Item) :=
  [(.string (ascii "key"), .string key), (.string (ascii "value"), value)]

section Scan

variable {α : Type} {field text : Bytes} {f : ℕ → Item → α → Except RpcError α} {i : ℕ}
  {value : Item} {pairs : List (Item × Item)} {acc : α}

lemma scanFields_match : scanFields field f i ((.string field, value) :: pairs) acc =
    f i value acc >>= fun acc => scanFields field f (i + 1) pairs acc := by
  simp [scanFields, Item.text?]

lemma scanFields_skip (h : strncmpEq text field text.length = false) :
    scanFields field f i ((.string text, value) :: pairs) acc =
      scanFields field f (i + 1) pairs acc := by
  simp [scanFields, Item.text?, h]

end Scan

section Requests

variable {key : Bytes} {value : Item} {heap : ℕ → Bytes}

lemma extractKeyName_queryPairs : extractKeyName (queryPairs key) = .ok key := by
  rw [extractKeyName, if_neg (by simp [queryPairs]), queryPairs, scanFields_match]
  rfl

lemma extractKeyName_updatePairs : extractKeyName (updatePairs key value) = .ok key := by
  have hskip : strncmpEq (ascii "value") (ascii "key") (ascii "value").length = false := by decide
  rw [extractKeyName, if_neg (by simp [updatePairs]), updatePairs, scanFields_match]
  change scanFields (ascii "key") (fun _ value _ => keyNameValue value) 1
    [(.string (ascii "value"), value)] key = _
  rw [scanFields_skip hskip]
  rfl

lemma requestKey_of_ne {pairs : List (Item × Item)} (hkey : extractKeyName pairs = .ok key)
    (h : key ≠ []) : requestKey pairs = .ok key := by
  rw [requestKey, hkey]
  exact if_neg h

lemma requestKey_ok {pairs : List (Item × Item)} (h : requestKey pairs = .ok key) :
    extractKeyName pairs = .ok key ∧ key ≠ [] := by
  obtain ⟨k, hk, h⟩ := except_bind_ok.mp h
  split_ifs at h with hne
  cases h
  exact ⟨hk, hne⟩

lemma key_ne_of_request {α : Type} {pairs : List (Item × Item)} {f : Bytes → Except RpcError α}
    {a : α} (hkey : extractKeyName pairs = .ok key) (h : (requestKey pairs >>= f) = .ok a) :
    key ≠ [] := by
  obtain ⟨key', hkey', -⟩ := except_bind_ok.mp h
  obtain ⟨hname, hne⟩ := requestKey_ok hkey'
  cases hkey.symm.trans hname
  exact hne

lemma decodeQuery_queryPairs (h : key ≠ []) :
    decodeQuery (.map (queryPairs key)) = .ok (.query key .none) := by
  have hflags : getCfgQueryFlags (queryPairs key) = .ok .none := by
    have hskip : strncmpEq (ascii "key") (ascii "forceFloat") (ascii "key").length = false := by
      decide
    rw [getCfgQueryFlags, queryPairs]
    exact scanFields_skip hskip
  change (requestKey (queryPairs key) >>= _) = _
  rw [requestKey_of_ne extractKeyName_queryPairs h]
  change (getCfgQueryFlags (queryPairs key) >>= fun flags => .ok (Request.query key flags)) = _
  rw [hflags]
  rfl

lemma decodeUpdate_updatePairs (h : key ≠ []) : decodeUpdate heap (.map (updatePairs key value)) =
    Request.update key <$> updateValue heap 1 value := by
  have hvalue : scanFields (ascii "value") (fun i item _ => updateValue heap i item) 0
      (updatePairs key value) PropertyValue.monostate = updateValue heap 1 value := by
    have hskip : strncmpEq (ascii "key") (ascii "value") (ascii "key").length = false := by decide
    rw [updatePairs, scanFields_skip hskip, scanFields_match]
    rcases updateValue heap 1 value with e | v <;> rfl
  change (requestKey (updatePairs key value) >>= _) = _
  rw [requestKey_of_ne extractKeyName_updatePairs h]
  change (scanFields (ascii "value") (fun i item _ => updateValue heap i item) 0
    (updatePairs key value) PropertyValue.monostate >>= _) = _
  rw [hvalue]
  rcases updateValue heap 1 value with e | v <;> rfl

lemma decodeQuery_inv {request : Request} (h : decodeQuery (.map (queryPairs key)) = .ok request) :
    key ≠ [] ∧ request = .query key .none := by
  have hne : key ≠ [] := by
    change (requestKey (queryPairs key) >>= _) = _ at h
    exact key_ne_of_request extractKeyName_queryPairs h
  rw [decodeQuery_queryPairs hne] at h
  exact ⟨hne, (Except.ok.inj h).symm⟩

lemma decodeUpdate_inv {request : Request}
    (h : decodeUpdate heap (.map (updatePairs key value)) = .ok request) :
    key ≠ [] ∧ ∃ v, updateValue heap 1 value = .ok v ∧ request = .update key v := by
  have hne : key ≠ [] := by
    change (requestKey (updatePairs key value) >>= _) = _ at h
    exact key_ne_of_request extractKeyName_updatePairs h
  rw [decodeUpdate_updatePairs hne, except_map_ok] at h
  obtain ⟨v, hv, h⟩ := h
  exact ⟨hne, v, hv, h.symm⟩

end Requests

section Callback

variable {cbor : Libcbor} {env : CallbackEnv} {s : Server} {ev : ℕ} {client : Client}

lemma run_clientAt (hc : s.clients ev = some client) :
    (clientAt ev).run s = (.ok client, s) := by simp [clientAt, hc]

lemma run_replyTo_send (hc : s.clients ev = some client) (req : RpcHeader) (payload : Bytes) :
    (replyTo env ev req payload).run s = (send env ev (replyPacket req payload)).run
      (s.setClient ev { client with transmitBuf := replyPacket req payload }) := by
  unfold replyTo
  rw [Prog.run_bind_of_ok (run_clientAt hc)]
  simp only [splice_header_payload]
  exact Prog.run_bind_of_ok (Prog.run_modify _)

lemma run_replyTo (hc : s.clients ev = some client) (hw : env.writeOk = true) (req : RpcHeader)
    (payload : Bytes) : (replyTo env ev req payload).run s =
      (.ok (), s.replied ev client.receiveBuf (replyPacket req payload) s.store) := by
  rw [run_replyTo_send hc, send, hw]
  rfl

lemma run_onStore {α : Type} (x : SqlProg α) :
    (onStore x).run s =
      ((x.run s.store).1.mapError .store, { s with store := (x.run s.store).2 }) :=
  rfl

/-- The end of a handler: what follows the decoding. -/
def answer (cbor : Libcbor) (env : CallbackEnv) (ev : ℕ) (hdr : RpcHeader) :
    Request → ServerProg Unit
  | .query key flags => do
    let result ← onStore (.reads fun db => getKey db key)
    sendKeyValue cbor env ev hdr key result flags
  | .update key value => do
    onStore (setKey env.sql key value)
    sendKeyValue cbor env ev hdr key value ⟨false, true, true⟩

lemma doCfgQuery_eq (packet : Bytes) (item : Item) : doCfgQuery cbor env packet item ev =
    .ofExcept (decodeQuery item) >>= answer cbor env ev (RpcHeader.read packet) := by
  unfold doCfgQuery decodeQuery requestKey
  simp only [Prog.ofExcept_bind, Prog.ofExcept_guard, Prog.ofExcept_ok_eq, bind_assoc,
    pure_bind]
  rfl

lemma doCfgUpdate_eq (packet : Bytes) (item : Item) : doCfgUpdate cbor env packet item ev =
    .ofExcept (decodeUpdate env.heap item) >>= answer cbor env ev (RpcHeader.read packet) := by
  unfold doCfgUpdate decodeUpdate requestKey
  simp only [Prog.ofExcept_bind, Prog.ofExcept_guard, Prog.ofExcept_ok_eq, bind_assoc,
    pure_bind]
  rfl

/-- Performing a request on the store and replying, or refusing it. -/
lemma run_answer (hdr : RpcHeader) (request : Request) :
    (answer cbor env ev hdr request).run s = match request.perform env.sql s.store with
      | .error e => (.error e, s)
      | .ok (pairs, store) =>
        (replyTo env ev hdr (cbor.serialize (.map pairs))).run { s with store } := by
  cases request with
  | query key flags =>
    have hrun : (onStore (.reads fun db => getKey db key)).run s =
        ((getKey s.store key).mapError .store, s) := rfl
    rcases hg : getKey s.store key with e | value
    · rw [hg] at hrun
      rw [perform_query_error hg]
      exact Prog.run_bind_of_error hrun
    · rw [hg] at hrun
      rw [perform_query_ok hg]
      exact Prog.run_bind_of_ok hrun
  | update key value =>
    have hrun := run_onStore (s := s) (setKey env.sql key value)
    rcases hs : (setKey env.sql key value).run s.store with ⟨e | ⟨⟩, store⟩
    · rw [hs, setKey_error hs] at hrun
      rw [perform_update_error hs]
      exact Prog.run_bind_of_error hrun
    · rw [hs] at hrun
      rw [perform_update_ok hs]
      exact Prog.run_bind_of_ok hrun

lemma handleClientRead_eq (pending : Bytes) : handleClientRead cbor env ev pending = (do
    let client ← clientAt ev
    .modify fun s => s.setClient ev { client with receiveBuf := pending }
    let r ← .ofExcept (decodeRequest cbor env pending)
    answer cbor env ev r.1 r.2) := by
  unfold handleClientRead decodeRequest checkHeader
  simp only [Prog.ofExcept_bind, Prog.ofExcept_guard, Prog.ofExcept_ok_eq, bind_assoc, pure_bind,
    doCfgQuery_eq, doCfgUpdate_eq]
  refine bind_congr fun client => bind_congr fun _ => bind_congr fun _ => bind_congr fun _ =>
    bind_congr fun _ => bind_congr fun _ => bind_congr fun item => ?_
  by_cases hq : (RpcHeader.read pending).endpoint = kConfigQuery
  · rw [if_pos hq, if_pos hq, Prog.ofExcept_bind, bind_assoc]
    rfl
  · rw [if_neg hq, if_neg hq]
    by_cases hu : (RpcHeader.read pending).endpoint = kConfigUpdate
    · rw [if_pos hu, if_pos hu, Prog.ofExcept_bind, bind_assoc]
      rfl
    · rw [if_neg hu, if_neg hu]
      rfl

lemma run_handleClientRead (hc : s.clients ev = some client) (pending : Bytes) :
    (handleClientRead cbor env ev pending).run s =
      match decodeRequest cbor env pending with
      | .error e => (.error e, s.setClient ev { client with receiveBuf := pending })
      | .ok (hdr, request) => (answer cbor env ev hdr request).run
          (s.setClient ev { client with receiveBuf := pending }) := by
  rw [handleClientRead_eq, Prog.run_bind_of_ok (run_clientAt hc),
    Prog.run_bind_of_ok (Prog.run_modify _), Prog.run_ofExcept_bind]
  rcases decodeRequest cbor env pending with e | ⟨hdr, request⟩ <;> rfl

lemma erase_setClient (s : Server) (ev : ℕ) (client : Client) :
    (s.setClient ev client).erase ev = s.erase ev := by
  simp [Server.setClient, Server.erase]

/-- **The read callback is `serve`**, with the reply written or the client dropped. -/
theorem readCallback_eq (hc : s.clients ev = some client) (hw : env.writeOk = true)
    (pending : Bytes) : readCallback cbor env s ev pending =
      match serve cbor env s.store pending with
      | .error e => (.error e, s.erase ev)
      | .ok (packet, store) => (.ok (), s.replied ev pending packet store) := by
  -- the bytes are put into the receive buffer first, a refused client is erased together with it
  set s₁ := s.setClient ev { client with receiveBuf := pending } with hs₁
  have hc₁ : s₁.clients ev = some { client with receiveBuf := pending } := by
    simp [hs₁, Server.setClient]
  unfold readCallback serve
  rw [run_handleClientRead hc]
  rcases decodeRequest cbor env pending with e | ⟨hdr, request⟩
  · exact congrArg _ (erase_setClient _ _ _)
  · dsimp only
    rw [run_answer]
    have hstore : s₁.store = s.store := rfl
    rw [← hs₁, hstore]
    -- serve runs the request and serialises its reply in one go, the source in two steps
    change _ = match (request.perform env.sql s.store >>= fun r =>
      Except.ok (replyPacket hdr (cbor.serialize (.map r.1)), r.2)) with
      | .error e => _
      | .ok (packet, store) => _
    rcases request.perform env.sql s.store with e | ⟨pairs, store⟩
    · exact congrArg _ (erase_setClient _ _ _)
    · dsimp only
      rw [run_replyTo (s := { s₁ with store }) hc₁ hw]
      simp [Server.replied, hs₁, Server.setClient]
      rfl

end Callback

/-! ### The maps of replies -/

section Replies

variable {key : Bytes} {value : PropertyValue} {single : Bool} {item : Item}

lemma replyPairs_query (hv : valueItem ⟨single, false, false⟩ value = some item) :
    replyPairs key value ⟨single, false, false⟩ =
      [(.string (ascii "key"), .string (cstr key)), (.string (ascii "value"), item),
        (.string (ascii "found"), ctrlTrue)] := by
  have hm : value.isMonostate = false := by
    refine PropertyValue.isMonostate_eq_false ?_
    rintro rfl
    cases hv
  simp [replyPairs, mapAdd, hm, hv, buildBool]

lemma replyPairs_query_absent : replyPairs key .monostate ⟨single, false, false⟩ =
    [(.string (ascii "key"), .string (cstr key)), (.string (ascii "found"), ctrlFalse)] := by
  simp [replyPairs, mapAdd, PropertyValue.isMonostate, valueItem, buildBool]

lemma replyPairs_updated (hv : value ≠ .monostate) : replyPairs key value ⟨false, true, true⟩ =
    [(.string (ascii "key"), .string (cstr key)), (.string (ascii "updated"), ctrlTrue)] := by
  simp [replyPairs, mapAdd, PropertyValue.isMonostate_eq_false hv, buildBool]

lemma replyPairs_not_updated : replyPairs key .monostate ⟨false, true, true⟩ =
    [(.string (ascii "key"), .string (cstr key))] := by
  simp [replyPairs, mapAdd, PropertyValue.isMonostate]

end Replies

end Sativa.RpcServer
