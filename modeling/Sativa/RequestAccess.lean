import Sativa.CborAccess
import Sativa.RequestFields
import Sativa.RpcIsolation
import Sativa.Attribution

/-!
The handlers of requests over libcbor's accessors.

What a request holds is asked for its type before it is read, except in one place: a simple value
that comes as the value of an update is read as a bool, and `null` is not one.
-/

namespace Sativa.RpcServer.Checked

open Sativa Sativa.Rpc Sativa.Cbor Sativa.Store

/-- Code that reads a request. -/
abbrev Reading := Prog (Stop RpcError) Unit

section Definitions

variable {α : Type} (cbor : Libcbor) (env : CallbackEnv)

/-- The loops over the keys of a map. -/
def scanKeys (field : Bytes) (f : ℕ → Item → α → Reading α) :
    ℕ → List (Item × Item) → α → Reading α
  | _, [], acc => pure acc
  | i, (key, value) :: keys, acc => do
    .throwIf (!(← cborIsaString.on (some key))) (.thrown .mapKeyType)
    let keyStr ← cborStringHandle.on (some key)
    let keyStrLen ← cborStringLength.on (some key)
    if strncmpEq keyStr field keyStrLen then do
      let acc ← f i value acc
      scanKeys field f (i + 1) keys acc
    else scanKeys field f (i + 1) keys acc

/-- `cbor_string_is_definite`, `cbor_bytestring_is_definite`. -/
def cborStringIsDefinite : Accessor Item Bool where
  accepts := cborIsaString.read
  read item := match item with
    | .string _ => true
    | _ => false

def cborBytestringIsDefinite : Accessor Item Bool where
  accepts := cborIsaBytestring.read
  read item := match item with
    | .bytestring _ => true
    | _ => false

/-- `cbor_float_ctrl_is_ctrl`. -/
def cborFloatCtrlIsCtrl : Accessor Item Bool where
  accepts := cborIsaFloatCtrl.read
  read item := item.floatWidth? == some .float0

/-- `cbor_float_get_float`, of a float of any width. -/
def cborFloatGetFloat : Accessor Item Double where
  accepts item := cborIsaFloatCtrl.read item && !cborFloatCtrlIsCtrl.read item
  read item := match item with
    | .float2 b => Ieee.ofHalf b
    | .float4 b => Ieee.ofSingle b
    | .float8 b => b
    | _ => 0

/-- The value of `key`. -/
def keyNameValue (value : Item) : Reading Bytes := do
  .throwIf (!(← cborIsaString.on (some value))) (.thrown .keyType)
  .throwIf (!(← cborStringIsDefinite.on (some value))) (.thrown .indefiniteString)
  let handle ← cborStringHandle.on (some value)
  let valueStrLen ← cborStringLength.on (some value)
  return handle.take valueStrLen

def extractKeyName (item : Item) : Reading Bytes := do
  let numKeys ← cborMapSize.on (some item)
  .throwIf (numKeys = 0) (.thrown .mapHasNoKeys)
  let keys ← cborMapHandle.on (some item)
  scanKeys (ascii "key") (fun _ value _ => keyNameValue value) 0 (keys.take numKeys) []

def flagValue (value : Item) (flags : Flags) : Reading Flags := do
  let isBool ← (cborIsaFloatCtrl.on (some value)).both (cborIsBool.on (some value))
  .throwIf (!isBool) (.thrown .forceFloatType)
  let b ← cborGetBool.on (some value)
  return if b then { flags with singlePrecisionFloat := true } else flags

def getCfgQueryFlags (item : Item) : Reading Flags := do
  let keys ← cborMapHandle.on (some item)
  let size ← cborMapSize.on (some item)
  scanKeys (ascii "forceFloat") (fun _ value flags => flagValue value flags) 0 (keys.take size)
    .none

/-- The value of an update. A text is read up to its first NUL, which may be behind its end. -/
def updateValue (heap : ℕ → Bytes) (i : ℕ) (value : Item) : Reading PropertyValue := do
  if ← cborIsaString.on (some value) then
    .throwIf (!(← cborStringIsDefinite.on (some value))) (.thrown .indefiniteString)
    let handle ← cborStringHandle.on (some value)
    return .string (cstr (handle ++ heap i))
  else if ← cborIsaBytestring.on (some value) then
    .throwIf (!(← cborBytestringIsDefinite.on (some value))) (.thrown .indefiniteBytestring)
    let blobNumBytes ← cborBytestringLength.on (some value)
    let blobData ← cborBytestringHandle.on (some value)
    return .blob (blobData.take blobNumBytes)
  else if ← cborIsaUint.on (some value) then
    let width ← cborIntGetWidth.on (some value)
    let temp ← (cborGetUint width).on (some value)
    return .uint64 temp
  else if ← cborIsaFloatCtrl.on (some value) then
    if ← cborFloatCtrlIsCtrl.on (some value) then
      return .bool (← cborGetBool.on (some value))
    else return .double (← cborFloatGetFloat.on (some value))
  else .fail (.thrown .valueType)

/-- `doCfgQuery`, up to the query. -/
def doCfgQuery (item : Item) : Reading Request := do
  .throwIf (!(← cborIsaMap.on (some item))) (.thrown .expectedMap)
  let keyName ← extractKeyName item
  .throwIf (keyName = []) (.thrown .noKeyName)
  return .query keyName (← getCfgQueryFlags item)

/-- `doCfgUpdate`, up to the update. -/
def doCfgUpdate (item : Item) : Reading Request := do
  .throwIf (!(← cborIsaMap.on (some item))) (.thrown .expectedMap)
  let keyName ← extractKeyName item
  .throwIf (keyName = []) (.thrown .noKeyName)
  let numKeys ← cborMapSize.on (some item)
  let keys ← cborMapHandle.on (some item)
  let value ← scanKeys (ascii "value") (fun i value _ => updateValue env.heap i value) 0
    (keys.take numKeys) .monostate
  return .update keyName value

/-- `handleClientRead`, up to the point where the request is decoded. -/
def decodeRequest (pending : Bytes) : Reading (RpcHeader × Request) := do
  let hdr ← .ofExcept ((checkHeader pending).mapError .thrown)
  let item ← .ofExcept
    ((loadItem cbor (payloadBytes env pending (hdr.length.toNat - headerSize))).mapError .thrown)
  if hdr.endpoint = kConfigQuery then return (hdr, ← doCfgQuery item)
  else if hdr.endpoint = kConfigUpdate then return (hdr, ← doCfgUpdate env item)
  else .fail (.thrown (.unknownEndpoint hdr.endpoint))

end Definitions

/-! ### What the accessors are applied to -/

section Runs

variable {α : Type} {cbor : Libcbor} {env : CallbackEnv} {item value : Item}
  {keys : List (Item × Item)}

/-- Code that does not misuse anything. -/
abbrev lift (x : Except RpcError α) : Reading α := .ofExcept (x.mapError .thrown)

lemma lift_bind {β : Type} (x : Except RpcError α) (f : α → Except RpcError β) :
    lift (x >>= f) = lift x >>= fun a => lift (f a) := by
  cases x <;> rfl

lemma keyNameValue_eq : keyNameValue value = lift (RpcServer.keyNameValue value) := by
  cases value with
  | string b =>
    have htake : b.take b.length = b := List.take_length
    change (pure (b.take b.length) : Reading Bytes) = _
    rw [htake]
    rfl
  | _ => rfl

lemma flagValue_misuse {flags : Flags} (h : value.isFloat = true) :
    flagValue value flags = .fail .misuse := by
  rw [flagValue, both_isBool, if_pos h]
  rfl

lemma flagValue_eq {flags : Flags} (h : ¬ value.isFloat = true) :
    flagValue value flags = lift (forceFloatValue value flags) := by
  rw [flagValue, both_isBool, if_neg h, pure_bind, forceFloatValue]
  rcases hbool : value.bool? with _ | b
  · rw [Prog.throwIf_pos (by simp)]
    rfl
  · rw [Prog.throwIf_neg (by simp), pure_bind, on_cborGetBool hbool]
    rfl

/-- A simple value that is no bool. -/
def NotBool (value : Item) : Prop := ∃ v, value = .ctrl v ∧ value.bool? = none

lemma updateValue_eq {heap : ℕ → Bytes} {i : ℕ} (h : ¬ NotBool value) :
    updateValue heap i value = lift (RpcServer.updateValue heap i value) := by
  cases value with
  | bytestring b =>
    have htake : b.take b.length = b := List.take_length
    change (pure (.blob (b.take b.length)) : Reading PropertyValue) = _
    rw [htake]
    rfl
  | uint w v => cases w <;> rfl
  | ctrl v =>
    rcases hbool : (Item.ctrl v).bool? with _ | b
    · exact absurd ⟨v, rfl, hbool⟩ h
    · have hv : (v == 21) = b := by
        change (if v = 20 then some false else if v = 21 then some true else none) = some b at hbool
        split_ifs at hbool with h20 h21
        · cases hbool
          subst h20
          decide
        · cases hbool
          subst h21
          decide
      change (PropertyValue.bool <$> cborGetBool.on (some (Item.ctrl v)) : Reading _) = _
      rw [on_cborGetBool hbool, RpcServer.updateValue, hv]
      rfl
  | _ => rfl

lemma updateValue_misuse {heap : ℕ → Bytes} {i : ℕ} (h : NotBool value) :
    updateValue heap i value = .fail .misuse := by
  obtain ⟨v, rfl, hbool⟩ := h
  have hget : (cborGetBool.on (some (Item.ctrl v)) : Reading Bool) = .fail .misuse := by
    refine if_neg ?_
    change ¬ (Item.ctrl v).bool?.isSome = true
    simp [hbool]
  change (PropertyValue.bool <$> cborGetBool.on (some (Item.ctrl v)) : Reading _) = _
  rw [hget]
  rfl

/-- The loop for a field gets to an entry that is taken for it and has a bad value. -/
def Reaches (field : Bytes) (g : ℕ → Item → α → Except RpcError α) (bad : Item → Prop) (i : ℕ)
    (keys : List (Item × Item)) (acc : α) : Prop :=
  ∃ before key keyStr value after acc', keys = before ++ (key, value) :: after ∧
    scanFields field g i before acc = .ok acc' ∧ key.text? = some keyStr ∧
      strncmpEq keyStr field keyStr.length = true ∧ bad value

section Loop

variable {field : Bytes} {f : ℕ → Item → α → Reading α} {g : ℕ → Item → α → Except RpcError α}
  {bad : Item → Prop} {i : ℕ} {acc : α} {key : Item} {keyStr : Bytes}

lemma reaches_nil : ¬ Reaches field g bad i [] acc := by
  rintro ⟨before, key, keyStr, value, after, acc', hkeys, -⟩
  cases before <;> cases hkeys

lemma reaches_no_text (h : key.text? = none) :
    ¬ Reaches field g bad i ((key, value) :: keys) acc := by
  rintro ⟨before, key', keyStr, value', after, acc', hkeys, hscan, htext, -⟩
  cases before with
  | nil =>
    cases hkeys
    cases h.symm.trans htext
  | cons pair before =>
    cases hkeys
    rw [scanFields, h] at hscan
    cases hscan

lemma reaches_skip (htext : key.text? = some keyStr)
    (h : ¬ strncmpEq keyStr field keyStr.length = true) :
    Reaches field g bad i ((key, value) :: keys) acc ↔ Reaches field g bad (i + 1) keys acc := by
  have hscan : ∀ before, scanFields field g i ((key, value) :: before) acc =
      scanFields field g (i + 1) before acc := by
    intro before
    rw [scanFields, htext]
    exact if_neg h
  constructor
  · rintro ⟨before, key', keyStr', value', after, acc', hkeys, hok, htext', htaken, hbad⟩
    cases before with
    | nil =>
      cases hkeys
      cases htext.symm.trans htext'
      exact absurd htaken h
    | cons pair before =>
      cases hkeys
      rw [hscan] at hok
      exact ⟨before, key', keyStr', value', after, acc', rfl, hok, htext', htaken, hbad⟩
  · rintro ⟨before, key', keyStr', value', after, acc', rfl, hok, htext', htaken, hbad⟩
    exact ⟨(key, value) :: before, key', keyStr', value', after, acc', rfl, (hscan _).trans hok,
      htext', htaken, hbad⟩

lemma reaches_taken (htext : key.text? = some keyStr)
    (h : strncmpEq keyStr field keyStr.length = true) (hgood : ¬ bad value) :
    Reaches field g bad i ((key, value) :: keys) acc ↔
      ∃ v, g i value acc = .ok v ∧ Reaches field g bad (i + 1) keys v := by
  have hscan : ∀ before, scanFields field g i ((key, value) :: before) acc =
      g i value acc >>= scanFields field g (i + 1) before := by
    intro before
    rw [scanFields, htext]
    exact if_pos h
  constructor
  · rintro ⟨before, key', keyStr', value', after, acc', hkeys, hok, htext', htaken, hbad⟩
    cases before with
    | nil =>
      cases hkeys
      exact absurd hbad hgood
    | cons pair before =>
      cases hkeys
      rw [hscan] at hok
      obtain ⟨v, hv, hok⟩ := except_bind_ok.mp hok
      exact ⟨v, hv, before, key', keyStr', value', after, acc', rfl, hok, htext', htaken, hbad⟩
  · rintro ⟨v, hv, before, key', keyStr', value', after, acc', rfl, hok, htext', htaken, hbad⟩
    exact ⟨(key, value) :: before, key', keyStr', value', after, acc', rfl,
      (hscan _).trans (except_bind_ok.mpr ⟨v, hv, hok⟩), htext', htaken, hbad⟩

/-- A loop gets to a value that its handler misuses, or it does what it does on items. -/
lemma scanKeys_cases (hbad : ∀ i value acc, bad value → f i value acc = .fail .misuse)
    (hgood : ∀ i value acc, ¬ bad value → f i value acc = lift (g i value acc)) :
    Reaches field g bad i keys acc ∧ scanKeys field f i keys acc = .fail .misuse ∨
    ¬ Reaches field g bad i keys acc ∧
      scanKeys field f i keys acc = lift (scanFields field g i keys acc) := by
  induction keys generalizing i acc with
  | nil => exact .inr ⟨reaches_nil, rfl⟩
  | cons pair keys ih =>
    obtain ⟨key, value⟩ := pair
    rcases htext : key.text? with _ | keyStr
    · refine .inr ⟨reaches_no_text htext, ?_⟩
      rw [scanKeys, scanFields, on_cborIsaString, pure_bind, htext, Prog.throwIf_pos (by simp)]
      rfl
    have hscan : scanKeys field f i ((key, value) :: keys) acc =
        if strncmpEq keyStr field keyStr.length then
          f i value acc >>= scanKeys field f (i + 1) keys
        else scanKeys field f (i + 1) keys acc := by
      rw [scanKeys, on_cborIsaString, pure_bind, htext, Prog.throwIf_neg (by simp),
        pure_bind, on_cborStringHandle htext, pure_bind, on_cborStringLength htext, pure_bind]
    have hfield : scanFields field g i ((key, value) :: keys) acc =
        if strncmpEq keyStr field keyStr.length then
          g i value acc >>= scanFields field g (i + 1) keys
        else scanFields field g (i + 1) keys acc := by
      rw [scanFields, htext]
    rw [hscan, hfield]
    -- an entry that is taken is handed on, any other is passed over
    by_cases htaken : strncmpEq keyStr field keyStr.length = true
    · rw [if_pos htaken, if_pos htaken]
      by_cases hvalue : bad value
      · refine .inl ⟨⟨[], key, keyStr, value, keys, acc, rfl, rfl, htext, htaken, hvalue⟩, ?_⟩
        rw [hbad _ _ _ hvalue]
        rfl
      · rw [reaches_taken htext htaken hvalue, hgood _ _ _ hvalue]
        rcases hv : g i value acc with e | v
        · refine .inr ⟨?_, rfl⟩
          rintro ⟨v, h, -⟩
          cases h
        · rcases @ih (i + 1) v with ⟨hreads, heq⟩ | ⟨hreads, heq⟩
          · exact .inl ⟨⟨v, rfl, hreads⟩, heq⟩
          · refine .inr ⟨?_, heq⟩
            rintro ⟨v', h, hreads'⟩
            cases h
            exact hreads hreads'
    · rw [if_neg htaken, if_neg htaken, reaches_skip htext htaken]
      exact ih

lemma scanKeys_eq (h : ∀ i value acc, f i value acc = lift (g i value acc)) :
    scanKeys field f i keys acc = lift (scanFields field g i keys acc) := by
  rcases @scanKeys_cases α keys field f g (fun _ => False) i acc (fun _ _ _ => False.elim)
    fun i value acc _ => h i value acc with ⟨⟨_, _, _, _, _, _, -, -, -, -, h⟩, -⟩ | ⟨-, heq⟩
  · exact h.elim
  · exact heq

end Loop

/-- The loop of `doCfgUpdate` gets to a simple value that is no bool. -/
abbrev ReadsNotBool (heap : ℕ → Bytes) (i : ℕ) (keys : List (Item × Item)) (acc : PropertyValue) :
    Prop :=
  Reaches (ascii "value") (fun i value (_ : PropertyValue) => RpcServer.updateValue heap i value)
    NotBool i keys acc

/-- The loop of `getCfgQueryFlags` gets to a float. -/
abbrev ReadsFloat (i : ℕ) (keys : List (Item × Item)) (acc : Flags) : Prop :=
  Reaches (ascii "forceFloat") (fun _ value flags => forceFloatValue value flags)
    (·.isFloat = true) i keys acc

/-! ### Requests -/

lemma extractKeyName_map : extractKeyName (.map keys) = lift (RpcServer.extractKeyName keys) := by
  have hscan : extractKeyName (.map keys) =
      (Prog.throwIf (keys.length = 0) (.thrown .mapHasNoKeys) >>= fun _ =>
        scanKeys (ascii "key") (fun _ value _ => keyNameValue value) 0 (keys.take keys.length)
          []) := rfl
  rw [hscan, List.take_length, RpcServer.extractKeyName]
  by_cases h : keys = []
  · rw [if_pos h, Prog.throwIf_pos (by simp [h])]
    rfl
  · rw [if_neg h, Prog.throwIf_neg (by simpa using h), pure_bind]
    exact scanKeys_eq fun i value acc => keyNameValue_eq

lemma getCfgQueryFlags_map :
    ReadsFloat 0 keys .none ∧ getCfgQueryFlags (.map keys) = .fail .misuse ∨
    ¬ ReadsFloat 0 keys .none ∧
      getCfgQueryFlags (.map keys) = lift (RpcServer.getCfgQueryFlags keys) := by
  have hscan : getCfgQueryFlags (.map keys) = scanKeys (ascii "forceFloat")
      (fun _ value flags => flagValue value flags) 0 (keys.take keys.length) .none := rfl
  rw [hscan, List.take_length]
  exact scanKeys_cases (fun _ _ _ => flagValue_misuse) fun _ _ _ => flagValue_eq

lemma requestKey_bind {f : Bytes → Reading α} :
    (extractKeyName (.map keys) >>= fun keyName =>
      Prog.throwIf (keyName = []) (.thrown .noKeyName) >>= fun _ => f keyName) =
    lift (requestKey keys) >>= f := by
  rw [extractKeyName_map, requestKey, lift_bind, bind_assoc]
  refine bind_congr fun keyName => ?_
  by_cases h : keyName = []
  · rw [Prog.throwIf_pos h, if_pos h]
    rfl
  · rw [Prog.throwIf_neg h, if_neg h]
    rfl

/-- The query has a name, and a float is asked whether it is a bool. -/
def TakesFloat (item : Item) : Prop :=
  ∃ keys keyName, item = .map keys ∧ requestKey keys = .ok keyName ∧ ReadsFloat 0 keys .none

lemma doCfgQuery_cases :
    TakesFloat item ∧ doCfgQuery item = .fail .misuse ∨
    ¬ TakesFloat item ∧ doCfgQuery item = lift (decodeQuery item) := by
  cases item with
  | map keys =>
    have hquery : doCfgQuery (.map keys) = (extractKeyName (.map keys) >>= fun keyName =>
        Prog.throwIf (keyName = []) (.thrown .noKeyName) >>= fun _ =>
          Request.query keyName <$> getCfgQueryFlags (.map keys)) := rfl
    have hdecode : decodeQuery (.map keys) = (requestKey keys >>= fun keyName =>
        Request.query keyName <$> RpcServer.getCfgQueryFlags keys) := rfl
    rw [hquery, requestKey_bind, hdecode, lift_bind]
    -- the flags are looked for if there is a name
    rcases hkey : requestKey keys with e | keyName
    · refine .inr ⟨?_, rfl⟩
      rintro ⟨keys', keyName, hmap, hok, -⟩
      cases hmap
      cases hkey.symm.trans hok
    · rcases @getCfgQueryFlags_map keys with ⟨hreads, heq⟩ | ⟨hreads, heq⟩
      · refine .inl ⟨⟨keys, keyName, rfl, hkey, hreads⟩, ?_⟩
        rw [heq]
        rfl
      · refine .inr ⟨?_, ?_⟩
        · rintro ⟨keys', keyName, hmap, -, h⟩
          cases hmap
          exact hreads h
        · rw [heq]
          rcases RpcServer.getCfgQueryFlags keys with e | flags <;> rfl
  | _ => exact .inr ⟨fun ⟨_, _, h, _⟩ => (by cases h), rfl⟩

/-- The update has a name, and a simple value that is no bool is read for its value. -/
def TakesNotBool (heap : ℕ → Bytes) (item : Item) : Prop :=
  ∃ keys keyName, item = .map keys ∧ requestKey keys = .ok keyName ∧
    ReadsNotBool heap 0 keys .monostate

lemma doCfgUpdate_cases :
    TakesNotBool env.heap item ∧ doCfgUpdate env item = .fail .misuse ∨
    ¬ TakesNotBool env.heap item ∧ doCfgUpdate env item = lift (decodeUpdate env.heap item) := by
  cases item with
  | map keys =>
    -- both readings are the name of the key followed by the same walk over the map
    have hscan : doCfgUpdate env (.map keys) = (extractKeyName (.map keys) >>= fun keyName =>
        Prog.throwIf (keyName = []) (.thrown .noKeyName) >>= fun _ =>
          Request.update keyName <$> scanKeys (ascii "value") (fun i value _ =>
            updateValue env.heap i value) 0 (keys.take keys.length) .monostate) := rfl
    have hdecode : decodeUpdate env.heap (.map keys) = (requestKey keys >>= fun keyName =>
        Request.update keyName <$> scanFields (ascii "value") (fun i value _ =>
          RpcServer.updateValue env.heap i value) 0 keys .monostate) := rfl
    rw [hscan, requestKey_bind, List.take_length, hdecode, lift_bind]
    rcases hkey : requestKey keys with e | keyName
    -- no name: both end with its error before the value is looked for
    · refine .inr ⟨?_, rfl⟩
      rintro ⟨keys', keyName, hmap, hok, -⟩
      cases hmap
      cases hkey.symm.trans hok
    · have hloop : ReadsNotBool env.heap 0 keys .monostate ∧ _ ∨ _ :=
        scanKeys_cases (fun _ _ _ => updateValue_misuse) fun _ _ _ => updateValue_eq
      rcases hloop with ⟨hreads, heq⟩ | ⟨hreads, heq⟩
      · refine .inl ⟨⟨keys, keyName, rfl, hkey, hreads⟩, ?_⟩
        rw [heq]
        rfl
      · refine .inr ⟨?_, ?_⟩
        · rintro ⟨keys', keyName, hmap, -, h⟩
          cases hmap
          exact hreads h
        · rw [heq]
          rcases scanFields (ascii "value")
            (fun i value _ => RpcServer.updateValue env.heap i value) 0 keys .monostate with e | v
          all_goals rfl
  | _ => exact .inr ⟨fun ⟨_, _, h, _⟩ => (by cases h), rfl⟩

/-- The chunk is a query that asks whether a float is a bool, or an update that takes a simple value
that is none. -/
def Misreads (cbor : Libcbor) (env : CallbackEnv) (pending : Bytes) : Prop :=
  ∃ hdr item, checkHeader pending = .ok hdr ∧
    loadItem cbor (payloadBytes env pending (hdr.length.toNat - headerSize)) = .ok item ∧
      (hdr.endpoint = kConfigQuery ∧ TakesFloat item ∨
        hdr.endpoint = kConfigUpdate ∧ TakesNotBool env.heap item)

/-- Either handler, by the endpoint. -/
lemma endpoint_cases {hdr : RpcHeader} {x : Reading (RpcHeader × Request)}
    (hx : x = if hdr.endpoint = kConfigQuery then Prod.mk hdr <$> doCfgQuery item
      else if hdr.endpoint = kConfigUpdate then Prod.mk hdr <$> doCfgUpdate env item
      else .fail (.thrown (.unknownEndpoint hdr.endpoint))) :
    (hdr.endpoint = kConfigQuery ∧ TakesFloat item ∨
      hdr.endpoint = kConfigUpdate ∧ TakesNotBool env.heap item) ∧ x = .fail .misuse ∨
    ¬ (hdr.endpoint = kConfigQuery ∧ TakesFloat item ∨
      hdr.endpoint = kConfigUpdate ∧ TakesNotBool env.heap item) ∧
      x = lift (if hdr.endpoint = kConfigQuery then Prod.mk hdr <$> decodeQuery item
        else if hdr.endpoint = kConfigUpdate then Prod.mk hdr <$> decodeUpdate env.heap item
        else .error (.unknownEndpoint hdr.endpoint)) := by
  subst hx
  by_cases hquery : hdr.endpoint = kConfigQuery
  · have hupdate : hdr.endpoint ≠ kConfigUpdate := fun h => by cases hquery.symm.trans h
    rw [if_pos hquery, if_pos hquery]
    rcases @doCfgQuery_cases item with ⟨htakes, heq⟩ | ⟨htakes, heq⟩
    · refine .inl ⟨.inl ⟨hquery, htakes⟩, ?_⟩
      rw [heq]
      rfl
    · refine .inr ⟨fun h => h.elim (fun h => htakes h.2) fun h => hupdate h.1, ?_⟩
      rw [heq]
      rcases decodeQuery item with e | request <;> rfl
  rw [if_neg hquery, if_neg hquery]
  by_cases hupdate : hdr.endpoint = kConfigUpdate
  · rw [if_pos hupdate, if_pos hupdate]
    rcases @doCfgUpdate_cases env item with ⟨htakes, heq⟩ | ⟨htakes, heq⟩
    · refine .inl ⟨.inr ⟨hupdate, htakes⟩, ?_⟩
      rw [heq]
      rfl
    · refine .inr ⟨fun h => h.elim (fun h => hquery h.1) fun h => htakes h.2, ?_⟩
      rw [heq]
      rcases decodeUpdate env.heap item with e | request <;> rfl
  · rw [if_neg hupdate, if_neg hupdate]
    exact .inr ⟨fun h => h.elim (fun h => hquery h.1) fun h => hupdate h.1, rfl⟩

lemma decodeRequest_cases (cbor : Libcbor) (env : CallbackEnv) (pending : Bytes) :
    Misreads cbor env pending ∧ decodeRequest cbor env pending = .fail .misuse ∨
    ¬ Misreads cbor env pending ∧
      decodeRequest cbor env pending = lift (RpcServer.decodeRequest cbor env pending) := by
  unfold decodeRequest RpcServer.decodeRequest
  rcases hhdr : checkHeader pending with e | hdr
  -- a header that is refused, or a payload that does not load, never comes to the accessors
  · exact .inr ⟨fun ⟨_, _, h, _⟩ => (by cases hhdr.symm.trans h), rfl⟩
  rw [lift_bind]
  change Misreads cbor env pending ∧ (lift (loadItem cbor _) >>= _) = _ ∨
    ¬ Misreads cbor env pending ∧ (lift (loadItem cbor _) >>= _) = lift (_ >>= _)
  rw [lift_bind]
  rcases hitem : loadItem cbor (payloadBytes env pending (hdr.length.toNat - headerSize)) with
    e | item
  · refine .inr ⟨?_, rfl⟩
    rintro ⟨hdr', item, h, hload, -⟩
    cases hhdr.symm.trans h
    cases hitem.symm.trans hload
  -- header and item are known now, so that the two witnesses of Misreads are these
  have hmisreads : Misreads cbor env pending ↔ (hdr.endpoint = kConfigQuery ∧ TakesFloat item ∨
      hdr.endpoint = kConfigUpdate ∧ TakesNotBool env.heap item) := by
    constructor
    · rintro ⟨hdr', item', h, hload, htakes⟩
      cases hhdr.symm.trans h
      cases hitem.symm.trans hload
      exact htakes
    · exact fun htakes => ⟨hdr, item, hhdr, hitem, htakes⟩
  rw [hmisreads]
  exact endpoint_cases rfl

lemma misuse_iff (cbor : Libcbor) (env : CallbackEnv) (pending : Bytes) :
    decodeRequest cbor env pending = .fail .misuse ↔ Misreads cbor env pending := by
  rcases decodeRequest_cases cbor env pending with ⟨h, heq⟩ | ⟨h, heq⟩
  · exact iff_of_true heq h
  · refine iff_of_false (fun hfail => ?_) h
    have hrun := congrArg (fun x => (x.run ()).1) (heq.symm.trans hfail)
    rcases hdecode : RpcServer.decodeRequest cbor env pending with e | request
    · rw [hdecode] at hrun
      cases hrun
    · rw [hdecode] at hrun
      cases hrun

end Runs

open Classical in
/-- **Whatever a client sends**, the server applies libcbor's accessors to what they accept, and
decodes what it decodes from the items, except exactly where a float is taken for the flag of a
query, or a simple value that is no bool for the value of an update. -/
theorem decodeRequest_eq (cbor : Libcbor) (env : CallbackEnv) (pending : Bytes) :
    decodeRequest cbor env pending = if Misreads cbor env pending then .fail .misuse
      else lift (RpcServer.decodeRequest cbor env pending) := by
  rcases decodeRequest_cases cbor env pending with ⟨h, heq⟩ | ⟨h, heq⟩
  · rw [if_pos h, heq]
  · rw [if_neg h, heq]

/-! ### The library's requests -/

section Library

variable {cbor : Libcbor} {env : CallbackEnv} {tag : UInt8}

/-- The packet of a call of the library. -/
def requestOf (cbor : Libcbor) (tag : UInt8) (call : Confd.Call) : Bytes :=
  Confd.requestPacket (match call with
    | .get _ _ => kConfigQuery
    | .set _ _ => kConfigUpdate) tag (call.payload cbor)

lemma endpoint_requestPacket {ep : UInt8} {payload : Bytes} :
    (RpcHeader.read (Confd.requestPacket ep tag payload)).endpoint = ep := by
  rw [Confd.requestPacket, RpcHeader.read_bytes_append]
  rfl

lemma notBool_item {setter : Confd.Setter} {item : Item} (h : Item.Same setter.item item) :
    NotBool item ↔ setter = .null := by
  constructor
  · rintro ⟨v, rfl, hbool⟩
    cases setter with
    | null => rfl
    | bool b =>
      rw [← h.bool?_eq] at hbool
      cases b <;> cases hbool
    | _ => cases h
  · rintro rfl
    obtain rfl := h.eq rfl
    exact ⟨22, rfl, rfl⟩

lemma scalar_item (setter : Confd.Setter) : setter.item.Scalar := by
  cases setter with
  | string str => exact str.sized
  | blob b => exact b.sized
  | int value => trivial
  | real value => trivial
  | bool value => exact Confd.scalar_buildBool value
  | null => exact .inr (.inr rfl)

lemma load_of_loadItem {b : Bytes} {item : Item} :
    loadItem cbor b = .ok item → cbor.load b = some item := by
  unfold loadItem
  rcases cbor.load b with _ | item'
  · exact fun h => (by cases h)
  · exact fun h => (by cases h; rfl)

lemma readsNotBool_updatePairs {key : Bytes} {item : Item} :
    ReadsNotBool env.heap 0 (updatePairs key item) .monostate ↔ NotBool item := by
  have hskip : ¬ strncmpEq (ascii "key") (ascii "value") (ascii "key").length = true := by decide
  have htaken : strncmpEq (ascii "value") (ascii "value") (ascii "value").length = true := by decide
  rw [updatePairs, ReadsNotBool, reaches_skip rfl hskip]
  by_cases hnot : NotBool item
  · exact iff_of_true ⟨[], _, _, item, [], _, rfl, rfl, rfl, htaken, hnot⟩ hnot
  · rw [reaches_taken rfl htaken hnot]
    refine iff_of_false ?_ hnot
    rintro ⟨_, _, h⟩
    exact reaches_nil h

lemma not_readsFloat_queryPairs {key : Bytes} : ¬ ReadsFloat 0 (queryPairs key) .none := by
  have hskip : ¬ strncmpEq (ascii "key") (ascii "forceFloat") (ascii "key").length = true := by
    decide
  rw [queryPairs, ReadsFloat, reaches_skip rfl hskip]
  exact reaches_nil

lemma not_misreads_get {key : CString} {getter : Confd.Getter} :
    ¬ Misreads cbor env (requestOf cbor tag (.get key getter)) := by
  rintro ⟨hdr, root, hcheck, hroot, ⟨-, keys, keyName, rfl, -, hreads⟩ | ⟨hupdate, -⟩⟩
  · obtain ⟨rfl, -⟩ := checkHeader_ok hcheck
    obtain ⟨-, hload⟩ := Confd.load_requestPacket Confd.simple_queryPairs rfl
      (load_of_loadItem hroot)
    have h8 : Utf8.Valid key.bytes := Confd.readable_queryPairs.mp
      (cbor.readable_of_load Confd.simple_queryPairs hload)
    cases (Confd.load_keyRequest h8).symm.trans hload
    exact not_readsFloat_queryPairs hreads
  · obtain ⟨rfl, -⟩ := checkHeader_ok hcheck
    cases endpoint_requestPacket.symm.trans hupdate

lemma null_of_misreads {key : CString} {setter : Confd.Setter}
    (h : Misreads cbor env (requestOf cbor tag (.set key setter))) :
    setter = .null ∧ key.bytes ≠ [] ∧ Utf8.Valid key.bytes ∧
      headerSize + ((Confd.Call.set key setter).payload cbor).length < 2 ^ 16 := by
  have hsimple : Simple (updatePairs key.bytes setter.item) :=
    Confd.simple_updatePairs (scalar_item setter)
  obtain ⟨hdr, root, hcheck, hroot, ⟨hquery, -⟩ | ⟨-, keys, keyName, rfl, hkey, hreads⟩⟩ := h
  · obtain ⟨rfl, -⟩ := checkHeader_ok hcheck
    cases endpoint_requestPacket.symm.trans hquery
  obtain ⟨rfl, -⟩ := checkHeader_ok hcheck
  obtain ⟨hfit, hroot⟩ := Confd.load_requestPacket hsimple rfl (load_of_loadItem hroot)
  have hreadable : Readable (updatePairs key.bytes setter.item) :=
    cbor.readable_of_load hsimple hroot
  -- what the server decodes is what was set, but for a NaN
  obtain ⟨l, hload, hl⟩ := cbor.load_serialize hsimple hreadable
  obtain ⟨item, hsame, rfl⟩ := Confd.samePairs_updatePairs hl
  obtain rfl : updatePairs key.bytes item = keys := cbor.load_map_inj hload hroot
  obtain ⟨hname, hne⟩ := requestKey_ok hkey
  cases extractKeyName_updatePairs.symm.trans hname
  have hnull := (notBool_item hsame).mp (readsNotBool_updatePairs.mp hreads)
  exact ⟨hnull, hne, (Confd.readable_updatePairs.mp hreadable).1, hfit⟩

lemma misreads_null {key : CString} (hne : key.bytes ≠ []) (h8 : Utf8.Valid key.bytes)
    (hfit : headerSize + ((Confd.Call.set key .null).payload cbor).length < 2 ^ 16) :
    Misreads cbor env (requestOf cbor tag (.set key .null)) := by
  obtain ⟨l, hload, hl⟩ := cbor.load_serialize (Confd.simple_updatePairs (scalar_item .null))
    (Confd.readable_updatePairs.mpr ⟨h8, trivial⟩)
  obtain ⟨item, hsame, rfl⟩ := Confd.samePairs_updatePairs hl
  have hframed := @Confd.framed_requestPacket kConfigUpdate tag _ hfit
  have hcheck := checkHeader_framed hframed []
  have hbytes := @payloadBytes_framed env _ hframed []
  rw [List.append_nil] at hcheck hbytes
  rw [if_neg (by simp [Confd.requestPacket, Confd.requestHeader])] at hcheck
  refine ⟨_, .map (updatePairs key.bytes item), hcheck, ?_, .inr ⟨endpoint_requestPacket, _,
    key.bytes, rfl, requestKey_of_ne extractKeyName_updatePairs hne,
    readsNotBool_updatePairs.mpr ((notBool_item hsame).mpr rfl)⟩⟩
  change loadItem cbor (payloadBytes env (Confd.requestPacket kConfigUpdate tag _) _) = _
  rw [hbytes, Confd.requestPacket, RpcHeader.drop_bytes_append, loadItem]
  exact congrArg (Option.elim · _ _) hload

end Library

/-- **Setting a key to null** is what makes the server read a bool that is none; no other call of
the library does. -/
theorem misuse_iff_null (cbor : Libcbor) (env : CallbackEnv) (tag : UInt8) (call : Confd.Call) :
    decodeRequest cbor env (requestOf cbor tag call) = .fail .misuse ↔
      ∃ key, call = .set key .null ∧ key.bytes ≠ [] ∧ Utf8.Valid key.bytes ∧
        headerSize + (call.payload cbor).length < 2 ^ 16 := by
  rw [misuse_iff]
  cases call with
  | get key getter => exact iff_of_false not_misreads_get fun ⟨_, h, _⟩ => (by cases h)
  | set key setter =>
    constructor
    · intro h
      obtain ⟨rfl, hne, h8, hfit⟩ := null_of_misreads h
      exact ⟨key, rfl, hne, h8, hfit⟩
    · rintro ⟨key', hcall, hne, h8, hfit⟩
      cases hcall
      exact misreads_null hne h8 hfit

end Sativa.RpcServer.Checked
