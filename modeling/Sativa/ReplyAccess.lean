import Sativa.CborAccess
import Sativa.Attribution

/-!
The getters over libcbor's accessors.

A reply may say that there is a value and have none. The check for `null` looks at the value before
anything has asked whether there is one.
-/

namespace Sativa.Confd.Checked

open Sativa Sativa.Rpc Sativa.Cbor Sativa.RpcServer

/-- What the code that reads a reply throws. -/
inductive QueryError
  /-- a `ConfdError` with its status -/
  | confd (status : Status)
  /-- a `std::logic_error` -/
  | logic
  deriving DecidableEq

def QueryError.exit : QueryError → Exit
  | confd status => .status status.code
  | logic => .status (-1)

/-- Code that reads a reply, and what it wrote to the caller's variable. -/
abbrev Reading := Prog (Stop QueryError) (Option Value)

abbrev invalidResponse : Stop QueryError := .thrown (.confd .invalidResponse)

abbrev typeMismatch : Stop QueryError := .thrown (.confd .typeMismatch)

/-- The loop of `ExtractValue`. -/
def scanKeys : List (Item × Item) → Bool × Option Item → Reading (Bool × Option Item)
  | [], acc => pure acc
  | (key, value) :: keys, (found, result) => do
    .throwIf (!(← cborIsaString.on (some key))) invalidResponse
    let keyStr ← cborStringHandle.on (some key)
    let keyStrLen ← cborStringLength.on (some key)
    if strncmpEq keyStr (ascii "found") keyStrLen then do
      let isBool ← (cborIsaFloatCtrl.on (some value)).both (cborIsBool.on (some value))
      .throwIf (!isBool) invalidResponse
      let found ← cborGetBool.on (some value)
      scanKeys keys (found, result)
    else if strncmpEq keyStr (ascii "value") keyStrLen then scanKeys keys (found, some value)
    else scanKeys keys (found, result)

/-- The end of `ExtractValue`: there is a value, and it is not `null`. -/
def checkValue (found : Bool) (value : Option Item) : Reading (Option Item) := do
  .throwIf (!found) (.thrown (.confd .notFound))
  let isControl := (cborIsaFloatCtrl.on value).both do
    return (← cborFloatGetWidth.on value) == .float0
  let isNull ← isControl.both (cborIsNull.on value)
  .throwIf isNull (.thrown (.confd .nullValue))
  return value

/-- `ExtractValue`. -/
def extractValue (root : Option Item) : Reading (Option Item) := do
  .throwIf (!(← cborIsaMap.on root)) invalidResponse
  let keys ← cborMapHandle.on root
  let size ← cborMapSize.on root
  let (found, value) ← scanKeys (keys.take size) (false, none)
  checkValue found value

/-- The functions that the getters give to `DoQuery`. -/
def replyHandler (value : Option Item) : Getter → Reading ℤ
  | .string outStrLen => do
    .throwIf (!(← cborIsaString.on value)) typeMismatch
    let str ← cborStringHandle.on value
    let strLen ← cborStringLength.on value
    let toCopy := min strLen (outStrLen - 1)
    .modify fun _ => some (.bytes ⟨strLen, str.take toCopy ++ [0]⟩)
    return 0
  | .blob outBlobLen => do
    .throwIf (!(← cborIsaBytestring.on value)) typeMismatch
    let blob ← cborBytestringHandle.on value
    let blobLen ← cborBytestringLength.on value
    let toCopy := min blobLen outBlobLen
    .modify fun _ => some (.bytes ⟨blobLen, blob.take toCopy⟩)
    return 0
  | .int => do
    .throwIf (!(← cborIsaUint.on value)) typeMismatch
    let width ← cborIntGetWidth.on value
    let n ← (cborGetUint width).on value
    .modify fun _ => some (.int n.toInt64)
    return 0
  | .real => do
    .throwIf (!(← cborIsaFloatCtrl.on value)) typeMismatch
    let width ← cborFloatGetWidth.on value
    .throwIf (width = .float0) typeMismatch
    let d ← (cborFloatGet width).on value
    .modify fun _ => some (.real d)
    return 0
  | .bool => do
    .when (← cborIsaUint.on value) do
      let width ← cborIntGetWidth.on value
      let temp ← (cborGetUint width).on value
      .modify fun _ => some (.bool (temp != 0))
    let isBool ← (cborIsaFloatCtrl.on value).both (cborIsBool.on value)
    .throwIf (!isBool) typeMismatch
    let b ← cborGetBool.on value
    .modify fun _ => some (.bool b)
    return 0

/-- What is left of `DoQuery` when a reply was decoded. -/
def readReply (root : Option Item) (getter : Getter) : Reading ℤ := do
  let value ← extractValue root
  .throwIf value.isNone (.thrown .logic)
  replyHandler value getter

section Calls

variable {σ : Type} (cbor : Libcbor) (sock : Socket σ)

/-- What `DoQuery` makes of the payload of the reply. -/
def handleReply (replyPayload : Bytes) (getter : Getter) : Result Value :=
  match cbor.load replyPayload with
  | none => ⟨.status Status.invalidResponse.code, none⟩
  | some root => match (readReply (some root) getter).run none with
    | (.ok ret, out) => ⟨.status ret, out⟩
    | (.error (.thrown e), out) => ⟨e.exit, out⟩
    | (.error .misuse, out) => ⟨.crash, out⟩

/-- `DoQuery`. -/
def doQuery (key : CString) (getter : Getter) (c : Endpoint σ) : Result Value × Endpoint σ :=
  let r := (sendPacketWithReply sock kConfigQuery (serializeKeyRequest cbor key)).run c
  (match r.1 with
    | .error e => ⟨e.exit, none⟩
    | .ok replyPayload => handleReply cbor replyPayload getter, r.2)

/-- The getter does not take its arguments. -/
def refuses : Getter → Bool
  | .string outStrLen => outStrLen == 0
  | .blob outBlobLen => outBlobLen == 0
  | _ => false

/-- A getter. -/
def get (key : CString) (getter : Getter) (c : Endpoint σ) : Result Value × Endpoint σ :=
  if refuses getter then (⟨.status Status.invalidArguments.code, none⟩, c)
  else doQuery cbor sock key getter c

end Calls

/-- The item is one that the getter takes. -/
def takes : Getter → Item → Bool
  | .string _, item => cborIsaString.read item
  | .blob _, item => cborIsaBytestring.read item
  | .int, item => cborIsaUint.read item
  | .real, item => item.floatWidth?.any (· != .float0)
  | .bool, item => item.bool?.isSome

/-- The handler of a getter, with the values of all getters in one type. -/
def handler (getter : Getter) : Handler Value := fun value => match getter with
  | .string n => (stringHandler n value).map id (·.map .bytes)
  | .blob n => (blobHandler n value).map id (·.map .bytes)
  | .int => (intHandler value).map id (·.map .int)
  | .real => (realHandler value).map id (·.map .real)
  | .bool => (boolHandler value).map id (·.map .bool)

/-- How the code over the accessors stops where the code on items has an error. -/
def stop : LibError → Stop QueryError
  | .confd status => .thrown (.confd status)
  | .crash => .misuse
  | _ => .thrown .logic

/-- The error of a getter for a value that it does not take. -/
def refusal : Getter → Item → LibError
  | .bool, item => notBool item (.confd .typeMismatch)
  | _, _ => .confd .typeMismatch

/-! ### What the accessors are applied to -/

section Runs

variable {keys : List (Item × Item)} {acc : Bool × Option Item} {out : Option Value}
  {value : Item} {getter : Getter} {cbor : Libcbor} {replyPayload : Bytes} {σ : Type}
  {sock : Socket σ} {key : CString} {c : Endpoint σ}

lemma run_scanKeys : (scanKeys keys acc).run out =
    ((scanReply keys acc).mapError stop, out) := by
  induction keys generalizing acc with
  | nil => rfl
  | cons pair keys ih =>
    obtain ⟨key, value⟩ := pair
    obtain ⟨found, result⟩ := acc
    rw [scanKeys, scanReply]
    rcases htext : key.text? with _ | keyStr
    · rw [on_cborIsaString, pure_bind, htext, Prog.throwIf_pos (by simp)]
      rfl
    · rw [on_cborIsaString, pure_bind, htext, Prog.throwIf_neg (by simp), pure_bind,
        on_cborStringHandle htext, pure_bind, on_cborStringLength htext, pure_bind]
      dsimp only
      -- `found` is looked for first, then `value`
      split
      · rw [both_isBool]
        rcases hbool : value.bool? with _ | b
        · unfold notBool
          split_ifs
          · rfl
          · rw [pure_bind, Prog.throwIf_pos (by simp)]
            rfl
        · rw [if_neg (by simp [Item.isFloat_of_bool? hbool]), pure_bind,
            Prog.throwIf_neg (by simp), pure_bind, on_cborGetBool hbool, pure_bind]
          exact ih
      · split
        · exact ih
        · exact ih

lemma scanReply_error {e : LibError} (h : scanReply keys acc = .error e) :
    e = .confd .invalidResponse ∨ e = .crash := by
  induction keys generalizing acc with
  | nil => cases h
  | cons pair keys ih =>
    rw [scanReply] at h
    split at h
    · cases h
      exact .inl rfl
    · split_ifs at h
      · split at h
        · cases h
          unfold notBool
          split_ifs
          · exact .inr rfl
          · exact .inl rfl
        · exact ih h
      · exact ih h
      · exact ih h

lemma handler_fst : (handler getter value).1 =
    if takes getter value then .ok () else .error (refusal getter value) := by
  cases getter with
  | bool =>
    rcases h : value.bool? with _ | b
    · simp [handler, takes, boolHandler, refusal, h]
    · simp [handler, takes, boolHandler, h]
  | string n =>
    rcases h : value.text? with _ | b
    · simp [handler, takes, stringHandler, cborIsaString, test, refusal, Confd.typeMismatch, h]
    · simp [handler, takes, stringHandler, cborIsaString, test, h]
  | _ => cases value <;> rfl

lemma handler_of_takes (h : takes getter value = true) :
    ∃ out, handler getter value = (.ok (), out) :=
  ⟨(handler getter value).2, Prod.ext (handler_fst.trans (if_pos h)) rfl⟩

lemma handler_of_not_takes (h : ¬ takes getter value = true) :
    ∃ out, handler getter value = (.error (refusal getter value), out) :=
  ⟨(handler getter value).2, Prod.ext (handler_fst.trans (if_neg h)) rfl⟩

/-- The handler of a bool is the only one that looks at something it has not asked for. -/
lemma run_replyHandler : (replyHandler (some value) getter).run none =
    ((handler getter value).1.map (fun _ => 0) |>.mapError stop, (handler getter value).2) := by
  cases getter with
  | string n =>
    rw [replyHandler]
    rcases h : value.text? with _ | b
    · simp only [handler, stringHandler, on_cborIsaString, h, pure_bind]
      rfl
    · simp only [handler, stringHandler, on_cborIsaString, on_cborStringHandle h,
        on_cborStringLength h, h, pure_bind, Nat.min_comm b.length, ← List.take_eq_take_min]
      rfl
  | blob n =>
    cases value with
    | bytestring b =>
      have htake : b.take (min b.length n) = b.take n := by
        rw [Nat.min_comm, ← List.take_eq_take_min]
      change (Except.ok 0, some (Value.bytes ⟨b.length, b.take (min b.length n)⟩)) = _
      rw [htake]
      rfl
    | bytestringIndef chunks =>
      change (Except.ok 0, some (Value.bytes ⟨0, ([] : Bytes).take (min 0 n)⟩)) = _
      rw [List.take_nil]
      rfl
    | _ => rfl
  | int =>
    cases value with
    | uint w n => cases w <;> rfl
    | _ => rfl
  | real => cases value <;> rfl
  | bool =>
    -- an integer is taken first, and then asked whether it is a bool
    cases value with
    | uint w n => cases w <;> rfl
    | ctrl v =>
      have hwhen : (cborIsaUint.on (some (Item.ctrl v)) : Reading Bool) = pure false := rfl
      rw [replyHandler, hwhen, pure_bind, Prog.when, if_neg (by simp), pure_bind, both_isBool,
        if_neg (by simp [Item.isFloat]), pure_bind]
      rcases h : (Item.ctrl v).bool? with _ | b
      · simp only [handler, boolHandler, h]
        rfl
      · rw [on_cborGetBool h]
        simp only [handler, boolHandler, h]
        rfl
    | _ => rfl

lemma run_checkValue {found : Bool} {value : Option Item} :
    (checkValue found value).run out = (match found, value with
      | false, _ => .error (.thrown (.confd .notFound))
      | true, none => .error .misuse
      | true, some value =>
        if value.isNull then .error (.thrown (.confd .nullValue)) else .ok (some value), out) := by
  rcases found with _ | _
  · rfl
  rcases value with _ | value
  · rfl
  rw [checkValue, Prog.throwIf_neg (by simp), pure_bind]
  dsimp only
  rw [both_isNull, pure_bind]
  by_cases hnull : value.isNull = true
  · rw [Prog.throwIf_pos hnull, if_pos hnull]
    rfl
  · rw [Prog.throwIf_neg hnull, if_neg hnull]
    rfl

lemma run_extractValue_map : (extractValue (some (.map keys))).run out =
    (match scanReply keys (false, none) with
      | .error e => (.error (stop e), out)
      | .ok (found, value) => (checkValue found value).run out) := by
  have hscan : extractValue (some (.map keys)) =
      scanKeys (keys.take keys.length) (false, none) >>= fun r => checkValue r.1 r.2 := rfl
  rw [hscan, List.take_length, Prog.run_bind, run_scanKeys]
  rcases scanReply keys (false, none) with e | r <;> rfl

/-- What is extracted, or how it fails, and then what the handler makes of it. -/
lemma run_readReply {root : Item} : (readReply (some root) getter).run none =
    match (extractValue (some root)).run none with
    | (.ok value, out) => (Prog.throwIf value.isNone (.thrown .logic) >>= fun _ =>
        replyHandler value getter).run out
    | (.error e, out) => (.error e, out) := by
  rw [readReply, Prog.run_bind]
  rcases (extractValue (some root)).run none with ⟨e | value, out⟩ <;> rfl

lemma extractValue_map : Confd.extractValue (.map keys) = match scanReply keys (false, none) with
    | .error e => .error e
    | .ok (false, _) => .error (.confd .notFound)
    | .ok (true, none) => .error .crash
    | .ok (true, some value) => if value.isNull then .error (.confd .nullValue) else .ok value := by
  rw [Confd.extractValue]
  rcases hscan : scanReply keys (false, none) with e | ⟨_ | _, _ | value⟩ <;> rfl

lemma handleReply_eq : handleReply cbor replyPayload getter =
    Confd.handleReply cbor (handler getter) replyPayload := by
  unfold handleReply Confd.handleReply
  rcases cbor.load replyPayload with _ | root
  · rfl
  cases root with
  | map keys =>
    dsimp only
    rw [run_readReply, run_extractValue_map, extractValue_map]
    rcases hscan : scanReply keys (false, none) with e | ⟨_ | _, _ | value⟩
    · rcases scanReply_error hscan with rfl | rfl <;> rfl
    · rfl
    · rfl
    · rfl
    · dsimp only
      rw [run_checkValue]
      dsimp only
      -- null is looked for before the handler gets the value
      by_cases hnull : value.isNull = true
      · rw [if_pos hnull, if_pos hnull]
        rfl
      · rw [if_neg hnull, if_neg hnull]
        dsimp only
        rw [Prog.throwIf_neg (by simp), pure_bind, run_replyHandler]
        by_cases htakes : takes getter value = true
        · obtain ⟨out, hhandler⟩ := handler_of_takes htakes
          rw [hhandler]
          rfl
        · obtain ⟨out, hhandler⟩ := handler_of_not_takes htakes
          rw [hhandler]
          unfold refusal notBool
          cases getter with
          | bool => cases value <;> rfl
          | _ => rfl
  | _ => rfl

lemma doQuery_map {β : Type} (h : Handler β) (f : β → Value) :
    (Confd.doQuery cbor sock key h c).map (·.map f) id =
      Confd.doQuery cbor sock key (fun value => (h value).map id (·.map f)) c := by
  unfold Confd.doQuery
  rcases ((sendPacketWithReply sock kConfigQuery (serializeKeyRequest cbor key)).run c) with
    ⟨e | p, c'⟩
  · rfl
  dsimp only [Prod.map, Confd.handleReply]
  rcases cbor.load p with _ | root
  · rfl
  dsimp only
  rcases Confd.extractValue root with e | value
  · rfl
  dsimp only
  rcases h value with ⟨e | u, out⟩ <;> rfl

/-- A getter over the accessors is the getter on items. -/
lemma get_eq : get cbor sock key getter c = getter.run cbor sock key c := by
  have hquery : doQuery cbor sock key getter c =
      Confd.doQuery cbor sock key (handler getter) c := by
    unfold doQuery Confd.doQuery
    rcases (sendPacketWithReply sock kConfigQuery (serializeKeyRequest cbor key)).run c with
      ⟨e | replyPayload, c'⟩
    · rfl
    · exact congrArg (·, c') handleReply_eq
  unfold get
  rw [hquery]
  cases getter with
  | string n =>
    by_cases hn : n = 0
    · simp only [refuses, Getter.run, confdGetString, hn]
      rfl
    · rw [Getter.run, confdGetString, if_neg hn, doQuery_map, if_neg (by simpa [refuses] using hn)]
      rfl
  | blob n =>
    by_cases hn : n = 0
    · simp only [refuses, Getter.run, confdGetBlob, hn]
      rfl
    · rw [Getter.run, confdGetBlob, if_neg hn, doQuery_map, if_neg (by simpa [refuses] using hn)]
      rfl
  | int => exact (doQuery_map intHandler .int).symm
  | real => exact (doQuery_map realHandler .real).symm
  | bool => exact (doQuery_map boolHandler .bool).symm

end Runs

end Sativa.Confd.Checked
