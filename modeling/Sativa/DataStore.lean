import Sativa.Prog
import Sativa.StoreModel
import Sativa.Like

/-!
The operations of `DataStore`.

A call gets an environment: the clock, and for every place where SQLite is asked to change
something, whether that fails. A place is visited at most once in a call, so the
environment ranges over every way a call can go wrong. Names are bound as `const char *`, up
to their first NUL; deletions bind a `std::string` with its length.
-/

namespace Sativa.Store

open Sativa

/-- What the operations throw. Messages only reach the log; what they name is kept. -/
inductive StoreError where
  /-- `invalid name` -/
  | invalidName
  /-- `invalid value` -/
  | invalidValue
  /-- `changing type of key '{}' not allowed` -/
  | changingType (name : Bytes)
  /-- `failed to insert property key info` -/
  | insertKeyInfo
  /-- `failed to insert property key value` -/
  | insertKeyValue
  /-- `failed to update property key type` -/
  | updateKeyType
  /-- `failed to upsert value` -/
  | upsertValue
  /-- `failed to update property key timestamp` -/
  | updateTimestamp
  /-- `unknown value table for type ${:x}` -/
  | unknownValueTable (valueType : ℕ)
  /-- `property '{}' ({}) (type ${:x}, table '{}') has no value!` -/
  | hasNoValue (name : Bytes) (keyId valueType : ℕ) (table : ValueTable)
  /-- `invalid type for set` -/
  | invalidTypeForSet
  /-- `key '{}' has children` -/
  | hasChildren (name : Bytes)
  /-- an `SQLite::Exception` -/
  | sqlite
  deriving DecidableEq

/-- The places where a call asks SQLite to change something. -/
inductive Site
  | begin | insertKeyInfo | insertKeyValue | updateKeyType | deleteOldValue | upsertValue
  | updateTimestamp | commit | bindValue | deleteKeys
  deriving DecidableEq

inductive Fault
  /-- SQLite raises an error -/
  | error
  /-- the statement runs, but no changed row is reported -/
  | noRows
  deriving DecidableEq

/-- What a call finds outside the database. -/
structure SqlEnv where
  now : ℕ
  fault : Site → Option Fault
  /-- whether a `REAL` column keeps the sign of `-0.0`; SQLite's does not -/
  signedZero : Bool

/-- Nothing goes wrong at `now`. -/
abbrev SqlEnv.faultless (now : ℕ) (signedZero : Bool) : SqlEnv := ⟨now, fun _ => none, signedZero⟩

abbrev SqlEnv.ok (now : ℕ) : SqlEnv := .faultless now false

/-- The value that a column of its type keeps. -/
def SqlEnv.kept (env : SqlEnv) : PropertyValue → PropertyValue
  | .double d => .double (if d = Ieee.negZero ∧ env.signedZero = false then 0 else d)
  | v => v

abbrev SqlProg := Prog StoreError Db

/-- `stmt.exec()`: the number of changed rows. -/
def exec (env : SqlEnv) (site : Site) (stmt : Db → Option (Db × ℕ)) : SqlProg ℕ :=
  ⟨fun db => if env.fault site = some .error then (.error .sqlite, db)
    else match stmt db with
      | none => (.error .sqlite, db)
      | some (db', n) => (.ok (if env.fault site = some .noRows then 0 else n), db')⟩

lemma exec_ok {env : SqlEnv} {site : Site} {stmt : Db → Option (Db × ℕ)} {db db' : Db} {n : ℕ} :
    (exec env site stmt).run db = (.ok n, db') ↔
      ∃ k, stmt db = some (db', k) ∧ env.fault site ≠ some .error ∧
        n = if env.fault site = some .noRows then 0 else k := by
  unfold exec
  by_cases he : env.fault site = some .error
  · simp [he]
  · rcases hs : stmt db with _ | ⟨d, k⟩
    · simp [he, hs]
    · simp [he, hs, and_comm, eq_comm]

lemma exec_error {env : SqlEnv} {site : Site} {stmt : Db → Option (Db × ℕ)} {db db' : Db}
    {e : StoreError} (h : (exec env site stmt).run db = (.error e, db')) : db' = db := by
  unfold exec at h
  by_cases he : env.fault site = some .error
  · simp only [he, if_true] at h
    exact (Prod.mk.inj h).2.symm
  · rcases hs : stmt db with _ | ⟨d, k⟩ <;> simp only [he, if_false, hs] at h
    · exact (Prod.mk.inj h).2.symm
    · cases h

lemma exec_cases (env : SqlEnv) (site : Site) (stmt : Db → Option (Db × ℕ)) (db : Db) :
    ((exec env site stmt).run db).2 = db ∨
      ∃ n, stmt db = some (((exec env site stmt).run db).2, n) := by
  unfold exec
  by_cases he : env.fault site = some .error
  · exact .inl (by simp [he])
  · rcases hs : stmt db with _ | ⟨d, k⟩
    · exact .inl (by simp [he, hs])
    · exact .inr ⟨k, by simp [he, hs]⟩

/-- The scope of an `SQLite::Transaction`, which is committed at its end and rolled back when
it is left by an exception. -/
def transaction (env : SqlEnv) (body : SqlProg Unit) : SqlProg Unit :=
  .atomically do
    let _ ← exec env .begin fun db => some (db, 0)
    body
    let _ ← exec env .commit fun db => some (db, 0)

/-- The table of a value type; `none` is the empty name. -/
def valueTableName : ℕ → Option ValueTable
  | 1 => some .propertyValuesString
  | 2 => some .propertyValuesBlob
  | 3 => some .propertyValuesInteger
  | 4 => some .propertyValuesReal
  | _ => none

def typeForValue : PropertyValue → PropertyValueType
  | .null => .null
  | .string _ => .string
  | .blob _ => .blob
  | .uint64 _ => .integer
  | .double _ => .real
  | .bool _ => .integer
  | .monostate => .null

/-- Text and blobs that are too long are refused by SQLite. -/
def sqlBytes (b : Bytes) : Except StoreError SqlBytes :=
  if h : b.length ≤ sqliteMaxLength then .ok ⟨b, h⟩ else .error .sqlite

/-- `BindValue`, for a statement on `t`, which is always the table of the type of the value.
The data pointer of an empty blob is null, which binds `NULL`, and so does a NaN. -/
def bindValue : (t : ValueTable) → PropertyValue → Except StoreError t.Column
  | .propertyValuesString, .string s => sqlBytes s
  | .propertyValuesBlob, .blob b => if b = [] then .ok none else (sqlBytes b).map some
  | .propertyValuesInteger, .uint64 n => .ok n.toInt64
  | .propertyValuesReal, .double d => .ok (if Ieee.isNaN64 d then none else some d)
  | .propertyValuesInteger, .bool b => .ok (if b then 1 else 0)
  | _, _ => .error .invalidTypeForSet

/-- The conversions of `getKey` from the column to the variant. A `NULL` blob is the empty
string, a `NULL` number is `0.0`. -/
def readColumn : (t : ValueTable) → t.Column → PropertyValue
  | .propertyValuesString, s => .string s.val
  | .propertyValuesBlob, b => .blob (b.elim [] Subtype.val)
  | .propertyValuesInteger, n => .uint64 n.toUInt64
  | .propertyValuesReal, d => .double (d.getD 0)

/-- A 64-bit column read into a `uint32_t`. -/
def uint32 (n : ℕ) : ℕ := n % 2 ^ 32

lemma uint32_of_lt {n : ℕ} (h : n < 2 ^ 32) : uint32 n = n := Nat.mod_eq_of_lt h

/-- `getKey`. The switch at its end has no case left over: a type with a table is one of the
four. -/
def getKey (db : Db) (name : Bytes) : Except StoreError PropertyValue :=
  match db.keyRow (cstr name) with
  | none => .ok .monostate
  | some info =>
    let keyId := uint32 info.id
    let valueType := uint32 info.valueType
    if valueType = PropertyValueType.null.code then .ok .null
    else match valueTableName valueType with
      | none => .error (.unknownValueTable valueType)
      | some t => match db.valueRow t keyId with
        | none => .error (.hasNoValue name keyId valueType t)
        | some row => .ok (readColumn t row.value)

/-- Preparing a statement on the table of a type; with an empty name the text is no SQL. -/
def tableFor (valueType : ℕ) : SqlProg ValueTable :=
  match valueTableName valueType with
  | none => .fail .sqlite
  | some t => pure t

/-- `BindValue` on the parameter of a statement, which SQLite may refuse: the value as its column
keeps it. -/
def bindColumn (env : SqlEnv) (table : ValueTable) (value : PropertyValue) :
    SqlProg table.Column := do
  let _ ← exec env .bindValue fun db => some (db, 0)
  .ofExcept (bindValue table (env.kept value))

def insertKey (env : SqlEnv) (keyName : Bytes) (value : PropertyValue) : SqlProg Unit := do
  .throwIf (keyName = []) .invalidName
  .throwIf (value.isMonostate = true) .invalidValue
  transaction env do
    let type := typeForValue value
    let err ← exec env .insertKeyInfo fun db => db.insertKeyRow env.now (cstr keyName) type.code
    .throwIf (err = 0) .insertKeyInfo
    -- the last inserted row is the key row, and its id is the newest of the sequence
    let keyId := (← Prog.get).seq
    .when (type ≠ .null) do
      let table ← tableFor type.code
      let column ← bindColumn env table value
      let err ← exec env .insertKeyValue fun db => db.insertValueRow table keyId column
      .throwIf (err = 0) .insertKeyValue

def updateKeyTimestamp (env : SqlEnv) (keyId : ℕ) : SqlProg Unit := do
  let err ← exec env .updateTimestamp fun db => db.updateUpdatedAt env.now keyId
  .throwIf (err = 0) .updateTimestamp

def updateKey (env : SqlEnv) (keyId oldValueType : ℕ) (newValue : PropertyValue) :
    SqlProg Unit := do
  let newValueType := typeForValue newValue
  transaction env do
    .when (oldValueType ≠ newValueType.code) do
      let n ← exec env .updateKeyType fun db => db.updateValueType keyId newValueType.code
      .throwIf (n = 0) .updateKeyType
      let table ← tableFor oldValueType
      let _ ← exec env .deleteOldValue fun db => db.deleteValueRows table keyId
    .when (newValueType ≠ .null) do
      let table ← tableFor newValueType.code
      let column ← bindColumn env table newValue
      let n ← exec env .upsertValue fun db => db.upsertValueRow table keyId column
      .throwIf (n = 0) .upsertValue
    updateKeyTimestamp env keyId

def setKey (env : SqlEnv) (name : Bytes) (value : PropertyValue) : SqlProg Unit := do
  match (← Prog.get).keyRow (cstr name) with
  | none => insertKey env name value
  | some info =>
    let keyId := uint32 info.id
    let oldValueType := uint32 info.valueType
    if oldValueType = PropertyValueType.null.code then updateKey env keyId oldValueType value
    else if value.isNull then updateKey env keyId oldValueType value
    else if oldValueType = (typeForValue value).code then updateKey env keyId oldValueType value
    else .fail (.changingType name)

/-- `stmt.bind`, which throws for a parameter that the statement does not have. -/
def bindParameter (params : List String) (param : String) : SqlProg Unit :=
  .throwIf (param ∉ params) .sqlite

/-- The pattern `{}.%` of `deleteSubkeys` and `hasChildren`. -/
def subkeyPattern (name : Bytes) : Bytes := name ++ ascii ".%"

/-- `hasChildren`: the statement has the parameter `:keyName`, the code binds `:keyPrefix`;
and a statement that yields a row is not one for `exec`. -/
def hasChildren (_name : Bytes) : SqlProg Bool := do
  bindParameter [":keyName"] ":keyPrefix"
  .fail .sqlite

def deleteKey (env : SqlEnv) (name : Bytes) : SqlProg ℕ := do
  .throwIf ((← hasChildren name) = true) (.hasChildren name)
  bindParameter [":keyName"] ":keyName"
  exec env .deleteKeys fun db => db.deleteKeyRows fun r => r.key == cstr name

def deleteSubkeys (env : SqlEnv) (namePrefix : Bytes) : SqlProg ℕ := do
  bindParameter [":keyPrefix"] ":keyPrefix"
  exec env .deleteKeys fun db =>
    db.deleteKeyRows fun r => Like.like (subkeyPattern namePrefix) r.key

end Sativa.Store
