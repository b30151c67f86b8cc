import Sativa.Steps
import Sativa.StoreSpec

/-!
The operations of `DataStore`, statement by statement.

Without interruption they are the operations as a whole.
-/

namespace Sativa.Store

open Sativa

abbrev SqlSteps := Steps StoreError Db

/-- Whether `BEGIN` or `COMMIT` fails. -/
def SqlEnv.fails (env : SqlEnv) (site : Site) : Option StoreError :=
  if env.fault site = some .error then some .sqlite else none

/-! ### The operations, statement by statement -/

section Statements

variable (env : SqlEnv)

/-- The insertion of the key row, and its id. -/
def insertKeyInfo (keyName : Bytes) (type : PropertyValueType) : SqlProg ℕ := do
  let err ← exec env .insertKeyInfo fun db => db.insertKeyRow env.now (cstr keyName) type.code
  .throwIf (err = 0) .insertKeyInfo
  return (← Prog.get).seq

def insertKeyValue (value : PropertyValue) (keyId : ℕ) : SqlProg Unit := do
  let table ← tableFor (typeForValue value).code
  let column ← bindColumn env table value
  let err ← exec env .insertKeyValue fun db => db.insertValueRow table keyId column
  .throwIf (err = 0) .insertKeyValue

def updateKeyType (keyId : ℕ) (type : PropertyValueType) : SqlProg Unit := do
  let n ← exec env .updateKeyType fun db => db.updateValueType keyId type.code
  .throwIf (n = 0) .updateKeyType

def deleteOldValue (keyId oldValueType : ℕ) : SqlProg Unit := do
  let table ← tableFor oldValueType
  let _ ← exec env .deleteOldValue fun db => db.deleteValueRows table keyId

def upsertValue (keyId : ℕ) (value : PropertyValue) : SqlProg Unit := do
  let table ← tableFor (typeForValue value).code
  let column ← bindColumn env table value
  let n ← exec env .upsertValue fun db => db.upsertValueRow table keyId column
  .throwIf (n = 0) .upsertValue

end Statements

/-- `SELECT id, valueType FROM PropertyKeys WHERE key = :keyName`. -/
def selectKey (name : Bytes) : SqlSteps (Option KeyRow) :=
  .atom (.reads fun db => .ok (db.keyRow (cstr name)))

/-- `SELECT id, propertyId, value FROM <t> WHERE propertyId = :keyId`. -/
def selectValue (name : Bytes) (keyId valueType : ℕ) (t : ValueTable) : SqlProg PropertyValue :=
  .reads fun db => match db.valueRow t keyId with
    | none => .error (.hasNoValue name keyId valueType t)
    | some row => .ok (readColumn t row.value)

def getKeySteps (name : Bytes) : SqlSteps PropertyValue := do
  match ← selectKey name with
  | none => return .monostate
  | some info =>
    let keyId := uint32 info.id
    let valueType := uint32 info.valueType
    if valueType = PropertyValueType.null.code then return .null
    else match valueTableName valueType with
      | none => .done (.error (.unknownValueTable valueType))
      | some t => .atom (selectValue name keyId valueType t)

def insertKeySteps (env : SqlEnv) (keyName : Bytes) (value : PropertyValue) : SqlSteps Unit := do
  .throwIf (keyName = []) .invalidName
  .throwIf (value.isMonostate = true) .invalidValue
  let type := typeForValue value
  .transaction (env.fails .begin) (env.fails .commit) do
    let keyId ← .atom (insertKeyInfo env keyName type)
    .when (type ≠ .null) (.atom (insertKeyValue env value keyId))

def updateKeySteps (env : SqlEnv) (keyId oldValueType : ℕ) (newValue : PropertyValue) :
    SqlSteps Unit :=
  let newValueType := typeForValue newValue
  .transaction (env.fails .begin) (env.fails .commit) do
    .when (oldValueType ≠ newValueType.code) do
      .atom (updateKeyType env keyId newValueType)
      .atom (deleteOldValue env keyId oldValueType)
    .when (newValueType ≠ .null) (.atom (upsertValue env keyId newValue))
    .atom (updateKeyTimestamp env keyId)

def setKeySteps (env : SqlEnv) (name : Bytes) (value : PropertyValue) : SqlSteps Unit := do
  match ← selectKey name with
  | none => insertKeySteps env name value
  | some info =>
    let keyId := uint32 info.id
    let oldValueType := uint32 info.valueType
    if oldValueType = PropertyValueType.null.code then updateKeySteps env keyId oldValueType value
    else if value.isNull then updateKeySteps env keyId oldValueType value
    else if oldValueType = (typeForValue value).code then
      updateKeySteps env keyId oldValueType value
    else .done (.error (.changingType name))

/-! Without interruption, the steps are the operations. -/

section Run

variable {env : SqlEnv} {db : Db} {name : Bytes} {value : PropertyValue}

/-- The steps `x` in no transaction do what `p` does. -/
abbrev RunsAs {α : Type} (x : SqlSteps α) (p : SqlProg α) (db : Db) : Prop :=
  x.run ⟨none, db⟩ = ((p.run db).1, ⟨none, (p.run db).2⟩)

lemma runsAs_transaction {x : SqlSteps Unit} {p : SqlProg Unit} (hx : x.Implements p) :
    RunsAs (.transaction (env.fails .begin) (env.fails .commit) x) (transaction env p) db := by
  have hskip : ∀ site (d : Db), (exec env site fun db => some (db, 0)).run d =
      if env.fault site = some .error then (.error .sqlite, d) else (.ok 0, d) := by
    intro site d
    unfold exec
    split_ifs <;> simp_all
  unfold RunsAs
  rw [Steps.run_transaction hx]
  unfold transaction Prog.atomically SqlEnv.fails
  simp only [Prog.run_bind, hskip]
  by_cases hbegin : env.fault .begin = some .error
  · simp [hbegin]
  · rcases hp : p.run db with ⟨e | ⟨⟩, d⟩
    · simp [hbegin, hp]
    · by_cases hcommit : env.fault .commit = some .error <;> simp [hbegin, hcommit, hp]

lemma run_selectKey {α : Type} (f : Option KeyRow → SqlSteps α) :
    (selectKey name >>= f).run ⟨none, db⟩ = (f (db.keyRow (cstr name))).run ⟨none, db⟩ := rfl

lemma runsAs_getKey : RunsAs (getKeySteps name) (.reads fun db => getKey db name) db := by
  unfold RunsAs getKeySteps
  rw [run_selectKey, Prog.run_reads, getKey]
  rcases db.keyRow (cstr name) with _ | info
  · rfl
  · dsimp only
    split_ifs
    · rfl
    · rcases valueTableName (uint32 info.valueType) with _ | t <;> rfl

lemma runsAs_insertKey : RunsAs (insertKeySteps env name value) (insertKey env name value) db := by
  unfold insertKeySteps insertKey
  refine Steps.run_bind_of_run (Steps.implements_throwIf _ _ _) fun _ _ =>
    Steps.run_bind_of_run (Steps.implements_throwIf _ _ _) fun _ _ => runsAs_transaction ?_
  have hbody := (Steps.implements_atom (insertKeyInfo env name (typeForValue value))).bind
    fun keyId => (Steps.implements_atom (insertKeyValue env value keyId)).when
      (c := typeForValue value ≠ .null)
  simp only [insertKeyInfo, bind_assoc, pure_bind] at hbody
  exact hbody

lemma runsAs_updateKey {keyId oldValueType : ℕ} :
    RunsAs (updateKeySteps env keyId oldValueType value) (updateKey env keyId oldValueType value)
      db := by
  unfold updateKeySteps updateKey
  refine runsAs_transaction ?_
  have htype := (Steps.implements_atom (updateKeyType env keyId (typeForValue value))).bind fun _ =>
    Steps.implements_atom (deleteOldValue env keyId oldValueType)
  simp only [updateKeyType, bind_assoc] at htype
  exact htype.when.bind fun _ => (Steps.implements_atom (upsertValue env keyId value)).when.bind
    fun _ => Steps.implements_atom (updateKeyTimestamp env keyId)

lemma runsAs_setKey : RunsAs (setKeySteps env name value) (setKey env name value) db := by
  unfold RunsAs setKeySteps
  rw [run_selectKey, setKey_run]
  rcases db.keyRow (cstr name) with _ | info
  · exact runsAs_insertKey
  · dsimp only
    split_ifs
    · exact runsAs_updateKey
    · exact runsAs_updateKey
    · exact runsAs_updateKey
    · rfl

end Run

end Sativa.Store
