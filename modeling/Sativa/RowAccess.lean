import Sativa.Recorded
import Sativa.RowIds
import Sativa.StoreSteps

/-!
Which rows `getKey` and `setKey` touch.

The operations are run with a record of the rows that their statements read, insert, update and
delete. An id above 32 bits is cut before it is used, so the rows of a key are missed, and those of
another key are touched if there is one with the id that is left.
-/

namespace Sativa.Store

open Sativa

/-! ### The operations, with the rows that are touched -/

/-- A row of `PropertyKeys` or of a value table. -/
inductive Row
  | key (id : ℕ)
  | value (t : ValueTable) (propertyId : ℕ)
  deriving DecidableEq

/-- The id of the key that the row belongs to. -/
def Row.keyId : Row → ℕ
  | key id => id
  | value _ propertyId => propertyId

abbrev RowProg := Prog StoreError (Recorded Db Row)

/-- The rows of `PropertyKeys` with `id = :keyId`. -/
def keyRows (keyId : ℕ) (db : Db) : List Row :=
  (db.keys.rows.filter fun r => r.id == keyId).map fun r => .key r.id

/-- The rows of `<t>` with `propertyId = :keyId`. -/
def valueRows (t : ValueTable) (keyId : ℕ) (db : Db) : List Row :=
  ((db.values t).rows.filter fun v => v.propertyId == keyId).map fun v => .value t v.propertyId

/-- The row of `PropertyKeys` with `key = :keyName`. -/
def namedRow (name : Bytes) (db : Db) : List Row :=
  (db.keyRow (cstr name)).toList.map fun r => .key r.id

/-- `selectKey`. -/
def selectKeyRow (name : Bytes) : RowProg (Option KeyRow) :=
  .touching (namedRow name) (.reads fun db => .ok (db.keyRow (cstr name)))

def getKeyRows (name : Bytes) : RowProg PropertyValue := do
  match ← selectKeyRow name with
  | none => return .monostate
  | some info =>
    let keyId := uint32 info.id
    let valueType := uint32 info.valueType
    if valueType = PropertyValueType.null.code then return .null
    else match valueTableName valueType with
      | none => .fail (.unknownValueTable valueType)
      | some t => .touching (valueRows t keyId) (selectValue name keyId valueType t)

section Statements

variable (env : SqlEnv)

def execRows (site : Site) (rows : Db → List Row) (stmt : Db → Option (Db × ℕ)) : RowProg ℕ :=
  .touching rows (exec env site stmt)

def transactionRows (body : RowProg Unit) : RowProg Unit :=
  .undoing do
    let _ ← .plain (exec env .begin fun db => some (db, 0))
    body
    let _ ← .plain (exec env .commit fun db => some (db, 0))

def insertKeyRows (keyName : Bytes) (value : PropertyValue) : RowProg Unit := do
  .throwIf (keyName = []) .invalidName
  .throwIf (value.isMonostate = true) .invalidValue
  transactionRows env do
    let type := typeForValue value
    let err ← execRows env .insertKeyInfo (fun db => [.key (db.seq + 1)])
      fun db => db.insertKeyRow env.now (cstr keyName) type.code
    .throwIf (err = 0) .insertKeyInfo
    let keyId := (← .plain Prog.get).seq
    .when (type ≠ .null) do
      let table ← .plain (tableFor type.code)
      let column ← .plain (bindColumn env table value)
      let err ← execRows env .insertKeyValue (fun _ => [.value table keyId])
        fun db => db.insertValueRow table keyId column
      .throwIf (err = 0) .insertKeyValue

def updateKeyTimestampRows (keyId : ℕ) : RowProg Unit := do
  let err ← execRows env .updateTimestamp (keyRows keyId) fun db => db.updateUpdatedAt env.now keyId
  .throwIf (err = 0) .updateTimestamp

def updateKeyRows (keyId oldValueType : ℕ) (newValue : PropertyValue) : RowProg Unit := do
  let newValueType := typeForValue newValue
  transactionRows env do
    .when (oldValueType ≠ newValueType.code) do
      let n ← execRows env .updateKeyType (keyRows keyId)
        fun db => db.updateValueType keyId newValueType.code
      .throwIf (n = 0) .updateKeyType
      let table ← .plain (tableFor oldValueType)
      let _ ← execRows env .deleteOldValue (valueRows table keyId)
        fun db => db.deleteValueRows table keyId
    .when (newValueType ≠ .null) do
      let table ← .plain (tableFor newValueType.code)
      let column ← .plain (bindColumn env table newValue)
      -- the row that is inserted, or the one that is updated
      let n ← execRows env .upsertValue (fun _ => [.value table keyId])
        fun db => db.upsertValueRow table keyId column
      .throwIf (n = 0) .upsertValue
    updateKeyTimestampRows env keyId

def setKeyRows (name : Bytes) (value : PropertyValue) : RowProg Unit := do
  match ← selectKeyRow name with
  | none => insertKeyRows env name value
  | some info =>
    let keyId := uint32 info.id
    let oldValueType := uint32 info.valueType
    if oldValueType = PropertyValueType.null.code then updateKeyRows env keyId oldValueType value
    else if value.isNull then updateKeyRows env keyId oldValueType value
    else if oldValueType = (typeForValue value).code then
      updateKeyRows env keyId oldValueType value
    else .fail (.changingType name)

end Statements

/-! They do to the tables what the operations do. -/

section Accounts

variable {env : SqlEnv} {name : Bytes} {value : PropertyValue}

lemma accounts_execRows {site : Site} {rows : Db → List Row} {stmt : Db → Option (Db × ℕ)} :
    (execRows env site rows stmt).Accounts (exec env site stmt) := Prog.accounts_touching _ _

lemma accounts_transactionRows {x : RowProg Unit} {p : SqlProg Unit} (h : x.Accounts p) :
    (transactionRows env x).Accounts (transaction env p) := by
  refine Prog.Accounts.undoing ?_
  exact (Prog.accounts_touching _ _).bind fun _ => h.bind fun _ =>
    (Prog.accounts_touching _ _).bind fun _ => Prog.accounts_pure _

lemma accounts_check {site : Site} {rows : Db → List Row} {stmt : Db → Option (Db × ℕ)}
    {e : StoreError} : (execRows env site rows stmt >>= fun n => .throwIf (n = 0) e).Accounts
      (exec env site stmt >>= fun n => .throwIf (n = 0) e) :=
  accounts_execRows.bind fun _ => Prog.accounts_throwIf _

lemma run_selectKeyRow {s : Recorded Db Row} : (selectKeyRow name).run s =
    (.ok (s.state.keyRow (cstr name)), ⟨s.state, s.record ++ namedRow name s.state⟩) := rfl

lemma accounts_getKeyRows : (getKeyRows name).Accounts (.reads fun db => getKey db name) := by
  intro s
  unfold getKeyRows
  rw [Prog.run_bind_of_ok run_selectKeyRow, Prog.run_reads, getKey]
  rcases s.state.keyRow (cstr name) with _ | info
  · rfl
  · dsimp only
    split_ifs
    · rfl
    · rcases valueTableName (uint32 info.valueType) with _ | t
      · rfl
      · exact Prog.accounts_touching _ (selectValue name (uint32 info.id) _ t) _

lemma accounts_insertKeyRows :
    (insertKeyRows env name value).Accounts (insertKey env name value) := by
  unfold insertKeyRows insertKey
  refine (Prog.accounts_throwIf _).bind fun _ => (Prog.accounts_throwIf _).bind fun _ =>
    accounts_transactionRows ?_
  refine accounts_execRows.bind fun _ => (Prog.accounts_throwIf _).bind fun _ =>
    (Prog.accounts_touching _ _).bind fun _ => Prog.Accounts.when ?_
  exact (Prog.accounts_touching _ _).bind fun _ => (Prog.accounts_touching _ _).bind fun _ =>
    accounts_check

lemma accounts_updateKeyRows {keyId oldValueType : ℕ} :
    (updateKeyRows env keyId oldValueType value).Accounts
      (updateKey env keyId oldValueType value) := by
  unfold updateKeyRows updateKey
  refine accounts_transactionRows ?_
  refine Prog.Accounts.bind (Prog.Accounts.when ?_) fun _ =>
    Prog.Accounts.bind (Prog.Accounts.when ?_) fun _ => accounts_check
  · exact accounts_execRows.bind fun _ => (Prog.accounts_throwIf _).bind fun _ =>
      (Prog.accounts_touching _ _).bind fun _ => accounts_execRows.bind fun _ =>
        Prog.accounts_pure _
  · exact (Prog.accounts_touching _ _).bind fun _ => (Prog.accounts_touching _ _).bind fun _ =>
      accounts_check

lemma accounts_setKeyRows : (setKeyRows env name value).Accounts (setKey env name value) := by
  intro s
  unfold setKeyRows
  rw [Prog.run_bind_of_ok run_selectKeyRow, setKey_run]
  rcases s.state.keyRow (cstr name) with _ | info
  · exact accounts_insertKeyRows _
  · dsimp only
    split_ifs
    · exact accounts_updateKeyRows _
    · exact accounts_updateKeyRows _
    · exact accounts_updateKeyRows _
    · rfl

end Accounts

/-! ### The rows of one key -/

/-- The rows that `x` touches in `db`. -/
def touched {α : Type} (x : RowProg α) (db : Db) : List Row := (x.run ⟨db, []⟩).2.record

/-- A key row with the id `keyId` has the id `id`. -/
def Db.NoOther (id keyId : ℕ) (db : Db) : Prop := ∀ r ∈ db.keys.rows, r.id = keyId → r.id = id

/-- The same, and all rows on the record are of the key with the id `id`. -/
structure OwnOnly (id keyId : ℕ) (s : Recorded Db Row) : Prop where
  noOther : s.state.NoOther id keyId
  record : ∀ x ∈ s.record, x.keyId = id

/-- `x` touches rows of the key with the id `id` only. -/
abbrev Owns {α : Type} (id keyId : ℕ) (x : RowProg α) : Prop :=
  x.Keeps (OwnOnly id keyId) fun _ => OwnOnly id keyId

section OwnOnly

variable {env : SqlEnv} {site : Site} {db db' : Db} {id keyId n : ℕ} {t : ValueTable}
  {name : Bytes} {value : PropertyValue}

lemma own_keyRows (h : db.NoOther id keyId) : ∀ x ∈ keyRows keyId db, x.keyId = id := by
  intro x hx
  obtain ⟨r, hr, rfl⟩ := List.mem_map.mp hx
  obtain ⟨hmem, hid⟩ := List.mem_filter.mp hr
  exact h r hmem (by simpa using hid)

lemma own_valueRows (h : db.NoOther id keyId) : ∀ x ∈ valueRows t keyId db, x.keyId = id := by
  intro x hx
  obtain ⟨v, hv, rfl⟩ := List.mem_map.mp hx
  obtain ⟨hmem, hid⟩ := List.mem_filter.mp hv
  obtain ⟨r, hr, hrv⟩ := db.refers t v hmem
  have hprop : v.propertyId = keyId := by simpa using hid
  exact hrv.symm.trans (h r hr (hrv.trans hprop))

lemma noOther_modifyKey {f : KeyRow → KeyRow} {hk hi} (h : db.NoOther id keyId) :
    (db.modifyKey keyId f hk hi).NoOther id keyId := by
  intro r hr hid
  obtain ⟨r₀, hr₀, rfl⟩ := List.mem_map.mp hr
  have hsame : (if r₀.id == keyId then f r₀ else r₀).id = r₀.id := by
    split
    · exact hi r₀
    · rfl
  rw [hsame] at hid ⊢
  exact h r₀ hr₀ hid

/-! Each statement with the id `keyId` touches rows of the key only. -/

lemma own_modifyKey {f : KeyRow → KeyRow} {hk hi} {m : ℕ} (h : db.NoOther id keyId)
    (hs : some (db.modifyKey keyId f hk hi, m) = some (db', n)) :
    db'.NoOther id keyId ∧ ∀ x ∈ keyRows keyId db, x.keyId = id := by
  cases hs
  exact ⟨noOther_modifyKey h, own_keyRows h⟩

lemma own_deleteValueRows (h : db.NoOther id keyId)
    (hs : db.deleteValueRows t keyId = some (db', n)) :
    db'.NoOther id keyId ∧ ∀ x ∈ valueRows t keyId db, x.keyId = id := by
  refine ⟨?_, own_valueRows h⟩
  unfold Db.NoOther
  rw [(Db.keys_deleteValueRows hs).1]
  exact h

lemma own_upsertValueRow {column : t.Column} (h : db.NoOther id keyId)
    (hs : db.upsertValueRow t keyId column = some (db', n)) :
    db'.NoOther id keyId ∧ ∀ x ∈ [Row.value t keyId], x.keyId = id := by
  refine ⟨?_, fun x hx => ?_⟩
  · unfold Db.NoOther
    rw [(Db.upsertValueRow_some hs).2.keys]
    exact h
  · rw [List.mem_singleton.mp hx]
    unfold Db.upsertValueRow at hs
    split at hs
    · next hkey =>
      obtain ⟨⟨r, hr, hid⟩, -⟩ := hkey
      exact hid.symm.trans (h r hr hid)
    · cases hs

/-! The rules for programs. -/

lemma own_pure {α : Type} (a : α) : Owns id keyId (pure a) := .pure fun _ hs => hs

lemma own_throwIf {c : Prop} [Decidable c] (e : StoreError) : Owns id keyId (.throwIf c e) :=
  .throwIf (fun _ hs _ => hs) fun _ hs _ => hs

lemma own_when {c : Prop} [Decidable c] {x : RowProg Unit} (hx : c → Owns id keyId x) :
    Owns id keyId (.when c x) := .when hx fun _ hs _ => hs

lemma own_touching {α : Type} {rows : Db → List Row} {x : SqlProg α}
    (hok : ∀ {db db' a}, db.NoOther id keyId → x.run db = (.ok a, db') →
      db'.NoOther id keyId ∧ ∀ y ∈ rows db, y.keyId = id)
    (herror : ∀ {db db' e}, db.NoOther id keyId → x.run db = (.error e, db') →
      db'.NoOther id keyId) : Owns id keyId (.touching rows x) := by
  refine Prog.Ensures.touching (fun s a s' hs hrun => ?_) fun s e s' hs hrun => ?_
  · obtain ⟨hother, hrows⟩ := hok hs.noOther hrun
    refine ⟨hother, fun y hy => ?_⟩
    rcases List.mem_append.mp hy with hy | hy
    · exact hs.record y hy
    · exact hrows y hy
  · exact ⟨herror hs.noOther hrun, hs.record⟩

lemma own_readOnly {α : Type} {rows : Db → List Row} {x : SqlProg α} (h : x.ReadOnly)
    (hrows : ∀ {db}, db.NoOther id keyId → ∀ y ∈ rows db, y.keyId = id) :
    Owns id keyId (.touching rows x) := by
  refine own_touching (fun {db db' a} hother hrun => ?_) fun {db db' e} hother hrun => ?_
  · obtain rfl : db' = db := by simpa [hrun] using h db
    exact ⟨hother, hrows hother⟩
  · obtain rfl : db' = db := by simpa [hrun] using h db
    exact hother

lemma own_plain {α : Type} {x : SqlProg α} (h : x.ReadOnly) : Owns id keyId (.plain x) :=
  own_readOnly h fun _ => by simp

lemma own_execRows {rows : Db → List Row} {stmt : Db → Option (Db × ℕ)}
    (h : ∀ {db db' n}, db.NoOther id keyId → stmt db = some (db', n) →
      db'.NoOther id keyId ∧ ∀ x ∈ rows db, x.keyId = id) :
    Owns id keyId (execRows env site rows stmt) := by
  refine own_touching (fun hother hrun => ?_) fun hother hrun => ?_
  · obtain ⟨k, hstmt, -, -⟩ := exec_ok.mp hrun
    exact h hother hstmt
  · rw [exec_error hrun]
    exact hother

lemma own_check {rows : Db → List Row} {stmt : Db → Option (Db × ℕ)} {e : StoreError}
    (h : ∀ {db db' n}, db.NoOther id keyId → stmt db = some (db', n) →
      db'.NoOther id keyId ∧ ∀ x ∈ rows db, x.keyId = id) :
    Owns id keyId (execRows env site rows stmt >>= fun n => .throwIf (n = 0) e) :=
  (own_execRows h).bind fun _ => own_throwIf e

lemma own_transactionRows {body : RowProg Unit} (h : Owns id keyId body) :
    Owns id keyId (transactionRows env body) := by
  have hbody : Owns id keyId (do
      let _ ← .plain (exec env .begin fun db => some (db, 0))
      body
      let _ ← .plain (exec env .commit fun db => some (db, 0))) :=
    (own_plain readOnly_skip).bind fun _ => h.bind fun _ => (own_plain readOnly_skip).bind fun _ =>
      own_pure ()
  exact hbody.undoing fun s _ s' hs hs' => ⟨hs.noOther, hs'.record⟩

/-- An update with the id `keyId` touches rows of the key with the id `id` only. -/
lemma own_updateKeyRows {oldValueType : ℕ} :
    Owns id keyId (updateKeyRows env keyId oldValueType value) := by
  unfold updateKeyRows
  refine own_transactionRows ((own_when fun _ => ?_).bind fun _ => (own_when fun _ => ?_).bind
    fun _ => ?_)
  · -- the change of type, and the deletion of the old value
    exact (own_execRows own_modifyKey).bind fun _ => (own_throwIf _).bind fun _ =>
      (own_plain readOnly_tableFor).bind fun table => (own_execRows own_deleteValueRows).bind
        fun _ => own_pure ()
  · -- the value
    exact (own_plain readOnly_tableFor).bind fun table =>
      (own_plain readOnly_bindColumn).bind fun column => own_check own_upsertValueRow
  · -- the timestamp
    exact own_check own_modifyKey

lemma own_selectValue {valueType : ℕ} :
    Owns id keyId (.touching (valueRows t keyId) (selectValue name keyId valueType t)) :=
  own_readOnly (fun _ => rfl) own_valueRows

end OwnOnly

section Touched

variable {env : SqlEnv} {db : Db} {name : Bytes} {value : PropertyValue} {r k : KeyRow} {now : ℕ}

lemma ownOnly_named (hr : db.keyRow (cstr name) = some r) (h : db.NoOther r.id (uint32 r.id)) :
    OwnOnly r.id (uint32 r.id) ⟨db, namedRow name db⟩ := by
  refine ⟨h, fun x hx => ?_⟩
  rw [namedRow, hr] at hx
  rw [List.mem_singleton.mp hx]
  rfl

lemma run_setKeyRows (hr : db.keyRow (cstr name) = some r) :
    (setKeyRows env name value).run ⟨db, []⟩ =
      (if uint32 r.valueType = PropertyValueType.null.code ∨ value.isNull = true ∨
          uint32 r.valueType = (typeForValue value).code then
        updateKeyRows env (uint32 r.id) (uint32 r.valueType) value
      else .fail (.changingType name)).run ⟨db, namedRow name db⟩ := by
  unfold setKeyRows
  rw [Prog.run_bind_of_ok run_selectKeyRow]
  dsimp only
  rw [hr]
  dsimp only
  split_ifs <;> first | rfl | tauto

lemma touched_getKeyRows (hr : db.keyRow (cstr name) = some r) (h : db.NoOther r.id (uint32 r.id)) :
    ∀ x ∈ touched (getKeyRows name) db, x.keyId = r.id := by
  have hstart := ownOnly_named hr h
  unfold touched getKeyRows
  rw [Prog.run_bind_of_ok run_selectKeyRow]
  dsimp only
  rw [hr]
  dsimp only
  split_ifs
  · exact hstart.record
  · rcases valueTableName (uint32 r.valueType) with _ | t
    · exact hstart.record
    · exact (own_selectValue.state hstart).record

lemma touched_setKeyRows (hr : db.keyRow (cstr name) = some r) (h : db.NoOther r.id (uint32 r.id)) :
    ∀ x ∈ touched (setKeyRows env name value) db, x.keyId = r.id := by
  have hstart := ownOnly_named hr h
  rw [touched, run_setKeyRows hr]
  split_ifs
  · exact (own_updateKeyRows.state hstart).record
  · exact hstart.record

/-- The row `k` is on the record. -/
abbrev Touched (k : KeyRow) (s : Recorded Db Row) : Prop := .key k.id ∈ s.record

lemma touches_execRows {site : Site} {stmt : Db → Db × ℕ} :
    Prog.Ensures (fun s => k ∈ s.state.keys.rows)
      (execRows (.ok now) site (keyRows k.id) fun db => some (stmt db)) (fun _ => Touched k)
      fun _ => Touched k := by
  refine Prog.Ensures.touching (fun s a s' hs _ => ?_) fun s e s' hs hrun => ?_
  · refine List.mem_append_right _ (List.mem_map.mpr ⟨k, ?_, rfl⟩)
    exact List.mem_filter.mpr ⟨hs, by simp⟩
  · have hok : (exec (.ok now) site fun db => some (stmt db)).run s.state =
        (.ok (stmt s.state).2, (stmt s.state).1) := exec_of_some rfl
    cases hok.symm.trans hrun

lemma touches_updateKeyRows {old : ℕ} : Prog.Ensures (fun s => k ∈ s.state.keys.rows)
    (updateKeyRows (.ok now) k.id old .null) (fun _ => Touched k) fun _ => Touched k := by
  -- a null value: only the first statements can reach the row, the others keep what they touched
  have hkept : ∀ {α : Type} {rows : Db → List Row} {x : SqlProg α}, Prog.Keeps (Touched k)
      (.touching rows x) fun _ => Touched k := Prog.Ensures.mem_touching
  have hthrow : ∀ {c : Prop} [Decidable c] {e : StoreError}, Prog.Keeps (Touched k)
      (.throwIf c e) fun _ => Touched k := .throwIf (fun _ hs _ => hs) fun _ hs _ => hs
  have hbegin : Prog.Ensures (fun s => k ∈ s.state.keys.rows)
      (.plain (exec (.ok now) .begin fun db => some (db, 0)))
      (fun _ s => k ∈ s.state.keys.rows) fun _ => Touched k := by
    refine Prog.Ensures.touching (fun s a s' hs hrun => ?_) fun s e s' hs hrun => ?_
    · cases (exec_skip _ _).symm.trans hrun
      exact hs
    · cases (exec_skip _ _).symm.trans hrun
  unfold updateKeyRows
  refine Prog.Ensures.undoing (hbegin.bind fun _ => ?_) fun _ _ _ _ h => h
  refine Prog.Ensures.bind (Q := fun _ => Touched k) ?_ fun _ => hkept.bind fun _ =>
    .pure fun _ hs => hs
  -- a key that was null has no old value to delete and is reached by the UPDATE alone
  by_cases hold : old = PropertyValueType.null.code
  · refine (Prog.Ensures.when_neg (not_not.mpr hold)).bind fun _ =>
      (Prog.Ensures.when_neg (not_not.mpr rfl)).bind fun _ => ?_
    exact touches_execRows.bind fun _ => hthrow
  · refine (Prog.Ensures.when (fun _ => ?_) fun _ _ hne => absurd hold hne).bind fun _ =>
      (Prog.Ensures.when_neg (not_not.mpr rfl)).bind fun _ =>
        hkept.bind fun _ => hthrow
    exact touches_execRows.bind fun _ => hthrow.bind fun _ => hkept.bind fun _ =>
      hkept.bind fun _ => .pure fun _ hs => hs

/-- A row with the id that is left of the id of the key is touched. -/
lemma setKeyRows_touches (hr : db.keyRow (cstr name) = some r) (hk : k ∈ db.keys.rows)
    (hid : k.id = uint32 r.id) :
    .key k.id ∈ touched (setKeyRows (.ok now) name .null) db := by
  rw [touched, run_setKeyRows hr, if_pos (.inr (.inl rfl)), ← hid]
  exact touches_updateKeyRows.state hk

end Touched

/-! ### Runs -/

/-- The store after the calls `es`. -/
abbrev storeAfter (es : List (SqlEnv × Call)) : Db := machine.after machine.init es

/-- One of the calls created the key with the row id `id`, and stored its value under that id. -/
def InsertedWith (es : List (SqlEnv × Call)) (key : Bytes) (id : ℕ) : Prop :=
  ∃ before env name value rest, es = before ++ (env, .setKey name value) :: rest ∧
    key = cstr name ∧ (storeAfter before).keyRow key = none ∧
    ∃ r, (storeAfter (before ++ [(env, .setKey name value)])).keyRow key = some r ∧ r.id = id ∧
      (storeAfter (before ++ [(env, .setKey name value)])).HoldsAt r (env.kept value)

/-- If there is a key with the name, its row id is the one that it was inserted with, and `getKey`
and `setKey` touch rows with that id only, whatever is set and however the call ends. -/
def OwnRows (es : List (SqlEnv × Call)) (name : Bytes) : Prop :=
  ∀ r, (storeAfter es).keyRow (cstr name) = some r →
    InsertedWith es (cstr name) r.id ∧
    (∀ x ∈ touched (getKeyRows name) (storeAfter es), x.keyId = r.id) ∧
    ∀ env value, ∀ x ∈ touched (setKeyRows env name value) (storeAfter es), x.keyId = r.id

/-- The row id of another key is that of the key modulo `2 ^ 32`. -/
def Db.Aliased (db : Db) (name : Bytes) : Prop :=
  ∃ r, db.keyRow (cstr name) = some r ∧ ∃ k ∈ db.keys.rows, k.id = uint32 r.id ∧ k.id ≠ r.id

section Runs

variable {es : List (SqlEnv × Call)} {e : SqlEnv × Call} {db : Db} {name key : Bytes} {r : KeyRow}

lemma storeAfter_append (es : List (SqlEnv × Call)) (e : SqlEnv × Call) :
    storeAfter (es ++ [e]) = (machine.step (storeAfter es) e).2 := List.foldl_append

lemma InsertedWith.append {id : ℕ} (h : InsertedWith es key id) :
    InsertedWith (es ++ [e]) key id := by
  obtain ⟨before, env, name, value, rest, rfl, hrest⟩ := h
  exact ⟨before, env, name, value, rest ++ [e], by simp, hrest⟩

lemma insertedWith (h : (storeAfter es).keyRow key = some r) : InsertedWith es key r.id := by
  induction es using List.reverseRecOn generalizing r with
  | nil => cases h
  | append_singleton es e ih =>
    rw [storeAfter_append] at h
    rcases step_keyRow e h with ⟨r₀, hr₀, hid, -⟩ | ⟨env, name, value, rfl, hkey, hnew, hat⟩
    · rw [hid]
      exact (ih hr₀).append
    · rw [← storeAfter_append] at h hat
      exact ⟨es, env, name, value, [], rfl, hkey, hnew, r, h, rfl, hat⟩

lemma Db.noOther_of_not_aliased (h : ¬ db.Aliased name) (hr : db.keyRow (cstr name) = some r) :
    db.NoOther r.id (uint32 r.id) := fun k hk hid => by
  by_contra hne
  exact h ⟨r, hr, k, hk, hid, hne⟩

lemma Db.Aliased.touches (h : db.Aliased name) : ∃ r, db.keyRow (cstr name) = some r ∧
    ∃ x ∈ touched (setKeyRows (.ok 0) name .null) db, x.keyId ≠ r.id := by
  obtain ⟨r, hr, k, hk, hid, hne⟩ := h
  exact ⟨r, hr, .key k.id, setKeyRows_touches hr hk hid, hne⟩

end Runs

/-- **Row ids**: after any calls, `getKey` and `setKey` touch rows of the key itself only exactly if
no other key has its row id modulo `2 ^ 32`. -/
theorem ownRows_iff (es : List (SqlEnv × Call)) (name : Bytes) :
    OwnRows es name ↔ ¬ (storeAfter es).Aliased name := by
  constructor
  · intro hown haliased
    obtain ⟨r, hr, x, hx, hne⟩ := haliased.touches
    obtain ⟨-, -, hset⟩ := hown r hr
    exact hne (hset _ _ x hx)
  · intro h r hr
    have hother := Db.noOther_of_not_aliased h hr
    exact ⟨insertedWith hr, touched_getKeyRows hr hother, fun env value =>
      touched_setKeyRows hr hother⟩

/-- After `2 ^ 32` keys and `b`, setting `b` touches `a`. -/
theorem row_of_first_touched : ¬ ∀ (es : List (SqlEnv × Call)) (name : Bytes), OwnRows es name := by
  intro h
  obtain ⟨db, r, hreach, hr, hid, -, hfirst⟩ := exists_second
  obtain ⟨es, rfl⟩ := hreach.exists_after
  have haliased : (storeAfter es).Aliased (ascii "b") :=
    ⟨r, hr, firstRow, hfirst, by rw [hid]; rfl, by rw [hid]; decide⟩
  obtain ⟨r', hr', x, hx, hne⟩ := haliased.touches
  obtain ⟨-, -, hset⟩ := h es (ascii "b") r' hr'
  exact hne (hset _ _ x hx)

end Sativa.Store
