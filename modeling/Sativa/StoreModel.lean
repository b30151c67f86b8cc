import Sativa.Buffer
import Sativa.Ieee
import Sativa.Table
import Mathlib.Logic.Function.Basic

/-!
The tables of the data store and the SQL statements issued on them.

A database keeps what SQLite enforces: unique key names, unique row ids that the sequence
has handed out, at most one value row for a property in each value table, and value rows
that refer to a key row. Every statement carries the proof that it keeps these, so a
database without them cannot be built. What ties the type tag of a key to its value row is
not enforced by SQLite and is not part of the type.
-/

namespace Sativa.Store

open Sativa

/-- The alternatives of the variant `PropertyValue`. -/
inductive PropertyValue where
  | monostate
  | null
  | string (s : Bytes)
  | blob (b : Bytes)
  | uint64 (n : UInt64)
  | double (d : Double)
  | bool (b : Bool)
  deriving DecidableEq

namespace PropertyValue

def isMonostate : PropertyValue → Bool
  | monostate => true
  | _ => false

lemma isMonostate_eq_false {v : PropertyValue} (h : v ≠ monostate) : v.isMonostate = false := by
  cases v with
  | monostate => exact absurd rfl h
  | _ => rfl

def isNull : PropertyValue → Bool
  | null => true
  | _ => false

def isNaN : PropertyValue → Bool
  | double d => Ieee.isNaN64 d
  | _ => false

/-- What a value is read back as: booleans are stored as integers, and a key without data
is null. -/
def readBack : PropertyValue → PropertyValue
  | monostate => null
  | bool b => uint64 (if b then 1 else 0)
  | v => v

end PropertyValue

inductive PropertyValueType
  | null | string | blob | integer | real
  deriving DecidableEq

/-- The number stored in the column `valueType`. -/
def PropertyValueType.code : PropertyValueType → ℕ
  | null => 0
  | string => 1
  | blob => 2
  | integer => 3
  | real => 4

inductive ValueTable
  | propertyValuesString | propertyValuesBlob | propertyValuesInteger | propertyValuesReal
  deriving DecidableEq

/-- The default of `SQLITE_MAX_LENGTH`. -/
def sqliteMaxLength : ℕ := 1000000000

/-- Text or a blob that SQLite can hold. -/
abbrev SqlBytes := {b : Bytes // b.length ≤ sqliteMaxLength}

/-- The column `value` of a table; `none` is SQL's `NULL`. -/
abbrev ValueTable.Column : ValueTable → Type
  | propertyValuesString => SqlBytes
  | propertyValuesBlob => Option SqlBytes
  | propertyValuesInteger => Int64
  | propertyValuesReal => Option Double

/-- The bytes of an integer in a record. -/
def intSize (n : ℕ) : ℕ :=
  if n < 2 then 0 else if n < 2 ^ 7 then 1 else if n < 2 ^ 15 then 2 else if n < 2 ^ 23 then 3
  else if n < 2 ^ 31 then 4 else if n < 2 ^ 47 then 6 else 8

/-- The bytes of a number of seven bits a byte. -/
def varintSize (n : ℕ) : ℕ :=
  if n < 2 ^ 7 then 1 else if n < 2 ^ 14 then 2 else if n < 2 ^ 21 then 3
  else if n < 2 ^ 28 then 4 else if n < 2 ^ 35 then 5 else 9

/-- The bytes of a text or a blob; no number has more than eight. -/
def ValueTable.dataSize : (t : ValueTable) → t.Column → ℕ
  | propertyValuesString, s => s.val.length
  | propertyValuesBlob, b => b.elim 0 fun b => b.val.length
  | _, _ => 8

/-- The bytes of the record of a value row with `n` bytes of data: in front of the property and the
value stand the size of the header and the types of the three columns. The row id has no bytes. -/
def recordSize (propertyId n : ℕ) : ℕ := 3 + varintSize (2 * n + 13) + intSize propertyId + n

/-- SQLite's limit is one on the whole row. -/
def RowFits (t : ValueTable) (propertyId : ℕ) (value : t.Column) : Prop :=
  recordSize propertyId (t.dataSize value) ≤ sqliteMaxLength

instance (t : ValueTable) (propertyId : ℕ) (value : t.Column) :
    Decidable (RowFits t propertyId value) := Nat.decLe _ _

structure KeyRow where
  id : ℕ
  key : Bytes
  valueType : ℕ
  createdAt : ℕ
  updatedAt : ℕ

structure ValueRow (α : Type) where
  propertyId : ℕ
  value : α

abbrev ValueRows (t : ValueTable) := Table (ValueRow.propertyId : ValueRow t.Column → ℕ)

/-- The five property tables, with the `sqlite_sequence` entry of `PropertyKeys`. -/
structure Db where
  keys : Table KeyRow.key
  seq : ℕ
  values : (t : ValueTable) → ValueRows t
  ids : (keys.rows.map KeyRow.id).Nodup
  ids_le : ∀ r ∈ keys.rows, r.id ≤ seq
  refers : ∀ t, ∀ v ∈ (values t).rows, ∃ r ∈ keys.rows, r.id = v.propertyId

namespace Db

/-- The property tables that `initSchema` creates. -/
def initSchema : Db where
  keys := .empty
  seq := 0
  values _ := .empty
  ids := by simp [Table.empty]
  ids_le := by simp [Table.empty]
  refers := by simp [Table.empty]

variable (db : Db)

/-- `SELECT id, valueType FROM PropertyKeys WHERE key = :keyName`. -/
def keyRow (name : Bytes) : Option KeyRow := db.keys.find? name

/-- `SELECT id, propertyId, value FROM <t> WHERE propertyId = :keyId`. -/
def valueRow (t : ValueTable) (keyId : ℕ) : Option (ValueRow t.Column) := (db.values t).find? keyId

lemma eq_of_id {r r' : KeyRow} (h : r ∈ db.keys.rows) (h' : r' ∈ db.keys.rows)
    (hid : r.id = r'.id) : r = r' := List.inj_on_of_nodup_map db.ids h h' hid

/-- A value table with other rows, which still refer to key rows. -/
def setValues (t : ValueTable) (rows : ValueRows t)
    (h : ∀ v ∈ rows.rows, ∃ r ∈ db.keys.rows, r.id = v.propertyId) : Db :=
  { db with
    values := Function.update db.values t rows
    refers := by
      intro t' v hv
      by_cases ht : t' = t
      · subst ht
        rw [Function.update_self] at hv
        exact h v hv
      · rw [Function.update_of_ne ht] at hv
        exact db.refers t' v hv }

/-- The key row with id `id` changed by `f`, which keeps the id and the name. -/
def modifyKey (id : ℕ) (f : KeyRow → KeyRow) (hkey : ∀ r, (f r).key = r.key)
    (hid : ∀ r, (f r).id = r.id) : Db :=
  have hids : ∀ r : KeyRow, (if r.id == id then f r else r).id = r.id := by
    intro r
    split <;> simp [hid]
  { db with
    keys := db.keys.update (fun r => r.id == id) f hkey
    ids := by
      have h : KeyRow.id ∘ (fun r : KeyRow => if r.id == id then f r else r) = KeyRow.id :=
        funext hids
      rw [Table.update, List.map_map, h]
      exact db.ids
    ids_le := by
      intro r hr
      obtain ⟨r₀, hr₀, rfl⟩ := List.mem_map.mp hr
      rw [hids]
      exact db.ids_le r₀ hr₀
    refers := by
      intro t v hv
      obtain ⟨r, hr, hrv⟩ := db.refers t v hv
      exact ⟨_, List.mem_map_of_mem hr, by rw [hids, hrv]⟩ }

/-! ### Statements

A statement returns the database after it and the number of rows it changed; `none` is an
error. -/

/-- `INSERT INTO PropertyKeys (key, valueType) VALUES (:key, :type)`. The id is one more than
any id that was ever used, and the timestamps default to the current time. -/
def insertKeyRow (now : ℕ) (key : Bytes) (valueType : ℕ) : Option (Db × ℕ) :=
  if 2 ^ 63 - 1 ≤ db.seq then none
  else match h : db.keys.insert? ⟨db.seq + 1, key, valueType, now, now⟩ with
    | none => none
    | some keys =>
      have hrows := (Table.insert?_eq_some.mp h).2
      some ({
        keys := keys
        seq := db.seq + 1
        values := db.values
        ids := by
          rw [hrows, List.map_append, List.nodup_append]
          refine ⟨db.ids, by simp, ?_⟩
          rintro a ha b hb rfl
          obtain ⟨r, hr, rfl⟩ := List.mem_map.mp ha
          have := db.ids_le r hr
          simp at hb
          omega
        ids_le := by
          intro r hr
          rw [hrows] at hr
          rcases List.mem_append.mp hr with hr | hr
          · exact (db.ids_le r hr).trans (by omega)
          · rw [List.mem_singleton.mp hr]
        refers := by
          intro t v hv
          obtain ⟨r, hr, hrv⟩ := db.refers t v hv
          exact ⟨r, by rw [hrows]; exact List.mem_append_left _ hr, hrv⟩ }, 1)

/-- `INSERT INTO <t> (propertyId, value) VALUES(:keyId, :value)`. -/
def insertValueRow (t : ValueTable) (keyId : ℕ) (value : t.Column) : Option (Db × ℕ) :=
  if hfk : (∃ r ∈ db.keys.rows, r.id = keyId) ∧ RowFits t keyId value then
    match h : (db.values t).insert? ⟨keyId, value⟩ with
    | none => none
    | some rows => some (db.setValues t rows fun v hv => by
        rw [(Table.insert?_eq_some.mp h).2] at hv
        rcases List.mem_append.mp hv with hv | hv
        · exact db.refers t v hv
        · rw [List.mem_singleton.mp hv]
          exact hfk.1, 1)
  else none

/-- `INSERT INTO <t> (propertyId, value) VALUES (:keyId, :value) ON CONFLICT(propertyId) DO
UPDATE SET value=:value`. -/
def upsertValueRow (t : ValueTable) (keyId : ℕ) (value : t.Column) : Option (Db × ℕ) :=
  if hfk : (∃ r ∈ db.keys.rows, r.id = keyId) ∧ RowFits t keyId value then
    some (db.setValues t ((db.values t).upsert ⟨keyId, value⟩) fun v hv => by
      have hf := Table.find?_of_mem hv
      rw [Table.find?_upsert] at hf
      split at hf
      · next hk => rw [← hk]; exact hfk.1
      · exact db.refers t v (Table.find?_eq_some.mp hf).1, 1)
  else none

/-- `UPDATE PropertyKeys SET valueType = :newValueType WHERE id = :keyId`. -/
def updateValueType (keyId valueType : ℕ) : Option (Db × ℕ) :=
  some (db.modifyKey keyId (fun r => { r with valueType }) (fun _ => rfl) (fun _ => rfl),
    db.keys.rows.countP fun r => r.id == keyId)

/-- `UPDATE PropertyKeys SET updatedAt = strftime('%s','now') WHERE id = :keyId`. -/
def updateUpdatedAt (now keyId : ℕ) : Option (Db × ℕ) :=
  some (db.modifyKey keyId (fun r => { r with updatedAt := now }) (fun _ => rfl) (fun _ => rfl),
    db.keys.rows.countP fun r => r.id == keyId)

/-- `DELETE FROM <t> WHERE propertyId = :keyId`. -/
def deleteValueRows (t : ValueTable) (keyId : ℕ) : Option (Db × ℕ) :=
  some (db.setValues t ((db.values t).delete fun v => v.propertyId == keyId)
      (fun v hv => db.refers t v (List.mem_of_mem_filter hv)),
    (db.values t).rows.countP fun v => v.propertyId == keyId)

/-- `DELETE FROM PropertyKeys WHERE <p>`; the value rows go with their key row. -/
def deleteKeyRows (p : KeyRow → Bool) : Option (Db × ℕ) :=
  let gone (keyId : ℕ) : Bool := db.keys.rows.any fun r => p r && r.id == keyId
  some ({
    keys := db.keys.delete p
    seq := db.seq
    values := fun t => (db.values t).delete fun v => gone v.propertyId
    ids := db.ids.sublist (List.filter_sublist.map _)
    ids_le := fun r hr => db.ids_le r (List.mem_of_mem_filter hr)
    refers := by
      intro t v hv
      obtain ⟨hv, hg⟩ := List.mem_filter.mp hv
      obtain ⟨r, hr, hrv⟩ := db.refers t v hv
      refine ⟨r, List.mem_filter.mpr ⟨hr, ?_⟩, hrv⟩
      by_contra hp
      have : gone v.propertyId = true :=
        List.any_eq_true.mpr ⟨r, hr, by simp at hp; simp [hp, hrv]⟩
      simp [this] at hg }, db.keys.rows.countP p)

/-! ### Rows that fit -/

lemma intSize_le (n : ℕ) : intSize n ≤ 8 := by
  unfold intSize
  split_ifs <;> omega

lemma varintSize_le (n : ℕ) : varintSize n ≤ 9 := by
  unfold varintSize
  split_ifs <;> omega

lemma rowFits_of_le {t : ValueTable} {keyId : ℕ} {value : t.Column}
    (h : t.dataSize value + 20 ≤ sqliteMaxLength) : RowFits t keyId value := by
  have hint := intSize_le keyId
  have hvarint := varintSize_le (2 * t.dataSize value + 13)
  unfold RowFits recordSize
  omega

/-! ### What the statements change -/

section Effects

variable {db} {db' : Db} {n keyId : ℕ}

lemma valueRow_setValues {t : ValueTable} {rows : ValueRows t} {h} (id : ℕ) :
    (db.setValues t rows h).valueRow t id = rows.find? id := by
  simp [valueRow, setValues]

lemma valueRow_setValues_of_ne {t t' : ValueTable} {rows : ValueRows t} {h} (ht : t' ≠ t) (id : ℕ) :
    (db.setValues t rows h).valueRow t' id = db.valueRow t' id := by
  simp [valueRow, setValues, ht]

lemma keyRow_modifyKey {f : KeyRow → KeyRow} {hk hi} (name : Bytes) :
    (db.modifyKey keyId f hk hi).keyRow name =
      (db.keyRow name).map fun r => if r.id == keyId then f r else r :=
  Table.find?_update _ _ _ hk _

@[simp] lemma valueRow_modifyKey {f : KeyRow → KeyRow} {hk hi} (t : ValueTable) (id : ℕ) :
    (db.modifyKey keyId f hk hi).valueRow t id = db.valueRow t id := rfl

lemma keyRow_mem {name : Bytes} {r : KeyRow} (h : db.keyRow name = some r) :
    r ∈ db.keys.rows ∧ r.key = name := Table.find?_eq_some.mp h

lemma insertKeyRow_some {now : ℕ} {key : Bytes} {valueType : ℕ}
    (h : db.insertKeyRow now key valueType = some (db', n)) :
    n = 1 ∧ db.keyRow key = none ∧ db'.seq = db.seq + 1 ∧ db'.values = db.values ∧
      db'.keys.rows = db.keys.rows ++ [⟨db.seq + 1, key, valueType, now, now⟩] := by
  unfold insertKeyRow at h
  split at h
  · cases h
  split at h
  · cases h
  · next keys hk =>
    obtain ⟨rfl, rfl⟩ := Prod.mk.inj (Option.some.inj h)
    obtain ⟨hn, hr⟩ := Table.insert?_eq_some.mp hk
    exact ⟨rfl, hn, rfl, rfl, hr⟩

lemma keyRow_insertKeyRow {now : ℕ} {key : Bytes} {valueType : ℕ}
    (h : db.insertKeyRow now key valueType = some (db', n)) (name : Bytes) :
    db'.keyRow name =
      if key = name then some ⟨db.seq + 1, key, valueType, now, now⟩ else db.keyRow name := by
  obtain ⟨-, hn, -, -, hr⟩ := insertKeyRow_some h
  have hi : db.keys.insert? ⟨db.seq + 1, key, valueType, now, now⟩ = some db'.keys :=
    Table.insert?_eq_some.mpr ⟨hn, hr⟩
  exact Table.find?_insert? hi name

lemma valueRow_insertKeyRow {now : ℕ} {key : Bytes} {valueType : ℕ}
    (h : db.insertKeyRow now key valueType = some (db', n)) (t : ValueTable) (id : ℕ) :
    db'.valueRow t id = db.valueRow t id := by
  rw [valueRow, (insertKeyRow_some h).2.2.2.1, valueRow]

/-- The value row for `keyId` in table `t` is `value`, which fits, and nothing else is different. -/
structure PutValue (db : Db) (t : ValueTable) (keyId : ℕ) (value : t.Column) (db' : Db) : Prop where
  seq : db'.seq = db.seq
  keys : db'.keys = db.keys
  here : db'.valueRow t keyId = some ⟨keyId, value⟩
  elsewhere : ∀ id ≠ keyId, db'.valueRow t id = db.valueRow t id
  tables : ∀ t' ≠ t, ∀ id, db'.valueRow t' id = db.valueRow t' id
  fits : RowFits t keyId value

lemma insertValueRow_some {t : ValueTable} {value : t.Column}
    (h : db.insertValueRow t keyId value = some (db', n)) :
    n = 1 ∧ PutValue db t keyId value db' := by
  unfold insertValueRow at h
  split at h
  · next hrow =>
    split at h
    · cases h
    · next rows hr =>
      obtain ⟨rfl, rfl⟩ := Prod.mk.inj (Option.some.inj h)
      refine ⟨rfl, rfl, rfl, ?_, fun id hid => ?_, fun t' ht id => valueRow_setValues_of_ne ht id,
        hrow.2⟩
      · rw [valueRow_setValues, Table.find?_insert? hr, if_pos rfl]
      · rw [valueRow_setValues, Table.find?_insert? hr, if_neg (Ne.symm hid)]
        rfl
  · cases h

lemma upsertValueRow_some {t : ValueTable} {value : t.Column}
    (h : db.upsertValueRow t keyId value = some (db', n)) :
    n = 1 ∧ PutValue db t keyId value db' := by
  unfold upsertValueRow at h
  split at h
  · next hrow =>
    obtain ⟨rfl, rfl⟩ := Prod.mk.inj (Option.some.inj h)
    refine ⟨rfl, rfl, rfl, ?_, fun id hid => ?_, fun t' ht id => valueRow_setValues_of_ne ht id,
      hrow.2⟩
    · rw [valueRow_setValues, Table.find?_upsert, if_pos rfl]
    · rw [valueRow_setValues, Table.find?_upsert, if_neg (Ne.symm hid)]
      rfl
  · cases h

lemma insertKeyRow_of_none {now : ℕ} {key : Bytes} {valueType : ℕ} (h : db.keyRow key = none)
    (hseq : db.seq < 2 ^ 63 - 1) : ∃ db', db.insertKeyRow now key valueType = some (db', 1) := by
  unfold insertKeyRow
  rw [if_neg (by omega)]
  split
  · next hk =>
    obtain ⟨r, hr⟩ := Table.insert?_eq_none.mp hk
    cases hr.symm.trans h
  · exact ⟨_, rfl⟩

lemma insertValueRow_of_none {t : ValueTable} {value : t.Column}
    (hkey : ∃ r ∈ db.keys.rows, r.id = keyId) (hfits : RowFits t keyId value)
    (h : db.valueRow t keyId = none) :
    ∃ db', db.insertValueRow t keyId value = some (db', 1) := by
  unfold insertValueRow
  rw [dif_pos ⟨hkey, hfits⟩]
  split
  · next hk =>
    obtain ⟨r, hr⟩ := Table.insert?_eq_none.mp hk
    cases hr.symm.trans h
  · exact ⟨_, rfl⟩

lemma upsertValueRow_of_key {t : ValueTable} {value : t.Column}
    (hkey : ∃ r ∈ db.keys.rows, r.id = keyId) (hfits : RowFits t keyId value) :
    ∃ db', db.upsertValueRow t keyId value = some (db', 1) := by
  unfold upsertValueRow
  rw [dif_pos ⟨hkey, hfits⟩]
  exact ⟨_, rfl⟩

lemma valueRow_deleteValueRows {t : ValueTable}
    (h : db.deleteValueRows t keyId = some (db', n)) (id : ℕ) :
    db'.valueRow t id = if id = keyId then none else db.valueRow t id := by
  obtain ⟨rfl, rfl⟩ := Prod.mk.inj (Option.some.inj h)
  rw [valueRow_setValues, Table.find?_delete]
  change (db.valueRow t id).filter _ = _
  rcases hv : db.valueRow t id with _ | v
  · simp
  · obtain ⟨-, rfl⟩ := Table.find?_eq_some.mp hv
    by_cases hk : v.propertyId = keyId <;> simp [hk]

lemma valueRow_deleteValueRows_of_ne {t t' : ValueTable} (ht : t' ≠ t)
    (h : db.deleteValueRows t keyId = some (db', n)) (id : ℕ) :
    db'.valueRow t' id = db.valueRow t' id := by
  obtain ⟨rfl, rfl⟩ := Prod.mk.inj (Option.some.inj h)
  exact valueRow_setValues_of_ne ht id

lemma keys_deleteValueRows {t : ValueTable} (h : db.deleteValueRows t keyId = some (db', n)) :
    db'.keys = db.keys ∧ db'.seq = db.seq := by
  obtain ⟨rfl, rfl⟩ := Prod.mk.inj (Option.some.inj h)
  exact ⟨rfl, rfl⟩

lemma rows_deleteKeyRows {p : KeyRow → Bool} (h : db.deleteKeyRows p = some (db', n)) :
    db'.keys.rows = (db.keys.rows.filter fun r => !p r) ∧ n = db.keys.rows.countP p := by
  cases h
  exact ⟨rfl, rfl⟩

lemma keyRow_deleteKeyRows {p : KeyRow → Bool} (h : db.deleteKeyRows p = some (db', n))
    (name : Bytes) : db'.keyRow name = (db.keyRow name).filter fun r => !p r := by
  cases h
  exact Table.find?_delete _ _ _

lemma valueRow_deleteKeyRows {p : KeyRow → Bool} (h : db.deleteKeyRows p = some (db', n))
    {r : KeyRow} (hr : r ∈ db.keys.rows) (hp : p r = false) (t : ValueTable) :
    db'.valueRow t r.id = db.valueRow t r.id := by
  have hkept : (db.keys.rows.any fun r' => p r' && r'.id == r.id) = false := by
    rw [List.any_eq_false]
    intro r' hr' hgone
    simp only [Bool.and_eq_true, beq_iff_eq] at hgone
    rw [db.eq_of_id hr' hr hgone.2, hp] at hgone
    exact absurd hgone.1 (by simp)
  cases h
  change ((db.values t).delete _).find? r.id = (db.values t).find? r.id
  rw [Table.find?_delete]
  rcases hv : (db.values t).find? r.id with _ | v
  · rfl
  · obtain ⟨-, hid⟩ := Table.find?_eq_some.mp hv
    simp [hid, hkept]

lemma seq_deleteKeyRows {p : KeyRow → Bool} (h : db.deleteKeyRows p = some (db', n)) :
    db'.seq = db.seq := by
  cases h
  rfl

end Effects

end Db

end Sativa.Store
