import Sativa.Machine
import Sativa.StoreSpec
import Mathlib.Logic.Function.Basic

/-!
Runs of the data store.

Over all runs, with every way a call can fail, the tables stay consistent, and as long as
keys are only written and read the store is a partial map from names to values.
-/

namespace Sativa.Store

/-- The calls of `DataStore`. -/
inductive Call
  | getKey (name : Bytes)
  | setKey (name : Bytes) (value : PropertyValue)
  | deleteKey (name : Bytes)
  | deleteSubkeys (namePrefix : Bytes)

inductive Answer
  | value (v : PropertyValue)
  | done
  | deleted (n : ℕ)

def Call.prog (env : SqlEnv) : Call → SqlProg Answer
  | getKey name => Answer.value <$> .reads fun db => Store.getKey db name
  | setKey name value => (fun _ => Answer.done) <$> Store.setKey env name value
  | deleteKey name => Answer.deleted <$> Store.deleteKey env name
  | deleteSubkeys namePrefix => Answer.deleted <$> Store.deleteSubkeys env namePrefix

/-- A store after `initSchema`, called in any environment. -/
def machine : Machine Db (SqlEnv × Call) (Except StoreError Answer) where
  init := .initSchema
  step db e := (e.2.prog e.1).run db

/-! ### Steps -/

section Steps

variable {env : SqlEnv} {db db' : Db} {name : Bytes} {value : PropertyValue}

lemma step_getKey : machine.step db (env, .getKey name) = ((getKey db name).map .value, db) :=
  Prog.run_map _

lemma step_setKey : machine.step db (env, .setKey name value) =
    (((setKey env name value).run db).1.map fun _ => .done, ((setKey env name value).run db).2) :=
  Prog.run_map _

lemma step_deleteKey : machine.step db (env, .deleteKey name) = (.error .sqlite, db) := by
  have h : machine.step db (env, .deleteKey name) = (((deleteKey env name).run db).1.map .deleted,
    ((deleteKey env name).run db).2) := Prog.run_map (x := deleteKey env name) _
  rw [h, deleteKey_run]
  rfl

lemma step_deleteSubkeys_run : machine.step db (env, .deleteSubkeys name) =
    (((deleteSubkeys env name).run db).1.map .deleted, ((deleteSubkeys env name).run db).2) :=
  Prog.run_map _

lemma step_deleteSubkeys : (machine.step db (env, .deleteSubkeys name)).2 = db ∨
    ∃ n, db.deleteKeyRows (fun r => Like.like (subkeyPattern name) r.key) =
      some ((machine.step db (env, .deleteSubkeys name)).2, n) := by
  rw [step_deleteSubkeys_run]
  exact deleteSubkeys_run env name db

/-- What `setKey` does to the tables, as a step. -/
lemma step_setKey_cases (hc : db.Coherent) (hseq : db.seq < 2 ^ 32) :
    ((machine.step db (env, .setKey name value)).1 = .ok .done ∧
      (machine.step db (env, .setKey name value)).2.Holds (cstr name) (env.kept value) ∧
      ∀ n ≠ cstr name, Db.SameKey n db (machine.step db (env, .setKey name value)).2) ∨
    ∃ e, machine.step db (env, .setKey name value) = (.error e, db) := by
  rw [step_setKey]
  rcases hs : (setKey env name value).run db with ⟨e | ⟨⟩, d⟩
  · exact .inr ⟨e, by rw [setKey_error hs]; rfl⟩
  · exact .inl ⟨rfl, setKey_ok hc hseq hs⟩

lemma step_mono (db : Db) (e : SqlEnv × Call) : db.seq ≤ (machine.step db e).2.seq := by
  obtain ⟨env, call⟩ := e
  cases call with
  | getKey name => rw [step_getKey]
  | setKey name value =>
    rw [step_setKey]
    exact setKey_mono db
  | deleteKey name => rw [step_deleteKey]
  | deleteSubkeys name =>
    rcases @step_deleteSubkeys env db name with hs | ⟨n, hs⟩
    · rw [hs]
    · rw [Db.seq_deleteKeyRows hs]

/-- A step keeps what the constraints of the tables do not say. -/
lemma coherent_step (hseq : db.seq < 2 ^ 32) (hc : db.Coherent) (e : SqlEnv × Call) :
    (machine.step db e).2.Coherent := by
  obtain ⟨env, call⟩ := e
  cases call with
  | getKey name => rwa [step_getKey]
  | setKey name value =>
    rcases step_setKey_cases hc hseq with ⟨-, hholds, hother⟩ | ⟨e, hs⟩
    · refine Db.coherent_of_names fun n r hr => ?_
      by_cases hn : n = cstr name
      · exact ⟨env.kept value, hn ▸ hholds⟩
      · have hold := (hother n hn).1.symm.trans hr
        obtain ⟨v, hv⟩ := hc.holds hold
        exact ⟨v, (hother n hn).holds ⟨r, hold, hv⟩⟩
    · rwa [hs]
  | deleteKey name => rwa [step_deleteKey]
  | deleteSubkeys name =>
    rcases @step_deleteSubkeys env db name with hs | ⟨n, hs⟩
    · rwa [hs]
    · refine Db.coherent_of_names fun k r hr => ?_
      rw [Db.keyRow_deleteKeyRows hs, Option.filter_eq_some_iff] at hr
      obtain ⟨v, hv⟩ := hc.holds hr.1
      exact ⟨v, (deleteKeyRows_sameKey hs hr.1 (by simpa using hr.2)).holds ⟨r, hr.1, hv⟩⟩

end Steps

/-! ### Consistency -/

lemma coherent_initSchema : Db.initSchema.Coherent := by
  intro r hr
  cases hr

lemma reachable_coherent {db : Db} (h : machine.Reachable db) :
    db.seq < 2 ^ 32 → db.Coherent := by
  refine h.invariant (P := fun db => db.seq < 2 ^ 32 → db.Coherent) (fun _ => coherent_initSchema)
    fun s e _ ih hseq => ?_
  have := step_mono s e
  exact coherent_step (by omega) (ih (by omega)) e

section SetKey

variable {env : SqlEnv} {db db' : Db} {name : Bytes} {value : PropertyValue}

lemma reachable_setKey (h : machine.Reachable db)
    (hset : (setKey env name value).run db = (.ok (), db')) : machine.Reachable db' := by
  have hstep := h.step (env, .setKey name value)
  rwa [step_setKey, hset] at hstep

lemma seq_le_of_setKey (hset : (setKey env name value).run db = (.ok (), db')) :
    db.seq ≤ db'.seq := by
  have hmono : db.seq ≤ ((setKey env name value).run db).2.seq := setKey_mono db
  rwa [hset] at hmono

end SetKey

/-- **Representation invariant**: names are unique; a key whose type has a value table has one
value row there and none elsewhere, a null key has none at all; every value row belongs to a
key; and no lookup finds the tables inconsistent. -/
theorem reachable_consistent {db : Db} (h : machine.Reachable db) (hseq : db.seq < 2 ^ 32) :
    (db.keys.rows.map KeyRow.key).Nodup ∧
    (∀ r ∈ db.keys.rows, ∃ type : PropertyValueType, r.valueType = type.code ∧
      ∀ t, ((db.values t).rows.filter fun v => v.propertyId == r.id).length =
        if valueTableName type.code = some t then 1 else 0) ∧
    (∀ t, ∀ v ∈ (db.values t).rows, ∃ r ∈ db.keys.rows, r.id = v.propertyId) ∧
    ∀ name, ∃ value, getKey db name = .ok value := by
  have hc := reachable_coherent h hseq
  refine ⟨db.keys.unique, fun r hr => ?_, db.refers, fun name => ?_⟩
  · obtain ⟨value, hold⟩ := hc r hr
    refine ⟨typeForValue value, hold.type, fun t => ?_⟩
    have hcount := (db.values t).length_filter_idx r.id
    by_cases ht : valueTableName (typeForValue value).code = some t
    · obtain ⟨column, -, hrow⟩ := hold.row t ht
      rw [if_pos ht]
      exact hcount.trans (by rw [← Db.valueRow, hrow]; rfl)
    · rw [if_neg ht]
      exact hcount.trans (by rw [← Db.valueRow, hold.noRow t ht]; rfl)
  · rcases hr : db.keyRow (cstr name) with _ | r
    · exact ⟨_, getKey_of_none hr⟩
    · obtain ⟨value, hold⟩ := hc.holds hr
      exact ⟨_, getKey_of_holds hseq ⟨r, hr, hold⟩⟩

/-- Two keys, a change of type that is refused, and a key set to null. -/
def sampleCalls : List (SqlEnv × Call) :=
  [(.ok 5, .setKey (ascii "net.up") (.bool true)),
    (.ok 6, .setKey (ascii "net.ip") (.string (ascii "::1"))),
    (.ok 7, .setKey (ascii "net.ip") (.bool false)),
    (.ok 8, .setKey (ascii "net.ip") .null)]

theorem reachable_consistent_sample :
    ((machine.exec sampleCalls).2.keys.rows.map KeyRow.key).Nodup ∧
      ∃ value, getKey (machine.exec sampleCalls).2 (ascii "net.up") = .ok value :=
  have h := reachable_consistent ⟨_, machine.run_exec sampleCalls⟩ (by decide)
  ⟨h.1, h.2.2.2 _⟩

/-! ### The map from names to values -/

/-- A partial map from names to values. -/
abbrev KeyMap := Bytes → Option PropertyValue

/-- What a call that was answered does to the map: a `setKey` that returned sets the name, to what
a column keeps of the value. -/
def KeyMap.after (m : KeyMap) : (SqlEnv × Call) × Except StoreError Answer → KeyMap
  | ((env, .setKey name value), .ok _) => Function.update m name (some (env.kept value))
  | _ => m

/-- The value of the last `setKey` that succeeded, for each name. -/
def lastSet (h : List ((SqlEnv × Call) × Except StoreError Answer)) : KeyMap :=
  h.foldl KeyMap.after fun _ => none

/-- `setKey` and `getKey` with C strings as names, and no NaN. -/
def Call.Plain : Call → Prop
  | getKey name => 0 ∉ name
  | setKey name value => 0 ∉ name ∧ value.isNaN = false
  | _ => False

instance : DecidablePred Call.Plain
  | .getKey name => inferInstanceAs (Decidable (0 ∉ name))
  | .setKey name value => inferInstanceAs (Decidable (0 ∉ name ∧ value.isNaN = false))
  | .deleteKey _ => isFalse id
  | .deleteSubkeys _ => isFalse id

/-- The tables hold what the map says. -/
def Represents (db : Db) (m : KeyMap) : Prop := ∀ name, match m name with
  | none => db.keyRow name = none
  | some value => db.Holds name value ∧ value.isNaN = false

section Represents

variable {db db' : Db} {m : KeyMap}

lemma Represents.coherent (h : Represents db m) : db.Coherent := by
  refine Db.coherent_of_names fun name r hr => ?_
  have hn := h name
  rcases hm : m name with _ | value
  · rw [hm] at hn
    cases hn.symm.trans hr
  · rw [hm] at hn
    exact ⟨value, hn.1⟩

lemma Represents.getKey (h : Represents db m) (hseq : db.seq < 2 ^ 32) {name : Bytes}
    (h0 : 0 ∉ name) : Store.getKey db name = .ok ((m name).elim .monostate .readBack) := by
  have hn := h name
  rw [← cstr_of_not_mem h0] at hn
  rcases hm : m (cstr name) with _ | value
  · rw [hm] at hn
    rw [getKey_of_none hn, ← cstr_of_not_mem h0, hm]
    rfl
  · rw [hm] at hn
    rw [getKey_of_holds hseq hn.1, PropertyValue.fetch_of_isNaN_false hn.2, ← cstr_of_not_mem h0,
      hm]
    rfl

/-- One call, and the map after it. -/
lemma Represents.step (h : Represents db m) (hseq : db.seq < 2 ^ 32) (e : SqlEnv × Call)
    (hp : e.2.Plain) :
    Represents (machine.step db e).2 (m.after (e, (machine.step db e).1)) := by
  obtain ⟨env, call⟩ := e
  cases call with
  | getKey name => rwa [step_getKey]
  | setKey name value =>
    rcases @step_setKey_cases env db name value h.coherent hseq with
      ⟨hok, hholds, hother⟩ | ⟨e, hs⟩
    · rw [hok]
      rw [cstr_of_not_mem hp.1] at hholds hother
      intro n
      by_cases hn : n = name
      · subst hn
        simpa [KeyMap.after] using ⟨hholds, (isNaN_kept env value).trans hp.2⟩
      · have hold := h n
        simp only [KeyMap.after, Function.update_of_ne hn]
        rcases hm : m n with _ | v
        · rw [hm] at hold
          exact (hother n hn).1.trans hold
        · rw [hm] at hold
          exact ⟨(hother n hn).holds hold.1, hold.2⟩
    · rwa [hs]
  | deleteKey name => cases hp
  | deleteSubkeys name => cases hp

end Represents

lemma run_represents {h : List ((SqlEnv × Call) × Except StoreError Answer)} {db : Db}
    (hr : machine.Run h db) :
    (∀ e ∈ h, e.1.2.Plain) → db.seq < 2 ^ 32 → Represents db (lastSet h) := by
  refine hr.relation (R := fun h db => (∀ e ∈ h, e.1.2.Plain) → db.seq < 2 ^ 32 →
    Represents db (lastSet h)) (fun _ _ _ => rfl) fun h db e _ ih hp hseq => ?_
  have := step_mono db e
  rw [lastSet, List.foldl_append]
  refine (ih (fun x hx => hp x (List.mem_append_left _ hx)) (by omega)).step (by omega) e ?_
  exact hp (e, (machine.step db e).1) (by simp)

/-- **Refinement**: over runs of `setKey` and `getKey` the store is the map of the values that
were set last, but for the sign of a zero that the column does not keep; a `setKey` that throws
changes no lookup, and one that returns changes no lookup of another name. -/
theorem run_refines_map {h : List ((SqlEnv × Call) × Except StoreError Answer)} {db : Db}
    (hr : machine.Run h db) (hp : ∀ e ∈ h, e.1.2.Plain) (hseq : db.seq < 2 ^ 32) :
    (∀ name, 0 ∉ name → getKey db name = .ok ((lastSet h name).elim .monostate .readBack)) ∧
    (∀ env name value e db', (setKey env name value).run db = (.error e, db') →
      ∀ k, getKey db' k = getKey db k) ∧
    ∀ env name value db', (setKey env name value).run db = (.ok (), db') →
      0 ∉ name → ∀ k, 0 ∉ k → k ≠ name → getKey db' k = getKey db k := by
  have hrep := run_represents hr hp hseq
  refine ⟨fun name h0 => hrep.getKey hseq h0, fun env name value e db' hs k => ?_,
    fun env name value db' hs h0 k hk hne => ?_⟩
  · rw [setKey_error hs]
  · refine getKey_congr (fun r hr => (Db.id_le_seq hr).trans_lt hseq)
      ((setKey_ok hrep.coherent hseq hs).2 _ ?_)
    rwa [cstr_of_not_mem hk, cstr_of_not_mem h0]

theorem run_refines_map_sample :
    getKey (machine.exec sampleCalls).2 (ascii "net.up") = .ok (.uint64 1) ∧
      getKey (machine.exec sampleCalls).2 (ascii "net.ip") = .ok .null :=
  have h := run_refines_map (machine.run_exec sampleCalls) (by decide) (by decide)
  ⟨h.1 (ascii "net.up") (by decide), h.1 (ascii "net.ip") (by decide)⟩

/-- `-0.0` is read back as `0.0`. -/
theorem negZero_lost : ¬ ∀ (h : List ((SqlEnv × Call) × Except StoreError Answer)) (db : Db),
    machine.Run h db → (∀ e ∈ h, e.1.2.Plain) → ∀ env name value db',
    (setKey env name value).run db = (.ok (), db') → 0 ∉ name → value.isNaN = false →
    db'.seq < 2 ^ 32 → getKey db' name = .ok value.readBack := by
  intro h
  have hset : (setKey (.ok 1) (ascii "r") (.double Ieee.negZero)).run .initSchema =
      (.ok (), ((setKey (.ok 1) (ascii "r") (.double Ieee.negZero)).run .initSchema).2) := rfl
  have hget := h [] .initSchema .init (by simp) _ _ _ _ hset (by decide) (by decide) (by decide)
  revert hget
  decide

end Sativa.Store
