import Sativa.StoreRuns

/-!
The constructor of `DataStore`, and what becomes of a database file over many sessions.

Opening a file that has no schema creates it in one transaction, and opening one that has it only
reads. A session ends when the process goes away, be it in the middle of a call: SQLite then rolls
back what was not committed, as it does when a statement fails.
-/

namespace Sativa.Store

open Sativa

/-! ### The file -/

/-- A row of `MetaInfo`; whatever is inserted for a value is stored as text. -/
structure MetaRow where
  key : Bytes
  value : Bytes

inductive TableName
  | metaInfo
  | propertyKeys
  | propertyValues (t : ValueTable)
  deriving DecidableEq

/-- A name as SQLite compares it. -/
def foldCase (name : Bytes) : Bytes := name.map Like.toLower

namespace TableName

def name : TableName → Bytes
  | metaInfo => ascii "MetaInfo"
  | propertyKeys => ascii "PropertyKeys"
  | propertyValues .propertyValuesString => ascii "PropertyValuesString"
  | propertyValues .propertyValuesBlob => ascii "PropertyValuesBlob"
  | propertyValues .propertyValuesInteger => ascii "PropertyValuesInteger"
  | propertyValues .propertyValuesReal => ascii "PropertyValuesReal"

/-- The indices that are created with the table. -/
def indexes (t : TableName) : List Bytes := match t with
  | propertyValues _ => [t.name ++ ascii "_i1", t.name ++ ascii "_i2"]
  | _ => [t.name ++ ascii "_i1"]

end TableName

/-- A database file: its tables, and the rows of `MetaInfo` and of the property tables. -/
structure File where
  tables : List TableName
  /-- the names of all other tables, views and indices, with small letters -/
  others : List Bytes
  metaInfo : Table MetaRow.key
  props : Db
  /-- `MetaInfo` has no rows when it is not there -/
  noRows : .metaInfo ∉ tables → metaInfo.rows = []

/-- A file that SQLite has just created. -/
def File.new : File := ⟨[], [], .empty, .initSchema, fun _ => rfl⟩

def File.addTable (file : File) (t : TableName) : File where
  tables := file.tables ++ [t]
  others := file.others
  metaInfo := file.metaInfo
  props := file.props
  noRows h := file.noRows fun ht => h (List.mem_append_left _ ht)

/-! ### The constructor -/

/-- What the constructor throws. -/
inductive OpenError
  | sqlite
  /-- a `std::string` is constructed from `nullptr` -/
  | nullString
  /-- `failed to get schema version!` -/
  | noVersion
  /-- thrown by `std::stoul` -/
  | invalidArgument
  | outOfRange
  /-- `unsupported schema version {} (expected {})` -/
  | unsupportedVersion (version : ℕ)
  deriving DecidableEq

/-- The places where the constructor calls SQLite. -/
inductive OpenSite
  | openDb | foreignKeys | tableExists | begin
  | createTable (t : TableName)
  | createIndexes (t : TableName)
  | insertMeta (key : Bytes)
  | commit | selectMeta
  deriving DecidableEq

/-- What the constructor finds outside the file: the time, and the calls that fail. -/
structure OpenEnv where
  now : ℕ
  fault : OpenSite → Bool

/-- Nothing goes wrong at `now`. -/
def OpenEnv.ok (now : ℕ) : OpenEnv := ⟨now, fun _ => false⟩

abbrev OpenProg := Prog OpenError File

def kMetaTableName : TableName := .metaInfo

def kCurrentSchemaVersion : ℕ := 1

/-- The version of the project. -/
def kVersion : Bytes := ascii "1.0"

/-- The bits of an `unsigned long` on the target. -/
def ulongBits : ℕ := 32

section Constructor

variable (env : OpenEnv)

/-- A statement; `none` is an error. -/
def statement (site : OpenSite) (stmt : File → Option File) : OpenProg Unit :=
  ⟨fun file => if env.fault site then (.error .sqlite, file) else match stmt file with
    | none => (.error .sqlite, file)
    | some file' => (.ok (), file')⟩

/-- Something else has the name. -/
def File.Taken (file : File) (name : Bytes) : Prop := foldCase name ∈ file.others

instance (file : File) (name : Bytes) : Decidable (file.Taken name) :=
  inferInstanceAs (Decidable (_ ∈ _))

/-- `CREATE TABLE` and the `CREATE INDEX` statements behind it. -/
def createTable (t : TableName) : OpenProg Unit := do
  statement env (.createTable t) fun file =>
    if t ∈ file.tables ∨ file.Taken t.name then none else some (file.addTable t)
  statement env (.createIndexes t) fun file =>
    if ∃ name ∈ t.indexes, file.Taken name then none else some file

/-- `INSERT INTO MetaInfo(key, value) VALUES (:key, :value)`. -/
def insertMeta (key value : Bytes) : OpenProg Unit :=
  statement env (.insertMeta key) fun file =>
    if ht : .metaInfo ∈ file.tables then
      (file.metaInfo.insert? ⟨key, value⟩).map fun metaInfo =>
        { file with metaInfo, noRows := fun h => absurd ht h }
    else none

/-- The scope of the transaction. -/
def initSchema : OpenProg Unit := .atomically do
  statement env .begin some
  createTable env .metaInfo
  createTable env .propertyKeys
  createTable env (.propertyValues .propertyValuesString)
  createTable env (.propertyValues .propertyValuesBlob)
  createTable env (.propertyValues .propertyValuesInteger)
  createTable env (.propertyValues .propertyValuesReal)
  insertMeta env (ascii "creator.swversion") kVersion
  insertMeta env (ascii "creator.timestamp") (ascii (toString env.now))
  insertMeta env (ascii "schema.version") (ascii (toString kCurrentSchemaVersion))
  statement env .commit some

/-- `getMetaValue`; a key that is not there is not answered with `nullopt`. -/
def getMetaValue (key : Bytes) : OpenProg (Option Bytes) := do
  statement env .selectMeta fun file => if .metaInfo ∈ file.tables then some file else none
  .reads fun file => match file.metaInfo.find? key with
    | none => .error .nullString
    | some row => .ok (some row.value)

def isSpace (c : UInt8) : Bool := c = 32 || (9 ≤ c && c ≤ 13)

def isDigit (c : UInt8) : Bool := 48 ≤ c && c ≤ 57

/-- `std::stoul`, with the sign that `strtoul` takes. -/
def stoul (str : Bytes) : Except OpenError ℕ :=
  let s := (cstr str).dropWhile isSpace
  let negative := s.head? = some 45
  let s := if s.head? = some 45 ∨ s.head? = some 43 then s.tail else s
  let digits := s.takeWhile isDigit
  let n := digits.foldl (fun n c => 10 * n + (c.toNat - 48)) 0
  if digits = [] then .error .invalidArgument
  else if 2 ^ ulongBits ≤ n then .error .outOfRange
  else .ok (if negative then (2 ^ ulongBits - n) % 2 ^ ulongBits else n)

/-- The end of the constructor. -/
def checkVersion : OpenProg Unit := do
  let versionStr ← getMetaValue env (ascii "schema.version")
  match versionStr with
  | none => .fail .noVersion
  | some versionStr => do
    let version ← .ofExcept (stoul versionStr)
    .throwIf (version > kCurrentSchemaVersion) (.unsupportedVersion version)

/-- `DataStore::DataStore`. -/
def openStore : OpenProg Unit := do
  statement env .openDb some
  statement env .foreignKeys some
  statement env .tableExists some
  let file ← .get
  .when (kMetaTableName ∉ file.tables) (initSchema env)
  checkVersion env

end Constructor

/-! ### Sessions -/

/-- A file, and whether a process has it open. -/
structure Session where
  file : File
  isOpen : Bool

inductive SessionEvent
  | start (env : OpenEnv)
  | call (env : SqlEnv) (call : Call)
  /-- the process goes away -/
  | stop

/-- What a call does to the file. -/
def callFile (env : SqlEnv) (call : Call) (file : File) : Except StoreError Answer × File :=
  let r := (call.prog env).run file.props
  (r.1, { file with props := r.2 })

/-- A step, with the answer if a call is made. A process that cannot open the file exits. -/
def Session.step (s : Session) : SessionEvent → Option (Except StoreError Answer) × Session
  | .start env =>
    if s.isOpen then (none, s)
    else match (openStore env).run s.file with
      | (.ok (), file) => (none, ⟨file, true⟩)
      | (.error _, file) => (none, ⟨file, false⟩)
  | .call env call =>
    if s.isOpen then
      let r := callFile env call s.file
      (some r.1, ⟨r.2, true⟩)
    else (none, s)
  | .stop => (none, { s with isOpen := false })

def sessions : Machine Session SessionEvent (Option (Except StoreError Answer)) :=
  ⟨⟨.new, false⟩, Session.step⟩

/-- The calls of a history, with their answers. -/
def callsOf (h : List (SessionEvent × Option (Except StoreError Answer))) :
    List ((SqlEnv × Call) × Except StoreError Answer) :=
  h.filterMap fun
    | (.call env call, some answer) => some ((env, call), answer)
    | _ => none

/-! ### Opening -/

/-- The tables of the schema, in the order in which they are created. -/
def schemaTables : List TableName :=
  [.metaInfo, .propertyKeys, .propertyValues .propertyValuesString,
    .propertyValues .propertyValuesBlob, .propertyValues .propertyValuesInteger,
    .propertyValues .propertyValuesReal]

section Open

variable {env : OpenEnv} {file file' : File} {site : OpenSite} {stmt : File → Option File}
  {t : TableName} {key value : Bytes}

lemma statement_ok {u : Unit} : (statement env site stmt).run file = (.ok u, file') ↔
    env.fault site = false ∧ stmt file = some file' := by
  unfold statement
  rcases hf : env.fault site with _ | _
  · rcases hs : stmt file with _ | f <;> simp [hs]
  · simp

lemma statement_run (hf : env.fault site = false) (hs : stmt file = some file') :
    (statement env site stmt).run file = (.ok (), file') := statement_ok.mpr ⟨hf, hs⟩

lemma readOnly_statement (h : ∀ file file', stmt file = some file' → file' = file) :
    (statement env site stmt).ReadOnly := by
  intro file
  rcases hr : (statement env site stmt).run file with ⟨e | ⟨⟩, file'⟩
  · unfold statement at hr
    dsimp only at hr
    split_ifs at hr
    · exact (Prod.mk.inj hr).2.symm
    · split at hr
      · exact (Prod.mk.inj hr).2.symm
      · cases hr
  · exact h _ _ (statement_ok.mp hr).2

/-- The table and its indices can be created. -/
structure File.Free (file : File) (t : TableName) : Prop where
  missing : t ∉ file.tables
  name : ¬ file.Taken t.name
  indexes : ∀ name ∈ t.indexes, ¬ file.Taken name

lemma File.Free.addTable {t' : TableName} (h : file.Free t) (ht : t ≠ t') :
    (file.addTable t').Free t where
  missing hmem := by
    rcases List.mem_append.mp hmem with hmem | hmem
    · exact h.missing hmem
    · exact ht (List.mem_singleton.mp hmem)
  name := h.name
  indexes := h.indexes

lemma File.Free.of_addTable {t' : TableName} (h : (file.addTable t').Free t) : file.Free t where
  missing hmem := h.missing (List.mem_append_left _ hmem)
  name := h.name
  indexes := h.indexes

lemma createTable_ok {u : Unit} : (createTable env t).run file = (.ok u, file') ↔
    env.fault (.createTable t) = false ∧ env.fault (.createIndexes t) = false ∧
      file.Free t ∧ file' = file.addTable t := by
  unfold createTable
  simp only [Prog.bind_ok, statement_ok]
  constructor
  · rintro ⟨⟨⟩, f, ⟨hf, hs⟩, hf', hs'⟩
    split_ifs at hs with ht
    cases hs
    split_ifs at hs' with hindexes
    cases hs'
    exact ⟨hf, hf', ⟨fun h => ht (.inl h), fun h => ht (.inr h),
      fun name hname h => hindexes ⟨name, hname, h⟩⟩, rfl⟩
  · rintro ⟨hf, hf', ht, rfl⟩
    have hname : ¬ (t ∈ file.tables ∨ file.Taken t.name) :=
      fun h => h.elim ht.missing ht.name
    have hindexes : ¬ ∃ name ∈ t.indexes, (file.addTable t).Taken name :=
      fun ⟨name, hname, h⟩ => ht.indexes name hname h
    exact ⟨(), _, ⟨hf, if_neg hname⟩, hf', if_neg hindexes⟩

lemma insertMeta_ok {u : Unit} : (insertMeta env key value).run file = (.ok u, file') ↔
    env.fault (.insertMeta key) = false ∧ .metaInfo ∈ file.tables ∧
      file.metaInfo.insert? ⟨key, value⟩ = some file'.metaInfo ∧
        file'.tables = file.tables ∧ file'.others = file.others ∧ file'.props = file.props := by
  unfold insertMeta
  rw [statement_ok]
  constructor
  · rintro ⟨hf, hs⟩
    split_ifs at hs with ht
    obtain ⟨metaInfo, hinsert, rfl⟩ := Option.map_eq_some_iff.mp hs
    exact ⟨hf, ht, hinsert, rfl, rfl, rfl⟩
  · rintro ⟨hf, ht, hinsert, htables, hothers, hprops⟩
    refine ⟨hf, ?_⟩
    rw [dif_pos ht, hinsert]
    obtain ⟨tables, others, metaInfo, props, noRows⟩ := file'
    cases htables
    cases hothers
    cases hprops
    rfl

/-- The rows of `MetaInfo` in a new schema. -/
def metaRows (now : ℕ) : List MetaRow :=
  [⟨ascii "creator.swversion", kVersion⟩, ⟨ascii "creator.timestamp", ascii (toString now)⟩,
    ⟨ascii "schema.version", ascii (toString kCurrentSchemaVersion)⟩]

/-- What `initSchema` makes of a file. -/
structure Created (now : ℕ) (file file' : File) : Prop where
  tables : file'.tables = file.tables ++ schemaTables
  others : file'.others = file.others
  metaInfo : file'.metaInfo.rows = metaRows now
  props : file'.props = file.props

/-- Creating the schema is done in a file that has none of its names. -/
lemma initSchema_inv (h : (initSchema env).run file = (.ok (), file')) :
    (∀ t ∈ schemaTables, file.Free t) ∧ Created env.now file file' := by
  unfold initSchema at h
  simp only [Prog.atomically_ok, Prog.bind_ok, statement_ok, createTable_ok, insertMeta_ok] at h
  -- one transaction: the six tables, then the three rows of MetaInfo
  obtain ⟨_, _, ⟨-, hbegin⟩, _, _, ⟨-, -, h₁, rfl⟩, _, _, ⟨-, -, h₂, rfl⟩, _, _, ⟨-, -, h₃, rfl⟩,
    _, _, ⟨-, -, h₄, rfl⟩, _, _, ⟨-, -, h₅, rfl⟩, _, _, ⟨-, -, h₆, rfl⟩,
    _, f₁, ⟨-, -, hi₁, ht₁, ho₁, hp₁⟩, _, f₂, ⟨-, -, hi₂, ht₂, ho₂, hp₂⟩,
    _, f₃, ⟨-, -, hi₃, ht₃, ho₃, hp₃⟩, -, hcommit⟩ := h
  cases hbegin
  cases hcommit
  refine ⟨?_, ?_, ?_, ?_, ?_⟩
  · intro t ht
    simp only [schemaTables, List.mem_cons, List.not_mem_nil, or_false] at ht
    -- each table was free before those created ahead of it
    rcases ht with rfl | rfl | rfl | rfl | rfl | rfl
    · exact h₁
    · exact h₂.of_addTable
    · exact h₃.of_addTable.of_addTable
    · exact h₄.of_addTable.of_addTable.of_addTable
    · exact h₅.of_addTable.of_addTable.of_addTable.of_addTable
    · exact h₆.of_addTable.of_addTable.of_addTable.of_addTable.of_addTable
  · rw [ht₃, ht₂, ht₁]
    simp [File.addTable, schemaTables]
  · rw [ho₃, ho₂, ho₁]
    rfl
  · rw [(Table.insert?_eq_some.mp hi₃).2, (Table.insert?_eq_some.mp hi₂).2,
      (Table.insert?_eq_some.mp hi₁).2]
    simp [File.addTable, file.noRows h₁.missing, metaRows]
  · rw [hp₃, hp₂, hp₁]
    rfl

lemma insertMeta_run {now : ℕ} (ht : .metaInfo ∈ file.tables)
    (hkey : file.metaInfo.find? key = none) :
    ∃ file', (insertMeta (.ok now) key value).run file = (.ok (), file') ∧
      .metaInfo ∈ file'.tables ∧
        ∀ k, file'.metaInfo.find? k =
          if k = key then some ⟨key, value⟩ else file.metaInfo.find? k := by
  rcases hinsert : file.metaInfo.insert? ⟨key, value⟩ with _ | metaInfo
  · obtain ⟨row, hrow⟩ := Table.insert?_eq_none.mp hinsert
    cases hkey.symm.trans hrow
  · refine ⟨{ file with metaInfo, noRows := fun h => absurd ht h },
      insertMeta_ok.mpr ⟨rfl, ht, hinsert, rfl, rfl, rfl⟩, ht, fun k => ?_⟩
    rw [Table.find?_insert? hinsert]
    split_ifs <;> first | rfl | simp_all

lemma createTable_run {now : ℕ} (ht : file.Free t) :
    (createTable (.ok now) t).run file = (.ok (), file.addTable t) :=
  createTable_ok.mpr ⟨rfl, rfl, ht, rfl⟩

lemma initSchema_run {now : ℕ} (h : ∀ t ∈ schemaTables, file.Free t) :
    ∃ file', (initSchema (.ok now)).run file = (.ok (), file') := by
  have h₁ := h .metaInfo (by decide)
  have h₂ := h .propertyKeys (by decide)
  have h₃ := h (.propertyValues .propertyValuesString) (by decide)
  have h₄ := h (.propertyValues .propertyValuesBlob) (by decide)
  have h₅ := h (.propertyValues .propertyValuesInteger) (by decide)
  have h₆ := h (.propertyValues .propertyValuesReal) (by decide)
  set f := (((((file.addTable .metaInfo).addTable .propertyKeys).addTable
    (.propertyValues .propertyValuesString)).addTable
      (.propertyValues .propertyValuesBlob)).addTable
        (.propertyValues .propertyValuesInteger)).addTable
          (.propertyValues .propertyValuesReal) with hf
  -- the three keys differ, so that no INSERT meets the row of an earlier one
  have hempty : ∀ k, f.metaInfo.find? k = none := by
    intro k
    have hrows : f.metaInfo.rows = [] := file.noRows h₁.missing
    exact Table.find?_eq_none.mpr (by simp [hrows])
  obtain ⟨f₁, hrun₁, ht₁, hfind₁⟩ := @insertMeta_run f (ascii "creator.swversion") kVersion now
    (by simp [hf, File.addTable]) (hempty _)
  obtain ⟨f₂, hrun₂, ht₂, hfind₂⟩ := @insertMeta_run f₁ (ascii "creator.timestamp")
    (ascii (toString (OpenEnv.ok now).now)) now ht₁
    (by rw [hfind₁, if_neg (by decide)]; exact hempty _)
  obtain ⟨f₃, hrun₃, -, -⟩ := @insertMeta_run f₂ (ascii "schema.version")
    (ascii (toString kCurrentSchemaVersion)) now ht₂
    (by rw [hfind₂, if_neg (by decide), hfind₁, if_neg (by decide)]; exact hempty _)
  refine ⟨f₃, Prog.atomically_ok.mpr ?_⟩
  have hbegin : (statement (.ok now) .begin some).run file = (.ok (), file) := statement_run rfl rfl
  -- no table takes the name of a later one
  rw [Prog.run_bind_of_ok hbegin, Prog.run_bind_of_ok (createTable_run h₁),
    Prog.run_bind_of_ok (createTable_run (h₂.addTable (by decide))),
    Prog.run_bind_of_ok (createTable_run ((h₃.addTable (by decide)).addTable (by decide))),
    Prog.run_bind_of_ok (createTable_run (((h₄.addTable (by decide)).addTable
      (by decide)).addTable (by decide))),
    Prog.run_bind_of_ok (createTable_run ((((h₅.addTable (by decide)).addTable
      (by decide)).addTable (by decide)).addTable (by decide))),
    Prog.run_bind_of_ok (createTable_run (((((h₆.addTable (by decide)).addTable
      (by decide)).addTable (by decide)).addTable (by decide)).addTable (by decide))),
    Prog.run_bind_of_ok hrun₁, Prog.run_bind_of_ok hrun₂, Prog.run_bind_of_ok hrun₃]
  exact statement_run rfl rfl

/-- The file says that it has a version of the schema that is known. -/
def VersionKnown (file : File) : Prop :=
  ∃ row version, file.metaInfo.find? (ascii "schema.version") = some row ∧
    stoul row.value = .ok version ∧ version ≤ kCurrentSchemaVersion

lemma readOnly_checkVersion : (checkVersion env).ReadOnly := by
  have hselect : (statement env .selectMeta fun file =>
      if .metaInfo ∈ file.tables then some file else none).ReadOnly := by
    refine readOnly_statement fun file file' h => ?_
    split_ifs at h
    cases h
    rfl
  refine (hselect.bind fun _ => fun _ => rfl).bind fun versionStr => ?_
  cases versionStr with
  | none => exact Prog.readOnly_fail
  | some versionStr =>
    exact (Prog.readOnly_ofExcept _).bind fun version => Prog.readOnly_throwIf _

lemma checkVersion_ok {u : Unit} : (checkVersion env).run file = (.ok u, file') ↔
    env.fault .selectMeta = false ∧ .metaInfo ∈ file.tables ∧ VersionKnown file ∧ file' = file := by
  unfold checkVersion getMetaValue VersionKnown
  simp only [Prog.bind_ok, statement_ok]
  constructor
  · rintro ⟨versionStr, f, ⟨_, f₁, ⟨hf, hs⟩, hread⟩, h⟩
    split_ifs at hs with ht
    cases hs
    rw [Prog.run_reads] at hread
    rcases hrow : file.metaInfo.find? (ascii "schema.version") with _ | row
    · rw [hrow] at hread
      cases hread
    · rw [hrow] at hread
      cases hread
      simp only [Prog.bind_ok, Prog.ofExcept_ok, Prog.throwIf_ok] at h
      obtain ⟨version, _, ⟨hversion, rfl⟩, hle, rfl⟩ := h
      exact ⟨hf, ht, ⟨row, version, rfl, hversion, not_lt.mp hle⟩, rfl⟩
  · rintro ⟨hf, ht, ⟨row, version, hrow, hversion, hle⟩, rfl⟩
    refine ⟨some row.value, file', ⟨(), file', ⟨hf, if_pos ht⟩, ?_⟩, ?_⟩
    · rw [Prog.run_reads, hrow]
    · simp only [Prog.bind_ok, Prog.ofExcept_ok, Prog.throwIf_ok]
      exact ⟨version, file', ⟨hversion, rfl⟩, not_lt.mpr hle, rfl⟩

/-- Creating the schema when the table is missing. -/
def ensureSchema (env : OpenEnv) : OpenProg Unit := do
  let file ← .get
  .when (kMetaTableName ∉ file.tables) (initSchema env)

lemma openStore_eq : openStore env = (do
    statement env .openDb some
    statement env .foreignKeys some
    statement env .tableExists some
    ensureSchema env
    checkVersion env) := by
  unfold openStore ensureSchema
  simp only [bind_assoc]

lemma run_ensureSchema : (ensureSchema env).run file =
    if .metaInfo ∈ file.tables then (.ok (), file) else (initSchema env).run file := by
  unfold ensureSchema Prog.when kMetaTableName
  rw [Prog.run_bind_of_ok Prog.run_get]
  by_cases h : .metaInfo ∈ file.tables
  · rw [if_neg (not_not.mpr h), if_pos h]
    rfl
  · rw [if_pos h, if_neg h]

/-- What opening leaves behind is the file as it was, or with a new schema. -/
inductive Opened (now : ℕ) (file : File) : File → Prop
  | same : Opened now file file
  | created {file' : File} (fresh : ∀ t ∈ schemaTables, file.Free t)
      (h : Created now file file') : Opened now file file'

lemma opened_ensureSchema : Opened env.now file ((ensureSchema env).run file).2 := by
  rw [run_ensureSchema]
  split_ifs with hmeta
  · exact .same
  · rcases h : (initSchema env).run file with ⟨e | ⟨⟩, file'⟩
    · obtain rfl := Prog.atomic_atomically _ _ _ _ h
      exact .same
    · obtain ⟨hfresh, hcreated⟩ := initSchema_inv h
      exact .created hfresh hcreated

lemma readOnly_skip_statement : (statement env site some).ReadOnly :=
  readOnly_statement fun _ _ h => (Option.some.inj h).symm

lemma opened_openStore : Opened env.now file ((openStore env).run file).2 := by
  have hskip : ∀ site, ∀ x : OpenProg Unit, Opened env.now file (x.run file).2 →
      Opened env.now file ((statement env site some >>= fun _ => x).run file).2 := by
    intro site x hx
    rcases h : (statement env site some).run file with ⟨e | ⟨⟩, file'⟩
    · have hsame : file' = file := readOnly_skip_statement.atomic _ _ _ h
      rw [Prog.run_bind_of_error h, hsame]
      exact .same
    · cases (statement_ok.mp h).2
      rwa [Prog.run_bind_of_ok h]
  rw [openStore_eq]
  refine hskip _ _ (hskip _ _ (hskip _ _ ?_))
  have hopened := @opened_ensureSchema env file
  rcases h : (ensureSchema env).run file with ⟨e | ⟨⟩, file'⟩
  · rw [Prog.run_bind_of_error h]
    rwa [h] at hopened
  · rw [Prog.run_bind_of_ok h, readOnly_checkVersion]
    rwa [h] at hopened

lemma openStore_ok (h : (openStore env).run file = (.ok (), file')) :
    .metaInfo ∈ file'.tables ∧ VersionKnown file' := by
  rw [openStore_eq] at h
  simp only [Prog.bind_ok, checkVersion_ok] at h
  obtain ⟨_, _, -, _, _, -, _, _, -, _, f, -, -, ht, hversion, rfl⟩ := h
  exact ⟨ht, hversion⟩

lemma openStore_known {now : ℕ} (ht : .metaInfo ∈ file.tables) (h : VersionKnown file) :
    (openStore (.ok now)).run file = (.ok (), file) := by
  have hskip : ∀ site, (statement (.ok now) site some).run file = (.ok (), file) :=
    fun site => statement_run rfl rfl
  have hensure : (ensureSchema (.ok now)).run file = (.ok (), file) := by
    rw [run_ensureSchema, if_pos ht]
  rw [openStore_eq, Prog.run_bind_of_ok (hskip _), Prog.run_bind_of_ok (hskip _),
    Prog.run_bind_of_ok (hskip _), Prog.run_bind_of_ok hensure]
  exact checkVersion_ok.mpr ⟨rfl, ht, h, rfl⟩

lemma Created.known {now : ℕ} (h : Created now file file') :
    .metaInfo ∈ file'.tables ∧ VersionKnown file' := by
  refine ⟨by simp [h.tables, schemaTables], ⟨ascii "schema.version", ascii "1"⟩, 1, ?_, by decide,
    le_refl _⟩
  refine Table.find?_eq_some.mpr ⟨?_, rfl⟩
  have hversion : toString kCurrentSchemaVersion = "1" := by decide
  rw [h.metaInfo, metaRows, hversion]
  simp

lemma openStore_fresh {now : ℕ} (h : ∀ t ∈ schemaTables, file.Free t) :
    ∃ file', (openStore (.ok now)).run file = (.ok (), file') := by
  have hmeta : .metaInfo ∉ file.tables := (h _ (by decide)).missing
  obtain ⟨file', hinit⟩ := @initSchema_run file now h
  obtain ⟨ht, hversion⟩ := (initSchema_inv hinit).2.known
  have hskip : ∀ site, (statement (.ok now) site some).run file = (.ok (), file) :=
    fun site => statement_run rfl rfl
  have hensure : (ensureSchema (.ok now)).run file = (.ok (), file') := by
    rw [run_ensureSchema, if_neg hmeta, hinit]
  refine ⟨file', ?_⟩
  rw [openStore_eq, Prog.run_bind_of_ok (hskip _), Prog.run_bind_of_ok (hskip _),
    Prog.run_bind_of_ok (hskip _), Prog.run_bind_of_ok hensure]
  exact checkVersion_ok.mpr ⟨rfl, ht, hversion, rfl⟩

end Open

/-- **What is opened**: as long as nothing fails, a file with `MetaInfo` in it is opened if it says
that it has a known version, and one without `MetaInfo` if it has none of the other tables either,
and nothing else that has the name of one of them or of an index. Whatever fails, a file is left as
it is or gets the whole schema, and no keys change. -/
theorem openStore_returns_iff (file : File) (now : ℕ) :
    (((openStore (.ok now)).run file).1 = .ok () ↔
      if .metaInfo ∈ file.tables then VersionKnown file else ∀ t ∈ schemaTables, file.Free t) ∧
    ∀ env, Opened env.now file ((openStore env).run file).2 := by
  refine ⟨?_, fun env => opened_openStore⟩
  have hopened := @opened_openStore (.ok now) file
  rcases hrun : (openStore (.ok now)).run file with ⟨r, file'⟩
  rw [hrun] at hopened
  change r = .ok () ↔ _
  split_ifs with ht
  · constructor
    · rintro rfl
      cases hopened with
      | same => exact (openStore_ok hrun).2
      | created fresh => exact absurd ht (fresh _ (by decide)).missing
    · intro h
      exact (Prod.mk.inj ((openStore_known ht h).symm.trans hrun)).1.symm
  · constructor
    · rintro rfl
      cases hopened with
      | same => exact absurd (openStore_ok hrun).1 ht
      | created fresh => exact fresh
    · intro h
      obtain ⟨file'', hfresh⟩ := openStore_fresh h
      exact (Prod.mk.inj (hfresh.symm.trans hrun)).1.symm

/-! ### Over many sessions -/

/-- A file that is new, or has the whole schema. -/
inductive File.Sound : File → Prop
  | new : Sound .new
  | created {file : File} (tables : file.tables = schemaTables)
      (version : VersionKnown file) : Sound file

section Sessions

variable {s : Session} {env : OpenEnv} {file : File}
  {h : List (SessionEvent × Option (Except StoreError Answer))}

/-- Opening such a file leaves such a file, with the keys that it had. -/
lemma File.Sound.open (hs : file.Sound) :
    ((openStore env).run file).2.Sound ∧ ((openStore env).run file).2.props = file.props ∧
      (((openStore env).run file).1 = .ok () →
        ((openStore env).run file).2.tables = schemaTables) := by
  have hopened := @opened_openStore env file
  rcases hrun : (openStore env).run file with ⟨r, file'⟩
  rw [hrun] at hopened
  cases hopened with
  | same =>
    refine ⟨hs, rfl, fun hok => ?_⟩
    cases hok
    obtain ⟨ht, -⟩ := openStore_ok hrun
    cases hs with
    | new => cases ht
    | created tables version => exact tables
  | created fresh hcreated =>
    cases hs with
    | new =>
      have htables : file'.tables = schemaTables := hcreated.tables
      exact ⟨.created htables hcreated.known.2, hcreated.props, fun _ => htables⟩
    | created tables version =>
      have hmeta : .metaInfo ∉ file.tables := (fresh _ (by decide)).missing
      rw [tables] at hmeta
      exact absurd (by decide) hmeta

/-- What holds over all sessions. -/
structure Kept (h : List (SessionEvent × Option (Except StoreError Answer))) (s : Session) :
    Prop where
  sound : s.file.Sound
  schema : s.isOpen = true → s.file.tables = schemaTables
  calls : machine.Run (callsOf h) s.file.props

lemma File.Sound.version (hs : file.Sound) (ht : file.tables = schemaTables) :
    VersionKnown file := by
  cases hs with
  | new => cases ht
  | created tables version => exact version

lemma File.Sound.opens (hs : file.Sound) (now : ℕ) :
    ∃ file', (openStore (.ok now)).run file = (.ok (), file') := by
  cases hs with
  | new =>
    exact openStore_fresh fun t _ => ⟨List.not_mem_nil, List.not_mem_nil, fun _ _ =>
      List.not_mem_nil⟩
  | created tables version =>
    have ht : .metaInfo ∈ file.tables := by
      rw [tables]
      decide
    exact ⟨file, openStore_known ht version⟩

lemma callsOf_append_none (e : SessionEvent) : callsOf (h ++ [(e, none)]) = callsOf h := by
  cases e <;> simp [callsOf, List.filterMap_append]

lemma Kept.start (hk : Kept h s) :
    Kept (h ++ [(.start env, (s.step (.start env)).1)]) (s.step (.start env)).2 := by
  obtain ⟨hsound, hprops, hschema⟩ := @File.Sound.open env _ hk.sound
  rcases hopen : s.isOpen with _ | _
  · rcases hrun : (openStore env).run s.file with ⟨e | ⟨⟩, file⟩
    · have hstep : s.step (.start env) = (none, ⟨file, false⟩) := by
        simp [Session.step, hopen, hrun]
      rw [hrun] at hsound hprops
      rw [hstep]
      refine ⟨hsound, fun hno => (by cases hno), ?_⟩
      rw [callsOf_append_none]
      exact hprops.symm ▸ hk.calls
    · have hstep : s.step (.start env) = (none, ⟨file, true⟩) := by
        simp [Session.step, hopen, hrun]
      rw [hrun] at hsound hprops hschema
      rw [hstep]
      refine ⟨hsound, fun _ => hschema rfl, ?_⟩
      rw [callsOf_append_none]
      exact hprops.symm ▸ hk.calls
  · have hstep : s.step (.start env) = (none, s) := by simp [Session.step, hopen]
    rw [hstep]
    exact ⟨hk.sound, hk.schema, by rw [callsOf_append_none]; exact hk.calls⟩

lemma Kept.call {sql : SqlEnv} {call : Call} (hk : Kept h s) :
    Kept (h ++ [(.call sql call, (s.step (.call sql call)).1)]) (s.step (.call sql call)).2 := by
  rcases hopen : s.isOpen with _ | _
  · have hstep : s.step (.call sql call) = (none, s) := by simp [Session.step, hopen]
    rw [hstep]
    exact ⟨hk.sound, hk.schema, by rw [callsOf_append_none]; exact hk.calls⟩
  · set answer := machine.step s.file.props (sql, call) with hanswer
    have hstep : s.step (.call sql call) =
        (some answer.1, ⟨{ s.file with props := answer.2 }, true⟩) := by
      simp [Session.step, hopen, callFile, hanswer, machine]
    have hcalls : callsOf (h ++ [(.call sql call, some answer.1)]) =
        callsOf h ++ [((sql, call), answer.1)] := by
      simp [callsOf, List.filterMap_append]
    have htables := hk.schema hopen
    rw [hstep]
    refine ⟨.created htables (hk.sound.version htables), fun _ => htables, ?_⟩
    rw [hcalls]
    exact hk.calls.snoc (sql, call)

lemma kept_of_run (hr : sessions.Run h s) : Kept h s := by
  refine hr.relation ⟨.new, fun hno => (by cases hno), .init⟩ fun h s e _ hk => ?_
  cases e with
  | start env => exact hk.start
  | call sql call => exact hk.call
  | stop =>
    refine ⟨hk.sound, fun hno => (by cases hno), ?_⟩
    change machine.Run (callsOf (h ++ [(.stop, none)])) s.file.props
    rw [callsOf_append_none]
    exact hk.calls

end Sessions

/-- **Restarts do not show**: however opening fails, and whenever processes go away, calls are
answered as by one store that is never closed, and a process that makes calls has found the whole
schema. -/
theorem sessions_refine {h : List (SessionEvent × Option (Except StoreError Answer))} {s : Session}
    (hr : sessions.Run h s) :
    machine.Run (callsOf h) s.file.props ∧ (s.isOpen = true → s.file.tables = schemaTables) :=
  ⟨(kept_of_run hr).calls, (kept_of_run hr).schema⟩

/-- The first process does not get its schema committed, and the second one goes away after a
call. -/
def sampleSessions : List SessionEvent :=
  [.start ⟨4, fun site => site == .commit⟩, .start (.ok 5),
    .call (.ok 6) (.setKey (ascii "net.up") (.bool true)), .stop, .start (.ok 9),
    .call (.ok 9) (.getKey (ascii "net.up"))]

theorem sessions_refine_sample :
    machine.Run (callsOf (sessions.exec sampleSessions).1)
      (sessions.exec sampleSessions).2.file.props :=
  (sessions_refine (sessions.run_exec sampleSessions)).1

/-- **Opening heals**: after any sessions, a file is opened as soon as nothing fails, with the keys
that it had. -/
theorem sessions_reopen {h : List (SessionEvent × Option (Except StoreError Answer))} {s : Session}
    (hr : sessions.Run h s) (now : ℕ) :
    ∃ file, (openStore (.ok now)).run s.file = (.ok (), file) ∧ file.props = s.file.props := by
  have hsound := (kept_of_run hr).sound
  have hprops := (@File.Sound.open (.ok now) _ hsound).2.1
  obtain ⟨file, hopen⟩ := hsound.opens now
  rw [hopen] at hprops
  exact ⟨file, hopen, hprops⟩

theorem sessions_reopen_sample :
    ∃ file, (openStore (.ok 10)).run (sessions.exec sampleSessions).2.file = (.ok (), file) ∧
      file.props = (sessions.exec sampleSessions).2.file.props :=
  sessions_reopen (sessions.run_exec sampleSessions) 10

end Sativa.Store
