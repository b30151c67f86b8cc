import Sativa.ConfigRead

/-!
What the configuration is after `Config::Read`.

Each document is a layer. The layers are those of the files that a traversal of the includes
visits; of what is set more than once the last one counts, and the allow lists add up.
-/

namespace Sativa.Config

open Sativa Prog

/-! ### Layers -/

/-- What a document sets. -/
structure Layer where
  rpc : Option (Bytes × Option ℕ)
  storage : Option Bytes
  access : Option (List AccessDescriptor)

section Layers

variable {n : ℕ} (host : Host n)

/-- The type of what a path leads to. -/
def typeAt (path : Bytes) : Except ℕ (Option FileType) :=
  (host.resolve path).map fun node => node.map fun i => (host.node i).type

/-- The path and the mode of the socket. -/
def rpcOf (tbl : TomlTable) : Option (Bytes × Option ℕ) :=
  let path := tbl.stringOrEmpty "listen"
  let mode := ((tbl.entry "umode").bind host.intValue).getD (-1)
  if path = [] then none
  else some (path, if 0 ≤ mode then some (mode.toNatClampNeg &&& 511) else none)

/-- The path of the database, in a directory that exists. -/
def storageOf (tbl : TomlTable) : Option Bytes :=
  let dir := tbl.stringOrEmpty "dir"
  let name := tbl.stringOrEmpty "db"
  if typeAt host dir = .ok (some .directory) ∧ name ≠ [] then some (pathAppend dir name) else none

def descriptorOf (tbl : TomlTable) : Option AccessDescriptor := do
  let user ← (accessEntry host.getpwnam .invalidAllowUser (tbl.entry "user")).toOption
  let group ← (accessEntry host.getgrnam .invalidAllowGroup (tbl.entry "group")).toOption
  if user = none ∧ group = none then none
  else do
    let elems ← (tbl.entry "paths").bind Toml.asArray
    let allowed ← (accessPaths elems).toOption
    return ⟨user, group, allowed⟩

/-- The tables of an array of tables, if there is one. -/
def tablesOf {α : Type} (entry : Option Toml) (value : TomlTable → Option α) : Option (List α) :=
  match entry with
  | none => some []
  | some v => if v.isArrayOfTables then (v.asArray.getD []).mapM fun el => el.asTable.bind value
    else none

def accessOf (tbl : TomlTable) : Option (List AccessDescriptor) :=
  tablesOf (tbl.entry "allow") (descriptorOf host)

def sectionOf {α : Type} (tbl : TomlTable) (key : String) (required : Bool)
    (value : TomlTable → Option α) : Option (Option α) :=
  match tbl.entry key with
  | some v => (v.asTable.bind value).map some
  | none => if required then none else some none

/-- The layer of a document, if all in it is valid. -/
def layerOf (isRoot : Bool) (tbl : TomlTable) : Option Layer := do
  let rpc ← sectionOf tbl "rpc" isRoot (rpcOf host)
  let storage ← sectionOf tbl "storage" isRoot (storageOf host)
  let access ← sectionOf tbl "access" false (accessOf host)
  return ⟨rpc, storage, access⟩

/-! ### The files of a configuration -/

/-- The file of an entry of a directory, if it is one of the configuration. -/
def configFile (dir name : Bytes) : Option (List Bytes) :=
  (typeAt host (pathAppend dir name)).toOption.map fun type =>
    if type = some .regular ∧ pathExtension (pathAppend dir name) = ascii ".toml"
      then [pathAppend dir name] else []

/-- The configuration files in a directory. -/
def configFiles (dir : Bytes) : Option (List Bytes) :=
  match host.resolve dir with
  | .ok (some i) => (host.node i).entries.toOption.bind fun names =>
      (names.mapM (configFile host dir)).map List.flatten
  | _ => none

/-- The files that a directive includes. -/
def includeOf (tbl : TomlTable) : Option (List Bytes) :=
  let path := tbl.stringOrEmpty "path"
  if path = [] then none else match typeAt host path with
    | .ok (some .directory) => configFiles host path
    | .ok (some _) => some [path]
    | _ => none

def includesOf (tbl : TomlTable) : Option (List Bytes) :=
  (tablesOf (tbl.entry "include") (includeOf host)).map List.flatten

/-- The files that are visited for a list of files that are to be read, each with its layer: what a
file includes comes after it, before the rest of the list. -/
inductive Visits : List (Bool × Bytes) → List (Bytes × Layer) → Prop
  | nil : Visits [] []
  | cons {isRoot : Bool} {path : Bytes} {rest : List (Bool × Bytes)} {tbl : TomlTable}
      {layer : Layer} {included : List Bytes} {files : List (Bytes × Layer)}
      (htable : tableAt host path = some tbl) (hlayer : layerOf host isRoot tbl = some layer)
      (hincluded : includesOf host tbl = some included)
      (hnext : Visits (included.map (false, ·) ++ rest) files) :
      Visits ((isRoot, path) :: rest) ((path, layer) :: files)

end Layers

/-- The last of all values, if there is one. -/
def lastSet {α : Type} (files : List (Bytes × Layer)) (value : Layer → Option α) (old : α) : α :=
  (files.filterMap fun file => value file.2).getLastD old

def Layer.allow (l : Layer) : List AccessDescriptor := l.access.getD []

/-- What a visit of files does to the configuration. -/
def State.after (s : State) (files : List (Bytes × Layer)) : State where
  gOpenedFiles := s.gOpenedFiles ++ files.map Prod.fst
  gSocketPath := lastSet files (fun l => l.rpc.map Prod.fst) s.gSocketPath
  gSocketMode := lastSet files (fun l => l.rpc.bind Prod.snd) s.gSocketMode
  gStoragePath := lastSet files Layer.storage s.gStoragePath
  gAllowList := s.gAllowList ++ files.flatMap fun file => file.2.allow
  trace := s.trace ++ files.flatMap fun file => .read file.1 :: .parse file.1 ::
    (List.range file.2.allow.length).map (.allow file.1)

/-! ### Documents -/

section Documents

variable {n : ℕ} {host : Host n} {tbl : TomlTable} {path : Bytes}

def State.setRpc (r : Bytes × Option ℕ) (s : State) : State :=
  { s with gSocketPath := r.1, gSocketMode := r.2.getD s.gSocketMode }

def State.setStorage (path : Bytes) (s : State) : State := { s with gStoragePath := path }

/-- The descriptors of a file are appended, from an index on. -/
def State.append (path : Bytes) (k : ℕ) (descs : List AccessDescriptor) (s : State) : State :=
  { s with
    gAllowList := s.gAllowList ++ descs
    trace := s.trace ++ (List.range' k descs.length).map (.allow path) }

lemma table_decided {ν : Type} {v : Toml} {e : ConfigError} {part : TomlTable → ConfigProg Unit}
    {value : TomlTable → Option ν} {y : ν → ConfigProg Unit}
    (h : ∀ t, Decided (part t) (value t) y) :
    Decided (match v.asTable with
      | none => .fail e
      | some t => part t) (v.asTable.bind value) y := by
  rcases v.asTable with _ | t
  · exact Decided.fail
  · exact h t

lemma tablesOf_some {α : Type} {v : Toml} {value : TomlTable → Option α} :
    tablesOf (some v) value = if v.isArrayOfTables = false then none
      else (v.asArray.getD []).mapM fun el => el.asTable.bind value := by
  unfold tablesOf
  dsimp only
  cases v.isArrayOfTables <;> rfl

lemma readRpc_decided :
    Decided (readRpc host tbl) (rpcOf host tbl) fun r => .modify (State.setRpc r) := by
  unfold readRpc rpcOf
  refine Decided.throwIf_bind fun _ => ?_
  refine Decided.some (ext fun s => ?_)
  dsimp only
  split_ifs with hmode
  · simp [Prog.when, hmode, run_bind, State.setRpc]
  · simp [Prog.when, hmode, State.setRpc]

lemma status_eq :
    status host path = Prog.ofExcept ((typeAt host path).mapError ConfigError.filesystemError) := by
  unfold status typeAt
  rcases host.resolve path with e | node <;> rfl

lemma isDirectory_ok {b : Bool} {s s' : State} : (isDirectory host path).run s = (.ok b, s') ↔
    (∃ type, typeAt host path = .ok type ∧ (type = some .directory ↔ b = true)) ∧ s = s' := by
  unfold isDirectory
  rw [status_eq]
  rcases typeAt host path with e | type
  · simp [run_map, Except.mapError, Except.map]
  · by_cases hdir : type = some .directory <;> cases b <;>
      simp [run_map, Except.mapError, Except.map, hdir]

lemma readStorage_decided :
    Decided (readStorage host tbl) (storageOf host tbl) fun p => .modify (State.setStorage p) := by
  intro s s'
  unfold readStorage storageOf
  simp only [bind_ok, throwIf_ok, isDirectory_ok, run_modify, Prod.mk.injEq]
  constructor
  · rintro ⟨_, _, ⟨-, rfl⟩, b, _, ⟨⟨type, htype, hdir⟩, rfl⟩, _, _, ⟨hb, rfl⟩, _, _, ⟨hname, rfl⟩,
      -, rfl⟩
    obtain rfl : type = some .directory := hdir.mpr (by simpa using hb)
    exact ⟨_, if_pos ⟨htype, hname⟩, trivial, rfl⟩
  · rintro ⟨p, hp, -, rfl⟩
    split_ifs at hp with hvalid
    obtain rfl := Option.some.inj hp
    exact ⟨(), _, ⟨trivial, rfl⟩, true, _, ⟨⟨_, hvalid.1, by simp⟩, rfl⟩, (), _,
      ⟨by simp, rfl⟩, (), _, ⟨hvalid.2, rfl⟩, trivial, rfl⟩

lemma readAccessAllow_decided (path : Bytes) (k : ℕ) :
    Decided (readAccessAllow host tbl >>= fun _ => record (.allow path k)) (descriptorOf host tbl)
      fun d => .modify (State.append path k [d]) := by
  unfold readAccessAllow descriptorOf
  simp only [bind_assoc]
  refine Decided.ofExcept_bind fun user => Decided.ofExcept_bind fun group => ?_
  refine Decided.throwIf_bind fun _ => ?_
  rcases (tbl.entry "paths").bind Toml.asArray with _ | elems
  · exact Decided.fail
  · simp only [bind_assoc]
    refine Decided.ofExcept_bind fun allowed => Decided.some (ext fun s => ?_)
    simp [record, run_bind, State.append]

lemma forM_zipIdx_decided (l : List Toml) (k : ℕ) :
    Decided ((l.zipIdx k).forM fun (el, index) => match el.asTable with
        | none => .fail .invalidAllowValue
        | some entry => do
          readAccessAllow host entry
          record (.allow path index))
      (l.mapM fun el => el.asTable.bind (descriptorOf host))
      fun descs => .modify (State.append path k descs) := by
  induction l generalizing k with
  | nil => exact Decided.some (ext fun s => by simp [State.append])
  | cons el l ih =>
    refine Decided.cons (i := el) (g := fun el => el.asTable.bind (descriptorOf host))
      (p := fun descs => .modify (State.append path (k + 1) descs))
      (q := fun descs => .modify (State.append path k descs))
      (table_decided fun _ => readAccessAllow_decided path k) (ih (k + 1))
      fun d descs => ext fun s => ?_
    simp [run_bind, State.append, List.range'_succ]

lemma readAccess_decided (path : Bytes) : Decided (readAccess host path tbl) (accessOf host tbl)
    fun descs => .modify (State.append path 0 descs) := by
  unfold readAccess accessOf
  rcases tbl.entry "allow" with _ | accesses
  · exact Decided.some (ext fun s => by simp [State.append])
  · rw [tablesOf_some]
    exact Decided.throwIf_bind fun _ => forM_zipIdx_decided _ 0

lemma readSection_decided {α : Type} {key : String} {invalid : ConfigError}
    {missing : Option ConfigError} {required : Bool} {part : TomlTable → ConfigProg Unit}
    {value : TomlTable → Option α} {f : α → State → State}
    (h : ∀ t, Decided (part t) (value t) fun a => .modify (f a))
    (hmissing : missing.isSome = required) :
    Decided (readSection tbl key invalid missing part) (sectionOf tbl key required value)
      fun a => .modify fun s => a.elim s fun a => f a s := by
  subst hmissing
  unfold readSection sectionOf
  rcases tbl.entry key with _ | v
  · rcases missing with _ | e
    · exact Decided.some rfl
    · exact Decided.fail
  · exact (table_decided h).map fun _ => rfl

def State.put (path : Bytes) (l : Layer) (s : State) : State :=
  let s := l.rpc.elim s fun r => s.setRpc r
  let s := l.storage.elim s fun p => s.setStorage p
  l.access.elim s fun descs => s.append path 0 descs

/-- A document returns exactly if there is a layer, which it adds to the configuration. -/
lemma readSections_decided {isRoot : Bool} :
    Decided (readSections host path isRoot tbl) (layerOf host isRoot tbl)
      fun l => .modify (State.put path l) := by
  have hrpc : Decided (readSection tbl "rpc" .invalidRpc (if isRoot then some .missingRpc else none)
      (readRpc host)) (sectionOf tbl "rpc" isRoot (rpcOf host)) _ :=
    readSection_decided (fun _ => readRpc_decided) (by cases isRoot <;> rfl)
  have hstorage : Decided (readSection tbl "storage" .invalidStorage
      (if isRoot then some .missingStorage else none) (readStorage host))
      (sectionOf tbl "storage" isRoot (storageOf host)) _ :=
    readSection_decided (fun _ => readStorage_decided) (by cases isRoot <;> rfl)
  have haccess : Decided (readSection tbl "access" .invalidAccess none (readAccess host path))
      (sectionOf tbl "access" false (accessOf host)) _ :=
    readSection_decided (fun _ => readAccess_decided path) rfl
  refine ((hrpc.bind (hstorage.bind haccess)).map (g := fun c => ⟨c.1, c.2.1, c.2.2⟩)
    fun c => rfl).value_eq ?_
  unfold layerOf
  rcases sectionOf tbl "rpc" isRoot (rpcOf host) with _ | rpc
  · rfl
  rcases sectionOf tbl "storage" isRoot (storageOf host) with _ | storage
  · rfl
  rcases sectionOf tbl "access" false (accessOf host) with _ | access <;> rfl

/-! ### Includes -/

variable {rd : Bytes → ConfigProg Unit}

lemma toOption_mapError {ε ε' α : Type} (x : Except ε α) (f : ε → ε') :
    (x.mapError f).toOption = x.toOption := by cases x <;> rfl

lemma forM_flatten (ls : List (List Bytes)) :
    (ls.forM fun l => l.forM rd) = ls.flatten.forM rd := by
  induction ls with
  | nil => rfl
  | cons l ls ih =>
    have happend : (l ++ ls.flatten).forM rd = l.forM rd >>= fun _ => ls.flatten.forM rd :=
      List.forM_append
    rw [List.flatten_cons, happend, ← ih]
    rfl

lemma configFile_decided (name : Bytes) : Decided (do
      let type ← status host (pathAppend path name)
      Prog.when (type = some .regular ∧ pathExtension (pathAppend path name) = ascii ".toml")
        (rd (pathAppend path name)))
    (configFile host path name) fun files => files.forM rd := by
  have hentry : ∀ type : Option FileType, Decided (Prog.when (type = some .regular ∧
        pathExtension (pathAppend path name) = ascii ".toml") (rd (pathAppend path name)))
      (some (if type = some .regular ∧ pathExtension (pathAppend path name) = ascii ".toml"
        then [pathAppend path name] else [])) fun files => files.forM rd := by
    intro type
    refine Decided.some ?_
    unfold Prog.when
    split_ifs
    · exact (bind_pure_unit).symm
    · rfl
  rw [status_eq]
  refine (Decided.ofExcept_bind hentry).value_eq ?_
  unfold configFile
  rw [toOption_mapError]
  rcases (typeAt host (pathAppend path name)).toOption with _ | type <;> rfl

lemma processIncludeDirectory_decided :
    Decided (processIncludeDirectory host rd path) (configFiles host path)
      fun files => files.forM rd := by
  unfold processIncludeDirectory directoryEntries configFiles
  refine (Decided.ofExcept_bind fun names => (Decided.forM (l := names) configFile_decided).map
    (z := fun files : List Bytes => files.forM rd) fun files => forM_flatten files).value_eq ?_
  rcases host.resolve path with code | _ | i
  · rfl
  · rfl
  · dsimp only
    rw [toOption_mapError]

lemma readInclude_decided :
    Decided (readInclude host rd tbl) (includeOf host tbl) fun files => files.forM rd := by
  unfold readInclude includeOf
  refine Decided.throwIf_bind fun _ => ?_
  unfold isDirectory
  rw [status_eq]
  rcases typeAt host (tbl.stringOrEmpty "path") with code | _ | type
  · exact Decided.fail
  · exact Decided.fail
  · cases type with
    | directory => exact processIncludeDirectory_decided
    | regular => exact Decided.some bind_pure_unit.symm
    | other => exact Decided.some bind_pure_unit.symm

lemma readIncludes_decided :
    Decided (readIncludes host rd tbl) (includesOf host tbl) fun files => files.forM rd := by
  unfold readIncludes includesOf
  rcases tbl.entry "include" with _ | includes
  · exact Decided.some rfl
  · refine Decided.map (z := fun files : List Bytes => files.forM rd) ?_ fun ls => forM_flatten ls
    rw [tablesOf_some]
    exact Decided.throwIf_bind fun _ => Decided.forM fun directive =>
      table_decided (v := directive) fun _ => readInclude_decided

end Documents

/-! ### Visits -/

section Visits

variable {n : ℕ} {host : Host n} {path : Bytes} {isRoot : Bool} {s s' : State} {l : Layer}
  {files : List (Bytes × Layer)}

lemma lastSet_cons {α : Type} (file : Bytes × Layer) (value : Layer → Option α) (old : α) :
    lastSet (file :: files) value old = lastSet files value ((value file.2).getD old) := by
  unfold lastSet
  rw [List.filterMap_cons]
  rcases value file.2 with _ | a
  · rfl
  · exact List.getLastD_cons

lemma after_nil : s.after [] = s := by simp [State.after, lastSet]

lemma after_cons : s.after ((path, l) :: files) = ((s.opening path).put path l).after files := by
  obtain ⟨rpc, storage, access⟩ := l
  simp only [State.after, lastSet_cons]
  rcases rpc with _ | r <;> rcases storage with _ | p <;> rcases access with _ | descs <;>
    simp [State.put, State.opening, State.setRpc, State.setStorage, State.append, Layer.allow,
      List.range_eq_range']

lemma after_append (files' : List (Bytes × Layer)) :
    s.after (files ++ files') = (s.after files).after files' := by
  induction files generalizing s with
  | nil => rw [after_nil, List.nil_append]
  | cons file files ih => rw [List.cons_append, after_cons, ih, ← after_cons]

lemma put_gOpenedFiles : (s.put path l).gOpenedFiles = s.gOpenedFiles := by
  obtain ⟨_ | r, _ | p, _ | descs⟩ := l <;> rfl

/-- What was visited comes before what is left to visit. -/
def Leads (host : Host n) (todo : List (Bool × Bytes)) (files : List (Bytes × Layer)) : Prop :=
  ∀ rest files', Visits host rest files' → Visits host (todo ++ rest) (files ++ files')

lemma forM_leads {rd : Bytes → ConfigProg Unit} {paths : List Bytes}
    (h : ∀ path s s', (rd path).run s = (.ok (), s') → ∃ files, s' = s.after files ∧
      (s.gOpenedFiles.Nodup → s'.gOpenedFiles.Nodup) ∧ Leads host [(false, path)] files)
    (hrun : (paths.forM rd).run s = (.ok (), s')) : ∃ files, s' = s.after files ∧
      (s.gOpenedFiles.Nodup → s'.gOpenedFiles.Nodup) ∧
      Leads host (paths.map (false, ·)) files := by
  induction paths generalizing s with
  | nil =>
    obtain ⟨-, rfl⟩ := Prod.mk.inj hrun
    exact ⟨[], after_nil.symm, id, fun rest files' h => h⟩
  | cons path paths ih =>
    obtain ⟨⟨⟩, s₁, hfirst, hrest⟩ := bind_ok.mp hrun
    obtain ⟨files, rfl, hnodup, hleads⟩ := h path s s₁ hfirst
    obtain ⟨files', rfl, hnodup', hleads'⟩ := ih hrest
    refine ⟨files ++ files', (after_append files').symm, fun h => hnodup' (hnodup h), ?_⟩
    intro rest files'' hvisits
    rw [List.append_assoc]
    exact hleads _ _ (hleads' _ _ hvisits)

lemma read_leads (fuel : ℕ) : ∀ (isRoot : Bool) (path : Bytes) (s s' : State),
    (read host fuel path isRoot).run s = (.ok (), s') → ∃ files, s' = s.after files ∧
      (s.gOpenedFiles.Nodup → s'.gOpenedFiles.Nodup) ∧ Leads host [(isRoot, path)] files := by
  induction fuel with
  | zero => exact fun _ _ _ _ h => (by cases h)
  | succ fuel ih =>
    intro isRoot path s s' h
    rw [read_succ] at h
    split at h
    · cases h
    next hnew =>
    rcases htable : tableAt host path with _ | tbl
    · rw [htable] at h
      cases h
    rw [htable] at h
    -- the sections first, then what is included
    obtain ⟨⟨⟩, s₁, hsections, hincludes⟩ := bind_ok.mp h
    obtain ⟨layer, hlayer, hput⟩ := (readSections_decided _ _).mp hsections
    obtain ⟨included, hincluded, hrun⟩ := (readIncludes_decided _ _).mp hincludes
    obtain ⟨-, rfl⟩ := Prod.mk.inj hput
    obtain ⟨files, rfl, hnodup, hleads⟩ := forM_leads (fun path => ih false path) hrun
    refine ⟨(path, layer) :: files, after_cons.symm, fun hs => hnodup ?_, fun rest files' hv => ?_⟩
    · rw [put_gOpenedFiles]
      exact List.nodup_append.mpr ⟨hs, List.nodup_singleton _, fun a ha b hb => by
        rintro rfl
        exact hnew (List.mem_singleton.mp hb ▸ ha)⟩
    · exact .cons htable hlayer hincluded (hleads rest files' hv)

lemma forM_more {fuel : ℕ} {todo : List (Bool × Bytes)}
    (h : (todo.forM fun e => read host fuel e.2 e.1).run s = (.ok (), s')) :
    (todo.forM fun e => read host (fuel + 1) e.2 e.1).run s = (.ok (), s') := by
  induction todo generalizing s with
  | nil => exact h
  | cons e todo ih =>
    obtain ⟨⟨⟩, s₁, hfirst, hrest⟩ := bind_ok.mp h
    have hends : ((read host fuel e.2 e.1).run s).1 ≠ .error .outOfFuel := by
      rw [hfirst]
      exact fun h => (by cases h)
    exact bind_ok.mpr ⟨(), s₁, (read_more hends 1).trans hfirst, ih hrest⟩

/-- What is visited is read, with fuel for every file. -/
lemma Visits.read {todo : List (Bool × Bytes)} (h : Visits host todo files) :
    ∀ (fuel : ℕ) (s : State), files.length ≤ fuel →
      (s.gOpenedFiles ++ files.map Prod.fst).Nodup →
      (todo.forM fun e => Config.read host fuel e.2 e.1).run s = (.ok (), s.after files) := by
  induction h with
  | nil =>
    intro fuel s _ _
    rw [after_nil]
    rfl
  | @cons isRoot path rest tbl layer included files htable hlayer hincluded _ ih =>
    intro fuel s hfuel hnodup
    obtain ⟨fuel, rfl⟩ : ∃ k, fuel = k + 1 := ⟨fuel - 1, by
      rw [List.length_cons] at hfuel
      omega⟩
    have hopened : (((s.opening path).put path layer).gOpenedFiles ++ files.map Prod.fst) =
        s.gOpenedFiles ++ ((path, layer) :: files).map Prod.fst := by
      rw [put_gOpenedFiles]
      simp [State.opening]
    -- no path is visited twice, so the check lets it pass
    have hnew : path ∉ s.gOpenedFiles := fun hmem =>
      (List.nodup_append.mp hnodup).2.2 path hmem path (by simp) rfl
    have hnext := ih fuel ((s.opening path).put path layer) (by simpa using hfuel)
      (hopened ▸ hnodup)
    have hsplit : ((included.map (false, ·) ++ rest).forM fun e => Config.read host fuel e.2 e.1) =
        (included.forM fun p => Config.read host fuel p false) >>= fun _ =>
          rest.forM fun e => Config.read host fuel e.2 e.1 :=
      List.forM_append.trans (congrArg (· >>= fun _ => _) List.forM_map)
    rw [hsplit] at hnext
    -- what is included is visited before the rest
    obtain ⟨⟨⟩, s₂, hincludes, hrest⟩ := bind_ok.mp hnext
    rw [after_cons]
    refine bind_ok.mpr ⟨(), s₂, ?_, forM_more hrest⟩
    rw [read_succ, if_neg hnew, htable]
    exact bind_ok.mpr ⟨(), _, (readSections_decided _ _).mpr ⟨layer, hlayer, rfl⟩,
      (readIncludes_decided _ _).mpr ⟨included, hincluded, hincludes⟩⟩

/-- **Layers**: `Read` returns exactly if a traversal of the includes, which reads a file before
what it includes, finds valid documents only and no path twice. The configuration is then that of
the files in this order: the last value that is set counts, and the allow lists add up. -/
theorem readRoot_eq_iff (host : Host n) (root : Bytes) (s : State) :
    readRoot host root = (.ok (), s) ↔ ∃ files, Visits host [(true, root)] files ∧
      (files.map Prod.fst).Nodup ∧ s = State.init.after files := by
  constructor
  · intro h
    obtain ⟨files, rfl, hnodup, hleads⟩ := read_leads _ true root _ s h
    have hvisits := hleads [] [] .nil
    rw [List.append_nil, List.append_nil] at hvisits
    exact ⟨files, hvisits, hnodup List.nodup_nil, rfl⟩
  · rintro ⟨files, hvisits, hnodup, rfl⟩
    have hmore : (Config.read host ((pathStrings host root).length + 1 + files.length) root
        true).run .init = readRoot host root := read_more (readRoot_ends host root) _
    rw [← hmore]
    have hread := hvisits.read ((pathStrings host root).length + 1 + files.length) .init (by omega)
      hnodup
    obtain ⟨⟨⟩, s₁, hroot, hnil⟩ := bind_ok.mp hread
    obtain ⟨-, rfl⟩ := Prod.mk.inj hnil
    exact hroot

end Visits

end Sativa.Config
