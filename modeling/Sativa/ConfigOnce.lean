import Sativa.ConfigRead
import Mathlib.Data.List.Pairwise

/-!
Which files are read twice.

The check for files that were read before compares path strings. It does what it is for as long as
no file is reached by a second path string; a reference that compares files says when that is.
-/

namespace Sativa.Config

open Sativa Prog

section Once

variable {n : ℕ} (host : Host n)

/-- The two paths lead to the same file. -/
def sameFile (p q : Bytes) : Bool :=
  match host.resolve p, host.resolve q with
  | .ok (some i), .ok (some j) => i == j
  | _, _ => false

/-- Paths to different files, or to none. -/
def OtherFile (p q : Bytes) : Prop := sameFile host p q = false

/-- No file is applied twice: each is parsed at most once, its entries of `access.allow` are each
appended at most once, and when `Read` is called for a file a second time that is an error. -/
structure AppliedOnce (result : Except ConfigError Unit × State) : Prop where
  parsed : (parses result.2.trace).Pairwise (OtherFile host)
  appended : (allows result.2.trace).Pairwise fun a b => a.2 = b.2 → OtherFile host a.1 b.1
  counted : result.2.gAllowList.length = (allows result.2.trace).length
  detected : ¬ (reads result.2.trace).Pairwise (OtherFile host) →
    ∃ p, result.1 = .error (.recursionDetected p)

/-- `Read` with a check that compares files. -/
def readOnce : ℕ → Bytes → Bool → ConfigProg Unit
  | 0, _, _ => .fail .outOfFuel
  | fuel + 1, path, isRoot => do
    record (.read path)
    .throwIf (∃ q ∈ (← Prog.get).gOpenedFiles, q = path ∨ sameFile host q path = true)
      (.recursionDetected path)
    readFile host (fun p => readOnce fuel p false) path isRoot

/-- The reference stops at a file that was read before by another path. -/
def SecondPath (root : Bytes) : Prop :=
  ∃ p s, (readOnce host ((pathStrings host root).length + 1) root true).run .init =
    (.error (.recursionDetected p), s) ∧ p ∉ s.gOpenedFiles

variable {host} {s : State} {path root : Bytes} {isRoot : Bool}

lemma sameFile_comm (p q : Bytes) : sameFile host p q = sameFile host q p := by
  unfold sameFile
  rcases host.resolve p with _ | _ | i <;> rcases host.resolve q with _ | _ | j <;> try rfl
  exact BEq.comm

instance : Std.Symm (OtherFile host) where
  symm p q h := (sameFile_comm q p).trans h

/-! ### The reference -/

/-- What was parsed are the opened files, and they are different files. -/
structure Distinct (host : Host n) (s : State) : Prop where
  parses : parses s.trace = s.gOpenedFiles
  distinct : s.gOpenedFiles.Pairwise (OtherFile host)

lemma distinct_ofReads : OfReads (Distinct host) := fun s s' hopened _ hparses h =>
  ⟨by rw [hparses, hopened, h.parses], by rw [hopened]; exact h.distinct⟩

/-- Some file was parsed twice. -/
def Twice (host : Host n) (s : State) : Prop := ¬ (parses s.trace).Pairwise (OtherFile host)

lemma twice_ofReads : OfReads (Twice host) := fun s s' _ _ hparses h => by
  unfold Twice
  rwa [hparses]

lemma Twice.opening (h : Twice host s) : Twice host (s.opening path) := by
  intro hpair
  simp only [State.opening, parses_parse, parses_read] at hpair
  exact h (List.pairwise_append.mp hpair).1

lemma Distinct.opening (h : Distinct host s)
    (hother : ∀ q ∈ s.gOpenedFiles, OtherFile host q path) : Distinct host (s.opening path) := by
  refine ⟨?_, List.pairwise_append.mpr ⟨h.distinct, List.pairwise_singleton _ _, ?_⟩⟩
  · simp only [State.opening, parses_parse, parses_read, h.parses]
  · intro q hq p hp
    rw [List.mem_singleton.mp hp]
    exact hother q hq

lemma Distinct.twice (h : Distinct host s) {q : Bytes} (hq : q ∈ s.gOpenedFiles)
    (hsame : sameFile host q path = true) : Twice host (s.opening path) := by
  intro hpair
  simp only [State.opening, parses_parse, parses_read, h.parses] at hpair
  have hother := (List.pairwise_append.mp hpair).2.2 q hq path (by simp)
  rw [OtherFile, hsame] at hother
  cases hother

lemma readOnce_succ (fuel : ℕ) : (readOnce host (fuel + 1) path isRoot).run s =
    if ∃ q ∈ s.gOpenedFiles, q = path ∨ sameFile host q path = true then
      (.error (.recursionDetected path), { s with trace := s.trace ++ [.read path] })
    else match tableAt host path with
      | none => (.error .parseError, s.opening path)
      | some tbl => (readSections host path isRoot tbl >>= fun _ =>
          readIncludes host (fun p => readOnce host fuel p false) tbl).run (s.opening path) :=
  checked_run _

lemma document_keeps {I : State → Prop} {rd : Bytes → ConfigProg Unit} {tbl : TomlTable}
    (hI : OfReads I) (hread : ∀ p, Keeps I (rd p) fun _ => I) :
    Keeps I (readSections host path isRoot tbl >>= fun _ => readIncludes host rd tbl)
      fun _ => I := by
  refine Ensures.bind ((readSections_keeps hI).weaken (fun _ h => h) (fun _ _ h => h)
    fun _ _ h => h.2) fun _ => ?_
  exact readIncludes_keeps (fun _ _ h => h.2) fun p _ => hread p

lemma readOnce_keeps (fuel : ℕ) : ∀ (path : Bytes) (isRoot : Bool),
    Keeps (Distinct host) (readOnce host fuel path isRoot) fun _ => Distinct host := by
  induction fuel with
  | zero => exact fun _ _ => .fail fun _ hs => hs
  | succ fuel ih =>
    intro path isRoot s hs
    rw [readOnce_succ]
    split
    · exact ⟨by simpa using hs.parses, hs.distinct⟩
    · next hnew =>
      have hopening : Distinct host (s.opening path) := by
        refine hs.opening fun q hq => ?_
        by_contra hsame
        exact hnew ⟨q, hq, .inr (by simpa [OtherFile] using hsame)⟩
      rcases tableAt host path with _ | tbl
      · exact hopening
      · exact document_keeps distinct_ofReads (fun p => ih p false) _ hopening

/-! ### `Read` against the reference -/

lemma read_twice (fuel : ℕ) : ∀ (path : Bytes) (isRoot : Bool),
    Keeps (Twice host) (read host fuel path isRoot) fun _ => Twice host := by
  induction fuel with
  | zero => exact fun _ _ => .fail fun _ hs => hs
  | succ fuel ih =>
    intro path isRoot s hs
    rw [read_succ]
    split
    · exact fun hpair => hs (by simpa using hpair)
    · rcases tableAt host path with _ | tbl
      · exact hs.opening
      · exact document_keeps twice_ofReads (fun p => ih p false) _ hs.opening

/-- The two do the same until a file is reached by a second path; `Read` parses it again. -/
lemma read_agrees_once (host : Host n) (fuel : ℕ) : ∀ (path : Bytes) (isRoot : Bool),
    Agrees (Distinct host) (Twice host)
      (fun e s => ∃ p, e = .recursionDetected p ∧ p ∉ s.gOpenedFiles)
      (read host fuel path isRoot) (readOnce host fuel path isRoot) := by
  induction fuel with
  | zero => exact fun _ _ => .refl (.fail fun _ _ => True.intro)
  | succ fuel ih =>
    intro path isRoot s hs
    rw [read_succ, readOnce_succ]
    by_cases hseen : path ∈ s.gOpenedFiles
    · rw [if_pos hseen, if_pos ⟨path, hseen, .inl rfl⟩]
      exact .inl ⟨rfl, True.intro⟩
    rw [if_neg hseen]
    by_cases hsame : ∃ q ∈ s.gOpenedFiles, q = path ∨ sameFile host q path = true
    · -- the reference stops here
      rw [if_pos hsame]
      obtain ⟨q, hq, rfl | hfile⟩ := hsame
      · exact absurd hq hseen
      have htwice := hs.twice hq hfile
      refine .inr ⟨?_, path, rfl, hseen⟩
      rcases tableAt host path with _ | tbl
      · exact htwice
      · exact (document_keeps twice_ofReads fun p => read_twice fuel p false).state htwice
    · rw [if_neg hsame]
      -- a new file: both read it
      have hopening : Distinct host (s.opening path) := by
        refine hs.opening fun q hq => ?_
        by_contra h
        exact hsame ⟨q, hq, .inr (by simpa [OtherFile] using h)⟩
      rcases tableAt host path with _ | tbl
      · exact .inl ⟨rfl, True.intro⟩
      · refine Agrees.bind_left ((readSections_keeps distinct_ofReads).weaken (fun _ h => h)
          (fun _ _ h => h) fun _ _ _ => True.intro) (fun _ => ?_) _ hopening
        exact readIncludes_agrees (fun p => ih p false) fun p => read_twice fuel p false

/-! ### The allow list -/

/-- Every descriptor is that of one entry of one opened file. -/
structure Appended (s : State) : Prop where
  nodup : (allows s.trace).Nodup
  opened : ∀ a ∈ allows s.trace, a.1 ∈ s.gOpenedFiles
  counted : s.gAllowList.length = (allows s.trace).length

/-- The same while the entries of `path` from position `m` on are still to come. -/
structure Appending (path : Bytes) (m : ℕ) (s : State) : Prop extends Appended s where
  path_opened : path ∈ s.gOpenedFiles
  below : ∀ i, (path, i) ∈ allows s.trace → i < m

lemma appending_ofFiles {m : ℕ} : OfFiles (Appending path m) := by
  intro s s' hopened hlist htrace h
  exact ⟨⟨by rw [htrace]; exact h.nodup, by rw [htrace, hopened]; exact h.opened,
    by rw [htrace, hlist]; exact h.counted⟩, by rw [hopened]; exact h.path_opened,
    by rw [htrace]; exact h.below⟩

lemma Appending.append {m : ℕ} (h : Appending path m s) (desc : AccessDescriptor) :
    Appending path (m + 1) { s with
      gAllowList := s.gAllowList ++ [desc], trace := s.trace ++ [.allow path m] } := by
  refine ⟨⟨?_, ?_, ?_⟩, h.path_opened, ?_⟩ <;> simp only [allows_allow]
  · refine List.nodup_append.mpr ⟨h.nodup, by simp, fun a ha b hb => ?_⟩
    rintro rfl
    rw [List.mem_singleton.mp hb] at ha
    exact absurd (h.below m ha) (Nat.lt_irrefl m)
  · intro a ha
    rcases List.mem_append.mp ha with ha | ha
    · exact h.opened a ha
    · rw [List.mem_singleton.mp ha]
      exact h.path_opened
  · simp [h.counted]
  · intro i hi
    rcases List.mem_append.mp hi with hi | hi
    · exact (h.below i hi).trans (Nat.lt_succ_self m)
    · simp only [List.mem_singleton, Prod.mk.injEq, true_and] at hi
      omega

lemma Appended.opening (h : Appended s) (hnew : path ∉ s.gOpenedFiles) :
    Appending path 0 (s.opening path) := by
  have hallows : allows (s.opening path).trace = allows s.trace := by
    simp only [State.opening, allows_parse, allows_read]
  refine ⟨⟨?_, ?_, ?_⟩, ?_, ?_⟩
  · rw [hallows]
    exact h.nodup
  · rw [hallows]
    exact fun a ha => List.mem_append_left _ (h.opened a ha)
  · rw [hallows]
    exact h.counted
  · simp [State.opening]
  · rw [hallows]
    exact fun i hi => absurd (h.opened _ hi) hnew

lemma read_appended (fuel : ℕ) : ∀ (path : Bytes) (isRoot : Bool),
    Keeps Appended (read host fuel path isRoot) fun _ => Appended := by
  induction fuel with
  | zero => exact fun _ _ => .fail fun _ hs => hs
  | succ fuel ih =>
    intro path isRoot s hs
    rw [read_succ]
    split
    · exact ⟨by simpa using hs.nodup, by simpa using hs.opened, by simpa using hs.counted⟩
    · next hnew =>
      have hopening := hs.opening hnew
      rcases tableAt host path with _ | tbl
      · exact hopening.toAppended
      have haccess : ∀ t, Ensures (Appending path 0) (readAccess host path t)
          (fun _ => Appended) (Failed Appended) := fun t =>
        (readAccess_ensures fun m s desc h => h.append desc).weaken (fun _ h => h)
          (fun _ _ ⟨_, h⟩ => h.toAppended) fun _ _ ⟨hplain, _, h⟩ => ⟨hplain, h.toAppended⟩
      have hsections : Ensures (Appending path 0) (readSections host path isRoot tbl)
          (fun _ => Appended) fun _ => Appended :=
        (readSections_ensures appending_ofFiles (fun _ h => h.toAppended) haccess).weaken
          (fun _ h => h) (fun _ _ h => h) fun _ _ h => h.2
      exact (hsections.bind fun _ => readIncludes_keeps (fun _ _ h => h.2)
        fun p _ => ih p false) _ hopening

lemma Appended.pairwise (h : Appended s) (hd : s.gOpenedFiles.Pairwise (OtherFile host)) :
    (allows s.trace).Pairwise fun a b => a.2 = b.2 → OtherFile host a.1 b.1 := by
  refine h.nodup.imp_of_mem fun {a b} ha hb hne hindex => ?_
  refine hd.forall (h.opened a ha) (h.opened b hb) fun hpath => hne ?_
  exact Prod.ext hpath hindex

/-! ### When no file is applied twice -/

lemma distinct_init : Distinct host .init := ⟨rfl, List.Pairwise.nil⟩

lemma appended_init : Appended .init := ⟨List.nodup_nil, by simp [State.init, allows], rfl⟩

/-- **Files**: no file is applied twice exactly if none is reached by a second path. -/
theorem appliedOnce_iff (host : Host n) (root : Bytes) :
    AppliedOnce host (readRoot host root) ↔ ¬ SecondPath host root := by
  have hpost := readRoot_post host root
  have hagrees := read_agrees_once host ((pathStrings host root).length + 1) root true
    .init distinct_init
  constructor
  · rintro honce ⟨p, s, hstop, hp⟩
    -- the reference stops at the second path, where the code goes on
    rcases hagrees with ⟨hsame, -⟩ | ⟨htwice, -⟩
    · have hrun : readRoot host root = (.error (.recursionDetected p), s) := hsame.trans hstop
      rw [hrun] at hpost
      rcases hpost.reads with ⟨hplain, -⟩ | ⟨q, hq, he, -⟩
      · cases hplain
      · cases he
        exact hp hq
    · exact htwice honce.parsed
  · intro hnone
    have hsame : readRoot host root =
        (readOnce host ((pathStrings host root).length + 1) root true).run .init := by
      rcases hagrees with ⟨hsame, -⟩ | ⟨-, hstop⟩
      · exact hsame
      · rcases hr : (readOnce host ((pathStrings host root).length + 1) root true).run .init
          with ⟨e | ⟨⟩, s⟩ <;> rw [hr] at hstop
        · obtain ⟨p, rfl, hp⟩ := hstop
          exact absurd ⟨p, s, hr, hp⟩ hnone
        · exact hstop.elim
    -- without a second path the code does what the reference does
    have hdistinct : Distinct host (readRoot host root).2 := by
      rw [hsame]
      exact (readOnce_keeps _ root true).state distinct_init
    have happended : Appended (readRoot host root).2 := (read_appended _ root true).state
      appended_init
    refine ⟨hdistinct.parses ▸ hdistinct.distinct, happended.pairwise hdistinct.distinct,
      happended.counted, fun htwice => ?_⟩
    rcases hr : readRoot host root with ⟨e | ⟨⟩, s⟩ <;> rw [hr] at hpost hdistinct htwice
    · rcases hpost.reads with ⟨-, hreads⟩ | ⟨p, -, he, -⟩
      · exact absurd (hreads ▸ hdistinct.distinct) htwice
      · exact ⟨p, by rw [he]⟩
    · exact absurd (hpost.reads ▸ hdistinct.distinct) htwice

/-- The root file `confd.toml` includes `a.toml` and `./a.toml`, which allows the user 0 the key
`k`; `data` is a directory. -/
def aliased : Host 3 where
  node
    | 0 => ⟨.regular, some [
        (ascii "rpc", .table [(ascii "listen", .string (ascii "sock"))]),
        (ascii "storage", .table [(ascii "dir", .string (ascii "data")),
          (ascii "db", .string (ascii "db"))]),
        (ascii "include", .array [.table [(ascii "path", .string (ascii "a.toml"))],
          .table [(ascii "path", .string (ascii "./a.toml"))]])], .error 20⟩
    | 1 => ⟨.regular, some [(ascii "access", .table [(ascii "allow", .array [
        .table [(ascii "user", .integer 0), (ascii "paths", .array [.string (ascii "k")])]])])],
        .error 20⟩
    | 2 => ⟨.directory, none, .ok []⟩
  resolve path :=
    if path = ascii "confd.toml" then .ok (some 0)
    else if path = ascii "a.toml" ∨ path = ascii "./a.toml" then .ok (some 1)
    else if path = ascii "data" then .ok (some 2)
    else .ok none
  getpwnam _ := .null 0
  getgrnam _ := .null 0
  intValue _ := none

/-- `a.toml` is parsed twice. -/
theorem aliased_applied_twice : ¬ ∀ (n : ℕ) (host : Host n) (root : Bytes),
    AppliedOnce host (readRoot host root) := by
  intro h
  have hparses : parses (readRoot aliased (ascii "confd.toml")).2.trace =
      [ascii "confd.toml", ascii "a.toml", ascii "./a.toml"] := by decide
  have honce := (h 3 aliased (ascii "confd.toml")).parsed
  rw [hparses] at honce
  have hother := (List.pairwise_cons.mp (List.pairwise_cons.mp honce).2).1 (ascii "./a.toml")
    (by simp)
  have hsame : sameFile aliased (ascii "a.toml") (ascii "./a.toml") = true := by decide
  exact absurd (hother.symm.trans hsame) (by simp)

end Once

end Sativa.Config
