/-
`join_jsons` over shards, and what the joined run is to the diff.

# The fold

`joinJsons` joins every later shard into the first. One `join` that
returns (`joinRun_eq_ok`) adds exit codes, takes the union of the key sets,
keeps every grouped test where it came from (its guard makes the key new)
and appends the donor's ungrouped kernels after the receiver's. By
induction over the shards, a fold that returns has the sum of the exit
codes, the union of the keys, each grouped test of the shard that has it
(`get?_joinJsons_of_ne`), and as ungrouped kernels the shards' in shard
order (`ungroupedKernels_joinJsons`). None of these depends on the order
of the shards beyond a permutation of the ungrouped kernels
(`joinJsons_perm`): two orders that both return agree.

Whether a fold returns does depend on the order. `TestRun` sets `env` to
`None` when the run directory has no `env` file, and `join` computes
`self.env += …` only when the two differ: a receiver without `env` raises a
`TypeError`, a donor without one is rendered as the text `None`.

# The joined run and `get_kernel`

`get_kernel` opens `cuda/<file>` under the run's own `directory`, and the
joined run keeps the receiver's. A receiver's test loads as before
(`getKernel_joined_receiver`); a donor's test loads its files from the
receiver's directory (`getKernel_joined_donor`): where the receiver has no
file of that name the diff raises, where it has one it diffs the
receiver's file in place of the donor's.
-/
import CodeDiff.Proofs.Join.Spec
import CodeDiff.Diff
import Mathlib.Algebra.BigOperators.Group.List
import Mathlib.Algebra.Order.Ring.Nat
import Mathlib.Algebra.Order.Ring.Int

namespace CodeDiff

-- ===================================================== one join, read back

section joined

variable {a b : TestRun}

@[simp] theorem joined_directory : (a.joined b).directory = a.directory := rfl

@[simp] theorem joined_preambleSizeLines :
    (a.joined b).preambleSizeLines = a.preambleSizeLines := rfl

@[simp] theorem joined_exitCode : (a.joined b).exitCode = a.exitCode + b.exitCode := rfl

@[simp] theorem joined_kernelMap :
    (a.joined b).kernelMap = mergeAll a.kernelMap b.kernelMap.entries := rfl

theorem mem_keys_joined {k : Text} :
    k ∈ (a.joined b).kernelMap.keys ↔ k ∈ a.kernelMap.keys ∨ k ∈ b.kernelMap.keys :=
  mem_keys_mergeAll

/-- A grouped test of the joined run is the receiver's or the donor's; the
guard keeps the two apart. -/
theorem get?_joined_of_ne (hg : JoinGuard a b) {k : Text} (hk : k ≠ ungroupedName) :
    (a.joined b).kernelMap.get? k = (a.kernelMap.get? k).or (b.kernelMap.get? k) := by
  rw [joined_kernelMap, get?_mergeAll k b.kernelMap.nodup]
  show _ = (a.kernelMap.get? k).or (Dict.lookup k b.kernelMap.entries)
  rcases hl : Dict.lookup k b.kernelMap.entries with _ | t
  · cases a.kernelMap.get? k <;> rfl
  · have hm : (k, t) ∈ b.kernelMap.entries := (Dict.lookup_eq_some_iff b.kernelMap.nodup).1 hl
    have ha : a.kernelMap.get? k = none :=
      Dict.get?_eq_none.2 ((hg.merges.guard b.kernelMap.nodup hm).fresh hk)
    rw [ha]
    rfl

theorem get?_joined_eq_some (hg : JoinGuard a b) {k : Text} (hk : k ≠ ungroupedName)
    {t : CompiledTest} :
    (a.joined b).kernelMap.get? k = some t ↔
      a.kernelMap.get? k = some t ∨ b.kernelMap.get? k = some t := by
  rw [get?_joined_of_ne hg hk]
  rcases ha : a.kernelMap.get? k with _ | t'
  · simp
  · have hb : b.kernelMap.get? k = none := by
      rcases hb : b.kernelMap.get? k with _ | t''
      · rfl
      · have hm := Dict.mem_entries_iff.2 hb
        exact absurd (Dict.get?_isSome.1 (by rw [ha]; rfl))
          ((hg.merges.guard b.kernelMap.nodup hm).fresh hk)
    simp [hb]

end joined

-- ===================================================== the ungrouped kernels

/-- The kernels under a run's `Ungrouped Kernels` key, if any. -/
def ungroupedKernels (r : TestRun) : List CompiledKernel :=
  ((r.kernelMap.get? ungroupedName).map (·.kernels)).getD []

/-- The pass flag under a run's `Ungrouped Kernels` key, `True` without one. -/
def ungroupedPassed (r : TestRun) : Bool :=
  ((r.kernelMap.get? ungroupedName).map (·.passed)).getD true

theorem ungroupedKernels_joined (a b : TestRun) :
    ungroupedKernels (a.joined b) = ungroupedKernels a ++ ungroupedKernels b := by
  unfold ungroupedKernels
  rw [joined_kernelMap, get?_mergeAll _ b.kernelMap.nodup]
  show _ = _ ++ ((Dict.lookup ungroupedName b.kernelMap.entries).map _).getD []
  rcases Dict.lookup ungroupedName b.kernelMap.entries with _ | t
  · simp
  · rcases a.kernelMap.get? ungroupedName with _ | mine <;> simp [mergedTest]

theorem ungroupedPassed_joined (a b : TestRun) :
    ungroupedPassed (a.joined b) = (ungroupedPassed a && ungroupedPassed b) := by
  unfold ungroupedPassed
  rw [joined_kernelMap, get?_mergeAll _ b.kernelMap.nodup]
  show _ = (_ && ((Dict.lookup ungroupedName b.kernelMap.entries).map _).getD true)
  rcases Dict.lookup ungroupedName b.kernelMap.entries with _ | t
  · simp
  · rcases a.kernelMap.get? ungroupedName with _ | mine <;> simp [mergedTest]

-- ===================================================== the fold

section fold

variable {td J : TestRun} {rest : List TestRun}

theorem joinAll_cons_eq_ok {s : TestRun} :
    joinAll td (s :: rest) = .ok J ↔ JoinGuard td s ∧ joinAll (td.joined s) rest = .ok J := by
  show (match td.joinRun s with
    | (.ok (), td) => joinAll td rest
    | (.error e, _) => .error e) = .ok J ↔ _
  rcases h : td.joinRun s with ⟨_ | ⟨⟩, j⟩
  · simp only [reduceCtorEq, false_iff, not_and]
    intro hg
    exact absurd (joinRun_eq_ok.2 ⟨hg, rfl⟩) (by rw [h]; simp)
  · obtain ⟨hg, rfl⟩ := joinRun_eq_ok.1 h
    exact (and_iff_right hg).symm

theorem exitCode_joinAll :
    joinAll td rest = .ok J → J.exitCode = td.exitCode + (rest.map (·.exitCode)).sum := by
  induction rest generalizing td with
  | nil => intro h; cases h; simp
  | cons s rest ih =>
      intro h
      rw [ih (joinAll_cons_eq_ok.1 h).2, joined_exitCode, List.map_cons, List.sum_cons, add_assoc]

theorem mem_keys_joinAll {k : Text} :
    joinAll td rest = .ok J → (k ∈ J.kernelMap.keys ↔ ∃ s ∈ td :: rest, k ∈ s.kernelMap.keys) := by
  induction rest generalizing td with
  | nil => intro h; cases h; simp
  | cons s rest ih =>
      intro h
      rw [ih (joinAll_cons_eq_ok.1 h).2]
      simp only [List.mem_cons, exists_eq_or_imp, mem_keys_joined, or_assoc]

theorem get?_joinAll_of_ne {k : Text} (hk : k ≠ ungroupedName) {t : CompiledTest} :
    joinAll td rest = .ok J →
      (J.kernelMap.get? k = some t ↔ ∃ s ∈ td :: rest, s.kernelMap.get? k = some t) := by
  induction rest generalizing td with
  | nil => intro h; cases h; simp
  | cons s rest ih =>
      intro h
      obtain ⟨hg, h⟩ := joinAll_cons_eq_ok.1 h
      rw [ih h]
      simp only [List.mem_cons, exists_eq_or_imp, get?_joined_eq_some hg hk, or_assoc]

theorem ungrouped_joinAll :
    joinAll td rest = .ok J → ungroupedKernels J = (td :: rest).flatMap ungroupedKernels ∧
      ungroupedPassed J = (td :: rest).all ungroupedPassed := by
  induction rest generalizing td with
  | nil => intro h; cases h; simp
  | cons s rest ih =>
      intro h
      obtain ⟨hk, hp⟩ := ih (joinAll_cons_eq_ok.1 h).2
      rw [hk, hp, List.flatMap_cons, ungroupedKernels_joined, List.all_cons, ungroupedPassed_joined]
      simp [Bool.and_assoc]

end fold

-- ===================================================== join_jsons

section joinJsons

variable {L : List TestRun} {J : TestRun}

theorem joinJsons_eq_ok : joinJsons L = .ok J ↔ ∃ td rest, L = td :: rest ∧ joinAll td rest = .ok J := by
  cases L with
  | nil => simp [joinJsons]
  | cons td rest => exact ⟨fun h => ⟨td, rest, rfl, h⟩, fun ⟨_, _, he, h⟩ => by cases he; exact h⟩

theorem exitCode_joinJsons (h : joinJsons L = .ok J) : J.exitCode = (L.map (·.exitCode)).sum := by
  obtain ⟨td, rest, rfl, h⟩ := joinJsons_eq_ok.1 h
  rw [exitCode_joinAll h, List.map_cons, List.sum_cons]

theorem mem_keys_joinJsons (h : joinJsons L = .ok J) (k : Text) :
    k ∈ J.kernelMap.keys ↔ ∃ s ∈ L, k ∈ s.kernelMap.keys := by
  obtain ⟨td, rest, rfl, h⟩ := joinJsons_eq_ok.1 h
  exact mem_keys_joinAll h

theorem get?_joinJsons_of_ne (h : joinJsons L = .ok J) {k : Text} (hk : k ≠ ungroupedName)
    (t : CompiledTest) : J.kernelMap.get? k = some t ↔ ∃ s ∈ L, s.kernelMap.get? k = some t := by
  obtain ⟨td, rest, rfl, h⟩ := joinJsons_eq_ok.1 h
  exact get?_joinAll_of_ne hk h

theorem ungroupedKernels_joinJsons (h : joinJsons L = .ok J) :
    ungroupedKernels J = L.flatMap ungroupedKernels ∧ ungroupedPassed J = L.all ungroupedPassed := by
  obtain ⟨td, rest, rfl, h⟩ := joinJsons_eq_ok.1 h
  exact ungrouped_joinAll h

/-- Two orders of the same shards that both join agree on the kernel map's
keys, on every grouped test, on the ungrouped kernels up to order and on
their pass flag, and on the exit code. -/
theorem joinJsons_perm {L' : List TestRun} {J' : TestRun} (hp : L.Perm L')
    (h : joinJsons L = .ok J) (h' : joinJsons L' = .ok J') :
    (∀ k, k ∈ J.kernelMap.keys ↔ k ∈ J'.kernelMap.keys) ∧
    (∀ k, k ≠ ungroupedName → J.kernelMap.get? k = J'.kernelMap.get? k) ∧
    (ungroupedKernels J).Perm (ungroupedKernels J') ∧ ungroupedPassed J = ungroupedPassed J' ∧
    J.exitCode = J'.exitCode := by
  obtain ⟨hk, hpass⟩ := ungroupedKernels_joinJsons h
  obtain ⟨hk', hpass'⟩ := ungroupedKernels_joinJsons h'
  refine ⟨fun k => ?_, fun k hne => Option.ext fun t => ?_, ?_, ?_, ?_⟩
  · rw [mem_keys_joinJsons h, mem_keys_joinJsons h']
    exact exists_congr fun s => and_congr_left' hp.mem_iff
  · rw [Option.mem_def, Option.mem_def, get?_joinJsons_of_ne h hne, get?_joinJsons_of_ne h' hne]
    exact exists_congr fun s => and_congr_left' hp.mem_iff
  · rw [hk, hk']
    exact hp.flatMap_right _
  · rw [hpass, hpass', Bool.eq_iff_iff, List.all_eq_true, List.all_eq_true]
    exact forall_congr' fun s => imp_congr_left hp.mem_iff
  · rw [exitCode_joinJsons h, exitCode_joinJsons h', (hp.map _).sum_eq]

/-- Two shards with one test each, joined in either order. -/
theorem joinJsons_perm_on_sample :
    let git : GitRev := ⟨[], none, [], [], [], [], [], []⟩
    let shard : Text → Text → TestRun := fun dir test =>
      ⟨⟨dir, [], some [], []⟩, git, dir, [], .googletest, 1, some [], some [], none,
        ⟨[(test, ⟨test, [], true, none⟩)], List.nodup_singleton _⟩, [], 0⟩
    let a := shard "a".toList "ta".toList
    let b := shard "b".toList "tb".toList
    ∃ J J', joinJsons [a, b] = .ok J ∧ joinJsons [b, a] = .ok J' ∧
      (∀ k, k ∈ J.kernelMap.keys ↔ k ∈ J'.kernelMap.keys) ∧
      (∀ k, k ≠ ungroupedName → J.kernelMap.get? k = J'.kernelMap.get? k) ∧
      (ungroupedKernels J).Perm (ungroupedKernels J') ∧ ungroupedPassed J = ungroupedPassed J' ∧
      J.exitCode = J'.exitCode := by
  intro git shard a b
  obtain ⟨J, h⟩ := except_eq_ok_of_isOk (by decide : (joinJsons [a, b]).isOk = true)
  obtain ⟨J', h'⟩ := except_eq_ok_of_isOk (by decide : (joinJsons [b, a]).isOk = true)
  exact ⟨J, J', h, h', joinJsons_perm (List.Perm.swap b a []) h h'⟩

/-- A shard without an `env` file can be joined after a shard with one, not
before it: the order of the shards decides whether `join_jsons` raises. -/
theorem shard_without_env_file_joins_only_second :
    let git : GitTool := ⟨fun _ => [], fun _ => [], fun _ _ => []⟩
    let shard : Text → List (Text × Text) → RunDir := fun path env =>
      ⟨path, [("git_hash".toList, "abc\n".toList), ("command".toList, "true\n".toList),
        ("exitcode".toList, "0\n".toList), ("stdout".toList, []),
        ("gpu_names".toList, "gpu\n".toList)] ++ env, some [], []⟩
    (do
      let a ← TestRun.create UnicodeDB.asciiOnly git (shard "a".toList [])
      let b ← TestRun.create UnicodeDB.asciiOnly git
        (shard "b".toList [("env".toList, "E=1\n".toList)])
      pure ((joinJsons [a, b]).map TestRun.env, (joinJsons [b, a]).map TestRun.env)) =
      .ok (.error .typeError, .ok (some "E=1\n\nNone".toList)) := by
  decide

end joinJsons

-- ===================================================== get_kernel on a joined run

section getKernel

variable (U : UnicodeDB) {a b : TestRun} {name : Text}

/-- `get_kernel` reads of its run only the test under one key, the directory
and the preamble length. -/
theorem getKernel_congr {r r' : TestRun} (hm : r.kernelMap.get? name = r'.kernelMap.get? name)
    (hd : r.directory = r'.directory) (hp : r.preambleSizeLines = r'.preambleSizeLines)
    (k : Nat) (sp : Bool) : getKernel U r name k sp = getKernel U r' name k sp := by
  unfold getKernel
  rw [hm, hd, hp]

/-- The receiver's grouped tests load from the joined run as from the receiver. -/
theorem getKernel_joined_receiver (hg : JoinGuard a b) (hk : name ≠ ungroupedName)
    (ha : name ∈ a.kernelMap.keys) (k : Nat) (sp : Bool) :
    getKernel U (a.joined b) name k sp = getKernel U a name k sp := by
  obtain ⟨t, ht⟩ := Dict.get?_of_mem_keys ha
  refine @getKernel_congr U name (a.joined b) a ?_ rfl rfl k sp
  rw [get?_joined_of_ne hg hk, ht]
  rfl

/-- Two shards in their own directories: the receiver's test loads from the
joined run as from the receiver. -/
theorem getKernel_joined_receiver_on_sample :
    let git : GitRev := ⟨[], none, [], [], [], [], [], []⟩
    let shard : Text → Text → Text → TestRun := fun dir test file =>
      ⟨⟨dir, [], some [(file, "x\n".toList)], []⟩, git, dir, [], .googletest, 0, some [],
        some [], none, ⟨[(test, ⟨test, [{ filename := file }], true, none⟩)],
          List.nodup_singleton _⟩, [], 0⟩
    let a := shard "a".toList "ta".toList "k.cu".toList
    let b := shard "b".toList "tb".toList "m.cu".toList
    JoinGuard a b ∧ "ta".toList ≠ ungroupedName ∧ "ta".toList ∈ a.kernelMap.keys ∧
      getKernel UnicodeDB.asciiOnly (a.joined b) "ta".toList 0 true =
        getKernel UnicodeDB.asciiOnly a "ta".toList 0 true := by
  intro git shard a b
  have hj : (a.joinRun b).1 = .ok () := by decide
  have hg := (joinRun_eq_ok.1 (Prod.ext hj rfl : a.joinRun b = (.ok (), (a.joinRun b).2))).1
  have hk : "ta".toList ≠ ungroupedName := by decide
  have ha : "ta".toList ∈ a.kernelMap.keys := by decide
  exact ⟨hg, hk, ha, getKernel_joined_receiver _ hg hk ha 0 true⟩

/-- The donor's grouped tests load from the joined run as from the donor
moved into the receiver's directory. -/
theorem getKernel_joined_donor (hg : JoinGuard a b) (hk : name ≠ ungroupedName)
    (hb : name ∈ b.kernelMap.keys) (k : Nat) (sp : Bool) :
    getKernel U (a.joined b) name k sp = getKernel U { b with directory := a.directory } name k sp := by
  obtain ⟨t, ht⟩ := Dict.get?_of_mem_keys hb
  have ha : a.kernelMap.get? name = none := Dict.get?_eq_none.2
    ((hg.merges.guard b.kernelMap.nodup (Dict.mem_entries_iff.2 ht)).fresh hk)
  refine @getKernel_congr U name (a.joined b) { b with directory := a.directory } ?_ rfl
    hg.preambleSizeLines k sp
  rw [get?_joined_of_ne hg hk, ha, ht]
  rfl

end getKernel

/-- The donor's test of the two shards loads from the joined run as from the
donor moved into the receiver's directory. -/
theorem getKernel_joined_donor_on_sample :
    let git : GitRev := ⟨[], none, [], [], [], [], [], []⟩
    let shard : Text → Text → Text → TestRun := fun dir test file =>
      ⟨⟨dir, [], some [(file, "x\n".toList)], []⟩, git, dir, [], .googletest, 0, some [],
        some [], none, ⟨[(test, ⟨test, [{ filename := file }], true, none⟩)],
          List.nodup_singleton _⟩, [], 0⟩
    let a := shard "a".toList "ta".toList "k.cu".toList
    let b := shard "b".toList "tb".toList "m.cu".toList
    JoinGuard a b ∧ "tb".toList ≠ ungroupedName ∧ "tb".toList ∈ b.kernelMap.keys ∧
      getKernel UnicodeDB.asciiOnly (a.joined b) "tb".toList 0 true =
        getKernel UnicodeDB.asciiOnly { b with directory := a.directory } "tb".toList 0 true := by
  intro git shard a b
  have hj : (a.joinRun b).1 = .ok () := by decide
  have hg := (joinRun_eq_ok.1 (Prod.ext hj rfl : a.joinRun b = (.ok (), (a.joinRun b).2))).1
  have hk : "tb".toList ≠ ungroupedName := by decide
  have hb : "tb".toList ∈ b.kernelMap.keys := by decide
  exact ⟨hg, hk, hb, getKernel_joined_donor _ hg hk hb 0 true⟩


/-- Two shards in their own directories, each of whose diffs against the
second shard returns; joined, the second shard's kernel file is looked up in
the first shard's directory. -/
theorem joined_run_misses_donor_kernel_file (ud : UnifiedDiff) :
    let git : GitRev := ⟨[], none, [], [], [], [], [], []⟩
    let shard : Text → Text → Text → TestRun := fun dir test file =>
      ⟨⟨dir, [], some [(file, "x\n".toList)], []⟩, git, dir, [], .googletest, 0, some [], some [],
        none, ⟨[(test, ⟨test, [{ filename := file }], true, none⟩)], List.nodup_singleton _⟩, [], 0⟩
    let a := shard "a".toList "ta".toList "k.cu".toList
    let b := shard "b".toList "tb".toList "m.cu".toList
    (∃ td, testDifferences UnicodeDB.asciiOnly ud a b "all".toList = .ok td) ∧
      (∃ td, testDifferences UnicodeDB.asciiOnly ud b b "all".toList = .ok td) ∧
      ∃ j, a.joinRun b = (.ok (), j) ∧
        testDifferences UnicodeDB.asciiOnly ud j b "all".toList = .error .fileNotFoundError := by
  intro git shard a b
  exact ⟨⟨_, rfl⟩, ⟨_, rfl⟩, _, rfl, rfl⟩

end CodeDiff
