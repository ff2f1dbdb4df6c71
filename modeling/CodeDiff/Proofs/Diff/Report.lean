/-
What `TestDifferences` reports about the tests of two runs, and what a
`KernelDiff` counts.

# The partition

The first loop removes every test of the first run whose name the second
run lacks (`outcomes_removed`) and compares the others; the second loop
adds the tests of the second run whose name the first lacks. A compared
test yields its `TestDiff`s as `compareTest_diffs` says: the one with a
null kernel list when the kernel counts differ, then the one of the
included kernel diffs when there is one. A test whose counts differ and
that has an included kernel diff among its first `min` kernels is thus
reported twice (`count_mismatch_with_kernel_diff_reported_twice`), which
is what the warning "Only showing diffs for the first N kernels" prints
for. What holds is one `TestDiff` of each kind per name at most
(`testDifferences_partition`): a name's records come from the one test of
that name (`outcomes_kind_le_one`), since a kernel map's keys are
distinct.

# KernelDiff's line counts

`KernelDiff.__post_init__` counts the lines that begin with `"+ "` and
`"- "`, the markers of `difflib.ndiff`. `unified_diff` marks an inserted
or a deleted line with a bare `+` or `-` before its text, so only the
changed lines whose text begins with a space are counted
(`countMarked_map_cons`, `countMarked_wholeFile`), and a one-line change
counts as nothing (`kernel_diff_counts_miss_changed_lines`).
-/
import CodeDiff.Proofs.Diff.Spec

namespace CodeDiff

variable (U : UnicodeDB) (ud : UnifiedDiff)

/-- The number of `KernelDiff`s a `TestDiff` holds: none for a count
mismatch. -/
def TestDiff.numKernelDiffs (d : TestDiff) : Nat :=
  (d.kernelDiffs.map List.length).getD 0

-- ===================================================== one test

section outcome

variable {U ud} {crit name : Text} {r1 r2 : TestRun} {t1 t2 : CompiledTest}
  {ds : List TestDiff} {n : Nat}

/-- A compared test's `TestDiff`s hold its kernel diffs once. -/
theorem compareTest_numKernelDiffs (h : compareTest U ud crit r1 r2 name t1 t2 = .ok (ds, n)) :
    (ds.map TestDiff.numKernelDiffs).sum = n := by
  obtain ⟨results, t1', t2', -, -, -, rfl, rfl⟩ := compareTest_diffs U ud h
  clear h
  generalize results.filterMap (·.2.2) = kds
  cases kds <;> split_ifs <;> simp_all [TestDiff.numKernelDiffs]

/-- A compared test has at most one `TestDiff` of each kind: `q` keeps
the null kernel lists or the present ones, not both. -/
theorem compareTest_kind_le_one {q : Option (List KernelDiff) → Bool}
    (hq : q none = false ∨ ∀ l, q (some l) = false)
    (h : compareTest U ud crit r1 r2 name t1 t2 = .ok (ds, n)) :
    (ds.filter fun d => q d.kernelDiffs).length ≤ 1 := by
  obtain ⟨results, t1', t2', -, -, -, -, rfl⟩ := compareTest_diffs U ud h
  rcases hq with hq | hq <;> split_ifs <;> simp [List.filter_cons, hq] <;> split <;> simp

/-- What the first loop makes of one test: the test loaded and removed when
the second run lacks its name, its `TestDiff`s and kernel-diff count
otherwise. -/
theorem testOutcome_cases {e : Text × CompiledTest} {o : List TestDiff × List CompiledTest × Nat}
    (he : testOutcome U ud crit r1 r2 e = .ok o) :
    (∃ t, r2.kernelMap.get? e.1 = none ∧ loadTest U r1 e.1 e.2 = .ok t ∧ o = ([], [t], 0)) ∨
      ∃ t2 ds n, r2.kernelMap.get? e.1 = some t2 ∧
        compareTest U ud crit r1 r2 e.1 e.2 t2 = .ok (ds, n) ∧ o = (ds, [], n) := by
  unfold testOutcome at he
  cases hget : r2.kernelMap.get? e.1 with
  | none =>
      rw [hget] at he
      obtain ⟨t, ht, rfl⟩ := except_map_eq_ok.mp he
      exact .inl ⟨t, rfl, ht, rfl⟩
  | some t2 =>
      rw [hget] at he
      obtain ⟨⟨ds, n⟩, hc, rfl⟩ := except_map_eq_ok.mp he
      exact .inr ⟨t2, ds, n, rfl, hc, rfl⟩

theorem outcome_numKernelDiffs {e : Text × CompiledTest}
    {o : List TestDiff × List CompiledTest × Nat} (he : testOutcome U ud crit r1 r2 e = .ok o) :
    (o.1.map TestDiff.numKernelDiffs).sum = o.2.2 := by
  rcases testOutcome_cases he with ⟨t, -, -, rfl⟩ | ⟨t2, ds, n, -, hc, rfl⟩
  · rfl
  · exact compareTest_numKernelDiffs hc

/-- One test's records of one kind and one name: at most one, and none
unless the test has that name. -/
theorem outcome_kind_le {q : Option (List KernelDiff) → Bool}
    (hq : q none = false ∨ ∀ l, q (some l) = false) {e : Text × CompiledTest}
    {o : List TestDiff × List CompiledTest × Nat} (he : testOutcome U ud crit r1 r2 e = .ok o)
    (name : Text) :
    (o.1.filter fun d => d.testname = name && q d.kernelDiffs).length ≤
      if e.1 = name then 1 else 0 := by
  rcases testOutcome_cases he with ⟨t, -, -, rfl⟩ | ⟨t2, ds, n, -, hc, rfl⟩
  · simp
  · obtain ⟨_, -, -, hname, -⟩ := compareTest_eq_ok U ud hc
    split_ifs with hn
    · have : (ds.filter fun d => d.testname = name && q d.kernelDiffs) =
          ds.filter fun d => q d.kernelDiffs :=
        List.filter_congr fun d hd => by simp [hname d hd, hn]
      exact this ▸ compareTest_kind_le_one hq hc
    · rw [List.filter_eq_nil_iff.2 fun d hd => by simp [hname d hd, hn]]
      exact Nat.zero_le _

end outcome

-- ===================================================== the loop

section outcomes

variable {U ud} {crit : Text} {r1 r2 : TestRun} {es : List (Text × CompiledTest)}
  {outs : List (List TestDiff × List CompiledTest × Nat)}

/-- The removed tests are the tests of the first run that the second run
lacks, loaded, in the first run's order. -/
theorem outcomes_removed
    (ho : List.Forall₂ (fun e o => testOutcome U ud crit r1 r2 e = .ok o) es outs) :
    List.Forall₂ (fun e t => loadTest U r1 e.1 e.2 = .ok t)
      (es.filter fun e => !r2.kernelMap.contains e.1) (outs.map (·.2.1)).flatten := by
  induction ho with
  | nil => exact .nil
  | cons he _ ih =>
      rw [List.filter_cons, Dict.contains_eq_isSome, List.map_cons, List.flatten_cons]
      rcases testOutcome_cases he with ⟨t, hget, ht, rfl⟩ | ⟨t2, ds, n, hget, -, rfl⟩
      · simp only [hget, Option.isSome_none, Bool.not_false, if_true]
        exact .cons ht ih
      · simpa [hget] using ih

theorem outcomes_numKernelDiffs
    (ho : List.Forall₂ (fun e o => testOutcome U ud crit r1 r2 e = .ok o) es outs) :
    ((outs.map (·.1)).flatten.map TestDiff.numKernelDiffs).sum = (outs.map (·.2.2)).sum := by
  induction ho with
  | nil => rfl
  | cons he _ ih =>
      simp only [List.map_cons, List.flatten_cons, List.map_append, List.sum_append,
        List.sum_cons, ih, outcome_numKernelDiffs he]

/-- Over tests of distinct names, a name has at most one record of each
kind, and none unless a test has that name. -/
theorem outcomes_kind_le_one {q : Option (List KernelDiff) → Bool}
    (hq : q none = false ∨ ∀ l, q (some l) = false)
    (ho : List.Forall₂ (fun e o => testOutcome U ud crit r1 r2 e = .ok o) es outs)
    (hnd : (es.map (·.1)).Nodup) (name : Text) :
    ((outs.map (·.1)).flatten.filter fun d => d.testname = name && q d.kernelDiffs).length ≤
      if name ∈ es.map (·.1) then 1 else 0 := by
  induction ho with
  | nil => simp
  | @cons e _ _ _ he _ ih =>
      rw [List.map_cons, List.nodup_cons] at hnd
      have h1 := outcome_kind_le hq he name
      have h2 := ih hnd.2
      simp only [List.map_cons, List.flatten_cons, List.filter_append, List.length_append,
        List.mem_cons]
      by_cases hn : e.1 = name
      · subst hn
        simp only [hnd.1, if_true, if_false, true_or] at h1 h2 ⊢
        omega
      · simp only [hn, Ne.symm hn, if_false, false_or] at h1 h2 ⊢
        omega

/-- The records of a compared test are among the loop's. -/
theorem subset_outcomes_of_compared
    (ho : List.Forall₂ (fun e o => testOutcome U ud crit r1 r2 e = .ok o) es outs)
    {e : Text × CompiledTest} (he : e ∈ es) {t2 : CompiledTest}
    (h2 : r2.kernelMap.get? e.1 = some t2) {ds : List TestDiff} {n : Nat}
    (hc : compareTest U ud crit r1 r2 e.1 e.2 t2 = .ok (ds, n)) :
    ds ⊆ (outs.map (·.1)).flatten := by
  induction ho with
  | nil => cases he
  | @cons e' o _ _ he' _ ih =>
      rw [List.map_cons, List.flatten_cons]
      rcases List.mem_cons.1 he with rfl | he
      · rcases testOutcome_cases he' with ⟨_, h, -⟩ | ⟨t2', ds', n', h', hc', rfl⟩
        · rw [h] at h2
          cases h2
        · obtain rfl := Option.some.inj (h2.symm.trans h')
          rw [hc] at hc'
          cases hc'
          exact List.subset_append_left _ _
      · exact (ih he).trans (List.subset_append_right _ _)

end outcomes

-- ===================================================== the partition

/-- For any runs and criterion, whenever the diff returns: the removed tests
are the first run's tests absent from the second, loaded, in the first
run's order; the new tests likewise the other way; every `TestDiff` names a
test of both runs; a name has at most one `TestDiff` with a null kernel list
and at most one with a list; a test whose kernel counts differ has the
null one; and the total counts the kernel diffs of all `TestDiff`s. -/
theorem testDifferences_partition {r1 r2 : TestRun} {crit : Text} {td : TestDifferences}
    (h : testDifferences U ud r1 r2 crit = .ok td) :
    List.Forall₂ (fun e t => loadTest U r1 e.1 e.2 = .ok t)
        (r1.kernelMap.entries.filter fun e => !r2.kernelMap.contains e.1) td.removedTests ∧
      List.Forall₂ (fun e t => loadTest U r2 e.1 e.2 = .ok t)
        (r2.kernelMap.entries.filter fun e => !r1.kernelMap.contains e.1) td.newTests ∧
      (∀ d ∈ td.testDiffs, d.testname ∈ r1.kernelMap.keys ∧ d.testname ∈ r2.kernelMap.keys) ∧
      (∀ name,
        (td.testDiffs.filter fun d => d.testname = name && d.kernelDiffs.isNone).length ≤ 1 ∧
        (td.testDiffs.filter fun d => d.testname = name && d.kernelDiffs.isSome).length ≤ 1) ∧
      (∀ name t1 t2, r1.kernelMap.get? name = some t1 → r2.kernelMap.get? name = some t2 →
        t1.kernels.length ≠ t2.kernels.length →
        ∃ d ∈ td.testDiffs, d.testname = name ∧ d.kernelDiffs = none) ∧
      td.totalNumDiffs = (td.testDiffs.map TestDiff.numKernelDiffs).sum := by
  obtain ⟨-, -, -, -, hd, hn, -, -⟩ := (testDifferences_eq_ok U ud).1 h
  rw [diffTests_eq] at hd
  rw [newTestsOf_eq] at hn
  obtain ⟨outs, ho, hj⟩ := except_map_eq_ok.mp hd
  replace ho := except_mapM_eq_ok.mp ho
  simp only [joinOutcomes, Prod.mk.injEq] at hj
  obtain ⟨hdiffs, hrem, htot⟩ := hj
  refine ⟨hrem ▸ outcomes_removed ho, except_mapM_eq_ok.mp hn, ?_, fun name => ⟨?_, ?_⟩, ?_, ?_⟩
  · intro d hd
    obtain ⟨e, he, hname, t2, -, -, h2, -⟩ :=
      (mem_outcomes_testnames U ud ho d.testname).1 (hdiffs ▸ List.mem_map_of_mem _ hd)
    rw [← hname]
    exact ⟨List.mem_map_of_mem _ he, Dict.get?_isSome.1 (by simp [h2])⟩
  · exact hdiffs ▸ (outcomes_kind_le_one (.inr fun _ => rfl) ho r1.kernelMap.nodup name).trans
      (by split <;> simp)
  · exact hdiffs ▸ (outcomes_kind_le_one (.inl rfl) ho r1.kernelMap.nodup name).trans
      (by split <;> simp)
  · intro name t1 t2 h1 h2 hl
    have he : (name, t1) ∈ r1.kernelMap.entries := Dict.mem_entries_iff.2 h1
    obtain ⟨ds, n, hc⟩ := compared_of_outcomes U ud ho he h2
    obtain ⟨_, t1', t2', -, -, -, -, hds⟩ := compareTest_diffs U ud hc
    refine ⟨⟨name, t1', t2', none⟩, hdiffs ▸ subset_outcomes_of_compared ho he h2 hc ?_, rfl, rfl⟩
    simp [hds, hl]
  · rw [← htot, ← hdiffs, outcomes_numKernelDiffs ho]

theorem testDifferences_partition_on_sample :
    let git : GitRev := ⟨[], none, [], [], [], [], [], []⟩
    let run : Text → List (Text × Text) → List CompiledKernel → TestRun := fun dir cuda ks =>
      ⟨⟨dir, [], some cuda, []⟩, git, dir, [], .googletest, 0, some [], some [], none,
        ⟨[("t".toList, ⟨"t".toList, ks, true, none⟩)], List.nodup_singleton _⟩, [], 0⟩
    let r1 := run "a".toList [("k.cu".toList, "x\n".toList), ("m.cu".toList, "y\n".toList)]
      [{ filename := "k.cu".toList }, { filename := "m.cu".toList }]
    let r2 := run "b".toList [("k.cu".toList, "z\n".toList)] [{ filename := "k.cu".toList }]
    ∃ td, testDifferences UnicodeDB.asciiOnly UnifiedDiff.wholeFile r1 r2
        "mismatched_cuda_or_ptx".toList = .ok td ∧
      (List.Forall₂ (fun e t => loadTest UnicodeDB.asciiOnly r1 e.1 e.2 = .ok t)
          (r1.kernelMap.entries.filter fun e => !r2.kernelMap.contains e.1) td.removedTests ∧
        List.Forall₂ (fun e t => loadTest UnicodeDB.asciiOnly r2 e.1 e.2 = .ok t)
          (r2.kernelMap.entries.filter fun e => !r1.kernelMap.contains e.1) td.newTests ∧
        (∀ d ∈ td.testDiffs, d.testname ∈ r1.kernelMap.keys ∧ d.testname ∈ r2.kernelMap.keys) ∧
        (∀ name,
          (td.testDiffs.filter fun d => d.testname = name && d.kernelDiffs.isNone).length ≤ 1 ∧
          (td.testDiffs.filter fun d => d.testname = name && d.kernelDiffs.isSome).length ≤ 1) ∧
        (∀ name t1 t2, r1.kernelMap.get? name = some t1 → r2.kernelMap.get? name = some t2 →
          t1.kernels.length ≠ t2.kernels.length →
          ∃ d ∈ td.testDiffs, d.testname = name ∧ d.kernelDiffs = none) ∧
        td.totalNumDiffs = (td.testDiffs.map TestDiff.numKernelDiffs).sum) := by
  intro git run r1 r2
  obtain ⟨td, h⟩ := except_eq_ok_of_isOk (by decide : (testDifferences UnicodeDB.asciiOnly
    UnifiedDiff.wholeFile r1 r2 "mismatched_cuda_or_ptx".toList).isOk = true)
  exact ⟨td, h, testDifferences_partition _ _ h⟩

theorem count_mismatch_with_kernel_diff_reported_twice :
    let git : GitRev := ⟨[], none, [], [], [], [], [], []⟩
    let run : Text → List (Text × Text) → List CompiledKernel → TestRun := fun dir cuda ks =>
      ⟨⟨dir, [], some cuda, []⟩, git, dir, [], .googletest, 0, some [], some [], none,
        ⟨[("t".toList, ⟨"t".toList, ks, true, none⟩)], List.nodup_singleton _⟩, [], 0⟩
    let r1 := run "a".toList [("k.cu".toList, "x\n".toList), ("m.cu".toList, "y\n".toList)]
      [{ filename := "k.cu".toList }, { filename := "m.cu".toList }]
    let r2 := run "b".toList [("k.cu".toList, "z\n".toList)] [{ filename := "k.cu".toList }]
    (testDifferences UnicodeDB.asciiOnly UnifiedDiff.wholeFile r1 r2
        "mismatched_cuda_or_ptx".toList).map
        (fun td => td.testDiffs.map fun d => (d.testname, d.kernelDiffs.isSome)) =
      .ok [("t".toList, false), ("t".toList, true)] := by
  decide

-- ===================================================== KernelDiff's counts

/-- `line[:2] == m + c` on a line marked `m`: the line's text begins with
`c`. -/
theorem take_two_cons_eq (m c : Char) (l : Text) :
    (m :: l).take 2 = [m, c] ↔ l.head? = some c := by
  cases l <;> simp

theorem countMarked_append (p : Text) (l₁ l₂ : List Text) :
    countMarked p (l₁ ++ l₂) = countMarked p l₁ + countMarked p l₂ := by
  simp [countMarked, List.filter_append]

/-- Among the lines marked `m`, `countMarked [m, c]` counts those whose text
begins with `c`. -/
theorem countMarked_map_cons (m c : Char) (ls : List Text) :
    countMarked [m, c] (ls.map (m :: ·)) = (ls.filter fun l => l.head? = some c).length := by
  simp only [countMarked, List.filter_map, List.length_map, Function.comp_def, take_two_cons_eq]

theorem countMarked_map_cons_of_ne {m m' : Char} (c : Char) (h : m ≠ m') (ls : List Text) :
    countMarked [m', c] (ls.map (m :: ·)) = 0 := by
  simp [countMarked, List.filter_map, h]

/-- On the whole-file diff of two different line lists, the inserted and
the deleted lines counted are those whose text begins with a space. -/
theorem countMarked_wholeFile {a b : List Text} (f t : Text) (h : a ≠ b) :
    countMarked "+ ".toList (UnifiedDiff.wholeFile.run a b f t) =
        (b.filter fun l => l.head? = some ' ').length ∧
      countMarked "- ".toList (UnifiedDiff.wholeFile.run a b f t) =
        (a.filter fun l => l.head? = some ' ').length := by
  -- the two header lines are marked like a deleted and an inserted line
  have hrun : UnifiedDiff.wholeFile.run a b f t =
      [['-', '-', ' '] ++ f].map ('-' :: ·) ++ [['+', '+', ' '] ++ t].map ('+' :: ·) ++
        (a.map ('-' :: ·) ++ b.map ('+' :: ·)) := by
    simp only [UnifiedDiff.wholeFile, h, if_false]
    rfl
  have hp : "+ ".toList = ['+', ' '] := rfl
  have hm : "- ".toList = ['-', ' '] := rfl
  simp only [hrun, hp, hm, countMarked_append, countMarked_map_cons,
    countMarked_map_cons_of_ne _ (show '-' ≠ '+' by decide),
    countMarked_map_cons_of_ne _ (show '+' ≠ '-' by decide)]
  simp

theorem kernel_diff_counts_miss_changed_lines :
    let unified : UnifiedDiff := UnifiedDiff.wholeFile
    let d := unified.run ["a".toList] ["b".toList] "r1".toList "r2".toList
    let kd := KernelDiff.create "t".toList 1 { filename := "k.cu".toList }
      { filename := "k.cu".toList } d (some d)
    d = ["--- r1".toList, "+++ r2".toList, "-a".toList, "+b".toList] ∧
      kd.newLines = 0 ∧ kd.removedLines = 0 ∧ kd.newPtxLines = 0 ∧ kd.removedPtxLines = 0 := by
  decide

end CodeDiff
