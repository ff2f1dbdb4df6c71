/-
What `TestDifferences.__post_init__` computes, one lemma per stage, so that
the theorems about the diff never unfold it.

# Stages

- `testDifferences_eq_ok`: the diff returns exactly when both runs have an
  `env` and both loops return; the preamble and env diffs are the joined
  `difflib` output.
- `diffTests_eq` / `newTestsOf_eq`: the two loops are a `mapM` over the
  first run's tests (`testOutcome`: the `TestDiff`s, the removed test and
  the kernel-diff count of one test, joined by `joinOutcomes`) and a
  `mapM` over the second run's tests the first lacks.
- `compareTest_eq_ok` / `compareKernel_eq_ok`: a common test is compared
  kernel by kernel over the first `min` indices; a kernel pair is loaded
  with the preamble stripped, diffed, and included as `includeKernel`
  says.

The outcome lemmas read a finished first loop back: which tests it
reports removed (`removed_eq_loaded`), that every common test was compared
(`compared_of_outcomes`) and which names its `TestDiff`s carry
(`mem_outcomes_testnames`).

# difflib

Both facts of `UnifiedDiff` are used through `run_isEmpty` and
`joinLines_run_eq_nil_iff`: a joined diff is empty exactly when the line
lists are equal.

# env

`env_diff` calls `splitlines` on both runs' `env`, which `TestRun`
leaves `None` when the run directory has no `env` file: then the diff
raises before it compares anything (`testDifferences_env_none`).
-/
import CodeDiff.Diff
import Mathlib.Algebra.BigOperators.Group.List
import Mathlib.Algebra.Order.Ring.Nat

namespace CodeDiff

variable (U : UnicodeDB) (ud : UnifiedDiff)

-- ===================================================== difflib

theorem joinLines_eq_nil_iff {l : List Text} (h : ∀ x ∈ l, x ≠ []) : joinLines l = [] ↔ l = [] := by
  cases l with
  | nil => simp only [iff_true]; rfl
  | cons x rest =>
      simp only [joinLines, List.intercalate, List.flatten_eq_nil_iff, reduceCtorEq, iff_false]
      intro hall
      apply h x (.head _)
      apply hall
      cases rest <;> simp

theorem UnifiedDiff.joinLines_run_eq_nil_iff (a b : List Text) (f t : Text) :
    joinLines (ud.run a b f t) = [] ↔ a = b := by
  rw [joinLines_eq_nil_iff (ud.ne_nil_of_mem_run a b f t), ud.run_eq_nil_iff]

theorem UnifiedDiff.run_isEmpty (a b : List Text) (f t : Text) :
    (ud.run a b f t).isEmpty = decide (a = b) := by
  by_cases h : a = b
  · simp [h, (ud.run_eq_nil_iff b b f t).2 rfl]
  · have : ud.run a b f t ≠ [] := fun e => h ((ud.run_eq_nil_iff a b f t).1 e)
    simp [h, List.isEmpty_iff, this]

-- ===================================================== TestDifferences

theorem testDifferences_eq_ok {r1 r2 : TestRun} {crit : Text} {td : TestDifferences} :
    testDifferences U ud r1 r2 crit = .ok td ↔ ∃ e1 e2, r1.env = some e1 ∧ r2.env = some e2 ∧
      diffTests U ud crit r1 r2 r1.kernelMap.entries =
        .ok (td.testDiffs, td.removedTests, td.totalNumDiffs) ∧
      newTestsOf U r1 r2 r2.kernelMap.entries = .ok td.newTests ∧
      td.preambleDiff =
        joinLines (ud.run (splitlines r1.preamble) (splitlines r2.preamble) r1.name r2.name) ∧
      td.envDiff = joinLines (ud.run (splitlines e1) (splitlines e2) r1.name r2.name) := by
  unfold testDifferences
  rcases r1.env with _ | e1 <;> rcases r2.env with _ | e2 <;> simp only [except_bind_eq_ok]
  · simp
  · simp
  · simp
  constructor
  · rintro ⟨_, ⟨⟩, _, ⟨⟩, ⟨ds, rm, n⟩, hd, ts, ht, ⟨⟩⟩
    exact ⟨_, _, rfl, rfl, hd, ht, rfl, rfl⟩
  · rintro ⟨_, _, ⟨⟩, ⟨⟩, hd, ht, hp, he⟩
    refine ⟨_, rfl, _, rfl, _, hd, _, ht, ?_⟩
    rw [← hp, ← he]
    rfl

/-- The env diff dereferences both runs' `env`. -/
theorem testDifferences_env_none {r1 r2 : TestRun} (crit : Text)
    (h : r1.env = none ∨ r2.env = none) :
    testDifferences U ud r1 r2 crit = .error .attributeError := by
  unfold testDifferences
  rcases h with h | h
  · simp [h]
  · cases r1.env <;> simp [h]

theorem diff_of_runs_without_env_file_raises (crit : Text) :
    let dir : RunDir := ⟨"run".toList, [("git_hash".toList, "abc\n".toList),
      ("command".toList, "true\n".toList), ("exitcode".toList, "0\n".toList),
      ("stdout".toList, [])], some [], []⟩
    let git : GitTool := ⟨fun _ => [], fun _ => [], fun _ _ => []⟩
    (TestRun.create UnicodeDB.asciiOnly git dir >>= fun r =>
      testDifferences UnicodeDB.asciiOnly ud r r crit) = .error .attributeError := by
  intro dir git
  have h : (TestRun.create UnicodeDB.asciiOnly git dir).map (·.env) = .ok none := by decide
  obtain ⟨r, hr, he⟩ := except_map_eq_ok.mp h
  rw [hr, except_ok_bind]
  exact testDifferences_env_none UnicodeDB.asciiOnly ud crit (.inl he)

-- ===================================================== the two loops

/-- What the first loop of `__post_init__` makes of one test of the first
run: its `TestDiff`s, the test as removed, and its number of kernel
diffs. -/
def testOutcome (crit : Text) (r1 r2 : TestRun) (e : Text × CompiledTest) :
    Except PyError (List TestDiff × List CompiledTest × Nat) :=
  match r2.kernelMap.get? e.1 with
  | none => (loadTest U r1 e.1 e.2).map fun t => ([], [t], 0)
  | some t2 => (compareTest U ud crit r1 r2 e.1 e.2 t2).map fun p => (p.1, [], p.2)

/-- The loop's accumulated result from the per-test outcomes. -/
def joinOutcomes (outs : List (List TestDiff × List CompiledTest × Nat)) :
    List TestDiff × List CompiledTest × Nat :=
  ((outs.map (·.1)).flatten, (outs.map (·.2.1)).flatten, (outs.map (·.2.2)).sum)

theorem diffTests_eq (crit : Text) (r1 r2 : TestRun) (es : List (Text × CompiledTest)) :
    diffTests U ud crit r1 r2 es = (es.mapM (testOutcome U ud crit r1 r2)).map joinOutcomes := by
  induction es with
  | nil => rfl
  | cons e es ih =>
      obtain ⟨name, t1⟩ := e
      rw [List.mapM_cons, diffTests, ih, testOutcome]
      rcases r2.kernelMap.get? name with _ | t2 <;> dsimp only
      · cases loadTest U r1 name t1 <;> cases es.mapM (testOutcome U ud crit r1 r2) <;>
          simp [joinOutcomes]
      · cases compareTest U ud crit r1 r2 name t1 t2 <;>
          cases es.mapM (testOutcome U ud crit r1 r2) <;> rfl

theorem newTestsOf_eq (r1 r2 : TestRun) (es : List (Text × CompiledTest)) :
    newTestsOf U r1 r2 es =
      (es.filter fun e => !r1.kernelMap.contains e.1).mapM fun e => loadTest U r2 e.1 e.2 := by
  induction es with
  | nil => rfl
  | cons e es ih =>
      obtain ⟨name, t2⟩ := e
      rw [newTestsOf, List.filter_cons]
      by_cases hc : r1.kernelMap.contains name
      · simp [hc, ih]
      · simp only [hc, ih, Bool.not_false, if_true, List.mapM_cons]
        rfl

-- ===================================================== one comparison

theorem compareKernel_eq_ok {crit name : Text} {r1 r2 : TestRun} {k : Nat}
    {k1 k2 : CompiledKernel} {kd : Option KernelDiff} :
    compareKernel U ud crit r1 r2 name k = .ok (k1, k2, kd) ↔
      getKernel U r1 name k true = .ok k1 ∧ getKernel U r2 name k true = .ok k2 ∧
      ∃ c1 c2 pd, k1.code = some c1 ∧ k2.code = some c2 ∧ ptxDiffOf U ud r1 r2 k1 k2 = .ok pd ∧
        kd = if includeKernel crit (ud.run (splitlines c1) (splitlines c2) r1.name r2.name) pd
          then some (KernelDiff.create name (k + 1) k1 k2
            (ud.run (splitlines c1) (splitlines c2) r1.name r2.name) pd)
          else none := by
  unfold compareKernel
  simp only [except_bind_eq_ok, orRaise_eq_ok]
  constructor
  · rintro ⟨k1', h1, k2', h2, c1, hc1, c2, hc2, pd, hpd, h⟩
    split at h <;> cases h <;> exact ⟨h1, h2, c1, c2, pd, hc1, hc2, hpd, by simp [*]⟩
  · rintro ⟨h1, h2, c1, c2, pd, hc1, hc2, hpd, rfl⟩
    refine ⟨k1, h1, k2, h2, c1, hc1, c2, hc2, pd, hpd, ?_⟩
    split <;> simp [*]

/-- Whether a PTX diff was taken and found a difference. -/
def ptxDiffers : Option (List Text) → Bool
  | some l => !l.isEmpty
  | none => false

theorem includeKernel_eq (crit : Text) (dl : List Text) (pd : Option (List Text)) :
    includeKernel crit dl pd = (crit = "all".toList ||
      (crit = "mismatched_cuda_or_ptx".toList && !dl.isEmpty) ||
      ((crit = "mismatched_cuda_or_ptx".toList || crit = "mismatched_ptx".toList) &&
        ptxDiffers pd)) := by
  cases pd <;> rfl

theorem ptxDiffOf_eq_ok {r1 r2 : TestRun} {k1 k2 : CompiledKernel} {pd : Option (List Text)} :
    ptxDiffOf U ud r1 r2 k1 k2 = .ok pd ↔
      (∃ p1 p2 s1 s2, k1.ptx = some p1 ∧ k2.ptx = some p2 ∧
        sanitizePtxLines U (splitlines p1) = .ok s1 ∧ sanitizePtxLines U (splitlines p2) = .ok s2 ∧
        pd = some (ud.run s1 s2 r1.name r2.name)) ∨
      ((k1.ptx = none ∨ k2.ptx = none) ∧ pd = none) := by
  unfold ptxDiffOf
  rcases k1.ptx with _ | p1 <;> rcases k2.ptx with _ | p2 <;> simp [except_bind_eq_ok, @eq_comm _ pd]

/-- A common test's `TestDiff`s: the count-mismatch one when the kernel
counts differ, then the one of the included kernel diffs when there is
one; both carry the tests with their first `min` kernels loaded. -/
theorem compareTest_diffs {crit name : Text} {r1 r2 : TestRun} {t1 t2 : CompiledTest}
    {ds : List TestDiff} {n : Nat} (h : compareTest U ud crit r1 r2 name t1 t2 = .ok (ds, n)) :
    ∃ results t1' t2', List.Forall₂ (fun k r => compareKernel U ud crit r1 r2 name k = .ok r)
        (List.range (min t1.kernels.length t2.kernels.length)) results ∧
      t1'.kernels.length = t1.kernels.length ∧ t2'.kernels.length = t2.kernels.length ∧
      n = (results.filterMap (·.2.2)).length ∧
      ds = (if t1.kernels.length ≠ t2.kernels.length then [⟨name, t1', t2', none⟩] else []) ++
        (if (results.filterMap (·.2.2)).isEmpty then []
          else [⟨name, t1', t2', some (results.filterMap (·.2.2))⟩]) := by
  unfold compareTest at h
  obtain ⟨results, hr, h⟩ := except_bind_eq_ok.mp h
  simp only [except_pure, Except.ok.injEq, Prod.mk.injEq] at h
  obtain ⟨rfl, rfl⟩ := h
  replace hr := except_mapM_eq_ok.mp hr
  have hlen : results.length = min t1.kernels.length t2.kernels.length := by
    simpa using hr.length_eq.symm
  have e1 : (results.map (·.1) ++ t1.kernels.drop (min t1.kernels.length t2.kernels.length)).length
      = t1.kernels.length := by simp only [List.length_append, List.length_map, List.length_drop, hlen]; omega
  have e2 : (results.map (·.2.1) ++ t2.kernels.drop (min t1.kernels.length t2.kernels.length)).length
      = t2.kernels.length := by simp only [List.length_append, List.length_map, List.length_drop, hlen]; omega
  refine ⟨results, { t1 with kernels := _ }, { t2 with kernels := _ }, hr, e1, e2, rfl, ?_⟩
  simp only [e1, e2]

theorem compareTest_eq_ok {crit name : Text} {r1 r2 : TestRun} {t1 t2 : CompiledTest}
    {ds : List TestDiff} {n : Nat} (h : compareTest U ud crit r1 r2 name t1 t2 = .ok (ds, n)) :
    ∃ results, List.Forall₂ (fun k r => compareKernel U ud crit r1 r2 name k = .ok r)
        (List.range (min t1.kernels.length t2.kernels.length)) results ∧
      n = (results.filterMap (·.2.2)).length ∧ (∀ d ∈ ds, d.testname = name) ∧
      (ds = [] ↔ t1.kernels.length = t2.kernels.length ∧ n = 0) := by
  obtain ⟨results, t1', t2', hr, -, -, rfl, rfl⟩ := compareTest_diffs U ud h
  refine ⟨results, hr, rfl, ?_, ?_⟩
  · intro d hd
    rw [List.mem_append] at hd
    rcases hd with hd | hd <;> split at hd <;>
      first | exact absurd hd (List.not_mem_nil _) | rw [List.mem_singleton.1 hd]
  · by_cases hl : t1.kernels.length = t2.kernels.length <;>
      cases hk : (results.filterMap (·.2.2)).isEmpty <;>
      simp [hl, hk, List.length_eq_zero, ← List.isEmpty_iff]

-- ===================================================== reading the first loop back

section outcomes

variable {crit : Text} {r1 r2 : TestRun} {es : List (Text × CompiledTest)}
  {outs : List (List TestDiff × List CompiledTest × Nat)}

/-- The tests a run of the loop reports removed are the loaded tests absent
from the second run, in the first run's order. -/
theorem removed_eq_loaded (ho : List.Forall₂ (fun e o => testOutcome U ud crit r1 r2 e = .ok o) es outs)
    {ts : List CompiledTest}
    (hl : List.Forall₂ (fun e t => loadTest U r1 e.1 e.2 = .ok t)
      (es.filter fun e => !r2.kernelMap.contains e.1) ts) :
    (outs.map (·.2.1)).flatten = ts := by
  induction ho generalizing ts with
  | nil => cases hl; rfl
  | @cons e o _ _ he _ ih =>
      unfold testOutcome at he
      rw [List.filter_cons, Dict.contains_eq_isSome] at hl
      cases hget : r2.kernelMap.get? e.1 with
      | none =>
          rw [hget] at he hl
          obtain ⟨t, ht, rfl⟩ := except_map_eq_ok.mp he
          obtain ⟨t', ts', ht', hts, rfl⟩ := List.forall₂_cons_left_iff.mp hl
          rw [ht] at ht'; cases ht'
          simp [ih hts]
      | some t2 =>
          rw [hget] at he hl
          obtain ⟨p, _, rfl⟩ := except_map_eq_ok.mp he
          simpa using ih hl

/-- A test of the first run that the second run also has was compared
without an exception. -/
theorem compared_of_outcomes
    (ho : List.Forall₂ (fun e o => testOutcome U ud crit r1 r2 e = .ok o) es outs)
    {e : Text × CompiledTest} (he : e ∈ es) {t2 : CompiledTest}
    (h2 : r2.kernelMap.get? e.1 = some t2) :
    ∃ ds n, compareTest U ud crit r1 r2 e.1 e.2 t2 = .ok (ds, n) := by
  induction ho with
  | nil => cases he
  | @cons e' o _ _ he' _ ih =>
      rcases List.mem_cons.1 he with rfl | he
      · unfold testOutcome at he'
        rw [h2] at he'
        obtain ⟨⟨ds, n⟩, h, -⟩ := except_map_eq_ok.mp he'
        exact ⟨ds, n, h⟩
      · exact ih he

/-- The test names among one test's `TestDiff`s: its own, when comparing it
reported a difference. -/
theorem mem_outcome_testnames {e : Text × CompiledTest}
    {o : List TestDiff × List CompiledTest × Nat} (he : testOutcome U ud crit r1 r2 e = .ok o)
    (name : Text) :
    name ∈ o.1.map (·.testname) ↔ e.1 = name ∧ ∃ t2 ds n, r2.kernelMap.get? e.1 = some t2 ∧
      compareTest U ud crit r1 r2 e.1 e.2 t2 = .ok (ds, n) ∧ ds ≠ [] := by
  unfold testOutcome at he
  cases hget : r2.kernelMap.get? e.1 with
  | none =>
      rw [hget] at he
      obtain ⟨t, -, rfl⟩ := except_map_eq_ok.mp he
      simp
  | some t2 =>
      rw [hget] at he
      obtain ⟨⟨ds, n⟩, hc, rfl⟩ := except_map_eq_ok.mp he
      obtain ⟨-, -, -, hname, -⟩ := compareTest_eq_ok U ud hc
      constructor
      · intro hm
        obtain ⟨d, hd, rfl⟩ := List.mem_map.1 hm
        exact ⟨(hname d hd).symm, t2, ds, n, rfl, hc, List.ne_nil_of_mem hd⟩
      · rintro ⟨rfl, t2', ds', n', ⟨⟩, hc', hne⟩
        rw [hc] at hc'
        cases hc'
        obtain ⟨d, hd⟩ := List.exists_mem_of_ne_nil ds hne
        exact List.mem_map.2 ⟨d, hd, hname d hd⟩

theorem mem_outcomes_testnames
    (ho : List.Forall₂ (fun e o => testOutcome U ud crit r1 r2 e = .ok o) es outs) (name : Text) :
    name ∈ (outs.map (·.1)).flatten.map (·.testname) ↔ ∃ e ∈ es, e.1 = name ∧
      ∃ t2 ds n, r2.kernelMap.get? e.1 = some t2 ∧
        compareTest U ud crit r1 r2 e.1 e.2 t2 = .ok (ds, n) ∧ ds ≠ [] := by
  induction ho with
  | nil =>
      simp only [List.map_nil, List.flatten_nil, List.not_mem_nil, false_and, exists_false]
  | cons he _ ih =>
      rw [List.map_cons, List.flatten_cons, List.map_append, List.mem_append, ih,
        mem_outcome_testnames U ud he]
      simp only [List.mem_cons, or_and_right, exists_or, exists_eq_left]

end outcomes

end CodeDiff
