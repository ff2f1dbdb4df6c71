/-
The diff of the runs `parse` writes, against the diff of the runs
`TestRun(directory)` builds.

# Why they agree

In the tool, `diff` never sees the kernels `parse_dir` loaded: it reads
each run back with `from_json`, which calls the constructor, and
`__post_init__` reads the directory and parses its `stdout` again, so
`diff_jsons` compares the runs `TestRun(directory)` builds. Handed the runs
`parse` returns instead, the diff computes the same thing, since it loads
every kernel it looks at again. A parsed run keeps every field of the created run but its kernel map, the same keys in
the same order and, under each, a test with the same fields and kernel
count, and `get_kernel` returns on it what it returns on the created run
(`Reloads`). Every stage of the diff reads the runs only so, and computes
the same thing from either pair:

- a kernel pair is the same comparison (`compareKernel_reloads`), and a
  test one run lacks loads to the same test (`loadTest_reloads`);
- a common test yields `TestDiff`s with the same names and kernel diffs,
  whose tests differ at most in their kernels past the compared ones, the
  parsed run's own: loaded in one, not in the other
  (`compareTest_reloads`);
- so the diff raises the same exception, or returns with the same new and
  removed tests, preamble and env diffs, total and exit code
  (`testDifferences_reloads`), for the runs of any two directories `parse`
  returns on (`testDifferences_parsed`).
-/
import CodeDiff.Proofs.Diff.Criterion
import CodeDiff.Proofs.Reload

namespace CodeDiff

-- ===================================================== lists side by side

theorem mapM_eq_of_forall₂ {ε α β γ : Type} {R : α → β → Prop} {f : α → Except ε γ}
    {g : β → Except ε γ} (hfg : ∀ a b, R a b → f a = g b) :
    ∀ {l : List α} {l' : List β}, List.Forall₂ R l l' → l.mapM f = l'.mapM g
  | _, _, .nil => rfl
  | _, _, .cons hab h => by rw [List.mapM_cons, List.mapM_cons, hfg _ _ hab, mapM_eq_of_forall₂ hfg h]

/-- `mapM` over two lists that pair up, each pair run to related results. -/
theorem ExceptRel.mapM_forall₂ {ε α β γ δ : Type} {R : α → β → Prop} {S : γ → δ → Prop}
    {f : α → Except ε γ} {g : β → Except ε δ} (hfg : ∀ a b, R a b → ExceptRel S (f a) (g b)) :
    ∀ {l : List α} {l' : List β}, List.Forall₂ R l l' →
      ExceptRel (List.Forall₂ S) (l.mapM f) (l'.mapM g)
  | _, _, .nil => .ok .nil
  | _, _, .cons hab h => by
      rw [List.mapM_cons, List.mapM_cons]
      exact (hfg _ _ hab).bind fun _ _ h' =>
        (ExceptRel.mapM_forall₂ hfg h).bind fun _ _ hs => .ok (.cons h' hs)

theorem forall₂_filter {α β : Type} {R : α → β → Prop} {p : α → Bool} {q : β → Bool}
    (hpq : ∀ a b, R a b → p a = q b) :
    ∀ {l : List α} {l' : List β}, List.Forall₂ R l l' → List.Forall₂ R (l.filter p) (l'.filter q)
  | _, _, .nil => .nil
  | _, _, .cons hab h => by
      rw [List.filter_cons, List.filter_cons, hpq _ _ hab]
      split
      · exact .cons hab (forall₂_filter hpq h)
      · exact forall₂_filter hpq h

-- ===================================================== tests of the same shape

variable (U : UnicodeDB) (ud : UnifiedDiff) {r1 r2 p1 p2 : TestRun}

theorem shape_with_kernels {t t' : CompiledTest} (h : t.shape = t'.shape)
    {ks ks' : List CompiledKernel} (hl : ks.length = ks'.length) :
    CompiledTest.shape { t with kernels := ks } = CompiledTest.shape { t' with kernels := ks' } := by
  simp only [CompiledTest.shape, Prod.mk.injEq, hl, and_true]
  exact congrArg Prod.fst (congrArg CompiledTest.shape (with_kernels_eq_of_shape h []))

/-- The entries of a parsed run's map pair up with the created run's: the
same key, a test of the same shape. -/
theorem Reloads.entries {r p : TestRun} (h : Reloads U r p) :
    List.Forall₂ (fun e e' => e.1 = e'.1 ∧ e.2.shape = e'.2.shape)
      p.kernelMap.entries r.kernelMap.entries := by
  have hk : p.kernelMap.entries.map Prod.fst = r.kernelMap.entries.map Prod.fst := h.keys
  rw [List.forall₂_iff_get]
  refine ⟨by simpa using congrArg List.length hk, fun i h₁ h₂ => ?_⟩
  have hi : (p.kernelMap.entries.get ⟨i, h₁⟩).1 = (r.kernelMap.entries.get ⟨i, h₂⟩).1 := by
    simpa [List.getElem?_eq_getElem h₁, List.getElem?_eq_getElem h₂] using congrArg (·[i]?) hk
  refine ⟨hi, ?_⟩
  have hs := h.shape (p.kernelMap.entries.get ⟨i, h₁⟩).1
  rw [Dict.mem_entries_iff.1 (List.get_mem _ _ _), hi,
    Dict.mem_entries_iff.1 (List.get_mem _ _ _)] at hs
  exact Option.some.inj hs

-- ===================================================== the stages

theorem Reloads.name {r p : TestRun} (h : Reloads U r p) : p.name = r.name :=
  (congrArg TestRun.name h.frame :)

theorem compareKernel_reloads (h1 : Reloads U r1 p1) (h2 : Reloads U r2 p2) (crit name : Text)
    (k : Nat) : compareKernel U ud crit p1 p2 name k = compareKernel U ud crit r1 r2 name k := by
  unfold compareKernel ptxDiffOf
  rw [h1.reload, h2.reload, h1.name, h2.name]

theorem loadTest_reloads {r p : TestRun} (h : Reloads U r p) (name : Text) {t t' : CompiledTest}
    (ht : t.shape = t'.shape) : loadTest U p name t = loadTest U r name t' := by
  have hl : t.kernels.length = t'.kernels.length := congrArg Prod.snd ht
  unfold loadTest
  simp only [h.reload, hl, with_kernels_eq_of_shape ht]

/-- Two `TestDiff`s with the same name and kernel diffs, whose tests have
the same shapes. -/
def TestDiffRel (d d' : TestDiff) : Prop :=
  d.testname = d'.testname ∧ d.kernelDiffs = d'.kernelDiffs ∧
    d.test1.shape = d'.test1.shape ∧ d.test2.shape = d'.test2.shape

theorem compareTest_reloads (h1 : Reloads U r1 p1) (h2 : Reloads U r2 p2) (crit name : Text)
    {t1 t2 t1' t2' : CompiledTest} (ht1 : t1.shape = t1'.shape) (ht2 : t2.shape = t2'.shape) :
    ExceptRel (fun o o' => List.Forall₂ TestDiffRel o.1 o'.1 ∧ o.2 = o'.2)
      (compareTest U ud crit p1 p2 name t1 t2) (compareTest U ud crit r1 r2 name t1' t2') := by
  have hl1 : t1.kernels.length = t1'.kernels.length := congrArg Prod.snd ht1
  have hl2 : t2.kernels.length = t2'.kernels.length := congrArg Prod.snd ht2
  have hk : compareKernel U ud crit p1 p2 name = compareKernel U ud crit r1 r2 name :=
    funext (compareKernel_reloads U ud h1 h2 crit name)
  unfold compareTest
  rw [hl1, hl2, hk]
  apply ExceptRel.bind_same
  intro rs
  apply ExceptRel.ok
  refine ⟨?_, rfl⟩
  dsimp only
  simp only [List.length_append, List.length_map, List.length_drop, hl1, hl2]
  refine List.rel_append ?_ ?_ <;> split
  all_goals first
    | exact .nil
    | contradiction
    | exact .cons ⟨rfl, rfl,
        shape_with_kernels ht1 (by simp only [List.length_append, List.length_drop, hl1]),
        shape_with_kernels ht2 (by simp only [List.length_append, List.length_drop, hl2])⟩ .nil

/-- One test of the first run: the same records, removed tests and count. -/
def OutcomeAgree (o o' : List TestDiff × List CompiledTest × Nat) : Prop :=
  List.Forall₂ TestDiffRel o.1 o'.1 ∧ o.2.1 = o'.2.1 ∧ o.2.2 = o'.2.2

theorem testOutcome_reloads (h1 : Reloads U r1 p1) (h2 : Reloads U r2 p2) (crit : Text)
    {e e' : Text × CompiledTest} (he : e.1 = e'.1 ∧ e.2.shape = e'.2.shape) :
    ExceptRel OutcomeAgree (testOutcome U ud crit p1 p2 e) (testOutcome U ud crit r1 r2 e') := by
  obtain ⟨name, t⟩ := e
  obtain ⟨name', t'⟩ := e'
  obtain ⟨rfl, ht⟩ := he
  have hs := h2.shape name
  unfold testOutcome
  dsimp only
  cases hp : p2.kernelMap.get? name <;> cases hr : r2.kernelMap.get? name <;>
    rw [hp, hr] at hs <;> simp only [Option.map_none', Option.map_some', reduceCtorEq] at hs
  · rw [loadTest_reloads U h1 name ht]
    cases loadTest U r1 name t' with
    | error e => exact .error e
    | ok t => exact .ok ⟨.nil, rfl, rfl⟩
  · exact (compareTest_reloads U ud h1 h2 crit name ht (Option.some.inj hs)).map
      fun _ _ h => ⟨h.1, rfl, h.2⟩

theorem joinOutcomes_agree {outs outs' : List (List TestDiff × List CompiledTest × Nat)}
    (h : List.Forall₂ OutcomeAgree outs outs') : OutcomeAgree (joinOutcomes outs) (joinOutcomes outs') := by
  induction h with
  | nil => exact ⟨.nil, rfl, rfl⟩
  | cons ho _ ih =>
      simp only [joinOutcomes, List.map_cons, List.flatten_cons, List.sum_cons] at ih ⊢
      exact ⟨List.rel_append ho.1 ih.1, congrArg₂ (· ++ ·) ho.2.1 ih.2.1, congrArg₂ (· + ·) ho.2.2 ih.2.2⟩

/-- What the diffs of a parsed and a created pair share: everything but the
kernels of the recorded tests past the compared ones. -/
structure ParsedRel (td td' : TestDifferences) : Prop where
  testDiffs : List.Forall₂ TestDiffRel td.testDiffs td'.testDiffs
  newTests : td.newTests = td'.newTests
  removedTests : td.removedTests = td'.removedTests
  total : td.totalNumDiffs = td'.totalNumDiffs
  preambleDiff : td.preambleDiff = td'.preambleDiff
  envDiff : td.envDiff = td'.envDiff
  exitCode : diffExitCode td = diffExitCode td'

theorem testDifferences_reloads (h1 : Reloads U r1 p1) (h2 : Reloads U r2 p2) (crit : Text) :
    ExceptRel ParsedRel (testDifferences U ud p1 p2 crit) (testDifferences U ud r1 r2 crit) := by
  have hc : ∀ name, p1.kernelMap.contains name = r1.kernelMap.contains name := fun name => by
    unfold Dict.contains
    rw [h1.keys]
  have hnew : newTestsOf U p1 p2 p2.kernelMap.entries = newTestsOf U r1 r2 r2.kernelMap.entries := by
    rw [newTestsOf_eq, newTestsOf_eq]
    exact mapM_eq_of_forall₂ (fun e e' he => by rw [he.1]; exact loadTest_reloads U h2 _ he.2)
      (forall₂_filter (fun e e' he => by rw [he.1, hc]) h2.entries)
  unfold testDifferences
  rw [h1.name, h2.name, (congrArg TestRun.preamble h1.frame :), (congrArg TestRun.preamble h2.frame :),
    (congrArg TestRun.env h1.frame :), (congrArg TestRun.env h2.frame :), diffTests_eq, diffTests_eq,
    hnew]
  refine .bind_same fun e1 => .bind_same fun e2 => ?_
  refine ((ExceptRel.mapM_forall₂ (fun e e' he => testOutcome_reloads U ud h1 h2 crit he) h1.entries).map
    fun _ _ h => joinOutcomes_agree h).bind fun ⟨ds, rm, n⟩ ⟨ds', rm', n'⟩ h => .bind_same fun nt => ?_
  obtain ⟨hds, rfl, rfl⟩ := h
  refine .ok ⟨hds, rfl, rfl, rfl, rfl, rfl, ?_⟩
  simp only [diffExitCode]
  rw [show ds.isEmpty = ds'.isEmpty by cases hds <;> rfl]

variable {U}

/-- Whenever `parse` returns on two run directories, the diff of the two
runs it writes raises the same exception as the diff of the runs
`TestRun(directory)` builds, or both return the same report: the same new
and removed tests, preamble and env diffs, total number of kernel diffs and
exit code, and `TestDiff`s with the same names and kernel diffs, whose
tests differ at most in the kernels past the compared ones. -/
theorem testDifferences_parsed {git1 git2 : GitTool} {d1 d2 : RunDir}
    (h1 : parseDir U git1 d1 = .ok p1) (h2 : parseDir U git2 d2 = .ok p2) (crit : Text) :
    ∃ r1 r2, TestRun.create U git1 d1 = .ok r1 ∧ TestRun.create U git2 d2 = .ok r2 ∧
      ExceptRel ParsedRel (testDifferences U ud p1 p2 crit) (testDifferences U ud r1 r2 crit) := by
  obtain ⟨r1, hc1, hr1, -⟩ := parseDir_reloads U h1
  obtain ⟨r2, hc2, hr2, -⟩ := parseDir_reloads U h2
  exact ⟨r1, r2, hc1, hc2, testDifferences_reloads U ud hr1 hr2 crit⟩

/-- Two GoogleTest runs of one test whose second kernel differs. -/
theorem testDifferences_parsed_on_sample :
    let dir : Text → RunDir := fun m => ⟨"r".toList, [("git_hash".toList, "abc\n".toList),
      ("command".toList, "t\n".toList), ("command_type".toList, "gtest\n".toList),
      ("exitcode".toList, "0\n".toList), ("env".toList, "A=1\n".toList), ("stdout".toList,
        "[ RUN      ] t\nPRINTING: k.cu\nPRINTING: m.cu\n[       OK ] t\n".toList)],
      some [("k.cu".toList, "a\nvoid kernel1()\n".toList), ("m.cu".toList, m)], []⟩
    let git : GitTool := ⟨fun _ => [], fun _ => [], fun _ _ => []⟩
    let crit := "mismatched_cuda_or_ptx".toList
    ∃ p1 p2, parseDir UnicodeDB.asciiOnly git (dir "a\nvoid kernel2()\n".toList) = .ok p1 ∧
      parseDir UnicodeDB.asciiOnly git (dir "a\nvoid kernel3()\n".toList) = .ok p2 ∧
      ∃ r1 r2, TestRun.create UnicodeDB.asciiOnly git (dir "a\nvoid kernel2()\n".toList) = .ok r1 ∧
        TestRun.create UnicodeDB.asciiOnly git (dir "a\nvoid kernel3()\n".toList) = .ok r2 ∧
        ExceptRel ParsedRel (testDifferences UnicodeDB.asciiOnly UnifiedDiff.wholeFile p1 p2 crit)
          (testDifferences UnicodeDB.asciiOnly UnifiedDiff.wholeFile r1 r2 crit) := by
  intro dir git crit
  obtain ⟨p1, h1⟩ := except_eq_ok_of_isOk
    (by decide : (parseDir UnicodeDB.asciiOnly git (dir "a\nvoid kernel2()\n".toList)).isOk = true)
  obtain ⟨p2, h2⟩ := except_eq_ok_of_isOk
    (by decide : (parseDir UnicodeDB.asciiOnly git (dir "a\nvoid kernel3()\n".toList)).isOk = true)
  exact ⟨p1, p2, h1, h2, testDifferences_parsed UnifiedDiff.wholeFile h1 h2 crit⟩

end CodeDiff
