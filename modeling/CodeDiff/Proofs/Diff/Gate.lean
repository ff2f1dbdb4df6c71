/-
What a passing diff gate says about the two runs' kernel files
(`gate_pass_kernel_lines_agree`).

# The gate

`diff_jsons` exits `0` when `TestDifferences` has no test diff and an empty
preamble diff (`diffExitCode_eq_zero`). An empty preamble diff means the
two preamble texts have equal `splitlines()` (`difflib` yields nothing
exactly on equal inputs). No test diff means every common test was
compared with no count mismatch and no included kernel diff
(`compared_without_diffs`); under `mismatched_cuda_or_ptx` an excluded
kernel pair has an empty code diff, so the two kept texts have equal
`splitlines()`, and under `all` no pair is excluded, so the common tests
have no kernels at all.

# What is compared

The kept text of a kernel file is `kernelCode`: the lines after the run's
first `preamble_size_lines`, with `nvfuser_<digits>` renamed, joined,
right-stripped, and then stripped of one final `}` character and the
whitespace before it. The documentation speaks of a final line that is
exactly `}` (`documentedNormalForm` follows its words); the code removes
the character, so a file ending in `x}` is kept as `x`
(`trailing_brace_of_last_line_passes_gate`).
-/
import CodeDiff.Proofs.Diff.Spec

namespace CodeDiff

variable (U : UnicodeDB) (ud : UnifiedDiff)

-- ===================================================== loading a kernel

/-- A kernel that loads was read from its file under `cuda/` and kept as
`kernelCode` says, with the PTX `kernelPtx` gives. -/
theorem getKernel_eq_ok_code {r : TestRun} {name : Text} {k : Nat} {sp : Bool}
    {kern : CompiledKernel} (h : getKernel U r name k sp = .ok kern) :
    ∃ t kern0 f c, r.kernelMap.get? name = some t ∧ t.kernels.get? k = some kern0 ∧
      r.directory.cudaFile kern0.filename = .ok f ∧
      kernelCode U r.preambleSizeLines sp (readlines f) = .ok c ∧ kern.code = some c ∧
      kern.ptx = r.directory.kernelPtx kern0 := by
  unfold getKernel at h
  simp only [except_bind_eq_ok, orRaise_eq_ok] at h
  obtain ⟨t, ht, kern0, hk, f, hf, c, hc, h⟩ := h
  cases h
  exact ⟨t, kern0, f, c, ht, hk, hf, hc, rfl, rfl⟩

-- ===================================================== the gate

theorem diffExitCode_eq_zero {td : TestDifferences} :
    diffExitCode td = 0 ↔ td.testDiffs = [] ∧ td.preambleDiff = [] := by
  unfold diffExitCode
  cases td.testDiffs <;> cases td.preambleDiff <;> simp

/-- With no test diff, every test both runs have was compared and reported
nothing. -/
theorem compared_without_diffs {crit name : Text} {r1 r2 : TestRun} {t1 t2 : CompiledTest}
    {rm : List CompiledTest} {n : Nat}
    (hd : diffTests U ud crit r1 r2 r1.kernelMap.entries = .ok ([], rm, n))
    (h1 : r1.kernelMap.get? name = some t1) (h2 : r2.kernelMap.get? name = some t2) :
    ∃ n', compareTest U ud crit r1 r2 name t1 t2 = .ok ([], n') := by
  rw [diffTests_eq] at hd
  obtain ⟨outs, hmap, hj⟩ := except_map_eq_ok.1 hd
  have ho := except_mapM_eq_ok.1 hmap
  have he : (name, t1) ∈ r1.kernelMap.entries := Dict.mem_entries_iff.2 h1
  obtain ⟨ds, n', hc⟩ := compared_of_outcomes U ud ho he h2
  refine ⟨n', ?_⟩
  by_cases hds : ds = []
  · rwa [hds] at hc
  · have hmem := (mem_outcomes_testnames U ud ho name).2 ⟨_, he, rfl, t2, ds, n', h2, hc, hds⟩
    simp only [joinOutcomes, Prod.mk.injEq] at hj
    rw [hj.1] at hmem
    cases hmem

/-- A passing gate under `all` or `mismatched_cuda_or_ptx`: the preamble
texts agree line by line, every common test has the same kernel count in
both runs, and each pair of its kernel files exists and is kept as texts
that agree line by line. -/
theorem gate_pass_kernel_lines_agree {r1 r2 : TestRun} {crit : Text} {td : TestDifferences}
    (hcrit : crit = "all".toList ∨ crit = "mismatched_cuda_or_ptx".toList)
    (h : testDifferences U ud r1 r2 crit = .ok td) (hgate : diffExitCode td = 0) :
    splitlines r1.preamble = splitlines r2.preamble ∧
    ∀ name t1 t2, r1.kernelMap.get? name = some t1 → r2.kernelMap.get? name = some t2 →
      t1.kernels.length = t2.kernels.length ∧
      ∀ k kern1 kern2, t1.kernels.get? k = some kern1 → t2.kernels.get? k = some kern2 →
        ∃ f1 f2 c1 c2, r1.directory.cudaFile kern1.filename = .ok f1 ∧
          r2.directory.cudaFile kern2.filename = .ok f2 ∧
          kernelCode U r1.preambleSizeLines true (readlines f1) = .ok c1 ∧
          kernelCode U r2.preambleSizeLines true (readlines f2) = .ok c2 ∧
          splitlines c1 = splitlines c2 := by
  obtain ⟨hds, hpre⟩ := diffExitCode_eq_zero.1 hgate
  obtain ⟨-, -, -, -, hd, -, hp, -⟩ := (testDifferences_eq_ok U ud).1 h
  rw [hds] at hd
  refine ⟨(ud.joinLines_run_eq_nil_iff _ _ _ _).1 (hp ▸ hpre), fun name t1 t2 h1 h2 => ?_⟩
  obtain ⟨n, hc⟩ := compared_without_diffs U ud hd h1 h2
  obtain ⟨results, hr, hn, -, hnil⟩ := compareTest_eq_ok U ud hc
  obtain ⟨hlen, hn0⟩ := hnil.1 rfl
  refine ⟨hlen, fun k kern1 kern2 hk1 hk2 => ?_⟩
  have hk : k < (List.range (min t1.kernels.length t2.kernels.length)).length := by
    simpa [hlen] using (List.get?_eq_some.1 hk2).1
  have hkr : k < results.length := hr.length_eq ▸ hk
  -- the comparison at index `k` included no kernel diff
  have hck := hr.get hk hkr
  rw [List.get_eq_getElem, List.getElem_range] at hck
  have hnone : (results.get ⟨k, hkr⟩).2.2 = none := by
    rw [hn0, eq_comm, List.length_eq_zero, List.filterMap_eq_nil_iff] at hn
    exact hn _ (List.get_mem _ _ _)
  obtain ⟨g1, g2, c1, c2, pd, hc1, hc2, -, hkd⟩ := (compareKernel_eq_ok U ud).1 hck
  obtain ⟨_, _, f1, c1', h1', hk1', hf1, hkc1, hcode1, -⟩ := getKernel_eq_ok_code U g1
  obtain ⟨_, _, f2, c2', h2', hk2', hf2, hkc2, hcode2, -⟩ := getKernel_eq_ok_code U g2
  rw [h1] at h1'; cases h1'
  rw [h2] at h2'; cases h2'
  rw [hk1] at hk1'; cases hk1'
  rw [hk2] at hk2'; cases hk2'
  rw [hc1] at hcode1; cases hcode1
  rw [hc2] at hcode2; cases hcode2
  refine ⟨f1, f2, c1, c2, hf1, hf2, hkc1, hkc2, ?_⟩
  -- the pair was excluded, which under either criterion means equal code lines
  rw [hnone] at hkd
  split at hkd
  · cases hkd
  · next hinc =>
      rw [includeKernel_eq] at hinc
      rcases hcrit with rfl | rfl
      · simp at hinc
      · simp only [UnifiedDiff.run_isEmpty] at hinc
        simp at hinc
        exact hinc.1

theorem gate_pass_kernel_lines_agree_on_sample :
    let git : GitRev := ⟨[], none, [], [], [], [], [], []⟩
    let run : Text → Text → TestRun := fun dir code =>
      ⟨⟨dir, [], some [("k.cu".toList, code)], []⟩, git, dir, [], .googletest, 0, some [], some [],
        none, ⟨[("t".toList, ⟨"t".toList, [{ filename := "k.cu".toList }], true, none⟩)],
          List.nodup_singleton _⟩, [], 0⟩
    let r1 := run "a".toList "x\x7d\n".toList
    let r2 := run "b".toList "x\n".toList
    ∃ td, testDifferences UnicodeDB.asciiOnly UnifiedDiff.wholeFile r1 r2
        "mismatched_cuda_or_ptx".toList = .ok td ∧ diffExitCode td = 0 ∧
      (splitlines r1.preamble = splitlines r2.preamble ∧
      ∀ name t1 t2, r1.kernelMap.get? name = some t1 → r2.kernelMap.get? name = some t2 →
        t1.kernels.length = t2.kernels.length ∧
        ∀ k kern1 kern2, t1.kernels.get? k = some kern1 → t2.kernels.get? k = some kern2 →
          ∃ f1 f2 c1 c2, r1.directory.cudaFile kern1.filename = .ok f1 ∧
            r2.directory.cudaFile kern2.filename = .ok f2 ∧
            kernelCode UnicodeDB.asciiOnly r1.preambleSizeLines true (readlines f1) = .ok c1 ∧
            kernelCode UnicodeDB.asciiOnly r2.preambleSizeLines true (readlines f2) = .ok c2 ∧
            splitlines c1 = splitlines c2) := by
  intro git run r1 r2
  have hx : (testDifferences UnicodeDB.asciiOnly UnifiedDiff.wholeFile r1 r2
      "mismatched_cuda_or_ptx".toList).map diffExitCode = .ok 0 := by decide
  obtain ⟨td, h, hz⟩ := except_map_eq_ok.1 hx
  exact ⟨td, h, hz, gate_pass_kernel_lines_agree _ _ (.inr rfl) h hz⟩

-- ===================================================== the documented normal form

/-- The normal form of a kernel file in the documentation's words: the
first `P` lines right-stripped with the index typedef normalised, every
whole-word `nvfuser_<digits>` in the remaining lines renamed, trailing
whitespace at the end of the file removed, and then one final line that is
exactly `}` removed. -/
def documentedNormalForm (P : Nat) (f : Text) : List Text :=
  let lines := readlines f
  let text := rstrip (((lines.take P).map fun l => preambleLine l ++ ['\n']).flatten ++
    ((lines.drop P).map (subNvfuser U)).flatten)
  let ls := splitlines text
  if ls.getLast? = some ['}'] then ls.dropLast else ls

/-- A kernel whose last line ends in `}` passes the gate against the same
kernel without the brace, although their documented normal forms differ. -/
theorem trailing_brace_of_last_line_passes_gate :
    let git : GitRev := ⟨[], none, [], [], [], [], [], []⟩
    let run : Text → Text → TestRun := fun dir code =>
      ⟨⟨dir, [], some [("k.cu".toList, code)], []⟩, git, dir, [], .googletest, 0, some [], some [],
        none, ⟨[("t".toList, ⟨"t".toList, [{ filename := "k.cu".toList }], true, none⟩)],
          List.nodup_singleton _⟩, [], 0⟩
    (testDifferences UnicodeDB.asciiOnly UnifiedDiff.wholeFile (run "a".toList "x\x7d\n".toList)
        (run "b".toList "x\n".toList) "mismatched_cuda_or_ptx".toList).map diffExitCode = .ok 0 ∧
      documentedNormalForm UnicodeDB.asciiOnly 0 "x\x7d\n".toList ≠
        documentedNormalForm UnicodeDB.asciiOnly 0 "x\n".toList := by
  decide

end CodeDiff
