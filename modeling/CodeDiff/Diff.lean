/-
The diff engine: `sanitize_ptx_lines`, `KernelDiff`, `TestDiff` and
`TestDifferences.__post_init__`, with the exit code of the `diff`
subcommand.

# difflib

`difflib.unified_diff` is a library collaborator. What the tool relies on
is two facts about it: it yields no line at all exactly when the two line
lists are equal (for equal inputs every opcode is `equal` and the single
equal group is dropped; for different inputs some opcode is not `equal`,
and its group is yielded after the `---`/`+++` header), and every line it
yields starts with a marker (`---`, `+++`, `@@`, ` `, `-` or `+`), so it
is never empty. `UnifiedDiff` carries a diff function with those facts as
fields; the theorems hold for every such function.

# Loading and aliasing

`get_kernel` mutates the kernel object it loads, and the tests a
`TestDiff` holds are the run's own objects, so the `TestDiff` shows the
first `min` kernels loaded. The model returns those loaded values instead
of mutating: a compared test is reported with its first `min` kernels
replaced by their loaded versions, a removed or new test with all of them.
-/
import CodeDiff.Run

namespace CodeDiff

variable (U : UnicodeDB)

/-- `difflib.unified_diff(a, b, fromfile=…, tofile=…, n=5)`, with the one
fact the tool relies on. -/
structure UnifiedDiff where
  run : List Text → List Text → Text → Text → List Text
  run_eq_nil_iff : ∀ a b fromfile tofile, run a b fromfile tofile = [] ↔ a = b
  ne_nil_of_mem_run : ∀ a b fromfile tofile, ∀ l ∈ run a b fromfile tofile, l ≠ []

/-- A diff that replaces the whole file in one hunk. It meets the contract
and stands in for `difflib` when the model is run on a concrete input. -/
def UnifiedDiff.wholeFile : UnifiedDiff where
  run a b f t := if a = b then [] else
    ("--- ".toList ++ f) :: ("+++ ".toList ++ t) :: (a.map ('-' :: ·) ++ b.map ('+' :: ·))
  run_eq_nil_iff a b f t := by
    by_cases h : a = b <;> simp [h]
  ne_nil_of_mem_run a b f t := by
    dsimp only
    split
    · simp
    · intro l hl
      simp only [List.mem_cons, List.mem_append, List.mem_map] at hl
      rcases hl with rfl | rfl | ⟨_, _, rfl⟩ | ⟨_, _, rfl⟩ <;> simp

-- ===================================================== PTX

/-- The mangled-name rewrite of `sanitize_ptx_lines` on one line: the scope
and kernel-name components after the last `\b_Z?ZN<digits>_` are skipped by
their length fields and replaced by `11kernelscope` and `6kernel`. -/
def demangleLine (l : Text) : Except PyError Text :=
  match lastMangled U l with
  | none => .ok l
  | some (p, n, ds) => do
      let lead := l.take (p + n)
      let scopenamelen ← intOfDigits U ds
      let remainder := l.drop (lead.length + ds.length + scopenamelen)
      let vd := remainder.takeWhile U.isDigit
      let remainder ← if vd.isEmpty then Except.ok remainder else do
        let varnamelen ← intOfDigits U vd
        pure ("6kernel".toList ++ remainder.drop (vd.length + varnamelen))
      pure (lead ++ "11kernelscope".toList ++ remainder)

/-- One line of `sanitize_ptx_lines`: demangle, then drop the comment. -/
def sanitizePtxLine (l : Text) : Except PyError Text :=
  (demangleLine U l).map stripComment

/-- `sanitize_ptx_lines`. -/
def sanitizePtxLines (lines : List Text) : Except PyError (List Text) :=
  lines.mapM (sanitizePtxLine U)

-- ===================================================== diff records

/-- `KernelDiff`, every field. -/
structure KernelDiff where
  testname : Text
  kernelNum : Nat
  kernel1 : CompiledKernel
  kernel2 : CompiledKernel
  diff : Text
  newLines : Nat
  removedLines : Nat
  ptxDiff : Option Text
  newPtxLines : Nat
  removedPtxLines : Nat
  deriving DecidableEq

/-- How many diff lines start with the two characters `p`. -/
def countMarked (p : Text) (lines : List Text) : Nat :=
  (lines.filter fun l => l.take 2 = p).length

/-- `KernelDiff(testname, kernel_num, kernel1, kernel2, diff_lines,
ptx_diff_lines=…)` with `__post_init__`. -/
def KernelDiff.create (testname : Text) (kernelNum : Nat) (kernel1 kernel2 : CompiledKernel)
    (diffLines : List Text) (ptxDiffLines : Option (List Text)) : KernelDiff :=
  ⟨testname, kernelNum, kernel1, kernel2, joinLines diffLines,
    countMarked "+ ".toList diffLines, countMarked "- ".toList diffLines,
    ptxDiffLines.map joinLines,
    (ptxDiffLines.map (countMarked "+ ".toList)).getD 0,
    (ptxDiffLines.map (countMarked "- ".toList)).getD 0⟩

/-- `TestDiff`: a null kernel-diff list marks differing kernel counts. -/
structure TestDiff where
  testname : Text
  test1 : CompiledTest
  test2 : CompiledTest
  kernelDiffs : Option (List KernelDiff)
  deriving DecidableEq

/-- The fields `TestDifferences.__post_init__` computes. -/
structure TestDifferences where
  testDiffs : List TestDiff
  newTests : List CompiledTest
  removedTests : List CompiledTest
  totalNumDiffs : Nat
  preambleDiff : Text
  envDiff : Text
  deriving DecidableEq

-- ===================================================== the comparison

/-- The inclusion test of a compared kernel pair. -/
def includeKernel (criterion : Text) (diffLines : List Text)
    (ptxDiffLines : Option (List Text)) : Bool :=
  criterion = "all".toList ||
    (criterion = "mismatched_cuda_or_ptx".toList && !diffLines.isEmpty) ||
    ((criterion = "mismatched_cuda_or_ptx".toList || criterion = "mismatched_ptx".toList) &&
      match ptxDiffLines with
      | some l => !l.isEmpty
      | none => false)

/-- The PTX diff of two loaded kernels: present only when both have PTX. -/
def ptxDiffOf (ud : UnifiedDiff) (r1 r2 : TestRun) (kern1 kern2 : CompiledKernel) :
    Except PyError (Option (List Text)) :=
  match kern1.ptx, kern2.ptx with
  | some p1, some p2 => do
      let s1 ← sanitizePtxLines U (splitlines p1)
      let s2 ← sanitizePtxLines U (splitlines p2)
      pure (some (ud.run s1 s2 r1.name r2.name))
  | _, _ => .ok none

/-- One iteration of the kernel loop: both kernels loaded with the
preamble stripped, their diffs, and the `KernelDiff` when it is
included. -/
def compareKernel (ud : UnifiedDiff) (criterion : Text) (r1 r2 : TestRun) (testname : Text)
    (k : Nat) : Except PyError (CompiledKernel × CompiledKernel × Option KernelDiff) := do
  let kern1 ← getKernel U r1 testname k true
  let kern2 ← getKernel U r2 testname k true
  let code1 ← orRaise .assertionError kern1.code
  let code2 ← orRaise .assertionError kern2.code
  let ptxDiffLines ← ptxDiffOf U ud r1 r2 kern1 kern2
  let diffLines := ud.run (splitlines code1) (splitlines code2) r1.name r2.name
  if includeKernel criterion diffLines ptxDiffLines then
    pure (kern1, kern2, some (KernelDiff.create testname (k + 1) kern1 kern2 diffLines ptxDiffLines))
  else pure (kern1, kern2, none)

/-- A test present in both runs: the count-mismatch `TestDiff` (when the
counts differ), the `TestDiff` of the included kernel diffs (when there
is one), and how many kernel diffs were included. -/
def compareTest (ud : UnifiedDiff) (criterion : Text) (r1 r2 : TestRun) (testname : Text)
    (test1 test2 : CompiledTest) : Except PyError (List TestDiff × Nat) := do
  let m := min test1.kernels.length test2.kernels.length
  let results ← (List.range m).mapM (compareKernel U ud criterion r1 r2 testname)
  let test1 := { test1 with kernels := results.map (·.1) ++ test1.kernels.drop m }
  let test2 := { test2 with kernels := results.map (·.2.1) ++ test2.kernels.drop m }
  let kernelDiffs := results.filterMap (·.2.2)
  let countDiff : List TestDiff :=
    if test1.kernels.length ≠ test2.kernels.length then [⟨testname, test1, test2, none⟩] else []
  let kernelDiff : List TestDiff :=
    if kernelDiffs.isEmpty then [] else [⟨testname, test1, test2, some kernelDiffs⟩]
  pure (countDiff ++ kernelDiff, kernelDiffs.length)

/-- A test present in one run only: every kernel loaded. -/
def loadTest (r : TestRun) (testname : Text) (test : CompiledTest) :
    Except PyError CompiledTest := do
  let kernels ← (List.range test.kernels.length).mapM fun i => getKernel U r testname i true
  pure { test with kernels := kernels }

/-- The loop over the first run's tests: the `TestDiff`s, the removed tests
and the number of kernel diffs. -/
def diffTests (ud : UnifiedDiff) (criterion : Text) (r1 r2 : TestRun) :
    List (Text × CompiledTest) → Except PyError (List TestDiff × List CompiledTest × Nat)
  | [] => .ok ([], [], 0)
  | (testname, test1) :: rest => do
      match r2.kernelMap.get? testname with
      | none => do
          let removed ← loadTest U r1 testname test1
          let (diffs, removedRest, n) ← diffTests ud criterion r1 r2 rest
          pure (diffs, removed :: removedRest, n)
      | some test2 => do
          let (diffs, n) ← compareTest U ud criterion r1 r2 testname test1 test2
          let (diffsRest, removedRest, n') ← diffTests ud criterion r1 r2 rest
          pure (diffs ++ diffsRest, removedRest, n + n')

/-- The loop over the second run's tests: the new ones, loaded. -/
def newTestsOf (r1 r2 : TestRun) : List (Text × CompiledTest) → Except PyError (List CompiledTest)
  | [] => .ok []
  | (testname, test2) :: rest =>
      if r1.kernelMap.contains testname then newTestsOf r1 r2 rest
      else do
        let added ← loadTest U r2 testname test2
        let rest ← newTestsOf r1 r2 rest
        pure (added :: rest)

/-- `TestDifferences(run1, run2, inclusion_criterion=…)`. The warnings it
prints and `show_diffs` (printing only) are not modelled. -/
def testDifferences (ud : UnifiedDiff) (r1 r2 : TestRun) (criterion : Text) :
    Except PyError TestDifferences := do
  let preambleDiff := joinLines
    (ud.run (splitlines r1.preamble) (splitlines r2.preamble) r1.name r2.name)
  let env1 ← orRaise .attributeError r1.env
  let env2 ← orRaise .attributeError r2.env
  let envDiff := joinLines (ud.run (splitlines env1) (splitlines env2) r1.name r2.name)
  let (testDiffs, removedTests, totalNumDiffs) ←
    diffTests U ud criterion r1 r2 r1.kernelMap.entries
  let newTests ← newTestsOf U r1 r2 r2.kernelMap.entries
  pure ⟨testDiffs, newTests, removedTests, totalNumDiffs, preambleDiff, envDiff⟩

/-- The exit code of the `diff` subcommand: `1` when a test or the preamble
differs. -/
def diffExitCode (td : TestDifferences) : Nat :=
  if !td.testDiffs.isEmpty || !td.preambleDiff.isEmpty then 1 else 0

end CodeDiff
