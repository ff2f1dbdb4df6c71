/-
The diff is symmetric in its two runs (`testDifferences_symmetric`): run
the other way round, it loads the same kernels, so every comparison is
the same comparison with its sides swapped.

# The argument

A kernel pair is included from its criterion, whether the code lines
differ and whether the PTX lines differ; `difflib`'s output is empty
exactly when its inputs are equal, so each of these reads the same both
ways (`ptxDiffers_swap`, `compareKernel_swap`). A test is therefore
reported, and counts as many kernel diffs, both ways or neither
(`compareTest_swap`). The tests one way reports removed are the ones the
other way loads as new, in the same order (`removed_eq_loaded`).

The kernel-diff totals are sums over the two runs' keys in their own
orders. `diffCount` vanishes off the common keys and agrees on them, and
the common keys in either order are a permutation of each other
(`sum_map_eq_of_common`).
-/
import CodeDiff.Proofs.Diff.Spec

namespace CodeDiff

variable (U : UnicodeDB) (ud : UnifiedDiff)

-- ===================================================== one comparison, swapped

/-- Swapping the runs swaps the PTX diff, which finds a difference either
both ways or neither. -/
theorem ptxDiffers_swap {r1 r2 : TestRun} {k1 k2 : CompiledKernel} {pd pd' : Option (List Text)}
    (h : ptxDiffOf U ud r1 r2 k1 k2 = .ok pd) (h' : ptxDiffOf U ud r2 r1 k2 k1 = .ok pd') :
    ptxDiffers pd = ptxDiffers pd' := by
  rcases (ptxDiffOf_eq_ok U ud).1 h with ⟨p1, p2, s1, s2, e1, e2, hs1, hs2, rfl⟩ | ⟨hn, rfl⟩
  · rcases (ptxDiffOf_eq_ok U ud).1 h' with ⟨q2, q1, t2, t1, f2, f1, ht2, ht1, rfl⟩ | ⟨hn, rfl⟩
    · rw [e1] at f1; rw [e2] at f2
      cases f1; cases f2
      rw [hs1] at ht1; rw [hs2] at ht2
      cases ht1; cases ht2
      simp only [ptxDiffers, ud.run_isEmpty, eq_comm]
    · rcases hn with hn | hn <;> simp_all
  · rcases (ptxDiffOf_eq_ok U ud).1 h' with ⟨q2, q1, t2, t1, f2, f1, -, -, rfl⟩ | ⟨-, rfl⟩
    · rcases hn with hn | hn <;> simp_all
    · rfl

/-- Comparing a kernel pair the other way round includes a diff exactly
when the first way does. -/
theorem compareKernel_swap {crit name : Text} {r1 r2 : TestRun} {k : Nat}
    {k1 k2 k1' k2' : CompiledKernel} {kd kd' : Option KernelDiff}
    (h : compareKernel U ud crit r1 r2 name k = .ok (k1, k2, kd))
    (h' : compareKernel U ud crit r2 r1 name k = .ok (k2', k1', kd')) :
    kd.isSome = kd'.isSome := by
  obtain ⟨g1, g2, c1, c2, pd, hc1, hc2, hpd, rfl⟩ := (compareKernel_eq_ok U ud).1 h
  obtain ⟨g2', g1', c2', c1', pd', hc2', hc1', hpd', rfl⟩ := (compareKernel_eq_ok U ud).1 h'
  rw [g1] at g1'; rw [g2] at g2'
  cases g1'; cases g2'
  rw [hc1] at hc1'; rw [hc2] at hc2'
  cases hc1'; cases hc2'
  have hp := ptxDiffers_swap U ud hpd hpd'
  simp only [includeKernel_eq, ud.run_isEmpty, hp, @eq_comm _ (splitlines c1)]
  split <;> simp

theorem filterMap_length_eq_of_forall₂ {α β γ δ ε : Type} {R : α → β → Prop} {S : α → γ → Prop}
    {f : β → Option δ} {g : γ → Option ε}
    (hfg : ∀ a x y, R a x → S a y → (f x).isSome = (g y).isSome) {l : List α} {xs : List β}
    {ys : List γ} (hx : List.Forall₂ R l xs) (hy : List.Forall₂ S l ys) :
    (xs.filterMap f).length = (ys.filterMap g).length := by
  induction hx generalizing ys with
  | nil => cases hy; rfl
  | @cons a x _ _ hx _ ih =>
      cases hy with
      | @cons _ y _ _ hy hys =>
          have h := hfg a x y hx hy
          specialize ih hys
          cases hf : f x <;> cases hg : g y <;> simp_all [List.filterMap_cons]

/-- Comparing a test the other way round counts the same kernel diffs and
reports a difference exactly when the first way does. -/
theorem compareTest_swap {crit name : Text} {r1 r2 : TestRun} {t1 t2 : CompiledTest}
    {ds ds' : List TestDiff} {n n' : Nat}
    (h : compareTest U ud crit r1 r2 name t1 t2 = .ok (ds, n))
    (h' : compareTest U ud crit r2 r1 name t2 t1 = .ok (ds', n')) :
    n = n' ∧ (ds = [] ↔ ds' = []) := by
  obtain ⟨rs, hrs, rfl, -, hds⟩ := compareTest_eq_ok U ud h
  obtain ⟨rs', hrs', rfl, -, hds'⟩ := compareTest_eq_ok U ud h'
  rw [Nat.min_comm] at hrs'
  have hn : (rs.filterMap (·.2.2)).length = (rs'.filterMap (·.2.2)).length :=
    filterMap_length_eq_of_forall₂ (fun _ x y hx hy => by
      obtain ⟨_, _, _⟩ := x; obtain ⟨_, _, _⟩ := y; exact compareKernel_swap U ud hx hy) hrs hrs'
  refine ⟨hn, ?_⟩
  rw [hds, hds', hn]
  omega

-- ===================================================== the totals

section totals

variable {crit : Text} {r1 r2 : TestRun} {es : List (Text × CompiledTest)}
  {outs : List (List TestDiff × List CompiledTest × Nat)}

/-- The number of kernel diffs comparing a test gives: zero when either run
lacks it or the comparison raises. -/
def diffCount (crit : Text) (r1 r2 : TestRun) (name : Text) : Nat :=
  match r1.kernelMap.get? name, r2.kernelMap.get? name with
  | some t1, some t2 => ((compareTest U ud crit r1 r2 name t1 t2).toOption.map (·.2)).getD 0
  | _, _ => 0

theorem diffCount_eq_zero {x : Text} (hx : x ∉ r2.kernelMap.keys) :
    diffCount U ud crit r1 r2 x = 0 := by
  unfold diffCount
  rw [Dict.get?_eq_none.2 hx]
  cases r1.kernelMap.get? x <;> rfl

theorem outcomes_total
    (ho : List.Forall₂ (fun e o => testOutcome U ud crit r1 r2 e = .ok o) es outs)
    (hes : ∀ e ∈ es, r1.kernelMap.get? e.1 = some e.2) :
    (outs.map (·.2.2)).sum = (es.map fun e => diffCount U ud crit r1 r2 e.1).sum := by
  induction ho with
  | nil => rfl
  | @cons e o _ _ he _ ih =>
      rw [List.map_cons, List.sum_cons, List.map_cons, List.sum_cons,
        ih fun e' h => hes e' (.tail _ h)]
      congr 1
      unfold testOutcome at he
      unfold diffCount
      rw [hes e (.head _)]
      cases hget : r2.kernelMap.get? e.1 with
      | none =>
          rw [hget] at he
          obtain ⟨t, -, rfl⟩ := except_map_eq_ok.mp he
          rfl
      | some t2 =>
          rw [hget] at he
          obtain ⟨⟨ds, n⟩, hc, rfl⟩ := except_map_eq_ok.mp he
          simp [hc, Except.toOption]

end totals

/-- Two sums over duplicate-free key lists agree when the summands vanish off
the common keys and agree on them. -/
theorem sum_map_eq_of_common {l1 l2 : List Text} (n1 : l1.Nodup) (n2 : l2.Nodup)
    {f g : Text → Nat} (hf : ∀ x ∈ l1, x ∉ l2 → f x = 0) (hg : ∀ x ∈ l2, x ∉ l1 → g x = 0)
    (hfg : ∀ x ∈ l1, x ∈ l2 → f x = g x) : (l1.map f).sum = (l2.map g).sum := by
  have filt : ∀ (l m : List Text) (h : Text → Nat), (∀ x ∈ l, x ∉ m → h x = 0) →
      (l.map h).sum = ((l.filter (· ∈ m)).map h).sum := by
    intro l m h hz
    induction l with
    | nil => rfl
    | cons x l ih =>
        have ih := ih fun y hy => hz y (.tail _ hy)
        by_cases hx : x ∈ m
        · simp [List.filter_cons, hx, ih]
        · simp [List.filter_cons, hx, ih, hz x (.head _) hx]
  have hp : (l1.filter (· ∈ l2)).Perm (l2.filter (· ∈ l1)) :=
    (List.perm_ext_iff_of_nodup (n1.filter _) (n2.filter _)).2 fun x => by
      simp only [List.mem_filter, decide_eq_true_eq, and_comm]
  calc (l1.map f).sum = ((l1.filter (· ∈ l2)).map f).sum := filt l1 l2 f hf
    _ = ((l1.filter (· ∈ l2)).map g).sum := by
        congr 1
        refine List.map_congr_left fun x hx => ?_
        rw [List.mem_filter, decide_eq_true_eq] at hx
        exact hfg x hx.1 hx.2
    _ = ((l2.filter (· ∈ l1)).map g).sum := (hp.map g).sum_eq
    _ = (l2.map g).sum := (filt l2 l1 g hg).symm

-- ===================================================== the diff, swapped

section symmetry

variable {crit : Text} {r1 r2 : TestRun}
  {outs outs' : List (List TestDiff × List CompiledTest × Nat)}

/-- A test reported by the diff one way round is reported the other way
round. -/
theorem reported_swap
    (ho : List.Forall₂ (fun e o => testOutcome U ud crit r1 r2 e = .ok o) r1.kernelMap.entries outs)
    (ho' : List.Forall₂ (fun e o => testOutcome U ud crit r2 r1 e = .ok o) r2.kernelMap.entries outs')
    {name : Text} (h : name ∈ (outs.map (·.1)).flatten.map (·.testname)) :
    name ∈ (outs'.map (·.1)).flatten.map (·.testname) := by
  obtain ⟨⟨_, t1⟩, he, rfl, t2, ds, n, h2, hc, hne⟩ := (mem_outcomes_testnames U ud ho name).1 h
  have h1 := Dict.mem_entries_iff.1 he
  obtain ⟨ds', n', hc'⟩ := compared_of_outcomes U ud ho' (Dict.mem_entries_iff.2 h2) h1
  refine (mem_outcomes_testnames U ud ho' _).2
    ⟨_, Dict.mem_entries_iff.2 h2, rfl, t1, ds', n', h1, hc', ?_⟩
  exact fun h => hne (((compareTest_swap U ud hc hc').2).2 h)

end symmetry

/-- The diff is symmetric in its runs: whenever it returns both ways round,
the new tests of one are the removed tests of the other, the same tests are
reported, the same number of kernel diffs is counted, the preambles differ
both ways or neither, and the exit code is the same. -/
theorem testDifferences_symmetric {r1 r2 : TestRun} {crit : Text} {td td' : TestDifferences}
    (h : testDifferences U ud r1 r2 crit = .ok td)
    (h' : testDifferences U ud r2 r1 crit = .ok td') :
    td.newTests = td'.removedTests ∧ td.removedTests = td'.newTests ∧
      (∀ name, name ∈ td.testDiffs.map (·.testname) ↔ name ∈ td'.testDiffs.map (·.testname)) ∧
      td.totalNumDiffs = td'.totalNumDiffs ∧ (td.preambleDiff = [] ↔ td'.preambleDiff = []) ∧
      diffExitCode td = diffExitCode td' := by
  obtain ⟨-, -, -, -, hd, hn, hp, -⟩ := (testDifferences_eq_ok U ud).1 h
  obtain ⟨-, -, -, -, hd', hn', hp', -⟩ := (testDifferences_eq_ok U ud).1 h'
  rw [diffTests_eq] at hd hd'
  obtain ⟨outs, ho, hj⟩ := except_map_eq_ok.mp hd
  obtain ⟨outs', ho', hj'⟩ := except_map_eq_ok.mp hd'
  replace ho := except_mapM_eq_ok.mp ho
  replace ho' := except_mapM_eq_ok.mp ho'
  simp only [joinOutcomes, Prod.mk.injEq] at hj hj'
  obtain ⟨hdiffs, hrem, htot⟩ := hj
  obtain ⟨hdiffs', hrem', htot'⟩ := hj'
  rw [newTestsOf_eq] at hn hn'
  have hnames : ∀ name, name ∈ td.testDiffs.map (·.testname) ↔
      name ∈ td'.testDiffs.map (·.testname) := fun name => by
    rw [← hdiffs, ← hdiffs']
    exact ⟨reported_swap U ud ho ho', reported_swap U ud ho' ho⟩
  have hpre : td.preambleDiff = [] ↔ td'.preambleDiff = [] := by
    rw [hp, hp', ud.joinLines_run_eq_nil_iff, ud.joinLines_run_eq_nil_iff, eq_comm]
  refine ⟨?_, ?_, hnames, ?_, hpre, ?_⟩
  · rw [← hrem', removed_eq_loaded U ud ho' (except_mapM_eq_ok.mp hn)]
  · rw [← hrem, removed_eq_loaded U ud ho (except_mapM_eq_ok.mp hn')]
  · have keys : ∀ {a b : TestRun}, (a.kernelMap.entries.map fun e => diffCount U ud crit a b e.1) =
        a.kernelMap.keys.map (diffCount U ud crit a b) := by simp [Dict.keys]
    rw [← htot, ← htot', outcomes_total U ud ho (fun _ he => Dict.mem_entries_iff.1 he),
      outcomes_total U ud ho' (fun _ he => Dict.mem_entries_iff.1 he), keys, keys]
    refine sum_map_eq_of_common r1.kernelMap.nodup r2.kernelMap.nodup
      (fun _ _ hx => diffCount_eq_zero U ud hx) (fun _ _ hx => diffCount_eq_zero U ud hx) fun x hx1 hx2 => ?_
    obtain ⟨t1, h1⟩ := Dict.get?_of_mem_keys hx1
    obtain ⟨t2, h2⟩ := Dict.get?_of_mem_keys hx2
    obtain ⟨ds, n, hc⟩ := compared_of_outcomes U ud ho (Dict.mem_entries_iff.2 h1) h2
    obtain ⟨ds', n', hc'⟩ := compared_of_outcomes U ud ho' (Dict.mem_entries_iff.2 h2) h1
    simp only [diffCount, h1, h2, hc, hc', Except.toOption, Option.map_some', Option.getD_some]
    exact (compareTest_swap U ud hc hc').1
  · have hem : td.testDiffs = [] ↔ td'.testDiffs = [] := by
      rw [← @List.map_eq_nil_iff _ _ (·.testname) td.testDiffs,
        ← @List.map_eq_nil_iff _ _ (·.testname) td'.testDiffs,
        List.eq_nil_iff_forall_not_mem, List.eq_nil_iff_forall_not_mem]
      exact forall_congr' fun n => not_congr (hnames n)
    have e1 : td.testDiffs.isEmpty = td'.testDiffs.isEmpty := by
      rw [Bool.eq_iff_iff, List.isEmpty_iff, List.isEmpty_iff]; exact hem
    have e2 : td.preambleDiff.isEmpty = td'.preambleDiff.isEmpty := by
      rw [Bool.eq_iff_iff, List.isEmpty_iff, List.isEmpty_iff]; exact hpre
    simp only [diffExitCode, e1, e2]

theorem testDifferences_symmetric_on_sample :
    let git : GitRev := ⟨[], none, [], [], [], [], [], []⟩
    let test : Text → CompiledTest := fun n => ⟨n, [{ filename := "a.cu".toList }], true, none⟩
    let r1 : TestRun := ⟨⟨"r1".toList, [], some [("a.cu".toList, "k(1)\n".toList)], []⟩, git,
      "r1".toList, [], .googletest, 0, some [], none, none,
      ⟨[("t".toList, test "t".toList)], by decide⟩, [], 0⟩
    let r2 : TestRun := ⟨⟨"r2".toList, [], some [("a.cu".toList, "k(2)\n".toList)], []⟩, git,
      "r2".toList, [], .googletest, 0, some [], none, none,
      ⟨[("t".toList, test "t".toList), ("u".toList, test "u".toList)], by decide⟩, [], 0⟩
    ∃ td td', testDifferences UnicodeDB.asciiOnly UnifiedDiff.wholeFile r1 r2 "all".toList = .ok td ∧
      testDifferences UnicodeDB.asciiOnly UnifiedDiff.wholeFile r2 r1 "all".toList = .ok td' ∧
      (td.newTests = td'.removedTests ∧ td.removedTests = td'.newTests ∧
        (∀ name, name ∈ td.testDiffs.map (·.testname) ↔ name ∈ td'.testDiffs.map (·.testname)) ∧
        td.totalNumDiffs = td'.totalNumDiffs ∧ (td.preambleDiff = [] ↔ td'.preambleDiff = []) ∧
        diffExitCode td = diffExitCode td') := by
  intro git test r1 r2
  obtain ⟨td, h1⟩ := except_eq_ok_of_isOk (by decide : (testDifferences UnicodeDB.asciiOnly
    UnifiedDiff.wholeFile r1 r2 "all".toList).isOk = true)
  obtain ⟨td', h2⟩ := except_eq_ok_of_isOk (by decide : (testDifferences UnicodeDB.asciiOnly
    UnifiedDiff.wholeFile r2 r1 "all".toList).isOk = true)
  exact ⟨td, td', h1, h2, testDifferences_symmetric _ _ h1 h2⟩

end CodeDiff
