/-
What the inclusion criterion changes in a diff: only which kernel diffs
are kept.

# Two runs side by side

`ExceptRel R x y`: the two computations raise the same exception, or both
return, with results related by `R`. It lifts through `bind`, `map` and
`mapM`, so the diff under two criteria is compared stage by stage, the two
runs of each stage related by what they share.

# The comparison

`includeKernel` is consulted only after both kernels of a pair are loaded
and both diffs taken, so the criterion never changes whether or where the
diff raises, nor what it loads. For a criterion `c'` that includes every
pair `c` includes (`Looser`: `all` includes every pair,
`mismatched_cuda_or_ptx` every pair `mismatched_ptx` includes):

- a kernel pair loads the same kernels and keeps the same `KernelDiff`
  when `c` keeps one (`compareKernel_rel`);
- a test has the same count-mismatch `TestDiff` and keeps a sublist of
  the kernel diffs (`compareTest_rel`);
- so the whole diff has the same new and removed tests, the same preamble
  and env diffs and the same count-mismatch records, the kernel diffs of
  `c` among those of `c'` in the same order, and a total no larger
  (`testDifferences_criterion`).

# A run against itself

Compared with itself, a run loads the same kernel on both sides of every
pair, so neither the code nor the PTX differs and every criterion but
`all` keeps nothing (`compareKernel_self`): the diff, when it returns,
is empty and `diff` exits with 0 (`testDifferences_self`). Under `all`
every loaded pair is kept, so the same diff reports each kernel.
-/
import CodeDiff.Proofs.Diff.Spec

namespace CodeDiff

-- ===================================================== relational lifting

/-- Two computations raise the same exception, or both return, with
results related by `R`. -/
inductive ExceptRel {ε α β : Type} (R : α → β → Prop) : Except ε α → Except ε β → Prop
  | error (e : ε) : ExceptRel R (.error e) (.error e)
  | ok {a : α} {b : β} : R a b → ExceptRel R (.ok a) (.ok b)

namespace ExceptRel

variable {ε α β γ δ : Type} {R : α → β → Prop} {S : γ → δ → Prop}

theorem bind {x : Except ε α} {y : Except ε β} {f : α → Except ε γ} {g : β → Except ε δ}
    (h : ExceptRel R x y) (hf : ∀ a b, R a b → ExceptRel S (f a) (g b)) :
    ExceptRel S (x >>= f) (y >>= g) := by
  cases h with
  | error e => exact .error e
  | ok hab => exact hf _ _ hab

/-- One computation run on both sides, each continuing its own way. -/
theorem bind_same {x : Except ε α} {f : α → Except ε γ} {g : α → Except ε δ}
    (hf : ∀ a, ExceptRel S (f a) (g a)) : ExceptRel S (x >>= f) (x >>= g) := by
  cases x with
  | error e => exact .error e
  | ok a => exact hf a

theorem map {x : Except ε α} {y : Except ε β} {f : α → γ} {g : β → δ} (h : ExceptRel R x y)
    (hf : ∀ a b, R a b → S (f a) (g b)) : ExceptRel S (x.map f) (y.map g) := by
  cases h with
  | error e => exact .error e
  | ok hab => exact .ok (hf _ _ hab)

theorem refl {R : α → α → Prop} (hR : ∀ a, R a a) : ∀ x : Except ε α, ExceptRel R x x
  | .error e => .error e
  | .ok a => .ok (hR a)

theorem mapM {ι : Type} {f : ι → Except ε α} {g : ι → Except ε β} :
    ∀ {l : List ι}, (∀ i ∈ l, ExceptRel R (f i) (g i)) →
      ExceptRel (List.Forall₂ R) (l.mapM f) (l.mapM g)
  | [], _ => .ok .nil
  | i :: l, h => by
      rw [List.mapM_cons, List.mapM_cons]
      exact (h i (.head _)).bind fun a b hab =>
        (mapM fun j hj => h j (.tail _ hj)).bind fun as bs habs => .ok (.cons hab habs)

end ExceptRel

theorem map_eq_of_forall₂ {α β γ : Type} {R : α → β → Prop} {f : α → γ} {g : β → γ}
    (hfg : ∀ a b, R a b → f a = g b) {l : List α} {l' : List β} (h : List.Forall₂ R l l') :
    l.map f = l'.map g := by
  induction h with
  | nil => rfl
  | cons hab _ ih => rw [List.map_cons, List.map_cons, hfg _ _ hab, ih]

theorem filterMap_sublist_of_forall₂ {α β γ : Type} {R : α → β → Prop} {f : α → Option γ}
    {g : β → Option γ} (hfg : ∀ a b, R a b → ∀ d, f a = some d → g b = some d) {l : List α}
    {l' : List β} (h : List.Forall₂ R l l') : List.Sublist (l.filterMap f) (l'.filterMap g) := by
  induction h with
  | nil => exact .slnil
  | @cons a b _ _ hab _ ih =>
      rw [List.filterMap_cons, List.filterMap_cons]
      cases hf : f a with
      | none =>
          cases g b with
          | none => exact ih
          | some d => exact ih.cons d
      | some d => rw [hfg a b hab d hf]; exact ih.cons₂ d

-- ===================================================== criteria

/-- Every kernel pair criterion `c` includes, `c'` includes too. -/
def Looser (c c' : Text) : Prop :=
  ∀ dl pd, includeKernel c dl pd = true → includeKernel c' dl pd = true

theorem looser_all (c : Text) : Looser c "all".toList := fun _ _ _ => rfl

theorem looser_ptx_cuda : Looser "mismatched_ptx".toList "mismatched_cuda_or_ptx".toList := by
  intro dl pd
  rw [includeKernel_eq, includeKernel_eq]
  cases ptxDiffers pd <;> cases dl.isEmpty <;> decide

-- ===================================================== what the diff reports

/-- The kernel diffs a list of `TestDiff`s holds, in order. -/
def kernelDiffsOf (ds : List TestDiff) : List KernelDiff :=
  ds.flatMap fun d => d.kernelDiffs.getD []

/-- The count-mismatch records: the `TestDiff`s with a null kernel list. -/
def countMismatches (ds : List TestDiff) : List TestDiff :=
  ds.filter fun d => d.kernelDiffs.isNone

@[simp] theorem kernelDiffsOf_nil : kernelDiffsOf [] = [] := rfl

@[simp] theorem countMismatches_nil : countMismatches [] = [] := rfl

@[simp] theorem kernelDiffsOf_append (a b : List TestDiff) :
    kernelDiffsOf (a ++ b) = kernelDiffsOf a ++ kernelDiffsOf b := List.flatMap_append ..

@[simp] theorem countMismatches_append (a b : List TestDiff) :
    countMismatches (a ++ b) = countMismatches a ++ countMismatches b := List.filter_append ..

/-- A compared test's record of its kept kernel diffs, present when it
keeps some. -/
theorem kernelDiffsOf_kept (name : Text) (t1 t2 : CompiledTest) (kds : List KernelDiff) :
    kernelDiffsOf (if kds.isEmpty then [] else [⟨name, t1, t2, some kds⟩]) = kds := by
  cases kds <;> simp [kernelDiffsOf]

theorem countMismatches_kept (name : Text) (t1 t2 : CompiledTest) (kds : List KernelDiff) :
    countMismatches (if kds.isEmpty then [] else [⟨name, t1, t2, some kds⟩]) = [] := by
  cases kds <;> rfl

/-- A compared test's count-mismatch record holds no kernel diff. -/
theorem kernelDiffsOf_mismatch (p : Prop) [Decidable p] (name : Text) (t1 t2 : CompiledTest) :
    kernelDiffsOf (if p then [⟨name, t1, t2, none⟩] else []) = [] := by
  split <;> rfl

theorem countMismatches_mismatch (p : Prop) [Decidable p] (name : Text) (t1 t2 : CompiledTest) :
    countMismatches (if p then [⟨name, t1, t2, none⟩] else []) =
      if p then [⟨name, t1, t2, none⟩] else [] := by
  split <;> rfl

/-- What a diff under a criterion shares with the diff under a looser one,
for one test of the first run or for the whole loop: the same
count-mismatch records and removed tests, the kernel diffs among the
looser ones', and a total no larger. -/
structure OutcomeRel (o o' : List TestDiff × List CompiledTest × Nat) : Prop where
  mismatches : countMismatches o.1 = countMismatches o'.1
  kernelDiffs : List.Sublist (kernelDiffsOf o.1) (kernelDiffsOf o'.1)
  removed : o.2.1 = o'.2.1
  total : o.2.2 ≤ o'.2.2

theorem OutcomeRel.append {o₁ o₁' o₂ o₂' : List TestDiff × List CompiledTest × Nat}
    (h₁ : OutcomeRel o₁ o₁') (h₂ : OutcomeRel o₂ o₂') :
    OutcomeRel (o₁.1 ++ o₂.1, o₁.2.1 ++ o₂.2.1, o₁.2.2 + o₂.2.2)
      (o₁'.1 ++ o₂'.1, o₁'.2.1 ++ o₂'.2.1, o₁'.2.2 + o₂'.2.2) :=
  ⟨by simp only [countMismatches_append, h₁.mismatches, h₂.mismatches],
    by simpa only [kernelDiffsOf_append] using h₁.kernelDiffs.append h₂.kernelDiffs,
    by rw [h₁.removed, h₂.removed], Nat.add_le_add h₁.total h₂.total⟩

theorem joinOutcomes_rel {outs outs' : List (List TestDiff × List CompiledTest × Nat)}
    (h : List.Forall₂ OutcomeRel outs outs') : OutcomeRel (joinOutcomes outs) (joinOutcomes outs') := by
  induction h with
  | nil => exact ⟨rfl, .slnil, rfl, le_rfl⟩
  | cons ho _ ih =>
      simpa only [joinOutcomes, List.map_cons, List.flatten_cons, List.sum_cons] using ho.append ih

/-- The diff under a criterion and under a looser one: the same new and
removed tests, preamble and env diffs and count-mismatch records, the
kernel diffs of the first among those of the second in the same order,
and a total no larger. -/
structure CriterionRel (td td' : TestDifferences) : Prop where
  newTests : td.newTests = td'.newTests
  removedTests : td.removedTests = td'.removedTests
  preambleDiff : td.preambleDiff = td'.preambleDiff
  envDiff : td.envDiff = td'.envDiff
  mismatches : countMismatches td.testDiffs = countMismatches td'.testDiffs
  kernelDiffs : List.Sublist (kernelDiffsOf td.testDiffs) (kernelDiffsOf td'.testDiffs)
  total : td.totalNumDiffs ≤ td'.totalNumDiffs

-- ===================================================== stage by stage

variable (U : UnicodeDB) (ud : UnifiedDiff) {c c' : Text} {r1 r2 : TestRun}

/-- One kernel pair under two criteria: the same kernels, and the looser
one keeps the kernel diff the other keeps. -/
def KernelRel (r r' : CompiledKernel × CompiledKernel × Option KernelDiff) : Prop :=
  r.1 = r'.1 ∧ r.2.1 = r'.2.1 ∧ ∀ d, r.2.2 = some d → r'.2.2 = some d

theorem compareKernel_rel (hc : Looser c c') (name : Text) (k : Nat) :
    ExceptRel KernelRel (compareKernel U ud c r1 r2 name k) (compareKernel U ud c' r1 r2 name k) := by
  unfold compareKernel
  refine .bind_same fun k1 => .bind_same fun k2 => .bind_same fun c1 => .bind_same fun c2 =>
    .bind_same fun pd => ?_
  dsimp only
  split <;> split
  · exact .ok ⟨rfl, rfl, fun _ => id⟩
  · next h h' => exact absurd (hc _ _ h) h'
  all_goals exact .ok ⟨rfl, rfl, fun _ h => by cases h⟩

theorem compareTest_rel (hc : Looser c c') (name : Text) (t1 t2 : CompiledTest) :
    ExceptRel (fun p p' => OutcomeRel (p.1, [], p.2) (p'.1, [], p'.2))
      (compareTest U ud c r1 r2 name t1 t2) (compareTest U ud c' r1 r2 name t1 t2) := by
  unfold compareTest
  refine (ExceptRel.mapM fun k _ => compareKernel_rel U ud hc name k).bind fun rs rs' hr => .ok ?_
  have h₁ : rs.map (·.1) = rs'.map (·.1) := map_eq_of_forall₂ (fun _ _ h => h.1) hr
  have h₂ : rs.map (·.2.1) = rs'.map (·.2.1) := map_eq_of_forall₂ (fun _ _ h => h.2.1) hr
  have hk : List.Sublist (rs.filterMap (·.2.2)) (rs'.filterMap (·.2.2)) :=
    filterMap_sublist_of_forall₂ (fun _ _ h => h.2.2) hr
  -- the count-mismatch record reads only the loaded kernels
  dsimp only
  rw [h₁, h₂]
  refine ⟨?_, ?_, rfl, hk.length_le⟩ <;>
    simp only [countMismatches_append, kernelDiffsOf_append, countMismatches_kept,
      kernelDiffsOf_kept, countMismatches_mismatch, kernelDiffsOf_mismatch, List.nil_append,
      List.append_nil]
  exact hk

theorem testOutcome_rel (hc : Looser c c') (e : Text × CompiledTest) :
    ExceptRel OutcomeRel (testOutcome U ud c r1 r2 e) (testOutcome U ud c' r1 r2 e) := by
  unfold testOutcome
  split
  · exact .refl (fun _ => ⟨rfl, .refl _, rfl, le_rfl⟩) _
  · exact (compareTest_rel U ud hc _ _ _).map fun _ _ h => h

variable (r1 r2) in
/-- Under a looser criterion the diff raises the same exception, or both
return: with the same new and removed tests, preamble and env diffs and
count-mismatch records, the kernel diffs of the stricter criterion among
those of the looser one in the same order, and a total no larger. -/
theorem testDifferences_criterion (hc : Looser c c') :
    ExceptRel CriterionRel (testDifferences U ud r1 r2 c) (testDifferences U ud r1 r2 c') := by
  unfold testDifferences
  refine .bind_same fun e1 => .bind_same fun e2 => ?_
  rw [diffTests_eq, diffTests_eq]
  refine ((ExceptRel.mapM fun e _ => testOutcome_rel U ud hc e).map
    fun _ _ h => joinOutcomes_rel h).bind fun ⟨ds, rm, n⟩ ⟨ds', rm', n'⟩ h => .bind_same fun nt => ?_
  exact .ok ⟨rfl, h.removed, rfl, rfl, h.mismatches, h.kernelDiffs, h.total⟩

-- ===================================================== a run against itself

section self

variable {crit name : Text} {r : TestRun}

theorem filterMap_eq_nil_of_forall₂ {α β γ : Type} {R : α → β → Prop} {f : β → Option γ}
    (hf : ∀ a b, R a b → f b = none) {l : List α} {l' : List β} (h : List.Forall₂ R l l') :
    l'.filterMap f = [] := by
  induction h with
  | nil => rfl
  | cons hab _ ih => simp only [List.filterMap_cons, hf _ _ hab, ih]

/-- A kernel pair of a run compared with itself differs in neither code nor
PTX, so only `all` keeps it. -/
theorem compareKernel_self (hc : crit ≠ "all".toList) {k : Nat}
    {res : CompiledKernel × CompiledKernel × Option KernelDiff}
    (h : compareKernel U ud crit r r name k = .ok res) : res.2.2 = none := by
  obtain ⟨k1, k2, kd⟩ := res
  obtain ⟨g1, g2, c1, c2, pd, hc1, hc2, hpd, rfl⟩ := (compareKernel_eq_ok U ud).1 h
  rw [g1] at g2; cases g2
  rw [hc1] at hc2; cases hc2
  have hp : ptxDiffers pd = false := by
    rcases (ptxDiffOf_eq_ok U ud).1 hpd with ⟨p1, p2, s1, s2, e1, e2, hs1, hs2, rfl⟩ | ⟨-, rfl⟩
    · rw [e1] at e2; cases e2
      rw [hs1] at hs2; cases hs2
      simp [ptxDiffers, ud.run_isEmpty]
    · rfl
  simp only [includeKernel_eq, ud.run_isEmpty, hp, decide_True, Bool.not_true, Bool.and_false,
    Bool.or_false, decide_eq_true_eq, hc, if_false]

theorem compareTest_self (hc : crit ≠ "all".toList) {t : CompiledTest} {ds : List TestDiff}
    {n : Nat} (h : compareTest U ud crit r r name t t = .ok (ds, n)) : ds = [] ∧ n = 0 := by
  obtain ⟨rs, t1', t2', hrs, -, -, rfl, rfl⟩ := compareTest_diffs U ud h
  have hnone : rs.filterMap (·.2.2) = [] :=
    filterMap_eq_nil_of_forall₂ (fun _ _ h => compareKernel_self U ud hc h) hrs
  simp [hnone]

theorem joinOutcomes_self (hc : crit ≠ "all".toList) :
    ∀ {es : List (Text × CompiledTest)} {outs : List (List TestDiff × List CompiledTest × Nat)},
      (∀ e ∈ es, r.kernelMap.get? e.1 = some e.2) →
      List.Forall₂ (fun e o => testOutcome U ud crit r r e = .ok o) es outs →
      joinOutcomes outs = ([], [], 0)
  | _, _, _, .nil => rfl
  | e :: es, o :: outs, hes, .cons he ho => by
      unfold testOutcome at he
      rw [hes e (.head _)] at he
      obtain ⟨⟨ds, n⟩, hc', rfl⟩ := except_map_eq_ok.mp he
      obtain ⟨rfl, rfl⟩ := compareTest_self U ud hc hc'
      have ih := joinOutcomes_self hc (fun e' h => hes e' (.tail _ h)) ho
      simp only [joinOutcomes, Prod.mk.injEq] at ih ⊢
      simp [ih]

variable (r) in
/-- Diffed against itself under any criterion but `all`, a run, whenever the
diff returns, shows no test difference, no new or removed test, no kernel
diff and no preamble difference, so `diff` exits with 0. -/
theorem testDifferences_self (hc : crit ≠ "all".toList) {td : TestDifferences}
    (h : testDifferences U ud r r crit = .ok td) :
    td.testDiffs = [] ∧ td.newTests = [] ∧ td.removedTests = [] ∧ td.totalNumDiffs = 0 ∧
      td.preambleDiff = [] ∧ diffExitCode td = 0 := by
  obtain ⟨-, -, -, -, hd, hn, hp, -⟩ := (testDifferences_eq_ok U ud).1 h
  rw [diffTests_eq] at hd
  obtain ⟨outs, ho, hj⟩ := except_map_eq_ok.mp hd
  rw [joinOutcomes_self U ud hc (fun e he => Dict.mem_entries_iff.1 he)
    (except_mapM_eq_ok.mp ho), Prod.mk.injEq, Prod.mk.injEq] at hj
  obtain ⟨hdiffs, hrem, htot⟩ := hj
  have hnew : (r.kernelMap.entries.filter fun e => !r.kernelMap.contains e.1) = [] :=
    List.filter_eq_nil_iff.2 fun e he => by
      simp [Dict.contains_iff, Dict.keys, List.mem_map_of_mem Prod.fst he]
  rw [newTestsOf_eq, hnew] at hn
  simp only [List.mapM_nil, except_pure, Except.ok.injEq] at hn
  have hpre : td.preambleDiff = [] := hp.trans ((ud.joinLines_run_eq_nil_iff _ _ _ _).2 rfl)
  exact ⟨hdiffs.symm, hn.symm, hrem.symm, htot.symm, hpre, by simp [diffExitCode, ← hdiffs, hpre]⟩

/-- A run with two kernels diffed against itself under the default
criterion. -/
theorem testDifferences_self_on_sample :
    let git : GitRev := ⟨[], none, [], [], [], [], [], []⟩
    let r : TestRun := ⟨⟨"a".toList, [], some [("k.cu".toList, "x\n".toList),
        ("m.cu".toList, "y\n".toList)], []⟩, git, "a".toList, [], .googletest, 0, some [],
      some [], none, ⟨[("t".toList, ⟨"t".toList, [{ filename := "k.cu".toList },
        { filename := "m.cu".toList }], true, none⟩)], List.nodup_singleton _⟩, [], 0⟩
    ∃ td, "mismatched_cuda_or_ptx".toList ≠ "all".toList ∧
      testDifferences UnicodeDB.asciiOnly UnifiedDiff.wholeFile r r
        "mismatched_cuda_or_ptx".toList = .ok td ∧
      td.testDiffs = [] ∧ td.newTests = [] ∧ td.removedTests = [] ∧ td.totalNumDiffs = 0 ∧
        td.preambleDiff = [] ∧ diffExitCode td = 0 := by
  intro git r
  have hc : "mismatched_cuda_or_ptx".toList ≠ "all".toList := by decide
  obtain ⟨td, h⟩ := except_eq_ok_of_isOk (by decide : (testDifferences UnicodeDB.asciiOnly
    UnifiedDiff.wholeFile r r "mismatched_cuda_or_ptx".toList).isOk = true)
  exact ⟨td, hc, h, testDifferences_self _ _ r hc h⟩

end self

/-- Two runs of one test whose first kernel differs and whose second run
lacks the second kernel, diffed without PTX under `mismatched_ptx` and
under `mismatched_cuda_or_ptx`. -/
theorem testDifferences_criterion_on_sample :
    let git : GitRev := ⟨[], none, [], [], [], [], [], []⟩
    let run : Text → List (Text × Text) → List CompiledKernel → TestRun := fun dir cuda ks =>
      ⟨⟨dir, [], some cuda, []⟩, git, dir, [], .googletest, 0, some [], some [], none,
        ⟨[("t".toList, ⟨"t".toList, ks, true, none⟩)], List.nodup_singleton _⟩, [], 0⟩
    let r1 := run "a".toList [("k.cu".toList, "x\n".toList), ("m.cu".toList, "y\n".toList)]
      [{ filename := "k.cu".toList }, { filename := "m.cu".toList }]
    let r2 := run "b".toList [("k.cu".toList, "z\n".toList)] [{ filename := "k.cu".toList }]
    Looser "mismatched_ptx".toList "mismatched_cuda_or_ptx".toList ∧
      ExceptRel CriterionRel
        (testDifferences UnicodeDB.asciiOnly UnifiedDiff.wholeFile r1 r2 "mismatched_ptx".toList)
        (testDifferences UnicodeDB.asciiOnly UnifiedDiff.wholeFile r1 r2
          "mismatched_cuda_or_ptx".toList) := by
  intro git run r1 r2
  exact ⟨looser_ptx_cuda, testDifferences_criterion _ _ r1 r2 looser_ptx_cuda⟩

end CodeDiff
