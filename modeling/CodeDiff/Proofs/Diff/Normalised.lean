/-
No false positives from what the tool normalises away
(`normalised_variants_compare_equal`): two runs whose kernel files differ
only in the digits of whole-word `nvfuser_<digits>` identifiers, and whose
PTX texts differ only in the components of kernel symbols and in comments,
compare equal under `mismatched_cuda_or_ptx` and `mismatched_ptx`, whenever
the comparison returns.

# The argument

One kernel pair: both kernel files are kept as the same code
(`kernelCode_eq_of_nvVariant`) and both PTX texts are sanitised to the same
lines (`sanitizePtxLines_eq_of_ptxLineVariant`), so `difflib` yields
nothing for either and the pair is not included (`compareKernel_quiet`).
One common test: its kernel counts agree and no pair is included
(`compareTest_quiet`). The runs have the same test names, so every test of
the first run is compared (`testOutcome_quiet`) and none is new or
removed.

# The hypotheses

`NormalisedVariants` gathers them. The PTX texts are the ones `get_kernel`
loads (`RunDir.kernelPtx`), paired line by line as `splitlines()` cuts
them; `PtxLineVariant` says which pairs of lines the sanitiser cannot tell
apart. Outside it the tool does report a difference
(`ptx_variations_outside_normalisation_are_reported`).
-/
import CodeDiff.Proofs.Normalise.Ptx
import CodeDiff.Proofs.Diff.Gate

namespace CodeDiff

variable (U : UnicodeDB) (ud : UnifiedDiff)

-- ===================================================== the hypotheses

/-- `kern₁` and `kern₂` are the `k`-th kernels of test `name` in the two
runs. -/
def KernelPair (r₁ r₂ : TestRun) (name : Text) (k : Nat) (kern₁ kern₂ : CompiledKernel) : Prop :=
  (∃ t₁, r₁.kernelMap.get? name = some t₁ ∧ t₁.kernels.get? k = some kern₁) ∧
    ∃ t₂, r₂.kernelMap.get? name = some t₂ ∧ t₂.kernels.get? k = some kern₂

/-- Two runs that differ only where the tool's normalisation looks away:
the same preamble, test names and kernel counts; kernel files whose lines
pair up as `NvVariant`s; PTX texts whose lines pair up as
`PtxLineVariant`s. -/
structure NormalisedVariants (r₁ r₂ : TestRun) : Prop where
  preamble : r₁.preamble = r₂.preamble
  preambleSizeLines : r₁.preambleSizeLines = r₂.preambleSizeLines
  testnames : ∀ name, name ∈ r₁.kernelMap.keys ↔ name ∈ r₂.kernelMap.keys
  kernelCount : ∀ name t₁ t₂, r₁.kernelMap.get? name = some t₁ →
    r₂.kernelMap.get? name = some t₂ → t₁.kernels.length = t₂.kernels.length
  cuda : ∀ name k kern₁ kern₂ f₁ f₂, KernelPair r₁ r₂ name k kern₁ kern₂ →
    r₁.directory.cudaFile kern₁.filename = .ok f₁ → r₂.directory.cudaFile kern₂.filename = .ok f₂ →
    List.Forall₂ (NvVariant U) (readlines f₁) (readlines f₂)
  ptx : ∀ name k kern₁ kern₂ p₁ p₂, KernelPair r₁ r₂ name k kern₁ kern₂ →
    r₁.directory.kernelPtx kern₁ = some p₁ → r₂.directory.kernelPtx kern₂ = some p₂ →
    List.Forall₂ (PtxLineVariant U) (splitlines p₁) (splitlines p₂)

-- ===================================================== nothing is reported

section quiet

variable {U ud} {r₁ r₂ : TestRun} {crit : Text}

/-- A kernel pair of two such runs is not included. -/
theorem compareKernel_quiet (hv : NormalisedVariants U r₁ r₂)
    (hcrit : crit = "mismatched_cuda_or_ptx".toList ∨ crit = "mismatched_ptx".toList)
    {name : Text} {k : Nat} {k₁ k₂ : CompiledKernel} {kd : Option KernelDiff}
    (h : compareKernel U ud crit r₁ r₂ name k = .ok (k₁, k₂, kd)) : kd = none := by
  obtain ⟨g₁, g₂, c₁, c₂, pd, hc₁, hc₂, hpd, rfl⟩ := (compareKernel_eq_ok U ud).1 h
  obtain ⟨t₁, kern₁, f₁, c₁', ht₁, hk₁, hf₁, hkc₁, hcode₁, hptx₁⟩ := getKernel_eq_ok_code U g₁
  obtain ⟨t₂, kern₂, f₂, c₂', ht₂, hk₂, hf₂, hkc₂, hcode₂, hptx₂⟩ := getKernel_eq_ok_code U g₂
  have hpair : KernelPair r₁ r₂ name k kern₁ kern₂ := ⟨⟨t₁, ht₁, hk₁⟩, t₂, ht₂, hk₂⟩
  -- both kernel files are kept as the same code
  have hcode : c₁ = c₂ := by
    rw [hc₁, Option.some.injEq] at hcode₁
    rw [hc₂, Option.some.injEq] at hcode₂
    rw [hv.preambleSizeLines, kernelCode_eq_of_nvVariant (hv.cuda name k kern₁ kern₂ f₁ f₂ hpair hf₁ hf₂),
      hkc₂, Except.ok.injEq] at hkc₁
    rw [hcode₁, hcode₂, hkc₁]
  -- both PTX texts are sanitised to the same lines
  have hpx : ptxDiffers pd = false := by
    rcases (ptxDiffOf_eq_ok U ud).1 hpd with ⟨p₁, p₂, s₁, s₂, hp₁, hp₂, hs₁, hs₂, rfl⟩ | ⟨-, rfl⟩
    · rw [hptx₁] at hp₁
      rw [hptx₂] at hp₂
      obtain rfl := sanitizePtxLines_eq_of_ptxLineVariant
        (hv.ptx name k kern₁ kern₂ p₁ p₂ hpair hp₁ hp₂) hs₁ hs₂
      simp [ptxDiffers, (ud.run_eq_nil_iff _ _ _ _).2 rfl]
    · rfl
  rw [hcode, (ud.run_eq_nil_iff _ _ _ _).2 rfl, includeKernel_eq]
  rcases hcrit with rfl | rfl <;> simp [hpx]

/-- A test both runs have is compared without a diff. -/
theorem compareTest_quiet (hv : NormalisedVariants U r₁ r₂)
    (hcrit : crit = "mismatched_cuda_or_ptx".toList ∨ crit = "mismatched_ptx".toList)
    {name : Text} {t₁ t₂ : CompiledTest} {ds : List TestDiff} {n : Nat}
    (h₁ : r₁.kernelMap.get? name = some t₁) (h₂ : r₂.kernelMap.get? name = some t₂)
    (h : compareTest U ud crit r₁ r₂ name t₁ t₂ = .ok (ds, n)) : ds = [] ∧ n = 0 := by
  obtain ⟨results, hr, rfl, -, hds⟩ := compareTest_eq_ok U ud h
  have hn : results.filterMap (·.2.2) = [] := by
    clear hds h
    generalize List.range _ = ks at hr
    induction hr with
    | nil => rfl
    | @cons k r _ _ hk _ ih =>
        obtain ⟨k₁, k₂, kd⟩ := r
        rw [List.filterMap_cons, compareKernel_quiet hv hcrit hk]
        exact ih
  rw [hn] at hds ⊢
  exact ⟨hds.2 ⟨hv.kernelCount name t₁ t₂ h₁ h₂, rfl⟩, rfl⟩

/-- Every test of the first run is compared, and reports nothing. -/
theorem testOutcome_quiet (hv : NormalisedVariants U r₁ r₂)
    (hcrit : crit = "mismatched_cuda_or_ptx".toList ∨ crit = "mismatched_ptx".toList)
    {e : Text × CompiledTest} {o : List TestDiff × List CompiledTest × Nat}
    (h₁ : r₁.kernelMap.get? e.1 = some e.2) (h : testOutcome U ud crit r₁ r₂ e = .ok o) :
    o = ([], [], 0) := by
  obtain ⟨t₂, h₂⟩ := Dict.get?_of_mem_keys ((hv.testnames e.1).1 (Dict.get?_isSome.1 (by rw [h₁]; rfl)))
  unfold testOutcome at h
  rw [h₂] at h
  obtain ⟨⟨ds, n⟩, hc, rfl⟩ := except_map_eq_ok.1 h
  obtain ⟨rfl, rfl⟩ := compareTest_quiet hv hcrit h₁ h₂ hc
  rfl

theorem outcomes_quiet (hv : NormalisedVariants U r₁ r₂)
    (hcrit : crit = "mismatched_cuda_or_ptx".toList ∨ crit = "mismatched_ptx".toList)
    {es : List (Text × CompiledTest)} {outs : List (List TestDiff × List CompiledTest × Nat)}
    (ho : List.Forall₂ (fun e o => testOutcome U ud crit r₁ r₂ e = .ok o) es outs)
    (hes : ∀ e ∈ es, r₁.kernelMap.get? e.1 = some e.2) : joinOutcomes outs = ([], [], 0) := by
  induction ho with
  | nil => rfl
  | cons he _ ih =>
      rw [testOutcome_quiet hv hcrit (hes _ (List.mem_cons_self _ _)) he]
      have := ih fun e h => hes e (List.mem_cons_of_mem _ h)
      simp only [joinOutcomes, Prod.mk.injEq] at this ⊢
      simp [this]

end quiet

-- ===================================================== the theorem

section

variable {U ud}

/-- Two runs that differ only where the normalisation looks away compare
equal under `mismatched_cuda_or_ptx` and `mismatched_ptx`. -/
theorem normalised_variants_compare_equal {r₁ r₂ : TestRun} {crit : Text} {td : TestDifferences}
    (hv : NormalisedVariants U r₁ r₂)
    (hcrit : crit = "mismatched_cuda_or_ptx".toList ∨ crit = "mismatched_ptx".toList)
    (h : testDifferences U ud r₁ r₂ crit = .ok td) :
    td.testDiffs = [] ∧ td.newTests = [] ∧ td.removedTests = [] ∧ td.totalNumDiffs = 0 ∧
      td.preambleDiff = [] := by
  obtain ⟨-, -, -, -, hd, hn, hp, -⟩ := (testDifferences_eq_ok U ud).1 h
  rw [diffTests_eq] at hd
  obtain ⟨outs, hmap, hj⟩ := except_map_eq_ok.1 hd
  rw [outcomes_quiet hv hcrit (except_mapM_eq_ok.1 hmap) fun e he => Dict.mem_entries_iff.1 he,
    Prod.mk.injEq, Prod.mk.injEq] at hj
  obtain ⟨h₁, h₂, h₃⟩ := hj
  -- no test of the second run is new
  have hnew : (r₂.kernelMap.entries.filter fun e => !r₁.kernelMap.contains e.1) = [] := by
    refine List.filter_eq_nil_iff.2 fun e he => ?_
    have : e.1 ∈ r₁.kernelMap.keys := (hv.testnames e.1).2 (List.mem_map_of_mem _ he)
    simp [Dict.contains_iff.2 this]
  rw [newTestsOf_eq, hnew, List.mapM_nil, except_pure, Except.ok.injEq] at hn
  rw [hv.preamble, (ud.run_eq_nil_iff _ _ _ _).2 rfl] at hp
  exact ⟨h₁.symm, hn.symm, h₂.symm, h₃.symm, hp⟩

end

theorem normalised_variants_compare_equal_on_sample :
    let git : GitRev := ⟨[], none, [], [], [], [], [], []⟩
    let run : Text → Text → Text → TestRun := fun dir cu ptx =>
      ⟨⟨dir, [], some [("k.cu".toList, cu)], [("k.ptx".toList, ptx)]⟩, git, dir, [], .googletest, 0,
        some [], some [], none,
        ⟨[("t".toList, ⟨"t".toList, [{ filename := "k.cu".toList }], true, none⟩)],
          List.nodup_singleton _⟩, [], 0⟩
    let r₁ := run "a".toList "nvfuser_1\n\x7d\n".toList "_ZN1_1kE // a\n".toList
    let r₂ := run "b".toList "nvfuser_22\n\x7d\n".toList "_ZN2_a2xyE // b\n".toList
    NormalisedVariants UnicodeDB.asciiOnly r₁ r₂ ∧
      ∃ td, testDifferences UnicodeDB.asciiOnly UnifiedDiff.wholeFile r₁ r₂
          "mismatched_ptx".toList = .ok td ∧
        (td.testDiffs = [] ∧ td.newTests = [] ∧ td.removedTests = [] ∧ td.totalNumDiffs = 0 ∧
          td.preambleDiff = []) := by
  intro git run r₁ r₂
  have hget : ∀ {name : Text} {t : CompiledTest}, r₁.kernelMap.get? name = some t →
      t = ⟨"t".toList, [{ filename := "k.cu".toList }], true, none⟩ := by
    intro name t h
    simp only [Dict.get?, Dict.lookup] at h
    split at h
    · exact (Option.some.inj h).symm
    · cases h
  have hpair : ∀ {name k kern₁ kern₂}, KernelPair r₁ r₂ name k kern₁ kern₂ →
      kern₁ = { filename := "k.cu".toList } ∧ kern₂ = { filename := "k.cu".toList } := by
    rintro name (_ | k) kern₁ kern₂ ⟨⟨t₁, h₁, hk₁⟩, t₂, h₂, hk₂⟩
    · obtain rfl := hget h₁
      obtain rfl := hget h₂
      cases hk₁
      cases hk₂
      exact ⟨rfl, rfl⟩
    · obtain rfl := hget h₁
      cases hk₁
  let s₁ : KernelSymbol UnicodeDB.asciiOnly := ⟨"_ZN".toList, "1".toList, "_".toList, "1".toList,
    "k".toList, .inl rfl, ⟨by decide, by decide⟩, by decide, rfl, ⟨by decide, by decide⟩, by decide,
    ⟨'k', rfl, by decide⟩⟩
  let s₂ : KernelSymbol UnicodeDB.asciiOnly := ⟨"_ZN".toList, "2".toList, "_a".toList, "2".toList,
    "xy".toList, .inl rfl, ⟨by decide, by decide⟩, by decide, rfl, ⟨by decide, by decide⟩, by decide,
    ⟨'x', rfl, by decide⟩⟩
  have hv : NormalisedVariants UnicodeDB.asciiOnly r₁ r₂ := by
    refine ⟨rfl, rfl, fun _ => Iff.rfl, fun name t₁ t₂ h₁ h₂ => ?_, ?_, ?_⟩
    · rw [hget h₁, hget h₂]
    · intro name k kern₁ kern₂ f₁ f₂ hp hf₁ hf₂
      obtain ⟨rfl, rfl⟩ := hpair hp
      cases hf₁
      cases hf₂
      show List.Forall₂ _ [[] ++ nvfuserWord ++ "1".toList ++ "\n".toList, "\x7d\n".toList]
        [[] ++ nvfuserWord ++ "22".toList ++ "\n".toList, "\x7d\n".toList]
      exact .cons (.token (by decide) ⟨by decide, by decide⟩ ⟨by decide, by decide⟩ (by decide)
        (by decide) (.refl _)) (.cons (.refl _) .nil)
    · intro name k kern₁ kern₂ p₁ p₂ hp hp₁ hp₂
      obtain ⟨rfl, rfl⟩ := hpair hp
      cases hp₁
      cases hp₂
      show List.Forall₂ _ [[] ++ s₁.text ++ ("E ".toList ++ "// a".toList)]
        [[] ++ s₂.text ++ ("E ".toList ++ "// b".toList)]
      refine .cons (.symbol s₁ s₂ rfl (by decide) (.inr ⟨_, _, rfl, rfl⟩) ?_ ?_) .nil
      · exact fun p hp => (by decide : ∀ p < 13, mangledStart UnicodeDB.asciiOnly
          ([] ++ s₁.text ++ ("E ".toList ++ "// a".toList)) p = true → p ≤ 0) p
          (lt_length_of_mangledStart hp) hp
      · exact fun p hp => (by decide : ∀ p < 15, mangledStart UnicodeDB.asciiOnly
          ([] ++ s₂.text ++ ("E ".toList ++ "// b".toList)) p = true → p ≤ 0) p
          (lt_length_of_mangledStart hp) hp
  obtain ⟨td, h⟩ := except_eq_ok_of_isOk (by decide : (testDifferences UnicodeDB.asciiOnly
    UnifiedDiff.wholeFile r₁ r₂ "mismatched_ptx".toList).isOk = true)
  exact ⟨hv, td, h, normalised_variants_compare_equal hv (.inr rfl) h⟩

/-- Three PTX variations the normalisation does not absorb, each reported
as a kernel diff under `mismatched_ptx`: a kernel name that begins with a
digit (its leading digits are read as part of its length field); a form
feed inside a comment (`splitlines()` breaks the line there, beyond the
comment's reach); and, on lines that differ only in their comments, a
mangled name whose name-length field runs past the identifier (the skip
swallows the `//`). -/
theorem ptx_variations_outside_normalisation_are_reported :
    let git : GitRev := ⟨[], none, [], [], [], [], [], []⟩
    let run : Text → Text → TestRun := fun dir ptx =>
      ⟨⟨dir, [], some [("k.cu".toList, "k\n".toList)], [("k.ptx".toList, ptx)]⟩, git, dir, [],
        .googletest, 0, some [], some [], none,
        ⟨[("t".toList, ⟨"t".toList, [{ filename := "k.cu".toList }], true, none⟩)],
          List.nodup_singleton _⟩, [], 0⟩
    let reported : Text → Text → Except PyError Nat := fun p₁ p₂ =>
      (testDifferences UnicodeDB.asciiOnly UnifiedDiff.wholeFile (run "a".toList p₁)
        (run "b".toList p₂) "mismatched_ptx".toList).map TestDifferences.totalNumDiffs
    reported "_ZN1_22dE\n".toList "_ZN1_2xdE\n".toList = .ok 1 ∧
      reported "a // x\x0cy\n".toList "a // x\n".toList = .ok 1 ∧
      reported "x _ZN1_5ab // c\n".toList "x _ZN1_5ab // d\n".toList = .ok 1 := by
  decide

end CodeDiff
