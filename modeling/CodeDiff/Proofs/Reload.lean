/-
`parse_dir` and the kernels it stores, read again by the diff.

# One kernel

`get_kernel` looks up its kernel, reads `cuda/<filename>` and writes three
fields of the kernel object: the code, recomputed from the file alone; the
index type, kept when set and otherwise searched in the file; the PTX,
read from `ptx/` and kept when there is no such file. None of the three
reads the code, and the other two return what they already hold, so
loading a loaded kernel gives it back (`getKernel_reload`).

# The loops

`parse_dir` calls `get_kernel` on every kernel of every test, and the map
sees each returned kernel in place (`setKernel`). `Reloads` says what every
run of the loop keeps: the run is the created one but for its kernels, the
tests keep their keys, fields and kernel counts, and `get_kernel` returns
on it what it returns on the created run. A step only ever stores what
`get_kernel` returns on the created run, so it keeps `Reloads`, and a
kernel once loaded stays loaded (`LoadedAt`). Over both loops every
kernel is loaded; hence the run `parse_dir` writes holds each test as
`loadTest` loads it from the created run, and loading it again changes
nothing (`parseDir_loaded`).
-/
import CodeDiff.Diff

namespace CodeDiff

variable (U : UnicodeDB)

-- ===================================================== one kernel

/-- The kernel a run holds at a position. -/
def TestRun.kernelAt (r : TestRun) (testName : Text) (kernelNumber : Nat) : Option CompiledKernel :=
  (r.kernelMap.get? testName).bind fun t => t.kernels.get? kernelNumber

/-- The PTX of a loaded kernel is what loading gives again. -/
theorem kernelPtx_loaded (d : RunDir) (kern : CompiledKernel) (c i : Option Text) :
    d.kernelPtx { kern with code := c, indexType := i, ptx := d.kernelPtx kern } = d.kernelPtx kern := by
  simp only [RunDir.kernelPtx]
  cases d.ptxFile (splitextRoot kern.filename ++ ".ptx".toList) <;> rfl

/-- What a kernel that loads was loaded from. -/
theorem getKernel_eq_ok {r : TestRun} {name : Text} {k : Nat} {sp : Bool} {kern : CompiledKernel}
    (h : getKernel U r name k sp = .ok kern) :
    ∃ t kern0 f c, r.kernelMap.get? name = some t ∧ t.kernels.get? k = some kern0 ∧
      r.directory.cudaFile kern0.filename = .ok f ∧
      kernelCode U r.preambleSizeLines sp (readlines f) = .ok c ∧
      kern = { kern0 with
        code := some c
        indexType := kern0.indexType.orElse fun _ => (readlines f).findSome? searchIndexTypedef
        ptx := r.directory.kernelPtx kern0 } := by
  unfold getKernel at h
  simp only [except_bind_eq_ok, orRaise_eq_ok] at h
  obtain ⟨t, ht, kern0, hk, f, hf, c, hc, h⟩ := h
  cases h
  exact ⟨t, kern0, f, c, ht, hk, hf, hc, rfl⟩

/-- A kernel `get_kernel` returned loads to itself from any run that holds
it at the same position, in the same directory and with the same preamble
length. -/
theorem getKernel_reload {r r' : TestRun} {name : Text} {k : Nat} {sp : Bool}
    {kern : CompiledKernel} (h : getKernel U r name k sp = .ok kern)
    (hd : r'.directory = r.directory) (hp : r'.preambleSizeLines = r.preambleSizeLines)
    (hk : r'.kernelAt name k = some kern) : getKernel U r' name k sp = .ok kern := by
  obtain ⟨t, kern0, f, c, -, -, hf, hc, rfl⟩ := getKernel_eq_ok U h
  obtain ⟨t', ht', hk'⟩ := Option.bind_eq_some.1 hk
  have hi : ∀ o : Option Text, ∀ g : Unit → Option Text, (o.orElse g).orElse g = o.orElse g := by
    intro o g
    cases o with
    | some _ => rfl
    | none => cases h : g () <;> simp only [Option.orElse, h]
  unfold getKernel
  simp only [ht', hk', orRaise_some, except_ok_bind, hd, hp, hf, hc, hi, kernelPtx_loaded]
  rfl

/-- `get_kernel` reads of its run only the kernel at its position (or which
lookup fails), the directory and the preamble length. -/
theorem getKernel_congr_at {r r' : TestRun} {name : Text} {k : Nat}
    (hd : r'.directory = r.directory) (hp : r'.preambleSizeLines = r.preambleSizeLines)
    (hk : (r'.kernelMap.get? name).map (·.kernels.get? k) = (r.kernelMap.get? name).map (·.kernels.get? k))
    (sp : Bool) : getKernel U r' name k sp = getKernel U r name k sp := by
  unfold getKernel
  rw [hd, hp]
  cases h' : r'.kernelMap.get? name <;> cases h : r.kernelMap.get? name <;>
    simp only [h, h', Option.map_none', Option.map_some', reduceCtorEq, Option.some.injEq] at hk
  · rfl
  · simp only [orRaise_some, except_ok_bind, hk]

-- ===================================================== one step

theorem get?_setKernel (r : TestRun) (name : Text) (k : Nat) (kern : CompiledKernel) (name' : Text) :
    (setKernel r name k kern).kernelMap.get? name' = if name = name' then
      (r.kernelMap.get? name).map fun t => { t with kernels := t.kernels.set k kern }
    else r.kernelMap.get? name' := by
  unfold setKernel
  split
  · next t h => simp [Dict.get?_set, h]
  · next h =>
      split
      · next hn => rw [← hn, h]; rfl
      · rfl

theorem setKernel_frame (r : TestRun) (name : Text) (k : Nat) (kern : CompiledKernel) :
    { setKernel r name k kern with kernelMap := r.kernelMap } = r := by
  unfold setKernel
  split <;> rfl

theorem keys_setKernel (r : TestRun) (name : Text) (k : Nat) (kern : CompiledKernel) :
    (setKernel r name k kern).kernelMap.keys = r.kernelMap.keys := by
  unfold setKernel
  split
  · next h => rw [Dict.keys_set, if_pos (Dict.get?_isSome.1 (by rw [h]; rfl))]
  · rfl

theorem kernelAt_setKernel (r : TestRun) (name : Text) (k : Nat) (kern : CompiledKernel)
    (name' : Text) (k' : Nat) :
    (setKernel r name k kern).kernelAt name' k' = if name = name' ∧ k = k' then
      (r.kernelAt name k).map fun _ => kern
    else r.kernelAt name' k' := by
  unfold TestRun.kernelAt
  rw [get?_setKernel]
  by_cases hn : name = name'
  · subst hn
    cases r.kernelMap.get? name with
    | none => simp
    | some t =>
        by_cases hk : k = k'
        · subst hk
          rcases Nat.lt_or_ge k t.kernels.length with hl | hl
          · simp [List.get?_eq_getElem?, hl, List.getElem?_eq_getElem hl]
          · simp [List.get?_eq_getElem?, Nat.not_lt.2 hl, List.getElem?_eq_none_iff.2 hl, hl]
        · simp [List.get?_eq_getElem?, List.getElem?_set_ne hk, hk]
  · simp [hn]

/-- A step writes one kernel in place: the other positions, which lookups
fail and the number of kernels of each test stay as they were. -/
theorem get?_map_setKernel (r : TestRun) (name : Text) (k : Nat) (kern : CompiledKernel)
    (name' : Text) (k' : Nat) (hk : name = name' → k ≠ k') :
    ((setKernel r name k kern).kernelMap.get? name').map (·.kernels.get? k') =
      (r.kernelMap.get? name').map (·.kernels.get? k') := by
  rw [get?_setKernel]
  split
  · next hn =>
      subst hn
      rw [Option.map_map]
      congr 1
      funext t
      simp [List.get?_eq_getElem?, List.getElem?_set_ne (hk rfl)]
  · rfl

/-- The shape of a test that loading keeps: every field but the kernels,
and how many kernels it has. -/
def CompiledTest.shape (t : CompiledTest) : CompiledTest × Nat :=
  ({ t with kernels := [] }, t.kernels.length)

theorem shape_set (t : CompiledTest) (k : Nat) (kern : CompiledKernel) :
    CompiledTest.shape { t with kernels := t.kernels.set k kern } = t.shape := by
  simp [CompiledTest.shape]

/-- Tests of one shape differ in their kernels only. -/
theorem with_kernels_eq_of_shape {t t' : CompiledTest} (h : t.shape = t'.shape)
    (ks : List CompiledKernel) : { t with kernels := ks } = { t' with kernels := ks } := by
  obtain ⟨n, k, p, b⟩ := t
  obtain ⟨n', k', p', b'⟩ := t'
  simp only [CompiledTest.shape, Prod.mk.injEq, CompiledTest.mk.injEq] at h
  obtain ⟨⟨rfl, -, rfl, rfl⟩, -⟩ := h
  rfl

-- ===================================================== the invariant

variable {r₀ : TestRun}

/-- What every run of `parse_dir`'s loops keeps of the created run `r₀`. -/
structure Reloads (r₀ r : TestRun) : Prop where
  frame : { r with kernelMap := r₀.kernelMap } = r₀
  keys : r.kernelMap.keys = r₀.kernelMap.keys
  shape : ∀ name, (r.kernelMap.get? name).map CompiledTest.shape = (r₀.kernelMap.get? name).map CompiledTest.shape
  reload : ∀ name k, getKernel U r name k true = getKernel U r₀ name k true

theorem reloads_refl (r₀ : TestRun) : Reloads U r₀ r₀ :=
  ⟨rfl, rfl, fun _ => rfl, fun _ _ => rfl⟩

theorem Reloads.directory {r : TestRun} (h : Reloads U r₀ r) : r.directory = r₀.directory := by
  rw [← h.frame]

theorem Reloads.preambleSizeLines {r : TestRun} (h : Reloads U r₀ r) :
    r.preambleSizeLines = r₀.preambleSizeLines := by
  rw [← h.frame]

/-- Storing what `get_kernel` returns on the created run keeps `Reloads`. -/
theorem Reloads.set {r : TestRun} {name : Text} {k : Nat} {kern : CompiledKernel}
    (h : Reloads U r₀ r) (hg : getKernel U r₀ name k true = .ok kern)
    (hat : (r.kernelAt name k).isSome) : Reloads U r₀ (setKernel r name k kern) := by
  have hf := setKernel_frame r name k kern
  have hd : (setKernel r name k kern).directory = r.directory := (congrArg TestRun.directory hf :)
  have hp : (setKernel r name k kern).preambleSizeLines = r.preambleSizeLines :=
    (congrArg TestRun.preambleSizeLines hf :)
  refine ⟨?_, (keys_setKernel r name k kern).trans h.keys, fun name' => ?_, fun name' k' => ?_⟩
  · exact (congrArg (fun x : TestRun => { x with kernelMap := r₀.kernelMap }) hf).trans h.frame
  · rw [get?_setKernel]
    split
    · next hn =>
        subst hn
        rw [Option.map_map, ← h.shape]
        congr 1
        funext t
        exact shape_set t k kern
    · exact h.shape name'
  · by_cases hs : name = name' ∧ k = k'
    · obtain ⟨rfl, rfl⟩ := hs
      rw [hg]
      refine getKernel_reload U hg (hd.trans h.directory) (hp.trans h.preambleSizeLines) ?_
      rw [kernelAt_setKernel, if_pos ⟨rfl, rfl⟩]
      obtain ⟨_, he⟩ := Option.isSome_iff_exists.1 hat
      rw [he]
      rfl
    · rw [← h.reload]
      exact getKernel_congr_at U hd hp (get?_map_setKernel r name k kern name' k' fun hn hk => hs ⟨hn, hk⟩) true

/-- A position that holds what `get_kernel` returns there on the created
run. -/
def LoadedAt (r₀ r : TestRun) (name : Text) (k : Nat) : Prop :=
  ∃ kern, getKernel U r₀ name k true = .ok kern ∧ r.kernelAt name k = some kern

/-- A step keeps every loaded position loaded and loads its own. -/
theorem Reloads.step {r r' : TestRun} {name : Text} {k : Nat} (h : Reloads U r₀ r)
    (hl : loadKernel U r name k = .ok r') :
    Reloads U r₀ r' ∧ (∀ name' k', LoadedAt U r₀ r name' k' → LoadedAt U r₀ r' name' k') ∧
      LoadedAt U r₀ r' name k := by
  obtain ⟨kern, hg, hr⟩ := except_bind_eq_ok.1 hl
  cases hr
  obtain ⟨t, kern0, -, -, ht, hk, -⟩ := getKernel_eq_ok U hg
  have hat : r.kernelAt name k = some kern0 := by simp only [TestRun.kernelAt, ht, Option.some_bind, hk]
  rw [h.reload] at hg
  refine ⟨h.set U hg (by rw [hat]; rfl), fun name' k' ⟨kern', hg', hk'⟩ => ⟨kern', hg', ?_⟩,
    ⟨kern, hg, by rw [kernelAt_setKernel, if_pos ⟨rfl, rfl⟩, hat]; rfl⟩⟩
  rw [kernelAt_setKernel]
  split
  · next hs =>
      obtain ⟨rfl, rfl⟩ := hs
      rw [hk']
      exact congrArg some (Except.ok.inj (hg.symm.trans hg'))
  · exact hk'

/-- The inner loop over one test's kernel numbers. -/
theorem foldlM_loadKernel {name : Text} : ∀ {ks : List Nat} {r r' : TestRun}, Reloads U r₀ r →
    ks.foldlM (fun r i => loadKernel U r name i) r = .ok r' →
    Reloads U r₀ r' ∧ (∀ name' k', LoadedAt U r₀ r name' k' → LoadedAt U r₀ r' name' k') ∧
      ∀ k ∈ ks, LoadedAt U r₀ r' name k
  | [], _, _, h, e => by
      cases e
      exact ⟨h, fun _ _ => id, by simp⟩
  | k :: ks, _, _, h, e => by
      rw [List.foldlM_cons] at e
      obtain ⟨r₁, h₁, e⟩ := except_bind_eq_ok.1 e
      obtain ⟨hr₁, hkeep₁, hk₁⟩ := h.step U h₁
      obtain ⟨hr, hkeep, hks⟩ := foldlM_loadKernel hr₁ e
      refine ⟨hr, fun n k' hl => hkeep n k' (hkeep₁ n k' hl), ?_⟩
      rintro k' (_ | ⟨_, hk'⟩)
      · exact hkeep _ _ hk₁
      · exact hks k' hk'

/-- The outer loop over the tests. -/
theorem foldlM_loadTests : ∀ {es : List (Text × CompiledTest)} {r r' : TestRun}, Reloads U r₀ r →
    es.foldlM (fun tr (testName, compiledKernel) =>
      (List.range compiledKernel.kernels.length).foldlM
        (fun tr kernelNumber => loadKernel U tr testName kernelNumber) tr) r = .ok r' →
    Reloads U r₀ r' ∧ (∀ name' k', LoadedAt U r₀ r name' k' → LoadedAt U r₀ r' name' k') ∧
      ∀ e ∈ es, ∀ k < e.2.kernels.length, LoadedAt U r₀ r' e.1 k
  | [], _, _, h, e => by
      cases e
      exact ⟨h, fun _ _ => id, by simp⟩
  | (name, t) :: es, _, _, h, e => by
      rw [List.foldlM_cons] at e
      obtain ⟨r₁, h₁, e⟩ := except_bind_eq_ok.1 e
      obtain ⟨hr₁, hkeep₁, hk₁⟩ := foldlM_loadKernel U h h₁
      obtain ⟨hr, hkeep, hes⟩ := foldlM_loadTests hr₁ e
      refine ⟨hr, fun n k' hl => hkeep n k' (hkeep₁ n k' hl), ?_⟩
      rintro e (_ | ⟨_, he⟩) k hk
      · exact hkeep _ _ (hk₁ k (List.mem_range.2 hk))
      · exact hes e he k hk

-- ===================================================== parse_dir

/-- A test loads to `test` when it has the shape of `test` and each kernel
of `test` is what `get_kernel` returns at its position. -/
theorem loadTest_eq_ok_of_loaded {r : TestRun} {name : Text} {test₀ test : CompiledTest}
    (hs : test₀.shape = test.shape)
    (hk : ∀ k kern, test.kernels.get? k = some kern → getKernel U r name k true = .ok kern) :
    loadTest U r name test₀ = .ok test := by
  have hn : test₀.kernels.length = test.kernels.length := congrArg Prod.snd hs
  have hm : (List.range test.kernels.length).mapM (fun i => getKernel U r name i true) =
      .ok test.kernels := by
    rw [except_mapM_eq_ok, List.forall₂_iff_get]
    refine ⟨List.length_range _, fun i h₁ h₂ => ?_⟩
    rw [List.get_eq_getElem, List.getElem_range]
    exact hk i _ (by simp [List.get?_eq_getElem?])
  unfold loadTest
  rw [hn, hm]
  exact congrArg Except.ok (with_kernels_eq_of_shape hs test.kernels)

/-- `parse_dir` returns the created run with every kernel loaded. -/
theorem parseDir_reloads {git : GitTool} {d : RunDir} {r : TestRun} (h : parseDir U git d = .ok r) :
    ∃ r₀, TestRun.create U git d = .ok r₀ ∧ Reloads U r₀ r ∧
      ∀ e ∈ r₀.kernelMap.entries, ∀ k < e.2.kernels.length, LoadedAt U r₀ r e.1 k := by
  obtain ⟨r₀, hc, hf⟩ := except_bind_eq_ok.1 h
  obtain ⟨hr, -, hl⟩ := foldlM_loadTests U (reloads_refl U r₀) hf
  exact ⟨r₀, hc, hr, hl⟩

/-- The run `parse_dir` writes is the created run with every test loaded as
`loadTest` loads it, under the same keys in the same order; loading any of
its tests again gives the test back. -/
theorem parseDir_loaded {git : GitTool} {d : RunDir} {r : TestRun}
    (h : parseDir U git d = .ok r) :
    ∃ r₀, TestRun.create U git d = .ok r₀ ∧ { r with kernelMap := r₀.kernelMap } = r₀ ∧
      r.kernelMap.keys = r₀.kernelMap.keys ∧
      ∀ name test, r.kernelMap.get? name = some test → ∃ test₀, r₀.kernelMap.get? name = some test₀ ∧
        loadTest U r₀ name test₀ = .ok test ∧ loadTest U r name test = .ok test := by
  obtain ⟨r₀, hc, hr, hl⟩ := parseDir_reloads U h
  refine ⟨r₀, hc, hr.frame, hr.keys, fun name test ht => ?_⟩
  have hs := hr.shape name
  rw [ht] at hs
  obtain ⟨test₀, ht₀, hs₀⟩ := Option.map_eq_some'.1 hs.symm
  have hloaded : ∀ k kern, test.kernels.get? k = some kern → getKernel U r₀ name k true = .ok kern := by
    intro k kern hk
    have hn : test₀.kernels.length = test.kernels.length := congrArg Prod.snd hs₀
    have hlt : k < test₀.kernels.length := hn ▸ (List.get?_eq_some.1 hk).1
    obtain ⟨kern', hg, hat⟩ := hl (name, test₀) (Dict.mem_entries_iff.2 ht₀) k hlt
    simp only [TestRun.kernelAt, ht, hk, Option.some_bind, Option.some.injEq] at hat
    rw [hg, hat]
  refine ⟨test₀, ht₀, loadTest_eq_ok_of_loaded U hs₀ hloaded,
    loadTest_eq_ok_of_loaded U rfl fun k kern hk => ?_⟩
  rw [hr.reload]
  exact hloaded k kern hk

/-- A GoogleTest run of one test with two kernels, the first with PTX. -/
theorem parseDir_loaded_on_sample :
    let d : RunDir := ⟨"r".toList, [("git_hash".toList, "abc\n".toList),
      ("command".toList, "t\n".toList), ("command_type".toList, "gtest\n".toList),
      ("exitcode".toList, "0\n".toList), ("stdout".toList,
        "[ RUN      ] t\nPRINTING: k.cu\nPRINTING: m.cu\n[       OK ] t\n".toList)],
      some [("k.cu".toList, "a\nb\nvoid kernel1()\n".toList),
        ("m.cu".toList, "a\nc\nvoid kernel2()\n".toList)],
      [("k.ptx".toList, ".entry k\n".toList)]⟩
    let git : GitTool := ⟨fun _ => [], fun _ => [], fun _ _ => []⟩
    ∃ r, parseDir UnicodeDB.asciiOnly git d = .ok r ∧
      ∃ r₀, TestRun.create UnicodeDB.asciiOnly git d = .ok r₀ ∧
        { r with kernelMap := r₀.kernelMap } = r₀ ∧ r.kernelMap.keys = r₀.kernelMap.keys ∧
        ∀ name test, r.kernelMap.get? name = some test → ∃ test₀, r₀.kernelMap.get? name = some test₀ ∧
          loadTest UnicodeDB.asciiOnly r₀ name test₀ = .ok test ∧
          loadTest UnicodeDB.asciiOnly r name test = .ok test := by
  intro d git
  obtain ⟨r, h⟩ := except_eq_ok_of_isOk
    (by decide : (parseDir UnicodeDB.asciiOnly git d).isOk = true)
  exact ⟨r, h, parseDir_loaded _ h⟩

end CodeDiff
