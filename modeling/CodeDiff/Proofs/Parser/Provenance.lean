/-
Where the kernels of a kernel map come from, for every runner and every
log.

# What a line can do

Every runner's `parse_line` is a chain of a few actions on the parser's
state (`Act`): the shared protocol on the line or on what follows a test
identifier, naming the test in flight, recording pytest's item list,
finalising the test in flight, and Google Benchmark's finalisation, which
stores the test again with its result. `parseLine_act` shows this once per
runner, so the invariant below is proved once per action
(`Act.provenance`) and no `parse_line` is unfolded again.

# The invariant

`Provenance A s`, with `A` the files the log has announced so far, as the
runner reads its lines (`announcedBy`):

- every stored test is under its own name and holds consecutive
  announcements, in order (`Stored`);
- the kernels of the test in flight, then the kernel in flight, are the
  announcements since the last test was stored (a suffix of `A`);
- over the stored tests and the test in flight no announcement is counted
  twice (a sub-permutation of `A`).

Storing a test under a name already present drops the old test's kernels
(`Dict.entries_set_perm`), which is why the count is a sub-permutation and
not a permutation; `finalize` stores the test in flight's finished kernels
without the one in flight.

# Consequence

`runParser_provenance`: whatever the runner and the log, every test the
parser stores is keyed by its own name, which is what `join` asserts of
each entry, and the kernel map holds only kernels the log announced, each
test's as consecutive announcements and none twice.
-/
import CodeDiff.Proofs.Parser.Step
import CodeDiff.Run

namespace CodeDiff

variable (U : UnicodeDB)

-- ===================================================== the announced files

/-- The file a runner takes a cleaned line to announce: pytest reads the
rest of a line after a test identifier, the others the whole line. -/
def announcedBy (ct : CommandType) (l : Text) : Option Text :=
  match ct, pytestTestname U l with
  | .pytest, some (_, rest) => announcement rest
  | _, _ => announcement l

/-- The files a log announces, in order, as the runner `ct` reads them. -/
def announcedFiles (ct : CommandType) (lines : List Text) : List Text :=
  lines.filterMap fun l => announcedBy U ct (cleanLine l)

theorem announcedFiles_cons (ct : CommandType) (l : Text) (ls : List Text) :
    announcedFiles U ct (l :: ls) =
      (announcedBy U ct (cleanLine l)).toList ++ announcedFiles U ct ls := by
  unfold announcedFiles
  rw [List.filterMap_cons]
  cases announcedBy U ct (cleanLine l) <;> rfl

/-- An item list is neither a test identifier nor an announcement. -/
theorem announcedBy_of_itemList {l items : Text} (h : itemList U l = some items) :
    announcedBy U .pytest l = none := by
  unfold itemList at h
  dsimp only at h
  split at h
  · next hp =>
      obtain ⟨r, rfl⟩ := List.isPrefixOf_iff_prefix.1 hp
      rfl
  · cases h

-- ===================================================== what the map holds

/-- The files of a test's kernels, in order. -/
def kernelFiles (t : CompiledTest) : List Text := t.kernels.map (·.filename)

/-- The files of every stored test's kernels, test after test. -/
def storedFiles (m : KernelMap) : List Text := m.entries.flatMap fun e => kernelFiles e.2

/-- Every stored test is under its own name and holds consecutive
announcements of `A`. -/
def Stored (A : List Text) (m : KernelMap) : Prop :=
  ∀ e ∈ m.entries, e.2.name = e.1 ∧ List.IsInfix (kernelFiles e.2) A

/-- Storing a test counts its kernels and drops those of the test it
replaces. -/
theorem storedFiles_set (m : KernelMap) (k : Text) (t : CompiledTest) :
    List.Subperm (storedFiles (m.set k t)) (storedFiles m ++ kernelFiles t) := by
  have hp := (Dict.entries_set_perm m k t).flatMap_right fun e => kernelFiles e.2
  rw [List.flatMap_append, List.flatMap_append] at hp
  simpa only [storedFiles, List.flatMap_cons, List.flatMap_nil, List.append_nil] using
    (List.sublist_append_left _ _).subperm.trans hp.subperm

theorem Stored.set {A : List Text} {m : KernelMap} {t : CompiledTest} (hm : Stored A m)
    (ht : List.IsInfix (kernelFiles t) A) : Stored A (m.set t.name t) := fun e he => by
  rcases Dict.mem_entries_set he with he | rfl
  · exact hm e he
  · exact ⟨rfl, ht⟩

theorem Stored.append {A : List Text} {m : KernelMap} (hm : Stored A m) (B : List Text) :
    Stored (A ++ B) m := fun e he =>
  ⟨(hm e he).1, (hm e he).2.trans (List.prefix_append A B).isInfix⟩

-- ===================================================== the invariant

/-- What the parser's state owes to the files `A` announced so far. -/
structure Provenance (A : List Text) (s : ParserState) : Prop where
  stored : Stored A s.kernelMap
  pending : List.IsSuffix s.files A
  counted : List.Subperm (storedFiles s.kernelMap ++ s.files) A

theorem provenance_init : Provenance [] ({} : ParserState) :=
  ⟨nofun, List.nil_suffix, List.nil_subperm⟩

namespace Provenance

variable {U} {A : List Text} {s s' : ParserState}

theorem of_eq (hp : Provenance A s) (hm : s'.kernelMap = s.kernelMap) (hf : s'.files = s.files) :
    Provenance A s' :=
  ⟨hm ▸ hp.stored, hf ▸ hp.pending, hm ▸ hf ▸ hp.counted⟩

/-- The shared protocol adds the line's announcement to the test in flight. -/
theorem base {l : Text} {b : Bool} (hp : Provenance A s) (h : baseParseLine U l s = .ok (b, s')) :
    Provenance (A ++ (announcement l).toList) s' := by
  obtain ⟨hm, hf, -⟩ := baseParseLine_files U h
  obtain ⟨r, hr⟩ := hp.pending
  refine ⟨hm ▸ hp.stored.append _, ⟨r, by rw [hf, ← hr, List.append_assoc]⟩, ?_⟩
  rw [hm, hf, ← List.append_assoc]
  exact (List.subperm_append_right _).2 hp.counted

/-- Storing a test made of some first kernels of the test in flight. -/
theorem store {t : CompiledTest} (hp : Provenance A s) (hk : List.IsPrefix (kernelFiles t) s.files) :
    Stored A (s.kernelMap.set t.name t) ∧ List.Subperm (storedFiles (s.kernelMap.set t.name t)) A :=
  ⟨hp.stored.set (hk.isInfix.trans hp.pending.isInfix),
    (storedFiles_set _ _ t).trans (((hk.sublist.append_left _).subperm).trans hp.counted)⟩

/-- A state whose test state is reset owes `A` only its map. -/
theorem reset {m : KernelMap} (hs : Stored A m) (hc : List.Subperm (storedFiles m) A) :
    Provenance A { s with kernelMap := m }.resetTestState :=
  ⟨hs, List.nil_suffix, by simpa [ParserState.files] using hc⟩

end Provenance

theorem finalizeTest_spec {p : Bool} {s s' : ParserState} {t : CompiledTest}
    (h : finalizeTest U p s = .ok (t, s')) :
    s.currentTest = some t.name ∧ kernelFiles t = s.files ∧
      s' = { s with kernelMap := s.kernelMap.set t.name t }.resetTestState := by
  rw [finalizeTest_eq] at h
  split at h
  · cases h
  · next name hn =>
      obtain ⟨ks, hks, h⟩ := except_map_eq_ok.mp h
      cases h
      exact ⟨hn, by simp [kernelFiles, ParserState.files, inFlight_filenames U hks], rfl⟩

-- ===================================================== the actions of a line

/-- The actions a `parse_line` is made of, with the files each announces. -/
inductive Act : ParserState → List Text → ParserState → Prop
  | base {l : Text} {s s' : ParserState} {b : Bool} :
      baseParseLine U l s = .ok (b, s') → Act s (announcement l).toList s'
  | name {s : ParserState} (t : Text) : Act s [] { s with currentTest := some t }
  | items {s : ParserState} (n : List Text) : Act s [] { s with allTestNames := some n }
  | close {s s' : ParserState} {p : Bool} {t : CompiledTest} :
      finalizeTest U p s = .ok (t, s') → Act s [] s'
  | bench {s s' : ParserState} {t : CompiledTest} (br : BenchmarkResult) :
      finalizeTest U true s = .ok (t, s') →
        Act s [] { s' with kernelMap := s'.kernelMap.set t.name { t with benchmarkResult := br } }
  | stay {s : ParserState} : Act s [] s
  | seq {s s₁ s₂ : ParserState} {A B : List Text} : Act s A s₁ → Act s₁ B s₂ → Act s (A ++ B) s₂

variable {U}

theorem Act.then {s s₁ s₂ : ParserState} {A : List Text} (a : Act U s A s₁) (b : Act U s₁ [] s₂) :
    Act U s A s₂ := by
  simpa only [List.append_nil] using a.seq b

/-- Every action keeps the invariant, extended by what it announces. -/
theorem Act.provenance {s s' : ParserState} {B : List Text} (a : Act U s B s') :
    ∀ {A : List Text}, Provenance A s → Provenance (A ++ B) s' := by
  induction a with
  | base h => exact fun hp => hp.base h
  | name t => exact fun hp => by rw [List.append_nil]; exact hp.of_eq rfl rfl
  | items n => exact fun hp => by rw [List.append_nil]; exact hp.of_eq rfl rfl
  | close h =>
      intro A hp
      obtain ⟨-, hk, rfl⟩ := finalizeTest_spec U h
      obtain ⟨hs, hc⟩ := hp.store ⟨[], by rw [hk, List.append_nil]⟩
      simpa only [List.append_nil] using Provenance.reset hs hc
  | @bench s s₁ t br h =>
      intro A hp
      obtain ⟨-, hk, rfl⟩ := finalizeTest_spec U h
      obtain ⟨hs, hc⟩ := hp.store (t := { t with benchmarkResult := br })
        ⟨[], by rw [List.append_nil]; exact hk⟩
      rw [List.append_nil]
      show Provenance A { s with kernelMap := (s.kernelMap.set t.name t).set t.name _ }.resetTestState
      rw [Dict.set_set]
      exact Provenance.reset hs hc
  | stay => exact fun hp => by rwa [List.append_nil]
  | seq _ _ ih₁ ih₂ => exact fun hp => List.append_assoc .. ▸ ih₂ (ih₁ hp)

-- ===================================================== each runner's line

variable {l : Text} {s s' : ParserState} {b : Bool}

theorem gtestParseLine_act (h : gtestParseLine U l s = .ok (b, s')) :
    Act U s (announcement l).toList s' := by
  obtain ⟨⟨c, s₁⟩, h₁, h⟩ := except_bind_eq_ok.mp h
  have a₁ := Act.base h₁
  dsimp only at h
  repeat' split at h
  all_goals simp only [except_pure, except_ok_bind] at h
  all_goals first
    | (cases h; exact a₁)
    | (cases h; exact a₁.then (.name _))
    | (obtain ⟨_, h₂, h⟩ := except_bind_eq_ok.mp h; cases h; exact a₁.then (.close h₂))

theorem gbenchParseLine_act (h : gbenchParseLine U l s = .ok (b, s')) :
    Act U s (announcement l).toList s' := by
  obtain ⟨⟨c, s₁⟩, h₁, h⟩ := except_bind_eq_ok.mp h
  have a₁ := Act.base h₁
  dsimp only at h
  split at h
  · cases h
    exact a₁
  · split at h
    · cases h
      exact a₁
    · next f _ =>
        -- a result line names the test, finalises it and stores it again
        simp only [except_pure, except_ok_bind] at h
        obtain ⟨⟨t, s₂⟩, h₂, h⟩ := except_bind_eq_ok.mp h
        cases h
        rw [Option.some.inj (finalizeTest_spec U h₂).1]
        exact (a₁.then (.name _)).then (.bench _ h₂)

theorem pytestParseLine_act (h : pytestParseLine U l s = .ok (b, s')) :
    Act U s (announcedBy U .pytest l).toList s' := by
  unfold pytestParseLine at h
  split at h
  · next items hi =>
      cases h
      have : itemList U l = some items := by split at hi <;> simp_all
      rw [announcedBy_of_itemList U this]
      exact .items _
  · split at h
    next s₁ l₁ heq =>
    -- a test identifier names the test, and its rest is the line read on
    have ⟨a₁, hl⟩ : Act U s [] s₁ ∧ announcedBy U .pytest l = announcement l₁ := by
      split at heq <;> cases heq
      · next ht => exact ⟨.name _, by simp [announcedBy, ht]⟩
      · next ht => exact ⟨.stay, by simp [announcedBy, ht]⟩
    rw [hl]
    dsimp only at h
    repeat' split at h
    -- a verdict finalises the test in flight before the shared protocol
    all_goals
      obtain ⟨s₂, h₂, h⟩ := except_bind_eq_ok.mp h
      suffices a₂ : Act U s₁ [] s₂ by
        simpa only [List.nil_append] using (a₁.seq a₂).seq (.base h)
    all_goals first
      | (obtain ⟨_, h₃, rfl⟩ := except_map_eq_ok.mp h₂; exact .close h₃)
      | (cases h₂; exact .stay)

theorem parseLine_act (ct : CommandType) (h : parseLine U ct l s = .ok (b, s')) :
    Act U s (announcedBy U ct l).toList s' := by
  cases ct with
  | unknown => exact .base h
  | googletest => exact gtestParseLine_act h
  | googlebench => exact gbenchParseLine_act h
  | pytest => exact pytestParseLine_act h

-- ===================================================== a run

theorem parseLines_provenance (ct : CommandType) {lines : List Text} {A : List Text}
    (hp : Provenance A s) (h : parseLines U ct lines s = .ok s') :
    Provenance (A ++ announcedFiles U ct lines) s' := by
  induction lines generalizing s A with
  | nil =>
      cases h
      simpa [announcedFiles] using hp
  | cons l ls ih =>
      obtain ⟨_, h₁, h⟩ := except_bind_eq_ok.mp h
      rw [announcedFiles_cons, ← List.append_assoc]
      exact ih ((parseLine_act ct h₁).provenance hp) h

/-- `finalize` stores the finished kernels of the test in flight. -/
theorem Provenance.stored_finalize {A : List Text} (hp : Provenance A s) :
    Stored A (finalize s).kernelMap ∧ List.Subperm (storedFiles (finalize s).kernelMap) A := by
  unfold finalize
  split
  · exact hp.store (t := { name := ungroupedName, kernels := s.kernels })
      (List.prefix_append _ _)
  · exact ⟨hp.stored, (List.sublist_append_left _ _).subperm.trans hp.counted⟩

variable (U) in
/-- Whatever the runner and the log, every test the parser stores is under
its own name and holds consecutive announcements of the log, in order, and
over all tests no announced kernel is stored twice. -/
theorem runParser_provenance (ct : CommandType) (lines : List Text)
    (h : runParser U ct lines = .ok s) :
    Stored (announcedFiles U ct lines) s.kernelMap ∧
      List.Subperm (storedFiles s.kernelMap) (announcedFiles U ct lines) := by
  obtain ⟨s₀, h₀, rfl⟩ := except_map_eq_ok.mp h
  exact (parseLines_provenance ct provenance_init h₀).stored_finalize

-- ===================================================== a run directory

/-- `TestRun(directory)` takes its kernel map from the parser its command
type selects, run on `stdout`. -/
theorem create_kernelMap {git : GitTool} {d : RunDir} {r : TestRun}
    (h : TestRun.create U git d = .ok r) :
    ∃ log, d.read "stdout".toList = some log ∧
      (runParser U r.commandType (readlines log)).map (·.kernelMap) = .ok r.kernelMap := by
  simp only [TestRun.create, except_bind_eq_ok] at h
  obtain ⟨_, -, _, -, _, -, _, -, _, -, km, hkm, ⟨_, _⟩, -, h⟩ := h
  cases h
  unfold computeKernelMap at hkm
  split at hkm
  · cases hkm
  · exact ⟨_, ‹_›, hkm⟩

variable (U) in
/-- Every run built from a directory stores each test under its own name,
which `join` asserts of every entry it merges, and holds only kernels its
`stdout` log announced: each test's are consecutive announcements, in
order, and no announcement is stored twice. -/
theorem create_kernelMap_provenance {git : GitTool} {d : RunDir} {r : TestRun}
    (h : TestRun.create U git d = .ok r) :
    ∃ log, d.read "stdout".toList = some log ∧
      Stored (announcedFiles U r.commandType (readlines log)) r.kernelMap ∧
      List.Subperm (storedFiles r.kernelMap) (announcedFiles U r.commandType (readlines log)) := by
  obtain ⟨log, hl, hm⟩ := create_kernelMap h
  obtain ⟨s, hs, he⟩ := except_map_eq_ok.mp hm
  exact ⟨log, hl, he ▸ runParser_provenance U _ _ hs⟩

/-- A GoogleTest log that runs test `t` twice: the map keeps the second
run's kernel only. -/
theorem create_kernelMap_provenance_on_sample :
    let dir : RunDir := ⟨"run".toList, [("git_hash".toList, "abc\n".toList),
      ("command".toList, "t\n".toList), ("command_type".toList, "gtest\n".toList),
      ("exitcode".toList, "0\n".toList), ("stdout".toList,
        ("[ RUN      ] t\nPRINTING: a.cu\n[       OK ] t\n" ++
          "[ RUN      ] t\nPRINTING: b.cu\n[       OK ] t\n").toList)], some [], []⟩
    let git : GitTool := ⟨fun _ => [], fun _ => [], fun _ _ => []⟩
    ∃ r, TestRun.create UnicodeDB.asciiOnly git dir = .ok r ∧
      ∃ log, dir.read "stdout".toList = some log ∧
        Stored (announcedFiles UnicodeDB.asciiOnly r.commandType (readlines log)) r.kernelMap ∧
        List.Subperm (storedFiles r.kernelMap)
          (announcedFiles UnicodeDB.asciiOnly r.commandType (readlines log)) := by
  intro dir git
  obtain ⟨r, hr⟩ := except_eq_ok_of_isOk
    (by decide : (TestRun.create UnicodeDB.asciiOnly git dir).isOk = true)
  exact ⟨r, hr, create_kernelMap_provenance UnicodeDB.asciiOnly hr⟩

end CodeDiff
