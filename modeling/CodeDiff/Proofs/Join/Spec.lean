/-
What `TestRun.join` does when it returns, said once (`joinRun_eq_ok`), so
that the theorems about sharded runs never unfold the method.

# Running a method

`join` is a `RunM` computation: it mutates its receiver and may raise.
`RunM.exec` runs one on a receiver; `exec_bind_eq_ok` peels a method that
returned into its steps, and each primitive (`pyAssert`, `modifyRun`,
`get`, `throw`) has its equation.

# The loop

`join`'s loop over the donor's kernel map is a fold of `mergeEntry` over the
donor's entries (`mergeAll`): a new test is added, and an `Ungrouped
Kernels` entry already present takes the donor's kernels after its own and
the conjunction of the two pass flags. `MergeGuard` is what one pass
asserts; `exec_mergeTests` says the loop returns exactly when every pass's
guard holds, and that it then leaves the folded map.

# The receiver

`TestRun.joined` is the receiver after a `join` that returns, and
`JoinGuard` holds the method's assertions together with the conditions under
which its `+=` on the optional members raises no `TypeError`. Every other
member is the receiver's own; in particular the joined run keeps the
receiver's `directory`, from which `get_kernel` later reads every kernel.
-/
import CodeDiff.Run
import Mathlib.Data.Option.NAry

namespace CodeDiff

-- ===================================================== running a method

section exec

variable {α β : Type}

/-- A method run on a receiver: its result or exception, and the receiver
afterwards. -/
def RunM.exec (x : RunM α) (s : TestRun) : Except PyError α × TestRun :=
  (x.run).run s

theorem exec_bind (x : RunM α) (f : α → RunM β) (s : TestRun) :
    RunM.exec (x >>= f) s = match RunM.exec x s with
      | (.ok a, s') => RunM.exec (f a) s'
      | (.error e, s') => (.error e, s') := by
  simp only [RunM.exec, ExceptT.run_bind, StateT.run_bind]
  rcases (x.run).run s with ⟨_ | a, s'⟩ <;> rfl

/-- A method that returned ran its first step to a value. -/
theorem exec_bind_eq_ok {x : RunM α} {f : α → RunM β} {s s'' : TestRun} {b : β} :
    RunM.exec (x >>= f) s = (.ok b, s'') ↔
      ∃ a s', RunM.exec x s = (.ok a, s') ∧ RunM.exec (f a) s' = (.ok b, s'') := by
  rw [exec_bind]
  rcases RunM.exec x s with ⟨_ | a, s'⟩
  · simp
  · exact ⟨fun h => ⟨a, s', rfl, h⟩, by rintro ⟨_, _, ⟨⟩, h⟩; exact h⟩

@[simp] theorem exec_pure (a : α) (s : TestRun) : RunM.exec (pure a) s = (.ok a, s) := rfl

@[simp] theorem exec_get (s : TestRun) : RunM.exec get s = (.ok s, s) := rfl

@[simp] theorem exec_throw (e : PyError) (s : TestRun) :
    RunM.exec (throw e : RunM α) s = (.error e, s) := rfl

@[simp] theorem exec_modifyRun (f : TestRun → TestRun) (s : TestRun) :
    RunM.exec (modifyRun f) s = (.ok (), f s) := rfl

@[simp] theorem exec_pyAssert (c : Prop) [Decidable c] (s : TestRun) :
    RunM.exec (pyAssert c) s = if c then (.ok (), s) else (.error .assertionError, s) := by
  unfold pyAssert
  split <;> rfl

@[simp] theorem exec_ofExcept (x : Except PyError α) (s : TestRun) :
    RunM.exec (MonadExcept.ofExcept x) s = (x, s) := by
  cases x <;> rfl

@[simp] theorem exec_get_bind (f : TestRun → RunM β) (s : TestRun) :
    RunM.exec (get >>= f) s = RunM.exec (f s) s := rfl

@[simp] theorem exec_modifyRun_bind (g : TestRun → TestRun) (f : Unit → RunM β) (s : TestRun) :
    RunM.exec (modifyRun g >>= f) s = RunM.exec (f ()) (g s) := rfl

@[simp] theorem exec_pyAssert_bind (c : Prop) [Decidable c] (f : Unit → RunM β) (s : TestRun) :
    RunM.exec (pyAssert c >>= f) s =
      if c then RunM.exec (f ()) s else (.error .assertionError, s) := by
  unfold pyAssert
  split <;> rfl

@[simp] theorem exec_throw_bind (e : PyError) (f : α → RunM β) (s : TestRun) :
    RunM.exec (throw e >>= f) s = (.error e, s) := rfl

@[simp] theorem exec_ofExcept_bind (x : Except PyError α) (f : α → RunM β) (s : TestRun) :
    RunM.exec (MonadExcept.ofExcept x >>= f) s = match x with
      | .ok a => RunM.exec (f a) s
      | .error e => (.error e, s) := by
  cases x <;> rfl

theorem joinRun_eq_exec (a b : TestRun) : a.joinRun b = RunM.exec (TestRun.join b) a := rfl

end exec

-- ===================================================== the loop

/-- The test a pass leaves under its key: the donor's, or the receiver's
with the donor's kernels appended and the donor's pass flag and-ed in. -/
def mergedTest : Option CompiledTest → CompiledTest → CompiledTest
  | some mine, t => { mine with kernels := mine.kernels ++ t.kernels, passed := mine.passed && t.passed }
  | none, t => t

/-- One pass of `join`'s loop, when it returns. -/
def mergeEntry (m : KernelMap) (name : Text) (t : CompiledTest) : KernelMap :=
  m.set name (mergedTest (m.get? name) t)

/-- The whole loop, when it returns. -/
def mergeAll (m : KernelMap) (es : List (Text × CompiledTest)) : KernelMap :=
  es.foldl (fun m e => mergeEntry m e.1 e.2) m

/-- What one pass asserts: the test carries its key's name, a grouped test
is new to the receiver, and two `Ungrouped Kernels` entries merged have no
benchmark result. -/
@[mk_iff] structure MergeGuard (m : KernelMap) (name : Text) (t : CompiledTest) : Prop where
  name_eq : t.name = name
  fresh : name ≠ ungroupedName → name ∉ m.keys
  bench : name = ungroupedName → ∀ mine, m.get? name = some mine →
    mine.benchmarkResult = none ∧ t.benchmarkResult = none

/-- Every pass's guard, each over the map the passes before it left. -/
def MergesOk : KernelMap → List (Text × CompiledTest) → Prop
  | _, [] => True
  | m, (name, t) :: es => MergeGuard m name t ∧ MergesOk (mergeEntry m name t) es

theorem exec_mergeTest {name : Text} {t : CompiledTest} {s s' : TestRun} :
    RunM.exec (mergeTest name t) s = (.ok (), s') ↔
      MergeGuard s.kernelMap name t ∧ s' = { s with kernelMap := mergeEntry s.kernelMap name t } := by
  unfold mergeTest
  by_cases hn : t.name = name
  swap
  · simp [hn, mergeGuard_iff]
  by_cases hu : name = ungroupedName
  · subst hu
    rcases hm : s.kernelMap.get? ungroupedName with _ | mine
    · simp [hn, hm, mergeGuard_iff, mergeEntry, mergedTest, @eq_comm _ s']
    · cases hp : t.passed <;>
        by_cases hb1 : mine.benchmarkResult = none <;> by_cases hb2 : t.benchmarkResult = none <;>
        simp [hn, hm, hp, hb1, hb2, mergeGuard_iff, mergeEntry, mergedTest, Dict.set_set,
          @eq_comm _ s']
  · by_cases hk : name ∈ s.kernelMap.keys
    · simp [hn, hu, hk, mergeGuard_iff]
    · simp [hn, hu, hk, Dict.get?_eq_none.2 hk, mergeGuard_iff, mergeEntry, mergedTest,
        @eq_comm _ s']

@[simp] theorem mergeAll_nil (m : KernelMap) : mergeAll m [] = m := rfl

@[simp] theorem mergeAll_cons (m : KernelMap) (name : Text) (t : CompiledTest)
    (es : List (Text × CompiledTest)) :
    mergeAll m ((name, t) :: es) = mergeAll (mergeEntry m name t) es := rfl

@[simp] theorem mergesOk_nil (m : KernelMap) : MergesOk m [] := trivial

@[simp] theorem mergesOk_cons {m : KernelMap} {name : Text} {t : CompiledTest}
    {es : List (Text × CompiledTest)} :
    MergesOk m ((name, t) :: es) ↔ MergeGuard m name t ∧ MergesOk (mergeEntry m name t) es :=
  Iff.rfl

/-- The loop returns exactly when every pass's guard holds, and leaves the
folded map. -/
theorem exec_mergeTests : ∀ {es : List (Text × CompiledTest)} {s s' : TestRun},
    RunM.exec (mergeTests es) s = (.ok (), s') ↔
      MergesOk s.kernelMap es ∧ s' = { s with kernelMap := mergeAll s.kernelMap es }
  | [], s, s' => by simp [mergeTests, @eq_comm _ s']
  | (name, t) :: es, s, s' => by
      rw [mergeTests, exec_bind_eq_ok]
      constructor
      · rintro ⟨_, s1, h1, h⟩
        obtain ⟨hg, rfl⟩ := exec_mergeTest.1 h1
        obtain ⟨hok, rfl⟩ := exec_mergeTests.1 h
        exact ⟨⟨hg, hok⟩, rfl⟩
      · rintro ⟨⟨hg, hok⟩, rfl⟩
        exact ⟨(), _, exec_mergeTest.2 ⟨hg, rfl⟩, exec_mergeTests.2 ⟨hok, rfl⟩⟩

-- ===================================================== the loop, read back

@[simp] theorem get?_mergeEntry (m : KernelMap) (name : Text) (t : CompiledTest) (k : Text) :
    (mergeEntry m name t).get? k = if name = k then some (mergedTest (m.get? k) t) else m.get? k := by
  unfold mergeEntry
  rw [Dict.get?_set]
  split <;> simp_all

theorem mem_keys_mergeEntry {m : KernelMap} {name k : Text} {t : CompiledTest} :
    k ∈ (mergeEntry m name t).keys ↔ k = name ∨ k ∈ m.keys :=
  Dict.mem_keys_set _ _ _ _

theorem mem_keys_mergeAll {k : Text} : ∀ {m : KernelMap} {es : List (Text × CompiledTest)},
    k ∈ (mergeAll m es).keys ↔ k ∈ m.keys ∨ k ∈ es.map Prod.fst
  | _, [] => by simp
  | m, (name, t) :: es => by
      rw [mergeAll_cons, mem_keys_mergeAll, mem_keys_mergeEntry]
      simp only [List.map_cons, List.mem_cons]
      tauto

/-- Under distinct donor keys, each key ends up with the donor's test merged
into what the receiver had, or untouched. -/
theorem get?_mergeAll (k : Text) : ∀ {m : KernelMap} {es : List (Text × CompiledTest)},
    (es.map Prod.fst).Nodup → (mergeAll m es).get? k = match Dict.lookup k es with
      | some t => some (mergedTest (m.get? k) t)
      | none => m.get? k
  | _, [], _ => rfl
  | m, (name, t) :: es, hnd => by
      rw [List.map_cons, List.nodup_cons] at hnd
      rw [mergeAll_cons, get?_mergeAll k hnd.2]
      by_cases hk : name = k
      · subst hk
        rw [Dict.lookup_eq_none.2 hnd.1, get?_mergeEntry, if_pos rfl]
        simp [Dict.lookup]
      · simp [Dict.lookup, hk]

/-- A guard about a key the pass did not touch holds before the pass. -/
theorem MergeGuard.of_mergeEntry {m : KernelMap} {n k : Text} {t t' : CompiledTest} (hne : n ≠ k)
    (h : MergeGuard (mergeEntry m n t) k t') : MergeGuard m k t' where
  name_eq := h.name_eq
  fresh hk hm := h.fresh hk (mem_keys_mergeEntry.2 (.inr hm))
  bench hk mine hm := h.bench hk mine (by rw [get?_mergeEntry, if_neg hne, hm])

/-- Each pass's guard, stated over the receiver's map before the loop. -/
theorem MergesOk.guard {k : Text} {t : CompiledTest} : ∀ {m : KernelMap} {es : List (Text × CompiledTest)},
    MergesOk m es → (es.map Prod.fst).Nodup → (k, t) ∈ es → MergeGuard m k t
  | _, [], _, _, he => absurd he (List.not_mem_nil _)
  | m, (name, t') :: es, ⟨hg, hok⟩, hnd, he => by
      rw [List.map_cons, List.nodup_cons] at hnd
      rcases List.mem_cons.1 he with he | he
      · cases he
        exact hg
      · have hne : name ≠ k := fun h => hnd.1 (h ▸ List.mem_map.2 ⟨_, he, rfl⟩)
        exact (MergesOk.guard hok hnd.2 he).of_mergeEntry hne

-- ===================================================== the receiver

/-- The receiver after a `join` that returns: differing `nvcc_version`s
concatenated, differing `env`s joined by a line break (a missing donor
`env` rendered as `None`), GPU lists and commands concatenated, exit codes
added and the kernel maps merged. -/
def TestRun.joined (a b : TestRun) : TestRun :=
  { a with
    nvccVersion := if b.nvccVersion ≠ a.nvccVersion then
      Option.map₂ (· ++ ·) a.nvccVersion b.nvccVersion else a.nvccVersion
    env := if b.env ≠ a.env then a.env.map (· ++ ['\n'] ++ fstr b.env) else a.env
    gpuNames := Option.map₂ (· ++ ·) a.gpuNames b.gpuNames
    command := a.command ++ " && ".toList ++ b.command
    exitCode := a.exitCode + b.exitCode
    kernelMap := mergeAll a.kernelMap b.kernelMap.entries }

/-- What a `join` that returns needed: its four assertions, optional
members that `+=` can combine, and every pass of the loop's guard. -/
@[mk_iff] structure JoinGuard (a b : TestRun) : Prop where
  git : a.git = b.git
  preambleSizeLines : a.preambleSizeLines = b.preambleSizeLines
  preamble : a.preamble = b.preamble
  commandType : a.commandType = b.commandType
  nvcc : b.nvccVersion ≠ a.nvccVersion → a.nvccVersion.isSome ∧ b.nvccVersion.isSome
  env : b.env ≠ a.env → a.env.isSome
  gpuNames : a.gpuNames.isSome ∧ b.gpuNames.isSome
  merges : MergesOk a.kernelMap b.kernelMap.entries

theorem exec_joinNvcc {b s s' : TestRun} {u : Unit} :
    RunM.exec (joinNvcc b) s = (.ok u, s') ↔
      (b.nvccVersion ≠ s.nvccVersion → s.nvccVersion.isSome ∧ b.nvccVersion.isSome) ∧
      s' = { s with nvccVersion := (if b.nvccVersion ≠ s.nvccVersion then
        Option.map₂ (· ++ ·) s.nvccVersion b.nvccVersion else s.nvccVersion) } := by
  unfold joinNvcc
  cases u
  by_cases hn : b.nvccVersion = s.nvccVersion
  · simp [hn, @eq_comm _ s']
  · rcases ha : s.nvccVersion with _ | x <;> rcases hb : b.nvccVersion with _ | y <;>
      simp_all [addNvcc, @eq_comm _ s']

theorem exec_joinEnv {b s s' : TestRun} {u : Unit} :
    RunM.exec (joinEnv b) s = (.ok u, s') ↔ (b.env ≠ s.env → s.env.isSome) ∧
      s' = { s with env := if b.env ≠ s.env then s.env.map (· ++ ['\n'] ++ fstr b.env) else s.env } := by
  unfold joinEnv
  cases u
  by_cases he : b.env = s.env
  · simp [he, @eq_comm _ s']
  · rcases ha : s.env with _ | e <;> simp_all [@eq_comm _ s']

theorem exec_joinGpuNames {b s s' : TestRun} {u : Unit} :
    RunM.exec (joinGpuNames b) s = (.ok u, s') ↔ (s.gpuNames.isSome ∧ b.gpuNames.isSome) ∧
      s' = { s with gpuNames := Option.map₂ (· ++ ·) s.gpuNames b.gpuNames } := by
  unfold joinGpuNames
  cases u
  rcases ha : s.gpuNames with _ | x <;> rcases hb : b.gpuNames with _ | y <;>
    simp [ha, hb, @eq_comm _ s']

theorem joinRun_eq_ok {a b j : TestRun} :
    a.joinRun b = (.ok (), j) ↔ JoinGuard a b ∧ j = a.joined b := by
  rw [joinRun_eq_exec]
  unfold TestRun.join
  by_cases h1 : a.git = b.git
  swap
  · simp [h1, joinGuard_iff]
  by_cases h2 : a.preambleSizeLines = b.preambleSizeLines
  swap
  · simp [h2, joinGuard_iff]
  by_cases h3 : a.preamble = b.preamble
  swap
  · simp [h3, joinGuard_iff]
  by_cases h4 : a.commandType = b.commandType
  swap
  · simp [h4, joinGuard_iff]
  simp [h1, h2, h3, h4, exec_bind_eq_ok, exec_joinNvcc, exec_joinEnv, exec_joinGpuNames,
    exec_mergeTests, joinGuard_iff, TestRun.joined, and_assoc]


end CodeDiff
