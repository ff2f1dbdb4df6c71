/-
The kernel-state invariant of the log parsers: outside a kernel block
a parser holds no kernel material.

# The invariant

`KernelStateInv s`: when no kernel is in flight (`current_file` is
`None`), the test in flight has finished no kernel and both diagnostic
buffers are empty. Read the other way: a finished kernel or a
diagnostic only exists while an announced kernel is in flight, so a
diagnostic line always lands in the buffer of the latest announcement.

# Why every line keeps it

`finalize_kernel` alone breaks it (it appends a kernel and clears
`current_file`), but no method stops there:

- an announcement opens the next kernel right after it
  (`baseParseLine_inv`);
- `finalize_test` follows it with `reset_test_state`, which clears the
  kernels as well, so its result satisfies the invariant whatever the
  state before (`finalizeTest_inv`);
- a diagnostic is appended only while a kernel is in flight
  (`addDiag_of_idle`);
- test boundaries, item lists and benchmark results write only
  `current_test`, `all_test_names` and the kernel map, which the
  invariant does not read.

So every runner's `parse_line` keeps it (`parseLine_inv`), a run of
lines keeps it (`parseLines_inv`), and it holds after every line of
every log parsed by a freshly constructed parser
(`parse_prefix_kernel_state`).
-/
import CodeDiff.Proofs.Parser.Step

namespace CodeDiff

variable (U : UnicodeDB)

/-- Outside a kernel block the parser holds no kernel material. -/
def KernelStateInv (s : ParserState) : Prop :=
  s.currentFile = none → s.kernels = [] ∧ s.ptxasInfo = [] ∧ s.launchParamsStr = []

theorem kernelStateInv_init : KernelStateInv {} := fun _ => ⟨rfl, rfl, rfl⟩

theorem kernelStateInv_resetTestState (s : ParserState) : KernelStateInv s.resetTestState :=
  fun _ => ⟨rfl, rfl, rfl⟩

theorem addDiag_of_idle {s : ParserState} (line : Text) (h : s.currentFile = none) :
    addDiag line s = s := by
  simp [addDiag, h]

theorem kernelStateInv_addDiag {s : ParserState} (line : Text) (hi : KernelStateInv s) :
    KernelStateInv (addDiag line s) := fun h => by
  rw [addDiag_currentFile] at h
  rw [addDiag_of_idle line h]
  exact hi h

-- ===================================================== one line

variable {U} {line : Text} {s s' : ParserState} {b : Bool}

theorem baseParseLine_inv (hi : KernelStateInv s) (h : baseParseLine U line s = .ok (b, s')) :
    KernelStateInv s' := by
  cases ha : announcement line with
  | none =>
      rw [baseParseLine_quiet U ha] at h
      cases h
      exact kernelStateInv_addDiag line hi
  | some f =>
      rw [baseParseLine_announce U ha] at h
      obtain ⟨_, -, h⟩ := except_map_eq_ok.mp h
      cases h
      exact fun h => Option.noConfusion h

theorem finalizeTest_inv {passed : Bool} {t : CompiledTest}
    (h : finalizeTest U passed s = .ok (t, s')) : KernelStateInv s' := by
  rw [finalizeTest_eq] at h
  split at h
  · cases h
  · obtain ⟨_, -, h⟩ := except_map_eq_ok.mp h
    cases h
    exact kernelStateInv_resetTestState _

theorem gtestParseLine_inv (hi : KernelStateInv s) (h : gtestParseLine U line s = .ok (b, s')) :
    KernelStateInv s' := by
  obtain ⟨⟨c, s₁⟩, h₁, h⟩ := except_bind_eq_ok.mp h
  have hi₁ := baseParseLine_inv hi h₁
  dsimp only at h
  repeat' split at h
  -- every branch returns the base step's state with at most a new test
  -- name, or the state `finalize_test` leaves
  all_goals simp only [except_pure, except_ok_bind] at h
  all_goals first
    | (cases h; exact hi₁)
    | (obtain ⟨_, h₂, h⟩ := except_bind_eq_ok.mp h; cases h; exact (finalizeTest_inv h₂ :))

theorem gbenchParseLine_inv (hi : KernelStateInv s) (h : gbenchParseLine U line s = .ok (b, s')) :
    KernelStateInv s' := by
  obtain ⟨⟨c, s₁⟩, h₁, h⟩ := except_bind_eq_ok.mp h
  have hi₁ := baseParseLine_inv hi h₁
  dsimp only at h
  repeat' split at h
  all_goals simp only [except_pure, except_ok_bind] at h
  all_goals first
    | (cases h; exact hi₁)
    | (obtain ⟨_, h₂, h⟩ := except_bind_eq_ok.mp h; cases h; exact (finalizeTest_inv h₂ :))

theorem pytestParseLine_inv (hi : KernelStateInv s) (h : pytestParseLine U line s = .ok (b, s')) :
    KernelStateInv s' := by
  unfold pytestParseLine at h
  split at h
  · cases h
    exact hi
  · split at h
    next s₁ line₁ heq =>
    -- a test identifier only names the test in flight
    have hi₁ : KernelStateInv s₁ := by
      split at heq <;> cases heq <;> exact hi
    dsimp only at h
    repeat' split at h
    -- a verdict finalises the test, then the rest of the line is parsed
    all_goals
      obtain ⟨s₂, h₂, h⟩ := except_bind_eq_ok.mp h
      refine baseParseLine_inv ?_ h
    all_goals first
      | (obtain ⟨_, h₃, rfl⟩ := except_map_eq_ok.mp h₂; exact finalizeTest_inv h₃)
      | (cases h₂; exact hi₁)

/-- Every runner's `parse_line` keeps the invariant. -/
theorem parseLine_inv (ct : CommandType) (hi : KernelStateInv s)
    (h : parseLine U ct line s = .ok (b, s')) : KernelStateInv s' := by
  cases ct with
  | unknown => exact baseParseLine_inv hi h
  | googletest => exact gtestParseLine_inv hi h
  | googlebench => exact gbenchParseLine_inv hi h
  | pytest => exact pytestParseLine_inv hi h

-- ===================================================== a run

theorem parseLines_inv (ct : CommandType) {lines : List Text} (hi : KernelStateInv s)
    (h : parseLines U ct lines s = .ok s') : KernelStateInv s' := by
  induction lines generalizing s with
  | nil =>
      cases h
      exact hi
  | cons l ls ih =>
      obtain ⟨_, h₁, h⟩ := except_bind_eq_ok.mp h
      exact ih (parseLine_inv ct hi h₁) h

variable (U) in
/-- After every line of every log, for every runner, a parser constructed
on the log holds kernel material only while a kernel is in flight. -/
theorem parse_prefix_kernel_state (ct : CommandType) (lines : List Text) (k : Nat)
    (h : parseLines U ct (lines.take k) {} = .ok s) :
    s.currentFile = none → s.kernels = [] ∧ s.ptxasInfo = [] ∧ s.launchParamsStr = [] :=
  parseLines_inv ct kernelStateInv_init h

/-- The prefix that ends with the test's OK line: its kernel has been
stored, and nothing is in flight. -/
theorem parse_prefix_kernel_state_on_sample :
    let lines := ["[ RUN      ] t\n".toList, "PRINTING: a.cu\n".toList,
      "ptxas info : x\n".toList, "[       OK ] t\n".toList, "done\n".toList]
    ∃ s, parseLines UnicodeDB.asciiOnly .googletest (lines.take 4) {} = .ok s ∧ s.currentFile = none ∧
      s.kernels = [] ∧ s.ptxasInfo = [] ∧ s.launchParamsStr = [] := by
  intro lines
  obtain ⟨s, hs, hf⟩ := except_map_eq_ok.1
    (by decide : (parseLines UnicodeDB.asciiOnly .googletest (lines.take 4) {}).map
      (·.currentFile) = .ok none)
  exact ⟨s, hs, hf, parse_prefix_kernel_state UnicodeDB.asciiOnly .googletest lines 4 hs hf⟩

end CodeDiff
