/-
Step lemmas of the log parsers, and what a whole run of `LogParser`
itself (the `UNKNOWN` command type) leaves in the kernel map.

# One equation per method

Later proofs never unfold a `parse_line`. They cite:

- `finalizeKernel_eq`: `finalize_kernel` builds the kernel in flight
  (`inFlight`: nothing when no file is announced) and appends it.
- `finalizeTest_eq`: `finalize_test` asserts a test is in flight, then
  stores it with the kernels it finished and the one in flight.
- `baseParseLine_announce` / `baseParseLine_quiet`: a line that announces
  a `.cu` file (`announcement`) finalises and opens; any other line at
  most appends a diagnostic of the kernel in flight (`addDiag`), and is
  reported consumed as `baseConsumed` says.

Building a kernel keeps the announced name (`create_filename`), so every
statement about kernels "of file `f`" can be made through `filename`.

# The base parser over a run

`LogParser` never writes the kernel map while it reads lines; `finalize`
writes it once. Over a run the names of the finished kernels followed by
the one in flight (`ParserState.files`) grow by exactly the
announcements (`parseLines_unknown`). `finalize` stores only the
finished ones, so the map holds every announcement but the last
(`unknown_kernelMap`): the kernel in flight when the log ends is never
built, whatever the log.

# Assertions

`finalize_test` asserts that a test is in flight. GoogleTest's `OK`
branch calls it unguarded, unlike the `FAILED` branch beside it, so a
pass line outside a test raises (`gtestParseLine_ok_without_test`).
-/
import CodeDiff.Parser

namespace CodeDiff

variable (U : UnicodeDB)

-- ===================================================== kernel construction

/-- `parse_ptxas` only fills in diagnostics. -/
theorem parsePtxas_filename {k k' : CompiledKernel} (h : parsePtxas U k = .ok k') :
    k'.filename = k.filename := by
  unfold parsePtxas at h
  split at h
  · cases h; rfl
  · simp only [except_bind_eq_ok] at h
    obtain ⟨_, _, _, _, _, _, _, _, _, _, _, _, _, _, h⟩ := h
    cases h; rfl

/-- `parse_launch_params` only fills in the launch parameters. -/
theorem parseLaunchParams_filename {k k' : CompiledKernel} (h : parseLaunchParams k = .ok k') :
    k'.filename = k.filename := by
  unfold parseLaunchParams at h
  split at h
  · cases h; rfl
  · obtain ⟨_, _, h⟩ := except_bind_eq_ok.mp h
    cases h; rfl

/-- A built kernel carries the file name it was announced under. -/
theorem create_filename {f p l : Text} {k : CompiledKernel}
    (h : CompiledKernel.create U f p l = .ok k) : k.filename = f := by
  obtain ⟨k₀, h₀, h⟩ := except_bind_eq_ok.mp h
  rw [parseLaunchParams_filename h, parsePtxas_filename U h₀]

-- ===================================================== finalisation

/-- The kernel in flight, built from its buffers: nothing when no file is
announced. -/
def inFlight (s : ParserState) : Except PyError (List CompiledKernel) :=
  match s.currentFile with
  | none => .ok []
  | some f => (CompiledKernel.create U f s.ptxasInfo s.launchParamsStr).map ([·])

theorem inFlight_filenames {s : ParserState} {ks : List CompiledKernel}
    (h : inFlight U s = .ok ks) : ks.map (·.filename) = s.currentFile.toList := by
  unfold inFlight at h
  split at h
  · cases h; simp [*]
  · obtain ⟨k, hk, rfl⟩ := except_map_eq_ok.mp h
    simp [create_filename U hk, *]

theorem finalizeKernel_eq (s : ParserState) :
    finalizeKernel U s =
      (inFlight U s).map fun ks => { s with kernels := s.kernels ++ ks }.resetKernelState := by
  obtain ⟨km, _ | f, pi, lp, ct, ks, atn⟩ := s
  · simp [finalizeKernel, inFlight]
  · show CompiledKernel.create U f pi lp >>= _ = Except.map _ (Except.map _ _)
    cases CompiledKernel.create U f pi lp <;> rfl

theorem finalizeTest_eq (passed : Bool) (s : ParserState) :
    finalizeTest U passed s = match s.currentTest with
      | none => .error .assertionError
      | some name => (inFlight U s).map fun ks =>
          let t : CompiledTest := { name := name, kernels := s.kernels ++ ks, passed := passed }
          (t, { s with kernelMap := s.kernelMap.set name t }.resetTestState) := by
  obtain ⟨km, cf, pi, lp, _ | name, ks, atn⟩ := s
  · rfl
  · show finalizeKernel U _ >>= _ = _
    rw [finalizeKernel_eq]
    cases inFlight U _ <;> rfl

-- ===================================================== LogParser.parse_line

/-- The file a (cleaned) line announces: `PRINTING: <f>` with `f` ending in
`.cu`. -/
def announcement (line : Text) : Option Text :=
  if line.take 10 = printingMarker ∧ line.drop (line.length - 3) = ".cu".toList then
    some (line.drop 10)
  else none

/-- What a line that announces nothing does to the state: a diagnostic of
the kernel in flight is appended to its buffer. -/
def addDiag (line : Text) (s : ParserState) : ParserState :=
  match s.currentFile with
  | none => s
  | some _ =>
      if line.take 10 = printingMarker then s
      else if line.take 6 = ptxasMarker then { s with ptxasInfo := s.ptxasInfo ++ line ++ ['\n'] }
      else if line.take 19 = launchMarker then
        { s with launchParamsStr := s.launchParamsStr ++ line ++ ['\n'] }
      else s

/-- Whether `LogParser.parse_line` reports such a line consumed. -/
def baseConsumed (line : Text) (s : ParserState) : Bool :=
  line.take 10 = printingMarker ||
    s.currentFile.isSome && (line.take 6 = ptxasMarker || line.take 19 = launchMarker)

theorem baseParseLine_announce {line f : Text} (h : announcement line = some f)
    (s : ParserState) :
    baseParseLine U line s =
      (finalizeKernel U s).map fun s => (true, { s with currentFile := some f }) := by
  unfold announcement at h
  split at h
  · next hl =>
      cases h
      simp only [baseParseLine, hl.1, hl.2, if_true]
      cases finalizeKernel U s <;> rfl
  · cases h

theorem baseParseLine_quiet {line : Text} (h : announcement line = none) (s : ParserState) :
    baseParseLine U line s = .ok (baseConsumed line s, addDiag line s) := by
  have hcu : line.take 10 = printingMarker → ¬ line.drop (line.length - 3) = ".cu".toList :=
    fun h10 hcu => by simp only [announcement, h10, hcu, and_self, if_true] at h; cases h
  unfold baseParseLine baseConsumed addDiag
  by_cases h10 : line.take 10 = printingMarker
  · rw [if_pos h10, if_neg (hcu h10)]
    rcases s.currentFile with _ | f <;> simp [h10]
  · rw [if_neg h10]
    rcases s.currentFile with _ | f <;> by_cases h6 : line.take 6 = ptxasMarker <;>
      by_cases h19 : line.take 19 = launchMarker <;> simp [h10, h6, h19]

section addDiag

variable (line : Text) (s : ParserState)

@[simp] theorem addDiag_kernelMap : (addDiag line s).kernelMap = s.kernelMap := by
  unfold addDiag; split <;> (try split_ifs) <;> rfl

@[simp] theorem addDiag_kernels : (addDiag line s).kernels = s.kernels := by
  unfold addDiag; split <;> (try split_ifs) <;> rfl

@[simp] theorem addDiag_currentFile : (addDiag line s).currentFile = s.currentFile := by
  unfold addDiag; split <;> (try split_ifs) <;> rfl

@[simp] theorem addDiag_currentTest : (addDiag line s).currentTest = s.currentTest := by
  unfold addDiag; split <;> (try split_ifs) <;> rfl

@[simp] theorem addDiag_allTestNames : (addDiag line s).allTestNames = s.allTestNames := by
  unfold addDiag; split <;> (try split_ifs) <;> rfl

end addDiag

-- ===================================================== the base parser over a run

/-- The files of the kernels a state has finished, then the one in flight. -/
def ParserState.files (s : ParserState) : List Text :=
  s.kernels.map (·.filename) ++ s.currentFile.toList

/-- One line of `LogParser`: the map is untouched and the files grow by the
line's announcement. -/
theorem baseParseLine_files {line : Text} {s s' : ParserState} {b : Bool}
    (h : baseParseLine U line s = .ok (b, s')) :
    s'.kernelMap = s.kernelMap ∧ s'.files = s.files ++ (announcement line).toList ∧
      s'.currentFile.isSome = (s.currentFile.isSome || (announcement line).isSome) := by
  cases ha : announcement line with
  | none =>
      rw [baseParseLine_quiet U ha] at h
      cases h
      simp [ParserState.files]
  | some f =>
      rw [baseParseLine_announce U ha, finalizeKernel_eq] at h
      obtain ⟨s₁, h₁, h⟩ := except_map_eq_ok.mp h
      obtain ⟨ks, hks, rfl⟩ := except_map_eq_ok.mp h₁
      cases h
      simp [ParserState.files, ← inFlight_filenames U hks]

/-- The files a log announces, in order. -/
def announcements (lines : List Text) : List Text :=
  lines.filterMap fun l => announcement (cleanLine l)

@[simp] theorem announcements_nil : announcements [] = [] := rfl

theorem announcements_cons (l : Text) (ls : List Text) :
    announcements (l :: ls) = (announcement (cleanLine l)).toList ++ announcements ls := by
  unfold announcements
  rw [List.filterMap_cons]
  cases announcement (cleanLine l) <;> rfl

/-- A run of `LogParser` over lines: the map is untouched, the files grow by
the announcements, and a kernel is in flight once one was announced. -/
theorem parseLines_unknown {lines : List Text} {s s' : ParserState}
    (h : parseLines U .unknown lines s = .ok s') :
    s'.kernelMap = s.kernelMap ∧ s'.files = s.files ++ announcements lines ∧
      s'.currentFile.isSome = (s.currentFile.isSome || !(announcements lines).isEmpty) := by
  induction lines generalizing s with
  | nil => cases h; simp
  | cons l ls ih =>
      obtain ⟨⟨b, s₁⟩, h₁, h⟩ := except_bind_eq_ok.mp h
      obtain ⟨m₁, f₁, c₁⟩ := baseParseLine_files U h₁
      obtain ⟨m, f, c⟩ := ih h
      refine ⟨m.trans m₁, ?_, ?_⟩
      · rw [f, f₁, announcements_cons, List.append_assoc]
      · rw [c, c₁, announcements_cons]
        cases announcement (cleanLine l) <;> simp

/-- Without test boundaries the map holds every announced kernel but the
last, in announcement order, under `Ungrouped Kernels`. -/
theorem unknown_kernelMap {lines : List Text} {s : ParserState}
    (h : runParser U .unknown lines = .ok s) :
    s.kernelMap.entries.map (fun e => (e.1, e.2.kernels.map (·.filename))) =
      if (announcements lines).dropLast = [] then []
      else [(ungroupedName, (announcements lines).dropLast)] := by
  obtain ⟨s₀, h₀, rfl⟩ := except_map_eq_ok.mp h
  obtain ⟨hm, hf, hc⟩ := parseLines_unknown U h₀
  have hmap : s₀.kernelMap = Dict.empty := hm
  simp only [ParserState.files] at hf
  unfold finalize
  rcases hcf : s₀.currentFile with _ | f
  · have hann : announcements lines = [] := by simpa [hcf] using hc
    have hk : s₀.kernels = [] := by simpa [hcf, hann] using hf
    simp [hk, hmap, hann, Dict.empty]
  · have hann : announcements lines = s₀.kernels.map (·.filename) ++ [f] := by
      simpa [hcf] using hf.symm
    rw [hann, List.dropLast_concat]
    by_cases hk : s₀.kernels = []
    · simp [hk, hmap, Dict.empty]
    · simp [List.length_pos.2 hk, hmap, hk, ungroupedName]

/-- Two announcements around a diagnostic: the map holds the first kernel
only. -/
theorem unknown_kernelMap_on_sample :
    let lines := ["PRINTING: a.cu\n".toList, "ptxas info : x\n".toList, "PRINTING: b.cu\n".toList]
    ∃ s, runParser UnicodeDB.asciiOnly .unknown lines = .ok s ∧
      s.kernelMap.entries.map (fun e => (e.1, e.2.kernels.map (·.filename))) =
        if (announcements lines).dropLast = [] then []
        else [(ungroupedName, (announcements lines).dropLast)] := by
  intro lines
  obtain ⟨s, h⟩ := except_eq_ok_of_isOk
    (by decide : (runParser UnicodeDB.asciiOnly .unknown lines).isOk = true)
  exact ⟨s, h, unknown_kernelMap _ h⟩

theorem unknown_log_drops_kernel_in_flight :
    parseLogFile UnicodeDB.asciiOnly .unknown "PRINTING: a.cu\n".toList = .ok Dict.empty := by
  decide

-- ===================================================== assertions

theorem take_of_take {l p : Text} {n k : Nat} (h : l.take n = p) (hk : k ≤ n) :
    l.take k = p.take k := by
  rw [← h, List.take_take, min_eq_left hk]

/-- A GoogleTest pass line with no test in flight fails `finalize_test`'s
assertion. -/
theorem gtestParseLine_ok_without_test {line : Text} {s : ParserState}
    (hl : line.take 13 = okMarker) (ht : s.currentTest = none) :
    gtestParseLine U line s = .error .assertionError := by
  have h10 : line.take 10 = okMarker.take 10 := take_of_take hl (by decide)
  have h6 : line.take 6 = okMarker.take 6 := take_of_take hl (by decide)
  have h19 : ¬ line.take 19 = launchMarker := fun h => by
    have := take_of_take h (show 13 ≤ 19 by decide)
    rw [hl] at this
    exact absurd this (by decide)
  have ha : announcement line = none := by
    simp [announcement, h10, okMarker, printingMarker]
  rw [gtestParseLine, baseParseLine_quiet U ha]
  simp [baseConsumed, h10, h6, h19, hl, okMarker, printingMarker, ptxasMarker, runMarker,
    finalizeTest_eq, ht]

theorem gtest_log_with_stray_ok_line_raises :
    parseLogFile U .googletest "[       OK ] x\n".toList = .error .assertionError := by
  have hl : cleanLine "[       OK ] x\n".toList = "[       OK ] x".toList := by decide
  show ((parseLines U .googletest ["[       OK ] x\n".toList] {}).map finalize).map _ = _
  simp only [parseLines, hl, parseLine, gtestParseLine_ok_without_test U (by decide) rfl]
  rfl

end CodeDiff
