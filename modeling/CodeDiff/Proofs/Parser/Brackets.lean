/-
Attribution of kernels to tests on well-formed logs of the three runners
that group kernels into tests.

# Well-formed logs

A log is a run of brackets, related to the brackets it holds by
`BracketLog`, with lines between them that the runner consumes without
touching the kernel map (`Between`): lines it hands on (`Quiet`: no
announcement, none of the runner's markers), and for GoogleTest also a
`FAILED` line, such as the failure summary after the last test, for
pytest also the shard's item list. A bracket's body is some quiet lines,
then its kernels, each an announcement followed by its diagnostics and
quiet lines (`BracketBody`, `KernelDump`). The brackets themselves are each
runner's own grammar:

- GoogleTest (`GTestBracket`): the `RUN` line naming the test, the body,
  and an `OK` or `FAILED` line;
- Google Benchmark (`GBenchBracket`): the body, and the result line that
  names the benchmark and carries its result;
- pytest (`PyTestBracket`): the identifier's line, its rest being the
  body's first line, the rest of the body, and a verdict, bare or after
  the identifier; or the identifier's line with the verdict on it.

# What the parser stores

`Bracket.test` is the test a bracket describes: its name and verdict, and
the kernels announced in its body, in order, each built from the
diagnostics between its announcement and the next announcement or the
bracket's end (`buildKernel`). The proof follows the state machine:

- each runner hands an announcement, a diagnostic of a kernel in flight
  and a quiet line to `LogParser.parse_line` alone (`parseLine_base`);
- a line between brackets changes at most pytest's list of test names
  (`parseClean_between`);
- a kernel's diagnostics collect in its buffers (`parseClean_kernelBody`),
  and a run of kernels, once finalised, has built each one in order
  (`parseClean_kernels`);
- a bracket's body and its terminator, from a state between brackets,
  store the bracket's test and leave a state between brackets
  (`parseClean_body_close`, then per runner `gtestBracket_step`,
  `gbenchBracket_step`, `pytestBracket_step`);
- a log of brackets therefore leaves the fold of its brackets' tests
  (`runParser_bracketLog`), which with distinct names is one entry per
  bracket, in order (`bracketMap_entries`).

# Where the code differs

A GoogleTest `FAILED` line finalises the test only while a kernel is in
flight, so that the failure summary after the last test is skipped: a
`FAILED` bracket that announced no kernel stores nothing
(`failed_bracket_without_kernels_not_stored`). The statement assumes that
each kernel's diagnostics build a `CompiledKernel`: a launch-parameter line
the pattern of `parse_launch_params` misses makes `m.groups()` raise an
`AttributeError` on `None`, against the method's own comment that it parses
such lines only "if we recognize it", and the parser raises with it.
-/
import CodeDiff.Proofs.Parser.Invariant

namespace CodeDiff

variable (U : UnicodeDB)

-- ===================================================== parse over cleaned lines

/-- `parse`'s loop over lines already cleaned, keeping the states. -/
def parseClean (ct : CommandType) : List Text → ParserState → Except PyError ParserState
  | [], s => .ok s
  | l :: ls, s => (parseLine U ct l s).map Prod.snd >>= parseClean ct ls

theorem parseLines_eq_parseClean (ct : CommandType) (lines : List Text) (s : ParserState) :
    parseLines U ct lines s = parseClean U ct (lines.map cleanLine) s := by
  induction lines generalizing s with
  | nil => rfl
  | cons l ls ih =>
      simp only [parseLines, parseClean, List.map_cons, ih]
      cases parseLine U ct (cleanLine l) s <;> rfl

theorem parseClean_append (ct : CommandType) (a b : List Text) (s : ParserState) :
    parseClean U ct (a ++ b) s = parseClean U ct a s >>= parseClean U ct b := by
  induction a generalizing s with
  | nil => rfl
  | cons l ls ih =>
      show (parseLine U ct l s).map Prod.snd >>= parseClean U ct (ls ++ b) =
        ((parseLine U ct l s).map Prod.snd >>= parseClean U ct ls) >>= parseClean U ct b
      cases (parseLine U ct l s).map Prod.snd with
      | error e => rfl
      | ok s₁ => exact ih s₁

-- ===================================================== lines the runners hand on

/-- A diagnostic line: `ptxas` output or launch parameters. -/
def IsDiag (l : Text) : Prop := l.take 6 = ptxasMarker ∨ l.take 19 = launchMarker

instance : DecidablePred IsDiag := fun _ => inferInstanceAs (Decidable (_ ∨ _))

/-- A line that the runner `ct` hands to the shared protocol alone, whatever
the state: one without the runner's own markers. -/
def BodyLine : CommandType → Text → Prop
  | .unknown, _ => True
  | .googletest, l => l.take 13 ≠ runMarker ∧ l.take 13 ≠ okMarker ∧ l.take 13 ≠ failedMarker
  | .googlebench, l => benchResult U l = none
  | .pytest, l =>
      itemList U l = none ∧ pytestTestname U l = none ∧ l ≠ "PASSED".toList ∧ l ≠ "FAILED".toList

instance (ct : CommandType) : DecidablePred (BodyLine U ct) := fun l =>
  match ct with
  | .unknown => inferInstanceAs (Decidable True)
  | .googletest => inferInstanceAs (Decidable (_ ∧ _ ∧ _))
  | .googlebench => inferInstanceAs (Decidable (benchResult U l = none))
  | .pytest => inferInstanceAs (Decidable (_ ∧ _ ∧ _ ∧ _))

/-- A line outside any kernel that the runner hands on: it announces
nothing and carries none of the runner's markers. -/
def Quiet (ct : CommandType) (l : Text) : Prop := announcement l = none ∧ BodyLine U ct l

instance (ct : CommandType) : DecidablePred (Quiet U ct) := fun _ =>
  inferInstanceAs (Decidable (_ ∧ _))

example : Quiet UnicodeDB.asciiOnly .pytest "note".toList ∧
    ¬ Quiet UnicodeDB.asciiOnly .pytest "a.py::t PASSED".toList ∧
    ¬ Quiet UnicodeDB.asciiOnly .googletest "[  FAILED  ] t".toList := by
  decide

/-- The shared protocol consumes an announcement, and a diagnostic while a
kernel is in flight. -/
theorem baseParseLine_consumed {l : Text} {s s' : ParserState} {c : Bool}
    (h : (announcement l).isSome ∨ (IsDiag l ∧ s.currentFile.isSome))
    (hb : baseParseLine U l s = .ok (c, s')) : c = true := by
  cases ha : announcement l with
  | some f =>
      rw [baseParseLine_announce U ha] at hb
      obtain ⟨_, -, hb⟩ := except_map_eq_ok.mp hb
      cases hb
      rfl
  | none =>
      rw [baseParseLine_quiet U ha] at hb
      cases hb
      rcases h with h | ⟨h | h, hf⟩
      · simp [ha] at h
      · simp [baseConsumed, h, hf]
      · simp [baseConsumed, h, hf]

/-- Two lines that begin with different marker prefixes of length `k` and
`n` differ in their first `min k n` characters. -/
theorem take_ne_of_markers {l : Text} {m m' : Text} {k n : Nat} (h : l.take k = m) (j : Nat)
    (hj : j ≤ k) (hjn : j ≤ n) (hm : m.take j ≠ m'.take j) : l.take n ≠ m' := fun h' =>
  hm ((take_of_take h hj).symm.trans (take_of_take h' hjn))

theorem eq_append_of_take {l p : Text} {n : Nat} (h : l.take n = p) : l = p ++ l.drop n := by
  rw [← h, List.take_append_drop]

/-- pytest's matchers see no identifier, item list or verdict in a line that
begins with one of the shared protocol's markers. -/
theorem pytest_quiet_of_marker {l m : Text} {n : Nat} (h : l.take n = m)
    (hm : m = printingMarker ∨ m = ptxasMarker ∨ m = launchMarker) :
    itemList U l = none ∧ pytestTestname U l = none ∧ l ≠ "PASSED".toList ∧
      l ≠ "FAILED".toList := by
  have hl := eq_append_of_take h
  have h1 : l.take 2 = m.take 2 := by
    rw [hl, List.take_append_of_le_length (by rcases hm with rfl | rfl | rfl <;> decide)]
  refine ⟨?_, ?_, fun e => ?_, fun e => ?_⟩
  · rw [hl]
    rcases hm with rfl | rfl | rfl <;> rfl
  · rw [hl]
    rcases hm with rfl | rfl | rfl <;> rfl
  · rw [e] at h1
    rcases hm with rfl | rfl | rfl <;> exact absurd h1 (by decide)
  · rw [e] at h1
    rcases hm with rfl | rfl | rfl <;> exact absurd h1 (by decide)

theorem take_of_announcement {l : Text} (h : (announcement l).isSome) :
    l.take 10 = printingMarker := by
  unfold announcement at h
  split at h
  · next hl => exact hl.1
  · cases h

theorem pytestParseLine_of_quiet {l : Text} {s : ParserState}
    (h : itemList U l = none ∧ pytestTestname U l = none ∧ l ≠ "PASSED".toList ∧
      l ≠ "FAILED".toList) :
    pytestParseLine U l s = baseParseLine U l s := by
  obtain ⟨h1, h2, h3, h4⟩ := h
  unfold pytestParseLine
  rw [show (if s.allTestNames.isNone then itemList U l else none) = none by split <;> simp [h1]]
  simp only [h2]
  rw [if_neg h3, decide_eq_false h4, Bool.false_and, if_neg Bool.false_ne_true]
  rfl

/-- The grouping runners hand a body line, an announcement, and a
diagnostic of a kernel in flight to the shared protocol alone. -/
theorem parseLine_base (ct : CommandType) {l : Text} {s : ParserState}
    (h : BodyLine U ct l ∨ (announcement l).isSome ∨ (IsDiag l ∧ s.currentFile.isSome)) :
    (parseLine U ct l s).map Prod.snd = (baseParseLine U l s).map Prod.snd := by
  cases ct with
  | unknown => rfl
  | pytest =>
      show (pytestParseLine U l s).map _ = _
      rw [pytestParseLine_of_quiet U ?_]
      rcases h with h | h | ⟨h | h, -⟩
      · exact h
      · exact pytest_quiet_of_marker U (take_of_announcement h) (.inl rfl)
      · exact pytest_quiet_of_marker U h (.inr (.inl rfl))
      · exact pytest_quiet_of_marker U h (.inr (.inr rfl))
  | googletest =>
      show (gtestParseLine U l s).map _ = _
      unfold gtestParseLine
      cases hb : baseParseLine U l s with
      | error e => rfl
      | ok r =>
          obtain ⟨c, s'⟩ := r
          cases c with
          | true => rfl
          | false =>
              rcases h with ⟨h1, h2, h3⟩ | h
              · simp [h1, h2, h3]
              · cases baseParseLine_consumed U h hb
  | googlebench =>
      show (gbenchParseLine U l s).map _ = _
      unfold gbenchParseLine
      cases hb : baseParseLine U l s with
      | error e => rfl
      | ok r =>
          obtain ⟨c, s'⟩ := r
          cases c with
          | true => rfl
          | false =>
              rcases h with h | h
              · simp [show benchResult U l = none from h]
              · cases baseParseLine_consumed U h hb

-- ===================================================== a kernel's lines

/-- What a line adds to the `ptxas` buffer of the kernel in flight. -/
def ptxasPart (l : Text) : Text := if l.take 6 = ptxasMarker then l ++ ['\n'] else []

/-- What a line adds to the launch-parameter buffer of the kernel in flight. -/
def launchPart (l : Text) : Text := if l.take 19 = launchMarker then l ++ ['\n'] else []

theorem addDiag_of_inFlight {s : ParserState} {f : Text} (line : Text)
    (h : s.currentFile = some f) :
    addDiag line s =
      { s with ptxasInfo := s.ptxasInfo ++ ptxasPart line,
               launchParamsStr := s.launchParamsStr ++ launchPart line } := by
  cases s
  cases h
  unfold addDiag ptxasPart launchPart
  by_cases h10 : line.take 10 = printingMarker
  · have h6 : line.take 6 ≠ ptxasMarker :=
      take_ne_of_markers h10 2 (by decide) (by decide) (by decide)
    have h19 : line.take 19 ≠ launchMarker :=
      take_ne_of_markers h10 2 (by decide) (by decide) (by decide)
    simp [h10, h6, h19]
  · by_cases h6 : line.take 6 = ptxasMarker
    · have h19 : line.take 19 ≠ launchMarker :=
        take_ne_of_markers h6 2 (by decide) (by decide) (by decide)
      simp [h10, h6, h19]
    · by_cases h19 : line.take 19 = launchMarker <;> simp [h10, h6, h19]

/-- A kernel inside a bracket: its announced file, and the lines after the
announcement up to the next announcement or the bracket's end. -/
structure KernelDump where
  file : Text
  body : List Text
  deriving DecidableEq

/-- The lines of a kernel: its announcement, then its body. -/
def KernelDump.lines (k : KernelDump) : List Text := (printingMarker ++ k.file) :: k.body

/-- The kernel `finalize_kernel` builds for a kernel's lines: its file, with
the `ptxas` and launch-parameter lines of its body. -/
def buildKernel (k : KernelDump) : Except PyError CompiledKernel :=
  CompiledKernel.create U k.file (k.body.flatMap ptxasPart) (k.body.flatMap launchPart)

/-- A kernel's lines as a well-formed log has them for the runner `ct`: the
announced file ends in `.cu`, and every later line announces nothing and
is a diagnostic or a line the runner hands on. -/
structure KernelDump.WF (ct : CommandType) (k : KernelDump) : Prop where
  announces : announcement (printingMarker ++ k.file) = some k.file
  body : ∀ l ∈ k.body, announcement l = none ∧ (IsDiag l ∨ BodyLine U ct l)

variable {U}

theorem finalizeKernel_reset {s s₁ : ParserState} (h : finalizeKernel U s = .ok s₁) :
    s₁.resetKernelState = s₁ := by
  rw [finalizeKernel_eq] at h
  obtain ⟨_, -, rfl⟩ := except_map_eq_ok.mp h
  rfl

/-- Lines the runner hands on, outside a kernel, leave the state alone. -/
theorem parseClean_idle {ct : CommandType} {lead : List Text}
    (hl : ∀ l ∈ lead, Quiet U ct l) {s : ParserState}
    (hs : s.currentFile = none) : parseClean U ct lead s = .ok s := by
  induction lead with
  | nil => rfl
  | cons l ls ih =>
      obtain ⟨⟨ha, hb⟩, hls⟩ := List.forall_mem_cons.1 hl
      rw [parseClean, parseLine_base U ct (.inl hb), baseParseLine_quiet U ha]
      simp only [except_map_ok, except_ok_bind, addDiag_of_idle l hs]
      exact ih hls

/-- A kernel's body, while it is in flight, fills its buffers. -/
theorem parseClean_kernelBody {ct : CommandType} {body : List Text}
    (hb : ∀ l ∈ body, announcement l = none ∧ (IsDiag l ∨ BodyLine U ct l)) {s : ParserState}
    {f : Text} (hs : s.currentFile = some f) :
    parseClean U ct body s =
      .ok { s with ptxasInfo := s.ptxasInfo ++ body.flatMap ptxasPart,
                   launchParamsStr := s.launchParamsStr ++ body.flatMap launchPart } := by
  induction body generalizing s with
  | nil => simp [parseClean]
  | cons l ls ih =>
      obtain ⟨⟨ha, hd⟩, hls⟩ := List.forall_mem_cons.1 hb
      have hl : BodyLine U ct l ∨ (announcement l).isSome ∨ (IsDiag l ∧ s.currentFile.isSome) := by
        rcases hd with hd | hd
        · exact .inr (.inr ⟨hd, by simp [hs]⟩)
        · exact .inl hd
      rw [parseClean, parseLine_base U ct hl, baseParseLine_quiet U ha]
      simp only [except_map_ok, except_ok_bind]
      rw [ih hls (by rw [addDiag_currentFile, hs]), addDiag_of_inFlight l hs]
      simp [List.append_assoc]

/-- One kernel's lines: the kernel in flight is finalised, and this kernel is
in flight with its own diagnostics. -/
theorem parseClean_kernel {ct : CommandType} {k : KernelDump} (hk : k.WF U ct) (s : ParserState) :
    parseClean U ct k.lines s = (finalizeKernel U s).map fun s₁ =>
      { s₁ with currentFile := some k.file, ptxasInfo := k.body.flatMap ptxasPart,
                 launchParamsStr := k.body.flatMap launchPart } := by
  have ha : (announcement (printingMarker ++ k.file)).isSome := by rw [hk.announces]; rfl
  rw [KernelDump.lines, parseClean, parseLine_base U ct (.inr (.inl ha)),
    baseParseLine_announce U hk.announces]
  cases hf : finalizeKernel U s with
  | error e => rfl
  | ok s₁ =>
      have hr := finalizeKernel_reset hf
      simp only [except_map_ok, except_ok_bind]
      rw [parseClean_kernelBody hk.body rfl, ← hr]
      rfl

/-- A run of kernels, then a finalisation: the kernel in flight before them
is finalised, and each of them is built in order. -/
theorem parseClean_kernels {ct : CommandType} {ks : List KernelDump} (hk : ∀ k ∈ ks, k.WF U ct)
    (s : ParserState) :
    (parseClean U ct (ks.flatMap KernelDump.lines) s >>= finalizeKernel U) =
      finalizeKernel U s >>= fun s₁ =>
        (ks.mapM (buildKernel U)).map fun done => { s₁ with kernels := s₁.kernels ++ done } := by
  induction ks generalizing s with
  | nil =>
      show finalizeKernel U s = _
      cases finalizeKernel U s with
      | error e => rfl
      | ok s₁ =>
          show _ = .ok { s₁ with kernels := s₁.kernels ++ [] }
          simp
  | cons k ks ih =>
      obtain ⟨hk₀, hks⟩ := List.forall_mem_cons.1 hk
      rw [List.flatMap_cons, parseClean_append, parseClean_kernel hk₀]
      cases hf : finalizeKernel U s with
      | error e => rfl
      | ok s₁ =>
          have hr := finalizeKernel_reset hf
          simp only [except_map_ok, except_ok_bind, ih hks, List.mapM_cons]
          rw [finalizeKernel_eq]
          show ((buildKernel U k).map ([·])).map _ >>= _ = _
          cases buildKernel U k with
          | error e => rfl
          | ok kk =>
              simp only [except_map_ok, except_ok_bind]
              cases List.mapM (buildKernel U) ks with
              | error e => rfl
              | ok done =>
                  obtain ⟨⟩ := s₁
                  cases hr
                  simp

theorem finalizeKernel_currentTest {s s₁ : ParserState} (h : finalizeKernel U s = .ok s₁) :
    s₁.currentTest = s.currentTest := by
  rw [finalizeKernel_eq] at h
  obtain ⟨_, -, rfl⟩ := except_map_eq_ok.mp h
  rfl

/-- After a run of kernels the test in flight is unchanged, and a kernel is
in flight exactly when the run announced one or one was in flight before. -/
theorem parseClean_kernels_state {ct : CommandType} {ks : List KernelDump}
    (hk : ∀ k ∈ ks, k.WF U ct) {s s' : ParserState}
    (h : parseClean U ct (ks.flatMap KernelDump.lines) s = .ok s') :
    s'.currentTest = s.currentTest ∧ (s'.currentFile.isSome ↔ ks ≠ [] ∨ s.currentFile.isSome) := by
  induction ks generalizing s with
  | nil =>
      cases h
      simp
  | cons k ks ih =>
      obtain ⟨hk₀, hks⟩ := List.forall_mem_cons.1 hk
      rw [List.flatMap_cons, parseClean_append, parseClean_kernel hk₀] at h
      obtain ⟨_, h₂, h⟩ := except_bind_eq_ok.mp h
      obtain ⟨s₁, h₁, rfl⟩ := except_map_eq_ok.mp h₂
      obtain ⟨ht, hf⟩ := ih hks h
      exact ⟨ht.trans (finalizeKernel_currentTest h₁ :), by simp [hf]⟩

-- ===================================================== a bracket's body

variable (U)

/-- The lines of a bracket between its opening and its terminator: lines
before the first announcement, then the kernels. -/
structure BracketBody where
  lead : List Text
  kernels : List KernelDump
  deriving DecidableEq

/-- A bracket body's lines, in order. -/
def BracketBody.lines (b : BracketBody) : List Text :=
  b.lead ++ b.kernels.flatMap KernelDump.lines

/-- A bracket body as a well-formed log has it for the runner `ct`. -/
structure BracketBody.WF (ct : CommandType) (b : BracketBody) : Prop where
  lead : ∀ l ∈ b.lead, Quiet U ct l
  kernels : ∀ k ∈ b.kernels, k.WF U ct

/-- A state between brackets: no kernel in flight or finished, and no
diagnostic buffered. -/
structure Idle (s : ParserState) : Prop where
  file : s.currentFile = none
  kernels : s.kernels = []
  ptxas : s.ptxasInfo = []
  launch : s.launchParamsStr = []

/-- The test `finalize_test` stores under `name`, with the benchmark result
`bench` attached, and the state it leaves. -/
def closeTest (name : Text) (passed : Bool) (bench : Option BenchmarkResult) (s : ParserState) :
    CompiledTest × ParserState :=
  let t : CompiledTest :=
    { name := name, kernels := s.kernels, passed := passed, benchmarkResult := bench }
  (t, { s with kernelMap := s.kernelMap.set name t }.resetTestState)

variable {U}

theorem Idle.update {s : ParserState} (hs : Idle s) (m : KernelMap) (t : Option Text) :
    Idle { s with kernelMap := m, currentTest := t } :=
  ⟨hs.file, hs.kernels, hs.ptxas, hs.launch⟩

theorem finalizeKernel_idle {s : ParserState} (hs : Idle s) : finalizeKernel U s = .ok s := by
  obtain ⟨km, cf, pi, lp, ct, ks, atn⟩ := s
  obtain ⟨rfl, -, rfl, rfl⟩ := hs
  rfl

/-- `finalize_kernel` does not read the test in flight. -/
theorem finalizeKernel_setTest (s : ParserState) (t : Option Text) :
    finalizeKernel U { s with currentTest := t } =
      (finalizeKernel U s).map fun s₁ => { s₁ with currentTest := t } := by
  rw [finalizeKernel_eq, finalizeKernel_eq,
    show inFlight U { s with currentTest := t } = inFlight U s from rfl]
  cases inFlight U s <;> rfl

theorem finalizeTest_of_currentTest {s : ParserState} {name : Text} (passed : Bool)
    (h : s.currentTest = some name) :
    finalizeTest U passed s = (finalizeKernel U s).map (closeTest name passed none) := by
  unfold finalizeTest
  rw [h]
  cases finalizeKernel U s <;> rfl

/-- A bracket's body from a state between brackets, then its test closed
under `name`: the test holds the body's kernels, built in order, and the
state is between brackets again. -/
theorem parseClean_body_close {ct : CommandType} {b : BracketBody} (hb : b.WF U ct)
    {s : ParserState} (hs : Idle s) (name : Text) (passed : Bool) (bench : Option BenchmarkResult) :
    (parseClean U ct b.lines s >>= fun s' =>
        (finalizeKernel U { s' with currentTest := some name }).map fun s₁ =>
          (closeTest name passed bench s₁).2) =
      (b.kernels.mapM (buildKernel U)).map fun done =>
        { s with kernelMap := s.kernelMap.set name ⟨name, done, passed, bench⟩, currentTest := none } := by
  have hk := parseClean_kernels hb.kernels s
  rw [finalizeKernel_idle hs, except_ok_bind] at hk
  rw [BracketBody.lines, parseClean_append, parseClean_idle hb.lead hs.file, except_ok_bind]
  simp only [finalizeKernel_setTest, except_map_map, ← except_map_bind, hk]
  congr 1
  funext done
  obtain ⟨km, cf, pi, lp, ct, ks, atn⟩ := s
  obtain ⟨rfl, rfl, rfl, rfl⟩ := hs
  rfl

/-- After a bracket's body the test in flight is unchanged, and a kernel is
in flight exactly when the body announced one. -/
theorem parseClean_body_state {ct : CommandType} {b : BracketBody} (hb : b.WF U ct)
    {s s' : ParserState} (hs : s.currentFile = none) (h : parseClean U ct b.lines s = .ok s') :
    s'.currentTest = s.currentTest ∧ (s'.currentFile.isSome ↔ b.kernels ≠ []) := by
  rw [BracketBody.lines, parseClean_append, parseClean_idle hb.lead hs, except_ok_bind] at h
  simpa [hs] using parseClean_kernels_state hb.kernels h

theorem setTest_self {s : ParserState} {t : Option Text} (h : s.currentTest = t) :
    { s with currentTest := t } = s := by
  obtain ⟨⟩ := s
  subst h
  rfl

theorem parseClean_singleton (ct : CommandType) (l : Text) (s : ParserState) :
    parseClean U ct [l] s = (parseLine U ct l s).map Prod.snd := by
  show _ >>= _ = _
  cases (parseLine U ct l s).map Prod.snd <;> rfl

-- ===================================================== the kernel map a log describes

variable (U)

/-- A test as a well-formed log shows it: its name and verdict, the
benchmark result its terminator reports, and its bracket's body. -/
structure Bracket where
  name : Text
  passed : Bool
  bench : Option BenchmarkResult
  body : BracketBody
  deriving DecidableEq

/-- The test a bracket describes: its kernels are those announced in its
body, in order, each built from its own diagnostics. -/
def Bracket.test (b : Bracket) : Except PyError CompiledTest :=
  (b.body.kernels.mapM (buildKernel U)).map fun ks =>
    { name := b.name, kernels := ks, passed := b.passed, benchmarkResult := b.bench }

/-- A bracket's entry in a kernel map: its name and its test. -/
def Bracket.entry (b : Bracket) : Except PyError (Text × CompiledTest) :=
  (b.test U).map (b.name, ·)

/-- A bracket's test stored under its name. -/
def storeTest (b : Bracket) (m : KernelMap) : Except PyError KernelMap :=
  (b.test U).map (m.set b.name)

/-- The kernel map a log's brackets describe: one test per bracket, keyed by
its name, in the order of the brackets. -/
def bracketMap (bs : List Bracket) : Except PyError KernelMap :=
  bs.foldlM (fun m b => storeTest U b m) Dict.empty

variable {U}

/-- With distinct names, the map holds one entry per bracket, in order. -/
theorem foldlM_storeTest_entries : ∀ {bs : List Bracket} {m : KernelMap},
    (bs.map (·.name)).Nodup → (∀ b ∈ bs, b.name ∉ m.keys) →
    (bs.foldlM (fun m b => storeTest U b m) m).map (·.entries) =
      (bs.mapM (Bracket.entry U)).map (m.entries ++ ·)
  | [], m, _, _ => by
      show Except.ok m.entries = .ok (m.entries ++ [])
      rw [List.append_nil]
  | b :: bs, m, hd, hm => by
      obtain ⟨hb, hd⟩ := List.nodup_cons.1 hd
      obtain ⟨hbm, hm⟩ := List.forall_mem_cons.1 hm
      rw [List.foldlM_cons, List.mapM_cons, storeTest, Bracket.entry]
      cases b.test U with
      | error e => rfl
      | ok t =>
          have hm' : ∀ b' ∈ bs, b'.name ∉ (m.set b.name t).keys := fun b' hb' => by
            rw [Dict.keys_set, if_neg hbm, List.mem_append, List.mem_singleton, not_or]
            exact ⟨hm b' hb', fun he => hb (by simpa [he] using List.mem_map_of_mem (·.name) hb')⟩
          simp only [except_map_ok, except_ok_bind, foldlM_storeTest_entries hd hm',
            Dict.entries_set_of_not_mem t hbm]
          cases bs.mapM (Bracket.entry U) <;> simp

/-- With distinct names, the map a log's brackets describe holds exactly one
test per bracket, under its name, in the order of the brackets. -/
theorem bracketMap_entries {bs : List Bracket} (hd : (bs.map (·.name)).Nodup) :
    (bracketMap U bs).map (·.entries) = bs.mapM (Bracket.entry U) := by
  rw [bracketMap, foldlM_storeTest_entries hd (fun _ _ h => by simp at h)]
  cases bs.mapM (Bracket.entry U) <;> rfl

-- ===================================================== lines between brackets

/-- A line without the shared protocol's markers. -/
def Unmarked (l : Text) : Prop :=
  l.take 10 ≠ printingMarker ∧ l.take 6 ≠ ptxasMarker ∧ l.take 19 ≠ launchMarker

instance : DecidablePred Unmarked := fun _ => inferInstanceAs (Decidable (_ ∧ _ ∧ _))

theorem baseParseLine_unmarked {l : Text} (h : Unmarked l) (s : ParserState) :
    baseParseLine U l s = .ok (false, s) := by
  simp only [baseParseLine, if_neg h.1, if_neg h.2.1, if_neg h.2.2]

theorem unmarked_of_gtest {l m : Text} (h : l.take 13 = m)
    (hm : m = runMarker ∨ m = okMarker ∨ m = failedMarker) : Unmarked l := by
  refine ⟨take_ne_of_markers h 1 ?_ ?_ ?_, take_ne_of_markers h 1 ?_ ?_ ?_,
    take_ne_of_markers h 1 ?_ ?_ ?_⟩ <;> rcases hm with rfl | rfl | rfl <;> decide

/-- pytest's item list `Running N items in this shard: …` opens with
`Running `. -/
theorem itemList_take {l x : Text} (h : itemList U l = some x) : l.take 8 = "Running ".toList := by
  unfold itemList at h
  dsimp only at h
  split at h
  · next hp => exact (List.prefix_iff_eq_take.1 (List.isPrefixOf_iff_prefix.1 hp)).symm
  · cases h

/-- A line that opens with `Running ` carries no marker, verdict or test
identifier. -/
theorem running_quiet {l : Text} (h : l.take 8 = "Running ".toList) :
    Unmarked l ∧ pytestTestname U l = none ∧ l ≠ "PASSED".toList ∧ l ≠ "FAILED".toList := by
  obtain ⟨r, rfl⟩ : ∃ r, l = "Running ".toList ++ r := ⟨l.drop 8, eq_append_of_take h⟩
  refine ⟨⟨take_ne_of_markers h 1 ?_ ?_ ?_, take_ne_of_markers h 1 ?_ ?_ ?_,
    take_ne_of_markers h 1 ?_ ?_ ?_⟩, rfl, fun e => ?_, fun e => ?_⟩ <;> try decide
  all_goals exact absurd (congrArg (List.take 8) e) (by rw [h]; decide)

variable (U) in
/-- A line between brackets that the runner consumes without touching the
kernel map: a quiet line; for GoogleTest also a `FAILED` line, such as the
failure summary after the last test; for pytest also the item list. -/
def Between : CommandType → Text → Prop
  | .googletest, l => Quiet U .googletest l ∨ l.take 13 = failedMarker
  | .pytest, l => Quiet U .pytest l ∨ (itemList U l).isSome
  | ct, l => Quiet U ct l

instance (ct : CommandType) : DecidablePred (Between U ct) := fun l =>
  match ct with
  | .unknown => inferInstanceAs (Decidable (Quiet U .unknown l))
  | .googletest => inferInstanceAs (Decidable (_ ∨ _))
  | .googlebench => inferInstanceAs (Decidable (Quiet U .googlebench l))
  | .pytest => inferInstanceAs (Decidable (_ ∨ _))

example : Between UnicodeDB.asciiOnly .googletest "[  FAILED  ] 1 test, listed below:".toList ∧
    Between UnicodeDB.asciiOnly .pytest "Running 2 items in this shard: a.py::t, a.py::u".toList ∧
    ¬ Between UnicodeDB.asciiOnly .pytest "a.py::t PASSED".toList := by
  decide

theorem Idle.names {s : ParserState} (hs : Idle s) (n : Option (List Text)) :
    Idle { s with allTestNames := n } :=
  ⟨hs.file, hs.kernels, hs.ptxas, hs.launch⟩

/-- A line between brackets, from a state between brackets, changes at most
pytest's list of test names. -/
theorem parseLine_between {ct : CommandType} {l : Text} (h : Between U ct l) {s : ParserState}
    (hs : Idle s) : ∃ n, (parseLine U ct l s).map Prod.snd = .ok { s with allTestNames := n } := by
  have hquiet : Quiet U ct l → (parseLine U ct l s).map Prod.snd = .ok s := fun ⟨ha, hb⟩ => by
    rw [parseLine_base U ct (.inl hb), baseParseLine_quiet U ha, except_map_ok,
      addDiag_of_idle l hs.file]
  cases ct with
  | unknown => exact ⟨s.allTestNames, hquiet h⟩
  | googlebench => exact ⟨s.allTestNames, hquiet h⟩
  | googletest =>
      refine ⟨s.allTestNames, ?_⟩
      rcases h with h | h
      · exact hquiet h
      · have h₁ : failedMarker ≠ runMarker := by decide
        have h₂ : failedMarker ≠ okMarker := by decide
        have hf : s.currentFile.isSome = false := by rw [hs.file]; rfl
        simp [parseLine, gtestParseLine, baseParseLine_unmarked (unmarked_of_gtest h (.inr (.inr rfl))),
          h, h₁, h₂, hf]
  | pytest =>
      rcases h with h | h
      · exact ⟨s.allTestNames, hquiet h⟩
      · obtain ⟨x, hx⟩ := Option.isSome_iff_exists.1 h
        obtain ⟨hu, ht, hp, hf⟩ := running_quiet (U := U) (itemList_take hx)
        cases hn : s.allTestNames with
        | none => exact ⟨some (splitOnGo ", ".toList 0 [] x), by simp [parseLine, pytestParseLine, hn, hx]⟩
        | some ns =>
            have hp' : l ≠ ['P', 'A', 'S', 'S', 'E', 'D'] := hp
            have hf' : l ≠ ['F', 'A', 'I', 'L', 'E', 'D'] := hf
            refine ⟨s.allTestNames, (?_ : _ = Except.ok s)⟩
            simp [parseLine, pytestParseLine, hn, ht, hp', hf', baseParseLine_unmarked hu]

/-- Lines between brackets, from a state between brackets, change at most
pytest's list of test names. -/
theorem parseClean_between {ct : CommandType} {ls : List Text} (hl : ∀ l ∈ ls, Between U ct l)
    {s : ParserState} (hs : Idle s) : ∃ n, parseClean U ct ls s = .ok { s with allTestNames := n } := by
  induction ls generalizing s with
  | nil => exact ⟨s.allTestNames, rfl⟩
  | cons l ls ih =>
      obtain ⟨hl₀, hls⟩ := List.forall_mem_cons.1 hl
      obtain ⟨n₁, h₁⟩ := parseLine_between hl₀ hs
      obtain ⟨n, h⟩ := ih hls (hs.names n₁)
      exact ⟨n, by rw [parseClean, h₁, except_ok_bind, h]⟩

-- ===================================================== logs made of brackets

variable (U)

/-- A log of the runner `ct` made of brackets, each of which `IsBracket`
relates to the test it describes, and of lines between the brackets that
the runner consumes without touching the kernel map (`Between`). -/
inductive BracketLog (ct : CommandType) (IsBracket : List Text → Bracket → Prop) :
    List Text → List Bracket → Prop
  | quiet {ls : List Text} (h : ∀ l ∈ ls, Between U ct l) : BracketLog ct IsBracket ls []
  | bracket {pre ls rest : List Text} {b : Bracket} {bs : List Bracket}
      (hpre : ∀ l ∈ pre, Between U ct l) (hb : IsBracket ls b)
      (hrest : BracketLog ct IsBracket rest bs) :
      BracketLog ct IsBracket (pre ++ ls ++ rest) (b :: bs)

variable {U}

section run

variable {ct : CommandType} {IsBracket : List Text → Bracket → Prop}
  {store : Bracket → KernelMap → Except PyError KernelMap}

/-- If every bracket, from a state between brackets, leaves another one
with the kernel map `store` gives, a log of brackets leaves the kernel map
their fold gives. -/
theorem parseClean_bracketLog
    (hstep : ∀ (ls : List Text) (b : Bracket) (s : ParserState), IsBracket ls b → Idle s →
      ∃ t, parseClean U ct ls s =
        (store b s.kernelMap).map fun m => { s with kernelMap := m, currentTest := t })
    {lines : List Text} {bs : List Bracket} (h : BracketLog U ct IsBracket lines bs)
    {s : ParserState} (hs : Idle s) :
    ∃ t n, parseClean U ct lines s =
      (bs.foldlM (fun m b => store b m) s.kernelMap).map fun m =>
        { s with kernelMap := m, currentTest := t, allTestNames := n } := by
  induction h generalizing s with
  | quiet hq =>
      obtain ⟨n, hn⟩ := parseClean_between hq hs
      exact ⟨s.currentTest, n, hn⟩
  | bracket hpre hb _ ih =>
      obtain ⟨n₁, h₀⟩ := parseClean_between hpre hs
      obtain ⟨t₁, h₁⟩ := hstep _ _ _ hb (hs.names n₁)
      rw [parseClean_append, parseClean_append, h₀, except_ok_bind, h₁, List.foldlM_cons]
      cases store _ s.kernelMap with
      | error e => exact ⟨t₁, n₁, rfl⟩
      | ok m => exact ih ((hs.names n₁).update m t₁)

/-- The same over a whole log, from a freshly constructed parser: the
kernel map is the brackets' fold, and `finalize` adds nothing. -/
theorem runParser_bracketLog
    (hstep : ∀ (ls : List Text) (b : Bracket) (s : ParserState), IsBracket ls b → Idle s →
      ∃ t, parseClean U ct ls s =
        (store b s.kernelMap).map fun m => { s with kernelMap := m, currentTest := t })
    {lines : List Text} {bs : List Bracket} (h : BracketLog U ct IsBracket (lines.map cleanLine) bs) :
    (runParser U ct lines).map (·.kernelMap) = bs.foldlM (fun m b => store b m) Dict.empty := by
  obtain ⟨t, n, ht⟩ := parseClean_bracketLog hstep h (⟨rfl, rfl, rfl, rfl⟩ : Idle {})
  rw [runParser, parseLines_eq_parseClean, ht]
  cases bs.foldlM (fun m b => store b m) Dict.empty <;> rfl

end run

-- ===================================================== GoogleTest

/-- A `RUN` line names the test in flight. -/
theorem gtestParseLine_run (name : Text) (s : ParserState) :
    gtestParseLine U (runMarker ++ name) s = .ok (true, { s with currentTest := some name }) := by
  have hlen : runMarker.length = 13 := rfl
  rw [gtestParseLine, baseParseLine_unmarked (unmarked_of_gtest (List.take_left' hlen) (.inl rfl))]
  simp [List.take_left' hlen, List.drop_left' hlen]

/-- A terminator with the test `name` in flight closes it, except a
`FAILED` line with no kernel in flight. -/
theorem gtestParseLine_close {c : Text} {passed : Bool}
    (hc : c.take 13 = if passed then okMarker else failedMarker) {s : ParserState} {name : Text}
    (ht : s.currentTest = some name) :
    (gtestParseLine U c s).map Prod.snd =
      if passed || s.currentFile.isSome then
        (finalizeKernel U s).map fun s₁ => (closeTest name passed none s₁).2
      else .ok s := by
  rw [gtestParseLine, baseParseLine_unmarked (unmarked_of_gtest hc (by cases passed <;> simp))]
  cases passed
  · rw [if_neg Bool.false_ne_true] at hc
    have h₁ : failedMarker ≠ runMarker := by decide
    have h₂ : failedMarker ≠ okMarker := by decide
    simp only [except_ok_bind, hc, if_neg h₁, if_neg h₂, ↓reduceIte, ht, Option.isSome_some,
      Bool.true_and, Bool.false_or, finalizeTest_of_currentTest false ht]
    cases s.currentFile.isSome <;> cases finalizeKernel U s <;> rfl
  · rw [if_pos rfl] at hc
    have h₁ : okMarker ≠ runMarker := by decide
    simp only [except_ok_bind, hc, if_neg h₁, ↓reduceIte, Bool.true_or,
      finalizeTest_of_currentTest true ht]
    cases finalizeKernel U s <;> rfl

variable (U)

/-- A GoogleTest bracket: its `RUN` line, its body, and the `OK` or
`FAILED` line that ends it. -/
inductive GTestBracket : List Text → Bracket → Prop
  | mk {name c : Text} {body : BracketBody} {passed : Bool}
      (hc : c.take 13 = if passed then okMarker else failedMarker) (hb : body.WF U .googletest) :
      GTestBracket ((runMarker ++ name) :: body.lines ++ [c]) ⟨name, passed, none, body⟩

/-- What a GoogleTest bracket stores: its test, but nothing for a `FAILED`
bracket without kernels. -/
def gtestStore (b : Bracket) (m : KernelMap) : Except PyError KernelMap :=
  if b.passed || !b.body.kernels.isEmpty then storeTest U b m else .ok m

variable {U}

theorem gtestBracket_step {ls : List Text} {b : Bracket} {s : ParserState}
    (h : GTestBracket U ls b) (hs : Idle s) :
    ∃ t, parseClean U .googletest ls s =
      (gtestStore U b s.kernelMap).map fun m => { s with kernelMap := m, currentTest := t } := by
  obtain ⟨hc, hb⟩ := h
  rename_i name c body passed
  have hs₁ : Idle { s with currentTest := some name } := hs.update _ _
  have hclose : ∀ s', parseClean U .googletest body.lines { s with currentTest := some name } = .ok s' →
      parseClean U .googletest [c] s' =
        if passed || !body.kernels.isEmpty then
          (finalizeKernel U { s' with currentTest := some name }).map fun s₁ =>
            (closeTest name passed none s₁).2
        else .ok s' := by
    intro s' h'
    obtain ⟨ht, hf⟩ := parseClean_body_state hb hs₁.file h'
    rw [parseClean_singleton, parseLine, gtestParseLine_close hc ht, setTest_self ht]
    simp [hf, List.isEmpty_iff]
  rw [List.cons_append, parseClean, parseLine, gtestParseLine_run, except_map_ok, except_ok_bind,
    parseClean_append, except_bind_congr hclose, gtestStore, storeTest, Bracket.test]
  split
  · refine ⟨none, ?_⟩
    rw [parseClean_body_close hb hs₁]
    cases body.kernels.mapM (buildKernel U) <;> rfl
  · next hk =>
    have hnil : body.kernels = [] := by
      simp only [Bool.or_eq_true, Bool.not_eq_true', List.isEmpty_eq_false, not_or,
        not_not] at hk
      exact hk.2
    refine ⟨some name, ?_⟩
    rw [BracketBody.lines, hnil, List.flatMap_nil, List.append_nil,
      parseClean_idle hb.lead hs₁.file]
    rfl

theorem foldlM_gtestStore (bs : List Bracket) (m : KernelMap) :
    bs.foldlM (fun m b => gtestStore U b m) m =
      (bs.filter fun b => b.passed || !b.body.kernels.isEmpty).foldlM
        (fun m b => storeTest U b m) m := by
  induction bs generalizing m with
  | nil => rfl
  | cons b bs ih =>
      rw [List.foldlM_cons, gtestStore, List.filter_cons]
      split
      · rw [List.foldlM_cons]
        cases storeTest U b m with
        | error e => rfl
        | ok m' => exact ih m'
      · exact ih m

/-- A GoogleTest log of brackets leaves the kernel map its brackets
describe, without the `FAILED` brackets that announced no kernel. -/
theorem runParser_googletest {lines : List Text} {bs : List Bracket}
    (h : BracketLog U .googletest (GTestBracket U) (lines.map cleanLine) bs) :
    (runParser U .googletest lines).map (·.kernelMap) =
      bracketMap U (bs.filter fun b => b.passed || !b.body.kernels.isEmpty) := by
  rw [runParser_bracketLog (fun _ _ _ hb hs => gtestBracket_step hb hs) h, foldlM_gtestStore]
  rfl

-- ===================================================== Google Benchmark

/-- The benchmark result a result line's fields give. -/
def BenchFields.result (f : BenchFields) : BenchmarkResult :=
  ⟨f.gputime, f.gputimeunit, f.cputime, f.cputimeunit, some f.iterations⟩

/-- A result line names the test, closes it as passed, and attaches the
result. -/
theorem gbenchParseLine_result {c : Text} {f : BenchFields} (hc : benchResult U c = some f)
    (hu : Unmarked c) (s : ParserState) :
    (gbenchParseLine U c s).map Prod.snd =
      (finalizeKernel U { s with currentTest := some f.testname }).map fun s₁ =>
        (closeTest f.testname true (some f.result) s₁).2 := by
  have ht : ({ s with currentTest := some f.testname } : ParserState).currentTest =
      some f.testname := rfl
  rw [gbenchParseLine, baseParseLine_unmarked hu]
  simp only [except_ok_bind, Bool.false_eq_true, ↓reduceIte, hc, finalizeTest_of_currentTest true ht]
  cases finalizeKernel U { s with currentTest := some f.testname } with
  | error e => rfl
  | ok s₁ =>
      simp only [except_map_ok, except_ok_bind, except_pure, closeTest,
        ParserState.resetTestState_kernelMap, Dict.set_set]
      rfl

variable (U)

/-- A Google Benchmark bracket: its body, and the result line that ends it
and names it. -/
inductive GBenchBracket : List Text → Bracket → Prop
  | mk {c : Text} {f : BenchFields} {body : BracketBody} (hc : benchResult U c = some f)
      (hu : Unmarked c) (hb : body.WF U .googlebench) :
      GBenchBracket (body.lines ++ [c]) ⟨f.testname, true, some f.result, body⟩

variable {U}

theorem gbenchBracket_step {ls : List Text} {b : Bracket} {s : ParserState}
    (h : GBenchBracket U ls b) (hs : Idle s) :
    ∃ t, parseClean U .googlebench ls s =
      (storeTest U b s.kernelMap).map fun m => { s with kernelMap := m, currentTest := t } := by
  obtain ⟨hc, hu, hb⟩ := h
  refine ⟨none, ?_⟩
  rw [parseClean_append, except_bind_congr fun s' _ => by
      rw [parseClean_singleton, parseLine, gbenchParseLine_result hc hu],
    parseClean_body_close hb hs, storeTest, Bracket.test]
  cases List.mapM (buildKernel U) _ <;> rfl

/-- A Google Benchmark log of brackets leaves the kernel map its brackets
describe. -/
theorem runParser_googlebench {lines : List Text} {bs : List Bracket}
    (h : BracketLog U .googlebench (GBenchBracket U) (lines.map cleanLine) bs) :
    (runParser U .googlebench lines).map (·.kernelMap) = bracketMap U bs :=
  runParser_bracketLog (fun _ _ _ hb hs => gbenchBracket_step hb hs) h

-- ===================================================== pytest

/-- pytest's verdict token. -/
def verdict (passed : Bool) : Text := if passed then "PASSED".toList else "FAILED".toList

theorem verdict_quiet (passed : Bool) :
    itemList U (verdict passed) = none ∧ pytestTestname U (verdict passed) = none := by
  cases passed <;> exact ⟨rfl, rfl⟩

/-- A line that opens with a test identifier acts as its rest would, with
that test in flight. -/
theorem pytestParseLine_testname {l name r : Text} (hi : itemList U l = none)
    (ht : pytestTestname U l = some (name, r))
    (hr : itemList U r = none ∧ pytestTestname U r = none) (s : ParserState) :
    pytestParseLine U l s = pytestParseLine U r { s with currentTest := some name } := by
  have h₁ : (if s.allTestNames.isNone then itemList U l else none) = none := by
    split <;> simp [hi]
  have h₂ : (if s.allTestNames.isNone then itemList U r else none) = none := by
    split <;> simp [hr.1]
  unfold pytestParseLine
  rw [h₁, show ({ s with currentTest := some name } : ParserState).allTestNames = s.allTestNames
    from rfl, h₂]
  simp only [ht, hr.2]

/-- A verdict with the test `name` in flight closes it. -/
theorem pytestParseLine_verdict (passed : Bool) {s : ParserState} {name : Text}
    (ht : s.currentTest = some name) :
    (pytestParseLine U (verdict passed) s).map Prod.snd =
      (finalizeKernel U s).map fun s₁ => (closeTest name passed none s₁).2 := by
  have hu : Unmarked (verdict passed) := by cases passed <;> decide
  have h₁ : (if s.allTestNames.isNone then itemList U (verdict passed) else none) = none := by
    split <;> simp [(verdict_quiet passed).1]
  unfold pytestParseLine
  rw [h₁]
  simp only [(verdict_quiet passed).2, baseParseLine_unmarked hu]
  cases passed
  · have hv : verdict false ≠ "PASSED".toList := by decide
    simp only [hv, ↓reduceIte, ht, Option.isSome_some, Bool.and_true,
      finalizeTest_of_currentTest false ht]
    cases finalizeKernel U s <;> rfl
  · simp only [show verdict true = "PASSED".toList from rfl, ↓reduceIte,
      finalizeTest_of_currentTest true ht]
    cases finalizeKernel U s <;> rfl

/-- The first line of a well-formed pytest body shows no identifier or item
list: a line the runner hands on, or an announcement. -/
theorem BracketBody.WF.head_quiet {b : BracketBody} (hb : b.WF U .pytest) {r : Text}
    {rest : List Text} (hr : b.lines = r :: rest) :
    itemList U r = none ∧ pytestTestname U r = none := by
  rw [BracketBody.lines] at hr
  cases hl : b.lead with
  | cons x xs =>
      rw [hl, List.cons_append, List.cons.injEq] at hr
      obtain ⟨-, h₁, h₂, -⟩ := hb.lead x (hl ▸ .head _)
      exact hr.1 ▸ ⟨h₁, h₂⟩
  | nil =>
      cases hk : b.kernels with
      | nil => simp [hl, hk] at hr
      | cons k ks =>
          rw [hl, hk, List.nil_append, List.flatMap_cons, KernelDump.lines, List.cons_append,
            List.cons.injEq] at hr
          rw [← hr.1]
          have := pytest_quiet_of_marker U (List.take_left' (show printingMarker.length = 10 from rfl))
            (.inl rfl) (l := printingMarker ++ k.file)
          exact ⟨this.1, this.2.1⟩

variable (U)

/-- A pytest bracket: the identifier's line with the verdict on it, or the
identifier's line, whose rest is the body's first line, the rest of the
body, and the verdict, bare or after the identifier. -/
inductive PyTestBracket : List Text → Bracket → Prop
  | single {o name : Text} {passed : Bool} (hi : itemList U o = none)
      (ho : pytestTestname U o = some (name, verdict passed)) :
      PyTestBracket [o] ⟨name, passed, none, ⟨[], []⟩⟩
  | lines {o name r c : Text} {rest : List Text} {body : BracketBody} {passed : Bool}
      (hi : itemList U o = none) (ho : pytestTestname U o = some (name, r))
      (hr : body.lines = r :: rest) (hb : body.WF U .pytest)
      (hc : c = verdict passed ∨
        (itemList U c = none ∧ pytestTestname U c = some (name, verdict passed))) :
      PyTestBracket (o :: rest ++ [c]) ⟨name, passed, none, body⟩

variable {U}

theorem pytestBracket_step {ls : List Text} {b : Bracket} {s : ParserState}
    (h : PyTestBracket U ls b) (hs : Idle s) :
    ∃ t, parseClean U .pytest ls s =
      (storeTest U b s.kernelMap).map fun m => { s with kernelMap := m, currentTest := t } := by
  refine ⟨none, ?_⟩
  cases h with
  | single hi ho =>
      rename_i o name passed
      have hs₁ : Idle { s with currentTest := some name } := hs.update _ _
      rw [parseClean_singleton, parseLine, pytestParseLine_testname hi ho (verdict_quiet passed),
        pytestParseLine_verdict passed rfl, finalizeKernel_idle hs₁]
      obtain ⟨km, cf, pi, lp, ct, ks, atn⟩ := s
      obtain ⟨rfl, rfl, rfl, rfl⟩ := hs
      rfl
  | lines hi ho hr hb hc =>
      rename_i o name r c rest body passed
      have hs₁ : Idle { s with currentTest := some name } := hs.update _ _
      have hclose : ∀ s', parseClean U .pytest body.lines { s with currentTest := some name } = .ok s' →
          parseClean U .pytest [c] s' =
            (finalizeKernel U { s' with currentTest := some name }).map fun s₁ =>
              (closeTest name passed none s₁).2 := by
        intro s' h'
        have ht := (parseClean_body_state hb hs₁.file h').1
        rw [parseClean_singleton, parseLine]
        rcases hc with rfl | ⟨hci, hct⟩
        · rw [pytestParseLine_verdict passed ht, setTest_self ht]
        · rw [pytestParseLine_testname hci hct (verdict_quiet passed), pytestParseLine_verdict passed rfl]
      rw [List.cons_append, parseClean, parseLine,
        pytestParseLine_testname hi ho (hb.head_quiet hr)]
      show parseClean U .pytest (r :: (rest ++ [c])) _ = _
      rw [← List.cons_append, ← hr, parseClean_append, except_bind_congr hclose,
        parseClean_body_close hb hs₁, storeTest, Bracket.test]
      cases body.kernels.mapM (buildKernel U) <;> rfl

/-- A pytest log of brackets leaves the kernel map its brackets describe. -/
theorem runParser_pytest {lines : List Text} {bs : List Bracket}
    (h : BracketLog U .pytest (PyTestBracket U) (lines.map cleanLine) bs) :
    (runParser U .pytest lines).map (·.kernelMap) = bracketMap U bs :=
  runParser_bracketLog (fun _ _ _ hb hs => pytestBracket_step hb hs) h

-- ===================================================== the three runners

variable (U) in
/-- A `mapM` whose every step returns, returns. -/
theorem except_mapM_isOk {α β ε : Type} {f : α → Except ε β} :
    ∀ {l : List α}, (∀ a ∈ l, (f a).isOk = true) → ∃ bs, l.mapM f = .ok bs
  | [], _ => ⟨[], rfl⟩
  | a :: l, h => by
      obtain ⟨b, hb⟩ := except_eq_ok_of_isOk (h a (.head _))
      obtain ⟨bs, hbs⟩ := except_mapM_isOk fun x hx => h x (.tail _ hx)
      exact ⟨b :: bs, by rw [List.mapM_cons, hb, hbs]; rfl⟩

/-- Brackets whose kernels all build have their entries. -/
theorem mapM_entry_isOk {bs : List Bracket}
    (hk : ∀ b ∈ bs, ∀ k ∈ b.body.kernels, (buildKernel U k).isOk) :
    ∃ es, bs.mapM (Bracket.entry U) = .ok es :=
  except_mapM_isOk fun b hb => by
    obtain ⟨ks, h⟩ := except_mapM_isOk (hk b hb)
    rw [Bracket.entry, Bracket.test, h]
    rfl

/-- A run whose kernel map is the fold of brackets with distinct names,
all of whose kernels build, holds the brackets' entries in order. -/
theorem runParser_entries {ct : CommandType} {lines : List Text} {bs : List Bracket}
    (hd : (bs.map (·.name)).Nodup) (hk : ∀ b ∈ bs, ∀ k ∈ b.body.kernels, (buildKernel U k).isOk)
    (h : (runParser U ct lines).map (·.kernelMap) = bracketMap U bs) :
    ∃ es, bs.mapM (Bracket.entry U) = .ok es ∧
      (runParser U ct lines).map (·.kernelMap.entries) = .ok es := by
  obtain ⟨es, hes⟩ := mapM_entry_isOk hk
  refine ⟨es, hes, ?_⟩
  rw [← hes, ← bracketMap_entries hd, ← h]
  cases runParser U ct lines <;> rfl

end CodeDiff
