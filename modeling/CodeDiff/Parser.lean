/-
The `LogParser` family: one state record and four `parse_line` methods,
selected by the run's command type as `TestRun.compute_kernel_map` does.

# The state

`ParserState` holds the fields the methods read and write: the kernel
map, the kernel in flight (`current_file` with its `ptxas_info` and
`launch_params_str` buffers), the test in flight and the kernels it has
finished, and `PyTest`'s `all_test_names`.

# The protocol

`baseParseLine` is `LogParser.parse_line`, the part every runner shares:
an announcement `PRINTING: <file>.cu` finalises the kernel in flight and
opens the next; `ptxas ` and `Launch Parameters: ` lines are appended to
the buffers of the kernel in flight, or reported and left unconsumed
when there is none. The runners wrap it: GoogleTest and Google Benchmark
consult it first and then look for their boundary lines; pytest looks
for its test identifiers and verdicts first and hands the rest of the
line to it.

Every method that finalises a kernel builds a `CompiledKernel`, which can
raise, and `finalize_test` asserts that a test is in flight; so a step is
`ParserState → Except PyError (Bool × ParserState)`, the `Bool` being
the method's "consumed" result. Warnings are printed and leave the state
as it was; they are not modelled beyond that.
-/
import CodeDiff.Kernel

namespace CodeDiff

variable (U : UnicodeDB)

/-- `CommandType`. -/
inductive CommandType
  | unknown
  | googletest
  | googlebench
  | pytest
  deriving DecidableEq, Repr

/-- `CommandType.from_string`: an unrecognised tag is `UNKNOWN` (with a
warning). -/
def CommandType.fromString (s : Text) : CommandType :=
  let l := lower s
  if l.take 3 = "unk".toList then .unknown
  else if l = "gtest".toList || l = "googletest".toList then .googletest
  else if l = "gbench".toList || l = "googlebench".toList then .googlebench
  else if l = "pytest".toList then .pytest
  else .unknown

/-- `str.split(sep)` for a non-empty separator, `cur` the piece so far in
reverse and `k` characters of a separator still to skip. -/
def splitOnGo (sep : Text) : Nat → Text → Text → List Text
  | _, cur, [] => [cur.reverse]
  | k + 1, cur, _ :: rest => splitOnGo sep k cur rest
  | 0, cur, c :: rest =>
      if sep.isPrefixOf (c :: rest) then cur.reverse :: splitOnGo sep (sep.length - 1) [] rest
      else splitOnGo sep 0 (c :: cur) rest

/-- The fields of a `LogParser` object. -/
structure ParserState where
  kernelMap : KernelMap := Dict.empty
  currentFile : Option Text := none
  ptxasInfo : Text := []
  launchParamsStr : Text := []
  currentTest : Option Text := none
  kernels : List CompiledKernel := []
  allTestNames : Option (List Text) := none
  deriving DecidableEq

namespace ParserState

/-- `reset_kernel_state`. -/
def resetKernelState (s : ParserState) : ParserState :=
  { s with currentFile := none, ptxasInfo := [], launchParamsStr := [] }

/-- `reset_test_state`. -/
def resetTestState (s : ParserState) : ParserState :=
  { s.resetKernelState with currentTest := none, kernels := [] }

@[simp] theorem resetKernelState_kernelMap (s : ParserState) :
    s.resetKernelState.kernelMap = s.kernelMap := rfl
@[simp] theorem resetKernelState_currentFile (s : ParserState) :
    s.resetKernelState.currentFile = none := rfl
@[simp] theorem resetKernelState_ptxasInfo (s : ParserState) :
    s.resetKernelState.ptxasInfo = [] := rfl
@[simp] theorem resetKernelState_launchParamsStr (s : ParserState) :
    s.resetKernelState.launchParamsStr = [] := rfl
@[simp] theorem resetKernelState_currentTest (s : ParserState) :
    s.resetKernelState.currentTest = s.currentTest := rfl
@[simp] theorem resetKernelState_kernels (s : ParserState) :
    s.resetKernelState.kernels = s.kernels := rfl
@[simp] theorem resetKernelState_allTestNames (s : ParserState) :
    s.resetKernelState.allTestNames = s.allTestNames := rfl
@[simp] theorem resetTestState_kernelMap (s : ParserState) :
    s.resetTestState.kernelMap = s.kernelMap := rfl
@[simp] theorem resetTestState_currentFile (s : ParserState) :
    s.resetTestState.currentFile = none := rfl
@[simp] theorem resetTestState_ptxasInfo (s : ParserState) :
    s.resetTestState.ptxasInfo = [] := rfl
@[simp] theorem resetTestState_launchParamsStr (s : ParserState) :
    s.resetTestState.launchParamsStr = [] := rfl
@[simp] theorem resetTestState_currentTest (s : ParserState) :
    s.resetTestState.currentTest = none := rfl
@[simp] theorem resetTestState_kernels (s : ParserState) :
    s.resetTestState.kernels = [] := rfl
@[simp] theorem resetTestState_allTestNames (s : ParserState) :
    s.resetTestState.allTestNames = s.allTestNames := rfl

end ParserState

-- ===================================================== finalisation

/-- The name of the synthetic test that collects ungrouped kernels. -/
def ungroupedName : Text := "Ungrouped Kernels".toList

/-- `finalize_kernel`: the kernel in flight, if any, is built and appended
to the test's kernels; the kernel state is reset. -/
def finalizeKernel (s : ParserState) : Except PyError ParserState :=
  match s.currentFile with
  | none => .ok s.resetKernelState
  | some f => do
      let k ← CompiledKernel.create U f s.ptxasInfo s.launchParamsStr
      pure { s with kernels := s.kernels ++ [k] }.resetKernelState

/-- `finalize_test`: asserts a test is in flight, finalises its last
kernel, stores the test under its name and resets the test state. -/
def finalizeTest (passed : Bool) (s : ParserState) :
    Except PyError (CompiledTest × ParserState) :=
  match s.currentTest with
  | none => .error .assertionError
  | some name => do
      let s ← finalizeKernel U s
      let t : CompiledTest := { name := name, kernels := s.kernels, passed := passed }
      pure (t, { s with kernelMap := s.kernelMap.set name t }.resetTestState)

/-- `finalize`: kernels finished outside any test go under
`Ungrouped Kernels`. The kernel still in flight is not finalised. -/
def finalize (s : ParserState) : ParserState :=
  if s.kernels.length > 0 then
    let t : CompiledTest := { name := ungroupedName, kernels := s.kernels }
    { s with kernelMap := s.kernelMap.set ungroupedName t }
  else s

-- ===================================================== parse_line

/-- The announcement marker. -/
def printingMarker : Text := "PRINTING: ".toList

/-- The ptxas diagnostic marker. -/
def ptxasMarker : Text := "ptxas ".toList

/-- The launch-parameter marker. -/
def launchMarker : Text := "Launch Parameters: ".toList

/-- `LogParser.parse_line`, the shared protocol. -/
def baseParseLine (line : Text) (s : ParserState) : Except PyError (Bool × ParserState) :=
  if line.take 10 = printingMarker then
    if line.drop (line.length - 3) = ".cu".toList then do
      let s ← finalizeKernel U s
      pure (true, { s with currentFile := some (line.drop 10) })
    else .ok (true, s)
  else if line.take 6 = ptxasMarker then
    match s.currentFile with
    | none => .ok (false, s)
    | some _ => .ok (true, { s with ptxasInfo := s.ptxasInfo ++ line ++ ['\n'] })
  else if line.take 19 = launchMarker then
    match s.currentFile with
    | none => .ok (false, s)
    | some _ => .ok (true, { s with launchParamsStr := s.launchParamsStr ++ line ++ ['\n'] })
  else .ok (false, s)

/-- GoogleTest's fixed-width markers. -/
def runMarker : Text := "[ RUN      ] ".toList
/-- GoogleTest's pass marker. -/
def okMarker : Text := "[       OK ] ".toList
/-- GoogleTest's failure marker. -/
def failedMarker : Text := "[  FAILED  ] ".toList

/-- `LogParserGTest.parse_line`. A `FAILED` line finalises only when a test
and a kernel are both in flight, to skip the failure summary. -/
def gtestParseLine (line : Text) (s : ParserState) : Except PyError (Bool × ParserState) := do
  let (consumed, s) ← baseParseLine U line s
  if consumed then return (true, s)
  if line.take 13 = runMarker then
    pure (true, { s with currentTest := some (line.drop 13) })
  else if line.take 13 = okMarker then do
    let (_, s) ← finalizeTest U true s
    pure (true, s)
  else if line.take 13 = failedMarker then
    if s.currentTest.isSome && s.currentFile.isSome then do
      let (_, s) ← finalizeTest U false s
      pure (true, s)
    else pure (true, s)
  else pure (false, s)

/-- `LogParserGBench.parse_line`: a result line names the test, finalises it
as passed and attaches the result to the stored test. -/
def gbenchParseLine (line : Text) (s : ParserState) : Except PyError (Bool × ParserState) := do
  let (consumed, s) ← baseParseLine U line s
  if consumed then return (true, s)
  match benchResult U line with
  | none => pure (false, s)
  | some f => do
      let (t, s) ← finalizeTest U true { s with currentTest := some f.testname }
      let br : BenchmarkResult := ⟨f.gputime, f.gputimeunit, f.cputime, f.cputimeunit,
        some f.iterations⟩
      let t := { t with benchmarkResult := some br }
      pure (true, { s with kernelMap := s.kernelMap.set f.testname t })

/-- `LogParserPyTest.parse_line`: the shard's item list (once), then a test
identifier (which becomes the test in flight, the rest of the line being
parsed on), then a bare verdict, then the shared protocol. -/
def pytestParseLine (line : Text) (s : ParserState) : Except PyError (Bool × ParserState) :=
  match (if s.allTestNames.isNone then itemList U line else none) with
  | some items => .ok (true, { s with allTestNames := some (splitOnGo ", ".toList 0 [] items) })
  | none => do
      let (s, line) := match pytestTestname U line with
        | some (name, rest) => ({ s with currentTest := some name }, rest)
        | none => (s, line)
      let s ← if line = "PASSED".toList then (finalizeTest U true s).map Prod.snd
        else if line = "FAILED".toList && s.currentTest.isSome then
          (finalizeTest U false s).map Prod.snd
        else pure s
      baseParseLine U line s

/-- The `parse_line` of the parser `compute_kernel_map` picks. -/
def parseLine : CommandType → Text → ParserState → Except PyError (Bool × ParserState)
  | .unknown => baseParseLine U
  | .googletest => gtestParseLine U
  | .googlebench => gbenchParseLine U
  | .pytest => pytestParseLine U

-- ===================================================== parse

/-- `ansi_re.sub("", line.rstrip())`: what `parse` hands to `parse_line`. -/
def cleanLine (line : Text) : Text :=
  stripAnsi (rstrip line)

/-- The loop of `parse` over the log's lines. -/
def parseLines (ct : CommandType) : List Text → ParserState → Except PyError ParserState
  | [], s => .ok s
  | line :: lines, s => do
      let (_, s) ← parseLine U ct (cleanLine line) s
      parseLines ct lines s

/-- Constructing the parser on a log: parse every line, then `finalize`. -/
def runParser (ct : CommandType) (lines : List Text) : Except PyError ParserState :=
  (parseLines U ct lines {}).map finalize

/-- Constructing the parser on the log file's contents. -/
def parseLogFile (ct : CommandType) (log : Text) : Except PyError KernelMap :=
  (runParser U ct (readlines log)).map (·.kernelMap)

end CodeDiff
