/-
`TestRun`: one executed command's captured artifacts, built from its run
directory, with `find_preamble`, `get_kernel` and the shard merge `join`.

# The directory

`RunDir` is what the tool can read of a run directory: its top-level
members by name, the listing of `cuda/` in `os.listdir` order (absent when
there is no such directory) and the files of `ptx/`. Kernel files are
looked up by the name the log announced; the tool joins that name onto
the run's own directory, so a name that is a file of another directory is
simply missing here.

# Git

`GitRev` shells out to `git`; `GitTool` is that collaborator, giving what
each invocation prints. `GitRev.__post_init__` walks the lines of
`git branch …` and, on a line starting with `*`, appends to `in_branches`,
a name the method never binds: a `NameError`.

# Mutation

`join` mutates its receiver statement by statement and can raise half way,
so it runs in `ExceptT PyError (StateM TestRun)`: on an exception the state
is the receiver as the statements before it left it.
-/
import CodeDiff.Parser

namespace CodeDiff

variable (U : UnicodeDB)

/-- What the tool reads of a run directory. -/
structure RunDir where
  path : Text
  files : List (Text × Text)
  cuda : Option (List (Text × Text))
  ptx : List (Text × Text)
  deriving DecidableEq, Repr

namespace RunDir

/-- `open(os.path.join(directory, name)).read()`, when the file exists. -/
def read (d : RunDir) (name : Text) : Option Text :=
  Dict.lookup name d.files

/-- The same read where a missing file is not caught. -/
def readRequired (d : RunDir) (name : Text) : Except PyError Text :=
  orRaise .fileNotFoundError (d.read name)

/-- `open(os.path.join(directory, "cuda", name)).read()`. -/
def cudaFile (d : RunDir) (name : Text) : Except PyError Text :=
  orRaise .fileNotFoundError (d.cuda.bind (Dict.lookup name))

/-- `open(os.path.join(directory, "ptx", name)).read()`, when it exists. -/
def ptxFile (d : RunDir) (name : Text) : Option Text :=
  Dict.lookup name d.ptx

/-- The PTX `get_kernel` leaves on a kernel: its file under `ptx/`,
right-stripped, or what the kernel already held when there is no such
file. -/
def kernelPtx (d : RunDir) (kern : CompiledKernel) : Option Text :=
  match d.ptxFile (splitextRoot kern.filename ++ ".ptx".toList) with
  | some p => some (rstrip p)
  | none => kern.ptx

end RunDir

-- ===================================================== git

/-- The `git` collaborator: the standard output of each invocation. -/
structure GitTool where
  /-- `git rev-parse --short <hash>`. -/
  revParseShort : Text → Text
  /-- `git branch --quiet --color=never <hash>`. -/
  branch : Text → Text
  /-- `git show --no-patch --format=<fmt> <hash>`. -/
  showFormat : Text → Text → Text

/-- `bytes.strip()`: ASCII whitespace only. -/
def bytesStrip (s : Text) : Text :=
  let ws := fun c : Char => c = ' ' || ('\t' ≤ c && c ≤ '\r')
  ((s.dropWhile ws).reverse.dropWhile ws).reverse

/-- `GitRev`, every field; `abbrevHash` is the source's `abbrev`. -/
structure GitRev where
  fullHash : Text
  diff : Option Text
  abbrevHash : Text
  title : Text
  authorName : Text
  authorEmail : Text
  authorTime : Text
  commitTime : Text
  deriving DecidableEq, Repr

/-- The loop over `git branch` lines: `line[0]` on an empty line is an
`IndexError`, a `*` line reaches the unbound `in_branches`. -/
def branchLoop : List Text → Except PyError Unit
  | [] => .ok ()
  | [] :: _ => .error .indexError
  | (c :: _) :: rest => if c = '*' then .error .nameError else branchLoop rest

/-- `GitRev(full_hash, diff=…)` with `__post_init__`. -/
def GitRev.create (git : GitTool) (fullHash : Text) (diff : Option Text) :
    Except PyError GitRev := do
  let abbrevHash := bytesStrip (git.revParseShort fullHash)
  branchLoop (splitlines (bytesStrip (git.branch fullHash)))
  let gitShow := fun fmt : String => bytesStrip (git.showFormat fmt.toList fullHash)
  pure ⟨fullHash, diff, abbrevHash, gitShow "%s", gitShow "%an", gitShow "%ae",
    gitShow "%ad", gitShow "%cd"⟩

-- ===================================================== the run

/-- `TestRun`, every field. -/
structure TestRun where
  directory : RunDir
  git : GitRev
  name : Text
  command : Text
  commandType : CommandType
  exitCode : Int
  env : Option Text
  gpuNames : Option (List Text)
  nvccVersion : Option Text
  kernelMap : KernelMap
  preamble : Text
  preambleSizeLines : Nat
  deriving DecidableEq

/-- `compute_kernel_map`: the parser the command type selects, run on
`stdout`, which must exist. -/
def computeKernelMap (d : RunDir) (ct : CommandType) : Except PyError KernelMap :=
  match d.read "stdout".toList with
  | none => .error .runtimeError
  | some log => parseLogFile U ct log

/-- The placeholder `find_preamble` puts in place of an index typedef. -/
def indexTypedefPlaceholder : Text :=
  "typedef int nvfuser_index_t; // NOTE: index type hard-coded as int for display only".toList

/-- A preamble line as `find_preamble` compares it: right-stripped, with an
index typedef replaced by the placeholder. -/
def preambleLine (line : Text) : Text :=
  let line := rstrip line
  if line.take 8 = "typedef ".toList &&
      line.drop (line.length - 17) = " nvfuser_index_t;".toList then
    indexTypedefPlaceholder
  else line

/-- The inner loop of `find_preamble` over one file's lines, from line `i`:
the preamble lines so far and the loop variable's last value. The first
file extends the preamble; later files stop at the first line that
differs from it. -/
def preambleLoop (first : Bool) : List Text → Nat → List Text → Option Nat →
    List Text × Option Nat
  | [], _, pre, last => (pre, last)
  | line :: lines, i, pre, _ =>
      let line := preambleLine line
      if isKernelDef U line then (pre, some i)
      else if first then preambleLoop first lines (i + 1) (pre ++ [line]) (some i)
      else if pre.length ≤ i || pre.get? i ≠ some line then (pre, some i)
      else preambleLoop first lines (i + 1) pre (some i)

/-- The outer loop of `find_preamble` over the listing of `cuda/`, with the
preamble so far, whether the next file is the first, the loop variable `i`
(which survives from one file to the next) and the files processed. -/
def preambleFiles : List (Text × Text) → List Text → Bool → Option Nat → Nat →
    Except PyError (List Text)
  | [], pre, _, _, _ => .ok pre
  | (_, content) :: files, pre, first, i, n =>
      match preambleLoop U first (readlines content) 0 pre i with
      | (_, none) => .error .nameError
      | (pre, some j) =>
          let pre := pre.take j
          if pre.length = 0 then .ok pre
          else if 50 ≤ n + 1 then .ok pre
          else preambleFiles files pre false (some j) (n + 1)

/-- `find_preamble`: the preamble text and its line count. -/
def findPreamble (d : RunDir) : Except PyError (Text × Nat) := do
  let listing ← orRaise .fileNotFoundError d.cuda
  let pre ← preambleFiles U listing [] true none 0
  pure (joinLines pre, pre.length)

/-- `TestRun(directory)`: `__post_init__`, reading the members in the
source's order. -/
def TestRun.create (git : GitTool) (d : RunDir) : Except PyError TestRun := do
  let name := match d.read "run_name".toList with
    | some t => rstrip t
    | none => basename d.path
  let gitdiff := d.read "git_diff".toList
  let gitHash ← rstrip <$> d.readRequired "git_hash".toList
  let gitRev ← GitRev.create git gitHash gitdiff
  let command ← d.readRequired "command".toList
  let commandType := match d.read "command_type".toList with
    | some t => CommandType.fromString (rstrip t)
    | none => .unknown
  let env := (d.read "env".toList).map fun t =>
    ((readlines t).filter fun l => !"testdir=".toList.isPrefixOf l).flatten
  let nvccVersion := d.read "nvcc_version".toList
  let gpuNames := (d.read "gpu_names".toList).map readlines
  let exitText ← d.readRequired "exitcode".toList
  let exitCode ← pyInt U exitText
  let kernelMap ← computeKernelMap U d commandType
  let (preamble, preambleSizeLines) ← findPreamble U d
  pure ⟨d, gitRev, name, command, commandType, exitCode, env, gpuNames, nvccVersion,
    kernelMap, preamble, preambleSizeLines⟩

-- ===================================================== get_kernel

/-- The code `get_kernel` keeps of a kernel file's lines: lines past the
preamble when stripping, each with `nvfuser_<digits>` replaced, then
right-stripped; when stripping, a final `}` (the namespace's) is cut and
the rest right-stripped again. `kern.code[-1]` on an empty body raises. -/
def kernelCode (preambleSizeLines : Nat) (stripPreamble : Bool) (lines : List Text) :
    Except PyError Text :=
  let kept := (lines.enum.filter fun p => !stripPreamble || preambleSizeLines ≤ p.1).map
    fun p => subNvfuser U p.2
  let code := rstrip kept.flatten
  if stripPreamble then
    match code.getLast? with
    | none => .error .indexError
    | some c => .ok (if c = '}' then rstrip code.dropLast else code)
  else .ok code

/-- `get_kernel(test_name, kernel_number, strip_preamble)`: the kernel with
its code, index type and PTX loaded. -/
def getKernel (r : TestRun) (testName : Text) (kernelNumber : Nat) (stripPreamble : Bool) :
    Except PyError CompiledKernel := do
  let t ← orRaise .keyError (r.kernelMap.get? testName)
  let kern ← orRaise .indexError (t.kernels.get? kernelNumber)
  let lines := readlines (← r.directory.cudaFile kern.filename)
  let indexType := kern.indexType.orElse fun _ => lines.findSome? searchIndexTypedef
  let code ← kernelCode U r.preambleSizeLines stripPreamble lines
  pure { kern with code := some code, indexType := indexType, ptx := r.directory.kernelPtx kern }

-- ===================================================== join

/-- A method of `TestRun` that mutates its receiver and may raise. -/
abbrev RunM := ExceptT PyError (StateM TestRun)

/-- `assert c`. -/
def pyAssert (c : Prop) [Decidable c] : RunM Unit :=
  if c then pure () else throw .assertionError

/-- Update the receiver. -/
def modifyRun (f : TestRun → TestRun) : RunM Unit :=
  modify f

/-- `self.nvcc_version += other.nvcc_version` once the two differ: `None`
on either side is a `TypeError`. -/
def addNvcc : Option Text → Option Text → Except PyError Text
  | some a, some b => .ok (a ++ b)
  | _, _ => .error .typeError

/-- `f"{x}"` of an optional string: `None` renders as `None`. -/
def fstr : Option Text → Text
  | some t => t
  | none => "None".toList

/-- The body of `join`'s loop for one entry of the donor's kernel map. -/
def mergeTest (name : Text) (t : CompiledTest) : RunM Unit := do
  pyAssert (t.name = name)
  let self ← get
  if name = ungroupedName then
    match self.kernelMap.get? name with
    | some mine =>
        let mine := { mine with kernels := mine.kernels ++ t.kernels }
        modifyRun fun s => { s with kernelMap := s.kernelMap.set name mine }
        let mine := if t.passed then mine else { mine with passed := false }
        modifyRun fun s => { s with kernelMap := s.kernelMap.set name mine }
        pyAssert (mine.benchmarkResult = none)
        pyAssert (t.benchmarkResult = none)
    | none => modifyRun fun s => { s with kernelMap := s.kernelMap.set name t }
  else
    pyAssert (name ∉ self.kernelMap.keys)
    modifyRun fun s => { s with kernelMap := s.kernelMap.set name t }

/-- `join`'s loop over the donor's kernel map. -/
def mergeTests : List (Text × CompiledTest) → RunM Unit
  | [] => pure ()
  | (name, t) :: rest => do
      mergeTest name t
      mergeTests rest

/-- `join`'s `nvcc_version` step: appended when the two differ. -/
def joinNvcc (other : TestRun) : RunM Unit := do
  let self ← get
  if other.nvccVersion ≠ self.nvccVersion then
    let v ← MonadExcept.ofExcept (addNvcc self.nvccVersion other.nvccVersion)
    modifyRun fun s => { s with nvccVersion := some v }

/-- `join`'s `env` step: `self.env += f"\n{other.env}"` when the two differ,
a `TypeError` when the receiver's is `None`. -/
def joinEnv (other : TestRun) : RunM Unit := do
  let self ← get
  if other.env ≠ self.env then
    match self.env with
    | none => throw .typeError
    | some e => modifyRun fun s => { s with env := some (e ++ ['\n'] ++ fstr other.env) }

/-- `join`'s `self.gpu_names += other.gpu_names`: `None` on either side is a
`TypeError`. -/
def joinGpuNames (other : TestRun) : RunM Unit := do
  let self ← get
  match self.gpuNames, other.gpuNames with
  | some a, some b => modifyRun fun s => { s with gpuNames := some (a ++ b) }
  | _, _ => throw .typeError

/-- `self.join(other)`. -/
def TestRun.join (other : TestRun) : RunM Unit := do
  let self ← get
  pyAssert (self.git = other.git)
  pyAssert (self.preambleSizeLines = other.preambleSizeLines)
  pyAssert (self.preamble = other.preamble)
  pyAssert (self.commandType = other.commandType)
  joinNvcc other
  joinEnv other
  joinGpuNames other
  modifyRun fun s => { s with command := s.command ++ " && ".toList ++ other.command }
  modifyRun fun s => { s with exitCode := s.exitCode + other.exitCode }
  mergeTests other.kernelMap.entries

/-- `self.join(other)` run on a receiver: the exception, if any, and the
receiver afterwards. -/
def TestRun.joinRun (self other : TestRun) : Except PyError Unit × TestRun :=
  ((TestRun.join other).run).run self

/-- `join_jsons`' loop: join every later shard into the first, stopping at
the first exception. -/
def joinAll : TestRun → List TestRun → Except PyError TestRun
  | td, [] => .ok td
  | td, other :: rest =>
      match td.joinRun other with
      | (.ok (), td) => joinAll td rest
      | (.error e, _) => .error e

/-- `join_jsons`: at least one shard, merged left to right. -/
def joinJsons : List TestRun → Except PyError TestRun
  | [] => .error .assertionError
  | first :: rest => joinAll first rest

-- ===================================================== parse_dir

/-- The run once `get_kernel` has written kernel `kernelNumber` of test
`testName`: the kernel it returns is the object the kernel map holds. -/
def setKernel (r : TestRun) (testName : Text) (kernelNumber : Nat) (kern : CompiledKernel) :
    TestRun :=
  match r.kernelMap.get? testName with
  | some t =>
      { r with kernelMap := r.kernelMap.set testName { t with kernels := t.kernels.set kernelNumber kern } }
  | none => r

/-- `tr.get_kernel(test_name, kernel_number, strip_preamble=True)` as a
statement, for what it leaves in `tr`. -/
def loadKernel (r : TestRun) (testName : Text) (kernelNumber : Nat) : Except PyError TestRun := do
  let kern ← getKernel U r testName kernelNumber true
  pure (setKernel r testName kernelNumber kern)

/-- `parse_dir`: the run with the code of every kernel loaded, test by
test and kernel by kernel (writing it as JSON is not modelled). -/
def parseDir (git : GitTool) (d : RunDir) : Except PyError TestRun := do
  let tr ← TestRun.create U git d
  tr.kernelMap.entries.foldlM (fun tr (testName, compiledKernel) =>
    (List.range compiledKernel.kernels.length).foldlM
      (fun tr kernelNumber => loadKernel U tr testName kernelNumber) tr) tr

end CodeDiff
