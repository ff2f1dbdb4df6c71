/-
The value objects of `codediff.py`: `LaunchParams`, `CompiledKernel` with
the two parsers its `__post_init__` runs, `BenchmarkResult` and
`CompiledTest`.

# Construction can raise

`CompiledKernel(filename, ptxas_info=..., launch_params_str=...)` parses
its diagnostics at once. Two statements there can raise: `int()` on a
digit run longer than `intMaxStrDigits`, and `m.groups()` on a
launch-parameter line the pattern does not match (`m` is `None`). So
construction is `Except PyError CompiledKernel`, and every parser state
that finalises a kernel inherits the exception.

The launch-parameter parse keeps the first parsed value and stops at the
first line that disagrees with it; lines after that one are never matched.
-/
import CodeDiff.Regex
import CodeDiff.Dict

namespace CodeDiff

variable (U : UnicodeDB)

/-- `LaunchParams`: block and grid triples and the dynamic shared memory,
held as the matched strings (the source never converts them). -/
structure LaunchParams where
  blockDim : Text × Text × Text
  gridDim : Text × Text × Text
  dynamicSmemBytes : Text
  deriving DecidableEq, Repr

/-- `CompiledKernel`, every field. -/
structure CompiledKernel where
  filename : Text
  code : Option Text := none
  ptx : Option Text := none
  ptxasInfo : Option Text := none
  launchParamsStr : Option Text := none
  launchParams : Option LaunchParams := none
  gmemBytes : Nat := 0
  smemBytes : Nat := 0
  cmemBankBytes : Option (List Nat) := none
  registers : Option Nat := none
  stackFrameBytes : Nat := 0
  spillStoreBytes : Nat := 0
  spillLoadBytes : Nat := 0
  mangledName : Option Text := none
  arch : Option Text := none
  indexType : Option Text := none
  deriving DecidableEq, Repr

/-- `BenchmarkResult`, the matched strings of a result line. -/
structure BenchmarkResult where
  gpuTime : Text
  gpuTimeUnit : Text
  cpuTime : Text
  cpuTimeUnit : Text
  iterations : Option Text := none
  deriving DecidableEq, Repr

/-- `CompiledTest`: one group of kernels. -/
structure CompiledTest where
  name : Text
  kernels : List CompiledKernel
  passed : Bool := true
  benchmarkResult : Option BenchmarkResult := none
  deriving DecidableEq, Repr

/-- A run's `kernel_map`: test name to test. -/
abbrev KernelMap := Dict Text CompiledTest

-- ===================================================== parse_ptxas

/-- `find_unique_int`: the first `(\d+)` before the literal, as an integer,
or `0` when there is none. -/
def findUniqueInt (info lit : Text) : Except PyError Nat :=
  match searchDigitsBefore U lit info with
  | none => .ok 0
  | some ds => intOfDigits U ds

/-- One step of the `cmem` loop: grow the bank list to cover `bank`, then
store the byte count there. `int(bank_str)` runs before `int(nbytes_str)`. -/
def cmemStep (banks : List Nat) (m : Text × Text) : Except PyError (List Nat) := do
  let bank ← intOfDigits U m.2
  let banks := if banks.length ≤ bank then banks ++ List.replicate (bank + 1 - banks.length) 0
    else banks
  let nbytes ← intOfDigits U m.1
  pure (banks.set bank nbytes)

/-- `CompiledKernel.parse_ptxas`. -/
def parsePtxas (k : CompiledKernel) : Except PyError CompiledKernel :=
  match k.ptxasInfo with
  | none => .ok k
  | some info => do
      let (mangledName, arch) := match searchEntryFunction info with
        | some (n, a) => (some n, some a)
        | none => (k.mangledName, k.arch)
      let stackFrameBytes ← findUniqueInt U info " bytes stack frame".toList
      let spillStoreBytes ← findUniqueInt U info " bytes spill stores".toList
      let spillLoadBytes ← findUniqueInt U info " bytes spill loads".toList
      let registers ← findUniqueInt U info " registers".toList
      let gmemBytes ← findUniqueInt U info " bytes gmem".toList
      let smemBytes ← findUniqueInt U info " bytes smem".toList
      let cmem ← (cmemMatches U info).foldlM (cmemStep U) []
      pure { k with
        mangledName := mangledName, arch := arch,
        stackFrameBytes := stackFrameBytes, spillStoreBytes := spillStoreBytes,
        spillLoadBytes := spillLoadBytes, registers := some registers,
        gmemBytes := gmemBytes, smemBytes := smemBytes, cmemBankBytes := some cmem }

-- ===================================================== parse_launch_params

/-- The loop of `parse_launch_params` from the value kept so far: a line the
pattern misses raises (`None.groups()`), the first parsed value is kept,
and the first disagreeing line ends the loop. -/
def launchParamsLoop : Option LaunchParams → List Text → Except PyError (Option LaunchParams)
  | kept, [] => .ok kept
  | kept, line :: rest =>
      match searchLaunchParams line with
      | some [bx, byy, bz, gx, gy, gz, s] =>
          let lp : LaunchParams := ⟨(bx, byy, bz), (gx, gy, gz), s⟩
          match kept with
          | none => launchParamsLoop (some lp) rest
          | some first => if lp ≠ first then .ok kept else launchParamsLoop kept rest
      | _ => .error .attributeError

/-- `CompiledKernel.parse_launch_params`. -/
def parseLaunchParams (k : CompiledKernel) : Except PyError CompiledKernel :=
  match k.launchParamsStr with
  | none => .ok k
  | some str => do
      let launchParams ← launchParamsLoop k.launchParams (splitlines str)
      pure { k with launchParams := launchParams }

/-- `CompiledKernel(filename, ptxas_info=…, launch_params_str=…)`: the
record, then `__post_init__`. -/
def CompiledKernel.create (filename ptxasInfo launchParamsStr : Text) :
    Except PyError CompiledKernel := do
  let k ← parsePtxas U {
    filename := filename, ptxasInfo := some ptxasInfo,
    launchParamsStr := some launchParamsStr }
  parseLaunchParams k

end CodeDiff
