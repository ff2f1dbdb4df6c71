/-
The regular expressions of `codediff.py`, one matcher each, written out
from Python's backtracking semantics for that one pattern: greedy
quantifiers take the longest run that lets the rest match, `re.match`
anchors at the start, `re.search` takes the leftmost start, `re.sub` and
`re.finditer` scan left to right and resume after each match.

# How each pattern resolves

Every pattern here is deterministic once its greedy runs are maximal: a
shorter run is always followed by a character of the run's own class,
which the next item of the pattern cannot match. The docstrings say which
run is maximal and what must follow it. Two patterns genuinely backtrack:
the launch-parameter line (seven greedy `(.*)` groups, tried longest
first) and the PTX symbol prefix (a greedy `.*` that keeps the last
mangled-name start on the line).

# Dot and dollar

`.` stops at `\n`, and `$` holds at the end or before a final `\n`
(`dotStarEnd`). Lines the tool matches seldom hold a `\n`, but the
matchers follow Python there too.
-/
import CodeDiff.Py

namespace CodeDiff

variable (U : UnicodeDB)

-- ===================================================== scanning

/-- Whether a character (absent at either end of the text) is a word
character, as `\b` reads it. -/
def isWordAt : Option Char → Bool
  | none => false
  | some c => U.isWord c

/-- `\b` between two neighbouring characters. -/
def boundary (before after : Option Char) : Bool :=
  isWordAt U before != isWordAt U after

/-- `re.sub` with replacement `repl` for a pattern whose match at a position
has length `m prev rest` (`prev` is the character before the position).
`k` characters of the current match are still to be dropped. -/
def subScan (m : Option Char → Text → Option Nat) (repl : Text) :
    Option Char → Nat → Text → Text
  | _, _, [] => []
  | _, k + 1, c :: s => subScan m repl (some c) k s
  | prev, 0, c :: s =>
      match m prev (c :: s) with
      | some (n + 1) => repl ++ subScan m repl (some c) n s
      | _ => c :: subScan m repl (some c) 0 s

/-- `re.finditer` for a pattern whose match at a position yields a value
and the match's length. -/
def finditerScan {α : Type} (m : Text → Option (α × Nat)) : Nat → Text → List α
  | _, [] => []
  | k + 1, _ :: s => finditerScan m k s
  | 0, c :: s =>
      match m (c :: s) with
      | some (a, n + 1) => a :: finditerScan m n s
      | _ => finditerScan m 0 s

/-- `re.search`: the match at the leftmost position that has one. -/
def searchFirst {α : Type} (m : Text → Option α) : Text → Option α
  | [] => m []
  | c :: s => (m (c :: s)).orElse fun _ => searchFirst m s

/-- The length of the text before its first `\n`: how far a `.` run can
reach. -/
def lineLen (s : Text) : Nat :=
  (s.takeWhile (· ≠ '\n')).length

/-- `(.*)$` on the rest of the text: the group, when `$` holds where the
greedy `.*` stops. -/
def dotStarEnd (s : Text) : Option Text :=
  let g := s.takeWhile (· ≠ '\n')
  match s.drop g.length with
  | [] => some g
  | ['\n'] => some g
  | _ => none

/-- A regex literal in which `.` is the any-character-but-newline
wildcard, matched at the head of the text. -/
def wildPrefix : Text → Text → Bool
  | [], _ => true
  | _ :: _, [] => false
  | p :: ps, c :: s => (if p = '.' then c ≠ '\n' else c = p) && wildPrefix ps s

-- ===================================================== ANSI colour codes

/-- `[0-?]*[ -\/]*[@-~]` after a control-sequence introducer: both runs
maximal, then one final byte; the length matched. -/
def csiTailLen (s : Text) : Option Nat :=
  let params := s.takeWhile fun c => '0' ≤ c && c ≤ '?'
  let inter := (s.drop params.length).takeWhile fun c => ' ' ≤ c && c ≤ '/'
  match s.drop (params.length + inter.length) with
  | c :: _ => if '@' ≤ c && c ≤ '~' then some (params.length + inter.length + 1) else none
  | [] => none

/-- `(\x9B|\x1B\[)[0-?]*[ -\/]*[@-~]` at the head: the length matched. -/
def ansiMatchLen : Text → Option Nat
  | c :: s =>
      if c.toNat = 0x9B then (csiTailLen s).map (· + 1)
      else if c.toNat = 0x1B then
        match s with
        | '[' :: t => (csiTailLen t).map (· + 2)
        | _ => none
      else none
  | [] => none

/-- `LogParser.ansi_re.sub("", line)`: every ANSI escape sequence removed. -/
def stripAnsi (s : Text) : Text :=
  subScan (fun _ t => ansiMatchLen t) [] none 0 s

-- ===================================================== kernel sources

/-- The literal `nvfuser_`. -/
def nvfuserWord : Text := "nvfuser_".toList

/-- `\bnvfuser_\d+\b` at a position: the digit run is maximal and the
closing `\b` must hold right after it. -/
def nvfuserMatchLen (prev : Option Char) (s : Text) : Option Nat :=
  if boundary U prev s.head? && nvfuserWord.isPrefixOf s then
    let ds := (s.drop 8).takeWhile U.isDigit
    if !ds.isEmpty && boundary U ds.getLast? (s.drop (8 + ds.length)).head? then
      some (8 + ds.length)
    else none
  else none

/-- `re.sub(r"\bnvfuser_\d+\b", "nvfuser_N", line)`. -/
def subNvfuser (s : Text) : Text :=
  subScan (nvfuserMatchLen U) "nvfuser_N".toList none 0 s

/-- `typedef\s+(\S*)\s+nvfuser_index_t;` at the head. With both whitespace
runs maximal the group is the token between them; otherwise the first run
gives back characters to the second and the group is empty. -/
def indexTypedefAt (s : Text) : Option Text :=
  let tail := "nvfuser_index_t;".toList
  if "typedef".toList.isPrefixOf s then
    let r := s.drop 7
    let w := r.takeWhile isSpace
    let r₂ := r.drop w.length
    let t := r₂.takeWhile (fun c => !isSpace c)
    let r₃ := r₂.drop t.length
    let w₂ := r₃.takeWhile isSpace
    if w.isEmpty then none
    else if !w₂.isEmpty && tail.isPrefixOf (r₃.drop w₂.length) then some t
    else if 2 ≤ w.length && tail.isPrefixOf r₂ then some []
    else none
  else none

/-- `re.search(r"typedef\s+(\S*)\s+nvfuser_index_t;", line)`, group 1. -/
def searchIndexTypedef (s : Text) : Option Text :=
  searchFirst indexTypedefAt s

/-- `void (nvfuser|kernel)_?\d+\b` at the head: an optional `_`, a maximal
digit run, and `\b` after it. -/
def kernelDefAt (s : Text) : Bool :=
  let afterName : Option Text :=
    if "void nvfuser".toList.isPrefixOf s then some (s.drop 12)
    else if "void kernel".toList.isPrefixOf s then some (s.drop 11)
    else none
  match afterName with
  | none => false
  | some r =>
      let r := match r with
        | '_' :: r' => r'
        | r' => r'
      let ds := r.takeWhile U.isDigit
      !ds.isEmpty && boundary U ds.getLast? (r.drop ds.length).head?

/-- `re.search(r"void (nvfuser|kernel)_?\d+\b", line) is not None`. -/
def isKernelDef (s : Text) : Bool :=
  (searchFirst (fun t => if kernelDefAt U t then some () else none) s).isSome

-- ===================================================== ptxas reports

/-- `(\d+)` followed by a literal, at the head: the maximal digit run. -/
def digitsBeforeAt (lit s : Text) : Option Text :=
  let ds := s.takeWhile U.isDigit
  if !ds.isEmpty && lit.isPrefixOf (s.drop ds.length) then some ds else none

/-- `re.search(r"(\d+)" + lit, text)`, group 1. -/
def searchDigitsBefore (lit s : Text) : Option Text :=
  searchFirst (digitsBeforeAt U lit) s

/-- `(\d+) bytes cmem\[(\d+)\]` at the head: both digit runs and the
match's length. -/
def cmemAt (s : Text) : Option ((Text × Text) × Nat) :=
  let d₁ := s.takeWhile U.isDigit
  let r := s.drop d₁.length
  let lit := " bytes cmem[".toList
  let d₂ := (r.drop lit.length).takeWhile U.isDigit
  if !d₁.isEmpty && lit.isPrefixOf r && !d₂.isEmpty &&
      (r.drop (lit.length + d₂.length)).head? == some ']' then
    some ((d₁, d₂), d₁.length + lit.length + d₂.length + 1)
  else none

/-- `re.finditer(r"(\d+) bytes cmem\[(\d+)\]", text)`, both groups. -/
def cmemMatches (s : Text) : List (Text × Text) :=
  finditerScan (cmemAt U) 0 s

/-- The largest `q ≤ n` satisfying `p`. -/
def lastIndex (p : Nat → Bool) (n : Nat) : Option Nat :=
  (List.range (n + 1)).reverse.find? p

/-- `Compiling entry function '(.*)' for '(.*)'` at the head: the first group
runs to the last `' for '` on the line that still has a `'` after it, the
second to the last `'` after that. -/
def entryFunctionAt (s : Text) : Option (Text × Text) :=
  let lead := "Compiling entry function '".toList
  let sep := "' for '".toList
  if lead.isPrefixOf s then
    let line := (s.drop lead.length).takeWhile (· ≠ '\n')
    let ok q := sep.isPrefixOf (line.drop q) && (line.drop (q + sep.length)).contains '\''
    match lastIndex ok line.length with
    | none => none
    | some q =>
        let after := line.drop (q + sep.length)
        (lastIndex (fun i => after.get? i == some '\'') after.length).map
          fun e => (line.take q, after.take e)
  else none

/-- `re.search(r"Compiling entry function '(.*)' for '(.*)'", text)`. -/
def searchEntryFunction (s : Text) : Option (Text × Text) :=
  searchFirst entryFunctionAt s

-- ===================================================== launch parameters

/-- `(.*) L₁ (.*) L₂ … (.*) Lₙ (.*)$` after a matched literal: each group is
the longest that lets the rest match, so the split points are tried from
the far end of the line back. -/
def greedyGroups : List Text → Text → Option (List Text)
  | [], s => (dotStarEnd s).map fun g => [g]
  | lit :: lits, s =>
      (List.range (lineLen s + 1)).reverse.findSome? fun k =>
        if wildPrefix lit (s.drop k) then
          (greedyGroups lits (s.drop (k + lit.length))).map (s.take k :: ·)
        else none

/-- The literal pieces of the launch-parameter regex, `.` a wildcard. -/
def launchParamPieces : List Text :=
  [", BlockDim.y = ", ", BlockDim.z = ", ", GridDim.x = ", ", GridDim.y = ",
    ", GridDim.z = ", ", Smem Size = "].map String.toList

/-- `re.search(r"Launch Parameters: BlockDim.x = (.*), … Smem Size = (.*)$",
line)`, its seven groups. -/
def searchLaunchParams (s : Text) : Option (List Text) :=
  let lead := "Launch Parameters: BlockDim.x = ".toList
  searchFirst (fun t =>
    if wildPrefix lead t then greedyGroups launchParamPieces (t.drop lead.length)
    else none) s

-- ===================================================== test-runner lines

/-- A maximal run of characters satisfying `p` at the head, which must be
non-empty. -/
def runOf (p : Char → Bool) (s : Text) : Option (Text × Text) :=
  let r := s.takeWhile p
  if r.isEmpty then none else some (r, s.drop r.length)

/-- The six groups of a Google Benchmark result line. -/
structure BenchFields where
  testname : Text
  gputime : Text
  gputimeunit : Text
  cputime : Text
  cputimeunit : Text
  iterations : Text
  deriving DecidableEq, Repr

/-- `[-+\.\d]`. -/
def isTimeChar (c : Char) : Bool :=
  c = '-' || c = '+' || c = '.' || U.isDigit c

/-- `re.match(r"^(?P<testname>\S+)\s+(?P<gputime>[-+\.\d]+)\s+(?P<gputimeunit>\S+)\s+(?P<cputime>[-+\.\d]+)\s+(?P<cputimeunit>\S+)\s+(?P<iterations>\d+).*$", line)`:
every run maximal, each followed by the next item's class. -/
def benchResult (s : Text) : Option BenchFields := do
  let nonSpace := fun c => !isSpace c
  let (t₁, r) ← runOf nonSpace s
  let (_, r) ← runOf isSpace r
  let (t₂, r) ← runOf (isTimeChar U) r
  let (_, r) ← runOf isSpace r
  let (t₃, r) ← runOf nonSpace r
  let (_, r) ← runOf isSpace r
  let (t₄, r) ← runOf (isTimeChar U) r
  let (_, r) ← runOf isSpace r
  let (t₅, r) ← runOf nonSpace r
  let (_, r) ← runOf isSpace r
  let (t₆, r) ← runOf U.isDigit r
  let _ ← dotStarEnd r
  pure ⟨t₁, t₂, t₃, t₄, t₅, t₆⟩

/-- `re.match(r"Running \d+ items in this shard: (.*)$", line)`, group 1. -/
def itemList (s : Text) : Option Text :=
  let lead := "Running ".toList
  let mid := " items in this shard: ".toList
  if lead.isPrefixOf s then
    match runOf U.isDigit (s.drop lead.length) with
    | some (_, r) => if mid.isPrefixOf r then dotStarEnd (r.drop mid.length) else none
    | none => none
  else none

/-- `(?P<testname>\S+\.py::\S+)\s?(?P<line>.*)$` at the head: the test name
is the whole first token, which must hold `.py::` with a character on
either side; one whitespace character after it is skipped when that lets
`$` hold. -/
def testnameAt (s : Text) : Option (Text × Text) :=
  let t := s.takeWhile fun c => !isSpace c
  let sep := ".py::".toList
  let valid := (List.range t.length).any fun i =>
    0 < i && sep.isPrefixOf (t.drop i) && i + sep.length < t.length
  if !valid then none else
  let r := s.drop t.length
  let line := match r with
    | c :: r' => if isSpace c then (dotStarEnd r').orElse fun _ => dotStarEnd r
                 else dotStarEnd r
    | [] => dotStarEnd r
  line.map fun l => (t, l)

/-- `re.match(r"^((?P<timestamp>\[[\d\-: ]+\]) )?(?P<testname>\S+\.py::\S+)\s?(?P<line>.*)$", line)`:
the `testname` and `line` groups. The optional timestamp is tried first. -/
def pytestTestname (s : Text) : Option (Text × Text) :=
  let stamp : Option Text := match s with
    | '[' :: r =>
        let run := r.takeWhile fun c => U.isDigit c || c = '-' || c = ':' || c = ' '
        if !run.isEmpty && "] ".toList.isPrefixOf (r.drop run.length) then
          some (r.drop (run.length + 2))
        else none
    | _ => none
  match stamp with
  | some after => (testnameAt after).orElse fun _ => testnameAt s
  | none => testnameAt s

-- ===================================================== PTX

/-- `\b_Z?ZN(?P<scopenamelen>\d+)_` at a position: the length of `_ZN` or
`_ZZN` and the maximal digit run, which a `_` must follow. -/
def mangledAt (prev : Option Char) (s : Text) : Option (Nat × Text) :=
  let lead : Option Nat :=
    if "_ZZN".toList.isPrefixOf s then some 4
    else if "_ZN".toList.isPrefixOf s then some 3
    else none
  match lead with
  | none => none
  | some n =>
      let ds := (s.drop n).takeWhile U.isDigit
      if boundary U prev s.head? && !ds.isEmpty && (s.drop (n + ds.length)).head? == some '_'
      then some (n, ds) else none

/-- `re.match(r"^(?P<prefix>^.*\b_Z?ZN)(?P<scopenamelen>\d+)_", l)`: the
greedy `.*` keeps the last position on the line where a mangled name
starts. The start, the length of its `_Z?ZN`, and its digits. -/
def lastMangled (s : Text) : Option (Nat × Nat × Text) :=
  (List.range (lineLen s + 1)).reverse.findSome? fun p =>
    (mangledAt U (s.take p).getLast? (s.drop p)).map fun (n, ds) => (p, n, ds)

/-- `//.*$` at a position. -/
def commentMatchLen (s : Text) : Option Nat :=
  if "//".toList.isPrefixOf s then
    (dotStarEnd (s.drop 2)).map fun g => 2 + g.length
  else none

/-- `re.sub(r"//.*$", "", l)`. -/
def stripComment (s : Text) : Text :=
  subScan (fun _ t => commentMatchLen t) [] none 0 s

end CodeDiff
