/-
`join_jsons` as its help text puts it: it concatenates the JSONs of
several shards "as if they were from a single command". For the runners
that group kernels into tests this holds of the kernel map, stated here
over the parser itself. The runs `join` sees are those `TestRun(directory)`
builds: `TestRun.from_json` passes the directory to the constructor, whose
`__post_init__` parses the shard's `stdout` again.

# The single command

The single command's `stdout` is the shards' logs one after the other. A
log of brackets (`Brackets.lean`, whose lines between brackets include a
GoogleTest failure summary and the pytest shard's item list) followed by
another is a log of both lists of brackets (`BracketLog.append`), and when
the first file ends in a line break `readlines` cuts the concatenation
where the files meet (`readlines_append`). The parser over it therefore
folds the second log's brackets into the map the first log left
(`runParser_append_groupedLog`).

# The join

`join`'s loop is `mergeAll` over the donor's entries (`Spec.lean`). When
every name is new to the receiver and each test carries its own name, as
the parser stores them, every pass's guard holds and each pass sets the
donor's test under its name (`mergeAll_of_fresh`): the fold the parser
makes. So, with distinct test names across the shards, `join` raises on no
entry and leaves the map the single command's log gives (`join_unshards`).

# Repeated tests

The distinct names are needed: `join` asserts that a grouped test is new,
while the parser's `self.kernel_map[self.current_test] = new_test`
overwrites. Over a log with a repeated name, each name holds the test of
the last bracket under it that the runner stores (`runParser_last_run`), so
a single command that runs a test twice keeps its second run only.

# Where the runners differ

Only in which brackets they store: GoogleTest skips a `FAILED` bracket that
announced no kernel (`storesBracket`). The `UNKNOWN` runner groups nothing
and is left out: its `finalize` drops the kernel in flight, so a shard's
last kernel is missing from the joined run but not from the single
command's.
-/
import CodeDiff.Proofs.Parser.Brackets
import CodeDiff.Proofs.Parser.Provenance
import CodeDiff.Proofs.Join.Spec

namespace CodeDiff

variable {U : UnicodeDB}

-- ===================================================== the single command's log

/-- `readlines` over a text whose first part ends in a line break: the
first part's lines, then the second's. -/
theorem readlinesGo_append (lb : Text) : ∀ (acc la : Text), la.getLast? = some '\n' →
    readlinesGo acc (la ++ lb) = readlinesGo acc la ++ readlines lb
  | _, [], h => nomatch h
  | acc, [c], h => by
      obtain rfl : c = '\n' := by simpa using h
      simp [readlinesGo, readlines]
  | acc, c :: c' :: la, h => by
      rw [List.getLast?_cons_cons] at h
      rw [List.cons_append, readlinesGo.eq_2, readlinesGo.eq_2 acc c (c' :: la)]
      split
      · rw [readlinesGo_append lb _ _ h]
        rfl
      · exact readlinesGo_append lb _ _ h

theorem readlines_append {la : Text} (lb : Text) (h : la = [] ∨ la.getLast? = some '\n') :
    readlines (la ++ lb) = readlines la ++ readlines lb := by
  rcases h with rfl | h
  · rfl
  · exact readlinesGo_append lb [] la h

section logs

variable {ct : CommandType} {IsBracket : List Text → Bracket → Prop}

/-- Two logs of brackets one after the other are a log of both lists of
brackets: the first log's trailing quiet lines lead the second's first
bracket. -/
theorem BracketLog.append {ls₁ ls₂ : List Text} {bs₁ bs₂ : List Bracket}
    (h₁ : BracketLog U ct IsBracket ls₁ bs₁) (h₂ : BracketLog U ct IsBracket ls₂ bs₂) :
    BracketLog U ct IsBracket (ls₁ ++ ls₂) (bs₁ ++ bs₂) := by
  induction h₁ with
  | quiet hq =>
      cases h₂ with
      | quiet hq₂ => exact .quiet fun l hl => (List.mem_append.1 hl).elim (hq l) (hq₂ l)
      | bracket hpre hb hrest =>
          rw [← List.append_assoc, ← List.append_assoc]
          exact .bracket (fun l hl => (List.mem_append.1 hl).elim (hq l) (hpre l)) hb hrest
  | bracket hpre hb _ ih =>
      rw [List.append_assoc]
      exact .bracket hpre hb ih

end logs

variable (U) in
/-- A log of one of the runners that group kernels into tests, made of that
runner's brackets. -/
def GroupedLog : CommandType → List Text → List Bracket → Prop
  | .googletest => BracketLog U .googletest (GTestBracket U)
  | .googlebench => BracketLog U .googlebench (GBenchBracket U)
  | .pytest => BracketLog U .pytest (PyTestBracket U)
  | .unknown => fun _ _ => False

/-- Whether a runner's parser stores a bracket's test: GoogleTest skips a
`FAILED` bracket that announced no kernel. -/
def storesBracket : CommandType → Bracket → Bool
  | .googletest, b => b.passed || !b.body.kernels.isEmpty
  | _, _ => true

theorem GroupedLog.append {ct : CommandType} {ls₁ ls₂ : List Text} {bs₁ bs₂ : List Bracket}
    (h₁ : GroupedLog U ct ls₁ bs₁) (h₂ : GroupedLog U ct ls₂ bs₂) :
    GroupedLog U ct (ls₁ ++ ls₂) (bs₁ ++ bs₂) := by
  cases ct
  · exact h₁.elim
  all_goals exact BracketLog.append h₁ h₂

/-- The run lemmas of the three runners, read through `storesBracket`. -/
theorem runParser_groupedLog {ct : CommandType} {lines : List Text} {bs : List Bracket}
    (h : GroupedLog U ct (lines.map cleanLine) bs) :
    (runParser U ct lines).map (·.kernelMap) = bracketMap U (bs.filter (storesBracket ct)) := by
  cases ct with
  | unknown => exact h.elim
  | googletest => exact runParser_googletest h
  | googlebench =>
      rw [(List.filter_eq_self (p := storesBracket .googlebench)).2 fun _ _ => rfl]
      exact runParser_googlebench h
  | pytest =>
      rw [(List.filter_eq_self (p := storesBracket .pytest)).2 fun _ _ => rfl]
      exact runParser_pytest h

-- ===================================================== the brackets' entries

/-- Brackets' entries are under their brackets' names, and each test
carries the name it is stored under. -/
theorem mapM_entry_eq_ok : ∀ {bs : List Bracket} {es : List (Text × CompiledTest)},
    bs.mapM (Bracket.entry U) = .ok es →
      es.map Prod.fst = bs.map (·.name) ∧ ∀ e ∈ es, e.2.name = e.1
  | [], _, h => by cases h; simp
  | b :: bs, _, h => by
      simp only [List.mapM_cons, except_bind_eq_ok, except_pure, Except.ok.injEq] at h
      obtain ⟨e, he, es, hes, rfl⟩ := h
      obtain ⟨t, ht, rfl⟩ := except_map_eq_ok.1 he
      obtain ⟨ks, -, rfl⟩ := except_map_eq_ok.1 ht
      obtain ⟨hk, hn⟩ := mapM_entry_eq_ok hes
      exact ⟨by simp [hk], List.forall_mem_cons.2 ⟨rfl, hn⟩⟩

/-- Storing brackets' tests one after another sets each bracket's entry in
turn. -/
theorem foldlM_storeTest : ∀ (bs : List Bracket) (m : KernelMap),
    bs.foldlM (fun m b => storeTest U b m) m =
      (bs.mapM (Bracket.entry U)).map fun es => es.foldl (fun m e => m.set e.1 e.2) m
  | [], _ => rfl
  | b :: bs, m => by
      rw [List.foldlM_cons, List.mapM_cons, storeTest, Bracket.entry]
      cases b.test U with
      | error e => rfl
      | ok t =>
          simp only [except_map_ok, except_ok_bind, foldlM_storeTest bs]
          cases bs.mapM (Bracket.entry U) <;> rfl

-- ===================================================== repeated tests

section lookup

variable {α β : Type} [DecidableEq α]

theorem lookup_append (k : α) (es es' : List (α × β)) :
    Dict.lookup k (es ++ es') = (Dict.lookup k es).or (Dict.lookup k es') := by
  induction es with
  | nil => rfl
  | cons e es ih =>
      obtain ⟨j, v⟩ := e
      by_cases hj : j = k <;> simp [Dict.lookup, hj, ih]

/-- Entries set one after another: a key holds the value of its last
entry, or what it held before. -/
theorem get?_foldl_set (k : α) : ∀ (es : List (α × β)) (m : Dict α β),
    (es.foldl (fun m e => m.set e.1 e.2) m).get? k = (Dict.lookup k es.reverse).or (m.get? k)
  | [], _ => rfl
  | (j, v) :: es, m => by
      rw [List.foldl_cons, get?_foldl_set k es, Dict.get?_set, List.reverse_cons, lookup_append]
      by_cases h : j = k <;> cases Dict.lookup k es.reverse <;> simp [Dict.lookup, h]

end lookup

/-- A log of a grouping runner, its test names repeated or not: each name
holds the test of the last bracket under that name that the runner stores,
and no other name is a key. -/
theorem runParser_last_run {ct : CommandType} {lines : List Text} {bs : List Bracket}
    {m : KernelMap} (h : GroupedLog U ct (lines.map cleanLine) bs)
    (hm : (runParser U ct lines).map (·.kernelMap) = .ok m) :
    ∃ es, (bs.filter (storesBracket ct)).mapM (Bracket.entry U) = .ok es ∧
      ∀ name, m.get? name = Dict.lookup name es.reverse := by
  rw [runParser_groupedLog h, bracketMap, foldlM_storeTest] at hm
  obtain ⟨es, hes, rfl⟩ := except_map_eq_ok.1 hm
  exact ⟨es, hes, fun name => by rw [get?_foldl_set, Dict.get?_empty, Option.or_none]⟩

/-- A GoogleTest log that runs test `t` twice, announcing `k.cu` in a run
that fails and then `m.cu` in one that passes, and ends in the failure
summary. -/
theorem runParser_last_run_on_sample :
    let db : UnicodeDB := UnicodeDB.asciiOnly
    let log := ["[ RUN      ] t".toList, "PRINTING: k.cu".toList, "[  FAILED  ] t".toList,
      "[ RUN      ] t".toList, "PRINTING: m.cu".toList, "[       OK ] t".toList,
      "[  FAILED  ] 1 test, listed below:".toList, "[  FAILED  ] t".toList]
    let bs : List Bracket := [⟨"t".toList, false, none, ⟨[], [⟨"k.cu".toList, []⟩]⟩⟩,
      ⟨"t".toList, true, none, ⟨[], [⟨"m.cu".toList, []⟩]⟩⟩]
    ∃ m, (runParser db .googletest log).map (·.kernelMap) = .ok m ∧
      ∃ es, (bs.filter (storesBracket .googletest)).mapM (Bracket.entry db) = .ok es ∧
        ∀ name, m.get? name = Dict.lookup name es.reverse := by
  intro db log bs
  obtain ⟨m, hm⟩ := except_eq_ok_of_isOk
    (by decide : ((runParser db .googletest log).map (·.kernelMap)).isOk = true)
  have hbr : ∀ (file c : Text) (passed : Bool), c.take 13 = (if passed then okMarker else failedMarker) →
      announcement (printingMarker ++ file) = some file →
      GTestBracket db ((runMarker ++ "t".toList) :: BracketBody.lines ⟨[], [⟨file, []⟩]⟩ ++ [c])
        ⟨"t".toList, passed, none, ⟨[], [⟨file, []⟩]⟩⟩ := fun file c passed hc hf =>
    .mk hc ⟨nofun, by simpa using ⟨hf, nofun⟩⟩
  have h : GroupedLog db .googletest (log.map cleanLine) bs :=
    (.bracket nofun (hbr _ _ false (by decide) (by decide))
      (.bracket nofun (hbr _ _ true (by decide) (by decide)) (.quiet (by decide))) :
      BracketLog _ _ _ ([] ++ _ ++ ([] ++ _ ++
        ["[  FAILED  ] 1 test, listed below:".toList, "[  FAILED  ] t".toList])) _)
  exact ⟨m, hm, runParser_last_run h hm⟩

-- ===================================================== the join

/-- Entries under distinct names new to the receiver, each test carrying
its own name: every pass of `join`'s loop passes its guard and sets the
donor's test under its name. -/
theorem mergeAll_of_fresh : ∀ {m : KernelMap} {es : List (Text × CompiledTest)},
    (es.map Prod.fst).Nodup → (∀ e ∈ es, e.1 ∉ m.keys ∧ e.2.name = e.1) →
      MergesOk m es ∧ mergeAll m es = es.foldl (fun m e => m.set e.1 e.2) m
  | _, [], _, _ => ⟨trivial, rfl⟩
  | m, (k, t) :: es, hd, he => by
      obtain ⟨hk, hd⟩ := List.nodup_cons.1 hd
      obtain ⟨⟨hkm, hn⟩, he⟩ := List.forall_mem_cons.1 he
      have hget : m.get? k = none := Dict.get?_eq_none.2 hkm
      have hset : mergeEntry m k t = m.set k t := by rw [mergeEntry, hget]; rfl
      have he' : ∀ e ∈ es, e.1 ∉ (m.set k t).keys ∧ e.2.name = e.1 := fun e hm =>
        ⟨fun h => ((Dict.mem_keys_set _ _ _ _).1 h).elim
          (fun h' => hk (List.mem_map.2 ⟨e, hm, h'⟩)) (he e hm).1,
          (he e hm).2⟩
      obtain ⟨hok, heq⟩ := mergeAll_of_fresh hd he'
      refine ⟨⟨⟨hn, fun _ => hkm, fun _ _ h => nomatch hget.symm.trans h⟩, by rw [hset]; exact hok⟩, ?_⟩
      rw [mergeAll_cons, hset, heq]
      rfl

/-- The parser over two logs of one grouping runner, one after the other,
with distinct test names across both: `join`'s loop over the second log's
map, run on the first's, raises on no entry and leaves the map the
concatenation gives. -/
theorem runParser_append_groupedLog {ct : CommandType} {l₁ l₂ : List Text}
    {bs₁ bs₂ : List Bracket} {m₁ m₂ : KernelMap}
    (h₁ : GroupedLog U ct (l₁.map cleanLine) bs₁) (h₂ : GroupedLog U ct (l₂.map cleanLine) bs₂)
    (hd : ((bs₁ ++ bs₂).map (·.name)).Nodup)
    (hm₁ : (runParser U ct l₁).map (·.kernelMap) = .ok m₁)
    (hm₂ : (runParser U ct l₂).map (·.kernelMap) = .ok m₂) :
    MergesOk m₁ m₂.entries ∧
      (runParser U ct (l₁ ++ l₂)).map (·.kernelMap) = .ok (mergeAll m₁ m₂.entries) := by
  have hd' : ((bs₁.filter (storesBracket ct)).map (·.name) ++
      (bs₂.filter (storesBracket ct)).map (·.name)).Nodup := by
    rw [← List.map_append, ← List.filter_append]
    exact hd.sublist ((List.filter_sublist _).map _)
  rw [runParser_groupedLog h₁] at hm₁
  rw [runParser_groupedLog h₂] at hm₂
  have he₁ := bracketMap_entries (U := U) (List.nodup_append.1 hd').1
  have he₂ := bracketMap_entries (U := U) (List.nodup_append.1 hd').2.1
  rw [hm₁, except_map_ok] at he₁
  rw [hm₂, except_map_ok] at he₂
  obtain ⟨hk₁, -⟩ := mapM_entry_eq_ok he₁.symm
  obtain ⟨hk₂, hn₂⟩ := mapM_entry_eq_ok he₂.symm
  have hfresh : ∀ e ∈ m₂.entries, e.1 ∉ m₁.keys ∧ e.2.name = e.1 := fun e he => by
    refine ⟨fun h => ?_, hn₂ e he⟩
    rw [Dict.keys, hk₁] at h
    exact List.disjoint_of_nodup_append hd' h (by rw [← hk₂]; exact List.mem_map.2 ⟨e, he, rfl⟩)
  obtain ⟨hok, hmerge⟩ := mergeAll_of_fresh m₂.nodup hfresh
  have h : GroupedLog U ct ((l₁ ++ l₂).map cleanLine) (bs₁ ++ bs₂) := by
    rw [List.map_append]
    exact h₁.append h₂
  unfold bracketMap at hm₁
  rw [runParser_groupedLog h, List.filter_append, bracketMap, List.foldlM_append, hm₁,
    except_ok_bind, foldlM_storeTest, ← he₂, except_map_ok, hmerge]
  exact ⟨hok, rfl⟩

-- ===================================================== two runs

/-- Two shards of one grouping runner, each built into a run from its
directory, with distinct test names across both: `join`'s loop raises on
no entry of the donor's kernel map, and a `join` that returns leaves the
kernel map the runner's parser gives on the two `stdout` files
concatenated, the first ending in a line break. -/
theorem join_unshards {git : GitTool} {da db : RunDir} {a b : TestRun} {la lb : Text}
    {bs₁ bs₂ : List Bracket}
    (ha : TestRun.create U git da = .ok a) (hb : TestRun.create U git db = .ok b)
    (hct : b.commandType = a.commandType)
    (hla : da.read "stdout".toList = some la) (hlb : db.read "stdout".toList = some lb)
    (hend : la = [] ∨ la.getLast? = some '\n')
    (h₁ : GroupedLog U a.commandType ((readlines la).map cleanLine) bs₁)
    (h₂ : GroupedLog U a.commandType ((readlines lb).map cleanLine) bs₂)
    (hd : ((bs₁ ++ bs₂).map (·.name)).Nodup) :
    MergesOk a.kernelMap b.kernelMap.entries ∧
      ∀ j, a.joinRun b = (.ok (), j) →
        parseLogFile U a.commandType (la ++ lb) = .ok j.kernelMap := by
  obtain ⟨la', hla', hm₁⟩ := create_kernelMap ha
  obtain ⟨lb', hlb', hm₂⟩ := create_kernelMap hb
  obtain rfl := Option.some.inj (hla.symm.trans hla')
  obtain rfl := Option.some.inj (hlb.symm.trans hlb')
  rw [hct] at hm₂
  obtain ⟨hok, hrun⟩ := runParser_append_groupedLog h₁ h₂ hd hm₁ hm₂
  refine ⟨hok, fun j hj => ?_⟩
  obtain ⟨-, rfl⟩ := joinRun_eq_ok.1 hj
  rw [parseLogFile, readlines_append lb hend, hrun]
  rfl

/-- Two GoogleTest shards, each running one test that announces one
kernel; the first test fails, and its shard ends in the failure summary. -/
theorem join_unshards_on_sample :
    let la := ("[ RUN      ] t\nPRINTING: k.cu\n[  FAILED  ] t\n" ++
      "[  FAILED  ] 1 test, listed below:\n[  FAILED  ] t\n").toList
    let lb := "[ RUN      ] u\nPRINTING: m.cu\n[       OK ] u\n".toList
    let shard : Text → Text → RunDir := fun path log => ⟨path, [("git_hash".toList, "abc\n".toList),
      ("command".toList, "t\n".toList), ("command_type".toList, "gtest\n".toList),
      ("exitcode".toList, "0\n".toList), ("stdout".toList, log)],
      some [("k.cu".toList, "a\nvoid kernel1()\n".toList), ("m.cu".toList, "a\nvoid kernel2()\n".toList)],
      []⟩
    let git : GitTool := ⟨fun _ => [], fun _ => [], fun _ _ => []⟩
    ∃ a b, TestRun.create UnicodeDB.asciiOnly git (shard "a".toList la) = .ok a ∧
      TestRun.create UnicodeDB.asciiOnly git (shard "b".toList lb) = .ok b ∧
      MergesOk a.kernelMap b.kernelMap.entries ∧
      ∀ j, a.joinRun b = (.ok (), j) →
        parseLogFile UnicodeDB.asciiOnly a.commandType (la ++ lb) = .ok j.kernelMap := by
  intro la lb shard git
  obtain ⟨a, ha, hta⟩ := except_map_eq_ok.1 (by decide :
    (TestRun.create UnicodeDB.asciiOnly git (shard "a".toList la)).map (·.commandType) = .ok .googletest)
  obtain ⟨b, hb, htb⟩ := except_map_eq_ok.1 (by decide :
    (TestRun.create UnicodeDB.asciiOnly git (shard "b".toList lb)).map (·.commandType) = .ok .googletest)
  have hbr : ∀ (name file c : Text) (passed : Bool) (tail : List Text),
      c.take 13 = (if passed then okMarker else failedMarker) →
      announcement (printingMarker ++ file) = some file →
      (∀ l ∈ tail, Between UnicodeDB.asciiOnly .googletest l) →
      GroupedLog UnicodeDB.asciiOnly a.commandType
        ([] ++ ((runMarker ++ name) :: BracketBody.lines ⟨[], [⟨file, []⟩]⟩ ++ [c]) ++ tail)
        [⟨name, passed, none, ⟨[], [⟨file, []⟩]⟩⟩] := fun name file c passed tail hc hf ht => by
    rw [hta]
    exact .bracket nofun (.mk hc ⟨nofun, by simpa using ⟨hf, nofun⟩⟩) (.quiet ht)
  exact ⟨a, b, ha, hb, join_unshards ha hb (htb.trans hta.symm) rfl rfl (.inr rfl)
    (hbr "t".toList "k.cu".toList _ false
      ["[  FAILED  ] 1 test, listed below:".toList, "[  FAILED  ] t".toList]
      (by decide) (by decide) (by decide))
    (hbr "u".toList "m.cu".toList _ true [] (by decide) (by decide) nofun) (by decide)⟩

end CodeDiff
