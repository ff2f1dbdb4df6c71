/-
`find_preamble`: what its two loops compute, and where they differ from
the longest common prefix they are meant to compute.

# The intended result

`preambleCandidate F` is what a kernel file can contribute to the
preamble: its lines, normalised as `find_preamble` compares them, up to
the kernel definition. The preamble meant is the longest common prefix of
the candidates of the first `min(n, 50)` files (`commonPreamble`).

# The two loops

The inner loop over a file's lines breaks at the kernel definition, and
after the first file also at the first line that leaves the preamble
found so far; the outer loop then cuts the preamble to the loop
variable's last value. When the loop breaks, that value is the length of
the file's candidate (first file, `preambleLoop_first`) or of its common
prefix with the preamble (later files, `preambleLoop_later`), so over files
that all have a kernel definition `find_preamble` computes the intended
result (`findPreamble_eq_commonPreamble`).

# Where they differ

When a file's lines run out without a break, the last value of the loop
variable is the index of the file's last line, one less than the number
of lines that matched, so the cut drops a line; and an empty first file
leaves the variable unbound (`preamble_of_file_without_kernel_loses_last_line`).
-/
import CodeDiff.Run

namespace CodeDiff

variable (U : UnicodeDB)

-- ===================================================== the intended result

/-- The longest common prefix of two line lists. -/
def commonPrefix : List Text → List Text → List Text
  | x :: xs, y :: ys => if x = y then x :: commonPrefix xs ys else []
  | _, _ => []

/-- A file's lines as `find_preamble` compares them, up to the first line
that matches the kernel-definition pattern. -/
def preambleCandidate (lines : List Text) : List Text :=
  (lines.map preambleLine).takeWhile fun l => !isKernelDef U l

/-- The candidates of the files of a listing, in order. -/
def candidates (files : List (Text × Text)) : List (List Text) :=
  files.map fun f => preambleCandidate U (readlines f.2)

/-- The longest common prefix of the candidates of some files. -/
def commonPreamble : List (List Text) → List Text
  | [] => []
  | p :: ps => ps.foldl commonPrefix p

@[simp] theorem commonPrefix_nil_left (b : List Text) : commonPrefix [] b = [] := rfl

@[simp] theorem commonPrefix_nil_right (a : List Text) : commonPrefix a [] = [] := by
  cases a <;> rfl

theorem foldl_commonPrefix_nil (ps : List (List Text)) : ps.foldl commonPrefix [] = [] := by
  induction ps with
  | nil => rfl
  | cons p ps ih => exact ih

/-- The common prefix is a prefix of the first list. -/
theorem take_length_commonPrefix : ∀ a b : List Text, a.take (commonPrefix a b).length = commonPrefix a b
  | [], _ => rfl
  | _ :: _, [] => rfl
  | x :: xs, y :: ys => by
      unfold commonPrefix
      split
      · simp [take_length_commonPrefix xs ys]
      · rfl

theorem commonPrefix_drop_of_ne {pre : List Text} {i : Nat} {y : Text} (h : pre[i]? ≠ some y)
    (ys : List Text) : commonPrefix (pre.drop i) (y :: ys) = [] := by
  by_cases hi : i < pre.length
  · rw [List.drop_eq_getElem_cons hi, commonPrefix,
      if_neg fun he => h (by rw [List.getElem?_eq_getElem hi, he])]
  · rw [List.drop_eq_nil_of_le (by omega)]
    rfl

theorem commonPrefix_drop_of_eq {pre : List Text} {i : Nat} {y : Text} (h : pre[i]? = some y)
    (ys : List Text) :
    commonPrefix (pre.drop i) (y :: ys) = y :: commonPrefix (pre.drop (i + 1)) ys := by
  obtain ⟨hi, rfl⟩ := List.getElem?_eq_some_iff.1 h
  rw [List.drop_eq_getElem_cons hi, commonPrefix, if_pos rfl]

-- ===================================================== the inner loop

/-- A file with a line that matches the kernel-definition pattern once
normalised. -/
def HasKernelDef (lines : List Text) : Prop :=
  ∃ l ∈ lines, isKernelDef U (preambleLine l) = true

instance (lines : List Text) : Decidable (HasKernelDef U lines) :=
  inferInstanceAs (Decidable (∃ l ∈ lines, isKernelDef U (preambleLine l) = true))

variable {U}

theorem HasKernelDef.tail {l : Text} {ls : List Text} (h : HasKernelDef U (l :: ls))
    (hl : isKernelDef U (preambleLine l) = false) : HasKernelDef U ls := by
  obtain ⟨x, hx, hk⟩ := h
  rcases List.mem_cons.1 hx with rfl | hx
  · rw [hl] at hk
    cases hk
  · exact ⟨x, hx, hk⟩

theorem preambleCandidate_cons_of_kernelDef {l : Text} (ls : List Text)
    (hl : isKernelDef U (preambleLine l) = true) : preambleCandidate U (l :: ls) = [] := by
  simp [preambleCandidate, List.takeWhile_cons, hl]

theorem preambleCandidate_cons {l : Text} (ls : List Text)
    (hl : isKernelDef U (preambleLine l) = false) :
    preambleCandidate U (l :: ls) = preambleLine l :: preambleCandidate U ls := by
  simp [preambleCandidate, List.takeWhile_cons, hl]

/-- On the first file, the loop collects the file's candidate and stops at
the kernel definition, just after it. -/
theorem preambleLoop_first {lines : List Text} (h : HasKernelDef U lines) (i : Nat)
    (pre : List Text) (last : Option Nat) :
    preambleLoop U true lines i pre last =
      (pre ++ preambleCandidate U lines, some (i + (preambleCandidate U lines).length)) := by
  induction lines generalizing i pre last with
  | nil =>
      obtain ⟨_, h, _⟩ := h
      cases h
  | cons l ls ih =>
      cases hl : isKernelDef U (preambleLine l)
      · rw [preambleCandidate_cons ls hl, preambleLoop, if_neg (by simp [hl]), if_pos rfl,
          ih (h.tail hl)]
        simp only [List.append_assoc, List.singleton_append, List.length_cons]
        congr 2
        omega
      · rw [preambleCandidate_cons_of_kernelDef ls hl, preambleLoop, if_pos hl]
        simp

/-- On a later file, the loop stops at the end of the file's common prefix
with the preamble found so far, and leaves the preamble as it was. -/
theorem preambleLoop_later {lines : List Text} (h : HasKernelDef U lines) (i : Nat)
    (pre : List Text) (last : Option Nat) :
    preambleLoop U false lines i pre last =
      (pre, some (i + (commonPrefix (pre.drop i) (preambleCandidate U lines)).length)) := by
  induction lines generalizing i last with
  | nil =>
      obtain ⟨_, h, _⟩ := h
      cases h
  | cons l ls ih =>
      cases hl : isKernelDef U (preambleLine l)
      · rw [preambleCandidate_cons ls hl, preambleLoop, if_neg (by simp [hl]), if_neg (by simp)]
        by_cases hd : pre[i]? = some (preambleLine l)
        · have hi : i < pre.length := (List.getElem?_eq_some_iff.1 hd).1
          rw [if_neg (by simp [hd]; omega), ih (h.tail hl), commonPrefix_drop_of_eq hd,
            List.length_cons]
          congr 2
          omega
        · rw [if_pos (by simp [hd]), commonPrefix_drop_of_ne hd]
          rfl
      · rw [preambleCandidate_cons_of_kernelDef ls hl, preambleLoop, if_pos hl]
        simp

-- ===================================================== the outer loop

/-- After the first file, over files that all have a kernel definition, the
loop folds the common prefix over the files it may still process. -/
theorem preambleFiles_later {files : List (Text × Text)} {n : Nat} (hn : n < 50)
    (h : ∀ f ∈ files.take (50 - n), HasKernelDef U (readlines f.2)) (pre : List Text)
    (i : Option Nat) :
    preambleFiles U files pre false i n =
      .ok ((candidates U (files.take (50 - n))).foldl commonPrefix pre) := by
  induction files generalizing pre i n with
  | nil => simp [preambleFiles, candidates]
  | cons f files ih =>
      obtain ⟨name, c⟩ := f
      have hk : 50 - n = (50 - (n + 1)) + 1 := by omega
      rw [hk, List.take_succ_cons] at h ⊢
      have hc : HasKernelDef U (readlines c) := h _ (.head _)
      simp only [preambleFiles, preambleLoop_later hc, List.drop_zero, Nat.zero_add,
        take_length_commonPrefix, candidates, List.map_cons, List.foldl_cons]
      split_ifs with h0 h50
      · rw [List.length_eq_zero.1 h0, foldl_commonPrefix_nil]
      · rw [show 50 - (n + 1) = 0 by omega, List.take_zero]
        rfl
      · exact ih (by omega) (fun f hf => h f (.tail _ hf)) _ _

/-- `find_preamble` over files that all have a kernel definition computes
the longest common prefix of the candidates of the first `min(n, 50)`
files. -/
theorem findPreamble_eq_commonPreamble {d : RunDir} {listing : List (Text × Text)}
    (hd : d.cuda = some listing) (h : ∀ f ∈ listing.take 50, HasKernelDef U (readlines f.2)) :
    findPreamble U d = .ok (joinLines (commonPreamble (candidates U (listing.take 50))),
      (commonPreamble (candidates U (listing.take 50))).length) := by
  simp only [findPreamble, hd, orRaise, except_ok_bind]
  cases listing with
  | nil => rfl
  | cons f rest =>
      obtain ⟨name, c⟩ := f
      have hc : HasKernelDef U (readlines c) := h _ (.head _)
      simp only [preambleFiles, preambleLoop_first hc, List.nil_append, Nat.zero_add,
        List.take_length, List.take_succ_cons, candidates, List.map_cons, commonPreamble]
      split_ifs with h0 h50
      · rw [List.length_eq_zero.1 h0, foldl_commonPrefix_nil]
        rfl
      · exact absurd h50 (by decide)
      · rw [preambleFiles_later (n := 1) (by omega) (fun f hf => h f (.tail _ hf))]
        rfl

theorem findPreamble_eq_commonPreamble_on_sample :
    let listing := [("k.cu".toList, "a\nb\nvoid kernel1()\n".toList),
      ("m.cu".toList, "a\nc\nvoid kernel2()\n".toList)]
    let d : RunDir := ⟨"r".toList, [], some listing, []⟩
    d.cuda = some listing ∧
      (∀ f ∈ listing.take 50, HasKernelDef UnicodeDB.asciiOnly (readlines f.2)) ∧
      findPreamble UnicodeDB.asciiOnly d =
        .ok (joinLines (commonPreamble (candidates UnicodeDB.asciiOnly (listing.take 50))),
          (commonPreamble (candidates UnicodeDB.asciiOnly (listing.take 50))).length) := by
  intro listing d
  have h : ∀ f ∈ listing.take 50, HasKernelDef UnicodeDB.asciiOnly (readlines f.2) := by decide
  exact ⟨rfl, h, findPreamble_eq_commonPreamble rfl h⟩

example : findPreamble UnicodeDB.asciiOnly ⟨"r".toList, [], some
    [("k.cu".toList, "a\nb\nvoid kernel1()\n".toList),
      ("m.cu".toList, "a\nc\nvoid kernel2()\n".toList)], []⟩ = .ok ("a".toList, 1) := by
  decide

-- ===================================================== what get_kernel strips

theorem commonPrefix_prefix_left : ∀ a b : List Text, List.IsPrefix (commonPrefix a b) a
  | [], _ => List.nil_prefix
  | _ :: _, [] => List.nil_prefix
  | x :: xs, y :: ys => by
      unfold commonPrefix
      split
      · exact List.cons_prefix_cons.2 ⟨rfl, commonPrefix_prefix_left xs ys⟩
      · exact List.nil_prefix

theorem commonPrefix_prefix_right : ∀ a b : List Text, List.IsPrefix (commonPrefix a b) b
  | [], _ => List.nil_prefix
  | _ :: _, [] => List.nil_prefix
  | x :: xs, y :: ys => by
      unfold commonPrefix
      split
      · next h => exact List.cons_prefix_cons.2 ⟨h, commonPrefix_prefix_right xs ys⟩
      · exact List.nil_prefix

theorem foldl_commonPrefix_isPrefix : ∀ (ps : List (List Text)) (p : List Text),
    List.IsPrefix (ps.foldl commonPrefix p) p ∧ ∀ c ∈ ps, List.IsPrefix (ps.foldl commonPrefix p) c
  | [], p => ⟨List.prefix_refl p, nofun⟩
  | q :: qs, p => by
      obtain ⟨h₁, h₂⟩ := foldl_commonPrefix_isPrefix qs (commonPrefix p q)
      refine ⟨h₁.trans (commonPrefix_prefix_left p q), fun c hc => ?_⟩
      rcases List.mem_cons.1 hc with rfl | hc
      · exact h₁.trans (commonPrefix_prefix_right p c)
      · exact h₂ c hc

/-- The common prefix of some candidates is a prefix of each of them. -/
theorem commonPreamble_isPrefix_of_mem {ps : List (List Text)} {c : List Text} (hc : c ∈ ps) :
    List.IsPrefix (commonPreamble ps) c := by
  cases ps with
  | nil => cases hc
  | cons p ps =>
      rcases List.mem_cons.1 hc with rfl | hc
      · exact (foldl_commonPrefix_isPrefix ps c).1
      · exact (foldl_commonPrefix_isPrefix ps p).2 c hc

/-- `TestRun(directory)` takes its preamble from `find_preamble`. -/
theorem create_preamble {git : GitTool} {d : RunDir} {r : TestRun}
    (h : TestRun.create U git d = .ok r) : findPreamble U d = .ok (r.preamble, r.preambleSizeLines) := by
  simp only [TestRun.create, except_bind_eq_ok] at h
  obtain ⟨_, -, _, -, _, -, _, -, _, -, _, -, ⟨_, _⟩, hp, h⟩ := h
  cases h
  exact hp

variable (U) in
/-- In a run built from a directory whose first `min(n, 50)` kernel files
each have a kernel definition, the lines `get_kernel` strips from each of
those files (the first `preamble_size_lines`) are, normalised as
`find_preamble` compares them, exactly the lines of the run's preamble. -/
theorem create_preamble_stripped {git : GitTool} {d : RunDir} {r : TestRun}
    {listing : List (Text × Text)} (h : TestRun.create U git d = .ok r) (hd : d.cuda = some listing)
    (hk : ∀ f ∈ listing.take 50, HasKernelDef U (readlines f.2)) :
    ∃ pre, r.preamble = joinLines pre ∧ r.preambleSizeLines = pre.length ∧
      ∀ f ∈ listing.take 50, ((readlines f.2).take r.preambleSizeLines).map preambleLine = pre := by
  have hp := create_preamble h
  rw [findPreamble_eq_commonPreamble hd hk, Except.ok.injEq, Prod.mk.injEq] at hp
  obtain ⟨hpre, hlen⟩ := hp
  refine ⟨_, hpre.symm, hlen.symm, fun f hf => ?_⟩
  have hc : List.IsPrefix (commonPreamble (candidates U (listing.take 50)))
      ((readlines f.2).map preambleLine) :=
    (commonPreamble_isPrefix_of_mem (List.mem_map_of_mem _ hf)).trans (List.takeWhile_prefix _)
  rw [← hlen, List.map_take]
  exact (List.prefix_iff_eq_take.1 hc).symm

/-- Two kernel files that share their first line. -/
theorem create_preamble_stripped_on_sample :
    let listing := [("k.cu".toList, "a\nb\nvoid kernel1()\n".toList),
      ("m.cu".toList, "a\nc\nvoid kernel2()\n".toList)]
    let d : RunDir := ⟨"r".toList, [("git_hash".toList, "abc\n".toList),
      ("command".toList, "t\n".toList), ("exitcode".toList, "0\n".toList),
      ("stdout".toList, [])], some listing, []⟩
    let git : GitTool := ⟨fun _ => [], fun _ => [], fun _ _ => []⟩
    ∃ r, TestRun.create UnicodeDB.asciiOnly git d = .ok r ∧ d.cuda = some listing ∧
      (∀ f ∈ listing.take 50, HasKernelDef UnicodeDB.asciiOnly (readlines f.2)) ∧
      ∃ pre, r.preamble = joinLines pre ∧ r.preambleSizeLines = pre.length ∧
        ∀ f ∈ listing.take 50, ((readlines f.2).take r.preambleSizeLines).map preambleLine = pre := by
  intro listing d git
  obtain ⟨r, h⟩ := except_eq_ok_of_isOk
    (by decide : (TestRun.create UnicodeDB.asciiOnly git d).isOk = true)
  have hk : ∀ f ∈ listing.take 50, HasKernelDef UnicodeDB.asciiOnly (readlines f.2) := by decide
  exact ⟨r, h, rfl, hk, create_preamble_stripped _ h rfl hk⟩

-- ===================================================== files without a kernel definition

/-- A first file without a kernel definition, and a later file that matches
the preamble to its end, each lose their last matching line; an empty
first file leaves the loop variable unbound. -/
theorem preamble_of_file_without_kernel_loses_last_line :
    let dir : List (Text × Text) → RunDir := fun files => ⟨"r".toList, [], some files, []⟩
    let one := [("k.cu".toList, "a\nb\n".toList)]
    let two := [("k.cu".toList, "a\nb\nvoid kernel1()\n".toList), ("m.cu".toList, "a\nb\n".toList)]
    findPreamble UnicodeDB.asciiOnly (dir one) = .ok ("a".toList, 1) ∧
      commonPreamble (candidates UnicodeDB.asciiOnly one) = ["a".toList, "b".toList] ∧
      findPreamble UnicodeDB.asciiOnly (dir two) = .ok ("a".toList, 1) ∧
      commonPreamble (candidates UnicodeDB.asciiOnly two) = ["a".toList, "b".toList] ∧
      findPreamble UnicodeDB.asciiOnly (dir [("k.cu".toList, [])]) = .error .nameError := by
  decide

end CodeDiff
