/-
A second `re.sub(r"\bnvfuser_\d+\b", "nvfuser_N", line)` changes nothing,
and the code `get_kernel` keeps has no identifier left to rename.

# The renaming

A match starts only where `\b` holds before an `n`, that is after a
non-word character or at the start, and covers word characters only.
After a word character no match starts, so the scan copies a run of word
characters as it is (`subScan_nvfuser_words`). Where the first pass
copied a character, the second finds no match there either: up to the next
non-word character the two texts agree, and the matcher reads no further
(`nvfuserMatchLen_scan_cons`). Where the first pass emitted `nvfuser_N`,
the second finds no digit after `nvfuser_` (`nvfuserMatchLen_replacement`)
and copies the word run. By induction on the text the renaming is
idempotent (`subNvfuser_idem`).

# The kept code

`get_kernel` renames each line of the file, joins the kept ones and strips
trailing whitespace (with the preamble stripped, also a closing `}`). The
renaming splits after a non-word character (`subNvfuser_append_of_nonword`)
and every line `readlines` gives but the last ends in `\n` (`Segments`), so
the renaming of the joined lines is the join of the renamed lines
(`subNvfuser_flatten`), which idempotence leaves as it is. Cutting trailing
non-word characters keeps that (`subNvfuser_of_append_nonword`). Trailing
whitespace is non-word as long as the Unicode tables count no space as a
word character, as Python's do (`asciiOnly_isWord_of_isSpace` for the ASCII
tables); hence `getKernel_code_renamed`.
-/
import CodeDiff.Proofs.Normalise.Nvfuser
import CodeDiff.Proofs.Reload

namespace CodeDiff

variable {U : UnicodeDB}

-- ===================================================== the matcher

/-- A non-word character after the text changes no match. -/
theorem nvfuserMatchLen_snoc {c : Char} (hc : U.isWord c = false) (p : Option Char) (v : Text) :
    nvfuserMatchLen U p (v ++ [c]) = nvfuserMatchLen U p v := by
  refine Option.ext fun n => ⟨fun h => ?_, fun h => ?_⟩
  · obtain ⟨hp, ds, rest, he, hds, hr, rfl⟩ := nvfuserMatchLen_eq_some_iff.1 h
    obtain ⟨u₂, rfl, rfl⟩ := word_digits_append_eq hc hds he.symm
    refine nvfuserMatchLen_eq_some_iff.2 ⟨hp, ds, u₂, rfl, hds, ?_, rfl⟩
    cases u₂ with
    | nil => rfl
    | cons => simpa using hr
  · obtain ⟨hp, ds, rest, rfl, hds, hr, rfl⟩ := nvfuserMatchLen_eq_some_iff.1 h
    refine nvfuserMatchLen_eq_some_iff.2 ⟨hp, ds, rest ++ [c], by simp, hds, ?_, rfl⟩
    cases rest
    · exact hc
    · simpa using hr

/-- No match starts after a word character. -/
theorem nvfuserMatchLen_of_isWordAt {p : Option Char} (hp : isWordAt U p = true) (s : Text) :
    nvfuserMatchLen U p s = none := by
  rcases h : nvfuserMatchLen U p s with _ | n
  · rfl
  · rw [(nvfuserMatchLen_eq_some_iff.1 h).1] at hp
    cases hp

/-- No match starts at a non-word character. -/
theorem nvfuserMatchLen_of_head {c : Char} (hc : U.isWord c = false) (p : Option Char) (t : Text) :
    nvfuserMatchLen U p (c :: t) = none := by
  rcases h : nvfuserMatchLen U p (c :: t) with _ | n
  · rfl
  · obtain ⟨-, ds, rest, he, -⟩ := nvfuserMatchLen_eq_some_iff.1 h
    rw [show nvfuserWord = 'n' :: "vfuser_".toList from rfl] at he
    simp only [List.cons_append, List.cons.injEq] at he
    rw [he.1] at hc
    exact absurd (hc.symm.trans (isWordAt_n U)) Bool.false_ne_true

/-- The replacement has no digit after `nvfuser_`, so no match starts at
it. -/
theorem nvfuserMatchLen_replacement (p : Option Char) (t : Text) :
    nvfuserMatchLen U p ("nvfuser_N".toList ++ t) = none := by
  rcases h : nvfuserMatchLen U p ("nvfuser_N".toList ++ t) with _ | n
  · rfl
  · obtain ⟨-, ds, rest, he, hds, -⟩ := nvfuserMatchLen_eq_some_iff.1 h
    rw [show "nvfuser_N".toList ++ t = nvfuserWord ++ ('N' :: t) from rfl, List.append_assoc] at he
    obtain ⟨d, ds', rfl⟩ := List.exists_cons_of_ne_nil hds.1
    simp only [List.append_cancel_left_eq, List.cons_append, List.cons.injEq] at he
    have hd := hds.2 d (List.mem_cons_self d ds')
    rw [← he.1, U.ascii_isDigit 'N' (by decide)] at hd
    exact absurd hd (by decide)

-- ===================================================== the scan

section scan

variable (repl : Text)

/-- After a word character the scan copies a run of word characters. -/
theorem subScan_nvfuser_words {p : Option Char} (hp : isWordAt U p = true) :
    ∀ {w : Text}, (∀ c ∈ w, U.isWord c = true) → ∀ t : Text,
      subScan (nvfuserMatchLen U) repl p 0 (w ++ t) = w ++ subScan (nvfuserMatchLen U) repl p 0 t
  | [], _, _ => rfl
  | c :: w, hw, t => by
      rw [List.cons_append, subScan_cons_of_none _ _ (nvfuserMatchLen_of_isWordAt hp _),
        subScan_nvfuser_congr_prev repl
          (show isWordAt U (some c) = isWordAt U p from (hw c (List.mem_cons_self c w)).trans hp.symm),
        subScan_nvfuser_words hp (fun d hd => hw d (List.mem_cons_of_mem c hd)) t, List.cons_append]

/-- Where the first pass copied a character, the second finds no match:
up to the next non-word character the two texts agree. -/
theorem nvfuserMatchLen_scan_cons {p p' : Option Char} {c : Char} {t : Text}
    (hp : isWordAt U p = isWordAt U p') (hm : nvfuserMatchLen U p (c :: t) = none) :
    nvfuserMatchLen U p' (c :: subScan (nvfuserMatchLen U) repl (some c) 0 t) = none := by
  cases hc : U.isWord c
  · exact nvfuserMatchLen_of_head hc _ _
  · have hw : ∀ d ∈ t.takeWhile U.isWord, U.isWord d = true := fun d hd => List.mem_takeWhile_imp hd
    have hr := List.head?_dropWhile_not U.isWord t
    rw [← List.takeWhile_append_dropWhile U.isWord t] at hm ⊢
    rw [subScan_nvfuser_words repl (show isWordAt U (some c) = true from hc) hw]
    rw [← nvfuserMatchLen_congr_prev hp]
    generalize t.dropWhile U.isWord = rest at hm hr ⊢
    cases rest with
    | nil => exact hm
    | cons d rest =>
        have hd : U.isWord d = false := hr
        rw [subScan_cons_of_none _ _ (nvfuserMatchLen_of_head hd _ _)]
        exact (nvfuserMatchLen_append_cons hd p (c :: t.takeWhile U.isWord) _ rest).trans hm

/-- A non-word character at the end is copied, and the scan before it is
the scan of the text alone. -/
theorem subScan_nvfuser_snoc {c : Char} (hc : U.isWord c = false) :
    ∀ (u : Text) (p : Option Char) (k : Nat), k ≤ u.length →
      subScan (nvfuserMatchLen U) repl p k (u ++ [c]) = subScan (nvfuserMatchLen U) repl p k u ++ [c]
  | [], p, k, hk => by
      obtain rfl : k = 0 := Nat.le_zero.1 hk
      rw [List.nil_append, subScan_cons_of_none _ _ (nvfuserMatchLen_of_head hc _ _)]
      rfl
  | d :: u, p, k, hk => by
      have hm : nvfuserMatchLen U p (d :: (u ++ [c])) = nvfuserMatchLen U p (d :: u) :=
        nvfuserMatchLen_snoc hc p (d :: u)
      rw [List.cons_append]
      cases k with
      | succ k => exact subScan_nvfuser_snoc hc u _ k (by simpa using hk)
      | zero =>
          rcases h : nvfuserMatchLen U p (d :: u) with _ | n
          · rw [subScan_cons_of_none _ _ (hm.trans h), subScan_cons_of_none _ _ h,
              subScan_nvfuser_snoc hc u _ 0 (Nat.zero_le _)]
            rfl
          · obtain ⟨h8, hn⟩ := nvfuserMatchLen_le hc (u := d :: u) (t := []) (hm.trans h)
            obtain ⟨n, rfl⟩ : ∃ n', n = n' + 1 := ⟨n - 1, by omega⟩
            rw [subScan_cons_of_some _ _ (hm.trans h), subScan_cons_of_some _ _ h,
              subScan_nvfuser_snoc hc u _ n (by simpa using hn), List.append_assoc]

end scan

/-- The renaming scanned again, from a character before it that `\b` cannot
tell from the first scan's, gives its own output back. -/
theorem subScan_nvfuser_idem : ∀ (s : Text) {p p' : Option Char}, isWordAt U p = isWordAt U p' →
    subScan (nvfuserMatchLen U) "nvfuser_N".toList p' 0
        (subScan (nvfuserMatchLen U) "nvfuser_N".toList p 0 s) =
      subScan (nvfuserMatchLen U) "nvfuser_N".toList p 0 s
  | [], _, _, _ => rfl
  | c :: t, p, p', hp => by
      rcases hm : nvfuserMatchLen U p (c :: t) with _ | n
      · rw [subScan_cons_of_none _ _ hm,
          subScan_cons_of_none _ _ (nvfuserMatchLen_scan_cons _ hp hm), subScan_nvfuser_idem t rfl]
      · obtain ⟨hpf, ds, y, he, hds, hy, -⟩ := nvfuserMatchLen_eq_some_iff.1 hm
        have hlt : y.length < (c :: t).length := by
          rw [he, List.length_append, List.length_append]
          exact Nat.lt_add_of_pos_left (Nat.add_pos_left (by decide) _)
        have hn : isWordAt U ds.getLast? = isWordAt U (some 'n') := by
          rw [isWordAt_getLast?_digits hds, isWordAt_n]
        have hv : ∀ d ∈ "vfuser_N".toList, U.isWord d = true := fun d hd => by
          rw [U.ascii_isWord d (by revert d; decide)]
          revert d
          decide
        rw [he, List.append_assoc, subScan_nvfuser_token _ hpf hds hy,
          show "nvfuser_N".toList ++ _ = 'n' :: ("vfuser_N".toList ++ _) from rfl,
          subScan_cons_of_none _ _ (show nvfuserMatchLen U p' ('n' :: ("vfuser_N".toList ++ _)) = none
            from nvfuserMatchLen_replacement p' _),
          subScan_nvfuser_words _ (isWordAt_n U) hv, subScan_nvfuser_idem y hn]
termination_by s => s.length
decreasing_by all_goals first | exact hlt | exact Nat.lt_succ_self _

/-- `re.sub(r"\bnvfuser_\d+\b", "nvfuser_N", ·)` is idempotent: a text it
produced is left as it is by a second pass. -/
theorem subNvfuser_idem (s : Text) : subNvfuser U (subNvfuser U s) = subNvfuser U s :=
  subScan_nvfuser_idem s rfl

-- ===================================================== concatenation

/-- Non-word characters after a text are copied. -/
theorem subNvfuser_append_nonword {ws : Text} (hws : ∀ c ∈ ws, U.isWord c = false) (u : Text) :
    subNvfuser U (u ++ ws) = subNvfuser U u ++ ws := by
  induction ws generalizing u with
  | nil => simp
  | cons c ws ih =>
      have hc := hws c (List.mem_cons_self c ws)
      rw [← List.singleton_append, ← List.append_assoc, ih (fun d hd => hws d (List.mem_cons_of_mem c hd)),
        subNvfuser, subScan_nvfuser_snoc _ hc u none 0 (Nat.zero_le _), List.append_assoc]
      rfl

/-- A text left as it is stays so without trailing non-word characters. -/
theorem subNvfuser_of_append_nonword {u w : Text} (hws : ∀ c ∈ w, U.isWord c = false)
    (h : subNvfuser U (u ++ w) = u ++ w) : subNvfuser U u = u := by
  rw [subNvfuser_append_nonword hws] at h
  exact List.append_cancel_right h

/-- The renaming splits after a non-word character. -/
theorem subNvfuser_append_of_nonword {c : Char} (hc : U.isWord c = false) (u t : Text) :
    subNvfuser U (u ++ [c] ++ t) = subNvfuser U (u ++ [c]) ++ subNvfuser U t := by
  rw [List.append_assoc, List.singleton_append]
  unfold subNvfuser
  rw [subScan_nvfuser_split _ hc t u none 0 (Nat.zero_le _),
    subScan_nvfuser_congr_prev _ (show isWordAt U (some c) = isWordAt U none from hc)]

/-- Lines each of which, but for the last, ends in a non-word character. -/
inductive Segments (U : UnicodeDB) : List Text → Prop
  | nil : Segments U []
  | last (l : Text) : Segments U [l]
  | cons {u : Text} {c : Char} {ls : List Text} (hc : U.isWord c = false) :
      Segments U ls → Segments U ((u ++ [c]) :: ls)

theorem Segments.tail {l : Text} {ls : List Text} (h : Segments U (l :: ls)) : Segments U ls := by
  cases h with
  | last => exact .nil
  | cons _ h => exact h

/-- Dropping lines keeps the only unterminated line last. -/
theorem Segments.sublist {ls ls' : List Text} (hs : List.Sublist ls' ls) (h : Segments U ls) :
    Segments U ls' := by
  induction hs with
  | slnil => exact h
  | cons _ _ ih => exact ih h.tail
  | cons₂ l hs ih =>
      cases h with
      | last => rw [List.sublist_nil.1 hs]; exact .last l
      | cons hc h => exact .cons hc (ih h)

/-- `readlines` ends every line but the last with `\n`. -/
theorem segments_readlinesGo : ∀ (acc s : Text), Segments U (readlinesGo acc s)
  | acc, [] => by
      unfold readlinesGo
      split
      · exact .nil
      · exact .last _
  | acc, c :: s => by
      unfold readlinesGo
      split
      · next h =>
          subst h
          rw [List.reverse_cons]
          exact .cons (by rw [U.ascii_isWord '\n' (by decide)]; rfl) (segments_readlinesGo [] s)
      · exact segments_readlinesGo _ s

/-- The renaming of joined lines is the join of the renamed lines. -/
theorem subNvfuser_flatten {ls : List Text} (h : Segments U ls) :
    subNvfuser U ls.flatten = (ls.map (subNvfuser U)).flatten := by
  induction h with
  | nil => rfl
  | last l => simp
  | cons hc _ ih => rw [List.flatten_cons, subNvfuser_append_of_nonword hc, ih]; rfl

-- ===================================================== get_kernel

section kernel

variable (hs : ∀ c, isSpace c = true → U.isWord c = false)
include hs

/-- `rstrip` keeps a text the renaming leaves as it is. -/
theorem subNvfuser_rstrip {s : Text} (h : subNvfuser U s = s) :
    subNvfuser U (rstrip s) = rstrip s := by
  refine subNvfuser_of_append_nonword (w := (s.reverse.takeWhile isSpace).reverse)
    (fun c hc => hs c (List.mem_takeWhile_imp (List.mem_reverse.1 hc))) ?_
  rw [rstrip_append_trailing]
  exact h

/-- The code `get_kernel` keeps of a kernel file is left as it is by the
renaming. -/
theorem kernelCode_renamed {P : Nat} {sp : Bool} {s code : Text}
    (h : kernelCode U P sp (readlines s) = .ok code) : subNvfuser U code = code := by
  have hsub : List.Sublist (((readlines s).enum.filter fun p => !sp || P ≤ p.1).map Prod.snd)
      (readlines s) := by
    conv_rhs => rw [← List.enum_map_snd (readlines s)]
    exact (List.filter_sublist _).map _
  have hseg := (segments_readlinesGo (U := U) [] s).sublist hsub
  have hkept : ((readlines s).enum.filter fun p => !sp || P ≤ p.1).map (fun p => subNvfuser U p.2) =
      (((readlines s).enum.filter fun p => !sp || P ≤ p.1).map Prod.snd).map (subNvfuser U) :=
    (List.map_map _ _ _).symm
  -- the joined renamed lines are the renaming of the joined lines, a fixed point
  have hF := subNvfuser_rstrip hs (s := (((readlines s).enum.filter fun p => !sp || P ≤ p.1).map
    fun p => subNvfuser U p.2).flatten) (by
      rw [hkept, ← subNvfuser_flatten hseg]
      exact subScan_nvfuser_idem _ rfl)
  unfold kernelCode at h
  dsimp only at h
  split at h
  · split at h
    · cases h
    · next c hc =>
        cases h
        split
        · next hb =>
            subst hb
            refine subNvfuser_rstrip hs (subNvfuser_of_append_nonword (w := ['}'])
              (by intro d hd; rw [List.mem_singleton.1 hd, U.ascii_isWord '}' (by decide)]; rfl) ?_)
            rw [List.dropLast_append_getLast? _ hc]
            exact hF
        · exact hF
  · cases h
    exact hF

/-- Every kernel `get_kernel` loads keeps code that the renaming leaves as
it is: no whole-word `nvfuser_<digits>` identifier is left in it. -/
theorem getKernel_code_renamed {r : TestRun} {name : Text} {k : Nat} {sp : Bool}
    {kern : CompiledKernel} (h : getKernel U r name k sp = .ok kern) :
    ∃ code, kern.code = some code ∧ subNvfuser U code = code := by
  obtain ⟨t, kern0, f, c, -, -, -, hc, rfl⟩ := getKernel_eq_ok U h
  exact ⟨c, rfl, kernelCode_renamed hs hc⟩

end kernel

/-- The ASCII tables count no space as a word character. -/
theorem asciiOnly_isWord_of_isSpace (c : Char) (h : isSpace c = true) :
    UnicodeDB.asciiOnly.isWord c = false := by
  simp only [isSpace, Bool.or_eq_true, Bool.and_eq_true, decide_eq_true_eq, beq_iff_eq] at h
  show (c.isAlphanum || c == '_') = false
  have hv : c.val.toBitVec.toNat = c.toNat := rfl
  simp only [Char.isAlphanum, Char.isAlpha, Char.isUpper, Char.isLower, Char.isDigit,
    Bool.or_eq_false_iff, Bool.and_eq_false_iff, decide_eq_false_iff_not, beq_eq_false_iff_ne, ne_eq,
    UInt32.le_def, BitVec.le_def, hv]
  refine ⟨⟨⟨?_, ?_⟩, ?_⟩, ?_⟩
  · show ¬65 ≤ c.toNat ∨ ¬c.toNat ≤ 90
    omega
  · show ¬97 ≤ c.toNat ∨ ¬c.toNat ≤ 122
    omega
  · show ¬48 ≤ c.toNat ∨ ¬c.toNat ≤ 57
    omega
  · rintro rfl
    revert h
    decide

/-- A kernel that calls `nvfuser_12` and closes the namespace. -/
theorem getKernel_code_renamed_on_sample :
    let d : RunDir := ⟨"r".toList, [("git_hash".toList, "abc\n".toList),
      ("command".toList, "t\n".toList), ("exitcode".toList, "0\n".toList),
      ("stdout".toList, "PRINTING: k.cu\nPRINTING: m.cu\n".toList)],
      some [("k.cu".toList, "a\nvoid kernel1() \x7b\n  nvfuser_12(x);\n\x7d\n\x7d\n".toList),
        ("m.cu".toList, "a\nvoid kernel2()\n".toList)], []⟩
    let git : GitTool := ⟨fun _ => [], fun _ => [], fun _ _ => []⟩
    (∀ c, isSpace c = true → UnicodeDB.asciiOnly.isWord c = false) ∧
      ∃ r kern, TestRun.create UnicodeDB.asciiOnly git d = .ok r ∧
        getKernel UnicodeDB.asciiOnly r ungroupedName 0 true = .ok kern ∧
        ∃ code, kern.code = some code ∧ subNvfuser UnicodeDB.asciiOnly code = code := by
  intro d git
  obtain ⟨kern, h⟩ := except_eq_ok_of_isOk (by decide :
    (TestRun.create UnicodeDB.asciiOnly git d >>= fun r =>
      getKernel UnicodeDB.asciiOnly r ungroupedName 0 true).isOk = true)
  obtain ⟨r, hr, hk⟩ := except_bind_eq_ok.1 h
  exact ⟨asciiOnly_isWord_of_isSpace, r, kern, hr, hk,
    getKernel_code_renamed asciiOnly_isWord_of_isSpace hk⟩

end CodeDiff
