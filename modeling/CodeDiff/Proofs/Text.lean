/-
Facts about the text operations of `CodeDiff.Py` and the scan that models
`re.sub`, stated once so that the parser and diff proofs cite them by
name.

# rstrip

`rstrip l` is a prefix of `l`, and what it removes (`trailing`) is all
whitespace: `rstrip_append_trailing`. Appending whitespace does not change
`rstrip`, and a text that ends in a non-space is its own `rstrip`.

# splitlines

A line `splitlines` yields holds no `\n` (`not_mem_of_mem_splitlines`), so
the `$` of a regex matched on it holds only at its end.

# subScan

`subScan` drops the rest of a match with a skip counter. `subScan_skip`
says that skipping exactly a segment `xs` resumes the scan after `xs`
with the segment's last character as the one before the position, which
is what a word-boundary matcher reads.
-/
import CodeDiff.Regex

namespace CodeDiff

-- ===================================================== rstrip

theorem rstrip_append_trailing (l : Text) :
    rstrip l ++ (l.reverse.takeWhile isSpace).reverse = l := by
  rw [rstrip, ← List.reverse_append, List.takeWhile_append_dropWhile, List.reverse_reverse]

theorem drop_rstrip_length (l : Text) :
    l.drop (rstrip l).length = (l.reverse.takeWhile isSpace).reverse := by
  have h := List.drop_left (rstrip l) (l.reverse.takeWhile isSpace).reverse
  rwa [rstrip_append_trailing] at h

theorem isSpace_of_mem_drop_rstrip {l : Text} {c : Char} (h : c ∈ l.drop (rstrip l).length) :
    isSpace c = true := by
  rw [drop_rstrip_length, List.mem_reverse] at h
  exact List.mem_takeWhile_imp h

theorem mem_of_mem_rstrip {l : Text} {c : Char} (h : c ∈ rstrip l) : c ∈ l := by
  rw [← rstrip_append_trailing l]
  exact List.mem_append_left _ h

/-- The last character `rstrip` keeps is not a space. -/
theorem isSpace_getLast?_rstrip {l : Text} {c : Char} (h : c ∈ (rstrip l).getLast?) :
    isSpace c = false := by
  have := List.head?_dropWhile_not isSpace l.reverse
  rw [rstrip, List.getLast?_reverse] at h
  rw [h] at this
  exact this

theorem rstrip_append_of_isSpace {b ws : Text} (h : ∀ c ∈ ws, isSpace c = true) :
    rstrip (b ++ ws) = rstrip b := by
  simp only [rstrip, List.reverse_append]
  rw [List.dropWhile_append_of_pos (by simpa using h)]

theorem rstrip_of_getLast? {b : Text} (h : ∀ c ∈ b.getLast?, isSpace c = false) :
    rstrip b = b := by
  unfold rstrip
  rcases hb : b.reverse with _ | ⟨c, r⟩
  · simp [List.reverse_eq_nil_iff.mp hb]
  · have hc : isSpace c = false := h c (by simp [List.getLast?_eq_head?_reverse, hb])
    rw [List.dropWhile_cons_of_neg (by simp [hc]), ← hb, List.reverse_reverse]

-- ===================================================== splitlines

theorem not_mem_of_mem_splitlinesGo {acc s l : Text} (hacc : '\n' ∉ acc)
    (h : l ∈ splitlinesGo acc s) : '\n' ∉ l := by
  induction acc, s using splitlinesGo.induct with
  | case1 acc he => simp [splitlinesGo, he] at h
  | case2 acc he =>
      rw [splitlinesGo.eq_1, if_neg he, List.mem_singleton] at h
      simpa [h] using hacc
  | case3 acc rest ih =>
      rw [splitlinesGo.eq_2, List.mem_cons] at h
      rcases h with rfl | h
      · simpa using hacc
      · exact ih (List.not_mem_nil _) h
  | case4 acc c rest hcr hb ih =>
      rw [splitlinesGo.eq_3 _ _ _ hcr, if_pos hb, List.mem_cons] at h
      rcases h with rfl | h
      · simpa using hacc
      · exact ih (List.not_mem_nil _) h
  | case5 acc c rest hcr hb ih =>
      rw [splitlinesGo.eq_3 _ _ _ hcr, if_neg hb] at h
      refine ih ?_ h
      intro hm
      rcases List.mem_cons.1 hm with e | e
      · exact hb (e ▸ (by decide : isLineBreak '\n' = true))
      · exact hacc e

/-- A line of `splitlines` holds no `\n`. -/
theorem not_mem_of_mem_splitlines {s l : Text} (h : l ∈ splitlines s) : '\n' ∉ l :=
  not_mem_of_mem_splitlinesGo (List.not_mem_nil _) h

-- ===================================================== subScan

section subScan

variable (m : Option Char → Text → Option Nat) (repl : Text)

/-- Skipping a whole segment resumes after it, its last character before
the position. -/
theorem subScan_skip (p : Option Char) (xs t : Text) :
    subScan m repl p xs.length (xs ++ t) = subScan m repl (xs.getLast?.or p) 0 t := by
  induction xs generalizing p with
  | nil => rfl
  | cons c xs ih =>
      rw [List.length_cons, List.cons_append, subScan, ih, List.getLast?_cons]
      cases xs.getLast? <;> rfl

theorem subScan_cons_of_none {p : Option Char} {c : Char} {t : Text} (h : m p (c :: t) = none) :
    subScan m repl p 0 (c :: t) = c :: subScan m repl (some c) 0 t := by
  simp [subScan, h]

theorem subScan_cons_of_some {p : Option Char} {c : Char} {t : Text} {n : Nat}
    (h : m p (c :: t) = some (n + 1)) :
    subScan m repl p 0 (c :: t) = repl ++ subScan m repl (some c) n t := by
  simp [subScan, h]

end subScan

end CodeDiff
