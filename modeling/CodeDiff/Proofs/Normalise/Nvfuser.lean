/-
`re.sub(r"\bnvfuser_\d+\b", "nvfuser_N", line)` forgets the digits of every
whole-word `nvfuser_<digits>` identifier: two lines that differ only there
come out equal (`subNvfuser_eq_of_nvVariant`), and so does the code
`get_kernel` keeps of two kernel files whose lines pair up that way
(`kernelCode_eq_of_nvVariant`).

# The matcher

`nvfuserMatchLen_eq_some_iff` says what the hand-written matcher accepts:
the identifier after a non-word character, its maximal digit run, and a
non-word character (or the end) after the digits. A match is made of word
characters only, so it never reaches past a non-word character, and what
lies beyond that character does not change the matcher's answer
(`nvfuserMatchLen_append_cons`, `nvfuserMatchLen_le`).

# The scan

Hence a scan splits after any non-word character
(`subScan_nvfuser_split`), and a whole-word identifier is one match that
the scan skips to its end (`subScan_nvfuser_token`); the character before
a position is read only through `isWordAt`
(`subScan_nvfuser_congr_prev`). By induction over `NvVariant`, both scans
produce the same text.
-/
import CodeDiff.Proofs.Text
import CodeDiff.Run

namespace CodeDiff

variable (U : UnicodeDB)

-- ===================================================== the line relation

/-- A digit string as `\d+` matches it. -/
def IsDigits (ds : Text) : Prop := ds ≠ [] ∧ ∀ c ∈ ds, U.isDigit c = true

/-- Two lines that differ only in the digit strings of whole-word
`nvfuser_<digits>` identifiers: each varied identifier follows the line
start or a non-word character, and the line end or a non-word character
follows its digits. -/
inductive NvVariant : Text → Text → Prop
  | refl (x : Text) : NvVariant x x
  | token {x y y' ds ds' : Text} (hx : isWordAt U x.getLast? = false)
      (hds : IsDigits U ds) (hds' : IsDigits U ds')
      (hy : isWordAt U y.head? = false) (hy' : isWordAt U y'.head? = false)
      (rest : NvVariant y y') :
      NvVariant (x ++ nvfuserWord ++ ds ++ y) (x ++ nvfuserWord ++ ds' ++ y')

-- ===================================================== characters

theorem isWordAt_n : isWordAt U (some 'n') = true := by
  rw [isWordAt, U.ascii_isWord 'n' (by decide)]
  rfl

theorem isWord_of_mem_nvfuserWord {c : Char} (h : c ∈ nvfuserWord) : U.isWord c = true := by
  rw [U.ascii_isWord c (by revert c; decide)]
  revert c
  decide

variable {U}

theorem isWordAt_getLast?_digits {ds : Text} (h : IsDigits U ds) : isWordAt U ds.getLast? = true := by
  obtain ⟨hne, hd⟩ := h
  rw [List.getLast?_eq_getLast ds hne, isWordAt,
    U.isWord_of_isDigit _ (hd _ (List.getLast_mem hne))]

theorem isWord_of_mem_word_digits {ds : Text} (h : IsDigits U ds) {c : Char}
    (hc : c ∈ nvfuserWord ++ ds) : U.isWord c = true := by
  rcases List.mem_append.1 hc with hc | hc
  · exact isWord_of_mem_nvfuserWord U hc
  · exact U.isWord_of_isDigit c (h.2 c hc)

theorem not_isDigit_of_isWordAt {o : Option Char} (h : isWordAt U o = false) :
    ∀ c ∈ o, U.isDigit c = false := by
  intro c hc
  rw [Option.mem_def] at hc
  subst hc
  cases hd : U.isDigit c
  · rfl
  · rw [isWordAt, U.isWord_of_isDigit c hd] at h
    cases h

/-- `\d+` stops at the first character that is not a digit. -/
theorem takeWhile_digits_append {ds rest : Text} (hds : ∀ c ∈ ds, U.isDigit c = true)
    (hr : ∀ c ∈ rest.head?, U.isDigit c = false) : (ds ++ rest).takeWhile U.isDigit = ds := by
  rw [List.takeWhile_append_of_pos hds]
  cases rest with
  | nil => simp
  | cons c rest => rw [List.takeWhile_cons_of_neg (by simp [hr c rfl]), List.append_nil]

theorem drop_length_takeWhile {α : Type} (p : α → Bool) (l : List α) :
    l.drop (l.takeWhile p).length = l.dropWhile p := by
  induction l with
  | nil => rfl
  | cons a l ih => by_cases h : p a <;> simp [List.takeWhile_cons, List.dropWhile_cons, h, ih]

-- ===================================================== the matcher

/-- What `\bnvfuser_\d+\b` matches at a position. -/
theorem nvfuserMatchLen_eq_some_iff {p : Option Char} {s : Text} {n : Nat} :
    nvfuserMatchLen U p s = some n ↔ isWordAt U p = false ∧ ∃ ds rest,
      s = nvfuserWord ++ ds ++ rest ∧ IsDigits U ds ∧ isWordAt U rest.head? = false ∧
      n = 8 + ds.length := by
  constructor
  · intro h
    unfold nvfuserMatchLen at h
    dsimp only at h
    split at h
    · next h1 =>
      split at h
      · next h2 =>
        cases h
        simp only [Bool.and_eq_true] at h1 h2
        obtain ⟨hb, hpre⟩ := h1
        obtain ⟨hne, hb2⟩ := h2
        obtain ⟨t, rfl⟩ := List.isPrefixOf_iff_prefix.1 hpre
        have hdrop : ∀ k, (nvfuserWord ++ t).drop (8 + k) = t.drop k := fun k =>
          @List.drop_append _ nvfuserWord t k
        rw [hdrop 0, List.drop_zero] at hne hb2 ⊢
        rw [hdrop, drop_length_takeWhile] at hb2
        have hp : isWordAt U p = false := by
          change boundary U p (some 'n') = true at hb
          simpa [boundary, isWordAt_n] using hb
        have hds : IsDigits U (t.takeWhile U.isDigit) :=
          ⟨by simpa using hne, fun c hc => List.mem_takeWhile_imp hc⟩
        refine ⟨hp, t.takeWhile U.isDigit, t.dropWhile U.isDigit, ?_, hds, ?_, rfl⟩
        · rw [List.append_assoc, List.takeWhile_append_dropWhile]
        · simpa [boundary, isWordAt_getLast?_digits hds] using hb2
      · cases h
    · cases h
  · rintro ⟨hp, ds, rest, rfl, hds, hr, rfl⟩
    have hdrop : ∀ k, (nvfuserWord ++ (ds ++ rest)).drop (8 + k) = (ds ++ rest).drop k :=
      fun k => @List.drop_append _ nvfuserWord _ k
    have hpre : nvfuserWord.isPrefixOf (nvfuserWord ++ (ds ++ rest)) = true :=
      List.isPrefixOf_iff_prefix.2 ⟨_, rfl⟩
    have hb : boundary U p (nvfuserWord ++ (ds ++ rest)).head? = true := by
      change boundary U p (some 'n') = true
      simp [boundary, isWordAt_n, hp]
    unfold nvfuserMatchLen
    dsimp only
    rw [List.append_assoc, hb, hpre, hdrop 0, List.drop_zero, takeWhile_digits_append hds.2 (not_isDigit_of_isWordAt hr),
      hdrop, List.drop_left]
    simp [boundary, isWordAt_getLast?_digits hds, hr, hds.1]

theorem nvfuserMatchLen_congr_prev {p p' : Option Char} (h : isWordAt U p = isWordAt U p')
    (s : Text) : nvfuserMatchLen U p s = nvfuserMatchLen U p' s := by
  simp only [nvfuserMatchLen, boundary, h]

/-- A match covers word characters only, so a non-word character of the
text lies past its end. -/
theorem word_digits_append_eq {ds rest u t : Text} {c : Char} (hc : U.isWord c = false)
    (hds : IsDigits U ds) (h : nvfuserWord ++ ds ++ rest = u ++ c :: t) :
    ∃ u₂, u = nvfuserWord ++ ds ++ u₂ ∧ rest = u₂ ++ c :: t := by
  rcases List.append_eq_append_iff.1 h with ⟨u₂, hu, hr⟩ | ⟨_ | ⟨d, c'⟩, hw, ht⟩
  · exact ⟨u₂, hu, hr⟩
  · exact ⟨[], by simpa using hw.symm, by simpa using ht.symm⟩
  · cases (List.cons_eq_cons.1 ht).1
    have := isWord_of_mem_word_digits hds (hw ▸ List.mem_append_right u (List.mem_cons_self c c'))
    rw [hc] at this
    cases this

/-- The matcher reads no further than the first non-word character. -/
theorem nvfuserMatchLen_append_cons {c : Char} (hc : U.isWord c = false) (p : Option Char)
    (u t t' : Text) : nvfuserMatchLen U p (u ++ c :: t) = nvfuserMatchLen U p (u ++ c :: t') := by
  have key : ∀ t t' n, nvfuserMatchLen U p (u ++ c :: t) = some n →
      nvfuserMatchLen U p (u ++ c :: t') = some n := by
    intro t t' n h
    rw [nvfuserMatchLen_eq_some_iff] at h ⊢
    obtain ⟨hp, ds, rest, he, hds, hr, rfl⟩ := h
    obtain ⟨u₂, rfl, rfl⟩ := word_digits_append_eq hc hds he.symm
    refine ⟨hp, ds, u₂ ++ c :: t', by simp, hds, ?_, rfl⟩
    cases u₂ <;> simpa using hr
  exact Option.ext fun n => ⟨key t t' n, key t' t n⟩

/-- A match ends before the first non-word character. -/
theorem nvfuserMatchLen_le {c : Char} (hc : U.isWord c = false) {p : Option Char} {u t : Text}
    {n : Nat} (h : nvfuserMatchLen U p (u ++ c :: t) = some n) : 8 ≤ n ∧ n ≤ u.length := by
  obtain ⟨-, ds, rest, he, hds, -, rfl⟩ := nvfuserMatchLen_eq_some_iff.1 h
  obtain ⟨u₂, rfl, -⟩ := word_digits_append_eq hc hds he.symm
  simp only [List.length_append]
  exact ⟨by omega, by change 8 + _ ≤ 8 + _ + _; omega⟩

-- ===================================================== the scan

section scan

variable (repl : Text)

theorem subScan_nvfuser_congr_prev {p p' : Option Char}
    (h : isWordAt U p = isWordAt U p') (k : Nat) (s : Text) :
    subScan (nvfuserMatchLen U) repl p k s = subScan (nvfuserMatchLen U) repl p' k s := by
  cases s with
  | nil => cases k <;> rfl
  | cons c s =>
      cases k with
      | succ k => rfl
      | zero => simp only [subScan, nvfuserMatchLen_congr_prev h]

/-- The scan splits after a non-word character: no match reaches over it. -/
theorem subScan_nvfuser_split {c : Char} (hc : U.isWord c = false) (t : Text) :
    ∀ (u : Text) (p : Option Char) (k : Nat), k ≤ u.length →
      subScan (nvfuserMatchLen U) repl p k (u ++ c :: t) =
        subScan (nvfuserMatchLen U) repl p k (u ++ [c]) ++
          subScan (nvfuserMatchLen U) repl (some c) 0 t
  | [], p, k, hk => by
      obtain rfl : k = 0 := Nat.le_zero.1 hk
      have hnone : ∀ t', nvfuserMatchLen U p (c :: t') = none := fun t' => by
        rcases h : nvfuserMatchLen U p (c :: t') with _ | n
        · rfl
        · have := nvfuserMatchLen_le hc (u := []) h
          simp only [List.length_nil] at this
          omega
      rw [List.nil_append, List.nil_append, subScan_cons_of_none _ _ (hnone t),
        subScan_cons_of_none _ _ (hnone [])]
      rfl
  | d :: u, p, k, hk => by
      have ih := subScan_nvfuser_split hc t u
      simp only [List.cons_append]
      cases k with
      | succ k => simp only [subScan]; exact ih _ _ (by simpa using hk)
      | zero =>
          have hm := nvfuserMatchLen_append_cons hc p (d :: u) t []
          simp only [List.cons_append] at hm
          rcases h : nvfuserMatchLen U p (d :: (u ++ c :: t)) with _ | n
          · rw [subScan_cons_of_none _ _ h, subScan_cons_of_none _ _ (hm ▸ h), ih _ _ (Nat.zero_le _)]
            rfl
          · obtain ⟨h8, hn⟩ := nvfuserMatchLen_le hc (u := d :: u) h
            obtain ⟨n, rfl⟩ : ∃ n', n = n' + 1 := ⟨n - 1, by omega⟩
            rw [subScan_cons_of_some _ _ h, subScan_cons_of_some _ _ (hm ▸ h),
              ih _ _ (by simpa using hn), List.append_assoc]

/-- A whole-word identifier is one match: the scan emits the replacement
and resumes after the digits. -/
theorem subScan_nvfuser_token {p : Option Char} {ds y : Text} (hp : isWordAt U p = false)
    (hds : IsDigits U ds) (hy : isWordAt U y.head? = false) :
    subScan (nvfuserMatchLen U) repl p 0 (nvfuserWord ++ (ds ++ y)) =
      repl ++ subScan (nvfuserMatchLen U) repl ds.getLast? 0 y := by
  have h7 : "vfuser_".toList.length = 7 := rfl
  have hm : nvfuserMatchLen U p ('n' :: ("vfuser_".toList ++ ds ++ y)) =
      some (("vfuser_".toList ++ ds).length + 1) :=
    nvfuserMatchLen_eq_some_iff.2
      ⟨hp, ds, y, by rw [List.append_assoc]; rfl, hds, hy, by rw [List.length_append, h7]; omega⟩
  obtain ⟨x, hx⟩ := Option.ne_none_iff_exists'.1 (mt List.getLast?_eq_none_iff.1 hds.1)
  show subScan (nvfuserMatchLen U) repl p 0 ('n' :: ("vfuser_".toList ++ (ds ++ y))) = _
  rw [← List.append_assoc, subScan_cons_of_some _ _ hm, subScan_skip, List.getLast?_append, hx]
  rfl

end scan

/-- Two lines that differ only in the digits of whole-word
`nvfuser_<digits>` identifiers are scanned to the same text, from any two
characters before them that `\b` cannot tell apart. -/
theorem subScan_nvfuser_eq_of_nvVariant (repl : Text) {l m : Text} (h : NvVariant U l m) :
    ∀ {p p' : Option Char}, isWordAt U p = isWordAt U p' →
      (isWordAt U p = false ∨ isWordAt U l.head? = false) →
      subScan (nvfuserMatchLen U) repl p 0 l = subScan (nvfuserMatchLen U) repl p' 0 m := by
  induction h with
  | refl x => exact fun hp _ => subScan_nvfuser_congr_prev repl hp 0 x
  | @token x y y' ds ds' hx hds hds' hy hy' _ ih =>
      intro p p' hp hcond
      have ihy := @ih ds.getLast? ds'.getLast?
        (by rw [isWordAt_getLast?_digits hds, isWordAt_getLast?_digits hds']) (.inr hy)
      rcases List.eq_nil_or_concat x with rfl | ⟨u, c, rfl⟩
      · have hpf : isWordAt U p = false := hcond.resolve_right (by
          change ¬isWordAt U (some 'n') = false
          simp [isWordAt_n])
        simp only [List.nil_append, List.append_assoc]
        rw [subScan_nvfuser_token repl hpf hds hy, subScan_nvfuser_token repl (hp ▸ hpf) hds' hy',
          ihy]
      · have hc : U.isWord c = false := by simpa using hx
        have hc' : isWordAt U (some c) = false := hc
        simp only [List.concat_eq_append, List.append_assoc, List.singleton_append,
          List.cons_append, List.nil_append]
        rw [subScan_nvfuser_split repl hc _ u p 0 (Nat.zero_le _),
          subScan_nvfuser_split repl hc _ u p' 0 (Nat.zero_le _),
          subScan_nvfuser_congr_prev repl hp, subScan_nvfuser_token repl hc' hds hy, subScan_nvfuser_token repl hc' hds' hy', ihy]

theorem subNvfuser_eq_of_nvVariant {l m : Text} (h : NvVariant U l m) :
    subNvfuser U l = subNvfuser U m :=
  subScan_nvfuser_eq_of_nvVariant _ h rfl (.inl rfl)

-- ===================================================== kernel code

/-- `get_kernel` reads a kernel file's lines only through their renamed
form. -/
theorem kernelCode_congr {P : Nat} {sp : Bool} {l₁ l₂ : List Text}
    (h : l₁.map (subNvfuser U) = l₂.map (subNvfuser U)) :
    kernelCode U P sp l₁ = kernelCode U P sp l₂ := by
  have kept : ∀ l : List Text, (l.enum.filter fun p => !sp || P ≤ p.1).map
      (fun p => subNvfuser U p.2) =
      ((l.map (subNvfuser U)).enum.filter fun p => !sp || P ≤ p.1).map Prod.snd := by
    intro l
    rw [List.enum_map, List.filter_map, List.map_map]
    rfl
  unfold kernelCode
  rw [kept, kept, h]

/-- Two kernel files whose lines pair up as `NvVariant`s keep the same
code. -/
theorem kernelCode_eq_of_nvVariant {P : Nat} {sp : Bool} {l₁ l₂ : List Text}
    (h : List.Forall₂ (NvVariant U) l₁ l₂) : kernelCode U P sp l₁ = kernelCode U P sp l₂ := by
  refine kernelCode_congr ?_
  induction h with
  | nil => rfl
  | cons hab _ ih => rw [List.map_cons, List.map_cons, subNvfuser_eq_of_nvVariant hab, ih]

end CodeDiff
