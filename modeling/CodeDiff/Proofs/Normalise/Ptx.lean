/-
What `sanitize_ptx_lines` forgets of a PTX line: the scope and kernel-name
components of a kernel symbol `_ZN<len><scope><len><name>`, and the
comment. Lines that differ only there are sanitised to the same text
(`sanitizePtxLine_eq_of_ptxLineVariant`), and so are two PTX texts whose
`splitlines()` pair up that way (`sanitizePtxLines_eq_of_ptxLineVariant`).

# Comments

A line of `splitlines` holds no `\n`, and on such a line
`re.sub(r"//.*$", "", l)` keeps what precedes the first `//`
(`stripComment_eq_cutComment`); the text after a `//` never matters
(`cutComment_append_comment`).

# The demangling

The greedy `^.*` of the demangling regex settles on the last position
where `\b_Z?ZN<digits>_` matches (`lastMangled_eq_some`). Whatever it
finds, the line up to the end of that `_Z?ZN` is kept
(`demangleLine_eq_ok`), so a mangled name in the comment of a line whose
code has none changes nothing that survives the comment's removal. When
the last one starts a `KernelSymbol` (length fields that give the lengths
of the scope and of the name, a scope that begins with `_`, a name that
does not begin with a digit), exactly the symbol's components are
replaced (`demangleLine_kernelSymbol`). The digit condition is needed: the
name-length field is read as the longest digit run, so the leading digits
of a name would be read as part of it.
-/
import CodeDiff.Proofs.Normalise.Nvfuser
import CodeDiff.Diff

namespace CodeDiff

variable {U : UnicodeDB}

-- ===================================================== comments

/-- The code part of a line: everything before its first `//`. -/
def cutComment : Text → Text
  | [] => []
  | c :: s => if c = '/' ∧ s.head? = some '/' then [] else c :: cutComment s

theorem takeWhile_ne_newline {s : Text} (h : '\n' ∉ s) : s.takeWhile (· ≠ '\n') = s :=
  List.takeWhile_eq_self_iff.2 fun c hc => by
    simp only [ne_eq, decide_eq_true_eq]
    rintro rfl
    exact h hc

theorem dotStarEnd_of_not_mem {s : Text} (h : '\n' ∉ s) : dotStarEnd s = some s := by
  simp only [dotStarEnd, takeWhile_ne_newline h, List.drop_length]

theorem lineLen_of_not_mem {s : Text} (h : '\n' ∉ s) : lineLen s = s.length := by
  rw [lineLen, takeWhile_ne_newline h]

theorem subScan_skip_to_end (m : Option Char → Text → Option Nat) (repl : Text) (p : Option Char)
    (xs : Text) : subScan m repl p xs.length xs = [] := by
  simpa using subScan_skip m repl p xs []

/-- On a line, `re.sub(r"//.*$", "", l)` keeps the code part. -/
theorem stripComment_eq_cutComment {s : Text} (h : '\n' ∉ s) : stripComment s = cutComment s := by
  suffices ∀ p, subScan (fun _ t => commentMatchLen t) [] p 0 s = cutComment s from this none
  induction s with
  | nil => intro p; rfl
  | cons c s ih =>
      intro p
      have hs : '\n' ∉ s := fun e => h (List.mem_cons_of_mem c e)
      by_cases hc : c = '/' ∧ s.head? = some '/'
      · obtain ⟨rfl, ht⟩ := hc
        obtain ⟨t, rfl⟩ : ∃ t, s = '/' :: t := by
          cases s with
          | nil => cases ht
          | cons d t => cases ht; exact ⟨t, rfl⟩
        have hm : commentMatchLen ('/' :: '/' :: t) = some (('/' :: t).length + 1) := by
          have hp : "//".toList.isPrefixOf ('/' :: '/' :: t) = true :=
            List.isPrefixOf_iff_prefix.2 ⟨t, rfl⟩
          rw [commentMatchLen, if_pos hp,
            show List.drop 2 ('/' :: '/' :: t) = t from rfl,
            dotStarEnd_of_not_mem (fun e => hs (List.mem_cons_of_mem _ e)), Option.map_some',
            List.length_cons]
          congr 1
          omega
        rw [subScan_cons_of_some _ _ hm, subScan_skip_to_end, cutComment, if_pos ⟨rfl, rfl⟩]
        rfl
      · have hm : commentMatchLen (c :: s) = none := by
          unfold commentMatchLen
          rw [if_neg]
          intro hp
          obtain ⟨t, ht⟩ := List.isPrefixOf_iff_prefix.1 hp
          exact hc (by cases ht; exact ⟨rfl, rfl⟩)
        rw [subScan_cons_of_none _ _ hm, ih hs, cutComment, if_neg hc]

/-- What follows a line's first `//` is not part of its code. -/
theorem cutComment_append_comment (u t : Text) :
    cutComment (u ++ '/' :: '/' :: t) = cutComment (u ++ ['/', '/']) := by
  induction u with
  | nil => rfl
  | cons c u ih =>
      have hh : (u ++ '/' :: '/' :: t).head? = (u ++ ['/', '/']).head? := by cases u <;> rfl
      rw [List.cons_append, List.cons_append, cutComment, cutComment, hh, ih]

-- ===================================================== the last mangled name

section mangled

variable (U) in
/-- Whether `\b_Z?ZN<digits>_` matches at position `p` of a line. -/
def mangledStart (s : Text) (p : Nat) : Bool :=
  (mangledAt U (s.take p).getLast? (s.drop p)).isSome

/-- A mangled name starts inside the line. -/
theorem lt_length_of_mangledStart {s : Text} {p : Nat} (h : mangledStart U s p = true) :
    p < s.length := by
  by_contra hp
  rw [mangledStart, List.drop_eq_nil_of_le (by omega)] at h
  simp [mangledAt] at h

/-- A search from the far end finds the last hit. -/
theorem findSome?_range_reverse {β : Type} {f : Nat → Option β} {p : Nat} {b : β}
    (hf : f p = some b) : ∀ {N : Nat}, p ≤ N → (∀ q, p < q → q ≤ N → f q = none) →
      (List.range (N + 1)).reverse.findSome? f = some b
  | 0, hp, _ => by
      obtain rfl := Nat.le_zero.1 hp
      simp [List.range_succ, hf]
  | N + 1, hp, hq => by
      rw [List.range_succ, List.reverse_append, List.reverse_singleton, List.singleton_append,
        List.findSome?_cons]
      rcases Nat.lt_or_eq_of_le hp with hlt | rfl
      · rw [hq (N + 1) hlt le_rfl]
        exact findSome?_range_reverse hf (by omega) fun q h1 h2 => hq q h1 (by omega)
      · rw [hf]

/-- The greedy `.*` of the demangling regex settles on the last mangled
name of the line. -/
theorem lastMangled_eq_some {s : Text} {p n : Nat} {ds : Text}
    (hm : mangledAt U (s.take p).getLast? (s.drop p) = some (n, ds)) (hp : p ≤ lineLen s)
    (hlast : ∀ q, mangledStart U s q = true → q ≤ p) : lastMangled U s = some (p, n, ds) := by
  unfold lastMangled
  refine findSome?_range_reverse (by rw [hm]; rfl) hp fun q hq _ => ?_
  have := mt (hlast q) (by omega)
  simpa [mangledStart] using this

theorem mangledAt_of_lastMangled {s : Text} {p n : Nat} {ds : Text}
    (h : lastMangled U s = some (p, n, ds)) :
    mangledAt U (s.take p).getLast? (s.drop p) = some (n, ds) := by
  unfold lastMangled at h
  obtain ⟨q, -, hq⟩ := List.exists_of_findSome?_eq_some h
  obtain ⟨⟨n', ds'⟩, hm, he⟩ := Option.map_eq_some'.1 hq
  simp only [Prod.mk.injEq] at he
  obtain ⟨rfl, rfl, rfl⟩ := he
  exact hm

/-- A mangled name starts with `_ZN` or `_ZZN`. -/
theorem three_le_of_mangledAt {prev : Option Char} {s : Text} {n : Nat} {ds : Text}
    (h : mangledAt U prev s = some (n, ds)) : 3 ≤ n := by
  unfold mangledAt at h
  dsimp only at h
  split_ifs at h <;> simp at h <;> omega

theorem intOfDigits_eq_ok {ds : Text} {v : Nat} :
    intOfDigits U ds = .ok v ↔ ds.length ≤ intMaxStrDigits ∧ v = digitsValue U ds := by
  by_cases h : ds.length > intMaxStrDigits
  · simp [intOfDigits, h]
  · simp only [intOfDigits, h, if_false, Except.ok.injEq, eq_comm, iff_and_self]
    omega

theorem demangleLine_of_none {l : Text} (h : lastMangled U l = none) : demangleLine U l = .ok l := by
  unfold demangleLine
  rw [h]

/-- The demangled line keeps the line up to the end of the last mangled
name's `_Z?ZN` and writes `11kernelscope`; what follows is made of the
line's characters and those of `6kernel`. -/
theorem demangleLine_eq_ok {l x : Text} {p n : Nat} {ds : Text}
    (h : lastMangled U l = some (p, n, ds)) (hx : demangleLine U l = .ok x) :
    ∃ r, x = l.take (p + n) ++ "11kernelscope".toList ++ r ∧
      ∀ c ∈ r, c ∈ l ∨ c ∈ "6kernel".toList := by
  unfold demangleLine at hx
  rw [h] at hx
  obtain ⟨v, -, hx⟩ := except_bind_eq_ok.1 hx
  dsimp only at hx
  split at hx
  · simp only [except_ok_bind, except_pure, Except.ok.injEq] at hx
    exact ⟨_, hx.symm, fun c hc => .inl (List.mem_of_mem_drop hc)⟩
  · obtain ⟨w, -, hx⟩ := except_bind_eq_ok.1 hx
    simp only [except_ok_bind, except_pure, Except.ok.injEq] at hx
    refine ⟨_, hx.symm, fun c hc => ?_⟩
    rcases List.mem_append.1 hc with hc | hc
    · exact .inr hc
    · exact .inl (List.mem_of_mem_drop (List.mem_of_mem_drop hc))

end mangled

-- ===================================================== kernel symbols

/-- A kernel symbol `_ZN<len><scope><len><name>` (or `_ZZN…`): each length
field is a digit string giving the length of the component after it, the
scope begins with `_`, and the name does not begin with a digit. -/
structure KernelSymbol (U : UnicodeDB) where
  lead : Text
  scopeLen : Text
  scope : Text
  nameLen : Text
  name : Text
  lead_eq : lead = "_ZN".toList ∨ lead = "_ZZN".toList
  scopeLen_digits : IsDigits U scopeLen
  scopeLen_value : digitsValue U scopeLen = scope.length
  scope_head : scope.head? = some '_'
  nameLen_digits : IsDigits U nameLen
  nameLen_value : digitsValue U nameLen = name.length
  name_head : ∃ c, name.head? = some c ∧ U.isDigit c = false

/-- The symbol as it stands in the line. -/
def KernelSymbol.text (s : KernelSymbol U) : Text :=
  s.lead ++ s.scopeLen ++ s.scope ++ s.nameLen ++ s.name

theorem isDigit_underscore : U.isDigit '_' = false := by
  rw [U.ascii_isDigit '_' (by decide)]
  rfl

theorem isWordAt_underscore : isWordAt U (some '_') = true := by
  rw [isWordAt, U.ascii_isWord '_' (by decide)]
  rfl

/-- A kernel symbol after a non-word character is a mangled name whose
digits are its scope length. -/
theorem mangledAt_kernelSymbol {prev : Option Char} (hp : isWordAt U prev = false)
    (s : KernelSymbol U) (rest : Text) :
    mangledAt U prev (s.text ++ rest) = some (s.lead.length, s.scopeLen) := by
  obtain ⟨t, hs⟩ : ∃ t, s.scope = '_' :: t := by
    have := s.scope_head
    cases h : s.scope with
    | nil => rw [h] at this; cases this
    | cons c t => rw [h] at this; cases this; exact ⟨t, rfl⟩
  have e : s.text ++ rest = s.lead ++ (s.scopeLen ++ ('_' :: (t ++ s.nameLen ++ s.name ++ rest))) := by
    simp [KernelSymbol.text, hs]
  have hd : (s.scopeLen ++ ('_' :: (t ++ s.nameLen ++ s.name ++ rest))).takeWhile U.isDigit =
      s.scopeLen :=
    takeWhile_digits_append s.scopeLen_digits.2 fun c hc => by
      cases hc; exact isDigit_underscore
  have hlead : ∀ R : Text, (if "_ZZN".toList.isPrefixOf (s.lead ++ R) then some 4
      else if "_ZN".toList.isPrefixOf (s.lead ++ R) then some 3 else none) =
      some s.lead.length ∧ (s.lead ++ R).head? = some '_' := by
    intro R
    rcases s.lead_eq with h | h <;> rw [h]
    · have h1 : "_ZZN".toList.isPrefixOf ("_ZN".toList ++ R) = false := rfl
      rw [h1, if_neg Bool.false_ne_true, if_pos (List.isPrefixOf_iff_prefix.2 ⟨R, rfl⟩)]
      exact ⟨rfl, rfl⟩
    · rw [if_pos (List.isPrefixOf_iff_prefix.2 ⟨R, rfl⟩)]
      exact ⟨rfl, rfl⟩
  obtain ⟨hl, hh⟩ := hlead (s.scopeLen ++ ('_' :: (t ++ s.nameLen ++ s.name ++ rest)))
  rw [e]
  unfold mangledAt
  dsimp only
  rw [hl]
  dsimp only
  rw [List.drop_left, hd, hh, List.drop_append, List.drop_left]
  simp [boundary, hp, isWordAt_underscore, s.scopeLen_digits.1]

/-- On a line whose last mangled name is a kernel symbol, the demangling
replaces exactly the symbol's components. -/
theorem demangleLine_kernelSymbol {pre rest x : Text} (s : KernelSymbol U)
    (hpre : isWordAt U pre.getLast? = false) (hnl : '\n' ∉ pre ++ s.text ++ rest)
    (hlast : ∀ q, mangledStart U (pre ++ s.text ++ rest) q = true → q ≤ pre.length)
    (hx : demangleLine U (pre ++ s.text ++ rest) = .ok x) :
    x = pre ++ s.lead ++ "11kernelscope6kernel".toList ++ rest := by
  have e : pre ++ s.text ++ rest = pre ++ (s.text ++ rest) := List.append_assoc _ _ _
  have hm : mangledAt U ((pre ++ s.text ++ rest).take pre.length).getLast?
      ((pre ++ s.text ++ rest).drop pre.length) = some (s.lead.length, s.scopeLen) := by
    rw [e, List.take_left, List.drop_left]
    exact mangledAt_kernelSymbol hpre s rest
  have hlm := lastMangled_eq_some hm (by rw [lineLen_of_not_mem hnl]; simp) hlast
  have hlead : (pre ++ s.text ++ rest).take (pre.length + s.lead.length) = pre ++ s.lead := by
    rw [e, List.take_append, KernelSymbol.text]
    simp
  have hrem : (pre ++ s.text ++ rest).drop
      ((pre ++ s.lead).length + s.scopeLen.length + digitsValue U s.scopeLen) =
      s.nameLen ++ (s.name ++ rest) := by
    rw [s.scopeLen_value]
    have : pre ++ s.text ++ rest = (pre ++ s.lead ++ s.scopeLen ++ s.scope) ++
        (s.nameLen ++ (s.name ++ rest)) := by simp [KernelSymbol.text]
    rw [this, List.drop_left']
    simp only [List.length_append]
  obtain ⟨c, hc, hcd⟩ := s.name_head
  have hvd : (s.nameLen ++ (s.name ++ rest)).takeWhile U.isDigit = s.nameLen :=
    takeWhile_digits_append s.nameLen_digits.2 fun d hd => by
      rw [List.head?_append_of_ne_nil _ (fun h => by rw [h] at hc; cases hc), hc] at hd
      cases hd
      exact hcd
  unfold demangleLine at hx
  rw [hlm] at hx
  obtain ⟨v, hv, hx⟩ := except_bind_eq_ok.1 hx
  obtain ⟨-, rfl⟩ := intOfDigits_eq_ok.1 hv
  dsimp only at hx
  rw [hlead, hrem, hvd] at hx
  split at hx
  · next hne => exact absurd (List.isEmpty_iff.1 hne) s.nameLen_digits.1
  · obtain ⟨w, hw, hx⟩ := except_bind_eq_ok.1 hx
    obtain ⟨-, rfl⟩ := intOfDigits_eq_ok.1 hw
    simp only [except_ok_bind, except_pure, Except.ok.injEq] at hx
    have hd : (s.nameLen ++ (s.name ++ rest)).drop (s.nameLen.length + s.name.length) = rest := by
      rw [← List.append_assoc, List.drop_left' (List.length_append _ _)]
    rw [← hx, s.nameLen_value, hd]
    simp

-- ===================================================== the line relation

/-- The comments of two paired lines: neither line has one, or both have
one, starting with `//` at the same place. -/
def CommentPair (c₁ c₂ : Text) : Prop :=
  (c₁ = [] ∧ c₂ = []) ∨ ∃ t₁ t₂, c₁ = '/' :: '/' :: t₁ ∧ c₂ = '/' :: '/' :: t₂

variable (U) in
/-- Two PTX lines that `sanitize_ptx_lines` must not tell apart: equal
lines; lines with the same code and any comments, where no name that
`\b_Z?ZN<digits>_` matches starts in the code (the pattern wants a `_`
right after the digits, so a symbol such as `_ZN3foo3bar` is no such name,
and code that holds a kernel symbol is the next case, with the same symbol
on both sides); and lines that differ in the components of a kernel symbol
and in their comments, where no such name starts after the symbol's start
(in the comment neither). Left out is code whose last such name is no
kernel symbol: its length fields are read as they stand and may reach into
the comment. -/
inductive PtxLineVariant : Text → Text → Prop
  | refl (l : Text) : PtxLineVariant l l
  | comment {b t₁ t₂ : Text}
      (h₁ : ∀ p, mangledStart U (b ++ '/' :: '/' :: t₁) p = true → b.length ≤ p)
      (h₂ : ∀ p, mangledStart U (b ++ '/' :: '/' :: t₂) p = true → b.length ≤ p) :
      PtxLineVariant (b ++ '/' :: '/' :: t₁) (b ++ '/' :: '/' :: t₂)
  | symbol {pre post c₁ c₂ : Text} (s₁ s₂ : KernelSymbol U) (hlead : s₁.lead = s₂.lead)
      (hpre : isWordAt U pre.getLast? = false) (hc : CommentPair c₁ c₂)
      (h₁ : ∀ p, mangledStart U (pre ++ s₁.text ++ (post ++ c₁)) p = true → p ≤ pre.length)
      (h₂ : ∀ p, mangledStart U (pre ++ s₂.text ++ (post ++ c₂)) p = true → p ≤ pre.length) :
      PtxLineVariant (pre ++ s₁.text ++ (post ++ c₁)) (pre ++ s₂.text ++ (post ++ c₂))

example : PtxLineVariant UnicodeDB.asciiOnly ("call _ZN3foo3bar ".toList ++ '/' :: '/' :: " c".toList)
    ("call _ZN3foo3bar ".toList ++ '/' :: '/' :: " d".toList) :=
  .comment
    (fun p hp => (by decide : ∀ p < 21, mangledStart UnicodeDB.asciiOnly
      ("call _ZN3foo3bar ".toList ++ '/' :: '/' :: " c".toList) p = true → 17 ≤ p) p
      (lt_length_of_mangledStart hp) hp)
    (fun p hp => (by decide : ∀ p < 21, mangledStart UnicodeDB.asciiOnly
      ("call _ZN3foo3bar ".toList ++ '/' :: '/' :: " d".toList) p = true → 17 ≤ p) p
      (lt_length_of_mangledStart hp) hp)

/-- Demangling brings in no `\n`. -/
theorem not_mem_demangleLine {l y : Text} (hn : '\n' ∉ l) (h : demangleLine U l = .ok y) :
    '\n' ∉ y := by
  rcases hlm : lastMangled U l with _ | ⟨p, n, ds⟩
  · rw [demangleLine_of_none hlm] at h
    cases h
    exact hn
  · obtain ⟨r, rfl, hr⟩ := demangleLine_eq_ok hlm h
    simp only [List.mem_append, not_or]
    refine ⟨⟨fun e => hn (List.mem_of_mem_take e), by decide⟩, fun e => ?_⟩
    rcases hr _ e with e | e
    · exact hn e
    · revert e; decide

/-- The comment of a line whose code holds no mangled name is dropped
whatever it says. -/
theorem sanitizePtxLine_comment {b t x : Text} (hn : '\n' ∉ b ++ '/' :: '/' :: t)
    (h : ∀ p, mangledStart U (b ++ '/' :: '/' :: t) p = true → b.length ≤ p)
    (hx : sanitizePtxLine U (b ++ '/' :: '/' :: t) = .ok x) : x = cutComment (b ++ ['/', '/']) := by
  obtain ⟨y, hy, rfl⟩ := except_map_eq_ok.1 hx
  have hyn := not_mem_demangleLine hn hy
  obtain ⟨u, rfl⟩ : ∃ u, y = b ++ '/' :: '/' :: u := by
    rcases hlm : lastMangled U (b ++ '/' :: '/' :: t) with _ | ⟨p, n, ds⟩
    · rw [demangleLine_of_none hlm] at hy
      exact ⟨t, (Except.ok.inj hy).symm⟩
    · have hm := mangledAt_of_lastMangled hlm
      have hp := h p (by simp [mangledStart, hm])
      have hn3 := three_le_of_mangledAt hm
      obtain ⟨r, rfl, -⟩ := demangleLine_eq_ok hlm hy
      obtain ⟨k, hk⟩ : ∃ k, p + n = b.length + (k + 2) := ⟨p + n - b.length - 2, by omega⟩
      refine ⟨t.take k ++ "11kernelscope".toList ++ r, ?_⟩
      rw [hk, List.take_append]
      simp
  rw [stripComment_eq_cutComment hyn, cutComment_append_comment]

/-- The sanitised form of a line with a kernel symbol keeps everything but
the symbol's components and the comment. -/
theorem sanitizePtxLine_symbol {pre post c x : Text} (s : KernelSymbol U)
    (hpre : isWordAt U pre.getLast? = false) (hn : '\n' ∉ pre ++ s.text ++ (post ++ c))
    (hlast : ∀ q, mangledStart U (pre ++ s.text ++ (post ++ c)) q = true → q ≤ pre.length)
    (hx : sanitizePtxLine U (pre ++ s.text ++ (post ++ c)) = .ok x) :
    x = stripComment (pre ++ s.lead ++ "11kernelscope6kernel".toList ++ (post ++ c)) ∧
      '\n' ∉ pre ++ s.lead ++ "11kernelscope6kernel".toList ++ (post ++ c) := by
  obtain ⟨y, hy, rfl⟩ := except_map_eq_ok.1 hx
  have hyn := not_mem_demangleLine hn hy
  rw [demangleLine_kernelSymbol s hpre hn hlast hy] at hyn ⊢
  exact ⟨rfl, hyn⟩

/-- Lines that `PtxLineVariant` pairs are sanitised to the same text. -/
theorem sanitizePtxLine_eq_of_ptxLineVariant {l₁ l₂ x₁ x₂ : Text} (h : PtxLineVariant U l₁ l₂)
    (hn₁ : '\n' ∉ l₁) (hn₂ : '\n' ∉ l₂) (hx₁ : sanitizePtxLine U l₁ = .ok x₁)
    (hx₂ : sanitizePtxLine U l₂ = .ok x₂) : x₁ = x₂ := by
  cases h with
  | refl l => rw [hx₁] at hx₂; exact Except.ok.inj hx₂
  | comment h₁ h₂ => rw [sanitizePtxLine_comment hn₁ h₁ hx₁, sanitizePtxLine_comment hn₂ h₂ hx₂]
  | symbol s₁ s₂ hlead hpre hc h₁ h₂ =>
      obtain ⟨rfl, hy₁⟩ := sanitizePtxLine_symbol s₁ hpre hn₁ h₁ hx₁
      obtain ⟨rfl, hy₂⟩ := sanitizePtxLine_symbol s₂ hpre hn₂ h₂ hx₂
      rw [hlead]
      rcases hc with ⟨rfl, rfl⟩ | ⟨t₁, t₂, rfl, rfl⟩
      · rfl
      · rw [hlead] at hy₁
        simp only [← List.append_assoc] at hy₁ hy₂ ⊢
        rw [stripComment_eq_cutComment hy₁, stripComment_eq_cutComment hy₂,
          cutComment_append_comment _ t₁, cutComment_append_comment _ t₂]

/-- The sanitised line lists of two PTX texts whose lines pair up as
`PtxLineVariant`s are equal. -/
theorem sanitizePtxLines_eq_of_ptxLineVariant {p₁ p₂ : Text} {s₁ s₂ : List Text}
    (h : List.Forall₂ (PtxLineVariant U) (splitlines p₁) (splitlines p₂))
    (hs₁ : sanitizePtxLines U (splitlines p₁) = .ok s₁)
    (hs₂ : sanitizePtxLines U (splitlines p₂) = .ok s₂) : s₁ = s₂ := by
  have hn₁ : ∀ l ∈ splitlines p₁, '\n' ∉ l := fun _ => not_mem_of_mem_splitlines
  have hn₂ : ∀ l ∈ splitlines p₂, '\n' ∉ l := fun _ => not_mem_of_mem_splitlines
  rw [sanitizePtxLines, except_mapM_eq_ok] at hs₁ hs₂
  generalize splitlines p₁ = ls₁ at h hn₁ hs₁
  generalize splitlines p₂ = ls₂ at h hn₂ hs₂
  induction h generalizing s₁ s₂ with
  | nil => rw [List.forall₂_nil_left_iff.1 hs₁, List.forall₂_nil_left_iff.1 hs₂]
  | cons hab _ ih =>
      obtain ⟨x₁, s₁', hx₁, hs₁', rfl⟩ := List.forall₂_cons_left_iff.1 hs₁
      obtain ⟨x₂, s₂', hx₂, hs₂', rfl⟩ := List.forall₂_cons_left_iff.1 hs₂
      rw [sanitizePtxLine_eq_of_ptxLineVariant hab (hn₁ _ (List.mem_cons_self _ _))
        (hn₂ _ (List.mem_cons_self _ _)) hx₁ hx₂,
        ih (fun l hl => hn₁ l (List.mem_cons_of_mem _ hl)) hs₁'
          (fun l hl => hn₂ l (List.mem_cons_of_mem _ hl)) hs₂']

end CodeDiff
