/-
Colour codes in a captured log: `parse` cleans every line as
`ansi_re.sub("", line.rstrip())` before any runner looks at it.

# Where a colour code may stand

`Coloured s t` says that `t` is `s` with complete SGR sequences
(`ESC [ <digits and ;> m`) inserted anywhere. On a text free of escape
introducers the ANSI scan removes exactly the inserted sequences
(`stripAnsi_coloured`). The order of the two cleaning steps matters:
`rstrip` runs first, so a sequence inserted after the line's trailing
whitespace shields that whitespace from it, and the runner sees a line
that ends in spaces (`colour_code_after_trailing_space_hides_kernel`:
`PRINTING: a.cu ` with a reset code before the line end announces
nothing).

A sequence inserted before the trailing whitespace (`ColouredLine`) is
harmless: such a line cleans to the same text (`cleanLine_colouredLine`),
and since a parse reads its lines only through `cleanLine`
(`parseLines_congr`), the whole parse — its exception or its final
state — is unchanged (`parse_ignores_colour_codes`).
-/
import CodeDiff.Parser
import CodeDiff.Proofs.Text

namespace CodeDiff

-- ===================================================== colour sequences

/-- The SGR sequence with parameter text `ps`. -/
def sgr (ps : Text) : Text := '\x1b' :: '[' :: ps ++ ['m']

/-- SGR parameters: digits and `;`. -/
def SgrParams (ps : Text) : Prop := ∀ c ∈ ps, ('0' ≤ c ∧ c ≤ '9') ∨ c = ';'

instance (ps : Text) : Decidable (SgrParams ps) := inferInstanceAs (Decidable (∀ c ∈ ps, _))

/-- A text with neither introducer of an ANSI escape sequence (`ESC` and
its one-character form `CSI`). -/
def EscapeFree (s : Text) : Prop := ∀ c ∈ s, c.toNat ≠ 0x1B ∧ c.toNat ≠ 0x9B

instance (s : Text) : Decidable (EscapeFree s) := inferInstanceAs (Decidable (∀ c ∈ s, _))

/-- `t` is `s` with SGR sequences inserted at any positions. -/
inductive Coloured : Text → Text → Prop
  | nil : Coloured [] []
  | keep (c : Char) {s t : Text} : Coloured s t → Coloured (c :: s) (c :: t)
  | colour {ps s t : Text} : SgrParams ps → Coloured s t → Coloured s (sgr ps ++ t)

/-- `t` is the log line `l` with SGR sequences inserted before its trailing
whitespace (the part `rstrip` removes, line end included). -/
def ColouredLine (l t : Text) : Prop :=
  ∃ body, Coloured (rstrip l) body ∧ t = body ++ l.drop (rstrip l).length

theorem Coloured.refl : ∀ s : Text, Coloured s s
  | [] => .nil
  | c :: s => .keep c (Coloured.refl s)

/-- One sequence inserted at one position. -/
theorem Coloured.insert (a b : Text) {ps : Text} (hps : SgrParams ps) :
    Coloured (a ++ b) (a ++ sgr ps ++ b) := by
  induction a with
  | nil => exact .colour hps (Coloured.refl b)
  | cons c a ih => exact .keep c ih

theorem Coloured.eq_nil {s : Text} (h : Coloured s []) : s = [] := by
  cases h; rfl

-- ===================================================== the ANSI scan

theorem csiTailLen_sgr {ps : Text} (hps : SgrParams ps) (t : Text) :
    csiTailLen (ps ++ 'm' :: t) = some (ps.length + 1) := by
  have hp : (ps ++ 'm' :: t).takeWhile (fun c => '0' ≤ c && c ≤ '?') = ps := by
    rw [List.takeWhile_append_of_pos]
    · simp [List.takeWhile_cons]
    · intro c hc
      rcases hps c hc with ⟨h0, h9⟩ | rfl
      · simp only [Bool.and_eq_true, decide_eq_true_eq]
        exact ⟨h0, Char.le_trans h9 (by decide)⟩
      · decide
  simp [csiTailLen, hp]

theorem ansiMatchLen_sgr {ps : Text} (hps : SgrParams ps) (t : Text) :
    ansiMatchLen (sgr ps ++ t) = some (ps.length + 3) := by
  simp [sgr, ansiMatchLen, csiTailLen_sgr hps]

theorem ansiMatchLen_plain {c : Char} (h : c.toNat ≠ 0x1B ∧ c.toNat ≠ 0x9B) (t : Text) :
    ansiMatchLen (c :: t) = none := by
  simp [ansiMatchLen, h.1, h.2]

theorem stripScan_coloured {s t : Text} (h : Coloured s t) (hs : EscapeFree s)
    (p : Option Char) : subScan (fun _ t => ansiMatchLen t) [] p 0 t = s := by
  induction h generalizing p with
  | nil => rfl
  | keep c _ ih =>
      rw [subScan_cons_of_none _ _ (ansiMatchLen_plain (hs c (.head _)) _),
        ih (fun c' hc' => hs c' (.tail _ hc'))]
  | @colour ps _ t hps _ ih =>
      have e : sgr ps ++ t = '\x1b' :: (('[' :: ps ++ ['m']) ++ t) := by simp [sgr]
      have hm : ansiMatchLen ('\x1b' :: (('[' :: ps ++ ['m']) ++ t)) =
          some (ps.length + 2 + 1) := by
        rw [← e]; exact ansiMatchLen_sgr hps t
      have hl : ('[' :: ps ++ ['m']).length = ps.length + 2 := by simp
      rw [e, subScan_cons_of_some _ _ hm, ← hl, subScan_skip, ih hs]
      rfl

/-- On an escape-free text the ANSI scan removes exactly the inserted
sequences. -/
theorem stripAnsi_coloured {s t : Text} (h : Coloured s t) (hs : EscapeFree s) :
    stripAnsi t = s :=
  stripScan_coloured h hs none

-- ===================================================== rstrip

theorem sgr_getLast? (ps : Text) : (sgr ps).getLast? = some 'm' := by
  simp [sgr, List.getLast?_cons]

/-- A coloured text ends in the text's last character or in a sequence's
final `m`. -/
theorem Coloured.getLast? {s t : Text} (h : Coloured s t) :
    ∀ c ∈ t.getLast?, c = 'm' ∨ c ∈ s.getLast? := by
  induction h with
  | nil => simp
  | @keep c s t h ih =>
      intro x hx
      rw [List.getLast?_cons] at hx
      rcases ht : t.getLast? with _ | y
      · rw [ht] at hx
        cases List.getLast?_eq_none_iff.mp ht
        cases h.eq_nil
        simp_all
      · rw [ht] at hx
        cases hx
        rcases ih y ht with rfl | hy
        · exact .inl rfl
        · right; rw [List.getLast?_cons]; simp_all
  | @colour ps s t _ _ ih =>
      intro x hx
      rw [List.getLast?_append] at hx
      cases ht : t.getLast? with
      | none =>
          rw [ht, Option.none_or, sgr_getLast?] at hx
          exact .inl (Option.some_inj.mp hx).symm
      | some y =>
          rw [ht] at hx
          exact ih x (by rwa [ht])

/-- A line coloured before its trailing whitespace cleans to the same text
as the line. -/
theorem cleanLine_colouredLine {l t : Text} (hl : EscapeFree l) (h : ColouredLine l t) :
    cleanLine t = cleanLine l := by
  obtain ⟨body, hb, rfl⟩ := h
  have hr : EscapeFree (rstrip l) := fun c hc => hl c (mem_of_mem_rstrip hc)
  have hbody : rstrip body = body := rstrip_of_getLast? fun c hc => by
    rcases hb.getLast? c hc with rfl | hc'
    · decide
    · exact isSpace_getLast?_rstrip hc'
  unfold cleanLine
  rw [rstrip_append_of_isSpace (fun c hc => isSpace_of_mem_drop_rstrip hc), hbody,
    stripAnsi_coloured hb hr, stripAnsi_coloured (Coloured.refl _) hr]

-- ===================================================== the parse

variable (U : UnicodeDB)

/-- A parse reads its lines only through `cleanLine`. -/
theorem parseLines_congr (ct : CommandType) {ls ls' : List Text}
    (h : List.Forall₂ (fun a b => cleanLine a = cleanLine b) ls ls') (s : ParserState) :
    parseLines U ct ls s = parseLines U ct ls' s := by
  induction h generalizing s with
  | nil => rfl
  | cons hab _ ih => simp only [parseLines, hab, ih]

/-- Colour codes inserted before each line's trailing whitespace leave the
parse unchanged, for every runner. -/
theorem parse_ignores_colour_codes (ct : CommandType) {lines coloured : List Text}
    (hfree : ∀ l ∈ lines, EscapeFree l) (hcol : List.Forall₂ ColouredLine lines coloured) :
    runParser U ct coloured = runParser U ct lines := by
  have : List.Forall₂ (fun a b => cleanLine a = cleanLine b) coloured lines := by
    induction hcol with
    | nil => exact .nil
    | cons h _ ih =>
        exact .cons (cleanLine_colouredLine (hfree _ (.head _)) h)
          (ih fun l hl => hfree l (.tail _ hl))
  rw [runParser, runParser, parseLines_congr U ct this]

theorem colour_code_in_announcement_is_stripped :
    let lines := ["PRINTING: a.cu \n".toList]
    let coloured := ["PRINTING: ".toList ++ sgr "1;31".toList ++ "a.cu \n".toList]
    (∀ l ∈ lines, EscapeFree l) ∧ List.Forall₂ ColouredLine lines coloured ∧
      runParser UnicodeDB.asciiOnly .unknown coloured =
        runParser UnicodeDB.asciiOnly .unknown lines := by
  have hr : rstrip "PRINTING: a.cu \n".toList = "PRINTING: ".toList ++ "a.cu".toList := by decide
  have hl : ColouredLine "PRINTING: a.cu \n".toList
      ("PRINTING: ".toList ++ sgr "1;31".toList ++ "a.cu \n".toList) :=
    ⟨"PRINTING: ".toList ++ sgr "1;31".toList ++ "a.cu".toList,
      hr ▸ Coloured.insert _ _ (by decide), by rw [hr]; decide⟩
  have hfree : ∀ l ∈ ["PRINTING: a.cu \n".toList], EscapeFree l := by decide
  exact ⟨hfree, .cons hl .nil, parse_ignores_colour_codes _ .unknown hfree (.cons hl .nil)⟩

theorem colour_code_after_trailing_space_hides_kernel :
    let lines := ["[ RUN      ] t\n".toList, "PRINTING: a.cu ".toList ++ "\n".toList,
      "[       OK ] t\n".toList]
    let coloured := ["[ RUN      ] t\n".toList,
      "PRINTING: a.cu ".toList ++ sgr "0".toList ++ "\n".toList, "[       OK ] t\n".toList]
    (∀ l ∈ lines, EscapeFree l) ∧ List.Forall₂ Coloured lines coloured ∧
      (runParser UnicodeDB.asciiOnly .googletest coloured).map (·.kernelMap) ≠
        (runParser UnicodeDB.asciiOnly .googletest lines).map (·.kernelMap) :=
  ⟨by decide, .cons (Coloured.refl _) (.cons (Coloured.insert _ _ (by decide))
    (.cons (Coloured.refl _) .nil)), by decide⟩

end CodeDiff
