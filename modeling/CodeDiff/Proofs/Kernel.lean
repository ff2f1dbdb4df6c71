/-
What `CompiledKernel.__post_init__` makes of a kernel's diagnostics.

# Constant banks

`parse_ptxas` walks the `N bytes cmem[B]` matches of the ptxas output in
order, growing the bank list with zeros until it reaches bank `B` and
storing `N` there (`cmemStep`). Over the whole walk (`foldlM_cmemStep`)
the list is as long as the highest bank named plus one, and each bank
holds the byte count of the last match that names it, zero when none does
(`CmemBanks`). A digit run that `int()` refuses makes the walk raise.

# Launch parameters

`parse_launch_params` keeps the first line's parameters and leaves its
loop at the first line whose parameters differ; a line the pattern misses
raises (`m.groups()` on `None`). So the loop is a search
(`launchParamsLoop_eq`, `firstLaunchParams`): the first line's
parameters, unless the first line, or the first later line that does not
repeat them, fails to match; no line after that one is read.
-/
import CodeDiff.Kernel

namespace CodeDiff

variable (U : UnicodeDB)

-- ===================================================== constant banks

/-- The bank list grown with zeros to hold bank `bank`, as `cmemStep` grows
it. -/
def growBanks (banks : List Nat) (bank : Nat) : List Nat :=
  if banks.length ≤ bank then banks ++ List.replicate (bank + 1 - banks.length) 0 else banks

theorem growBanks_length (banks : List Nat) (bank : Nat) :
    (growBanks banks bank).length = max banks.length (bank + 1) := by
  unfold growBanks
  split <;> simp <;> omega

theorem growBanks_getD (banks : List Nat) (bank i : Nat) :
    (growBanks banks bank).getD i 0 = banks.getD i 0 := by
  unfold growBanks
  split
  · simp only [List.getD_eq_getElem?_getD, List.getElem?_append]
    split
    · rfl
    · next h =>
        rw [List.getElem?_replicate, List.getElem?_eq_none (Nat.le_of_not_lt h)]
        split <;> rfl
  · rfl

theorem cmemStep_eq_ok {banks banks' : List Nat} {m : Text × Text} :
    cmemStep U banks m = .ok banks' ↔ ∃ bank nbytes, intOfDigits U m.2 = .ok bank ∧
      intOfDigits U m.1 = .ok nbytes ∧ banks' = (growBanks banks bank).set bank nbytes := by
  simp only [cmemStep, except_bind_eq_ok, except_pure, Except.ok.injEq, growBanks]
  constructor
  · rintro ⟨bank, hb, nbytes, hn, rfl⟩
    exact ⟨bank, nbytes, hb, hn, rfl⟩
  · rintro ⟨bank, nbytes, hb, hn, rfl⟩
    exact ⟨bank, hb, nbytes, hn, rfl⟩

/-- What the bank list owes to the parsed matches `ps`, each a bank and
its byte count, in order: it reaches the highest bank named, and each
bank holds the byte count of the last match naming it, zero when none
does. -/
structure CmemBanks (ps : List (Nat × Nat)) (banks : List Nat) : Prop where
  length : banks.length = ps.foldl (fun n p => max n (p.1 + 1)) 0
  get : ∀ b, banks.getD b 0 = ((ps.reverse.find? fun p => p.1 = b).map (·.2)).getD 0

theorem cmemBanks_nil : CmemBanks [] [] := ⟨rfl, fun _ => rfl⟩

/-- One match stores its byte count under its bank. -/
theorem CmemBanks.step {ps : List (Nat × Nat)} {banks : List Nat} (h : CmemBanks ps banks)
    (bank nbytes : Nat) :
    CmemBanks (ps ++ [(bank, nbytes)]) ((growBanks banks bank).set bank nbytes) := by
  refine ⟨?_, fun b => ?_⟩
  · rw [List.length_set, growBanks_length, h.length, List.foldl_append]
    rfl
  · have hlt : bank < (growBanks banks bank).length := by rw [growBanks_length]; omega
    rw [List.reverse_append, List.reverse_singleton, List.singleton_append, List.find?_cons]
    by_cases hb : bank = b
    · subst hb
      simp [List.getD_eq_getElem?_getD, List.getElem?_set_self hlt]
    · simp only [List.getD_eq_getElem?_getD, List.getElem?_set_ne hb, hb, decide_False] at h ⊢
      rw [← List.getD_eq_getElem?_getD, growBanks_getD]
      exact h.get b

/-- The `cmem` walk of `parse_ptxas`: every match it passes parses, and the
list keeps `CmemBanks` over the parsed matches. -/
theorem foldlM_cmemStep : ∀ {ms : List (Text × Text)} {ps : List (Nat × Nat)} {banks banks' : List Nat},
    CmemBanks ps banks → ms.foldlM (cmemStep U) banks = .ok banks' →
    ∃ qs, List.Forall₂ (fun m q => intOfDigits U m.2 = .ok q.1 ∧ intOfDigits U m.1 = .ok q.2) ms qs ∧
      CmemBanks (ps ++ qs) banks'
  | [], ps, _, _, h, e => by
      cases e
      exact ⟨[], .nil, by simpa using h⟩
  | m :: ms, ps, banks, banks', h, e => by
      rw [List.foldlM_cons] at e
      obtain ⟨b₁, h₁, e⟩ := except_bind_eq_ok.mp e
      obtain ⟨bank, nbytes, hb, hn, rfl⟩ := (cmemStep_eq_ok U).1 h₁
      obtain ⟨qs, hqs, h'⟩ := foldlM_cmemStep (h.step bank nbytes) e
      exact ⟨(bank, nbytes) :: qs, .cons ⟨hb, hn⟩ hqs, by simpa using h'⟩

theorem parsePtxas_cmem {k k' : CompiledKernel} {info : Text} (hk : k.ptxasInfo = some info)
    (h : parsePtxas U k = .ok k') :
    ∃ banks, k'.cmemBankBytes = some banks ∧
      (cmemMatches U info).foldlM (cmemStep U) [] = .ok banks := by
  unfold parsePtxas at h
  rw [hk] at h
  simp only [except_bind_eq_ok] at h
  obtain ⟨_, -, _, -, _, -, _, -, _, -, _, -, banks, hb, h⟩ := h
  cases h
  exact ⟨banks, rfl, hb⟩

/-- `parse_launch_params` leaves the constant banks alone. -/
theorem parseLaunchParams_cmem {k k' : CompiledKernel} (h : parseLaunchParams k = .ok k') :
    k'.cmemBankBytes = k.cmemBankBytes := by
  unfold parseLaunchParams at h
  split at h
  · cases h; rfl
  · obtain ⟨_, _, h⟩ := except_bind_eq_ok.mp h
    cases h; rfl

/-- A kernel built from its diagnostics records, for each constant bank up
to the highest one its ptxas output names, the byte count of the last
`N bytes cmem[B]` match naming the bank, and zero for a bank no match
names; every match's two digit runs were parsed. -/
theorem create_cmemBankBytes {f p l : Text} {k : CompiledKernel}
    (h : CompiledKernel.create U f p l = .ok k) :
    ∃ ps banks, k.cmemBankBytes = some banks ∧
      List.Forall₂ (fun m q => intOfDigits U m.2 = .ok q.1 ∧ intOfDigits U m.1 = .ok q.2)
        (cmemMatches U p) ps ∧ CmemBanks ps banks := by
  obtain ⟨k₀, h₀, h⟩ := except_bind_eq_ok.mp h
  obtain ⟨banks, hb, hf⟩ := parsePtxas_cmem U rfl h₀
  obtain ⟨ps, hps, hc⟩ := foldlM_cmemStep U cmemBanks_nil hf
  exact ⟨ps, banks, (parseLaunchParams_cmem h).trans hb, hps, by simpa using hc⟩

/-- Bank 0 named twice and bank 2 once: bank 0 holds the later count and
bank 1 is zero. -/
theorem create_cmemBankBytes_on_sample :
    ∃ k, CompiledKernel.create UnicodeDB.asciiOnly "a.cu".toList
        "360 bytes cmem[0], 16 bytes cmem[2], 8 bytes cmem[0]".toList [] = .ok k ∧
      ∃ ps banks, k.cmemBankBytes = some banks ∧
        List.Forall₂ (fun m q => intOfDigits UnicodeDB.asciiOnly m.2 = .ok q.1 ∧
            intOfDigits UnicodeDB.asciiOnly m.1 = .ok q.2)
          (cmemMatches UnicodeDB.asciiOnly "360 bytes cmem[0], 16 bytes cmem[2], 8 bytes cmem[0]".toList)
          ps ∧ CmemBanks ps banks := by
  obtain ⟨k, h⟩ := except_eq_ok_of_isOk (by decide : (CompiledKernel.create UnicodeDB.asciiOnly
    "a.cu".toList "360 bytes cmem[0], 16 bytes cmem[2], 8 bytes cmem[0]".toList []).isOk = true)
  exact ⟨k, h, create_cmemBankBytes _ h⟩

-- ===================================================== launch parameters

/-- The parameters a launch-parameter line carries, when the pattern
matches it. -/
def launchParamsOf (line : Text) : Option LaunchParams :=
  match searchLaunchParams line with
  | some [bx, byy, bz, gx, gy, gz, s] => some ⟨(bx, byy, bz), (gx, gy, gz), s⟩
  | _ => none

theorem launchParamsLoop_cons (kept : Option LaunchParams) (line : Text) (rest : List Text) :
    launchParamsLoop kept (line :: rest) = match launchParamsOf line with
      | none => .error .attributeError
      | some lp => match kept with
        | none => launchParamsLoop (some lp) rest
        | some first => if lp ≠ first then .ok kept else launchParamsLoop kept rest := by
  simp only [launchParamsLoop, launchParamsOf]
  generalize searchLaunchParams line = r
  rcases r with _ | _ | ⟨_, _ | ⟨_, _ | ⟨_, _ | ⟨_, _ | ⟨_, _ | ⟨_, _ | ⟨_, _ | ⟨_, _⟩⟩⟩⟩⟩⟩⟩⟩ <;> rfl

/-- The launch parameters as a search: the first line's, unless the first
line, or the first later line that does not repeat them, fails to
match. -/
def firstLaunchParams : List Text → Except PyError (Option LaunchParams)
  | [] => .ok none
  | line :: rest => match launchParamsOf line with
    | none => .error .attributeError
    | some p => match rest.find? fun l => launchParamsOf l ≠ some p with
      | none => .ok (some p)
      | some l => if (launchParamsOf l).isSome then .ok (some p) else .error .attributeError

/-- Once a value is kept, the loop looks for the first line that does not
repeat it. -/
theorem launchParamsLoop_some (p : LaunchParams) : ∀ lines : List Text,
    launchParamsLoop (some p) lines = match lines.find? fun l => launchParamsOf l ≠ some p with
      | none => .ok (some p)
      | some l => if (launchParamsOf l).isSome then .ok (some p) else .error .attributeError
  | [] => rfl
  | line :: rest => by
      rw [launchParamsLoop_cons, List.find?_cons]
      cases h : launchParamsOf line with
      | none => simp [h]
      | some lp =>
          by_cases hp : lp = p
          · subst hp
            simp only [ne_eq, not_true_eq_false, if_false, decide_False]
            exact launchParamsLoop_some lp rest
          · simp [hp, h]

/-- `parse_launch_params` from a fresh kernel is the search. -/
theorem launchParamsLoop_eq (lines : List Text) :
    launchParamsLoop none lines = firstLaunchParams lines := by
  cases lines with
  | nil => rfl
  | cons line rest =>
      rw [launchParamsLoop_cons, firstLaunchParams]
      cases launchParamsOf line with
      | none => rfl
      | some p => exact launchParamsLoop_some p rest

end CodeDiff
