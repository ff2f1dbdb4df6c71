/-
The slice of the Python runtime that `tools/codediff/codediff.py` leans on,
over text as `List Char`: the exceptions a statement can raise, the `str`
methods the tool calls (`rstrip`, `strip`, `splitlines`, `readlines`,
`lower`, `"\n".join`), `int()` on a string, and the two `os.path` helpers.

# Text

A Python `str` is a `List Char` here, so every matcher of the later modules
is structurally recursive and `decide` can run it on a concrete line. A
file's contents are the text `open(...).read()` returns, newline
translation already done.

# Unicode tables

Python's `re` compiles `\d` and `\w` of a `str` pattern against the Unicode
database (`\d` is any decimal digit, `\w` any alphanumeric or `_`), and
`int()` accepts every decimal digit. Those tables are not spelled out:
`UnicodeDB` carries them as a parameter, with the facts the proofs need —
on ASCII they are the familiar classes — as fields. `\s` and `str.isspace`
are spelled out in full (`isSpace`); their set has been fixed for many
Unicode versions.
-/
import Mathlib.Data.List.Basic
import Mathlib.Data.List.Forall2

namespace CodeDiff

/-- A Python `str`. -/
abbrev Text := List Char

/-- The exceptions the modelled code can raise, by class. -/
inductive PyError
  | assertionError
  | attributeError
  | indexError
  | keyError
  | typeError
  | valueError
  | fileNotFoundError
  | nameError
  | runtimeError
  | systemExit
  deriving DecidableEq, Repr

instance instDecidableEqExcept {ε α : Type} [DecidableEq ε] [DecidableEq α] :
    DecidableEq (Except ε α)
  | .ok a, .ok b => if h : a = b then isTrue (h ▸ rfl) else isFalse fun e => h (by cases e; rfl)
  | .error a, .error b =>
      if h : a = b then isTrue (h ▸ rfl) else isFalse fun e => h (by cases e; rfl)
  | .ok _, .error _ => isFalse nofun
  | .error _, .ok _ => isFalse nofun

section Except

variable {α β ε : Type}

@[simp] theorem except_pure (a : α) : (pure a : Except ε α) = .ok a := rfl

@[simp] theorem except_ok_bind (a : α) (f : α → Except ε β) : Except.ok a >>= f = f a := rfl

@[simp] theorem except_error_bind (e : ε) (f : α → Except ε β) :
    (Except.error e : Except ε α) >>= f = .error e := rfl

@[simp] theorem except_map_ok (a : α) (f : α → β) :
    (Except.ok a : Except ε α).map f = .ok (f a) := rfl

@[simp] theorem except_map_error (e : ε) (f : α → β) :
    (Except.error e : Except ε α).map f = .error e := rfl

/-- A computation that returns ran its first step to a value. -/
theorem except_bind_eq_ok {x : Except ε α} {f : α → Except ε β} {b : β} :
    x >>= f = .ok b ↔ ∃ a, x = .ok a ∧ f a = .ok b := by
  cases x <;> simp

theorem except_map_eq_ok {x : Except ε α} {f : α → β} {b : β} :
    x.map f = .ok b ↔ ∃ a, x = .ok a ∧ f a = b := by
  cases x <;> simp

theorem except_eq_ok_of_isOk {x : Except ε α} (h : x.isOk = true) : ∃ a, x = .ok a := by
  cases x with
  | error e => cases h
  | ok a => exact ⟨a, rfl⟩

theorem except_map_map {γ : Type} (x : Except ε α) (f : α → β) (g : β → γ) :
    (x.map f).map g = x.map fun a => g (f a) := by
  cases x <;> rfl

theorem except_map_bind {γ : Type} (x : Except ε α) (f : α → Except ε β) (g : β → γ) :
    (x >>= f).map g = x >>= fun a => (f a).map g := by
  cases x <;> rfl

/-- Two continuations that agree on every value the first step returns. -/
theorem except_bind_congr {x : Except ε α} {f g : α → Except ε β}
    (h : ∀ a, x = .ok a → f a = g a) : x >>= f = x >>= g := by
  cases x with
  | error e => rfl
  | ok a => exact h a rfl

/-- A `mapM` that returns ran every step to a value. -/
theorem except_mapM_eq_ok {f : α → Except ε β} : ∀ {l : List α} {bs : List β},
    l.mapM f = .ok bs ↔ List.Forall₂ (fun a b => f a = .ok b) l bs
  | [], bs => by rw [List.mapM_nil, except_pure]; cases bs <;> simp
  | a :: l, bs => by
      rw [List.mapM_cons]
      simp only [except_bind_eq_ok, except_pure]
      cases bs with
      | nil => simp
      | cons b bs =>
          rw [List.forall₂_cons, ← except_mapM_eq_ok]
          constructor
          · rintro ⟨b', hb, bs', hbs, h⟩
            cases h
            exact ⟨hb, hbs⟩
          · rintro ⟨hb, hbs⟩
            exact ⟨b, hb, bs, hbs, rfl⟩

/-- A Python value that may be `None`, used where `None` raises `e`: a
method called on it, `assert x is not None`, a missing key or index. -/
def orRaise (e : ε) : Option α → Except ε α
  | some a => .ok a
  | none => .error e

@[simp] theorem orRaise_some (e : ε) (a : α) : orRaise e (some a) = .ok a := rfl

@[simp] theorem orRaise_none (e : ε) : (orRaise e none : Except ε α) = .error e := rfl

theorem orRaise_eq_ok {e : ε} {o : Option α} {a : α} : orRaise e o = .ok a ↔ o = some a := by
  cases o <;> simp

end Except

-- ===================================================== whitespace

/-- `str.isspace` on one character, which is also what `\s` and the
argument-free `strip`/`rstrip` use: the ASCII separators `\t\n\v\f\r`,
`\x1c`–`\x1f` and space, and the Unicode spaces. -/
def isSpace (c : Char) : Bool :=
  let n := c.toNat
  (9 ≤ n && n ≤ 13) || (28 ≤ n && n ≤ 32) || n == 0x85 || n == 0xA0 ||
    n == 0x1680 || (0x2000 ≤ n && n ≤ 0x200A) || n == 0x2028 || n == 0x2029 ||
    n == 0x202F || n == 0x205F || n == 0x3000

/-- `s.rstrip()`. -/
def rstrip (s : Text) : Text :=
  (s.reverse.dropWhile isSpace).reverse

/-- `s.strip()`. -/
def strip (s : Text) : Text :=
  rstrip (s.dropWhile isSpace)

-- ===================================================== lines

/-- The characters `str.splitlines` breaks at (`\r\n` counts once). -/
def isLineBreak (c : Char) : Bool :=
  let n := c.toNat
  (10 ≤ n && n ≤ 13) || (28 ≤ n && n ≤ 30) || n == 0x85 || n == 0x2028 ||
    n == 0x2029

/-- `splitlines` with the current line accumulated in reverse. -/
def splitlinesGo : Text → Text → List Text
  | acc, [] => if acc.isEmpty then [] else [acc.reverse]
  | acc, '\r' :: '\n' :: rest => acc.reverse :: splitlinesGo [] rest
  | acc, c :: rest =>
      if isLineBreak c then acc.reverse :: splitlinesGo [] rest
      else splitlinesGo (c :: acc) rest

/-- `s.splitlines()`: no line ends are kept and a final break opens no
empty line. -/
def splitlines (s : Text) : List Text :=
  splitlinesGo [] s

/-- `readlines` with the current line accumulated in reverse. -/
def readlinesGo : Text → Text → List Text
  | acc, [] => if acc.isEmpty then [] else [acc.reverse]
  | acc, c :: rest =>
      if c = '\n' then (c :: acc).reverse :: readlinesGo [] rest
      else readlinesGo (c :: acc) rest

/-- `f.readlines()` on a text file: every line keeps its `\n`, only the
last may lack one. -/
def readlines (s : Text) : List Text :=
  readlinesGo [] s

/-- `"\n".join(lines)`. -/
def joinLines (lines : List Text) : Text :=
  List.intercalate ['\n'] lines

-- ===================================================== case and paths

/-- `str.lower()` where the tool uses it: only on a command-type tag that is
compared with ASCII words, so mapping ASCII capitals is enough to decide
every comparison the same way (no non-ASCII capital lowers to one of the
tags' letters). -/
def lower (s : Text) : Text :=
  s.map fun c => if 'A' ≤ c && c ≤ 'Z' then Char.ofNat (c.toNat + 32) else c

/-- `os.path.basename` on POSIX: what follows the last `/`. -/
def basename (p : Text) : Text :=
  (p.reverse.takeWhile (· ≠ '/')).reverse

/-- The root part of `os.path.splitext` on POSIX: the last `.` of the last
path component starts the extension unless every character before it in
that component is a dot. -/
def splitextRoot (p : Text) : Text :=
  let name := basename p
  let dir := p.take (p.length - name.length)
  match (name.reverse.dropWhile (· ≠ '.')) with
  | [] => p
  | _ :: stem =>
      if stem.reverse.all (· = '.') then p else dir ++ stem.reverse

-- ===================================================== Unicode tables

/-- The Unicode classes Python's `re` and `int()` consult for a `str`. -/
structure UnicodeDB where
  /-- `\d`: a decimal digit. -/
  isDigit : Char → Bool
  /-- The value `int()` gives a decimal digit. -/
  digitValue : Char → Nat
  /-- `\w`: an alphanumeric character or `_`. -/
  isWord : Char → Bool
  ascii_isDigit : ∀ c : Char, c.toNat < 128 → isDigit c = ('0' ≤ c && c ≤ '9')
  ascii_isWord : ∀ c : Char, c.toNat < 128 → isWord c = (c.isAlphanum || c == '_')
  ascii_digitValue : ∀ c : Char, '0' ≤ c → c ≤ '9' → digitValue c = c.toNat - 48
  isWord_of_isDigit : ∀ c : Char, isDigit c = true → isWord c = true

/-- The tables cut down to ASCII: Python's classes on every ASCII
character, nothing outside. Concrete runs of the model use it on ASCII
input, where it and Python agree. -/
def UnicodeDB.asciiOnly : UnicodeDB where
  isDigit c := '0' ≤ c && c ≤ '9'
  digitValue c := c.toNat - 48
  isWord c := c.isAlphanum || c == '_'
  ascii_isDigit _ _ := rfl
  ascii_isWord _ _ := rfl
  ascii_digitValue _ _ _ := rfl
  isWord_of_isDigit c h := by
    simp only [Char.isAlphanum, Char.isAlpha, Char.isDigit, Char.isUpper, Char.isLower,
      Bool.or_eq_true, Bool.and_eq_true, decide_eq_true_eq] at h ⊢
    exact Or.inl (Or.inr h)

-- ===================================================== int()

/-- `sys.int_info.default_max_str_digits`: `int()` refuses a decimal string
with more digits than this. -/
def intMaxStrDigits : Nat := 4300

/-- The value of a digit string, most significant first. -/
def digitsValue (U : UnicodeDB) (ds : Text) : Nat :=
  ds.foldl (fun acc c => 10 * acc + U.digitValue c) 0

/-- `int(ds)` on a match of `\d+`. -/
def intOfDigits (U : UnicodeDB) (ds : Text) : Except PyError Nat :=
  if ds.length > intMaxStrDigits then .error .valueError else .ok (digitsValue U ds)

/-- The digits of a base-10 literal with `_` allowed between digits, or
nothing when the underscores are misplaced. -/
def underscoreDigits (U : UnicodeDB) : Text → Option Text
  | [] => some []
  | '_' :: c :: rest => if U.isDigit c then (underscoreDigits U rest).map (c :: ·) else none
  | c :: rest => if U.isDigit c then (underscoreDigits U rest).map (c :: ·) else none

/-- `int(s)` on an arbitrary string: surrounding whitespace, one sign,
digits with single underscores between them. -/
def pyInt (U : UnicodeDB) (s : Text) : Except PyError Int :=
  let t := strip s
  let (neg, body) : Bool × Text := match t with
    | '-' :: r => (true, r)
    | '+' :: r => (false, r)
    | r => (false, r)
  match body, underscoreDigits U body with
  | c :: _, some ds =>
      if U.isDigit c then
        (intOfDigits U ds).map fun v => if neg then -(v : Int) else v
      else .error .valueError
  | _, _ => .error .valueError

end CodeDiff
