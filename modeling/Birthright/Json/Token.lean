import Birthright.Json.Number

/-!
# Tokens of structured text

The marks, words, numerals and quoted texts that a structured text consists of, with blanks
between them. Only four characters are blank here. A quoted text may name 16-bit units by their
hexadecimal digits; two units that form a surrogate pair stand for one character, and a surrogate
without its partner stands for none, so such a text has no value.
-/

namespace Birthright.Json

/-- A token; `text none` is a quoted text without a value. -/
inductive Token where
  | openArray
  | closeArray
  | openObject
  | closeObject
  | colon
  | comma
  | null
  | bool (b : Bool)
  | number (n : Numeral)
  | text (s : Option String)
  deriving DecidableEq, Repr

/-! ## Quoted texts -/

/-- What a quoted text is made of: characters, and 16-bit units named by their digits. -/
inductive Piece where
  | char (c : Char)
  | unit (n : Nat)
  deriving DecidableEq, Repr

/-- The number of four hexadecimal digits. -/
def hexUnit? (a b c d : Char) : Option Nat := do
  return (((← Text.hexValue? a) * 16 + (← Text.hexValue? b)) * 16 + (← Text.hexValue? c)) * 16
    + (← Text.hexValue? d)

/-- The character that a letter after a backslash stands for. -/
def escaped? : Char → Option Char
  | '"' => some '"'
  | '\\' => some '\\'
  | '/' => some '/'
  | 'b' => some '\x08'
  | 'f' => some '\x0c'
  | 'n' => some '\n'
  | 'r' => some '\r'
  | 't' => some '\t'
  | _ => none

/-- Reads up to the closing quote; also the text after it. -/
def pieces? : List Char → Option (List Piece × List Char)
  | [] => none
  | '"' :: s => some ([], s)
  | '\\' :: 'u' :: a :: b :: c :: d :: s => do
    let n ← hexUnit? a b c d
    let (ps, rest) ← pieces? s
    return (.unit n :: ps, rest)
  | '\\' :: c :: s => do
    let e ← escaped? c
    let (ps, rest) ← pieces? s
    return (.char e :: ps, rest)
  | c :: s =>
    if c.toNat < 0x20 then none
    else do
      let (ps, rest) ← pieces? s
      return (.char c :: ps, rest)

/-- The first unit of a surrogate pair. -/
def isLeadingSurrogate (n : Nat) : Bool := 0xD800 ≤ n && n ≤ 0xDBFF

/-- The second unit of a surrogate pair. -/
def isTrailingSurrogate (n : Nat) : Bool := 0xDC00 ≤ n && n ≤ 0xDFFF

/-- The characters of a quoted text; none when a surrogate is without its partner. -/
def characters? : List Piece → Option (List Char)
  | [] => some []
  | .char c :: ps => (characters? ps).map (c :: ·)
  | .unit n :: .unit m :: ps =>
    if isLeadingSurrogate n then
      if isTrailingSurrogate m then
        (characters? ps).map (Char.ofNat (0x10000 + (n - 0xD800) * 0x400 + (m - 0xDC00)) :: ·)
      else none
    else if isTrailingSurrogate n then none
    else (characters? (.unit m :: ps)).map (Char.ofNat n :: ·)
  | .unit n :: ps =>
    if isLeadingSurrogate n || isTrailingSurrogate n then none
    else (characters? ps).map (Char.ofNat n :: ·)

/-! ## Numerals -/

/-- Reads the digits before the point: one zero, or digits that do not start with one. -/
def whole? (s : List Char) : Option (List Char × List Char) :=
  match Text.splitDigits s with
  | ([], _) => none
  | ('0' :: _ :: _, _) => none
  | (digits, rest) => some (digits, rest)

/-- Reads a point and the digits after it, if there is a point. -/
def fraction? : List Char → Option (List Char × List Char)
  | '.' :: s =>
    match Text.splitDigits s with
    | ([], _) => none
    | (digits, rest) => some (digits, rest)
  | s => some ([], s)

/-- Reads the sign and the digits of an exponent. -/
def exponentValue? (s : List Char) : Option (Int × List Char) :=
  let (negative, s) := match s with
    | '-' :: rest => (true, rest)
    | '+' :: rest => (false, rest)
    | _ => (false, s)
  match Text.splitDigits s with
  | ([], _) => none
  | (digits, rest) =>
    let v : Int := Text.digitsValue digits
    some (if negative then -v else v, rest)

/-- Reads an exponent, if there is one. -/
def exponent? : List Char → Option (Option Int × List Char)
  | 'e' :: s | 'E' :: s => (exponentValue? s).map fun r => (some r.1, r.2)
  | s => some (none, s)

/-- Reads a numeral. -/
def numeral? (s : List Char) : Option (Numeral × List Char) := do
  let (negative, s) := match s with
    | '-' :: rest => (true, rest)
    | _ => (false, s)
  let (whole, s) ← whole? s
  let (fraction, s) ← fraction? s
  let (exponent, s) ← exponent? s
  return (⟨negative, whole, fraction, exponent⟩, s)

/-! ## Token after token -/

/-- The blanks between tokens. -/
def isSpace (c : Char) : Bool := c = ' ' || c = '\t' || c = '\n' || c = '\r'

/-- Reads the token a text starts with. -/
def token? : List Char → Option (Token × List Char)
  | '[' :: s => some (.openArray, s)
  | ']' :: s => some (.closeArray, s)
  | '\x7b' :: s => some (.openObject, s)
  | '\x7d' :: s => some (.closeObject, s)
  | ':' :: s => some (.colon, s)
  | ',' :: s => some (.comma, s)
  | 'n' :: 'u' :: 'l' :: 'l' :: s => some (.null, s)
  | 't' :: 'r' :: 'u' :: 'e' :: s => some (.bool true, s)
  | 'f' :: 'a' :: 'l' :: 's' :: 'e' :: s => some (.bool false, s)
  | '"' :: s => (pieces? s).map fun r => (.text ((characters? r.1).map String.ofList), r.2)
  | s => (numeral? s).map fun r => (.number r.1, r.2)

/-- Digits that are split off leave no more than there was. -/
theorem length_splitDigits_le (s : List Char) : (Text.splitDigits s).2.length ≤ s.length :=
  (List.dropWhile_suffix _).length_le

/-- Reading a quoted text takes at least its closing quote. -/
theorem length_pieces?_lt {s : List Char} {ps : List Piece} {rest : List Char}
    (h : pieces? s = some (ps, rest)) : rest.length < s.length := by
  fun_induction pieces? s generalizing ps rest with
  | case1 => simp at h
  | case2 s => simp at h; simp [← h.2]
  | case3 a b c d s ih =>
    simp only [Option.bind_eq_bind, Option.bind_eq_some_iff] at h
    obtain ⟨_, _, ⟨_, _⟩, hr, h⟩ := h
    simp at h; have := ih hr; simp [← h.2]; omega
  | case4 c s _ ih =>
    simp only [Option.bind_eq_bind, Option.bind_eq_some_iff] at h
    obtain ⟨_, _, ⟨_, _⟩, hr, h⟩ := h
    simp at h; have := ih hr; simp [← h.2]; omega
  | case5 => simp at h
  | case6 c s _ _ _ _ ih =>
    simp only [Option.bind_eq_bind, Option.bind_eq_some_iff] at h
    obtain ⟨⟨_, _⟩, hr, h⟩ := h
    simp at h; have := ih hr; simp [← h.2]; omega

/-- Reading the digits before a point takes at least one of them. -/
theorem length_whole?_lt {s digits rest : List Char} (h : whole? s = some (digits, rest)) :
    rest.length < s.length := by
  have hs : (Text.splitDigits s).1 ++ (Text.splitDigits s).2 = s := List.takeWhile_append_dropWhile
  unfold whole? at h
  generalize Text.splitDigits s = split at h hs
  obtain ⟨d, r⟩ := split
  cases d with
  | nil => simp at h
  | cons c d =>
    split at h
    · simp at h
    · simp at h
    · next he =>
      cases he
      simp only [Option.some.injEq, Prod.mk.injEq] at h
      simp only [← hs, ← h.2, List.length_append, List.length_cons]
      omega

/-- Reading a fraction leaves no more than there was. -/
theorem length_fraction?_le {s digits rest : List Char} (h : fraction? s = some (digits, rest)) :
    rest.length ≤ s.length := by
  unfold fraction? at h
  split at h
  · next s =>
    have := length_splitDigits_le s
    split at h
    · simp at h
    · next he => simp at h; rw [he] at this; simp at this; simp [← h.2]; omega
  · simp at h; simp [← h.2]

/-- Reading an exponent leaves no more than there was. -/
theorem length_exponent?_le {s rest : List Char} {e : Option Int}
    (h : exponent? s = some (e, rest)) : rest.length ≤ s.length := by
  have value : ∀ {s rest : List Char} {v : Int},
      exponentValue? s = some (v, rest) → rest.length ≤ s.length := by
    intro s rest v h
    unfold exponentValue? at h
    split at h
    next neg t ht =>
      have hl : t.length ≤ s.length := by
        split at ht <;> simp at ht <;> simp [← ht.2]
      have := length_splitDigits_le t
      split at h
      · simp at h
      · next he => simp at h; rw [he] at this; simp at this; simp [← h.2]; omega
  unfold exponent? at h
  split at h
  · simp only [Option.map_eq_some_iff] at h
    obtain ⟨⟨v, r⟩, hv, h⟩ := h
    simp at h; have := value hv; simp [← h.2]; omega
  · simp only [Option.map_eq_some_iff] at h
    obtain ⟨⟨v, r⟩, hv, h⟩ := h
    simp at h; have := value hv; simp [← h.2]; omega
  · simp at h; simp [← h.2]

/-- Reading a numeral takes at least one digit. -/
theorem length_numeral?_lt {s rest : List Char} {n : Numeral}
    (h : numeral? s = some (n, rest)) : rest.length < s.length := by
  unfold numeral? at h
  split at h
  next neg t ht =>
    have hl : t.length ≤ s.length := by
      split at ht <;> simp at ht <;> simp [← ht.2]
    simp only [Option.bind_eq_bind, Option.bind_eq_some_iff] at h
    obtain ⟨⟨_, r₁⟩, h₁, ⟨_, r₂⟩, h₂, ⟨_, r₃⟩, h₃, h⟩ := h
    have l₁ := length_whole?_lt h₁
    have l₂ := length_fraction?_le h₂
    have l₃ := length_exponent?_le h₃
    simp at h l₁ l₂ l₃
    rw [← h.2]; omega

/-- Reading a token takes at least one character. -/
theorem length_token?_lt {s rest : List Char} {t : Token} (h : token? s = some (t, rest)) :
    rest.length < s.length := by
  unfold token? at h
  split at h
  all_goals first
    | (simp at h; simp [← h.2]; done)
    | (simp at h; simp [← h.2]; omega)
    | skip
  · obtain ⟨⟨_, r⟩, hp, h⟩ := Option.map_eq_some_iff.1 h
    have := length_pieces?_lt hp
    simp at h; simp [← h.2]; omega
  · obtain ⟨⟨_, r⟩, hp, h⟩ := Option.map_eq_some_iff.1 h
    have := length_numeral?_lt hp
    simp at h; simp [← h.2]; omega

/-- The tokens of a whole text. -/
def tokens? (s : List Char) : Option (List Token) :=
  let start := s.dropWhile isSpace
  if start.isEmpty then some []
  else
    match h : token? start with
    | none => none
    | some (t, rest) =>
      have : rest.length < s.length :=
        Nat.lt_of_lt_of_le (length_token?_lt h) (List.dropWhile_suffix _).length_le
      (tokens? rest).map (t :: ·)
termination_by s.length

end Birthright.Json
