import Birthright.Json.Text
import Birthright.Json.Token

/-!
# Quoted texts read back

A text that was written between quotes is read back as it was, whatever characters it has. Each
character is written as one piece: most of them as they are, quotes, backslashes and some control
characters after a backslash, and the other control characters as 16-bit units.

* `pieces?_flatMap_escapedChar` — the pieces of a quoted text
* `characters?_map_piece` — the characters that the pieces stand for
* `token?_quotedText` — the whole quoted text is one token
-/

namespace Birthright.Json

/-- The digits of a number, filled up to four. -/
def unitDigits (n : Nat) : List Char :=
  List.replicate (4 - (Text.hexadecimal n).length) '0' ++ Text.hexadecimal n

/-- The piece by which a character is written: a unit if no letter stands for it. -/
def piece (c : Char) : Piece :=
  if c.toNat < 0x20 ∧ c ∉ ['\x08', '\t', '\n', '\x0c', '\r'] then .unit c.toNat else .char c

/-- The number of a list of four digits. -/
def unitOf? : List Char → Option Nat
  | [a, b, c, d] => hexUnit? a b c d
  | _ => none

theorem unitOf?_unitDigits : ∀ n < 0x20, unitOf? (unitDigits n) = some n := by decide

/-- The digits of a control character name its unit. -/
theorem exists_unitDigits {n : Nat} (hn : n < 0x20) :
    ∃ a b c d, unitDigits n = [a, b, c, d] ∧ hexUnit? a b c d = some n := by
  have hunit := unitOf?_unitDigits n hn
  unfold unitOf? at hunit
  split at hunit
  · next a b c d hdigits => exact ⟨a, b, c, d, hdigits, hunit⟩
  · cases hunit

/-! ## Reading one piece -/

theorem pieces?_letter {c e : Char} (h : escaped? c = some e) (hunit : c ≠ 'u') (s : List Char) :
    pieces? ('\\' :: c :: s) = (pieces? s).map fun r => (.char e :: r.1, r.2) := by
  rw [pieces?]
  · rw [h, Option.map_eq_bind]
    rfl
  · rintro a b c d s rfl
    exact absurd rfl hunit

theorem pieces?_unit {a b c d : Char} {n : Nat} (h : hexUnit? a b c d = some n) (s : List Char) :
    pieces? ('\\' :: 'u' :: a :: b :: c :: d :: s)
      = (pieces? s).map fun r => (.unit n :: r.1, r.2) := by
  rw [pieces?, h, Option.map_eq_bind]
  rfl

theorem pieces?_plain {c : Char} (hquote : c ≠ '"') (hbackslash : c ≠ '\\') (h : 0x20 ≤ c.toNat)
    (s : List Char) : pieces? (c :: s) = (pieces? s).map fun r => (.char c :: r.1, r.2) := by
  rw [pieces?]
  · rw [if_neg (by omega), Option.map_eq_bind]
    rfl
  · exact hquote
  · exact fun _ _ _ _ _ h => absurd h hbackslash
  · exact fun _ _ h => absurd h hbackslash

/-- **One character is one piece.** -/
theorem pieces?_escapedChar (c : Char) (s : List Char) :
    pieces? (escapedChar c ++ s) = (pieces? s).map fun r => (piece c :: r.1, r.2) := by
  unfold escapedChar
  split
  · exact pieces?_letter rfl (by decide) s
  · exact pieces?_letter rfl (by decide) s
  · exact pieces?_letter rfl (by decide) s
  · exact pieces?_letter rfl (by decide) s
  · exact pieces?_letter rfl (by decide) s
  · exact pieces?_letter rfl (by decide) s
  · exact pieces?_letter rfl (by decide) s
  · next hquote hbackslash hb ht hn hf hr =>
    split
    · next hc =>
      obtain ⟨a, b, x, y, hdigits, hunit⟩ := exists_unitDigits hc
      have hpiece : piece c = .unit c.toNat :=
        if_pos ⟨hc, by simpa using ⟨hb, ht, hn, hf, hr⟩⟩
      show pieces? ('\\' :: 'u' :: (unitDigits c.toNat ++ s)) = _
      rw [hdigits, hpiece]
      exact pieces?_unit hunit s
    · next hc =>
      have hpiece : piece c = .char c := if_neg fun h => hc h.1
      rw [hpiece]
      exact pieces?_plain hquote hbackslash (by omega) s

/-- **The pieces of a quoted text** are those of its characters. -/
theorem pieces?_flatMap_escapedChar (l rest : List Char) :
    pieces? (l.flatMap escapedChar ++ '"' :: rest) = some (l.map piece, rest) := by
  induction l with
  | nil => simp [pieces?]
  | cons c l ih => simp [pieces?_escapedChar, ih]

/-! ## The characters of pieces -/

/-- A unit of a control character is no surrogate, whatever comes after it. -/
theorem characters?_unit {n : Nat} (hn : n < 0x20) (ps : List Piece) :
    characters? (.unit n :: ps) = (characters? ps).map (Char.ofNat n :: ·) := by
  have hleading : isLeadingSurrogate n = false := by simp [isLeadingSurrogate]; omega
  have htrailing : isTrailingSurrogate n = false := by simp [isTrailingSurrogate]; omega
  cases ps with
  | nil => simp [characters?, hleading, htrailing]
  | cons p ps =>
    cases p with
    | char c => simp [characters?, hleading, htrailing]
    | unit m =>
      rw [characters?]
      simp [hleading, htrailing]

/-- **The pieces of a text stand for its characters.** -/
theorem characters?_map_piece (l : List Char) : characters? (l.map piece) = some l := by
  induction l with
  | nil => rfl
  | cons c l ih =>
    rw [List.map_cons, piece]
    split
    · next hc => rw [characters?_unit hc.1, ih, Option.map_some, Char.ofNat_toNat]
    · rw [characters?, ih, Option.map_some]

/-- **A quoted text is one token.** -/
theorem token?_quotedText (s : String) (rest : List Char) :
    token? (quotedText s ++ rest) = some (.text (some s), rest) := by
  simp [quotedText, token?, pieces?_flatMap_escapedChar, characters?_map_piece]

end Birthright.Json
