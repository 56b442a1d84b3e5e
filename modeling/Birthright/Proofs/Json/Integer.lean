import Birthright.Json.Text
import Birthright.Json.Token

/-!
# Integers read back

The decimal form of an integer is a numeral, which is read back as this integer if it fits 64 bits.
How far a numeral goes can only be seen from what comes after it.

* `decimal_eq_zero_of_head?` — nothing but zero is written with a leading zero
* `token?_decimalInt` — the decimal form of an integer is one token
* `value?_ofInt` — the numeral has the value of the integer
-/

namespace Birthright

namespace Text

/-- Only zero is written with a leading zero. -/
theorem eq_zero_of_head?_decimal {n : Nat} (h : (decimal n).head? = some '0') : n = 0 := by
  induction n using Nat.strongRecOn with
  | ind n ih =>
    rw [decimal, Nat.toDigits_eq_if (by decide)] at h
    split at h
    · next hlt =>
      have hall : ∀ n < 10, [n.digitChar].head? = some '0' → n = 0 := by decide
      exact hall n hlt h
    · next hge =>
      obtain ⟨c, l, hl⟩ := List.exists_cons_of_ne_nil (decimal_ne_nil (n / 10))
      have hl : Nat.toDigits 10 (n / 10) = c :: l := hl
      have hhead : (decimal (n / 10)).head? = some '0' := by
        rw [hl, List.cons_append] at h
        rw [decimal, hl]
        exact h
      have hzero := ih (n / 10) (by omega) hhead
      omega

/-- Digits are split off as far as they go. -/
theorem splitDigits_append {digits rest : List Char} (hdigits : ∀ c ∈ digits, c.isDigit = true)
    (hrest : ∀ c ∈ rest.head?, c.isDigit = false) :
    splitDigits (digits ++ rest) = (digits, rest) := by
  rw [splitDigits, List.takeWhile_append_of_pos hdigits, List.dropWhile_append_of_pos hdigits]
  cases rest with
  | nil => simp
  | cons c rest => simp [hrest c rfl]

end Text

namespace Json

/-- A text does not go on with a numeral that comes before it. -/
def EndsNumeral (s : List Char) : Prop :=
  ∀ c ∈ s.head?, c.isDigit = false ∧ c ∉ ['.', 'e', 'E']

/-- The numeral that is written for an integer. -/
def Numeral.ofInt (n : Int) : Numeral := ⟨decide (n < 0), Text.decimal n.natAbs, [], none⟩

variable {rest : List Char}

theorem whole?_decimal (n : Nat) (hrest : EndsNumeral rest) :
    whole? (Text.decimal n ++ rest) = some (Text.decimal n, rest) := by
  have hsplit : Text.splitDigits (Text.decimal n ++ rest) = (Text.decimal n, rest) :=
    Text.splitDigits_append (fun _ => Text.isDigit_of_mem_decimal) fun c hc => (hrest c hc).1
  unfold whole?
  rw [hsplit]
  split
  · next hnil => exact absurd (congrArg Prod.fst hnil) (Text.decimal_ne_nil n)
  · next hzero =>
    have hdigits := congrArg Prod.fst hzero
    have hn : n = 0 := Text.eq_zero_of_head?_decimal (by simpa using congrArg List.head? hdigits)
    rw [hn] at hdigits
    cases hdigits
  · next heq => simp [← heq]

theorem fraction?_of_ends (hrest : EndsNumeral rest) : fraction? rest = some ([], rest) := by
  unfold fraction?
  split
  · exact absurd (hrest '.' rfl).2 (by decide)
  · rfl

theorem exponent?_of_ends (hrest : EndsNumeral rest) : exponent? rest = some (none, rest) := by
  unfold exponent?
  split
  · exact absurd (hrest 'e' rfl).2 (by decide)
  · exact absurd (hrest 'E' rfl).2 (by decide)
  · rfl

/-- Digits without a sign begin with one of them. -/
theorem exists_digit_cons (n : Nat) : ∃ c s, Text.decimal n = c :: s ∧ c.isDigit = true := by
  obtain ⟨c, s, hs⟩ := List.exists_cons_of_ne_nil (Text.decimal_ne_nil n)
  exact ⟨c, s, hs, Text.isDigit_of_mem_decimal (n := n) (by simp [hs])⟩

/-- **The decimal form of an integer** is a numeral. -/
theorem numeral?_decimalInt (n : Int) (hrest : EndsNumeral rest) :
    numeral? (Text.decimalInt n ++ rest) = some (.ofInt n, rest) := by
  cases n with
  | ofNat n =>
    obtain ⟨c, s, hs, hc⟩ := exists_digit_cons n
    have hsign : c ≠ '-' := by
      rintro rfl
      cases hc
    show numeral? (Text.decimal n ++ rest) = _
    unfold numeral?
    split
    next negative body hbody =>
    split at hbody
    · next heq =>
      rw [hs] at heq
      exact absurd (List.cons.inj heq).1 hsign
    · cases hbody
      simp [Numeral.ofInt, whole?_decimal n hrest, fraction?_of_ends hrest,
        exponent?_of_ends hrest]
  | negSucc n =>
    simp [numeral?, Text.decimalInt, Numeral.ofInt, whole?_decimal (n + 1) hrest,
      fraction?_of_ends hrest, exponent?_of_ends hrest]

/-- A sign or a digit is the beginning of a numeral. -/
theorem token?_of_numeral {c : Char} (hc : c = '-' ∨ c.isDigit = true) (s : List Char) :
    token? (c :: s) = (numeral? (c :: s)).map fun r => (.number r.1, r.2) := by
  unfold token?
  split
  case h_11 => rfl
  all_goals
    next heq =>
    cases heq
    exact absurd hc (by decide)

/-- The decimal form of an integer begins with a sign or a digit. -/
theorem exists_decimalInt_cons (n : Int) :
    ∃ c s, Text.decimalInt n = c :: s ∧ (c = '-' ∨ c.isDigit = true) := by
  cases n with
  | ofNat n =>
    obtain ⟨c, s, hs, hc⟩ := exists_digit_cons n
    exact ⟨c, s, hs, .inr hc⟩
  | negSucc n => exact ⟨'-', Text.decimal (n + 1), rfl, .inl rfl⟩

/-- **The decimal form of an integer** is one token. -/
theorem token?_decimalInt (n : Int) (hrest : EndsNumeral rest) :
    token? (Text.decimalInt n ++ rest) = some (.number (.ofInt n), rest) := by
  have hnumeral := numeral?_decimalInt n hrest
  obtain ⟨c, s, hs, hc⟩ := exists_decimalInt_cons n
  rw [hs, List.cons_append] at hnumeral ⊢
  rw [token?_of_numeral hc, hnumeral, Option.map_some]

/-- **The numeral of an integer** has its value, if it fits 64 bits with or without a sign. -/
theorem value?_ofInt {n : Int} (hlow : -9223372036854775808 ≤ n)
    (hhigh : n < 18446744073709551616) : (Numeral.ofInt n).value? = some (.int n) := by
  have hword : UInt64.size = 18446744073709551616 := rfl
  have hhalf : Decimal.twoTo 63 = 9223372036854775808 := rfl
  have hwhole : Text.digitsValue (Numeral.ofInt n).whole = n.natAbs :=
    Text.digitsValue_decimal n.natAbs
  have hinteger : ((Numeral.ofInt n).fraction.isEmpty
      && (Numeral.ofInt n).exponent.isNone) = true := rfl
  rw [Numeral.value?, if_pos hinteger, hwhole]
  by_cases hneg : n < 0
  · have hsign : (Numeral.ofInt n).negative = true := decide_eq_true hneg
    have hfits : 0 < n.natAbs ∧ n.natAbs ≤ Decimal.twoTo 63 := by omega
    have habs : -(n.natAbs : Int) = n := by omega
    rw [hsign, if_pos rfl, if_pos hfits, habs]
  · have hsign : (Numeral.ofInt n).negative = false := decide_eq_false hneg
    have hfits : n.natAbs < UInt64.size := by omega
    have habs : (n.natAbs : Int) = n := by omega
    rw [hsign, if_neg Bool.false_ne_true, if_pos hfits, habs]

end Json

end Birthright
