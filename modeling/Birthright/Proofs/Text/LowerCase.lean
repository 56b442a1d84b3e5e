import Birthright.Text.LowerCase

/-!
# Lower case stays

Small letters have no small letters but themselves, so a text in lower case is not changed by
lower-casing it again: a final sigma stays final, since only the capital one looks at its
neighbours. And it does not matter in which case the ASCII letters of a text were: either of the two
has case, as far as a sigma beside it is concerned, and neither is passed over.

* `lowerChar_of_mem_lowerChar` — small letters stay small letters
* `lower_lower` — a text in lower case stays as it is
* `lower_map_toLower` — the case of ASCII letters has no influence
* `lower_eq_iff_of_ascii` — which texts become an ASCII text
-/

namespace Birthright.Text

/-! ## Small letters -/

/-- The code point of the small letter that belongs to a capital of a run. -/
def CaseRun.small (r : CaseRun) (n : Nat) : Nat := (n + r.shift).toNat

/-- The capitals of a run. -/
def CaseRun.capitals (r : CaseRun) : List Nat :=
  List.range' r.first ((r.last - r.first) / r.step + 1) r.step

/-- What is checked of every run of the table. -/
theorem caseRuns_checked : ∀ r ∈ caseRuns,
    (r.small r.last < 0x130 ∨ 0x130 < r.small r.first ∧ r.small r.last < 0xD800 ∨
      0xDFFF < r.small r.first ∧ r.small r.last < 0x110000) ∧
    (128 ≤ r.first ∨ r.first = 65 ∧ r.last = 90) ∧
    (r.last < 128 ∨ 128 ≤ r.small r.first ∨
      r.first = r.last ∧ r.small r.first = 'k'.toNat) := by decide +kernel

/-- The small letters of a run are characters, and `İ` is none of them. -/
theorem small_of_mem {r : CaseRun} (hr : r ∈ caseRuns) : r.small r.last < 0x130 ∨
    0x130 < r.small r.first ∧ r.small r.last < 0xD800 ∨
    0xDFFF < r.small r.first ∧ r.small r.last < 0x110000 :=
  (caseRuns_checked r hr).1

/-- The ASCII letters are the only run that begins in ASCII. -/
theorem ascii_of_first {r : CaseRun} (hr : r ∈ caseRuns) :
    128 ≤ r.first ∨ r.first = 65 ∧ r.last = 90 :=
  (caseRuns_checked r hr).2.1

/-- The Kelvin sign is the one capital outside of ASCII with an ASCII letter as its small letter. -/
theorem ascii_of_small {r : CaseRun} (hr : r ∈ caseRuns) : r.last < 128 ∨ 128 ≤ r.small r.first ∨
    r.first = r.last ∧ r.small r.first = 'k'.toNat :=
  (caseRuns_checked r hr).2.2

variable {r q : CaseRun} {n : Nat}

theorem CaseRun.bounds_of_covers (h : r.covers n) :
    r.first ≤ n ∧ n ≤ r.last ∧ (n - r.first) % r.step = 0 := by
  simpa [covers, and_assoc] using h

theorem CaseRun.mem_capitals (h : r.covers n) : n ∈ r.capitals := by
  obtain ⟨hfirst, hlast, hstep⟩ := bounds_of_covers h
  have hsteps : n = r.first + r.step * ((n - r.first) / r.step) := by
    rw [Nat.mul_div_cancel' (Nat.dvd_of_mod_eq_zero hstep)]
    omega
  have hle : (n - r.first) / r.step ≤ (r.last - r.first) / r.step :=
    Nat.div_le_div_right (by omega)
  exact List.mem_range'.mpr ⟨(n - r.first) / r.step, Nat.lt_succ_of_le hle, hsteps⟩

/-- A number with the bits of all the given ones. -/
def allBits (l : List Nat) : Nat := l.foldr (· ||| ·) 0

theorem testBit_allBits (l : List Nat) (i : Nat) : (allBits l).testBit i = l.any (·.testBit i) := by
  induction l with
  | nil => exact Nat.zero_testBit i
  | cons n l ih =>
    rw [List.any_cons, ← ih]
    exact Nat.testBit_or n (allBits l) i

/-- A number with a bit for what becomes of every capital. -/
def caseBits (f : CaseRun → Nat → Nat) : Nat :=
  allBits (caseRuns.map fun r => allBits (r.capitals.map fun n => 1 <<< f r n))

theorem testBit_caseBits (f : CaseRun → Nat → Nat) (hr : r ∈ caseRuns) (hn : r.covers n) :
    (caseBits f).testBit (f r n) = true := by
  rw [caseBits, testBit_allBits, List.any_map, List.any_eq_true]
  refine ⟨r, hr, ?_⟩
  rw [Function.comp_apply, testBit_allBits, List.any_map, List.any_eq_true]
  refine ⟨n, CaseRun.mem_capitals hn, ?_⟩
  show (1 <<< f r n).testBit (f r n) = true
  rw [Nat.one_shiftLeft]
  exact Nat.testBit_two_pow_self

/-- No capital has the place of a small letter. Bits take one step for each, and runs for each pair. -/
theorem caseBits_disjoint : caseBits CaseRun.small &&& caseBits (fun _ n => n) = 0 := by
  decide +kernel

/-- **No small letter is a capital.** -/
theorem not_covers_small (hr : r ∈ caseRuns) (hq : q ∈ caseRuns) (hn : r.covers n) :
    q.covers (r.small n) = false := by
  refine Bool.eq_false_iff.mpr fun hcovers => ?_
  have hboth : (caseBits CaseRun.small &&& caseBits fun _ n => n).testBit (r.small n) = true := by
    rw [Nat.testBit_and, testBit_caseBits CaseRun.small hr hn,
      testBit_caseBits (fun _ n => n) hq hcovers]
    rfl
  rw [caseBits_disjoint, Nat.zero_testBit] at hboth
  cases hboth

variable {c d : Char} {s : List Char}

/-- What holds of the characters of a list is decided one by one, and not for all characters. -/
theorem forall_mem_of_all {P : Char → Prop} [DecidablePred P]
    (h : (s.all fun c => decide (P c)) = true) : ∀ c ∈ s, P c := by
  simpa using h

/-- A character that is no capital of the tables stands for itself. -/
theorem lowerChar_eq_self (hdot : c ≠ '\u0130') (h : ∀ q ∈ caseRuns, q.covers c.toNat = false) :
    lowerChar c = [c] := by
  have hnone : caseRuns.find? (·.covers c.toNat) = none := by
    simpa using h
  rw [lowerChar, if_neg hdot, hnone]

theorem toNat_small (hr : r ∈ caseRuns) (hc : r.covers n) :
    (Char.ofNat (r.small n)).toNat = r.small n := by
  have hrange := small_of_mem hr
  obtain ⟨hfirst, hlast, -⟩ := CaseRun.bounds_of_covers hc
  have hvalid : (r.small n).isValidChar := by
    simp only [CaseRun.small, Nat.isValidChar] at hrange ⊢
    omega
  rw [Char.ofNat, dif_pos hvalid]
  rfl

/-- The small letter of a capital stands for itself. -/
theorem lowerChar_small (hr : r ∈ caseRuns) (hc : r.covers c.toNat) :
    lowerChar (Char.ofNat (r.small c.toNat)) = [Char.ofNat (r.small c.toNat)] := by
  have hrange := small_of_mem hr
  obtain ⟨hfirst, hlast, -⟩ := CaseRun.bounds_of_covers hc
  have hcode := toNat_small hr hc
  refine lowerChar_eq_self ?_ fun q hq => ?_
  · intro hdot
    have hcode' : r.small c.toNat = 0x130 := by
      rw [← hcode, hdot]
      rfl
    simp only [CaseRun.small] at hrange hcode'
    omega
  · rw [hcode]
    exact not_covers_small hr hq hc

/-- The small letters of `İ` and `Σ`, which have rules of their own. -/
theorem lowerChar_special : lowerChar 'Σ' = ['σ'] ∧
    (['i', '\u0307', 'ς', 'σ'].all fun d => decide (lowerChar d = [d])) = true := by decide +kernel

/-- **Small letters stay small letters.** -/
theorem lowerChar_of_mem_lowerChar (h : d ∈ lowerChar c) : lowerChar d = [d] := by
  unfold lowerChar at h
  split at h
  · exact forall_mem_of_all lowerChar_special.2 d (List.mem_append_left ['ς', 'σ'] h)
  · next hdot =>
    split at h
    · next r hr =>
      have hcovers : r.covers c.toNat :=
        List.find?_some (p := fun r : CaseRun => r.covers c.toNat) hr
      rw [List.mem_singleton.mp h]
      exact lowerChar_small (List.mem_of_find?_eq_some hr) hcovers
    · next hnone =>
      rw [List.mem_singleton.mp h]
      exact lowerChar_eq_self hdot (by simpa using hnone)

/-! ## Texts in lower case -/

theorem lowerFrom_eq_flatMap (before : List Char) (hs : 'Σ' ∉ s) :
    lowerFrom before s = s.flatMap lowerChar := by
  induction s generalizing before with
  | nil => rfl
  | cons c s ih =>
    obtain ⟨hc, hs⟩ := not_or.mp (mt List.mem_cons.mpr hs)
    rw [lowerFrom, if_neg (Ne.symm hc), ih _ hs, List.flatMap_cons]

/-- Without a capital sigma, every character is lower-cased on its own. -/
theorem lower_eq_flatMap (hs : 'Σ' ∉ s) : lower s = s.flatMap lowerChar :=
  lowerFrom_eq_flatMap [] hs

/-- A lower-cased text consists of small letters and of characters without case. -/
theorem lowerChar_of_mem_lowerFrom {before : List Char} (h : d ∈ lowerFrom before s) :
    lowerChar d = [d] := by
  induction s generalizing before with
  | nil => cases h
  | cons c s ih =>
    rw [lowerFrom, List.mem_append] at h
    rcases h with h | h
    · split at h
      · refine forall_mem_of_all lowerChar_special.2 d ?_
        rw [List.mem_singleton.mp h, lowerSigma]
        split <;> simp
      · exact lowerChar_of_mem_lowerChar h
    · exact ih h

theorem flatMap_eq_self {f : Char → List Char} (h : ∀ c ∈ s, f c = [c]) : s.flatMap f = s := by
  induction s with
  | nil => rfl
  | cons c s ih =>
    rw [List.flatMap_cons, h c List.mem_cons_self, ih fun d hd => h d (List.mem_cons_of_mem _ hd),
      List.singleton_append]

/-- **A text in lower case stays as it is**, also where it ends in a final sigma. -/
theorem lower_lower (s : List Char) : lower (lower s) = lower s := by
  have hself : ∀ d ∈ lower s, lowerChar d = [d] := fun d hd => lowerChar_of_mem_lowerFrom hd
  have hsigma : 'Σ' ∉ lower s := by
    intro h
    have hsame := hself 'Σ' h
    rw [lowerChar_special.1] at hsame
    exact absurd hsame (by decide)
  rw [lower_eq_flatMap hsigma, flatMap_eq_self hself]

/-! ## ASCII letters -/

/-- A character stays as it is, or it is an ASCII capital and moves 32 places on. -/
theorem toLower_cases (c : Char) : c.toLower = c ∧ ¬(65 ≤ c.toNat ∧ c.toNat ≤ 90) ∨
    (65 ≤ c.toNat ∧ c.toNat ≤ 90) ∧ c.toLower.toNat = c.toNat + 32 := by
  by_cases h : 65 ≤ c.toNat ∧ c.toNat ≤ 90
  · refine .inr ⟨h, ?_⟩
    have hlast : c.val.toNat ≤ 90 := h.2
    have hcode : c.toLower.val = c.val + 32 := congrArg Char.val (dif_pos h)
    have hshift : (32 : UInt32).toNat = 32 := rfl
    show c.toLower.val.toNat = c.val.toNat + 32
    rw [hcode, UInt32.toNat_add]
    omega
  · exact .inl ⟨dif_neg h, h⟩

/-- Ranges without ASCII letters do not see in which case these are. -/
theorem inRanges_toLower {ranges : List (Nat × Nat)}
    (h : ∀ r ∈ ranges, r.2 < 65 ∨ 90 < r.1 ∧ r.2 < 97 ∨ 122 < r.1) (c : Char) :
    inRanges ranges c.toLower.toNat = inRanges ranges c.toNat := by
  have hletter : ∀ n, 65 ≤ n ∧ n ≤ 90 ∨ 97 ≤ n ∧ n ≤ 122 → inRanges ranges n = false := by
    intro n hn
    refine List.any_eq_false.mpr fun r hr => ?_
    have hapart := h r hr
    simp only [Bool.and_eq_true, decide_eq_true_eq]
    omega
  rcases toLower_cases c with ⟨hself, -⟩ | ⟨hcapital, hcode⟩
  · rw [hself]
  · rw [hletter c.toNat (.inl hcapital), hletter c.toLower.toNat (.inr (by omega))]

theorem isBlank_toLower (c : Char) : isBlank c.toLower = isBlank c :=
  inRanges_toLower (by decide) c

theorem isCaseIgnorable_toLower (c : Char) : isCaseIgnorable c.toLower = isCaseIgnorable c :=
  inRanges_toLower (by decide +kernel) c

/-- The two ranges of ASCII letters are the first ones of those with case. -/
theorem isCased_toLower (c : Char) : isCased c.toLower = isCased c := by
  rcases toLower_cases c with ⟨hself, -⟩ | ⟨hcapital, hcode⟩
  · rw [hself]
  · have hlarge : isCased c = true := by
      refine List.any_eq_true.mpr ⟨(0x41, 0x5A), List.mem_cons_self, ?_⟩
      simpa using hcapital
    have hsmall : isCased c.toLower = true := by
      refine List.any_eq_true.mpr ⟨(0x61, 0x7A), List.mem_cons_of_mem _ List.mem_cons_self, ?_⟩
      simp only [hcode, Bool.and_eq_true, decide_eq_true_eq]
      omega
    rw [hlarge, hsmall]

/-- The ASCII capitals are the first run of capitals. -/
theorem lowerChar_of_capital (h : 65 ≤ c.toNat ∧ c.toNat ≤ 90)
    (hcode : c.toLower.toNat = c.toNat + 32) : lowerChar c = [c.toLower] := by
  have hdot : c ≠ '\u0130' := by
    rintro rfl
    exact absurd h.2 (by decide)
  have hcovers : CaseRun.covers ⟨0x41, 0x5A, 1, 32⟩ c.toNat = true := by
    simpa [CaseRun.covers, Nat.mod_one] using h
  have hfound : caseRuns.find? (·.covers c.toNat) = some ⟨0x41, 0x5A, 1, 32⟩ :=
    List.find?_cons_of_pos hcovers
  have hsmall : ((c.toNat : Int) + 32).toNat = c.toLower.toNat := by omega
  rw [lowerChar, if_neg hdot, hfound]
  show [Char.ofNat ((c.toNat : Int) + 32).toNat] = [c.toLower]
  rw [hsmall, Char.ofNat_toNat]

theorem lowerChar_toLower (c : Char) : lowerChar c.toLower = lowerChar c := by
  rcases toLower_cases c with ⟨hself, -⟩ | ⟨hcapital, hcode⟩
  · rw [hself]
  · have hsmall := lowerChar_of_capital hcapital hcode
    rw [hsmall]
    exact lowerChar_of_mem_lowerChar (by rw [hsmall]; exact List.mem_singleton_self _)

theorem toLower_eq_sigma_iff (c : Char) : c.toLower = 'Σ' ↔ c = 'Σ' := by
  rcases toLower_cases c with ⟨hself, -⟩ | ⟨hcapital, hcode⟩
  · rw [hself]
  · have hsigma : 'Σ'.toNat = 931 := rfl
    refine iff_of_false (fun h => ?_) fun h => ?_
    · rw [h] at hcode
      omega
    · rw [h] at hcapital
      omega

theorem meetsCased_map_toLower (s : List Char) :
    meetsCased (s.map Char.toLower) = meetsCased s := by
  have hsame : isCaseIgnorable ∘ Char.toLower = isCaseIgnorable := funext isCaseIgnorable_toLower
  rw [meetsCased, meetsCased, List.dropWhile_map, hsame]
  cases s.dropWhile isCaseIgnorable with
  | nil => rfl
  | cons c s => exact isCased_toLower c

theorem lowerFrom_map_toLower (before s : List Char) :
    lowerFrom (before.map Char.toLower) (s.map Char.toLower) = lowerFrom before s := by
  induction s generalizing before with
  | nil => rfl
  | cons c s ih =>
    have hrest := ih (c :: before)
    rw [List.map_cons] at hrest ⊢
    simp only [lowerFrom, hrest, toLower_eq_sigma_iff, lowerChar_toLower, lowerSigma,
      meetsCased_map_toLower]

/-- **The case of ASCII letters has no influence** on a text in lower case. -/
theorem lower_map_toLower (s : List Char) : lower (s.map Char.toLower) = lower s :=
  lowerFrom_map_toLower [] s

/-! ## ASCII texts -/

/-- A character that becomes ASCII characters, and no `k`, is one of them itself. -/
theorem ascii_of_lowerChar (h : ∀ d ∈ lowerChar c, d.toNat < 128 ∧ d ≠ 'k') : c.toNat < 128 := by
  unfold lowerChar at h
  split at h
  · exact absurd (h '\u0307' (by simp)).1 (by decide)
  · split at h
    · next r hr =>
      have hmem := List.mem_of_find?_eq_some hr
      have hcovers : r.covers c.toNat :=
        List.find?_some (p := fun r : CaseRun => r.covers c.toNat) hr
      obtain ⟨hfirst, hlast, -⟩ := CaseRun.bounds_of_covers hcovers
      have hcode := toNat_small hmem hcovers
      obtain ⟨hascii, hk⟩ := h (Char.ofNat (r.small c.toNat)) (List.mem_singleton_self _)
      rcases ascii_of_small hmem with hin | hout | ⟨hone, hkelvin⟩
      · omega
      · simp only [CaseRun.small] at hcode hout hascii
        omega
      · have hsame : c.toNat = r.first := by omega
        rw [hsame, hkelvin] at hk
        exact absurd rfl hk
    · exact (h c (List.mem_singleton_self c)).1

theorem ascii_of_lowerFrom {before : List Char}
    (h : ∀ d ∈ lowerFrom before s, d.toNat < 128 ∧ d ≠ 'k') : ∀ c ∈ s, c.toNat < 128 := by
  induction s generalizing before with
  | nil => nofun
  | cons c s ih =>
    rw [lowerFrom] at h
    obtain ⟨hfirst, hrest⟩ := List.forall_mem_append.mp h
    refine List.forall_mem_cons.mpr ⟨?_, ih hrest⟩
    split at hfirst
    · have hsigma := (hfirst _ (List.mem_singleton_self _)).1
      rw [lowerSigma] at hsigma
      split at hsigma <;> exact absurd hsigma (by decide)
    · exact ascii_of_lowerChar hfirst

theorem lowerChar_of_ascii (hc : c.toNat < 128) : lowerChar c = [c.toLower] := by
  rcases toLower_cases c with ⟨hself, hnot⟩ | ⟨hcapital, hcode⟩
  · rw [hself]
    refine lowerChar_eq_self ?_ fun q hq => Bool.eq_false_iff.mpr fun hcovers => ?_
    · rintro rfl
      exact absurd hc (by decide)
    · obtain ⟨hfirst, hlast, -⟩ := CaseRun.bounds_of_covers hcovers
      have hletters := ascii_of_first hq
      omega
  · exact lowerChar_of_capital hcapital hcode

theorem lower_of_ascii (hs : ∀ c ∈ s, c.toNat < 128) : lower s = s.map Char.toLower := by
  have hsigma : 'Σ' ∉ s := fun h => absurd (hs 'Σ' h) (by decide)
  rw [lower_eq_flatMap hsigma]
  induction s with
  | nil => rfl
  | cons c s ih =>
    obtain ⟨hc, hs⟩ := List.forall_mem_cons.mp hs
    rw [List.flatMap_cons, lowerChar_of_ascii hc, ih hs fun h => hsigma (List.mem_cons_of_mem _ h)]
    rfl

theorem ascii_of_toLower (h : c.toLower.toNat < 128) : c.toNat < 128 := by
  rcases toLower_cases c with ⟨hself, -⟩ | ⟨hcapital, -⟩
  · rwa [hself] at h
  · omega

/--
**Which texts become an ASCII text**: those that differ from it in the case of ASCII letters only.
There must be no `k` in it, since that is also the small letter of the Kelvin sign.
-/
theorem lower_eq_iff_of_ascii {t : List Char} (ht : ∀ d ∈ t, d.toNat < 128 ∧ d ≠ 'k') :
    lower s = t ↔ s.map Char.toLower = t := by
  constructor
  · rintro rfl
    exact (lower_of_ascii (ascii_of_lowerFrom ht)).symm
  · rintro rfl
    refine lower_of_ascii fun c hc => ascii_of_toLower (ht _ (List.mem_map_of_mem hc)).1

end Birthright.Text
