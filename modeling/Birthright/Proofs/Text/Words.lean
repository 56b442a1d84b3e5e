import Mathlib.Data.List.Basic
import Birthright.Proofs.Text.LowerCase
import Birthright.Text.Blank

/-!
# Words

The words of a text are its runs of characters that are not blank, and single spaces between words
give a text with just these words. So texts that are compared with single spaces between their words
are compared word by word.

* `isWord_of_mem_words`, `mem_squeeze` — words consist of the characters that are not blank
* `words_intercalate` — the words of words with spaces between them
* `map_toLower_squeeze_eq_iff` — the comparison of texts without regard to ASCII case
-/

namespace Birthright.Text

/-- A word has characters, and none of them is blank. -/
def IsWord (w : List Char) : Prop := w ≠ [] ∧ ∀ c ∈ w, isBlank c = false

variable {s w : List Char} {c : Char}

/-! ## The words of a text -/

theorem leadAndWords_nonblank (s : List Char) :
    (∀ c ∈ (leadAndWords s).1, isBlank c = false) ∧ ∀ w ∈ (leadAndWords s).2, IsWord w := by
  induction s with
  | nil => exact ⟨nofun, nofun⟩
  | cons c s ih =>
    obtain ⟨hlead, hlater⟩ := ih
    rw [leadAndWords]
    dsimp only
    split
    · refine ⟨nofun, ?_⟩
      split
      · exact hlater
      · next hne => exact List.forall_mem_cons.mpr ⟨⟨by simpa using hne, hlead⟩, hlater⟩
    · next hblank => exact ⟨List.forall_mem_cons.mpr ⟨by simpa using hblank, hlead⟩, hlater⟩

/-- The words of a text are words. -/
theorem isWord_of_mem_words (h : w ∈ words s) : IsWord w := by
  obtain ⟨hlead, hlater⟩ := leadAndWords_nonblank s
  unfold words at h
  dsimp only at h
  split at h
  · exact hlater w h
  · next hne =>
    rcases List.mem_cons.mp h with rfl | h
    · exact ⟨by simpa using hne, hlead⟩
    · exact hlater w h

theorem mem_leadAndWords (hc : c ∈ s) (hblank : isBlank c = false) :
    c ∈ (leadAndWords s).1 ∨ ∃ w ∈ (leadAndWords s).2, c ∈ w := by
  induction s with
  | nil => cases hc
  | cons d s ih =>
    rw [leadAndWords]
    dsimp only
    rcases List.mem_cons.mp hc with rfl | hc
    · rw [if_neg (by simp [hblank])]
      exact .inl List.mem_cons_self
    · have hlater := ih hc
      split
      · refine .inr ?_
        split
        · next hnone =>
          rw [List.isEmpty_iff.mp hnone] at hlater
          exact hlater.resolve_left nofun
        · simpa using hlater
      · exact hlater.imp (List.mem_cons_of_mem _) id

/-- Every character that is not blank belongs to a word. -/
theorem exists_mem_words (hc : c ∈ s) (hblank : isBlank c = false) : ∃ w ∈ words s, c ∈ w := by
  have h := mem_leadAndWords hc hblank
  unfold words
  dsimp only
  split
  · next hnone =>
    rw [List.isEmpty_iff.mp hnone] at h
    exact h.resolve_left nofun
  · simpa using h

/-! ## Spaces between words -/

theorem leadAndWords_append (hw : ∀ c ∈ w, isBlank c = false) (s : List Char) :
    leadAndWords (w ++ s) = (w ++ (leadAndWords s).1, (leadAndWords s).2) := by
  induction w with
  | nil => rfl
  | cons c w ih =>
    obtain ⟨hc, hw⟩ := List.forall_mem_cons.mp hw
    rw [List.cons_append, leadAndWords, ih hw]
    simp [hc]

theorem leadAndWords_space (s : List Char) : leadAndWords (' ' :: s) = ([], words s) := rfl

/-- A word before a space is the first one. -/
theorem words_append_space (hw : IsWord w) (s : List Char) :
    words (w ++ ' ' :: s) = w :: words s := by
  rw [words, leadAndWords_append hw.2, leadAndWords_space]
  simp [hw.1]

theorem words_of_isWord (hw : IsWord w) : words w = [w] := by
  have hall := leadAndWords_append hw.2 []
  rw [List.append_nil] at hall
  rw [words, hall]
  simp [leadAndWords, hw.1]

/-- **The words of words with spaces between them** are these words. -/
theorem words_intercalate {ws : List (List Char)} (h : ∀ w ∈ ws, IsWord w) :
    words ([' '].intercalate ws) = ws := by
  induction ws with
  | nil => rfl
  | cons w ws ih =>
    obtain ⟨hw, hws⟩ := List.forall_mem_cons.mp h
    cases ws with
    | nil => rw [List.intercalate_singleton, words_of_isWord hw]
    | cons w' ws =>
      rw [List.intercalate_cons_cons, List.append_assoc, List.singleton_append,
        words_append_space hw, ih hws]

theorem mem_intercalate {ws : List (List Char)} (hw : w ∈ ws) (hc : c ∈ w) :
    c ∈ [' '].intercalate ws := by
  induction ws with
  | nil => cases hw
  | cons v ws ih =>
    cases ws with
    | nil =>
      rw [List.mem_singleton.mp hw] at hc
      rwa [List.intercalate_singleton]
    | cons v' ws =>
      rw [List.intercalate_cons_cons, List.append_assoc, List.mem_append]
      rcases List.mem_cons.mp hw with rfl | hw
      · exact .inl hc
      · exact .inr (List.mem_append_right [' '] (ih hw))

/-- No character is lost but the blanks. -/
theorem mem_squeeze (hc : c ∈ s) (hblank : isBlank c = false) : c ∈ squeeze s := by
  obtain ⟨w, hw, hcw⟩ := exists_mem_words hc hblank
  exact mem_intercalate hw hcw

/-! ## Comparison without regard to case -/

/-- The words of a text with small letters for the capitals among the ASCII letters. -/
def plainWords (s : List Char) : List (List Char) := (words s).map fun w => w.map Char.toLower

theorem isWord_of_mem_plainWords (h : w ∈ plainWords s) : IsWord w := by
  obtain ⟨w, hw, rfl⟩ := List.mem_map.mp h
  obtain ⟨hne, hchars⟩ := isWord_of_mem_words hw
  refine ⟨by simpa using hne, fun c hc => ?_⟩
  obtain ⟨d, hd, rfl⟩ := List.mem_map.mp hc
  rw [isBlank_toLower]
  exact hchars d hd

theorem map_toLower_intercalate (ws : List (List Char)) :
    ([' '].intercalate ws).map Char.toLower
      = [' '].intercalate (ws.map fun w => w.map Char.toLower) := by
  induction ws with
  | nil => rfl
  | cons w ws ih =>
    cases ws with
    | nil => simp
    | cons w' ws =>
      have hspace : [' '].map Char.toLower = [' '] := rfl
      rw [List.intercalate_cons_cons, List.map_append, List.map_append, ih, hspace]
      exact List.intercalate_cons_cons.symm

theorem map_toLower_squeeze (s : List Char) :
    (squeeze s).map Char.toLower = [' '].intercalate (plainWords s) :=
  map_toLower_intercalate (words s)

/-- **Texts with spaces between their words** are compared word by word. -/
theorem map_toLower_squeeze_eq_iff {t : List Char} :
    (squeeze s).map Char.toLower = (squeeze t).map Char.toLower ↔ plainWords s = plainWords t := by
  rw [map_toLower_squeeze, map_toLower_squeeze]
  refine ⟨fun h => ?_, congrArg _⟩
  have hwords := congrArg words h
  rwa [words_intercalate fun _ => isWord_of_mem_plainWords,
    words_intercalate fun _ => isWord_of_mem_plainWords] at hwords

end Birthright.Text
