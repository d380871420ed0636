import Mathlib.Data.List.DropRight
import ResumableFlow.Text.Blank
import ResumableFlow.Text.LetterCase

/-!
# Words in any letter case

A word is read without the blanks around it (`Text.trim_eq_iff`) and in lower case. Both follow
Unicode, but letters beyond ASCII make no difference to a word of plain letters: a text has such a
word as its lower case just if it spells the word in small and capital letters of ASCII
(`Text.lower_eq_iff`).
-/

namespace ResumableFlow
namespace Text

/-! ## Blanks around a text -/

/-- The text is its core with blanks around it, of which the core has none at its ends. -/
structure Stripped (text core : List Char) : Prop where
  around : ∃ before after, text = before ++ core ++ after ∧
    (∀ c ∈ before, isBlank c = true) ∧ ∀ c ∈ after, isBlank c = true
  head : ∀ c ∈ core.head?, isBlank c = false
  last : ∀ c ∈ core.getLast?, isBlank c = false

theorem trim_stripped (text : List Char) : Stripped text (trim text) := by
  have front : text.takeWhile isBlank ++ text.dropWhile isBlank = text :=
    List.takeWhile_append_dropWhile
  have back : trim text ++ (text.dropWhile isBlank).rtakeWhile isBlank = text.dropWhile isBlank :=
    List.rdropWhile_append_rtakeWhile
  have whole : text = text.takeWhile isBlank ++ trim text ++
      (text.dropWhile isBlank).rtakeWhile isBlank := by
    rw [List.append_assoc, back, front]
  refine ⟨⟨_, _, whole, fun c => List.mem_takeWhile_imp, fun c => List.mem_rtakeWhile_imp⟩,
    fun c isHead => ?_, fun c isLast => ?_⟩
  · have leads : (text.dropWhile isBlank).head? = some c := by
      rw [← back, List.head?_append, isHead, Option.some_or]
    have stops := List.head?_dropWhile_not isBlank text
    rwa [leads] at stops
  · have nonempty : trim text ≠ [] := by
      rintro empty
      rw [empty] at isLast
      cases isLast
    rw [List.getLast?_eq_some_getLast nonempty, Option.mem_some_iff] at isLast
    rw [← isLast]
    exact Bool.eq_false_iff.mpr (List.rdropWhile_last_not isBlank _ nonempty)

theorem trimEnd_append {text blanks : List Char} (blank : ∀ c ∈ blanks, isBlank c = true) :
    trimEnd (text ++ blanks) = trimEnd text := by
  rw [trimEnd, trimEnd, List.reverse_append, List.dropWhile_append_of_pos]
  exact fun c mem => blank c (List.mem_reverse.mp mem)

theorem Stripped.trim_eq {text core : List Char} (h : Stripped text core) : trim text = core := by
  obtain ⟨⟨before, after, rfl, blankBefore, blankAfter⟩, head, last⟩ := h
  -- without a core there are only blanks, and nothing stops the first pass before the end
  cases core with
  | nil =>
    rw [trim, List.append_nil, List.dropWhile_eq_nil_iff.mpr]
    · rfl
    · intro c mem
      exact (List.mem_append.mp mem).elim (blankBefore c) (blankAfter c)
  | cons c core =>
    have solid : ¬ isBlank c = true := Bool.eq_false_iff.mp (head c rfl)
    rw [trim, List.append_assoc, List.dropWhile_append_of_pos blankBefore, List.cons_append,
      List.dropWhile_cons_of_neg solid, ← List.cons_append, trimEnd_append blankAfter]
    refine List.rdropWhile_eq_self_iff.mpr fun nonempty => ?_
    exact Bool.eq_false_iff.mp (last _ (List.getLast?_eq_some_getLast nonempty))

theorem trim_eq_iff {text core : List Char} : trim text = core ↔ Stripped text core :=
  ⟨fun h => h ▸ trim_stripped text, Stripped.trim_eq⟩

/-! ## Plain letters -/

/-- A small letter that is the lower case of no character but itself and its capital. The `k` is
left out: the sign for kelvin has it as its lower case. -/
def IsPlain (c : Char) : Prop := 'a' ≤ c ∧ c ≤ 'z' ∧ c ≠ 'k'

instance (c : Char) : Decidable (IsPlain c) :=
  inferInstanceAs (Decidable ('a' ≤ c ∧ c ≤ 'z' ∧ c ≠ 'k'))

theorem IsPlain.toNat_mem {c : Char} (h : IsPlain c) :
    0x61 ≤ c.toNat ∧ c.toNat ≤ 0x7a ∧ c.toNat ≠ 0x6b :=
  ⟨h.1, h.2.1, fun same => h.2.2 (Char.toNat_inj.mp same)⟩

/-- The run lies beyond ASCII, and the lower case of no character on it is a plain letter. -/
def CaseRun.Avoids (run : CaseRun) : Prop :=
  0x7a < run.first ∧ (run.last + run.shift < 0x61 ∨ 0x7a < run.first + run.shift ∨
    run.first = run.last ∧ run.first + run.shift = 0x6b)

instance (run : CaseRun) : Decidable run.Avoids :=
  inferInstanceAs (Decidable (_ ∧ _))

theorem avoids_of_mem_tail : ∀ run ∈ caseRuns.tail, run.Avoids := by decide +kernel

theorem toNat_of_ofNat_isPlain {code : Nat} (h : IsPlain (Char.ofNat code)) :
    (Char.ofNat code).toNat = code := by
  by_cases valid : code.isValidChar
  · rw [Char.ofNat, dif_pos valid]
    rfl
  · rw [Char.ofNat, dif_neg valid] at h
    exact absurd h (by decide)

theorem CaseRun.Avoids.not_isPlain {run : CaseRun} (avoids : run.Avoids) {c : Char}
    (holds : run.holds c.toNat = true) :
    ¬ IsPlain c ∧ ¬ IsPlain (Char.ofNat (c.toNat + run.shift).toNat) := by
  obtain ⟨beyond, targets⟩ := avoids
  simp only [CaseRun.holds, Bool.and_eq_true, decide_eq_true_eq, beq_iff_eq] at holds
  refine ⟨fun plain => ?_, fun plain => ?_⟩
  · have small := plain.toNat_mem
    omega
  · have small := plain.toNat_mem
    rw [toNat_of_ofNat_isPlain plain] at small
    omega

/-! ## Lower case -/

theorem toLower_of_not_capital {c : Char} (h : ¬ ('A' ≤ c ∧ c ≤ 'Z')) : c.toLower = c :=
  dif_neg h

theorem toNat_toLower_of_capital {c : Char} (h : 'A' ≤ c ∧ c ≤ 'Z') :
    c.toLower.toNat = c.toNat + 32 := by
  have bounds : 0x41 ≤ c.toNat ∧ c.toNat ≤ 0x5a := h
  have lowered : c.toLower.val = c.val + 32 := congrArg Char.val (dif_pos h)
  rw [← Char.toNat_val, lowered, UInt32.toNat_add, Char.toNat_val, Nat.mod_eq_of_lt]
  · rfl
  · exact Nat.lt_of_le_of_lt (Nat.add_le_add_right bounds.2 _) (by decide)

theorem lowerChar_of_capital {c : Char} (h : 'A' ≤ c ∧ c ≤ 'Z') : lowerChar c = [c.toLower] := by
  have bounds : 0x41 ≤ c.toNat ∧ c.toNat ≤ 0x5a := h
  have undotted : c ≠ 'İ' := by
    rintro rfl
    exact absurd h (by decide)
  have found : caseRuns.find? (·.holds c.toNat) = some ⟨0x41, 0x5a, 1, 32⟩ := by
    apply List.find?_cons_of_pos
    simp [CaseRun.holds, bounds, Nat.mod_one]
  rw [lowerChar, if_neg undotted, found, ← Char.ofNat_toNat c.toLower, toNat_toLower_of_capital h]
  rfl

/-- The first run is that of the ASCII capitals, so that all other characters are sought in the
rest. -/
theorem lowerChar_of_not_capital {c : Char} (h : ¬ ('A' ≤ c ∧ c ≤ 'Z')) (undotted : c ≠ 'İ') :
    lowerChar c = [c] ∨ ∃ run ∈ caseRuns.tail, run.holds c.toNat = true ∧
      lowerChar c = [Char.ofNat (c.toNat + run.shift).toNat] := by
  have other : caseRuns.find? (·.holds c.toNat) = caseRuns.tail.find? (·.holds c.toNat) := by
    apply List.find?_cons_of_neg
    intro holds
    simp only [CaseRun.holds, Bool.and_eq_true, decide_eq_true_eq] at holds
    exact h holds.1
  rw [lowerChar, if_neg undotted, other]
  cases found : caseRuns.tail.find? (·.holds c.toNat) with
  | none => exact .inl rfl
  | some run =>
    have holds := List.find?_some found
    exact .inr ⟨run, List.mem_of_find?_eq_some found, holds, rfl⟩

/-- The lower case of a character is a plain letter just if its ASCII lower case is. -/
theorem exists_lowerChar_eq {c : Char} (undotted : c ≠ 'İ') :
    ∃ d, lowerChar c = [d] ∧ ∀ letter, IsPlain letter → (d = letter ↔ c.toLower = letter) := by
  by_cases capital : 'A' ≤ c ∧ c ≤ 'Z'
  · exact ⟨_, lowerChar_of_capital capital, fun _ _ => .rfl⟩
  · rw [toLower_of_not_capital capital]
    rcases lowerChar_of_not_capital capital undotted with same | ⟨run, mem, holds, lowered⟩
    · exact ⟨c, same, fun _ _ => .rfl⟩
    · obtain ⟨notPlain, notPlain'⟩ := (avoids_of_mem_tail run mem).not_isPlain holds
      refine ⟨_, lowered, fun letter plain => iff_of_false ?_ ?_⟩
      · rintro rfl
        exact notPlain' plain
      · rintro rfl
        exact notPlain plain

/-- Where a text becomes a word of plain letters, it does so letter by letter. The two characters
that are not lowered on their own leave something in the text that is no plain letter. -/
theorem lowerAfter_eq_iff {word : List Char} (plain : ∀ letter ∈ word, IsPlain letter)
    (before text : List Char) : lowerAfter before text = word ↔ text.map Char.toLower = word := by
  induction text generalizing before word with
  | nil => rfl
  | cons c text ih =>
    rw [lowerAfter, List.map_cons]
    by_cases sigma : c = 'Σ'
    · subst sigma
      refine iff_of_false (fun h => ?_) (fun h => ?_)
      · rw [if_pos rfl, List.singleton_append] at h
        have final := plain _ (h ▸ List.mem_cons_self)
        revert final
        split <;> decide
      · exact absurd (plain _ (h ▸ List.mem_cons_self)) (by decide)
    · rw [if_neg sigma]
      by_cases dotted : c = 'İ'
      · subst dotted
        refine iff_of_false (fun h => ?_) (fun h => ?_)
        · have dot : '\u0307' ∈ word := h ▸ List.mem_append_left _ (by decide)
          exact absurd (plain _ dot) (by decide)
        · exact absurd (plain _ (h ▸ List.mem_cons_self)) (by decide)
      · obtain ⟨d, lowered, same⟩ := exists_lowerChar_eq dotted
        rw [lowered, List.singleton_append]
        cases word with
        | nil => simp
        | cons letter word =>
          obtain ⟨first, rest⟩ := List.forall_mem_cons.mp plain
          rw [List.cons_eq_cons, List.cons_eq_cons, same letter first, ih rest]

/-- A text has a word of plain letters as its lower case just if it has it
as its ASCII lower case. -/
theorem lower_eq_iff {word : List Char} (plain : ∀ letter ∈ word, IsPlain letter)
    {text : List Char} : lower text = word ↔ text.map Char.toLower = word :=
  lowerAfter_eq_iff plain [] text

/-- With a `k` in the word this would be wrong: the sign for kelvin is no ASCII character. -/
example : lower ['\u212a'] = ['k'] ∧ ['\u212a'].map Char.toLower ≠ ['k'] := by decide +kernel

end Text
end ResumableFlow
