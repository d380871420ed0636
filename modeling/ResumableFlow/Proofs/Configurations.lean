import Mathlib.Data.List.Induction
import Mathlib.Data.Nat.Digits.Defs
import ResumableFlow.Config
import ResumableFlow.Proofs.Spelling

/-!
# Configurations from texts

What a text says of a setting can be told without reading it: a bound is written in decimal
(`Natural.Writes`), and a policy is named by a word (`LimitPolicy.NamedBy`). A configuration that is
read from two texts has the bound and the policy that they say, each on its own, and the default
where there is nothing usable (`Config.ofTexts_exact`).
-/

namespace ResumableFlow

/-! ## Numbers -/

namespace Natural

/-- The digits write the number in decimal. Zeros may stand before it. -/
inductive Numeral : List Char → Nat → Prop
  | digit {d : Nat} (h : d < 10) : Numeral [d.digitChar] d
  | more {digits : List Char} {n d : Nat} (front : Numeral digits n) (h : d < 10) :
      Numeral (digits ++ [d.digitChar]) (10 * n + d)

theorem exists_digitChar_eq {c : Char} (h : c.isDigit = true) : ∃ d < 10, c = d.digitChar := by
  have bounds : 48 ≤ c.toNat ∧ c.toNat ≤ 57 := Char.isDigit_iff_toNat.mp h
  have small : c.toNat - 48 < 10 := by omega
  refine ⟨c.toNat - 48, small, Char.toNat_inj.mp ?_⟩
  rw [Nat.toNat_digitChar_of_lt_ten small, Nat.add_sub_of_le bounds.1]

theorem isDigit_digitChar {d : Nat} (h : d < 10) : d.digitChar.isDigit = true := by
  rw [Nat.isDigit_digitChar]
  exact decide_eq_true h

theorem ofDigitChars_concat (digits : List Char) {d : Nat} (h : d < 10) :
    Nat.ofDigitChars 10 (digits ++ [d.digitChar]) 0 = 10 * Nat.ofDigitChars 10 digits 0 + d := by
  rw [Nat.ofDigitChars_append, Nat.ofDigitChars_cons_digitChar_of_lt_ten h, Nat.ofDigitChars_nil]

theorem ofDigitChars_singleton {d : Nat} (h : d < 10) : Nat.ofDigitChars 10 [d.digitChar] 0 = d :=
  (ofDigitChars_concat [] h).trans (Nat.zero_add d)

namespace Numeral

variable {digits : List Char} {n : Nat}

theorem ne_nil (h : Numeral digits n) : digits ≠ [] := by
  cases h with
  | digit => exact List.cons_ne_nil _ _
  | more => exact List.append_ne_nil_of_right_ne_nil _ (List.cons_ne_nil _ _)

theorem isDigit (h : Numeral digits n) : ∀ c ∈ digits, c.isDigit = true := by
  induction h with
  | digit h => exact List.forall_mem_singleton.mpr (isDigit_digitChar h)
  | more front h ih =>
    exact List.forall_mem_append.mpr ⟨ih, List.forall_mem_singleton.mpr (isDigit_digitChar h)⟩

theorem value_eq (h : Numeral digits n) : Nat.ofDigitChars 10 digits 0 = n := by
  induction h with
  | digit h => exact ofDigitChars_singleton h
  | more front h ih => rw [ofDigitChars_concat _ h, ih]

theorem signless (h : Numeral digits n) : '+' ∉ digits := fun mem =>
  absurd (h.isDigit '+' mem) (by decide)

theorem of_isDigit (nonempty : digits ≠ []) (isDigit : ∀ c ∈ digits, c.isDigit = true) :
    Numeral digits (Nat.ofDigitChars 10 digits 0) := by
  -- a numeral grows at its end, so the induction takes the last digit off
  induction digits using List.reverseRecOn with
  | nil => exact absurd rfl nonempty
  | append_singleton front c ih =>
    obtain ⟨frontDigits, last⟩ := List.forall_mem_append.mp isDigit
    obtain ⟨d, small, rfl⟩ := exists_digitChar_eq (last c List.mem_cons_self)
    rcases eq_or_ne front [] with rfl | more
    · rw [List.nil_append, ofDigitChars_singleton small]
      exact .digit small
    · rw [ofDigitChars_concat front small]
      exact .more (ih more frontDigits) small

end Numeral

theorem ofDigits?_eq_some_iff {text : List Char} {n : Nat} :
    ofDigits? text = some n ↔ Numeral text n := by
  rw [ofDigits?, Option.ite_none_right_eq_some, List.all_eq_true, Option.some.injEq]
  constructor
  · rintro ⟨⟨nonempty, isDigit⟩, rfl⟩
    exact .of_isDigit nonempty isDigit
  · intro numeral
    exact ⟨⟨numeral.ne_nil, numeral.isDigit⟩, numeral.value_eq⟩

/-- The text writes the number: its digits, with or without a plus sign before them. -/
def Writes (text : String) (n : Nat) : Prop :=
  ∃ digits, Numeral digits n ∧ (text.toList = digits ∨ text.toList = '+' :: digits)

theorem withoutPlus_eq_iff {text digits : List Char} (signless : '+' ∉ digits) :
    withoutPlus text = digits ↔ text = digits ∨ text = '+' :: digits := by
  fun_cases withoutPlus text with
  | case1 rest =>
    rw [List.cons_eq_cons, and_iff_right rfl, or_iff_right]
    rintro rfl
    exact signless List.mem_cons_self
  | case2 text plain =>
    rw [or_iff_left]
    exact plain digits

theorem ofText?_eq_some_iff {text : String} {n : Nat} :
    ofText? text = some n ↔ Writes text n ∧ n < 2 ^ 64 := by
  rw [ofText?, Option.filter_eq_some_iff, decide_eq_true_iff]
  refine and_congr_left' ?_
  rw [ofDigits?_eq_some_iff]
  constructor
  · intro numeral
    exact ⟨_, numeral, (withoutPlus_eq_iff numeral.signless).mp rfl⟩
  · rintro ⟨digits, numeral, spelled⟩
    rwa [(withoutPlus_eq_iff numeral.signless).mpr spelled]

end Natural

/-! ## Policies -/

namespace LimitPolicy

/-- The text names the policy: without the blanks around it, it is the word for it in any letter
case. -/
def NamedBy (policy : LimitPolicy) (text : String) : Prop :=
  ∃ name, Text.Stripped text.toList name ∧ name.map Char.toLower = policy.word.toList

theorem isPlain_of_mem_word (policy : LimitPolicy) :
    ∀ letter ∈ policy.word.toList, Text.IsPlain letter := by
  have plain : (policy.word.toList.all fun letter => decide (Text.IsPlain letter)) = true := by
    cases policy <;> decide +kernel
  exact fun letter mem => of_decide_eq_true (List.all_eq_true.mp plain letter mem)

theorem namedBy_iff {policy : LimitPolicy} {text : String} :
    policy.NamedBy text ↔ String.ofList (Text.lower (Text.trim text.toList)) = policy.word := by
  rw [← String.toList_inj, String.toList_ofList, Text.lower_eq_iff policy.isPlain_of_mem_word]
  simp only [NamedBy, ← Text.trim_eq_iff, exists_eq_left']

theorem parse_eq_ok_iff {policy : LimitPolicy} {text : String} :
    parse text = .ok policy ↔ policy.NamedBy text := by
  rw [namedBy_iff, parse]
  generalize String.ofList (Text.lower (Text.trim text.toList)) = lowered
  by_cases yields : lowered = "yield"
  · rw [if_pos yields, yields]
    cases policy <;> decide
  · by_cases fails : lowered = "fail"
    · rw [if_neg yields, if_pos fails, fails]
      cases policy <;> decide
    · rw [if_neg yields, if_neg fails]
      cases policy
      exacts [iff_of_false nofun yields, iff_of_false nofun fails]

theorem toOption_parse_eq_some_iff (text : String) (policy : LimitPolicy) :
    (parse text).toOption = some policy ↔ policy.NamedBy text := by
  rw [← parse_eq_ok_iff]
  cases parse text <;> simp [Except.toOption]

end LimitPolicy

/-! ## Configurations -/

/-- A setting that is read from a text, if there is one, has the value that the text gives, and the
default if it gives none. -/
theorem getD_bind_eq_iff {α β : Type} {read : α → Option β} {gives : α → β → Prop}
    (reads : ∀ text value, read text = some value ↔ gives text value) {given : Option α}
    {default value : β} :
    (given.bind read).getD default = value ↔
      (∃ text, given = some text ∧ gives text value) ∨
        value = default ∧ ¬ ∃ text other, given = some text ∧ gives text other := by
  have given_iff (value : β) : given.bind read = some value ↔
      ∃ text, given = some text ∧ gives text value := by
    rw [Option.bind_eq_some_iff]
    exact exists_congr fun text => and_congr_right' (reads text value)
  have none_iff : given.bind read = none ↔
      ¬ ∃ text other, given = some text ∧ gives text other := by
    rw [Option.eq_none_iff_forall_ne_some, exists_comm, not_exists]
    exact forall_congr' fun other => not_congr (given_iff other)
  rw [Option.getD_eq_iff, given_iff, none_iff, and_comm, eq_comm]

namespace Config

/-- The text gives the bound: it writes this number, which is positive and below 2^64. -/
def GivesBound (text : String) (n : Nat) : Prop := Natural.Writes text n ∧ 0 < n ∧ n < 2 ^ 64

theorem filter_ofText?_eq_some_iff (text : String) (n : Nat) :
    (Natural.ofText? text).filter (0 < ·) = some n ↔ GivesBound text n := by
  rw [Option.filter_eq_some_iff, Natural.ofText?_eq_some_iff, decide_eq_true_iff, GivesBound]
  exact ⟨fun ⟨⟨writes, small⟩, positive⟩ => ⟨writes, positive, small⟩,
    fun ⟨writes, positive, small⟩ => ⟨⟨writes, small⟩, positive⟩⟩

theorem maxIterations_ofTexts_eq_iff {bound policy : Option String} {n : Nat} :
    (ofTexts bound policy).maxIterations = n ↔
      (∃ text, bound = some text ∧ GivesBound text n) ∨
        n = 100 ∧ ¬ ∃ text other, bound = some text ∧ GivesBound text other := by
  have read : (bound.bind Natural.ofText?).filter (0 < ·) =
      bound.bind fun text => (Natural.ofText? text).filter (0 < ·) := by
    cases bound <;> rfl
  rw [ofTexts, read]
  exact getD_bind_eq_iff filter_ofText?_eq_some_iff

theorem onLimit_ofTexts_eq_iff {bound policy : Option String} {chosen : LimitPolicy} :
    (ofTexts bound policy).onLimit = chosen ↔
      (∃ text, policy = some text ∧ chosen.NamedBy text) ∨
        chosen = .yield ∧ ¬ ∃ text other, policy = some text ∧ LimitPolicy.NamedBy other text := by
  rw [ofTexts]
  exact getD_bind_eq_iff LimitPolicy.toOption_parse_eq_some_iff

/-- A configuration that is read from two optional texts has the bound that the first one gives, and
the policy that the second one names. A text that says nothing of the kind leaves the default, as
does a missing one, and neither text touches what the other one says. The bound is always one that a
text can give. -/
theorem ofTexts_exact (bound policy : Option String) :
    (∀ n, (ofTexts bound policy).maxIterations = n ↔
      (∃ text, bound = some text ∧ GivesBound text n) ∨
        n = 100 ∧ ¬ ∃ text other, bound = some text ∧ GivesBound text other) ∧
    (∀ chosen, (ofTexts bound policy).onLimit = chosen ↔
      (∃ text, policy = some text ∧ LimitPolicy.NamedBy chosen text) ∨
        chosen = .yield ∧ ¬ ∃ text other, policy = some text ∧ LimitPolicy.NamedBy other text) ∧
    (∀ other, (ofTexts bound other).maxIterations = (ofTexts bound policy).maxIterations) ∧
    (∀ other, (ofTexts other policy).onLimit = (ofTexts bound policy).onLimit) ∧
    0 < (ofTexts bound policy).maxIterations ∧ (ofTexts bound policy).maxIterations < 2 ^ 64 := by
  refine ⟨fun n => maxIterations_ofTexts_eq_iff, fun chosen => onLimit_ofTexts_eq_iff,
    fun other => rfl, fun other => rfl, ?_⟩
  rcases maxIterations_ofTexts_eq_iff.mp rfl with ⟨text, -, -, range⟩ | ⟨default, -⟩
  · exact range
  · rw [default]
    decide

/-- The first bound is the least number that is too large, and is not taken for zero. -/
example : ofTexts (some "18446744073709551616") (some " FAIL\t") = ⟨100, .fail⟩ ∧
    ofTexts (some "+007") (some "fail!") = ⟨7, .yield⟩ := by
  decide +kernel

end Config

end ResumableFlow
