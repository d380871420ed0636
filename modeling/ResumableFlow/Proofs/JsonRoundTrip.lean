import Mathlib.Data.Nat.Digits.Defs
import ResumableFlow.Json.Parser
import ResumableFlow.Json.Printer

/-!
# Reading what was written

A written value is read back as it was (`Json.parse_pretty`), in any layout and with any texts in
it. The exception are values that no format of the library reads, since they are written as `null`.

The induction is on the value. What follows a value must not go on a number in it, and the step
count of the reader is paid for by the characters of the value.
-/

namespace ResumableFlow
namespace Json

/-! ## Texts -/

/-- The part that stands for a character: all that it leaves is to join it again. -/
def TextPart.StandsFor (part : TextPart) (c : Char) : Prop :=
  ∀ parts, joinParts (part :: parts) = (joinParts parts).map (c :: ·)

theorem TextPart.standsFor_unit {code : Nat} (low : code < 0x20) :
    (TextPart.unit code).StandsFor (Char.ofNat code) := by
  have high : isHighSurrogate code = false := by
    simp only [isHighSurrogate, Bool.and_eq_false_iff, decide_eq_false_iff_not]
    omega
  have notLow : isLowSurrogate code = false := by
    simp only [isLowSurrogate, Bool.and_eq_false_iff, decide_eq_false_iff_not]
    omega
  intro parts
  rcases parts with _ | ⟨_ | _, _⟩ <;> simp [joinParts, high, notLow]

theorem unit?_hexByte : ∀ code < 0x20,
    unit? '0' '0' (Nat.digitChar (code / 16)) (Nat.digitChar (code % 16)) = some code := by
  decide

theorem textParts_escape {letter c : Char} (escaped : escape? letter = some c)
    (short : letter ≠ 'u') (rest : List Char) :
    textParts ('\\' :: letter :: rest) =
      (textParts rest).map fun (parts, rest) => (.char c :: parts, rest) := by
  rw [textParts]
  · simp only [escaped, Option.bind_eq_bind, Option.bind_some]
    cases textParts rest <;> rfl
  · intro _ _ _ _ _ eq _
    exact short eq

theorem textParts_raw {c : Char} (quote : c ≠ '"') (backslash : c ≠ '\\')
    (printed : ¬c.toNat < 0x20) (rest : List Char) :
    textParts (c :: rest) =
      (textParts rest).map fun (parts, rest) => (.char c :: parts, rest) := by
  rw [textParts]
  · rw [if_neg printed]
  · exact quote
  · intro _ _ _ _ _ eq _
    exact backslash eq
  · intro _ _ eq _
    exact backslash eq

/-- The ways in which a character is written. -/
inductive WrittenAs (c : Char) : List Char → Prop
  | short {letter : Char} (escaped : escape? letter = some c) (short : letter ≠ 'u') :
    WrittenAs c ['\\', letter]
  | unit (control : c.toNat < 0x20) : WrittenAs c (['\\', 'u', '0', '0'] ++ hexByte c.toNat)
  | raw (quote : c ≠ '"') (backslash : c ≠ '\\') (printed : ¬c.toNat < 0x20) : WrittenAs c [c]

theorem writtenAs_escapedChar (c : Char) : WrittenAs c (escapedChar c) := by
  unfold escapedChar
  split_ifs with quote backslash backspace tab line page carriage control
  · exact .short (by rw [quote]; rfl) (by decide)
  · exact .short (by rw [backslash]; rfl) (by decide)
  · exact .short (by rw [backspace]; rfl) (by decide)
  · exact .short (by rw [tab]; rfl) (by decide)
  · exact .short (by rw [line]; rfl) (by decide)
  · exact .short (by rw [page]; rfl) (by decide)
  · exact .short (by rw [carriage]; rfl) (by decide)
  · exact .unit control
  · exact .raw quote backslash control

/-- A written character is read as one part. -/
theorem textParts_escapedChar (c : Char) : ∃ part : TextPart, part.StandsFor c ∧
    ∀ rest, textParts (escapedChar c ++ rest) =
      (textParts rest).map fun (parts, rest) => (part :: parts, rest) := by
  have written := writtenAs_escapedChar c
  generalize escapedChar c = chars at written
  cases written with
  | short escaped short => exact ⟨.char c, fun _ => rfl, textParts_escape escaped short⟩
  | unit control =>
    have standsFor := TextPart.standsFor_unit control
    rw [Char.ofNat_toNat] at standsFor
    refine ⟨.unit c.toNat, standsFor, fun rest => ?_⟩
    show textParts ('\\' :: 'u' :: '0' :: '0' :: _ :: _ :: rest) = _
    rw [textParts]
    simp only [unit?_hexByte _ control, Option.bind_eq_bind, Option.bind_some]
    cases textParts rest <;> rfl
  | raw quote backslash printed =>
    exact ⟨.char c, fun _ => rfl, textParts_raw quote backslash printed⟩

theorem textParts_flatMap_escapedChar (rest : List Char) : ∀ chars : List Char,
    ∃ parts, textParts (chars.flatMap escapedChar ++ '"' :: rest) = some (parts, rest) ∧
      joinParts parts = some chars
  | [] => ⟨[], by rw [List.flatMap_nil, List.nil_append, textParts], rfl⟩
  | c :: chars => by
    obtain ⟨parts, read, joined⟩ := textParts_flatMap_escapedChar rest chars
    obtain ⟨part, standsFor, readPart⟩ := textParts_escapedChar c
    refine ⟨part :: parts, ?_, ?_⟩
    · rw [List.flatMap_cons, List.append_assoc, readPart, read]
      rfl
    · rw [standsFor, joined]
      rfl

theorem readText_flatMap_escapedChar (text : String) (rest : List Char) :
    readText (text.toList.flatMap escapedChar ++ '"' :: rest) = some (some text, rest) := by
  obtain ⟨parts, read, joined⟩ := textParts_flatMap_escapedChar rest text.toList
  rw [readText, read, Option.map_some]
  simp only [joined, Option.map_some, String.ofList_toList]

/-! ## Numbers -/

/-- The text does not go on a number that stands before it. -/
def EndsNumber (text : List Char) : Prop :=
  ∀ c ∈ text.head?, c.isDigit = false ∧ c ≠ '.' ∧ c ≠ 'e' ∧ c ≠ 'E'

theorem endsNumber_nil : EndsNumber [] := by
  intro c mem
  cases mem

theorem endsNumber_cons {c : Char} {text : List Char}
    (h : c.isDigit = false ∧ c ≠ '.' ∧ c ≠ 'e' ∧ c ≠ 'E') : EndsNumber (c :: text) := by
  intro d mem
  obtain rfl := Option.mem_some_iff.mp mem
  exact h

theorem exists_toDigits_eq_cons (value : Nat) : ∃ digit more,
    Nat.toDigits 10 value = digit :: more ∧ digit.isDigit = true := by
  rcases written : Nat.toDigits 10 value with _ | ⟨digit, more⟩
  · exact absurd written Nat.toDigits_ne_nil
  · have mem : digit ∈ Nat.toDigits 10 value := by
      rw [written]
      exact List.mem_cons_self
    exact ⟨digit, more, rfl, Nat.isDigit_of_mem_toDigits (by decide) (by decide) mem⟩

/-- Only zero is written with a zero at the start. -/
theorem head?_toDigits_eq_zero (value : Nat) :
    (Nat.toDigits 10 value).head? = some '0' → value = 0 := by
  induction value using Nat.strongRecOn with
  | ind value ih =>
    intro zero
    rw [Nat.toDigits_eq_if (by decide)] at zero
    by_cases small : value < 10
    · rw [if_pos small, List.head?_cons] at zero
      have digits : ∀ digit < 10, some (Nat.digitChar digit) = some '0' → digit = 0 := by decide
      exact digits value small zero
    · rw [if_neg small, List.head?_append] at zero
      obtain ⟨digit, more, written, _⟩ := exists_toDigits_eq_cons (value / 10)
      rw [written] at zero
      have none := ih (value / 10) (by omega) (by rw [written]; exact zero)
      omega

section numbers

variable {rest : List Char}

theorem readDigits_toDigits (value : Nat) (ends : EndsNumber rest) :
    readDigits (Nat.toDigits 10 value ++ rest) = some (Nat.toDigits 10 value, rest) := by
  have digits : ∀ c ∈ Nat.toDigits 10 value, c.isDigit = true := fun c mem =>
    Nat.isDigit_of_mem_toDigits (by decide) (by decide) mem
  have stops : rest.takeWhile Char.isDigit = [] ∧ rest.dropWhile Char.isDigit = rest := by
    rcases rest with _ | ⟨c, rest⟩
    · exact ⟨rfl, rfl⟩
    · have notDigit := (ends c rfl).1
      simp [notDigit]
  rw [readDigits, List.takeWhile_append_of_pos digits, List.dropWhile_append_of_pos digits, stops.1,
    stops.2, List.append_nil]
  rcases written : Nat.toDigits 10 value with _ | ⟨digit, more⟩
  · exact absurd written Nat.toDigits_ne_nil
  · rfl

theorem skipFraction_of_endsNumber (ends : EndsNumber rest) : skipFraction rest = some rest := by
  unfold skipFraction
  split
  · exact absurd rfl (ends '.' rfl).2.1
  · rfl

theorem skipExponent_of_endsNumber (ends : EndsNumber rest) : skipExponent rest = some rest := by
  unfold skipExponent
  split
  · exact absurd rfl (ends 'e' rfl).2.2.1
  · exact absurd rfl (ends 'E' rfl).2.2.2
  · rfl

theorem readUnsigned_toDigits (value : Nat) (ends : EndsNumber rest) :
    readUnsigned (Nat.toDigits 10 value ++ rest) = some (nat value, rest) := by
  have alone :
      ¬((Nat.toDigits 10 value).head? = some '0' ∧ (Nat.toDigits 10 value).length ≠ 1) := by
    rintro ⟨zero, long⟩
    rw [head?_toDigits_eq_zero value zero] at long
    exact long rfl
  simp only [readUnsigned, readDigits_toDigits value ends, Option.bind_eq_bind, Option.bind_some,
    if_neg alone, skipFraction_of_endsNumber ends, skipExponent_of_endsNumber ends, if_true,
    Nat.ofDigitChars_ten_toDigits]
  rfl

end numbers

/-! ## Values -/

mutual

/-- Whether the value can be read in all its parts. -/
def isPlain : Json → Bool
  | arr items => arePlain items
  | obj members => arePlainMembers members
  | other => false
  | _ => true

def arePlain : List Json → Bool
  | [] => true
  | item :: items => item.isPlain && arePlain items

def arePlainMembers : List (String × Json) → Bool
  | [] => true
  | (_, value) :: members => value.isPlain && arePlainMembers members

end

mutual

/-- A number of steps in which the value can be read. -/
def steps : Json → Nat
  | arr items => itemSteps items + 1
  | obj members => memberSteps members + 1
  | _ => 1

def itemSteps : List Json → Nat
  | [] => 0
  | item :: items => item.steps + itemSteps items + 1

def memberSteps : List (String × Json) → Nat
  | [] => 0
  | (_, value) :: members => value.steps + memberSteps members + 1

end

mutual

/-- Each character pays for two steps. -/
theorem steps_le : ∀ (value : Json) (layout : Layout),
    value.steps ≤ 2 * (value.chars layout).length
  | null, _ => by simp [steps, chars]
  | bool true, _ => by simp [steps, chars]
  | bool false, _ => by simp [steps, chars]
  | nat value, _ => by
    have written : 0 < (Nat.toDigits 10 value).length := Nat.length_toDigits_pos
    simp only [steps, chars]
    omega
  | str text, _ => by
    simp only [steps, chars, textChars, List.length_cons, List.cons_append]
    omega
  | arr [], _ => by simp [steps, itemSteps, chars]
  | arr (item :: items), layout => by
    have head := steps_le item layout.inner
    have tail := itemSteps_le items layout.inner
    simp only [steps, itemSteps, chars, List.length_cons, List.length_append, List.cons_append]
    omega
  | obj [], _ => by simp [steps, memberSteps, chars]
  | obj ((name, value) :: members), layout => by
    have head := steps_le value layout.inner
    have tail := memberSteps_le members layout.inner
    simp only [steps, memberSteps, chars, List.length_cons, List.length_append, List.cons_append]
    omega
  | other, _ => by simp [steps, chars]

theorem itemSteps_le : ∀ (items : List Json) (layout : Layout),
    itemSteps items ≤ 2 * (itemChars layout items).length
  | [], _ => Nat.zero_le _
  | item :: items, layout => by
    have head := steps_le item layout
    have tail := itemSteps_le items layout
    simp only [itemSteps, itemChars, List.length_cons, List.length_append, List.cons_append]
    omega

theorem memberSteps_le : ∀ (members : List (String × Json)) (layout : Layout),
    memberSteps members ≤ 2 * (memberChars layout members).length
  | [], _ => Nat.zero_le _
  | (name, value) :: members, layout => by
    have head := steps_le value layout
    have tail := memberSteps_le members layout
    simp only [memberSteps, memberChars, List.length_cons, List.length_append, List.cons_append]
    omega

end

/-! ## Blanks -/

theorem skipBlanks_cons {c : Char}
    (h : (c == ' ' || c == '\n' || c == '\t' || c == '\r') = false) (rest : List Char) :
    skipBlanks (c :: rest) = c :: rest := by
  rw [skipBlanks, List.dropWhile_cons, h]
  rfl

@[simp] theorem skipBlanks_space (rest : List Char) : skipBlanks (' ' :: rest) = skipBlanks rest :=
  rfl

@[simp] theorem skipBlanks_gap (layout : Layout) (rest : List Char) :
    skipBlanks (layout.gap ++ rest) = skipBlanks rest := by
  cases layout with
  | compact => rfl
  | indented level =>
    show skipBlanks (List.replicate (2 * level) ' ' ++ rest) = _
    induction 2 * level with
    | zero => rfl
    | succ count ih => exact ih

theorem colon_inner (layout : Layout) : layout.inner.colon = layout.colon := by
  cases layout <;> rfl

/-- What a gap and a bracket follow ends there if it is a number. -/
theorem endsNumber_gap (layout : Layout) {c : Char} {rest : List Char}
    (h : c.isDigit = false ∧ c ≠ '.' ∧ c ≠ 'e' ∧ c ≠ 'E') :
    EndsNumber (layout.gap ++ c :: rest) := by
  cases layout with
  | compact => exact endsNumber_cons h
  | indented level => exact endsNumber_cons (by decide)

theorem readValue_congr {steps : Nat} {text other : List Char}
    (same : skipBlanks text = skipBlanks other) : readValue steps text = readValue steps other := by
  cases steps with
  | zero => rw [readValue, readValue]
  | succ steps => rw [readValue, readValue, same]

theorem readItems_congr {steps : Nat} {text other : List Char}
    (same : skipBlanks text = skipBlanks other) : readItems steps text = readItems steps other := by
  cases steps with
  | zero => rw [readItems, readItems]
  | succ steps => rw [readItems, readItems, readValue_congr same]

theorem readMembers_congr {steps : Nat} {text other : List Char}
    (same : skipBlanks text = skipBlanks other) :
    readMembers steps text = readMembers steps other := by
  cases steps with
  | zero => rw [readMembers, readMembers]
  | succ steps => rw [readMembers, readMembers, same]

/-! ## Reading values -/

/-- A written value begins with a character that is no blank and does not close an array. -/
theorem exists_chars_eq_cons (value : Json) (layout : Layout) : ∃ c rest,
    value.chars layout = c :: rest ∧
      (c == ' ' || c == '\n' || c == '\t' || c == '\r') = false ∧ c ≠ ']' := by
  cases value with
  | null => exact ⟨_, _, rfl, by decide, by decide⟩
  | bool value => cases value <;> exact ⟨_, _, rfl, by decide, by decide⟩
  | nat value =>
    obtain ⟨digit, more, written, isDigit⟩ := exists_toDigits_eq_cons value
    refine ⟨digit, more, by rw [chars, written], ?_, ?_⟩
    · simp only [Bool.or_eq_false_iff, beq_eq_false_iff_ne]
      refine ⟨⟨⟨?_, ?_⟩, ?_⟩, ?_⟩ <;> rintro rfl <;> cases isDigit
    · rintro rfl
      cases isDigit
  | str text => exact ⟨_, _, rfl, by decide, by decide⟩
  | arr items => cases items <;> exact ⟨_, _, rfl, by decide, by decide⟩
  | obj members => rcases members with _ | ⟨⟨_, _⟩, _⟩ <;> exact ⟨_, _, rfl, by decide, by decide⟩
  | other => exact ⟨_, _, rfl, by decide, by decide⟩

theorem skipBlanks_chars (value : Json) (layout : Layout) (rest : List Char) :
    skipBlanks (value.chars layout ++ rest) = value.chars layout ++ rest := by
  obtain ⟨c, more, written, printed, _⟩ := exists_chars_eq_cons value layout
  rw [written, List.cons_append, skipBlanks_cons printed]

theorem readValue_toDigits (value : Nat) {steps : Nat} {rest : List Char} (ends : EndsNumber rest) :
    readValue (steps + 1) (Nat.toDigits 10 value ++ rest) = some (nat value, rest) := by
  have number := readUnsigned_toDigits value ends
  have printed := skipBlanks_chars (.nat value) .compact rest
  rw [chars] at printed
  obtain ⟨digit, more, written, isDigit⟩ := exists_toDigits_eq_cons value
  rw [written, List.cons_append] at number printed ⊢
  rw [readValue, printed]
  -- No digit begins a value of another kind.
  have other : ∀ {c : Char}, c.isDigit = false → digit ≠ c := by
    rintro c notDigit rfl
    rw [isDigit] at notDigit
    cases notDigit
  split <;> rename_i eq
  · exact absurd (List.head_eq_of_cons_eq eq) (other (by decide))
  · exact absurd (List.head_eq_of_cons_eq eq) (other (by decide))
  · exact absurd (List.head_eq_of_cons_eq eq) (other (by decide))
  · exact absurd (List.head_eq_of_cons_eq eq) (other (by decide))
  · exact absurd (List.head_eq_of_cons_eq eq) (other (by decide))
  · exact absurd (List.head_eq_of_cons_eq eq) (other (by decide))
  · rw [readNumber.eq_def]
    split
    · rename_i eq
      exact absurd (List.head_eq_of_cons_eq eq) (other (by decide))
    · exact number

/-- An array that does not close at once is read item by item. -/
theorem readValue_bracket (steps : Nat) {text rest : List Char} {c : Char}
    (begins : skipBlanks text = c :: rest) (again : skipBlanks (c :: rest) = c :: rest)
    (goesOn : c ≠ ']') :
    readValue (steps + 1) ('[' :: text) =
      (readItems steps text).map fun (items, rest) => (arr items, rest) := by
  have opened : skipBlanks ('[' :: text) = '[' :: text := skipBlanks_cons (by decide) text
  rw [readValue, opened]
  simp only [begins]
  split
  · rename_i eq
    exact absurd (List.head_eq_of_cons_eq eq) goesOn
  · rw [readItems_congr (again.trans begins.symm)]

theorem skipBlanks_textChars (name : String) (rest : List Char) :
    skipBlanks (textChars name ++ rest) =
      '"' :: (name.toList.flatMap escapedChar ++ '"' :: rest) := by
  have text : textChars name ++ rest = '"' :: (name.toList.flatMap escapedChar ++ '"' :: rest) := by
    simp only [textChars, List.cons_append, List.append_assoc, List.nil_append]
  rw [text, skipBlanks_cons (by decide)]

/-- An object that does not close at once is read member by member. -/
theorem readValue_brace (steps : Nat) {text rest : List Char}
    (begins : skipBlanks text = '"' :: rest) :
    readValue (steps + 1) ('{' :: text) =
      (readMembers steps text).map fun (members, rest) => (ofMembers members, rest) := by
  have again : skipBlanks ('"' :: rest) = skipBlanks text := by
    rw [begins, skipBlanks_cons (by decide)]
  have opened : skipBlanks ('{' :: text) = '{' :: text := skipBlanks_cons (by decide) text
  rw [readValue, opened]
  simp only [begins]
  split
  · rename_i eq
    exact absurd (List.head_eq_of_cons_eq eq) (by decide)
  · rw [readMembers_congr again]

/-- The name of a member is read, and then its value. -/
theorem readMembers_textChars (steps : Nat) (name : String) (layout : Layout) (text : List Char) :
    readMembers (steps + 1) (textChars name ++ (layout.colon ++ text)) = (do
      let (value, rest) ← readValue steps text
      match skipBlanks rest with
      | ',' :: rest =>
        let (members, rest) ← readMembers steps rest
        return ((some name, value) :: members, rest)
      | '}' :: rest => return ([(some name, value)], rest)
      | _ => none) := by
  rw [readMembers, skipBlanks_textChars]
  simp only [readText_flatMap_escapedChar, Option.bind_eq_bind, Option.bind_some]
  cases layout with
  | compact => rfl
  | indented level =>
    exact congrArg (Option.bind · _) (readValue_congr (skipBlanks_space text))

theorem ofMembers_map (members : List (String × Json)) :
    ofMembers (members.map fun member => (some member.1, member.2)) = obj members := by
  have each : ∀ read : Option String × Json → Option (String × Json),
      (∀ name value, read (some name, value) = some (name, value)) →
      (members.map fun member => (some member.1, member.2)).mapM read = some members := by
    intro read reads
    induction members with
    | nil => rfl
    | cons member members ih => rw [List.map_cons, List.mapM_cons, reads, ih]; rfl
  rw [ofMembers, each _ fun _ _ => rfl]

theorem steps_pos (value : Json) : 0 < value.steps := by
  cases value <;> simp only [steps] <;> omega

/-- What follows an item of an array in the text. -/
theorem endsNumber_itemChars (items : List Json) (layout around : Layout) (rest : List Char) :
    EndsNumber (itemChars layout items ++ (around.gap ++ ']' :: rest)) := by
  cases items with
  | nil => exact endsNumber_gap around (by decide)
  | cons item items => exact endsNumber_cons (by decide)

theorem endsNumber_memberChars (members : List (String × Json)) (layout around : Layout)
    (rest : List Char) :
    EndsNumber (memberChars layout members ++ (around.gap ++ '}' :: rest)) := by
  cases members with
  | nil => exact endsNumber_gap around (by decide)
  | cons member members => exact endsNumber_cons (by decide)

mutual

theorem readValue_chars : ∀ (value : Json) (layout : Layout) {steps : Nat} {rest : List Char},
    value.isPlain = true → value.steps ≤ steps → EndsNumber rest →
    readValue steps (value.chars layout ++ rest) = some (value, rest)
  | value, _, 0, _, _, enough, _ => absurd value.steps_pos (Nat.not_lt_of_le enough)
  | null, _, steps + 1, _, _, _, _ => rfl
  | bool true, _, steps + 1, _, _, _, _ => rfl
  | bool false, _, steps + 1, _, _, _, _ => rfl
  | nat value, _, steps + 1, _, _, _, ends => readValue_toDigits value ends
  | str text, _, steps + 1, rest, _, _, _ => by
    rw [chars, textChars, readValue]
    show (readText (_ ++ ['"'] ++ rest)).map _ = _
    rw [List.append_assoc, List.singleton_append, readText_flatMap_escapedChar]
    rfl
  | arr [], _, steps + 1, _, _, _, _ => rfl
  | arr (item :: items), layout, steps + 1, rest, plain, enough, _ => by
    obtain ⟨c, more, written, printed, goesOn⟩ := exists_chars_eq_cons item layout.inner
    have inside := readItems_chars item items layout.inner layout rest plain
      (Nat.le_of_succ_le_succ enough)
    have text : (arr (item :: items)).chars layout ++ rest = '[' :: (layout.inner.gap ++
        (item.chars layout.inner ++
          (itemChars layout.inner items ++ (layout.gap ++ ']' :: rest)))) := by
      simp only [chars, List.cons_append, List.append_assoc, List.nil_append]
    rw [written, List.cons_append] at text inside
    rw [text, readValue_bracket steps ((skipBlanks_gap _ _).trans (skipBlanks_cons printed _))
      (skipBlanks_cons printed _) goesOn, readItems_congr (skipBlanks_gap _ _), inside]
    rfl
  | obj [], _, steps + 1, _, _, _, _ => rfl
  | obj ((name, value) :: members), layout, steps + 1, rest, plain, enough, _ => by
    have inside := readMembers_chars name value members layout.inner layout rest plain
      (Nat.le_of_succ_le_succ enough)
    have text : (obj ((name, value) :: members)).chars layout ++ rest = '{' :: (layout.inner.gap ++
        (textChars name ++ (layout.inner.colon ++ (value.chars layout.inner ++
          (memberChars layout.inner members ++ (layout.gap ++ '}' :: rest)))))) := by
      simp only [chars, colon_inner, List.cons_append, List.append_assoc, List.nil_append]
    rw [text, readValue_brace steps ((skipBlanks_gap _ _).trans (skipBlanks_textChars name _)),
      readMembers_congr (skipBlanks_gap _ _), inside, Option.map_some]
    simp only [ofMembers_map]

/-- The items up to the closing bracket, which stands after the gap of the layout around them. -/
theorem readItems_chars : ∀ (item : Json) (items : List Json) (layout around : Layout)
    (rest : List Char) {steps : Nat}, arePlain (item :: items) = true →
    itemSteps (item :: items) ≤ steps →
    readItems steps (item.chars layout ++ (itemChars layout items ++ (around.gap ++ ']' :: rest))) =
      some (item :: items, rest)
  | item, items, _, _, _, 0, _, enough => absurd enough (Nat.not_succ_le_zero _)
  | item, items, layout, around, rest, steps + 1, plain, enough => by
    rw [arePlain, Bool.and_eq_true] at plain
    have within : item.steps + itemSteps items ≤ steps := Nat.le_of_succ_le_succ enough
    rw [readItems, readValue_chars item layout plain.1 (Nat.le_of_add_right_le within)
      (endsNumber_itemChars items layout around rest)]
    simp only [Option.bind_eq_bind, Option.bind_some]
    match items, plain.2, within with
    | [], _, _ =>
      rw [itemChars, List.nil_append, skipBlanks_gap, skipBlanks_cons (by decide)]
      rfl
    | next :: items, plainRest, within =>
      have others := readItems_chars next items layout around rest plainRest
        (Nat.le_of_add_left_le within)
      have text : itemChars layout (next :: items) ++ (around.gap ++ ']' :: rest) =
          ',' :: (layout.gap ++ (next.chars layout ++
            (itemChars layout items ++ (around.gap ++ ']' :: rest)))) := by
        simp only [itemChars, List.cons_append, List.append_assoc]
      rw [text, skipBlanks_cons (by decide)]
      simp only [readItems_congr (skipBlanks_gap layout _), others, Option.bind_some]
      rfl

/-- The members up to the closing brace, which stands after the gap of the layout around them. -/
theorem readMembers_chars : ∀ (name : String) (value : Json) (members : List (String × Json))
    (layout around : Layout) (rest : List Char) {steps : Nat},
    arePlainMembers ((name, value) :: members) = true →
    memberSteps ((name, value) :: members) ≤ steps →
    readMembers steps (textChars name ++ (layout.colon ++ (value.chars layout ++
      (memberChars layout members ++ (around.gap ++ '}' :: rest))))) =
      some (((name, value) :: members).map fun member => (some member.1, member.2), rest)
  | _, _, _, _, _, _, 0, _, enough => absurd enough (Nat.not_succ_le_zero _)
  | name, value, members, layout, around, rest, steps + 1, plain, enough => by
    rw [arePlainMembers, Bool.and_eq_true] at plain
    have within : value.steps + memberSteps members ≤ steps := Nat.le_of_succ_le_succ enough
    rw [readMembers_textChars, readValue_chars value layout plain.1
      (Nat.le_of_add_right_le within) (endsNumber_memberChars members layout around rest)]
    simp only [Option.bind_eq_bind, Option.bind_some]
    match members, plain.2, within with
    | [], _, _ =>
      rw [memberChars, List.nil_append, skipBlanks_gap, skipBlanks_cons (by decide)]
      rfl
    | (next, nextValue) :: members, plainRest, within =>
      have others := readMembers_chars next nextValue members layout around rest plainRest
        (Nat.le_of_add_left_le within)
      have text : memberChars layout ((next, nextValue) :: members) ++ (around.gap ++ '}' :: rest) =
          ',' :: (layout.gap ++ (textChars next ++ (layout.colon ++ (nextValue.chars layout ++
            (memberChars layout members ++ (around.gap ++ '}' :: rest)))))) := by
        simp only [memberChars, List.cons_append, List.append_assoc]
      rw [text, skipBlanks_cons (by decide)]
      simp only [readMembers_congr (skipBlanks_gap layout _), others, Option.bind_some]
      rfl

end

/-- A written value is read back, in any layout. -/
theorem parse_chars (value : Json) (layout : Layout) (plain : value.isPlain = true) :
    parse (String.ofList (value.chars layout)) = some value := by
  have enough := steps_le value layout
  have read := readValue_chars value layout plain (Nat.le_succ_of_le enough) endsNumber_nil
  rw [List.append_nil] at read
  simp only [parse, String.toList_ofList, read]
  rfl

theorem parse_pretty (value : Json) (plain : value.isPlain = true) :
    parse value.pretty = some value := parse_chars value (.indented 0) plain

end Json
end ResumableFlow
