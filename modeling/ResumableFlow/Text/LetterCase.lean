import ResumableFlow.Text.LetterCase.Table

/-!
# Lower case

The full lower case of a text, independent of any language. Two characters need more than the table
of runs: the dotted capital I becomes an i and a combining dot, and the capital sigma becomes the
final form at the end of a word.
-/

namespace ResumableFlow
namespace Text

def isCased (c : Char) : Bool := casedRanges.holds c

def isCaseIgnorable (c : Char) : Bool := caseIgnorableRanges.holds c

/-- The lower case of a character on its own. -/
def lowerChar (c : Char) : List Char :=
  if c = 'İ' then ['i', '\u0307']
  else
    match caseRuns.find? (·.holds c.toNat) with
    | some run => [Char.ofNat (c.toNat + run.shift).toNat]
    | none => [c]

/-- Whether a cased character comes first, once the characters that letter case looks through are
skipped. -/
def meetsCased (text : List Char) : Bool :=
  match text.dropWhile isCaseIgnorable with
  | [] => false
  | c :: _ => isCased c

/-- The lower case of a text that follows `before`, which is given last character first. A sigma is
final when a cased character stands before it and none after it. -/
def lowerAfter (before : List Char) : List Char → List Char
  | [] => []
  | c :: after =>
    let lowered :=
      if c = 'Σ' then [if meetsCased before && !meetsCased after then 'ς' else 'σ']
      else lowerChar c
    lowered ++ lowerAfter (c :: before) after

def lower (text : List Char) : List Char := lowerAfter [] text

end Text
end ResumableFlow
