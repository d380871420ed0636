import ResumableFlow.Transition

/-!
# Scripted functions

A rehearsal runs a flow without the functions of a real caller. In their place stand scripts: lists
of outcomes that are played one after the other, the last one again and again. What is played is
noted in a journal, and outcomes can share integer variables.
-/

namespace ResumableFlow
namespace Rehearsal

/-- The context of a rehearsal. -/
structure Stage where
  /-- What was played, the latest first. -/
  journal : List String := []
  /-- How often each script was played. -/
  counts : List (String × Nat) := []
  values : List (String × Int) := []
  deriving Repr

namespace Stage

/-- The list with the value of `key` replaced, or added at the end. -/
def assign {α : Type} (key : String) (value : α) : List (String × α) → List (String × α)
  | [] => [(key, value)]
  | (k, v) :: rest => if k = key then (k, value) :: rest else (k, v) :: assign key value rest

def value (stage : Stage) (name : String) : Int := (stage.values.lookup name).getD 0

def setValue (stage : Stage) (name : String) (value : Int) : Stage :=
  { stage with values := assign name value stage.values }

def count (stage : Stage) (script : String) : Nat := (stage.counts.lookup script).getD 0

/-- Note that the script is played once more. -/
def note (stage : Stage) (script entry : String) : Stage :=
  { stage with
    journal := entry :: stage.journal
    counts := assign script (stage.count script + 1) stage.counts }

/-- What was played since an earlier stage, in order. -/
def playedSince (stage earlier : Stage) : List String :=
  (stage.journal.take (stage.journal.length - earlier.journal.length)).reverse

end Stage

/-- One step of an outcome. -/
inductive Cue where
  | add (name : String) (amount : Int)
  | set (name : String) (value : Int)
  /-- Fail if a variable is below a bound. -/
  | failBelow (name : String) (bound : Int)
  | fail (text : String)
  /-- Answer whether a variable has reached a bound. -/
  | atLeast (name : String) (bound : Int)
  /-- Answer whether a variable is below a bound. -/
  | below (name : String) (bound : Int)
  /-- Answer whether the error to be handled has this text. -/
  | handles (text : String)
  | answer (value : Bool)

/-- Play the steps of an outcome up to the first that answers or fails. Where none does, the answer
is `fallback`. -/
def perform (handled : Option String) (fallback : Bool) : List Cue → Callable Stage String Bool
  | [], stage => (.ok fallback, stage)
  | .add name amount :: cues, stage =>
    perform handled fallback cues (stage.setValue name (stage.value name + amount))
  | .set name value :: cues, stage =>
    perform handled fallback cues (stage.setValue name value)
  | .failBelow name bound :: cues, stage =>
    if stage.value name < bound then
      (.error (name ++ "=" ++ toString (stage.value name) ++ " is below " ++
        toString bound), stage)
    else perform handled fallback cues stage
  | .fail text :: _, stage => (.error text, stage)
  | .atLeast name bound :: _, stage => (.ok (decide (bound ≤ stage.value name)), stage)
  | .below name bound :: _, stage => (.ok (decide (stage.value name < bound)), stage)
  | .handles text :: _, stage => (.ok (handled == some text), stage)
  | .answer value :: _, stage => (.ok value, stage)

/-- A scripted function. Scripts with the same id advance together. -/
structure Script where
  id : String
  outcomes : List (List Cue) := []

namespace Script

/-- Play the script once. The `n`-th playing of an id takes the `n`-th outcome, or the last one when
there are fewer. -/
def play (script : Script) (handled : Option String) (fallback : Bool) :
    Callable Stage String Bool := fun stage =>
  let entry := match handled with
    | none => script.id
    | some text => script.id ++ "(" ++ text ++ ")"
  let turn := min (stage.count script.id) (script.outcomes.length - 1)
  perform handled fallback (script.outcomes[turn]?.getD []) (stage.note script.id entry)

def activity (script : Script) : Callable Stage String Unit :=
  (script.play none true).map fun _ => ()

def condition (script : Script) : Callable Stage String Bool := script.play none true

def handler (script : Script) : Handler Stage String := fun text => script.play (some text) false

end Script

end Rehearsal
end ResumableFlow
