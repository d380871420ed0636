import ResumableFlow.Text.Blank
import ResumableFlow.Text.LetterCase
import ResumableFlow.Text.Natural

/-!
# Configuration

How many transitions one call may take, and what happens when it has taken them. Both settings can
be given as texts; a text that says nothing usable leaves the default in force.
-/

namespace ResumableFlow

/-- What a call does when it has taken as many transitions as it may. -/
inductive LimitPolicy where
  /-- Hand back the state that was reached. -/
  | yield
  | fail
  deriving DecidableEq, Repr

/-- A text that names no policy, without the blanks around it and in lower case. -/
structure UnknownPolicy where
  text : String
  deriving DecidableEq, Repr

def UnknownPolicy.message (error : UnknownPolicy) : String :=
  "unknown iteration limit policy: " ++ error.text

namespace LimitPolicy

def word : LimitPolicy → String
  | yield => "yield"
  | fail => "fail"

/-- The policy that a text names, in any letter case and with blanks around it. -/
def parse (text : String) : Except UnknownPolicy LimitPolicy :=
  let lowered := String.ofList (Text.lower (Text.trim text.toList))
  if lowered = "yield" then .ok yield
  else if lowered = "fail" then .ok fail
  else .error ⟨lowered⟩

end LimitPolicy

/-- The settings of a flow. -/
structure Config where
  /-- The number of transitions that one call may take; zero counts as one. -/
  maxIterations : Nat := 100
  onLimit : LimitPolicy := .yield
  deriving DecidableEq, Repr

namespace Config

/-- The number of transitions that a call takes at most. -/
def bound (config : Config) : Nat := max config.maxIterations 1

theorem bound_pos (config : Config) : 0 < config.bound := Nat.le_max_right _ _

theorem bound_eq (config : Config) (h : 0 < config.maxIterations) :
    config.bound = config.maxIterations := Nat.max_eq_left h

/-- The configuration that two optional texts describe. A bound is a positive number below 2^64. -/
def ofTexts (maxIterations policy : Option String) : Config where
  maxIterations := ((maxIterations.bind Natural.ofText?).filter (0 < ·)).getD 100
  onLimit := (policy.bind fun text => (LimitPolicy.parse text).toOption).getD .yield

end Config

end ResumableFlow
