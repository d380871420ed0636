import ResumableFlow.Flow

/-!
# Summaries

One-line summaries of configurations, tables and flows for logs and debugging.
-/

namespace ResumableFlow

/-- A named record in a summary: its fields between braces. -/
def summaryRecord (name : String) (fields : List (String × String)) : String :=
  name ++ " \x7b " ++ ", ".intercalate (fields.map fun (field, value) => field ++ ": " ++ value) ++
    " \x7d"

def LimitPolicy.summary : LimitPolicy → String
  | yield => "Yield"
  | fail => "Fail"

def Config.summary (config : Config) : String :=
  summaryRecord "StepFlowConfig"
    [("max_iterations", toString config.maxIterations),
      ("on_iteration_limit", config.onLimit.summary)]

variable {σ ε : Type}

/-- A table is summed up by the ids of its sources, in order. -/
def Table.summary (table : Table σ ε) : String :=
  let sources := table.transitions.map fun transition => Text.quoted transition.source.id
  summaryRecord "TransitionTable" [("sources", "[" ++ ", ".intercalate sources ++ "]")]

def Flow.summary (flow : Flow σ ε) : String :=
  summaryRecord "StepFlow"
    [("scope", Text.quoted flow.scope.path), ("transitions", toString flow.table.length),
      ("config", flow.config.summary)]

end ResumableFlow
