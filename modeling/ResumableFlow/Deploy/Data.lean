import ResumableFlow.Json.Basic

/-!
# The data of a deployment

What the demonstration flow keeps between its calls: the instance it provisioned, four counters with
the bounds they run up to, and whether somebody is to be notified.
-/

namespace ResumableFlow

structure Deployment where
  machine : Option String := none
  readyChecks : UInt32 := 0
  uploadAttempts : UInt32 := 0
  /-- The attempt from which on uploads succeed. -/
  uploadSucceedsOn : UInt32 := 2
  batchesDone : UInt32 := 0
  batchesTotal : UInt32 := 3
  notify : Bool := true
  notified : Bool := false
  deriving DecidableEq, Repr

namespace Deployment

/-- The names of the stored fields, in order. -/
def fieldNames : List String :=
  ["instance", "ready_checks", "upload_attempts", "upload_succeeds_on", "batches_done",
    "batches_total", "notify", "notified"]

def counter (value : UInt32) : Json := .nat value.toNat

def toJson (data : Deployment) : Json :=
  .obj (fieldNames.zip
    [(data.machine.map Json.str).getD .null, counter data.readyChecks, counter data.uploadAttempts,
      counter data.uploadSucceedsOn, counter data.batchesDone, counter data.batchesTotal,
      .bool data.notify, .bool data.notified])

/-- Read stored data. A field that is left out has its default. -/
def ofJson? (value : Json) : Option Deployment := do
  match ← value.fields? fieldNames with
  | [machine, readyChecks, uploadAttempts, uploadSucceedsOn, batchesDone, batchesTotal, notify,
      notified] =>
    return {
      machine := ← Json.withDefault none Json.optionalText? machine
      readyChecks := ← Json.withDefault 0 Json.uint32? readyChecks
      uploadAttempts := ← Json.withDefault 0 Json.uint32? uploadAttempts
      uploadSucceedsOn := ← Json.withDefault 2 Json.uint32? uploadSucceedsOn
      batchesDone := ← Json.withDefault 0 Json.uint32? batchesDone
      batchesTotal := ← Json.withDefault 3 Json.uint32? batchesTotal
      notify := ← Json.withDefault true Json.bool? notify
      notified := ← Json.withDefault false Json.bool? notified }
  | _ => none

end Deployment

end ResumableFlow
