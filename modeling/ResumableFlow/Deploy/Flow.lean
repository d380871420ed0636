import ResumableFlow.Deploy.Data
import ResumableFlow.Flow
import ResumableFlow.Item.Steps

/-!
# The deployment flow

The demonstration flow uses every kind of item: it provisions an instance, waits for it, uploads
with up to three attempts, works through batches and notifies somebody if that is wanted.
-/

namespace ResumableFlow
namespace Deployment

/-- The number of checks after which an instance is ready. -/
def readyAfter : UInt32 := 2

/-- The number of uploads that may be attempted. -/
def maxAttempts : UInt32 := 3

def provision : Callable Deployment String Unit := fun data =>
  (.ok (), { data with machine := some "deploy-instance" })

def isReady : Callable Deployment String Bool := fun data =>
  let data := { data with readyChecks := data.readyChecks + 1 }
  (.ok (decide (readyAfter ≤ data.readyChecks)), data)

def upload : Callable Deployment String Unit := fun data =>
  let data := { data with uploadAttempts := data.uploadAttempts + 1 }
  if data.uploadAttempts < data.uploadSucceedsOn then
    (.error "connection reset during upload", data)
  else (.ok (), data)

/-- A failed upload is tried again while attempts are left. -/
def retryUpload : Handler Deployment String := fun _ data =>
  (.ok (decide (data.uploadAttempts < maxAttempts)), data)

def processBatch : Callable Deployment String Unit := fun data =>
  (.ok (), { data with batchesDone := data.batchesDone + 1 })

def isDrained : Callable Deployment String Bool := fun data =>
  (.ok (decide (data.batchesTotal ≤ data.batchesDone)), data)

def wantsNotification : Callable Deployment String Bool := fun data => (.ok data.notify, data)

def send : Callable Deployment String Unit := fun data => (.ok (), { data with notified := true })

def item : Item Deployment String :=
  Steps.empty
    |>.step "provision" provision
    |>.waitFor "ready" isReady
    |>.retry "upload" retryUpload (Steps.empty.step "put" upload)
    |>.loopUntil "drain" isDrained (Steps.empty.step "batch" processBatch)
    |>.gate "notify" wantsNotification (Steps.empty.step "send" send)
    |>.build "deploy"

def flow (config : Config) : Except (FlowError String) (Flow Deployment String) :=
  Flow.compile item config

end Deployment
end ResumableFlow
