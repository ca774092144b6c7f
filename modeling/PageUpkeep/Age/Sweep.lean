import PageUpkeep.Age.Label
import PageUpkeep.Age.Timestamp
import PageUpkeep.Document
import PageUpkeep.Event
import PageUpkeep.Settings

/-! A sweep over the age elements of a document.

The buckets are gone through finest first. Each is asked for its elements once, when its turn comes, so
an element that a finer bucket has passed on to it meanwhile is met again. The delay until the next
sweep is the shortest refresh of the buckets that were met with elements.
-/

set_option autoImplicit false

namespace PageUpkeep

/-- Makes an element show an age. Its text and its class are written only where they differ from what is
to be shown; the answer is whether anything was written. -/
def Document.showAge (document : Document) (handle : Handle) (age : UInt64) : Document × Bool :=
  let label := AgeLabel.ofAge age
  let staleText := document.text handle != label.text
  let written := if staleText then document.setText handle label.text else document
  let staleClass := written.className handle != label.className
  (if staleClass then written.setClassName handle label.className else written,
    staleText || staleClass)

def AgeSettings.timestampOf (settings : AgeSettings) (document : Document) (handle : Handle) :
    Except Event Timestamp :=
  let name := settings.timestampAttribute
  match document.attributeOf handle name with
  | none => .error (.labelWithoutTimestamp name)
  | some value =>
    match Timestamp.ofAttribute? value with
    | some timestamp => .ok timestamp
    | none => .error (.labelWithInvalidTimestamp name value)

/-- A sweep so far: the document as it stands, the delay, how many readable elements were met, how many
of them were written to, and what was reported. -/
structure Sweep where
  document : Document
  delay : UInt64 := AgeBucket.idleRefresh
  seen : Nat := 0
  updated : Nat := 0
  log : List Event := []
  deriving DecidableEq

namespace Sweep

def visit (settings : AgeSettings) (now : Timestamp) (sweep : Sweep) (handle : Handle) : Sweep :=
  match settings.timestampOf sweep.document handle with
  | .error event => { sweep with log := sweep.log ++ [event] }
  | .ok timestamp =>
    let shown := sweep.document.showAge handle (timestamp.age now)
    { sweep with
      document := shown.1
      seen := sweep.seen + 1
      updated := sweep.updated + if shown.2 then 1 else 0 }

def visitBucket (settings : AgeSettings) (now : Timestamp) (sweep : Sweep) (bucket : AgeBucket) : Sweep :=
  match sweep.document.elementsByClass bucket.className with
  | [] => sweep
  | handles => handles.foldl (visit settings now) { sweep with delay := min sweep.delay bucket.refresh }

def run (settings : AgeSettings) (now : Timestamp) (document : Document) : Sweep :=
  let swept := AgeBucket.table.foldl (visitBucket settings now) { document }
  { swept with log := swept.log ++ [.sweepDone swept.seen swept.updated swept.delay] }

end Sweep

end PageUpkeep
