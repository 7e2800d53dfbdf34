import RankedSearch.Stage

/-! What a session does about the stages it hears of. Every reported stage is taken over as it is;
each action is guarded by a latch of its own, so repeated, late and reordered reports never repeat a
call. A timer asks for training if data collection never reports; it is disarmed as soon as it is no
longer needed. -/

namespace RankedSearch.Session

inductive Trigger
  | stageReported (stage : Stage)
  /-- The deadline for data collection has passed. -/
  | deadlinePassed
deriving DecidableEq, Repr

inductive Action
  | beginTraining
  | beginRanking
  | fetchFirstPage
deriving DecidableEq, Repr

structure Lifecycle where
  stage : Stage := .dataCollecting
  trainingFired : Bool := false
  rankingFired : Bool := false
  firstPageFired : Bool := false
  timerArmed : Bool := true
deriving DecidableEq, Repr

namespace Lifecycle

def disarm (l : Lifecycle) : Lifecycle := { l with timerArmed := false }

def fireTraining (l : Lifecycle) : Lifecycle × Option Action :=
  if l.trainingFired then (l.disarm, none)
  else ({ l.disarm with trainingFired := true }, some .beginTraining)

/-- Takes a reported stage over. Past data collection the timer has nothing left to do. -/
def report (l : Lifecycle) (stage : Stage) : Lifecycle × Option Action :=
  let l : Lifecycle :=
    { l with stage, timerArmed := l.timerArmed && decide (stage ≤ .dataCollectionComplete) }
  match stage with
  | .dataCollectionComplete => l.fireTraining
  | .trained =>
    if l.rankingFired then (l, none)
    else ({ l with rankingFired := true }, some .beginRanking)
  | .ranked =>
    if l.firstPageFired then (l, none)
    else ({ l with firstPageFired := true }, some .fetchFirstPage)
  | _ => (l, none)

def passDeadline (l : Lifecycle) : Lifecycle × Option Action :=
  if l.timerArmed then
    if l.stage ≤ .dataCollectionComplete then l.fireTraining else (l.disarm, none)
  else (l, none)

def apply (l : Lifecycle) : Trigger → Lifecycle × Option Action
  | .stageReported stage => l.report stage
  | .deadlinePassed => l.passDeadline

end Lifecycle

end RankedSearch.Session
