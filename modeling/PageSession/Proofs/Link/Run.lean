import PageSession.Link.Step

/-!
# Runs of a link

Whatever happens to a link is one of five actions: the page asks for a
connection, closes the link or sends a frame, time passes, or the supervisor
whose turn it is reacts to a stimulus.  A run is any list of them.

The queue, the journal and the supervisors are seen through small projections,
and each way to change a link has its effect on them stated here.
-/

namespace PageSession.Link

/-- One thing that happens to a link. -/
inductive Action where
  | connect
  | close
  | send (frame : String)
  | elapse (milliseconds : Nat)
  | react (stimulus : Stimulus)
deriving DecidableEq, Repr

/-- What an action makes of a link. -/
def perform (link : Link) : Action → Link
  | .connect => link.connect
  | .close => link.close
  | .send frame => link.send frame
  | .elapse milliseconds => link.elapse milliseconds
  | .react stimulus => link.step stimulus

/-- What a list of actions makes of a link. -/
def run (link : Link) (actions : List Action) : Link :=
  actions.foldl perform link

@[simp] theorem run_nil (link : Link) : link.run [] = link := rfl

@[simp] theorem run_cons (link : Link) (action : Action) (actions : List Action) :
    link.run (action :: actions) = (link.perform action).run actions := rfl

@[simp] theorem run_append (link : Link) (before after : List Action) :
    link.run (before ++ after) = (link.run before).run after :=
  List.foldl_append

/-- A run keeps what every action keeps. -/
theorem run_induction {motive : Link → Prop} {link : Link}
    (keeps : ∀ link action, motive link → motive (link.perform action))
    (begins : motive link) (actions : List Action) :
    motive (link.run actions) := by
  induction actions generalizing link with
  | nil => exact begins
  | cons action actions induction =>
      exact induction (keeps link action begins)

/-! ## Projections of the journal -/

/-- The frame of the queue that a report says was written. -/
def Report.writtenFrame? : Report → Option String
  | .wrote _ frame => some frame
  | _ => none

/-- The frames of the queue written so far, on whatever connections. -/
def written (link : Link) : List String :=
  link.journal.filterMap Report.writtenFrame?

section Report

variable (link : Link) (entry : Report)

@[simp] theorem plan_report : (link.report entry).plan = link.plan := rfl

@[simp] theorem now_report : (link.report entry).now = link.now := rfl

@[simp] theorem requested_report :
    (link.report entry).requested = link.requested := rfl

@[simp] theorem condition_report :
    (link.report entry).condition = link.condition := rfl

@[simp] theorem outbound_report :
    (link.report entry).outbound = link.outbound := rfl

@[simp] theorem idle_report : (link.report entry).idle = link.idle := rfl

@[simp] theorem sentSinceTick_report :
    (link.report entry).sentSinceTick = link.sentSinceTick := rfl

@[simp] theorem wakeUp_report : (link.report entry).wakeUp = link.wakeUp := rfl

@[simp] theorem supervisors_report :
    (link.report entry).supervisors = link.supervisors := rfl

@[simp] theorem opened_report : (link.report entry).opened = link.opened := rfl

@[simp] theorem journal_report :
    (link.report entry).journal = link.journal ++ [entry] := rfl

@[simp] theorem written_report :
    (link.report entry).written
      = link.written ++ entry.writtenFrame?.toList := by
  cases frame : entry.writtenFrame? <;> simp [written, frame]

end Report

end PageSession.Link
