import HieroRelay.Filters.FilterService

/-! The calls on one filter that may be uninstalled meanwhile: each call reads the entry of
the filter, asks the mirror node, and writes the entry back or deletes it, and the operations
of the calls interleave. -/

namespace HieroRelay.Filters

open HieroRelay.Lib

/-- The operations of a call: those of a poll, and the deletion of the entry. -/
inductive RemovalOp where
  | filterOp (op : FilterOp)
  | delete
  deriving Repr, DecidableEq

abbrev RemovalOp.Answer : RemovalOp → Type
  | .filterOp op => op.Answer
  | .delete => Unit

abbrev Removing (Result : Type) := ExceptT FilterError (Prog RemovalOp RemovalOp.Answer) Result

def perform (op : RemovalOp) : Removing op.Answer := ExceptT.lift (Prog.op op)

/-- A program that deletes nothing. -/
def undeleting {Result : Type} : Prog FilterOp FilterOp.Answer Result → Prog RemovalOp RemovalOp.Answer Result
  | .done result => .done result
  | .call op next => .call (.filterOp op) fun answer => undeleting (next answer)

namespace FilterService

variable (service : FilterService)

/-- The logs of a log filter, which is written back to refresh its time to live. -/
def getFilterLogs : Throwing (List Log) := do
  service.requireFiltersEnabled
  match ← await .getFilter with
  | some { params := .log params, lastQueried } =>
      let logs ← service.common.getLogs params.fromBlock params.toBlock params.address params.topics
      await (.setFilter { params := .log params, lastQueried })
      return logs
  | _ => throw .FILTER_NOT_FOUND

def uninstallFilter : Removing Bool := do
  if !service.filterApiEnabled then throw .UNSUPPORTED_METHOD
  match ← perform (.filterOp .getFilter) with
  | some _ =>
      perform .delete
      return true
  | none => return false

end FilterService

inductive FilterCall where
  | getFilterChanges
  | getFilterLogs
  | uninstallFilter
  deriving Repr, DecidableEq

inductive FilterReply where
  | changes (changes : List Change)
  | logs (logs : List Log)
  | uninstalled (existed : Bool)
  deriving Repr, DecidableEq

abbrev RemovalProgram := Prog RemovalOp RemovalOp.Answer (Except FilterError FilterReply)

namespace FilterCall

variable (service : FilterService)

def program : FilterCall → RemovalProgram
  | .getFilterChanges => undeleting (FilterReply.changes <$> service.getFilterChanges).run
  | .getFilterLogs => undeleting (FilterReply.logs <$> service.getFilterLogs).run
  | .uninstallFilter => (FilterReply.uninstalled <$> service.uninstallFilter).run

/-- The reply for a filter that is not there. -/
def unknownReply (call : FilterCall) : Except FilterError FilterReply :=
  if service.filterApiEnabled then
    match call with
    | .getFilterChanges | .getFilterLogs => .error .FILTER_NOT_FOUND
    | .uninstallFilter => .ok (.uninstalled false)
  else .error .UNSUPPORTED_METHOD

end FilterCall

/-- A call in progress; a late one was started after the filter was removed, when all calls
from before had finished. -/
structure RunningCall where
  call : FilterCall
  late : Bool
  program : RemovalProgram

structure FilterAnswer where
  call : FilterCall
  late : Bool
  reply : Except FilterError FilterReply

/-- The entry of the filter and the calls on it; and two records of the run: whether a call
has deleted the entry, and whether an uninstallation has returned true. -/
structure FilterEntry where
  filter : Option Filter
  running : List RunningCall
  answers : List FilterAnswer
  deleted : Bool
  removed : Bool

/-- The mirror node gives any answers to the queries of an operation. -/
inductive EntryLabel where
  | start (call : FilterCall)
  | operate (position : Nat) (mirror : (op : FilterOp) → op.Answer)
  | finish (position : Nat)
  | expire

namespace FilterEntry

def initial (filter : Option Filter) : FilterEntry where
  filter
  running := []
  answers := []
  deleted := false
  removed := false

def answerOf (entry : FilterEntry) (mirror : (op : FilterOp) → op.Answer) : (op : RemovalOp) → op.Answer
  | .filterOp .getFilter => entry.filter
  | .filterOp op => mirror op
  | .delete => ()

def record (entry : FilterEntry) : RemovalOp → FilterEntry
  | .filterOp (.setFilter filter) => { entry with filter := some filter }
  | .filterOp _ => entry
  | .delete => { entry with filter := none, deleted := true }

variable (service : FilterService)

def serve (entry : FilterEntry) : EntryLabel → Option FilterEntry
  | .start call =>
      some { entry with
        running := entry.running ++ [{ call
                                       late := entry.removed && entry.running.all RunningCall.late
                                       program := call.program service }] }
  | .operate position mirror =>
      match entry.running[position]? with
      | some { call, late, program := .call op next } =>
          some { entry.record op with
            running := entry.running.set position { call, late, program := next (entry.answerOf mirror op) } }
      | _ => none
  | .finish position =>
      match entry.running[position]? with
      | some { call, late, program := .done reply } =>
          some { entry with
            running := entry.running.eraseIdx position
            answers := entry.answers ++ [{ call, late, reply }]
            removed := entry.removed || decide (reply = .ok (.uninstalled true)) }
      | _ => none
  | .expire => some { entry with filter := none }

/-- Late calls are answered as for a filter that is not there. -/
def Permanent (entry : FilterEntry) : Prop :=
  ∀ answer ∈ entry.answers, answer.late = true → answer.reply = answer.call.unknownReply service

/-- A call has found the filter and is about to delete it. -/
def AwaitsDelete (entry : FilterEntry) : Prop :=
  ∃ running ∈ entry.running, ∃ next, running.program = .call .delete next

/-- The condition on a step: no call writes the filter back after its deletion, unless
another deletion is still to come. -/
def Unrevived (entry : FilterEntry) : EntryLabel → Prop
  | .operate position _ => ∀ call late filter next,
      entry.running[position]? = some { call, late, program := .call (.filterOp (.setFilter filter)) next } →
      entry.deleted = true → entry.AwaitsDelete
  | _ => True

end FilterEntry

end HieroRelay.Filters
