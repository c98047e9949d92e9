import HieroRelay.Filters.FilterRemoval

/-! The removal of a filter is permanent as long as no call writes the filter back after it. -/

namespace HieroRelay.Filters

open HieroRelay.Lib

/-- No result of the program tells of a removal that it has not performed. -/
def DeletesFirst : RemovalProgram → Prop
  | .done reply => reply ≠ .ok (.uninstalled true)
  | .call .delete _ => True
  | .call (.filterOp op) next => ∀ answer : op.Answer, DeletesFirst (next answer)

/-- A call that deletes nothing replies something else. -/
theorem deletesFirst_undeleting {Result : Type} (reply : Result → FilterReply)
    (other : ∀ result, reply result ≠ .uninstalled true) (program : Throwing Result) :
    DeletesFirst (undeleting (reply <$> program).run) := by
  rw [ExceptT.run_map]
  generalize program.run = running
  induction running with
  | done result =>
    cases result with
    | ok result => exact fun same => other result (Except.ok.inj same)
    | error error => exact fun same => nomatch same
  | call op next ih => exact ih

private theorem deletesFirst_program (service : FilterService) (call : FilterCall) : DeletesFirst
    (call.program service) := by
  cases call with
  | getFilterChanges => exact deletesFirst_undeleting FilterReply.changes (fun _ => nofun) _
  | getFilterLogs => exact deletesFirst_undeleting FilterReply.logs (fun _ => nofun) _
  | uninstallFilter =>
    obtain ⟨common, enabled⟩ := service
    cases enabled with
    | false => exact fun same => nomatch same
    | true =>
      intro found
      cases found with
      | none => exact fun same => nomatch same
      | some filter => trivial

/-- A call reads the entry first, and it ends when the entry is not there. -/
theorem program_cases (service : FilterService) (call : FilterCall) :
    call.program service = .done (call.unknownReply service) ∨
      ∃ next, call.program service = .call (.filterOp .getFilter) next ∧
        next none = .done (call.unknownReply service) := by
  obtain ⟨common, enabled⟩ := service
  cases enabled with
  | false =>
    left
    cases call <;> rfl
  | true =>
    right
    cases call <;> exact ⟨_, rfl, rfl⟩

namespace FilterEntry

/-- A late call is where it started, or it has its reply. -/
def LateProgram (service : FilterService) (running : RunningCall) : Prop :=
  running.program = running.call.program service ∨ running.program = .done (running.call.unknownReply service)

/-- What holds in every run under the condition. -/
structure Consistent (service : FilterService) (entry : FilterEntry) : Prop where
  gone : entry.deleted = true → entry.filter = none ∨ entry.AwaitsDelete
  silent : entry.deleted = false → ∀ running ∈ entry.running, DeletesFirst running.program
  removed : entry.removed = true → entry.deleted = true
  late : ∀ running ∈ entry.running, running.late = true →
    entry.removed = true ∧ LateProgram service running ∧ ∀ other ∈ entry.running, other.late = true
  answers : entry.Permanent service

variable {service : FilterService} {entry before after : FilterEntry} {label : EntryLabel} {position : Nat}
  {mirror : (op : FilterOp) → op.Answer}

theorem consistent_initial (filter : Option Filter) : Consistent service (initial filter) where
  gone := nofun
  silent := nofun
  removed := nofun
  late := nofun
  answers := nofun

theorem LateProgram.not_delete {running : RunningCall} (late : LateProgram service running)
    {next : Unit → RemovalProgram} : running.program ≠ .call .delete next := by
  rcases late with start | done
  · rw [start]
    rcases program_cases service running.call with disabled | ⟨_, reads, _⟩
    · simp [disabled]
    · simp [reads]
  · simp [done]

/-- While a late call is in progress, the filter is not there. -/
theorem Consistent.filter_of_late (consistent : entry.Consistent service) {running : RunningCall}
    (member : running ∈ entry.running) (late : running.late = true) : entry.filter = none := by
  obtain ⟨removed, _, all⟩ := consistent.late running member late
  rcases consistent.gone (consistent.removed removed) with gone | ⟨other, there, next, awaits⟩
  · exact gone
  · obtain ⟨_, started, _⟩ := consistent.late other there (all other there)
    exact absurd awaits started.not_delete

/-- An operation of one call leaves the others that are about to delete. -/
theorem mem_set_of_ne {running other new : RunningCall} {items : List RunningCall}
    (found : items[position]? = some running) (member : other ∈ items) (different : other ≠ running) :
    other ∈ items.set position new := by
  obtain ⟨index, there⟩ := List.mem_iff_getElem?.mp member
  apply List.mem_iff_getElem?.mpr
  refine ⟨index, ?_⟩
  rw [List.getElem?_set_ne]
  · exact there
  · rintro rfl
    exact different (Option.some.inj (there.symm.trans found))

private theorem mem_eraseIdx_of_ne {running other : RunningCall} {items : List RunningCall}
    (found : items[position]? = some running) (member : other ∈ items) (different : other ≠ running) :
    other ∈ items.eraseIdx position := by
  obtain ⟨index, there⟩ := List.mem_iff_getElem?.mp member
  apply List.mem_eraseIdx_iff_getElem?.mpr
  refine ⟨index, ?_, there⟩
  rintro rfl
  exact different (Option.some.inj (there.symm.trans found))

theorem Consistent.start (consistent : before.Consistent service) (call : FilterCall) :
    Consistent service { before with
      running := before.running ++ [{ call
                                      late := before.removed && before.running.all RunningCall.late
                                      program := call.program service }] } where
  gone := by
    intro deleted
    rcases consistent.gone deleted with gone | ⟨running, member, awaits⟩
    · exact .inl gone
    · exact .inr ⟨running, List.mem_append_left _ member, awaits⟩
  silent := by
    intro kept running member
    rcases List.mem_append.mp member with old | new
    · exact consistent.silent kept running old
    · obtain rfl := List.mem_singleton.mp new
      exact deletesFirst_program service call
  removed := consistent.removed
  late := by
    intro running member late
    have all : before.removed = true ∧ ∀ other ∈ before.running, other.late = true := by
      rcases List.mem_append.mp member with old | new
      · obtain ⟨removed, _, others⟩ := consistent.late running old late
        exact ⟨removed, others⟩
      · obtain rfl := List.mem_singleton.mp new
        simpa using late
    refine ⟨all.1, ?_, ?_⟩
    · rcases List.mem_append.mp member with old | new
      · exact (consistent.late running old late).2.1
      · obtain rfl := List.mem_singleton.mp new
        exact .inl rfl
    · intro other there
      rcases List.mem_append.mp there with old | new
      · exact all.2 other old
      · obtain rfl := List.mem_singleton.mp new
        simpa using all
  answers := consistent.answers

/-- The next program of a late call. -/
theorem Consistent.late_next {call : FilterCall} {late : Bool} {op : RemovalOp} {next : op.Answer → RemovalProgram}
    (consistent : before.Consistent service)
    (found : before.running[position]? = some { call, late, program := .call op next }) (started : late = true) :
    next (before.answerOf mirror op) = .done (call.unknownReply service) := by
  have member := List.mem_of_getElem? found
  have gone := consistent.filter_of_late member started
  obtain ⟨_, program, _⟩ := consistent.late _ member started
  rcases program with start | done
  · rcases program_cases service call with disabled | ⟨follow, reads, ends⟩
    · exact nomatch start.trans disabled
    · cases start.trans reads
      exact (congrArg follow gone).trans ends
  · exact nomatch done

/-- A deletion of another call is still to come after an operation. -/
theorem AwaitsDelete.set {running new : RunningCall} (awaits : before.AwaitsDelete)
    (found : before.running[position]? = some running) (other : ∀ next, running.program ≠ .call .delete next) :
    ∃ running ∈ before.running.set position new, ∃ next, running.program = .call .delete next := by
  obtain ⟨awaiting, member, next, deletes⟩ := awaits
  refine ⟨awaiting, mem_set_of_ne found member ?_, next, deletes⟩
  rintro rfl
  exact other next deletes

@[simp] theorem record_removed (entry : FilterEntry) (op : RemovalOp) : (entry.record op).removed = entry.removed := by
  unfold record
  split <;> rfl

@[simp] theorem record_answers (entry : FilterEntry) (op : RemovalOp) : (entry.record op).answers = entry.answers := by
  unfold record
  split <;> rfl

theorem deleted_record (deleted : entry.deleted = true) (op : RemovalOp) : (entry.record op).deleted = true := by
  unfold record
  split
  · exact deleted
  · exact deleted
  · rfl

/-- An operation deletes the entry, writes it, or leaves it alone. -/
theorem record_cases (entry : FilterEntry) (op : RemovalOp) :
    op = .delete ∨ (∃ filter, op = .filterOp (.setFilter filter)) ∨ entry.record op = entry := by
  unfold record
  split
  · exact .inr (.inl ⟨_, rfl⟩)
  · exact .inr (.inr rfl)
  · exact .inl rfl

theorem Consistent.operate {call : FilterCall} {late : Bool} {op : RemovalOp} {next : op.Answer → RemovalProgram}
    (consistent : before.Consistent service)
    (found : before.running[position]? = some { call, late, program := .call op next })
    (unrevived : before.Unrevived (.operate position mirror)) :
    Consistent service { before.record op with
      running := before.running.set position { call, late, program := next (before.answerOf mirror op) } } where
  gone := by
    intro deleted
    rcases record_cases before op with rfl | ⟨filter, rfl⟩ | same
    · exact .inl rfl
    · exact .inr (AwaitsDelete.set (unrevived call late filter next found deleted) found fun _ => nofun)
    · simp only [same] at deleted ⊢
      rcases consistent.gone deleted with gone | awaits
      · exact .inl gone
      · by_cases deletes : op = .delete
        · subst deletes
          exact .inl (congrArg FilterEntry.filter same).symm
        · refine .inr (awaits.set found ?_)
          rintro follow ⟨⟩
          exact deletes rfl
  silent := by
    intro undeleted running member
    have kept : before.deleted = false := by
      cases deleted : before.deleted with
      | false => rfl
      | true => exact nomatch (deleted_record deleted op).symm.trans undeleted
    rcases List.mem_or_eq_of_mem_set member with old | rfl
    · exact consistent.silent kept running old
    · have own := consistent.silent kept _ (List.mem_of_getElem? found)
      cases op with
      | filterOp op => exact own _
      | delete => exact nomatch undeleted
  removed := by
    intro removed
    rw [record_removed] at removed
    exact deleted_record (consistent.removed removed) op
  late := by
    intro running member started
    rw [record_removed]
    have own := List.mem_of_getElem? found
    have all : before.removed = true ∧ ∀ other ∈ before.running, other.late = true := by
      rcases List.mem_or_eq_of_mem_set member with old | rfl
      · exact ⟨(consistent.late running old started).1, (consistent.late running old started).2.2⟩
      · exact ⟨(consistent.late _ own started).1, (consistent.late _ own started).2.2⟩
    refine ⟨all.1, ?_, ?_⟩
    · rcases List.mem_or_eq_of_mem_set member with old | rfl
      · exact (consistent.late running old started).2.1
      · exact .inr (consistent.late_next found started)
    · intro other there
      rcases List.mem_or_eq_of_mem_set there with old | rfl
      · exact all.2 other old
      · have flag := all.2 _ own
        exact flag
  answers := by
    intro answer member
    rw [record_answers] at member
    exact consistent.answers answer member

theorem Consistent.finish {call : FilterCall} {late : Bool} {reply : Except FilterError FilterReply}
    (consistent : before.Consistent service)
    (found : before.running[position]? = some { call, late, program := .done reply }) :
    Consistent service { before with
      running := before.running.eraseIdx position
      answers := before.answers ++ [{ call, late, reply }]
      removed := before.removed || decide (reply = .ok (.uninstalled true)) } where
  gone := by
    intro deleted
    rcases consistent.gone deleted with gone | ⟨running, member, next, deletes⟩
    · exact .inl gone
    · refine .inr ⟨running, mem_eraseIdx_of_ne found member ?_, next, deletes⟩
      rintro rfl
      exact nomatch deletes
  silent := by
    intro kept running member
    exact consistent.silent kept running (List.mem_of_mem_eraseIdx member)
  removed := by
    intro removed
    cases deleted : before.deleted with
    | true => rfl
    | false =>
      have silent : reply ≠ .ok (.uninstalled true) := consistent.silent deleted _ (List.mem_of_getElem? found)
      simp only [silent, decide_false, Bool.or_false] at removed
      exact deleted.symm.trans (consistent.removed removed)
  late := by
    intro running member started
    obtain ⟨removed, program, others⟩ := consistent.late running (List.mem_of_mem_eraseIdx member) started
    refine ⟨by simp [removed], program, ?_⟩
    intro other there
    exact others other (List.mem_of_mem_eraseIdx there)
  answers := by
    intro answer member started
    rcases List.mem_append.mp member with old | new
    · exact consistent.answers answer old started
    · obtain rfl := List.mem_singleton.mp new
      obtain ⟨_, start | done, _⟩ := consistent.late _ (List.mem_of_getElem? found) started
      · rcases program_cases service call with disabled | ⟨next, reads, _⟩
        · exact Prog.done.inj (start.trans disabled)
        · exact nomatch start.trans reads
      · exact Prog.done.inj done

theorem Consistent.step (consistent : before.Consistent service) (unrevived : before.Unrevived label)
    (taken : serve service before label = some after) : after.Consistent service := by
  cases label with
  | start call =>
    obtain rfl := Option.some.inj taken
    exact consistent.start call
  | operate position mirror =>
    simp only [serve] at taken
    split at taken
    · rename_i found
      obtain rfl := Option.some.inj taken
      exact consistent.operate found unrevived
    · cases taken
  | finish position =>
    simp only [serve] at taken
    split at taken
    · rename_i found
      obtain rfl := Option.some.inj taken
      exact consistent.finish found
    · cases taken
  | expire =>
    obtain rfl := Option.some.inj taken
    exact { consistent with gone := fun _ => .inl rfl }

/-- In every run where no call writes the filter back after its deletion, the calls after a
removal are answered as for a filter that is not there. -/
theorem permanent_of_unrevived (service : FilterService) (filter : Option Filter) (labels : List EntryLabel)
    (final : FilterEntry) (unrevived : Meets (serve service) Unrevived (initial filter) labels)
    (reached : run (serve service) (initial filter) labels = some final) : final.Permanent service := by
  have consistent : final.Consistent service :=
    run_invariant_of_meets (fun _ _ _ held holds taken => held.step holds taken) (consistent_initial filter) unrevived
      reached
  exact consistent.answers

def enabledService : FilterService where
  common := { maxBlockRange := 5, blockRangeLimit := 1000, exceedsTimestampRange := fun _ _ => false }
  filterApiEnabled := true

def blockFilter : Filter := { params := .newBlock (numberTo0x 0), lastQueried := none }

def blockOne : MirrorNodeBlock where
  number := 1
  hash := "0xb1"
  timestampFrom := 10
  timestampTo := 12
  logs := []
  spans := by decide
  ordered := .nil
  inside := by simp

/-- The mirror node with one new block. -/
def oneBlock : (op : FilterOp) → op.Answer
  | .getFilter => none
  | .setFilter _ => ()
  | .getLatestBlock => some [blockOne]
  | .getBlock _ => some (some blockOne)
  | .getBlocks _ => some [blockOne]
  | .getContractResultsLogs _ _ => some []

/-- A poll, the removal of the filter, and a poll after it. -/
def pollThenUninstall : List EntryLabel :=
  [.start .getFilterChanges, .operate 0 oneBlock, .operate 0 oneBlock, .operate 0 oneBlock, .finish 0,
    .start .uninstallFilter, .operate 0 oneBlock, .operate 0 oneBlock, .finish 0,
    .start .getFilterChanges, .operate 0 oneBlock, .finish 0]

/-- The filter is removed while a poll waits for the mirror node. -/
def uninstallDuringPoll : List EntryLabel :=
  [.start .getFilterChanges, .operate 0 oneBlock,
    .start .uninstallFilter, .operate 1 oneBlock, .operate 1 oneBlock, .finish 1,
    .operate 0 oneBlock, .operate 0 oneBlock, .finish 0,
    .start .getFilterChanges, .operate 0 oneBlock, .operate 0 oneBlock, .operate 0 oneBlock, .finish 0]

theorem permanent_pollThenUninstall : ∃ final,
    run (serve enabledService) (initial (some blockFilter)) pollThenUninstall = some final ∧
      final.Permanent enabledService := by
  refine ⟨_, rfl, permanent_of_unrevived enabledService (some blockFilter) pollThenUninstall _ ?_ rfl⟩
  refine meets_cons trivial rfl (meets_cons ?_ rfl (meets_cons ?_ rfl (meets_cons ?_ rfl (meets_cons trivial rfl
    (meets_cons trivial rfl (meets_cons ?_ rfl (meets_cons ?_ rfl (meets_cons trivial rfl
      (meets_cons trivial rfl (meets_cons ?_ rfl (meets_cons trivial rfl trivial)))))))))))
  · rintro _ _ _ _ ⟨⟩
  · rintro _ _ _ _ ⟨⟩
  · rintro _ _ _ _ ⟨⟩ ⟨⟩
  · rintro _ _ _ _ ⟨⟩
  · rintro _ _ _ _ ⟨⟩
  · rintro _ _ _ _ ⟨⟩

theorem poll_revives_filter : ¬ ∀ (service : FilterService) (filter : Option Filter) (labels : List EntryLabel)
    (final : FilterEntry), run (serve service) (initial filter) labels = some final → final.Permanent service := by
  intro claim
  have permanent := claim enabledService (some blockFilter) uninstallDuringPoll _ rfl
  have unknown := permanent { call := .getFilterChanges, late := true, reply := .ok (.changes [.blockHash "0xb1"]) }
    (.tail _ (.tail _ (.head _))) rfl
  exact nomatch unknown

end FilterEntry

end HieroRelay.Filters
