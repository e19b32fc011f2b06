import FieldOcr.Proofs.Awaiting
import FieldOcr.Proofs.Settling
import FieldOcr.Proofs.TaskHistory
import Mathlib.Data.List.Chain
import Mathlib.Order.Monotone.Basic

/-!
# The schedule of status queries

A watch sends its first query at once and takes up the outcome in any case.
Each further query is sent an interval after the outcome in front of it, by the
deadline, and is taken up if it is answered by then.  This tells when queries
are sent and how many, when a watch returns and what it returns.  With a
deadline a watch returns, unless it has no interval and asks again and again at
one and the same moment.
-/

namespace FieldOcr

namespace RemoteTask.Handle

/-- A handle that is returned: it is marked exactly if its status is not
terminal. -/
def returned (handle : Handle) : Handle :=
  { handle with timedOut := !handle.status.isTerminal }

theorem returned_of_terminal
    {handle : Handle}
    (terminal : handle.status.isTerminal = true)
    (unmarked : handle.timedOut = false) :
    handle.returned = handle := by
  unfold returned
  rw [terminal, Bool.not_true, ← unmarked]

theorem returned_of_unfinished
    {handle : Handle}
    (unfinished : handle.status.isTerminal = false) :
    handle.returned = handle.markTimedOut := by
  unfold returned
  rw [unfinished]
  rfl

end RemoteTask.Handle

namespace Run

open RemoteTask (Handle)

/-- A query that was sent, and the reply to it. -/
structure Attempt where
  /-- The time at which the query was sent. -/
  sent : Nat
  /-- The reply. -/
  reply : Reply
  deriving DecidableEq, Repr

/-- The time at which the reply to a query arrives. -/
def Attempt.arrival (attempt : Attempt) : Nat :=
  attempt.sent + attempt.reply.delay

/-- What a transport makes of calls in their order, given the calls in front of
them. -/
def attempts (transport : Transport) : List Call -> List Call -> List Attempt
  | _, [] => []
  | earlier, call :: later =>
      ⟨call.time, transport earlier call.request⟩ ::
        attempts transport (earlier ++ [call]) later

theorem attempts_concat
    (transport : Transport)
    (earlier calls : List Call)
    (last : Call) :
    attempts transport earlier (calls ++ [last]) =
      attempts transport earlier calls ++
        [⟨last.time, transport (earlier ++ calls) last.request⟩] := by
  induction calls generalizing earlier with
  | nil => simp [attempts]
  | cons call calls inductionHypothesis =>
      simp only [List.cons_append, attempts, inductionHypothesis,
        List.append_assoc, List.nil_append]

/-- The last one of some queries. -/
def lastAttempt (first : Attempt) (further : List Attempt) : Attempt :=
  further.getLastD first

@[simp] theorem lastAttempt_concat
    (first last : Attempt)
    (further : List Attempt) :
    lastAttempt first (further ++ [last]) = last :=
  List.getLastD_concat

namespace Polling

section

variable
  [Url.NameConversion]
  (polling : Polling)
  (first : Attempt)
  (further : List Attempt)

/-- Whether the reply to a query arrives by the deadline. -/
def inTime (attempt : Attempt) : Bool :=
  match polling.deadline with
  | none => true
  | some deadline => attempt.arrival ≤ deadline

/-- The outcomes that are taken up: that of the first query in any case, and
those of the further ones that arrive by the deadline. -/
def applied : List Http.Outcome :=
  (first :: further.filter polling.inTime).map (·.reply.outcome)

/-- One query may follow another: it is sent an interval after the reply to the
other, by the deadline, which was not reached at that reply. -/
def MayFollow (earlier later : Attempt) : Prop :=
  later.sent = earlier.arrival + polling.interval ∧
    ∀ deadline,
      polling.deadline = some deadline ->
        earlier.arrival < deadline ∧ later.sent ≤ deadline

/-- The first and the further queries of a watch are sent on schedule. -/
structure Schedule (origin : Watch) (calls : List Call) : Prop where
  /-- They are the only calls, and all ask for the status of the task. -/
  calls :
    ∃ queries,
      calls = origin.journal.calls ++ queries ∧
        (∀ query ∈ queries, query.request = polling.nextQuery origin) ∧
        attempts polling.transport origin.journal.calls queries =
          first :: further
  /-- The first one is sent at once. -/
  start : first.sent = origin.journal.now
  /-- Each one may follow the one in front of it. -/
  spaced : (first :: further).IsChain polling.MayFollow
  /-- None is sent behind an outcome that brings a terminal status. -/
  awaited :
    ∀ before,
      before <+: further ->
        before ≠ further ->
          (origin.handle.afterOutcomes
            (polling.applied first before)).status.isTerminal = false

/-- A watch after its queries, which were all answered in time. -/
structure Answered (origin watch : Watch) : Prop where
  /-- The queries are sent on schedule. -/
  schedule : polling.Schedule first further origin watch.journal.calls
  /-- The outcomes are taken up in their order. -/
  handle :
    watch.handle =
      origin.handle.afterOutcomes (polling.applied first further)
  /-- The reply to the last query has just arrived. -/
  clock : watch.journal.now = (lastAttempt first further).arrival
  /-- The first reply has arrived. -/
  since : first.arrival ≤ watch.journal.now
  /-- At most the first reply arrives behind the deadline. -/
  limit :
    ∀ deadline,
      polling.deadline = some deadline ->
        watch.journal.now ≤ max first.arrival deadline

/-- A watch that is returned after its queries. -/
structure Returned (origin watch : Watch) : Prop where
  /-- The queries are sent on schedule. -/
  schedule : polling.Schedule first further origin watch.journal.calls
  /-- The outcomes that count are taken up in their order. -/
  handle :
    watch.handle =
      (origin.handle.afterOutcomes (polling.applied first further)).returned
  /-- It returns by the deadline or at the first reply. -/
  limit :
    ∀ deadline,
      polling.deadline = some deadline ->
        watch.journal.now ≤ max first.arrival deadline
  /-- It returns at the reply that brings a terminal status, or at the deadline
  if no further query can be sent by then. -/
  ending :
    (watch.handle.status.isTerminal = true ∧
        watch.journal.now = (lastAttempt first further).arrival) ∨
      (watch.handle.status.isTerminal = false ∧
        ∃ deadline,
          polling.deadline = some deadline ∧
            watch.journal.now = max first.arrival deadline ∧
            (deadline ≤ (lastAttempt first further).arrival ∨
              deadline <
                (lastAttempt first further).arrival + polling.interval))

/-- How a watch stands after its queries. -/
def Stage (origin : Watch) : Progress -> Prop
  | .watching watch =>
      polling.Answered first further origin watch ∧
        watch.handle.status.isTerminal = false ∧
        ∀ deadline,
          polling.deadline = some deadline -> watch.journal.now < deadline
  | .ended watch => polling.Returned first further origin watch

/-- The next query of a watch, after the interval. -/
def nextAttempt (watch : Watch) : Attempt where
  sent := watch.journal.now + polling.interval
  reply := polling.transport watch.journal.calls (polling.nextQuery watch)

/-- The next query of a watch is due by the deadline, which is not reached
yet. -/
def IsDue (watch : Watch) : Prop :=
  ∀ deadline,
    polling.deadline = some deadline ->
      watch.journal.now < deadline ∧
        watch.journal.now + polling.interval ≤ deadline

theorem observed_ticked_now (watch : Watch) :
    (polling.observed (polling.ticked watch)).journal.now =
      (polling.nextAttempt watch).arrival :=
  polling.observed_now (polling.ticked watch)

omit [Url.NameConversion] in
theorem applied_concat (last : Attempt) :
    polling.applied first (further ++ [last]) =
      polling.applied first further ++
        if polling.inTime last then [last.reply.outcome] else [] := by
  unfold applied
  rw [List.filter_append, ← List.cons_append, List.map_append]
  split
  · next arrived => simp [arrived]
  · next late => simp [late]

end

variable
  [Url.NameConversion]
  {polling : Polling}
  {first : Attempt}
  {further : List Attempt}
  {origin watch : Watch}
  {deadline : Nat}

omit [Url.NameConversion] in
theorem inTime_iff (attempt : Attempt) :
    polling.inTime attempt = true ↔
      ∀ deadline,
        polling.deadline = some deadline -> attempt.arrival ≤ deadline := by
  unfold inTime
  cases polling.deadline <;> simp

/-! ## One more query -/

/-- The next query of a task that is not finished keeps the schedule. -/
theorem Schedule.concat
    {calls : List Call}
    (schedule : polling.Schedule first further origin calls)
    (unfinished :
      (origin.handle.afterOutcomes
        (polling.applied first further)).status.isTerminal = false)
    {sent : Nat}
    (follows :
      polling.MayFollow (lastAttempt first further)
        ⟨sent, polling.transport calls (polling.nextQuery origin)⟩) :
    polling.Schedule first
      (further ++ [⟨sent, polling.transport calls (polling.nextQuery origin)⟩])
      origin (calls ++ [⟨sent, polling.nextQuery origin⟩]) where
  calls := by
    obtain ⟨queries, made, requests, attempted⟩ := schedule.calls
    refine ⟨queries ++ [⟨sent, polling.nextQuery origin⟩], ?_, ?_, ?_⟩
    · rw [made, List.append_assoc]
    · intro query present
      rcases List.mem_append.mp present with old | new
      · exact requests query old
      · rw [List.mem_singleton.mp new]
    · rw [attempts_concat, attempted, ← made]
      rfl
  start := schedule.start
  spaced := by
    rw [← List.cons_append]
    refine List.IsChain.append schedule.spaced (List.isChain_singleton _) ?_
    intro last isLast new isNew
    rw [List.getLast?_cons, Option.mem_some] at isLast
    rw [List.head?_cons, Option.mem_some] at isNew
    subst isLast isNew
    unfold lastAttempt at follows
    rwa [List.getLastD_eq_getLast?] at follows
  awaited := by
    intro before front proper
    rcases List.prefix_concat_iff.mp front with whole | front
    · exact absurd whole proper
    · by_cases all : before = further
      · rw [all]
        exact unfinished
      · exact schedule.awaited before front all

/-- All queries ask for the status of the same task. -/
theorem Answered.nextQuery_eq
    (answered : polling.Answered first further origin watch) :
    polling.nextQuery watch = polling.nextQuery origin := by
  unfold nextQuery
  rw [answered.handle, Handle.afterOutcomes_taskId]

/-- The next query keeps the schedule if it is due by the deadline. -/
theorem Answered.schedule_next
    (answered : polling.Answered first further origin watch)
    (unfinished : watch.handle.status.isTerminal = false)
    (due : polling.IsDue watch) :
    polling.Schedule first (further ++ [polling.nextAttempt watch]) origin
      (watch.journal.calls ++
        [⟨watch.journal.now + polling.interval,
          polling.nextQuery watch⟩]) := by
  unfold nextAttempt
  rw [answered.nextQuery_eq]
  apply answered.schedule.concat
  · rw [← answered.handle]
    exact unfinished
  · refine ⟨?_, ?_⟩
    · rw [← answered.clock]
    · rw [← answered.clock]
      exact due

/-- A reply that arrives in time is taken up. -/
theorem Answered.observed
    (answered : polling.Answered first further origin watch)
    (unfinished : watch.handle.status.isTerminal = false)
    (due : polling.IsDue watch)
    (arrived : polling.inTime (polling.nextAttempt watch) = true) :
    polling.Answered first (further ++ [polling.nextAttempt watch]) origin
      (polling.observed (polling.ticked watch)) where
  schedule := by
    rw [observed_journal]
    exact answered.schedule_next unfinished due
  handle := by
    rw [observed_handle, applied_concat, if_pos arrived,
      Handle.afterOutcomes_append, ← answered.handle]
    rfl
  clock := by
    rw [observed_ticked_now, lastAttempt_concat]
  since := by
    rw [observed_ticked_now]
    refine Nat.le_trans answered.since ?_
    exact Nat.le_trans (Nat.le_add_right ..) (Nat.le_add_right ..)
  limit := by
    intro deadline limit
    rw [observed_ticked_now]
    have before := (polling.inTime_iff _).mp arrived deadline limit
    exact Nat.le_trans before (Nat.le_max_right ..)

/-- A query that is not answered by the deadline is dropped there. -/
theorem Answered.dropped
    (answered : polling.Answered first further origin watch)
    (unfinished : watch.handle.status.isTerminal = false)
    (due : polling.IsDue watch)
    (limit : polling.deadline = some deadline)
    (late : deadline < (polling.nextAttempt watch).arrival) :
    polling.Returned first (further ++ [polling.nextAttempt watch]) origin
      (Watch.giveUp
        ⟨watch.handle,
          ((polling.ticked watch).journal.send
            (polling.nextQuery watch)).waitUntil deadline⟩) := by
  have missed : ¬polling.inTime (polling.nextAttempt watch) = true := by
    rw [inTime_iff]
    exact fun arrived => Nat.not_le_of_lt late (arrived deadline limit)
  have since : first.arrival ≤ deadline :=
    Nat.le_trans answered.since (Nat.le_of_lt (due deadline limit).1)
  refine ⟨answered.schedule_next unfinished due, ?_, ?_,
    Or.inr ⟨unfinished, ?_⟩⟩
  · rw [applied_concat, if_neg missed, List.append_nil, ← answered.handle,
      Handle.returned_of_unfinished unfinished]
    rfl
  · intro other known
    cases limit.symm.trans known
    exact Nat.le_max_right ..
  · refine ⟨deadline, limit, (Nat.max_eq_right since).symm, Or.inl ?_⟩
    rw [lastAttempt_concat]
    exact Nat.le_of_lt late

/-- A query that is not due by the deadline is not sent. -/
theorem Answered.undue
    (answered : polling.Answered first further origin watch)
    (unfinished : watch.handle.status.isTerminal = false)
    (limit : polling.deadline = some deadline)
    (early : watch.journal.now < deadline)
    (undue : deadline < watch.journal.now + polling.interval) :
    polling.Returned first further origin
      (Watch.giveUp
        ⟨watch.handle, watch.journal.waitUntil deadline⟩) := by
  have since : first.arrival ≤ deadline :=
    Nat.le_trans answered.since (Nat.le_of_lt early)
  refine ⟨answered.schedule, ?_, ?_, Or.inr ⟨unfinished, ?_⟩⟩
  · rw [← answered.handle, Handle.returned_of_unfinished unfinished]
    rfl
  · intro other known
    cases limit.symm.trans known
    exact Nat.le_max_right ..
  · refine ⟨deadline, limit, (Nat.max_eq_right since).symm, Or.inr ?_⟩
    rw [← answered.clock]
    exact undue

/-! ## Any number of queries -/

/-- A watch goes on after a reply, or is returned. -/
theorem Answered.settle
    (unmarked : origin.handle.timedOut = false)
    (answered : polling.Answered first further origin watch) :
    polling.Stage first further origin (polling.settle watch) := by
  have untimed : watch.handle.timedOut = false := by
    rw [answered.handle, Handle.afterOutcomes_timedOut, unmarked]
  rcases polling.settle_cases watch with
    ⟨terminal, settled⟩ | ⟨unfinished, early, settled⟩ |
    ⟨unfinished, ⟨deadline, limit, late⟩, settled⟩
  · rw [settled]
    refine ⟨answered.schedule, ?_, answered.limit,
      Or.inl ⟨terminal, answered.clock⟩⟩
    rw [← answered.handle, Handle.returned_of_terminal terminal untimed]
  · rw [settled]
    exact ⟨answered, unfinished, early⟩
  · rw [settled]
    refine ⟨answered.schedule, ?_, answered.limit,
      Or.inr ⟨unfinished, deadline, limit, ?_, Or.inl ?_⟩⟩
    · rw [← answered.handle, Handle.returned_of_unfinished unfinished]
      rfl
    · apply Nat.le_antisymm
      · exact answered.limit deadline limit
      · exact Nat.max_le.mpr ⟨answered.since, late⟩
    · rw [← answered.clock]
      exact late

/-- A watch starts with its first query. -/
theorem start_stage
    (polling : Polling)
    (unfinished : origin.handle.status.isTerminal = false)
    (unmarked : origin.handle.timedOut = false) :
    ∃ first, polling.Stage first [] origin (polling.start origin) := by
  let first : Attempt :=
    ⟨origin.journal.now,
      polling.transport origin.journal.calls (polling.nextQuery origin)⟩
  have arrival :
      (polling.observed origin).journal.now = first.arrival :=
    polling.observed_now origin
  have answered :
      polling.Answered first [] origin (polling.observed origin) := by
    refine ⟨⟨?_, rfl, List.isChain_singleton _, ?_⟩, ?_, arrival,
      Nat.le_of_eq arrival.symm, ?_⟩
    · refine ⟨[⟨origin.journal.now, polling.nextQuery origin⟩], ?_, ?_, rfl⟩
      · rw [observed_journal]
        rfl
      · intro query present
        rw [List.mem_singleton.mp present]
    · intro before front proper
      exact absurd (List.prefix_nil.mp front) proper
    · exact polling.observed_handle origin
    · intro deadline limit
      rw [arrival]
      exact Nat.le_max_left ..
  refine ⟨first, ?_⟩
  unfold start
  rw [if_neg (by simp [unfinished]), query_eq]
  exact answered.settle unmarked

/-- Without a deadline every reply is waited for. -/
theorem next_of_endless (endless : polling.deadline = none) :
    polling.next watch =
      polling.settle (polling.observed (polling.ticked watch)) := by
  unfold next
  rw [endless]
  rfl

/-- With a deadline a query is answered in time, or dropped at the deadline, or
not sent since it is not due. -/
theorem next_of_deadline (limit : polling.deadline = some deadline) :
    polling.next watch =
      if watch.journal.now + polling.interval ≤ deadline then
        if (polling.nextAttempt watch).arrival ≤ deadline then
          polling.settle (polling.observed (polling.ticked watch))
        else
          .ended
            (Watch.giveUp
              ⟨watch.handle,
                ((polling.ticked watch).journal.send
                  (polling.nextQuery watch)).waitUntil deadline⟩)
      else
        .ended
          (Watch.giveUp
            ⟨watch.handle, watch.journal.waitUntil deadline⟩) := by
  unfold next
  rw [limit, ← observed_ticked_now]
  dsimp only
  rw [queryBy_eq]
  rfl

/-- One step of a watch sends at most one more query, on schedule. -/
theorem next_stage
    (unmarked : origin.handle.timedOut = false)
    (stage : polling.Stage first further origin (.watching watch)) :
    ∃ more,
      polling.Stage first (further ++ more) origin (polling.next watch) := by
  obtain ⟨answered, unfinished, early⟩ := stage
  cases limit : polling.deadline with
  | none =>
      have due : polling.IsDue watch := by
        simp [IsDue, limit]
      have inTime : polling.inTime (polling.nextAttempt watch) = true := by
        simp [Polling.inTime, limit]
      rw [next_of_endless limit]
      exact ⟨_, (answered.observed unfinished due inTime).settle unmarked⟩
  | some deadline =>
      have before := early deadline limit
      rw [next_of_deadline limit]
      split
      · next tick =>
          have due : polling.IsDue watch := by
            intro other known
            cases limit.symm.trans known
            exact ⟨before, tick⟩
          split
          · next arrived =>
              have inTime :
                  polling.inTime (polling.nextAttempt watch) = true := by
                simp [Polling.inTime, limit, arrived]
              exact ⟨_,
                (answered.observed unfinished due inTime).settle unmarked⟩
          · next late =>
              exact ⟨_,
                answered.dropped unfinished due limit
                  (Nat.lt_of_not_le late)⟩
      · next tick =>
          refine ⟨[], ?_⟩
          rw [List.append_nil]
          exact answered.undue unfinished limit before
            (Nat.lt_of_not_le tick)

/-- A watch keeps the schedule through any number of steps. -/
theorem after_stage
    (polling : Polling)
    (unfinished : origin.handle.status.isTerminal = false)
    (unmarked : origin.handle.timedOut = false)
    (rounds : Nat) :
    ∃ first further,
      polling.Stage first further origin
        (polling.after rounds (polling.start origin)) := by
  obtain ⟨first, started⟩ :=
    polling.start_stage unfinished unmarked
  refine after_induction
    (fun progress =>
      ∃ first further, polling.Stage first further origin progress)
    ?_ rounds ⟨first, [], started⟩
  rintro watch ⟨first, further, stage⟩
  obtain ⟨more, next⟩ := next_stage unmarked stage
  exact ⟨first, further ++ more, next⟩

/-! ## Time that passes -/

omit [Url.NameConversion] in
/-- The further queries of a schedule take an interval each, and fit into the
time up to the deadline. -/
theorem length_mul_interval_le
    (spaced : (first :: further).IsChain polling.MayFollow)
    (limit : polling.deadline = some deadline)
    (start : first.sent ≤ deadline) :
    first.sent + further.length * polling.interval ≤ deadline := by
  induction further generalizing first with
  | nil => simpa using start
  | cons second further inductionHypothesis =>
      obtain ⟨⟨sent, inTime⟩, rest⟩ := List.isChain_cons_cons.mp spaced
      have later := inductionHypothesis rest (inTime deadline limit).2
      have interval : first.sent + polling.interval ≤ second.sent := by
        rw [sent]
        exact Nat.add_le_add_right (Nat.le_add_right ..) _
      rw [List.length_cons, Nat.succ_mul]
      omega

/-- At every stage the queries are on schedule. -/
theorem Stage.schedule
    {progress : Progress}
    (stage : polling.Stage first further origin progress) :
    polling.Schedule first further origin progress.watch.journal.calls := by
  cases progress with
  | watching watch => exact stage.1.schedule
  | ended watch => exact Returned.schedule stage

/-- At every stage at most the first reply arrives behind the deadline. -/
theorem Stage.limit
    {progress : Progress}
    (stage : polling.Stage first further origin progress)
    (limit : polling.deadline = some deadline) :
    progress.watch.journal.now ≤ max first.arrival deadline := by
  cases progress with
  | watching watch => exact stage.1.limit deadline limit
  | ended watch => exact Returned.limit stage deadline limit

theorem after_succ
    (polling : Polling)
    (rounds : Nat)
    (progress : Progress) :
    polling.after (rounds + 1) progress =
      polling.after 1 (polling.after rounds progress) := by
  induction rounds generalizing progress with
  | zero => rfl
  | succ rounds inductionHypothesis =>
      cases progress with
      | ended watch => rfl
      | watching watch => exact inductionHypothesis (polling.next watch)

/-- A step of a watch that goes on takes an interval. -/
theorem now_of_next
    {later : Watch}
    (next : polling.next watch = .watching later) :
    watch.journal.now + polling.interval ≤ later.journal.now := by
  rcases polling.next_cases watch with
    ⟨-, observed⟩ | ⟨-, journal, givenUp⟩
  · rw [observed] at next
    rcases polling.settle_cases (polling.observed (polling.ticked watch)) with
      ⟨-, settled⟩ | ⟨-, -, settled⟩ | ⟨-, -, settled⟩
    · rw [settled] at next
      exact nomatch next
    · rw [settled] at next
      cases next
      rw [observed_ticked_now]
      exact Nat.le_add_right ..
    · rw [settled] at next
      exact nomatch next
  · rw [givenUp] at next
    exact nomatch next

/-- What goes on after a step went on before it, at least an interval ago. -/
theorem watching_of_after_succ
    {rounds : Nat}
    {progress : Progress}
    {later : Watch}
    (reached : polling.after (rounds + 1) progress = .watching later) :
    ∃ watch,
      polling.after rounds progress = .watching watch ∧
        watch.journal.now + polling.interval ≤ later.journal.now := by
  rw [after_succ] at reached
  cases before : polling.after rounds progress with
  | ended watch =>
      rw [before] at reached
      exact nomatch reached
  | watching watch =>
      rw [before] at reached
      exact ⟨watch, rfl, now_of_next reached⟩

/-- A watch that goes on after some steps has taken an interval for each. -/
theorem now_of_after_start
    (unfinished : origin.handle.status.isTerminal = false)
    (unmarked : origin.handle.timedOut = false)
    {rounds : Nat}
    {watch : Watch}
    (reached : polling.after rounds (polling.start origin) = .watching watch) :
    origin.journal.now + rounds * polling.interval ≤ watch.journal.now := by
  induction rounds generalizing watch with
  | zero =>
      obtain ⟨first, further, stage⟩ :=
        polling.after_stage unfinished unmarked 0
      rw [reached] at stage
      obtain ⟨answered, -, -⟩ := stage
      rw [Nat.zero_mul, Nat.add_zero, ← answered.schedule.start]
      exact Nat.le_trans (Nat.le_add_right ..) answered.since
  | succ rounds inductionHypothesis =>
      obtain ⟨before, went, passed⟩ := watching_of_after_succ reached
      have earlier := inductionHypothesis went
      rw [Nat.succ_mul]
      omega

/-- From some step on, a watch goes on for ever at one moment. -/
def StandsStill (polling : Polling) (origin : Watch) : Prop :=
  ∃ rounds time,
    ∀ later,
      rounds ≤ later ->
        ∃ watch,
          polling.after later (polling.start origin) = .watching watch ∧
            watch.journal.now = time

section

variable
  (unfinished : origin.handle.status.isTerminal = false)
  (unmarked : origin.handle.timedOut = false)
  (limit : polling.deadline = some deadline)

include unfinished unmarked limit

/-- A watch goes on only in front of its deadline. -/
theorem early_of_after_start
    {rounds : Nat}
    {watch : Watch}
    (reached : polling.after rounds (polling.start origin) = .watching watch) :
    watch.journal.now < deadline := by
  obtain ⟨first, further, stage⟩ :=
    polling.after_stage unfinished unmarked rounds
  rw [reached] at stage
  obtain ⟨-, -, early⟩ := stage
  exact early deadline limit

/-- A watch has ended when its steps would take it to the deadline. -/
theorem ended_of_passed
    {rounds : Nat}
    (passed : deadline ≤ origin.journal.now + rounds * polling.interval) :
    ∃ watch, polling.after rounds (polling.start origin) = .ended watch := by
  cases reached : polling.after rounds (polling.start origin) with
  | ended watch => exact ⟨watch, rfl⟩
  | watching watch =>
      have early := early_of_after_start unfinished unmarked limit reached
      have late := now_of_after_start unfinished unmarked reached
      omega

/-- A watch that never returns has no interval and comes to stand still. -/
theorem standsStill_of_endless
    (endless :
      ∀ rounds watch,
        polling.after rounds (polling.start origin) ≠ .ended watch) :
    polling.interval = 0 ∧ polling.StandsStill origin := by
  have goesOn :
      ∀ rounds,
        ∃ watch,
          polling.after rounds (polling.start origin) = .watching watch := by
    intro rounds
    cases reached : polling.after rounds (polling.start origin) with
    | watching watch => exact ⟨watch, rfl⟩
    | ended watch => exact absurd reached (endless rounds watch)
  choose watchAt reached using goesOn
  have early : ∀ rounds, (watchAt rounds).journal.now < deadline :=
    fun rounds =>
      early_of_after_start unfinished unmarked limit (reached rounds)
  have passes :
      ∀ rounds,
        (watchAt rounds).journal.now + polling.interval ≤
          (watchAt (rounds + 1)).journal.now := by
    intro rounds
    obtain ⟨before, went, passed⟩ :=
      watching_of_after_succ (reached (rounds + 1))
    cases (reached rounds).symm.trans went
    exact passed
  have monotone : Monotone fun rounds => (watchAt rounds).journal.now :=
    monotone_nat_of_le_succ fun rounds =>
      Nat.le_trans (Nat.le_add_right ..) (passes rounds)
  obtain ⟨time, settled, still⟩ :=
    converges_of_monotone_of_bounded monotone
      fun rounds => Nat.le_of_lt (early rounds)
  refine ⟨?_, settled, time, fun later behind =>
    ⟨watchAt later, reached later, still later behind⟩⟩
  have passed := passes settled
  have now := still settled (Nat.le_refl _)
  have next := still (settled + 1) (Nat.le_succ _)
  omega

end

/-- A watch that stands still never returns. -/
theorem StandsStill.endless
    (still : polling.StandsStill origin)
    (rounds : Nat)
    (watch : Watch) :
    polling.after rounds (polling.start origin) ≠ .ended watch := by
  obtain ⟨settled, time, goesOn⟩ := still
  intro ended
  obtain ⟨later, reached, -⟩ :=
    goesOn (max rounds settled) (Nat.le_max_right ..)
  exact nomatch reached.symm.trans (after_mono ended (Nat.le_max_left ..))

/-! ## Replies that arrive at once -/

/-- Every reply arrives at once, and none finishes a task. -/
structure AnswersAtOnce (transport : Transport) : Prop where
  /-- No reply takes any time. -/
  delay : ∀ calls request, (transport calls request).delay = 0
  /-- No reply brings a terminal status. -/
  unfinished :
    ∀ calls request (handle : Handle),
      handle.status.isTerminal = false ->
        (handle.afterOutcome
          (transport calls request).outcome).status.isTerminal = false

/-- A watch goes on at a time. -/
def GoesOnAt (time : Nat) : Progress -> Prop
  | .watching watch =>
      watch.journal.now = time ∧ watch.handle.status.isTerminal = false
  | .ended _ => False

section

variable
  (immediate : AnswersAtOnce polling.transport)
  {time : Nat}
  (ahead : ∀ deadline, polling.deadline = some deadline -> time < deadline)

include immediate ahead

/-- A reply that arrives at once lets a watch go on. -/
theorem settle_goesOnAt
    (now : watch.journal.now = time)
    (unfinished : watch.handle.status.isTerminal = false) :
    GoesOnAt time (polling.settle (polling.observed watch)) := by
  have still : (polling.observed watch).journal.now = time := by
    rw [observed_now, immediate.delay, now, Nat.add_zero]
  have going : (polling.observed watch).handle.status.isTerminal = false := by
    rw [observed_handle]
    exact immediate.unfinished _ _ _ unfinished
  rcases polling.settle_cases (polling.observed watch) with
    ⟨terminal, -⟩ | ⟨-, -, settled⟩ | ⟨-, ⟨deadline, limit, late⟩, -⟩
  · rw [going] at terminal
    exact nomatch terminal
  · rw [settled]
    exact ⟨still, going⟩
  · rw [still] at late
    exact absurd (ahead deadline limit) (Nat.not_lt_of_le late)

/-- Without an interval the next query is sent and answered at once. -/
theorem next_goesOnAt
    (restless : polling.interval = 0)
    (going : GoesOnAt time (.watching watch)) :
    GoesOnAt time (polling.next watch) := by
  obtain ⟨now, unfinished⟩ := going
  have ticked : (polling.ticked watch).journal.now = time := by
    change watch.journal.now + polling.interval = time
    rw [restless, now, Nat.add_zero]
  have settled := settle_goesOnAt immediate ahead ticked unfinished
  have answered :
      (polling.observed (polling.ticked watch)).journal.now = time := by
    rw [observed_now, immediate.delay, ticked, Nat.add_zero]
  rcases polling.next_cases watch with
    ⟨-, observed⟩ | ⟨⟨deadline, limit, missed⟩, -⟩
  · rw [observed]
    exact settled
  · have early := Nat.le_of_lt (ahead deadline limit)
    rw [restless, now, answered] at missed
    exact absurd ⟨early, early⟩ missed

end

/-- Without an interval, a watch stands still in front of its deadline where
every reply arrives at once. -/
theorem standsStill_of_answersAtOnce
    (immediate : AnswersAtOnce polling.transport)
    (restless : polling.interval = 0)
    (unfinished : origin.handle.status.isTerminal = false)
    (ahead :
      ∀ deadline,
        polling.deadline = some deadline -> origin.journal.now < deadline) :
    polling.StandsStill origin := by
  have start : GoesOnAt origin.journal.now (polling.start origin) := by
    unfold start
    rw [if_neg (by simp [unfinished]), query_eq]
    exact settle_goesOnAt immediate ahead rfl unfinished
  refine ⟨0, origin.journal.now, fun rounds _ => ?_⟩
  have going :=
    after_induction (GoesOnAt origin.journal.now)
      (fun _ => next_goesOnAt immediate ahead restless) rounds start
  cases reached : polling.after rounds (polling.start origin) with
  | ended watch =>
      rw [reached] at going
      exact going.elim
  | watching watch =>
      rw [reached] at going
      exact ⟨watch, rfl, going.1⟩

end Polling

/-- A task that has no terminal status is awaited on schedule, however many
queries are made.  With a timeout the wait is bounded, and so is the number of
queries if there is an interval between them.  It returns, unless there is no
interval and time stands still: then it never does. -/
theorem awaitCompletion_schedule
    [Url.NameConversion]
    (transport : Transport)
    (request : Request)
    (policy : PollPolicy)
    {origin : Watch}
    (unfinished : origin.handle.status.isTerminal = false)
    (unmarked : origin.handle.timedOut = false) :
    let polling := pollingFrom transport request policy origin.journal.now
    (∀ rounds,
        let progress := polling.after rounds (polling.start origin)
        ∃ first further,
          polling.Stage first further origin progress ∧
            ∀ timeout,
              policy.timeout = some timeout ->
                progress.watch.journal.now ≤
                    max first.arrival (origin.journal.now + timeout) ∧
                  (0 < policy.interval ->
                    further.length ≤ timeout / policy.interval)) ∧
      (∀ fuel,
        awaitCompletion fuel transport request policy origin =
          match polling.after fuel (polling.start origin) with
          | .ended watch => some watch
          | .watching _ => none) ∧
      ∀ timeout,
        policy.timeout = some timeout ->
          (0 < policy.interval ->
            ∃ watch,
              awaitCompletion (timeout / policy.interval + 1) transport request
                  policy origin =
                some watch) ∧
            ((∀ fuel,
                awaitCompletion fuel transport request policy origin = none) ↔
              policy.interval = 0 ∧ polling.StandsStill origin) := by
  intro polling
  have deadline :
      ∀ timeout,
        policy.timeout = some timeout ->
          polling.deadline = some (origin.journal.now + timeout) :=
    fun timeout known => congrArg (Option.map _) known
  have awaited :
      ∀ fuel,
        awaitCompletion fuel transport request policy origin =
          match polling.after fuel (polling.start origin) with
          | .ended watch => some watch
          | .watching _ => none :=
    fun fuel => polling.finish_eq fuel (polling.start origin)
  refine ⟨?_, awaited, ?_⟩
  · intro rounds progress
    obtain ⟨first, further, stage⟩ :=
      polling.after_stage unfinished unmarked rounds
    refine ⟨first, further, stage, ?_⟩
    intro timeout known
    refine ⟨stage.limit (deadline timeout known), ?_⟩
    intro positive
    have start : first.sent = origin.journal.now := stage.schedule.start
    have fits :=
      Polling.length_mul_interval_le stage.schedule.spaced
        (deadline timeout known) (start ▸ Nat.le_add_right ..)
    rw [start] at fits
    exact (Nat.le_div_iff_mul_le positive).mpr (Nat.le_of_add_le_add_left fits)
  · intro timeout known
    refine ⟨?_, ?_⟩
    · intro positive
      have passed :
          timeout ≤ (timeout / policy.interval + 1) * policy.interval := by
        rw [Nat.succ_mul]
        exact Nat.le_of_lt (Nat.lt_div_mul_add positive)
      obtain ⟨watch, ended⟩ :=
        Polling.ended_of_passed unfinished unmarked (deadline timeout known)
          (Nat.add_le_add_left passed origin.journal.now)
      refine ⟨watch, ?_⟩
      rw [awaited, ended]
    · constructor
      · intro never
        apply Polling.standsStill_of_endless unfinished unmarked
          (deadline timeout known)
        intro rounds watch ended
        have missing := never rounds
        rw [awaited, ended] at missing
        exact nomatch missing
      · rintro ⟨-, still⟩ fuel
        rw [awaited]
        split
        · next watch ended => exact absurd ended (still.endless fuel watch)
        · rfl

/-! ## A reply that arrives too late -/

/-- A task that waits in the queue when it is watched. -/
def queuedWatch : Watch :=
  ⟨RemoteTask.queuedHandle, journalWithSource⟩

/-- Waiting that leaves no time for a second reply. -/
def shortPolicy : PollPolicy where
  interval := 1000
  timeout := some 1030

/-- The reply to the second query of a task arrives too late, so the task is
returned at its deadline as the first reply left it. -/
theorem awaitCompletion_schedule_shortPolicy :
    ∃ watch first further,
      queuedWatch.handle.status.isTerminal = false ∧
        queuedWatch.handle.timedOut = false ∧
        awaitCompletion 2 lateService narrowPlan.request shortPolicy
            queuedWatch =
          some watch ∧
        (pollingFrom lateService narrowPlan.request shortPolicy 0).Returned
          first further queuedWatch watch ∧
        watch.journal.now = 1030 ∧
        watch.journal.calls.map (·.time) = [0, 1020] ∧
        watch.handle.status = .inProgress ∧
        watch.handle.timedOut = true := by
  have unfinished : queuedWatch.handle.status.isTerminal = false := rfl
  have unmarked : queuedWatch.handle.timedOut = false := rfl
  have seen :
      (awaitCompletion 2 lateService narrowPlan.request shortPolicy
            queuedWatch).map
          (fun watch =>
            (watch.journal.now, watch.journal.calls.map (·.time),
              watch.handle.status, watch.handle.timedOut)) =
        some (1030, [0, 1020], .inProgress, true) := by
    decide +kernel
  obtain ⟨watch, result, known⟩ := Option.map_eq_some_iff.mp seen
  obtain ⟨stages, awaited, -⟩ :=
    awaitCompletion_schedule lateService narrowPlan.request shortPolicy
      unfinished unmarked
  obtain ⟨first, further, stage, -⟩ := stages 2
  have made := (awaited 2).symm.trans result
  split at made
  · next ended reached =>
      cases made
      rw [reached] at stage
      exact ⟨watch, first, further, unfinished, unmarked, result, stage,
        congrArg Prod.fst known, congrArg (·.2.1) known,
        congrArg (·.2.2.1) known, congrArg (·.2.2.2) known⟩
  · exact nomatch made

/-! ## A task that is asked for at one moment -/

/-- The reply that a task is in progress, without any delay. -/
def busyReply : Reply where
  delay := 0
  outcome :=
    .response
      { status := 200
        body :=
          Text.Utf8.encode "<r><task id='t' status='InProgress'/></r>".toList }

/-- A service that has its task in progress whenever it is asked. -/
def busyService : Transport :=
  fun _ _ => busyReply

theorem busyService_answersAtOnce : Polling.AnswersAtOnce busyService where
  delay _ _ := rfl
  unfinished := by
    intro calls request handle unfinished
    have reported :
        Service.reported? busyReply.outcome =
          some ⟨⟨"t", .inProgress, none, none, []⟩, 200⟩ := by
      decide +kernel
    simp only [Handle.afterOutcome, busyService, reported, Handle.advance]
    split
    · rfl
    · exact unfinished

/-- Waiting without an interval. -/
def restlessPolicy : PollPolicy where
  interval := 0
  timeout := some 10

/-- Awaiting a task that stays in progress does not return at its deadline, nor
ever: each query is sent and answered at the start. -/
theorem not_returns_restlessPolicy :
    queuedWatch.handle.status.isTerminal = false ∧
      queuedWatch.handle.timedOut = false ∧
      restlessPolicy.timeout = some 10 ∧
      ∀ fuel,
        awaitCompletion fuel busyService narrowPlan.request restlessPolicy
            queuedWatch =
          none := by
  refine ⟨rfl, rfl, rfl, fun fuel => ?_⟩
  have still :
      (pollingFrom busyService narrowPlan.request restlessPolicy
          0).StandsStill queuedWatch := by
    apply Polling.standsStill_of_answersAtOnce busyService_answersAtOnce rfl rfl
    rintro _ ⟨⟩
    decide
  unfold awaitCompletion
  rw [Polling.finish_eq]
  split
  · next watch ended => exact absurd ended (still.endless fuel watch)
  · rfl

end Run
end FieldOcr
