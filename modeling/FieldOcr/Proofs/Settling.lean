import FieldOcr.Proofs.Watching

/-!
# Watching a task to its end

A task is settled by its status queries if they bring it to a terminal status
in time.  This is what a watch comes to with enough queries, and all that it
comes to with a terminal status.
-/

namespace FieldOcr
namespace Run

open RemoteTask (Handle)

variable [Url.NameConversion]

namespace Polling

section

variable
  (polling : Polling)
  (handle : Handle)
  (moment : Moment)

/-- What comes of a status query that is sent at a moment. -/
def queryOutcome : Http.Outcome :=
  moment.outcome polling.transport
    (Service.statusQuery polling.request handle.taskId)

/-- The moment at which a status query is answered. -/
def afterQuery : Moment :=
  moment.answered polling.transport
    (Service.statusQuery polling.request handle.taskId)

/-- The moment at which the next status query is due. -/
def nextTick : Moment :=
  moment.waitUntil (moment.now + polling.interval)

/-- Another status query counts: it is due and answered by the deadline, which
is not reached yet. -/
def HasTime : Prop :=
  ∀ deadline,
    polling.deadline = some deadline ->
      moment.now < deadline ∧
        (polling.nextTick moment).now ≤ deadline ∧
        (polling.afterQuery handle (polling.nextTick moment)).now ≤ deadline

end

/-- Status queries from a moment on bring a handle to a terminal status at a
later moment.  The outcome of the first one counts in any case. -/
inductive Settles (polling : Polling) :
    Handle -> Moment -> Handle -> Moment -> Prop
  | last {handle : Handle} {moment : Moment}
      (terminal :
        (handle.afterOutcome
          (polling.queryOutcome handle moment)).status.isTerminal = true) :
      Settles polling handle moment
        (handle.afterOutcome (polling.queryOutcome handle moment))
        (polling.afterQuery handle moment)
  | next {handle final : Handle} {moment ended : Moment}
      (unfinished :
        (handle.afterOutcome
          (polling.queryOutcome handle moment)).status.isTerminal = false)
      (time :
        polling.HasTime
          (handle.afterOutcome (polling.queryOutcome handle moment))
          (polling.afterQuery handle moment))
      (rest :
        Settles polling
          (handle.afterOutcome (polling.queryOutcome handle moment))
          (polling.nextTick (polling.afterQuery handle moment)) final ended) :
      Settles polling handle moment final ended

/-- A submitted task comes to a terminal status, at once or by status
queries. -/
inductive Finishes (polling : Polling) :
    Handle -> Moment -> Handle -> Moment -> Prop
  | atOnce {handle : Handle} {moment : Moment}
      (terminal : handle.status.isTerminal = true) :
      Finishes polling handle moment handle moment
  | settled {handle final : Handle} {moment ended : Moment}
      (unfinished : handle.status.isTerminal = false)
      (settles : polling.Settles handle moment final ended) :
      Finishes polling handle moment final ended

variable {polling : Polling}

/-- A watch that waits for its next query. -/
def ticked (polling : Polling) (watch : Watch) : Watch :=
  ⟨watch.handle, watch.journal.waitUntil (watch.journal.now + polling.interval)⟩

omit [Url.NameConversion] in
/-- A watch is settled at a terminal status, and otherwise goes on until the
deadline. -/
theorem settle_cases (polling : Polling) (watch : Watch) :
    (watch.handle.status.isTerminal = true ∧
      polling.settle watch = .ended watch) ∨
    (watch.handle.status.isTerminal = false ∧
      (∀ deadline,
        polling.deadline = some deadline -> watch.journal.now < deadline) ∧
      polling.settle watch = .watching watch) ∨
    (watch.handle.status.isTerminal = false ∧
      (∃ deadline,
        polling.deadline = some deadline ∧ deadline ≤ watch.journal.now) ∧
      polling.settle watch = .ended watch.giveUp) := by
  unfold settle isOver
  by_cases terminal : watch.handle.status.isTerminal = true
  · exact Or.inl ⟨terminal, by simp [terminal]⟩
  · rw [Bool.not_eq_true] at terminal
    right
    simp only [terminal, true_and]
    cases polling.deadline with
    | none => exact Or.inl ⟨nofun, rfl⟩
    | some deadline =>
        by_cases late : deadline ≤ watch.journal.now
        · exact Or.inr ⟨⟨deadline, rfl, late⟩, by simp [late]⟩
        · refine Or.inl ⟨?_, by simp [late]⟩
          rintro other ⟨⟩
          exact Nat.lt_of_not_le late

/-- A watch goes on with a query that is due and answered by the deadline, and
is given up otherwise. -/
theorem next_cases (polling : Polling) (watch : Watch) :
    ((∀ deadline,
        polling.deadline = some deadline ->
          watch.journal.now + polling.interval ≤ deadline ∧
            (polling.observed (polling.ticked watch)).journal.now ≤
              deadline) ∧
      polling.next watch =
        polling.settle (polling.observed (polling.ticked watch))) ∨
    ((∃ deadline,
        polling.deadline = some deadline ∧
          ¬(watch.journal.now + polling.interval ≤ deadline ∧
            (polling.observed (polling.ticked watch)).journal.now ≤
              deadline)) ∧
      ∃ journal,
        polling.next watch =
          .ended (Watch.giveUp ⟨watch.handle, journal⟩)) := by
  unfold next
  cases polling.deadline with
  | none => exact Or.inl ⟨nofun, rfl⟩
  | some deadline =>
      simp only [Option.some.injEq, forall_eq', exists_eq_left']
      by_cases due : watch.journal.now + polling.interval ≤ deadline
      · simp only [due, if_true, true_and]
        rw [queryBy_eq]
        split
        · next inTime => exact Or.inl ⟨inTime, rfl⟩
        · next late => exact Or.inr ⟨late, _, rfl⟩
      · simp only [due, if_false, false_and, not_false_iff, true_and]
        exact Or.inr ⟨_, rfl⟩

theorem observed_outcome (polling : Polling) (watch : Watch) :
    (polling.observed watch).handle =
      watch.handle.afterOutcome
        (polling.queryOutcome watch.handle watch.journal.moment) :=
  polling.observed_handle watch

theorem observed_afterQuery (polling : Polling) (watch : Watch) :
    (polling.observed watch).journal.moment =
      polling.afterQuery watch.handle watch.journal.moment :=
  polling.observed_moment watch

omit [Url.NameConversion] in
theorem ticked_handle (polling : Polling) (watch : Watch) :
    (polling.ticked watch).handle = watch.handle := rfl

omit [Url.NameConversion] in
theorem ticked_moment (polling : Polling) (watch : Watch) :
    (polling.ticked watch).journal.moment =
      polling.nextTick watch.journal.moment := rfl

/-- Whether another query counts can be read off a watch. -/
theorem hasTime_iff (polling : Polling) (watch : Watch) :
    polling.HasTime watch.handle watch.journal.moment ↔
      ∀ deadline,
        polling.deadline = some deadline ->
          watch.journal.now < deadline ∧
            watch.journal.now + polling.interval ≤ deadline ∧
            (polling.observed (polling.ticked watch)).journal.now ≤
              deadline := by
  have arrival :
      (polling.observed (polling.ticked watch)).journal.now =
        (polling.afterQuery watch.handle
          (polling.nextTick watch.journal.moment)).now :=
    congrArg Moment.now (polling.observed_moment (polling.ticked watch))
  rw [arrival]
  rfl

/-- A query that ends a watch with a terminal status settles it. -/
theorem settles_of_settle
    {watch final : Watch}
    (ended : polling.settle (polling.observed watch) = .ended final)
    (terminal : final.handle.status.isTerminal = true) :
    polling.Settles watch.handle watch.journal.moment final.handle
      final.journal.moment := by
  rcases polling.settle_cases (polling.observed watch) with
    ⟨settled, step⟩ | ⟨-, -, step⟩ | ⟨unfinished, -, step⟩
  · rw [step] at ended
    cases ended
    rw [observed_outcome] at settled ⊢
    rw [observed_afterQuery]
    exact .last settled
  · rw [step] at ended
    exact nomatch ended
  · rw [step] at ended
    cases ended
    exact nomatch unfinished.symm.trans terminal

/-- A watch that has come to a terminal status was settled by its queries. -/
theorem settles_of_after
    {rounds : Nat}
    {watch final : Watch}
    (reached :
      polling.after rounds (polling.settle (polling.observed watch)) =
        .ended final)
    (terminal : final.handle.status.isTerminal = true) :
    polling.Settles watch.handle watch.journal.moment final.handle
      final.journal.moment := by
  induction rounds generalizing watch with
  | zero => exact settles_of_settle reached terminal
  | succ rounds inductionHypothesis =>
      rcases polling.settle_cases (polling.observed watch) with
        ⟨settled, step⟩ | ⟨unfinished, early, step⟩ | ⟨-, -, step⟩
      · rw [step, after_ended, ← step] at reached
        exact settles_of_settle reached terminal
      · rw [step] at reached
        rcases polling.next_cases (polling.observed watch) with
          ⟨inTime, next⟩ | ⟨-, journal, next⟩
        · rw [after, next] at reached
          have rest := inductionHypothesis reached
          have time :
              polling.HasTime (polling.observed watch).handle
                (polling.observed watch).journal.moment :=
            (polling.hasTime_iff _).mpr fun deadline limit =>
              ⟨early deadline limit, inTime deadline limit⟩
          rw [ticked_handle, ticked_moment] at rest
          rw [observed_outcome] at unfinished
          rw [observed_outcome, observed_afterQuery] at time rest
          exact .next unfinished time rest
        · rw [after, next, after_ended] at reached
          cases reached
          exact nomatch unfinished.symm.trans terminal
      · rw [step, after_ended, ← step] at reached
        exact settles_of_settle reached terminal

/-- A watch whose queries settle it comes to its terminal status after enough
of them. -/
theorem Settles.after
    {handle final : Handle}
    {moment ended : Moment}
    (settles : polling.Settles handle moment final ended)
    {watch : Watch}
    (sameHandle : watch.handle = handle)
    (sameMoment : watch.journal.moment = moment) :
    final.status.isTerminal = true ∧
      ∃ rounds watched,
        polling.after rounds (polling.settle (polling.observed watch)) =
            .ended watched ∧
          watched.handle = final ∧ watched.journal.moment = ended := by
  induction settles generalizing watch with
  | last terminal =>
      subst sameHandle sameMoment
      rw [← observed_outcome] at terminal ⊢
      refine ⟨terminal, 0, polling.observed watch, ?_, rfl,
        polling.observed_afterQuery watch⟩
      rw [Polling.after, settle, if_pos terminal]
  | next unfinished time rest inductionHypothesis =>
      subst sameHandle sameMoment
      rw [← observed_outcome, ← observed_afterQuery, hasTime_iff] at time
      rw [← observed_outcome] at unfinished
      obtain ⟨terminal, rounds, watched, reached, same⟩ :=
        @inductionHypothesis (polling.ticked (polling.observed watch))
          (polling.observed_outcome watch)
          (congrArg polling.nextTick (polling.observed_afterQuery watch))
      refine ⟨terminal, rounds + 1, watched, ?_, same⟩
      rcases polling.settle_cases (polling.observed watch) with
        ⟨settled, -⟩ | ⟨-, -, step⟩ | ⟨-, ⟨deadline, limit, late⟩, -⟩
      · exact nomatch unfinished.symm.trans settled
      · rcases polling.next_cases (polling.observed watch) with
          ⟨-, next⟩ | ⟨⟨deadline, limit, late⟩, -⟩
        · rw [step, Polling.after, next]
          exact reached
        · exact absurd (time deadline limit).2 late
      · exact absurd late (Nat.not_le_of_lt (time deadline limit).1)

/-- A task finishes exactly if its watch comes to a terminal status after some
number of queries. -/
theorem finishes_iff
    {origin : Watch}
    {final : Handle}
    {ended : Moment} :
    polling.Finishes origin.handle origin.journal.moment final ended ↔
      final.status.isTerminal = true ∧
        ∃ rounds watched,
          polling.after rounds (polling.start origin) = .ended watched ∧
            watched.handle = final ∧ watched.journal.moment = ended := by
  unfold Polling.start
  constructor
  · intro finishes
    cases finishes with
    | atOnce terminal =>
        refine ⟨terminal, 0, origin, ?_, rfl, rfl⟩
        rw [if_pos terminal, after_ended]
    | settled unfinished settles =>
        rw [if_neg (by simp [unfinished]), query_eq]
        exact settles.after rfl rfl
  · rintro ⟨terminal, rounds, watched, reached, rfl, rfl⟩
    by_cases atOnce : origin.handle.status.isTerminal = true
    · rw [if_pos atOnce, after_ended] at reached
      cases reached
      exact .atOnce atOnce
    · rw [if_neg atOnce, query_eq] at reached
      rw [Bool.not_eq_true] at atOnce
      exact .settled atOnce (settles_of_after reached terminal)

end Polling
end Run
end FieldOcr
