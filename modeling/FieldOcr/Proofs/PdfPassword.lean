import FieldOcr.Proofs.FormReading
import FieldOcr.Proofs.StatusCode
import FieldOcr.Proofs.TwoRuns

/-!
# Where the password of a document shows

The password of a document is sent with the submission of its task, in the
query of the address.  A submission that gets no response has this address in
its failure, and so in the record.  In no other case does the record of a run,
or anything that an observer is told, depend on the password.
-/

namespace FieldOcr

/-- A request with a password for its document. -/
def Request.withPdfPassword (request : Request) (password : String) : Request :=
  { request with pdfPassword := some password }

namespace Service

/-- The address of a submission tells the password. -/
theorem submitUrl_injective
    (request : Request)
    {first second : String}
    (same :
      (submitUrl (request.withPdfPassword first)).render =
        (submitUrl (request.withPdfPassword second)).render) :
    first = second := by
  have queries :
      Url.encodePairs
          (submissionParameters (request.withPdfPassword first)) =
        Url.encodePairs
          (submissionParameters (request.withPdfPassword second)) := by
    have texts := String.ofList_injective same
    simpa [Url.toText, submitUrl, endpoint, Url.renderAuthority,
      Url.renderUserinfo, Url.renderPart, Request.withPdfPassword] using texts
  have parameters := Url.encodePairs_injective queries
  unfold submissionParameters at parameters
  have last :
      [parameter "pdfPassword" first] = [parameter "pdfPassword" second] :=
    List.append_cancel_left (List.append_cancel_right parameters)
  exact String.toList_injective
    (congrArg Prod.snd (List.singleton_inj.mp last))

/-- The wording of a missing response tells the address. -/
theorem result_injective
    {outcome : Http.Outcome}
    {url other : Url}
    {message : String}
    (first : outcome.result url = .error message)
    (second : outcome.result other = .error message) :
    url.render = other.render := by
  have same := first.trans second.symm
  cases outcome with
  | response received => exact nomatch first
  | timedOut | noConnection reason | failed reason =>
      simp only [Http.Outcome.result, Except.error.injEq,
        String.append_left_inj, String.append_right_inj] at same
      exact same

/-- A response is read in the same way wherever it comes from, and what has no
response has a wording that names the address. -/
theorem readTaskReply_cases_url [Url.NameConversion] (outcome : Http.Outcome) :
    (outcome.statusCode? ≠ none ∧
      ∀ url other, readTaskReply url outcome = readTaskReply other outcome) ∨
    (outcome.statusCode? = none ∧
      ∀ url,
        ∃ message,
          outcome.result url = .error message ∧
            readTaskReply url outcome = .error ⟨none, message⟩) := by
  cases outcome with
  | response received => exact Or.inl ⟨nofun, fun _ _ => rfl⟩
  | timedOut | noConnection reason | failed reason =>
      exact Or.inr ⟨rfl, fun url => ⟨_, rfl, rfl⟩⟩

end Service

namespace Run

open RemoteTask (Failure Handle)

/-- A plan with a password for its document. -/
def Plan.withPdfPassword (plan : Plan) (password : String) : Plan :=
  { plan with request := plan.request.withPdfPassword password }

/-- Requests are the same, or submit the same payload with one of two passwords
each. -/
inductive SameButPassword
    (request : Request)
    (first second : String) : Http.Request -> Http.Request -> Prop
  | same (sent : Http.Request) : SameButPassword request first second sent sent
  | submission (payload : List UInt8) :
      SameButPassword request first second
        (Service.submission (request.withPdfPassword first) payload)
        (Service.submission (request.withPdfPassword second) payload)

/-- The task of a plan is submitted, and there is no response. -/
def Unanswered
    [Url.NameConversion]
    (transport : Transport)
    (plan : Plan)
    (journal : Journal) : Prop :=
  ∃ payload,
    payload? transport plan.request journal = some payload ∧
      (submissionOutcome transport plan.request payload journal).statusCode? =
        none

/-- Reports are of runs that are alike, with the same record unless this is
about a submission without a response. -/
structure SameButMessage
    (request : Request)
    (first second : String)
    (report twin : Report) : Prop where
  /-- The journals are alike. -/
  journal :
    JournalsAlike (SameButPassword request first second) report.journal
      twin.journal
  /-- The records are the same but for the wording of the failure. -/
  record :
    twin.record = report.record ∨
      ∃ message twinMessage,
        report.record = .unsubmitted (.submission none message) ∧
          twin.record = .unsubmitted (.submission none twinMessage)

/-- Two runs fail alike but for a message, which tells the passwords apart. -/
structure ToldApart
    {α : Type}
    (request : Request)
    (first second : String)
    (failed : String -> α)
    (result twin : α × Journal) : Prop where
  /-- The failures are those of two messages, which differ with the
  passwords. -/
  failures :
    ∃ message twinMessage,
      result.1 = failed message ∧ twin.1 = failed twinMessage ∧
        (twinMessage = message ↔ first = second)
  /-- The journals are alike. -/
  journal : JournalsAlike (SameButPassword request first second) result.2 twin.2

variable
  {transport twinTransport : Transport}
  {plan : Plan}
  {journal : Journal}
  {first second : String}

section

variable
  (transports :
    TransportsAlike (SameButPassword plan.request first second) transport
      twinTransport)

include transports

/-- The same payload is submitted with two passwords in the same way, unless
there is no response.  Then the failures name the addresses. -/
theorem submitPayload_alike
    [Url.NameConversion]
    (payload : List UInt8)
    {loaded twinLoaded : Journal}
    (journals :
      JournalsAlike (SameButPassword plan.request first second) loaded
        twinLoaded) :
    let request := plan.request.withPdfPassword first
    let twinRequest := plan.request.withPdfPassword second
    let code :=
      (loaded.moment.outcome transport
        (Service.submission request payload)).statusCode?
    (code ≠ none ∧
      ResultsAlike (SameButPassword plan.request first second)
        (submitPayload transport request payload loaded)
        (submitPayload twinTransport twinRequest payload twinLoaded)) ∨
    (code = none ∧
      ToldApart plan.request first second (.error <| .submission none ·)
        (submitPayload transport request payload loaded)
        (submitPayload twinTransport twinRequest payload twinLoaded)) := by
  intro request twinRequest code
  have alike :
      SameButPassword plan.request first second
        (Service.submission request payload)
        (Service.submission twinRequest payload) :=
    .submission payload
  have answered := journals.answered alike transports
  unfold submitPayload
  simp only [exchange_eq]
  rw [journals.outcome_eq alike transports]
  rcases Service.readTaskReply_cases_url
      (loaded.moment.outcome transport (Service.submission request payload))
    with ⟨coded, same⟩ | ⟨uncoded, wording⟩
  · left
    refine ⟨coded, ?_⟩
    rw [same (Service.submission twinRequest payload).url
      (Service.submission request payload).url]
    split
    · exact ⟨rfl, answered⟩
    · exact ⟨rfl, answered.tell _⟩
  · right
    obtain ⟨message, worded, read⟩ :=
      wording (Service.submission request payload).url
    obtain ⟨twinMessage, twinWorded, twinRead⟩ :=
      wording (Service.submission twinRequest payload).url
    rw [read, twinRead]
    refine ⟨uncoded, ⟨message, twinMessage, rfl, rfl, ?_, ?_⟩, answered⟩
    · rintro rfl
      exact Service.submitUrl_injective plan.request
        (Service.result_injective worded twinWorded)
    · rintro rfl
      exact Except.error.inj (twinWorded.symm.trans worded)

/-- Tasks are submitted with two passwords in the same way, unless there is no
response.  Then the failures tell the passwords apart. -/
theorem submit_alike [Url.NameConversion] :
    (¬Unanswered transport (plan.withPdfPassword first) journal ∧
      ResultsAlike (SameButPassword plan.request first second)
        (submit transport (plan.withPdfPassword first).request journal)
        (submit twinTransport (plan.withPdfPassword second).request
          journal)) ∨
    (Unanswered transport (plan.withPdfPassword first) journal ∧
      ToldApart plan.request first second (.error <| .submission none ·)
        (submit transport (plan.withPdfPassword first).request journal)
        (submit twinTransport (plan.withPdfPassword second).request
          journal)) := by
  have loading :=
    loadSource_alike .same transports (.refl .same journal)
      plan.request.source plan.request.transport.callTimeout
  obtain ⟨value, loaded, twinLoaded, load, twinLoad, loadedAlike⟩ :=
    loading.exists_eq
  have twinSource :
      loadSource twinTransport (plan.withPdfPassword second).request.source
          (plan.withPdfPassword second).request.transport.callTimeout
          journal =
        (value, twinLoaded) := twinLoad
  unfold Unanswered submit
  rw [twinSource]
  rcases loadSource_cases transport (plan.withPdfPassword first).request
      journal with
    ⟨payload, given, source⟩ | ⟨detail, missing, source⟩
  · obtain ⟨rfl, rfl⟩ := Prod.mk.inj (load.symm.trans source)
    rw [source, given]
    simp only [Option.some.injEq, exists_eq_left']
    exact (submitPayload_alike transports payload loadedAlike).imp_left
      (fun ⟨coded, same⟩ => ⟨coded, same⟩)
  · obtain ⟨rfl, rfl⟩ := Prod.mk.inj (load.symm.trans source)
    rw [source, missing]
    exact Or.inl ⟨by simp, rfl, loadedAlike⟩

/-- Runs with two passwords go in the same way, unless the submission gets no
response.  Then their records tell the passwords apart. -/
theorem performFor_alike [Url.NameConversion] (rounds : Nat) :
    (¬Unanswered transport (plan.withPdfPassword first) journal ∧
      ResultsAlike (SameButPassword plan.request first second)
        (performFor rounds transport (plan.withPdfPassword first) journal)
        (performFor rounds twinTransport (plan.withPdfPassword second)
          journal)) ∨
    (Unanswered transport (plan.withPdfPassword first) journal ∧
      ToldApart plan.request first second
        (some <| .unsubmitted <| .submission none ·)
        (performFor rounds transport (plan.withPdfPassword first) journal)
        (performFor rounds twinTransport (plan.withPdfPassword second)
          journal)) := by
  unfold performFor
  rcases submit_alike transports with
    ⟨answered, submission⟩ | ⟨unanswered, failures, journals⟩
  · left
    refine ⟨answered, ?_⟩
    obtain ⟨value, submitted, twinSubmitted, left, right, journals⟩ :=
      submission.exists_eq
    rw [left, right]
    cases value with
    | error failure => exact ⟨rfl, journals.tell _⟩
    | ok handle =>
        have pollings :
            PollingsAlike (SameButPassword plan.request first second)
              (pollingFrom transport (plan.withPdfPassword first).request
                (plan.withPdfPassword first).options.poll submitted.now)
              (pollingFrom twinTransport (plan.withPdfPassword second).request
                (plan.withPdfPassword second).options.poll
                twinSubmitted.now) :=
          ⟨transports, fun _ => rfl, rfl, by rw [journals.now]; rfl⟩
        have watches :
            WatchesAlike (SameButPassword plan.request first second)
              ⟨handle, submitted⟩ ⟨handle, twinSubmitted⟩ :=
          ⟨rfl, journals⟩
        have progresses :=
          Polling.after_alike .same pollings rounds
            (Polling.start_alike .same pollings watches)
        simp only
        generalize Polling.after _ rounds _ = progress at progresses ⊢
        generalize Polling.after _ rounds _ = twinProgress at progresses ⊢
        cases progresses with
        | watching watches => exact ⟨rfl, watches.journal⟩
        | @ended watch twin watches =>
            obtain ⟨record, fetched, twinFetched, left, right, journals⟩ :=
              (fetch_alike .same transports watches.journal plan
                watch.handle).exists_eq
            rw [← watches.handle] at right
            have fetches :
                fetch transport (plan.withPdfPassword first) watch.handle
                    watch.journal =
                  (record, fetched) := left
            have twinFetches :
                fetch twinTransport (plan.withPdfPassword second) twin.handle
                    twin.journal =
                  (record, twinFetched) := right
            simp only [fetches, twinFetches]
            exact ⟨rfl, journals.tell _⟩
  · right
    obtain ⟨message, twinMessage, failed, twinFailed, told⟩ := failures
    have left : submit transport _ journal = (_, _) := Prod.ext failed rfl
    have right : submit twinTransport _ journal = (_, _) :=
      Prod.ext twinFailed rfl
    rw [left, right]
    exact ⟨unanswered, ⟨message, twinMessage, rfl, rfl, told⟩,
      journals.tell _⟩

end

/-- The outputs of a record tell the wording of its failure. -/
theorem Record.failureText_of_outputs
    {record twin : Record}
    (same : twin.outputs = record.outputs) :
    twin.failureText = record.failureText := by
  have error (record : Record) :
      record.outputs.lookup "error" = some record.failureText := rfl
  have told :
      twin.outputs.lookup "error" = record.outputs.lookup "error" := by
    rw [same]
  rw [error twin, error record] at told
  exact Option.some.inj told

/-- The outputs of two submissions without a response are the same exactly if
their failures have the same wording. -/
theorem outputs_unsubmitted_iff {message twinMessage : String} :
    (Record.unsubmitted (.submission none twinMessage)).outputs =
        (Record.unsubmitted (.submission none message)).outputs ↔
      twinMessage = message := by
  constructor
  · intro same
    have wordings :
        (Failure.submission none twinMessage).message =
          (Failure.submission none message).message :=
      Record.failureText_of_outputs same
    unfold Failure.message at wordings
    exact (String.append_right_inj _).mp wordings
  · intro same
    rw [same]

/-- Runs with two passwords for the same document return the same record, and
the same outputs, unless the passwords differ and the submission gets no
response.  In any case they make the same calls but for the submission, tell
the same and leave the same files. -/
theorem record_shows_pdfPassword_iff
    [Url.NameConversion]
    (rounds : Nat)
    (plan : Plan)
    (journal : Journal)
    {transport twinTransport : Transport}
    {first second : String}
    (transports :
      TransportsAlike (SameButPassword plan.request first second) transport
        twinTransport) :
    let report? :=
      perform rounds transport (plan.withPdfPassword first) journal
    let twin? :=
      perform rounds twinTransport (plan.withPdfPassword second) journal
    let shown :=
      Unanswered transport (plan.withPdfPassword first) journal ∧
        first ≠ second
    Option.Rel (SameButMessage plan.request first second) report? twin? ∧
      (twin?.map (·.record) = report?.map (·.record) ↔ ¬shown) ∧
      (twin?.map (·.record.outputs) = report?.map (·.record.outputs) ↔
        ¬shown) := by
  intro report? twin? shown
  simp only [report?, twin?, shown, perform_eq]
  rcases performFor_alike transports rounds with
    ⟨answered, results⟩ | ⟨unanswered, failures, journals⟩
  · obtain ⟨record?, ended, twinEnded, left, right, journals⟩ :=
      results.exists_eq
    rw [left, right]
    refine ⟨?_, iff_of_true ?_ fun shown => answered shown.1,
      iff_of_true ?_ fun shown => answered shown.1⟩
    · cases record? with
      | none => exact .none
      | some record => exact .some ⟨journals, Or.inl rfl⟩
    · cases record? <;> rfl
    · cases record? <;> rfl
  · obtain ⟨message, twinMessage, failed, twinFailed, told⟩ := failures
    rw [failed, twinFailed]
    have same : first = second ↔ ¬(Unanswered transport
        (plan.withPdfPassword first) journal ∧ first ≠ second) := by
      simp [unanswered]
    refine ⟨.some ⟨journals, Or.inr ⟨message, twinMessage, rfl, rfl⟩⟩, ?_, ?_⟩
    · rw [← same, ← told]
      simp only [Option.map_some, Option.some.injEq, Record.unsubmitted,
        Record.mk.injEq, Failure.submission.injEq, Failure.statusCode?,
        true_and]
    · rw [← same, ← told, ← outputs_unsubmitted_iff]
      simp

/-! ## A submission without a response -/

/-- A service that never answers. -/
def silentService : Transport := fun _ _ => ⟨20, .timedOut⟩

/-- The records of two submissions that time out differ by their passwords. -/
theorem record_shows_pdfPassword_iff_silentService :
    TransportsAlike (SameButPassword narrowPlan.request "open" "sesame")
        silentService silentService ∧
      Unanswered silentService (narrowPlan.withPdfPassword "open")
        journalWithSource ∧
      (perform 0 silentService (narrowPlan.withPdfPassword "sesame")
          journalWithSource).map (·.record) ≠
        (perform 0 silentService (narrowPlan.withPdfPassword "open")
          journalWithSource).map (·.record) := by
  have alike :
      TransportsAlike (SameButPassword narrowPlan.request "open" "sesame")
        silentService silentService := fun _ _ => rfl
  have unanswered :
      Unanswered silentService (narrowPlan.withPdfPassword "open")
        journalWithSource :=
    ⟨[7], by decide +kernel, rfl⟩
  have law := record_shows_pdfPassword_iff 0 narrowPlan journalWithSource alike
  exact ⟨alike, unanswered,
    fun same => law.2.1.mp same ⟨unanswered, by decide⟩⟩

end Run
end FieldOcr
