import FieldOcr.Proofs.Delivery
import FieldOcr.Proofs.Replacing
import FieldOcr.Proofs.StatusCode

/-!
# The files of a run

A run creates, changes or removes no file but the one at its destination.
That one holds the whole content if the run succeeds, and is left alone if it
does not.
-/

namespace FieldOcr
namespace Run

open RemoteTask (Handle)
open Storage (Disk Path Tree)

/-- A place is where the destination of a plan refers to. -/
def IsDestination (plan : Plan) (tree : Tree) (place : List String) : Prop :=
  ∃ text,
    plan.request.destination = some text ∧
      tree.target (tree.start (Path.ofString text))
          (Path.ofString text).parts =
        .ok (.entry place)

/-- A place is as it was in front of a run, or holds a directory that was
missing on the way to the destination. -/
def LeavesPlace
    (plan : Plan)
    (before after : Tree)
    (place : List String) : Prop :=
  match plan.request.destination with
  | none => after.node? place = before.node? place
  | some text =>
      Tree.Kept (before.start (Path.ofString text)) (Disk.holder text) before
        after place

/-- What a run makes of the files, given its record, if it has one. -/
structure Stored
    (plan : Plan)
    (record? : Option Record)
    (before after : Tree) : Prop where
  /-- It creates, changes and removes no file but the destination. -/
  others :
    ∀ place,
      ¬IsDestination plan after place -> LeavesPlace plan before after place
  /-- Without success it leaves the destination as well. -/
  unsuccessful :
    (∀ record ∈ record?, record.succeeded = false) ->
      ∀ place, LeavesPlace plan before after place
  /-- Unless writing fails, it even creates no directory then. -/
  unwritten :
    (∀ record ∈ record?,
      record.succeeded = false ∧
        ∀ path detail, record.failure ≠ some (.destination path detail)) ->
      after = before
  /-- With success the destination holds all of the encoded content. -/
  delivered :
    ∀ record ∈ record?,
      record.succeeded = true ->
        ∀ text,
          plan.request.destination = some text ->
            after.read text =
              .ok
                (plan.request.responseCharset.encode plan.encoder
                  record.content)

section

variable
  {transport : Transport}
  {plan : Plan}
  {journal fetched ended : Journal}
  {handle : Handle}
  {record : Record}
  {record? : Option Record}
  {before after : Tree}

theorem leavesPlace_refl (plan : Plan) (tree : Tree) (place : List String) :
    LeavesPlace plan tree tree place := by
  unfold LeavesPlace
  split
  · rfl
  · exact Or.inl rfl

/-- A run without success that leaves all files. -/
theorem Stored.of_unchanged
    (failed : ∀ record ∈ record?, record.succeeded = false)
    (unchanged : after = before) :
    Stored plan record? before after := by
  subst unchanged
  refine ⟨fun _ _ => leavesPlace_refl .., fun _ => leavesPlace_refl plan after,
    fun _ => rfl, ?_⟩
  intro record returned succeeded
  rw [failed record returned] at succeeded
  exact nomatch succeeded

section

variable {content : List Char} {files : Tree}

/-- Content that could not be written changes no file. -/
theorem Stored.of_not_stores
    (lawful : plan.disk.Lawful)
    (unstored : ¬Stores plan content files)
    {path detail : String}
    (failure : record.failure = some (.destination path detail)) :
    Stored plan (some record) files (filesAfter plan content files) := by
  have failed : record.succeeded = false := by
    simp [Record.succeeded, failure]
  have kept : ∀ place,
      LeavesPlace plan files (filesAfter plan content files) place := by
    unfold Stores at unstored
    unfold LeavesPlace filesAfter
    cases destination : plan.request.destination with
    | none => exact fun _ => rfl
    | some text =>
        rcases lawful.replace_kept files text
            (plan.request.responseCharset.encode plan.encoder content) with
          ⟨-, kept⟩ | ⟨done, -⟩
        · exact kept
        · simp [destination, done] at unstored
  refine ⟨fun place _ => kept place, fun _ => kept, ?_, ?_⟩
  · intro unwritten
    exact absurd failure ((unwritten record rfl).2 path detail)
  · rintro _ ⟨⟩ succeeded
    rw [failed] at succeeded
    exact absurd succeeded Bool.false_ne_true

/-- Content that was written stands at the destination in full. -/
theorem Stored.of_stores
    (lawful : plan.disk.Lawful)
    (stored : Stores plan record.content files)
    (succeeded : record.succeeded = true) :
    Stored plan (some record) files (filesAfter plan record.content files) := by
  have contradiction (failed : record.succeeded = false) : False := by
    rw [succeeded] at failed
    exact nomatch failed
  refine ⟨?_, fun failed => (contradiction (failed record rfl)).elim,
    fun failed => (contradiction (failed record rfl).1).elim, ?_⟩
  · intro place apart
    unfold LeavesPlace
    unfold IsDestination at apart
    unfold filesAfter at apart ⊢
    cases destination : plan.request.destination with
    | none => rfl
    | some text =>
        simp only [destination, Option.some.injEq, exists_eq_left'] at apart
        rcases lawful.replace_kept files text
            (plan.request.responseCharset.encode plan.encoder
              record.content) with
          ⟨⟨fault, failed⟩, -⟩ | ⟨-, -, kept⟩
        · rw [stored text destination] at failed
          exact nomatch failed
        · exact kept place apart
  · rintro _ ⟨⟩ - text destination
    unfold filesAfter
    rw [destination]
    rcases lawful.replace_kept files text
        (plan.request.responseCharset.encode plan.encoder
          record.content) with
      ⟨⟨fault, failed⟩, -⟩ | ⟨-, read, -⟩
    · rw [stored text destination] at failed
      exact nomatch failed
    · exact read

end

/-- A fetch from an address changes no file but the destination. -/
theorem FetchedFrom.stored
    (lawful : plan.disk.Lawful)
    {location : Url}
    {result : Except Abort Record}
    (ending :
      FetchedFrom transport plan location journal handle result fetched) :
    Stored plan (some (recordOf handle result)) journal.files
      fetched.files := by
  cases ending with
  | tooLarge | sizeUnavailable | downloadFailed | rejected =>
      refine .of_unchanged ?_ rfl
      rintro _ ⟨⟩
      exact Abort.record_succeeded ..
  | unwritten path detail _ _ _ unstored _ kept =>
      rw [kept]
      exact .of_not_stores lawful unstored (Abort.record_failure ..)
  | delivered _ _ _ stored _ kept =>
      rw [kept]
      exact .of_stores lawful stored rfl

/-- Making a record changes no file but the destination. -/
theorem Fetched.stored
    (lawful : plan.disk.Lawful)
    (ending : Fetched transport plan journal handle record fetched) :
    Stored plan (some record) journal.files fetched.files := by
  cases ending with
  | stopped | givenUp | unfinished | unlocated =>
      refine .of_unchanged ?_ rfl
      rintro _ ⟨⟩
      rfl
  | fetched _ _ ended => exact ended.stored lawful

/-- However a run goes, it changes no file but the destination. -/
theorem Performed.stored
    [Url.NameConversion]
    (lawful : plan.disk.Lawful)
    {rounds : Nat}
    (performed : Performed transport plan journal rounds record? ended) :
    Stored plan record? journal.files ended.files := by
  have unsubmitted (failure : RemoteTask.Failure) :
      ∀ record ∈ some (Record.unsubmitted failure),
        record.succeeded = false := by
    rintro _ ⟨⟩
    rfl
  cases performed with
  | unloaded missing still told =>
      refine .of_unchanged (unsubmitted _) ?_
      rw [told, Journal.tell_files, afterSource_files]
  | unreported given unreported still told =>
      refine .of_unchanged (unsubmitted _) ?_
      rw [told, Journal.tell_files, afterSubmission_files]
  | watching given reported progress =>
      obtain ⟨queries, -, follows⟩ := Polling.follows_of_after_start progress
      refine .of_unchanged
        (fun _ returned => absurd returned (Option.not_mem_none _)) ?_
      rw [follows.1.files, submittedWatch_files]
  | fetched given reported progress ending still told =>
      obtain ⟨queries, -, follows⟩ := Polling.follows_of_after_start progress
      rw [told, Journal.tell_files, ← follows.files]
      exact ending.stored lawful

end

/-- Every run, after any number of status queries, leaves all files but its
destination, and writes this one in full or not at all, if the disk keeps its
promises.  What holds of a run that has its record is what holds of a
performed run. -/
theorem files_stored
    [Url.NameConversion]
    (rounds : Nat)
    (transport : Transport)
    (plan : Plan)
    (journal : Journal)
    (lawful : plan.disk.Lawful) :
    Stored plan (performFor rounds transport plan journal).1 journal.files
        (performFor rounds transport plan journal).2.files ∧
      perform rounds transport plan journal =
        (performFor rounds transport plan journal).1.map
          (⟨·, (performFor rounds transport plan journal).2⟩) :=
  ⟨(performFor_performed transport plan journal rounds).stored lawful,
    perform_eq rounds transport plan journal⟩

/-! ## A text that is delivered into a new directory -/

/-- A plan for a plain text that is kept below a directory that is missing. -/
def textPlan : Plan :=
  { narrowPlan with
    request :=
      { narrowPlan.request with
        exportFormat := .txt
        destination := some "out/result.txt"
        responseCharset := .utf16 .little } }

/-- A service that has every task completed at once, with a short text. -/
def textService : Transport := fun earlier request =>
  match request.method with
  | .post => promptService earlier request
  | .head =>
      ⟨30, .response { status := 200, headers := [("Content-Length", "2")] }⟩
  | .get => ⟨30, .response { status := 200, body := [104, 105] }⟩

/-- The text stands at the destination, two bytes for each character. -/
theorem files_stored_textPlan :
    textPlan.disk.Lawful ∧
      ∃ record ended,
        performFor 0 textService textPlan journalWithSource =
            (some record, ended) ∧
          Stored textPlan (some record) journalWithSource.files ended.files ∧
          record.succeeded = true ∧
          ended.files.read "out/result.txt" = .ok [104, 0, 105, 0] ∧
          ended.files.node? ["work", "out"] = some .directory := by
  have lawful : textPlan.disk.Lawful := Disk.ordinary_lawful
  have stored :=
    (files_stored 0 textService textPlan journalWithSource lawful).1
  have known :
      (performFor 0 textService textPlan journalWithSource).1.map
          (fun record => (record.succeeded, record.content)) =
        some (true, ['h', 'i']) := by
    decide +kernel
  have made :
      (performFor 0 textService textPlan
        journalWithSource).2.files.node? ["work", "out"] =
        some .directory := by
    decide +kernel
  obtain ⟨record, returned, known⟩ := Option.map_eq_some_iff.mp known
  have succeeded : record.succeeded = true := congrArg Prod.fst known
  have content : record.content = ['h', 'i'] := congrArg Prod.snd known
  rw [returned] at stored
  have read := stored.delivered record rfl succeeded "out/result.txt" rfl
  rw [content] at read
  exact ⟨lawful, record, _, Prod.ext returned rfl, stored, succeeded, read,
    made⟩

end Run
end FieldOcr
