import RecordQuery.Proofs.CommandLine.Job
import RecordQuery.Proofs.Reference.Reading
import RecordQuery.Reference.Arguments
import RecordQuery.Reference.Engine
import RecordQuery.Reference.LogFilter
/-!
# How a command line ends

A command line that succeeds writes the page of its query, one record on each
line, and one that fails writes nothing (`Outcome.ofLine_settled`). The program
asks its surroundings for what it needs step by step, and its outcome is the one
that follows from all that they hold (`Outcome.ofLineIn_pure`).
-/

namespace RecordQuery

open Json

/-! ## Arguments -/

section

variable [ArgumentReader] {line : List String}

/-- A policy is not given without the object that it needs. -/
theorem Arguments.object_ne_none (hreader : ArgumentReader.Conforms) {a : Arguments}
    (ha : Arguments.ofLine line = .ok a) (hpolicy : a.policy ≠ none) : a.object ≠ none := by
  obtain ⟨value, hvalue, ha⟩ := bind_eq_ok ha
  cases ha
  exact hreader.needed_set hvalue rfl hpolicy

/-- A line that is refused by the library ends with a failure and without output. -/
theorem Outcome.ofHalt_of_refused (hreader : ArgumentReader.Conforms) {halt : Halt}
    (h : Arguments.ofLine line = .error halt) (hasks : ∀ text, halt ≠ .asked text) :
    (ofHalt halt).status ≠ 0 ∧ (ofHalt halt).output = "" := by
  have hread : ArgumentReader.read line = .error halt := bind_return_eq_error.1 h
  cases halt with
  | asked text => exact absurd rfl (hasks text)
  | refused status report => exact ⟨hreader.status_ne_zero hread, rfl⟩

end

/-! ## Outcomes -/

section

variable [PatternEngine] [Format] [LogFilterReader] [ArgumentReader]
variable {env : String → Option String} {files : String → Except String String}
variable {input : ByteArray} {line : List String} {a : Arguments}

/-- That a step of a command line fails. -/
inductive StepFails (line : List String) (env : String → Option String)
    (files : String → Except String String) (input : ByteArray) : Prop
  | arguments {halt : Halt} (h : Arguments.ofLine line = .error halt)
  | job {a : Arguments} (ha : Arguments.ofLine line = .ok a)
      (h : Job.StepFails a env files input)

namespace Outcome

theorem ofLine_of_ok (ha : Arguments.ofLine line = .ok a) :
    ofLine line env files input = ofResult (Job.run a env files input) := by
  rw [ofLine, ha]

/-- **The program computes the outcome** of what it gets from its surroundings,
whatever else it does when it asks for them. -/
theorem ofLineIn_pure {m : Type → Type} [Monad m] [LawfulMonad m] :
    ofLineIn (⟨pure env, fun path => pure (files path), pure input⟩ : Surroundings m) line =
      pure (ofLine line env files input) := by
  rw [ofLineIn, ofLine]
  cases Arguments.ofLine line with
  | error halt => rfl
  | ok a =>
    simp only [pure_bind, Job.run]
    cases Job.prepare a env with
    | error e => rfl
    | ok j =>
      change _ = pure (ofResult (j.permit files >>= fun _ => j.output input))
      -- the file of the policy is the only one that is looked at
      cases hp : j.policy? with
      | none =>
        have hpermit : j.permit (fun _ => .ok "") = j.permit files := by
          rw [Job.permit, Job.permit, hp]
        simp only [hp, hpermit]
        cases j.permit files <;> rfl
      | some named =>
        have hpermit : j.permit (fun _ => files named.1) = j.permit files := by
          rw [Job.permit, Job.permit, hp]
        simp only [hp, hpermit]
        cases j.permit files <;> rfl

theorem stepFails_iff (ha : Arguments.ofLine line = .ok a) :
    StepFails line env files input ↔ ∃ e, Job.run a env files input = .error e := by
  rw [Job.exists_run_eq_error]
  refine ⟨fun h => ?_, .job ha⟩
  cases h with
  | arguments he => exact absurd he (ne_error_of_eq_ok ha)
  | job ha' h =>
    obtain rfl := Except.ok.inj (ha.symm.trans ha')
    exact h

/-- A step that fails is what makes a command line fail, and then it writes
nothing. -/
theorem stepFails_iff_status (hreader : ArgumentReader.Conforms)
    (hasks : ∀ text, Arguments.ofLine line ≠ .error (.asked text)) :
    (StepFails line env files input ↔ (ofLine line env files input).status ≠ 0) ∧
      (StepFails line env files input → (ofLine line env files input).output = "") := by
  cases ha : Arguments.ofLine line with
  | error halt =>
    obtain ⟨hstatus, houtput⟩ := ofHalt_of_refused hreader ha fun text h => hasks text (h ▸ ha)
    rw [ofLine, ha]
    exact ⟨iff_of_true (.arguments ha) hstatus, fun _ => houtput⟩
  | ok a =>
    rw [stepFails_iff ha, ofLine_of_ok ha]
    cases Job.run a env files input with
    | error e => exact ⟨iff_of_true ⟨e, rfl⟩ (by decide : (1 : UInt32) ≠ 0), fun _ => rfl⟩
    | ok text =>
      have hfine : ¬ ∃ e, Except.ok text = (Except.error e : Except JobError String) := nofun
      exact ⟨iff_of_false hfine fun h => h rfl, fun h => absurd h hfine⟩

/-- A command line that succeeds is a job carried out. -/
theorem carriedOut_of_status (hreader : ArgumentReader.Conforms)
    (hasks : ∀ text, Arguments.ofLine line ≠ .error (.asked text))
    (h : (ofLine line env files input).status = 0) :
    ∃ a q records page info, Arguments.ofLine line = .ok a ∧
      Job.CarriedOut a env files input q records page info ∧
      (ofLine line env files input).output = textOfRecords page := by
  have hfine : ¬ StepFails line env files input :=
    fun hfails => (stepFails_iff_status hreader hasks).1.1 hfails h
  obtain ⟨a, ha⟩ := exists_eq_ok fun halt he => hfine (.arguments he)
  obtain ⟨q, records, page, info, hcarried⟩ :=
    Job.exists_carriedOut fun hfails => hfine (.job ha hfails)
  refine ⟨a, q, records, page, info, ha, hcarried, ?_⟩
  rw [ofLine_of_ok ha, Job.run_eq_ok.2 ⟨q, records, page, info, hcarried, rfl⟩]
  rfl

/-- **How a command line ends** that does not ask for a text such as help. If any of its
steps fails, it fails and writes nothing. Otherwise it writes the page of its query over
the records that the input holds, one record on each line and no more than the greatest
limit, and the policy that it names permits the query. What a policy refuses is refused
for the same reason whatever the input. -/
theorem ofLine_settled (hreader : ArgumentReader.Conforms) (hformat : Format.Conforms)
    (env : String → Option String) (files : String → Except String String) (input : ByteArray)
    (hasks : ∀ text, Arguments.ofLine line ≠ .error (.asked text)) :
    (StepFails line env files input ↔ (ofLine line env files input).status ≠ 0) ∧
    (StepFails line env files input → (ofLine line env files input).output = "") ∧
    ((ofLine line env files input).status = 0 → ∃ a q records page info,
      Arguments.ofLine line = .ok a ∧
      Job.CarriedOut a env files input q records page info ∧
      pieces '\n' (ofLine line env files input).output.toList =
        page.map (·.compact Format.numeral) ++ [[]] ∧
      page.length ≤ (Config.ofEnvironment env).maxLimit.toNat ∧
      ∀ path, a.policy = some path → ∃ object table, a.object = some object ∧
        loadPolicy path (files path) = .ok table ∧
        table.validate object q.filter.filter (some q.sorting) = .ok ()) ∧
    ∀ a object cause, Arguments.ofLine line = .ok a →
      (Job.run a env files input = .error (.query (.notPermitted object cause)) ↔
        Job.Refused a env files object cause) ∧
      (Job.Refused a env files object cause → ∀ input',
        ofLine line env files input' =
          ofResult (.error (.query (.notPermitted object cause)))) := by
  refine ⟨(stepFails_iff_status hreader hasks).1, (stepFails_iff_status hreader hasks).2,
    fun h => ?_, fun a object cause ha => ⟨Job.run_eq_notPermitted, ?_⟩⟩
  · obtain ⟨a, q, records, page, info, ha, hcarried, htext⟩ :=
      carriedOut_of_status hreader hasks h
    refine ⟨a, q, records, page, info, ha, hcarried, ?_, ?_, fun path hpath => ?_⟩
    · rw [htext, pieces_textOfRecords hformat]
      simp only [hformat.toList_text]
    · obtain ⟨-, rfl, -⟩ := Query.run_eq_ok.1 hcarried.found
      exact Query.length_window_le _ _ _
    · have hpolicy : a.policy ≠ none := hpath ▸ Option.some_ne_none path
      obtain ⟨object, hobject⟩ :=
        Option.ne_none_iff_exists'.1 (Arguments.object_ne_none hreader ha hpolicy)
      obtain ⟨table, htable, hvalid⟩ := hcarried.permitted path object hpath hobject
      exact ⟨object, table, hobject, htable, hvalid⟩
  · intro hrefused input'
    rw [ofLine_of_ok ha, Job.run_eq_notPermitted.2 hrefused]

end Outcome

end

section

open Reference

/-- The reader of long arguments refuses with a failure, and settles what is needed. -/
theorem argumentReader_conforms : ArgumentReader.Conforms where
  status_ne_zero {line status report} h := by
    change (readArguments line).mapError Reason.halt = _ at h
    cases hread : readArguments line with
    | ok value => rw [hread] at h; cases h
    | error reason =>
      rw [hread] at h
      cases reason <;> cases h <;> decide
  needed_set {line value p q} h hq hp := by
    change (readArguments line).mapError Reason.halt = _ at h
    cases hread : readArguments line with
    | error reason => rw [hread] at h; cases h
    | ok found =>
      rw [hread] at h
      cases h
      obtain ⟨r, -, hr⟩ := bind_eq_ok hread
      split at hr
      · cases hr
      · next hnone =>
        cases hr
        have hmem : p ∈ Parameter.all := by cases p <;> decide
        have hlacks := List.find?_eq_none.1 hnone p hmem
        simpa [lacksNeeded, hq, hp, ← Option.ne_none_iff_isSome] using hlacks

end

namespace Outcome

section

open Reference

/-- An order by the name of users, and a file of policies. -/
def namesLine : List String := ["--policy=policies.json", "--object=User", "--order-by=name"]

/-- What the order asks for. -/
def namesArguments : Arguments := ⟨⟨"", "name", "", ""⟩, some "policies.json", some "User"⟩

/-- The first user of a file, and the same file of policies. -/
def firstLine : List String := ["--policy=policies.json", "--object=User", "--limit=1"]

/-- What is asked for the first user. -/
def firstArguments : Arguments := ⟨⟨"", "", "1", ""⟩, some "policies.json", some "User"⟩

/-- A table that does not let users be sorted by their names. -/
def namesTable : PolicyTable :=
  PolicyTable.empty.insert "User" "name" FieldPolicy.unrestricted.withoutSorting

/-- Files that hold the table. -/
def namesFiles (_ : String) : Except String String := .ok namesTable.encode.text

/-- An environment in which nothing is logged. -/
def silence (name : String) : Option String := if name = "LOG_LEVEL" then some "" else none

/-- A user with a name. -/
def user (name : String) : Value := .object [("name", .string name)]

/-- Two users on lines. -/
def users : ByteArray := (textOfRecords [user "Bo", user "Al"]).toUTF8

theorem ofLine_namesLine : Arguments.ofLine namesLine = .ok namesArguments := rfl

theorem ofLine_firstLine : Arguments.ofLine firstLine = .ok firstArguments := rfl

theorem loadPolicy_namesFiles (path : String) :
    loadPolicy path (namesFiles path) = .ok namesTable := by
  have htable : PolicyTable.ofJson? namesTable.encode.text = some namesTable := by
    rw [PolicyTable.ofJson?, format_conforms.read_of_writtenAs (writtenAs_text _)]
    rfl
  simp only [loadPolicy, namesFiles, htable]

theorem recordsIn_users : RecordsIn users [user "Bo", user "Al"] := by
  refine recordsIn_textOfRecords format_conforms format_readsFloatsBack ?_
  rw [List.forall_mem_cons, List.forall_mem_singleton]
  exact ⟨(parse?_text (user "Bo")).trans rfl, (parse?_text (user "Al")).trans rfl⟩

/-- The order is refused, as the table forbids it. -/
theorem namesArguments_refused :
    Job.Refused namesArguments silence namesFiles "User" (.sortingDisabled "name") :=
  ⟨rfl, rfl, "policies.json", namesTable,
    ⟨⟨none, [], rfl⟩, ⟨[⟨"name", .ascending⟩]⟩, ⟨0, 0, ""⟩⟩, rfl, rfl,
    loadPolicy_namesFiles _, rfl, rfl⟩

/-- The first user is found, as the table does not forbid that. -/
theorem firstArguments_carriedOut :
    Job.CarriedOut firstArguments silence namesFiles users ⟨⟨none, [], rfl⟩, ⟨[]⟩, ⟨1, 0, ""⟩⟩
      [user "Bo", user "Al"] [user "Bo"] ⟨"", 1, 1⟩ := by
  refine ⟨rfl, rfl, rfl, ?_, recordsIn_users, rfl⟩
  rintro path object - hobject
  cases hobject
  exact ⟨namesTable, loadPolicy_namesFiles path, rfl⟩

theorem ofLine_firstLine_users :
    ofLine firstLine silence namesFiles users = ⟨0, "\x7b\"name\":\"Bo\"\x7d\n", []⟩ := by
  rw [ofLine_of_ok ofLine_firstLine,
    Job.run_eq_ok.2 ⟨_, _, _, _, firstArguments_carriedOut, rfl⟩]
  rfl

/-- The order is refused, and would be whatever the input. The first user is written, as the
policy does not forbid it, and no step of that fails. -/
theorem policyLines_end :
    (∀ text, Arguments.ofLine namesLine ≠ .error (.asked text)) ∧
    (∀ text, Arguments.ofLine firstLine ≠ .error (.asked text)) ∧
    (∀ input, ofLine namesLine silence namesFiles input =
      ⟨1, "", ["query not permitted for User", "sorting is not allowed for 'name'"]⟩) ∧
    ¬ StepFails firstLine silence namesFiles users ∧
    ofLine firstLine silence namesFiles users = ⟨0, "\x7b\"name\":\"Bo\"\x7d\n", []⟩ := by
  have hasks {line : List String} {a : Arguments} (h : Arguments.ofLine line = .ok a)
      (text : String) : Arguments.ofLine line ≠ .error (.asked text) := ne_error_of_eq_ok h
  have hnames := ofLine_settled argumentReader_conforms format_conforms silence namesFiles .empty
    (hasks ofLine_namesLine)
  have hfirst := ofLine_settled argumentReader_conforms format_conforms silence namesFiles users
    (hasks ofLine_firstLine)
  refine ⟨hasks ofLine_namesLine, hasks ofLine_firstLine, ?_, fun hfails => ?_,
    ofLine_firstLine_users⟩
  · obtain ⟨-, -, -, hrefusal⟩ := hnames
    exact (hrefusal _ _ _ ofLine_namesLine).2 namesArguments_refused
  · exact hfirst.1.1 hfails (congrArg Outcome.status ofLine_firstLine_users)

end

end Outcome

end RecordQuery
