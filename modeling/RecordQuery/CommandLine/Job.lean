import RecordQuery.CommandLine.Arguments
import RecordQuery.CommandLine.LogFilter
/-!
# Jobs — a command line carried out

A job is made ready from the arguments and the environment, then checked
against the policy that the arguments name, and only then does it read records
and write its page. Each step may fail, and a failure leaves nothing to write:
the page is written as a whole or not at all.
-/

namespace RecordQuery

/-- Why a job fails. -/
inductive JobError where
  | logFilter (text : String) (reports : List String)
  | config (cause : ConfigError)
  | query (cause : QueryError)

namespace JobError

/-- What failed, and why. -/
def messages : JobError → List String
  | logFilter text reports => ("invalid log level filter: " ++ text) :: reports
  | config cause => ["invalid configuration", cause.message]
  | query cause => [cause.message, cause.cause]

end JobError

variable [PatternEngine]

/-- A query that is ready to run, with what it was made from. -/
structure Job where
  arguments : Arguments
  config : Config
  query : Query

namespace Job

/-- The error of a query as that of its job. -/
def ofQuery {α : Type} : Except QueryError α → Except JobError α
  | .ok a => .ok a
  | .error e => .error (.query e)

/-- Checks the log filter of a configuration. It does not count if the
environment has a list of directives of its own, of which wrong ones are
ignored. -/
def checkLogFilter [LogFilterReader] (config : Config) (env : String → Option String) :
    Except JobError Unit :=
  if (env "RUST_LOG").isSome then .ok ()
  else match LogFilterReader.check config.logLevel with
    | .ok () => .ok ()
    | .error reports => .error (.logFilter config.logLevel reports)

/-- Checks the bounds of a configuration. -/
def checkConfig (config : Config) : Except JobError Unit :=
  match config.validate with
  | .ok () => .ok ()
  | .error e => .error (.config e)

/-- Makes a job ready: first the configuration is checked, then the query is
read. -/
def prepare [LogFilterReader] (a : Arguments) (env : String → Option String) :
    Except JobError Job := do
  let config := Config.ofEnvironment env
  checkLogFilter config env
  checkConfig config
  return ⟨a, config, ← ofQuery (Query.parse a.query config)⟩

/-- The path of the policy and the object it applies to, if there is one. -/
def policy? (j : Job) : Option (String × String) := do
  return (← j.arguments.policy, ← j.arguments.object)

variable [Json.Format]

/-- Checks a job against its policy, which is in one of the files. -/
def permit (j : Job) (files : String → Except String String) : Except JobError Unit :=
  match j.policy? with
  | none => .ok ()
  | some (path, object) =>
    ofQuery do j.query.authorize (← loadPolicy path (files path)) object

/-- The text of the page that a job finds among the records in its input. -/
def output (j : Job) (input : ByteArray) : Except JobError String :=
  ofQuery do
    let records ← orFail .input (recordsOfBytes input)
    return textOfRecords (← j.query.run j.config records).1

/-- Carries out a job from beginning to end. -/
def run [LogFilterReader] (a : Arguments) (env : String → Option String)
    (files : String → Except String String) (input : ByteArray) : Except JobError String := do
  let j ← prepare a env
  j.permit files
  j.output input

end Job

/-! ## Outcomes -/

/-- What can be asked of the surroundings of a program: its environment, the text
of a file, or the cause of why it cannot be read, and its input. -/
structure Surroundings (m : Type → Type) where
  environment : m (String → Option String)
  file : String → m (Except String String)
  input : m ByteArray

/-- How a command line ends: its status, what it writes, and what it reports,
the outermost message first. -/
structure Outcome where
  status : UInt32
  output : String
  errors : List String
deriving DecidableEq, Repr

namespace Outcome

/-- The outcome of arguments that do not lead to a run. -/
def ofHalt : Halt → Outcome
  | .asked text => ⟨0, text, []⟩
  | .refused status report => ⟨status, "", [report]⟩

/-- The outcome of a job. -/
def ofResult : Except JobError String → Outcome
  | .ok text => ⟨0, text, []⟩
  | .error e => ⟨1, "", e.messages⟩

variable [Json.Format] [LogFilterReader] [ArgumentReader]

/-- The outcome of a command line, with all that its surroundings hold. -/
def ofLine (line : List String) (env : String → Option String)
    (files : String → Except String String) (input : ByteArray) : Outcome :=
  match Arguments.ofLine line with
  | .error h => ofHalt h
  | .ok a => ofResult (Job.run a env files input)

/-- The outcome of a command line in its surroundings. They are asked for the
environment, the policy and the records in turn, and not any more once a step has
failed. -/
def ofLineIn {m : Type → Type} [Monad m] (s : Surroundings m) (line : List String) :
    m Outcome := do
  match Arguments.ofLine line with
  | .error h => return ofHalt h
  | .ok a =>
    match Job.prepare a (← s.environment) with
    | .error e => return ofResult (.error e)
    | .ok j =>
      let text ← match j.policy? with
        | none => pure (.ok "")
        | some (path, _) => s.file path
      match j.permit fun _ => text with
      | .error e => return ofResult (.error e)
      | .ok () => return ofResult (j.output (← s.input))

end Outcome

end RecordQuery
