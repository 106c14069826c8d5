import RecordQuery.CommandLine.Job
import RecordQuery.Proofs.Query.Outcome
import RecordQuery.Proofs.Query.Records
/-!
# How a job ends

A job succeeds when all its steps do (`Job.run_eq_ok`), and fails when any of
them fails, whichever it is and whatever else fails (`Job.exists_run_eq_error`).
What a policy refuses is refused before any record is read, so it does not depend
on the input (`Job.run_eq_notPermitted`).
-/

namespace RecordQuery

open Json

/-! ## Errors passed on -/

theorem orFail_eq_ok {ε α : Type} {wrap : ε → QueryError} {m : Except ε α} {b : α} :
    orFail wrap m = .ok b ↔ m = .ok b := by
  cases m <;> simp [orFail]

theorem Job.ofQuery_eq_ok {α : Type} {m : Except QueryError α} {b : α} :
    ofQuery m = .ok b ↔ m = .ok b := by
  cases m <;> simp [ofQuery]

theorem orFail_eq_error {ε α : Type} {wrap : ε → QueryError} {m : Except ε α} {e : QueryError} :
    orFail wrap m = .error e ↔ ∃ cause, m = .error cause ∧ e = wrap cause := by
  cases m <;> simp [orFail, eq_comm]

theorem Job.ofQuery_eq_error {α : Type} {m : Except QueryError α} {e : JobError} :
    ofQuery m = .error e ↔ ∃ cause, m = .error cause ∧ e = .query cause := by
  cases m <;> simp [ofQuery, eq_comm]

/-! ## Policies and configurations -/

/-- Reading a policy is no question of permission. -/
theorem loadPolicy_ne_notPermitted [Format] {path object : String} {cause : PolicyError}
    {text : Except String String} : loadPolicy path text ≠ .error (.notPermitted object cause) := by
  intro h
  cases text with
  | error report => cases h
  | ok text =>
    simp only [loadPolicy] at h
    split at h <;> cases h

namespace Job

variable {env : String → Option String} {config : Config}

/-- A log filter is wrong when it counts and the library for logging refuses it. -/
theorem checkLogFilter_eq_error [LogFilterReader] {e : JobError} :
    checkLogFilter config env = .error e ↔ env "RUST_LOG" = none ∧
      ∃ reports, LogFilterReader.check config.logLevel = .error reports ∧
        e = .logFilter config.logLevel reports := by
  rw [checkLogFilter]
  cases env "RUST_LOG" <;> cases LogFilterReader.check config.logLevel <;> simp [eq_comm]

/-- The bounds of a configuration are wrong when it is not valid. -/
theorem checkConfig_eq_error {e : JobError} :
    checkConfig config = .error e ↔
      ∃ cause, config.validate = .error cause ∧ e = .config cause := by
  rw [checkConfig]
  cases config.validate <;> simp [eq_comm]

theorem checkConfig_eq_ok : checkConfig config = .ok () ↔ config.validate = .ok () := by
  rw [checkConfig]
  cases config.validate <;> simp

end Job

/-! ## Steps that succeed -/

variable [PatternEngine] {env : String → Option String} {files : String → Except String String}
variable {input : ByteArray} {a : Arguments} {j : Job} {q : Query} {config : Config}
variable {text : String}

/-- A query is read when its four parts are. -/
theorem Query.parse_eq_ok {texts : QueryText} :
    Query.parse texts config = .ok q ↔
      ∃ filter, parseFilter config.maxFilterDepth.toNat texts.filter = .ok filter ∧
        PreparedFilter.prepare filter = .ok q.filter ∧
        parseSorting texts.orderBy = .ok q.sorting ∧
        parsePagination texts.limit texts.offset "" = .ok q.pagination := by
  simp only [Query.parse, bind_eq_ok_iff, orFail_eq_ok, pure, Except.pure, Except.ok.injEq]
  constructor
  · rintro ⟨filter, hfilter, prepared, hprepared, sorting, hsorting, pagination, hpagination, rfl⟩
    exact ⟨filter, hfilter, hprepared, hsorting, hpagination⟩
  · rintro ⟨filter, hfilter, hprepared, hsorting, hpagination⟩
    exact ⟨filter, hfilter, _, hprepared, _, hsorting, _, hpagination, rfl⟩

namespace Job

/-- A job is ready when its configuration is in order and its query is read. -/
theorem prepare_eq_ok [LogFilterReader] :
    prepare a env = .ok j ↔
      checkLogFilter (Config.ofEnvironment env) env = .ok () ∧
      (Config.ofEnvironment env).validate = .ok () ∧
      ∃ q, Query.parse a.query (Config.ofEnvironment env) = .ok q ∧
        j = ⟨a, Config.ofEnvironment env, q⟩ := by
  simp only [prepare, bind_eq_ok_iff, ofQuery_eq_ok, pure, Except.pure, Except.ok.injEq]
  constructor
  · rintro ⟨⟨⟩, hlog, ⟨⟩, hconfig, q, hq, rfl⟩
    exact ⟨hlog, checkConfig_eq_ok.1 hconfig, q, hq, rfl⟩
  · rintro ⟨hlog, hconfig, q, hq, rfl⟩
    exact ⟨(), hlog, (), checkConfig_eq_ok.2 hconfig, q, hq, rfl⟩

/-- A policy applies when the arguments name it and an object. -/
theorem policy?_eq_some {path object : String} :
    j.policy? = some (path, object) ↔
      j.arguments.policy = some path ∧ j.arguments.object = some object := by
  simp [policy?, bind, pure, Option.bind_eq_some_iff]

variable [Format]

/-- That the policy which the arguments name, if there is one, permits a query. -/
def Permits (a : Arguments) (files : String → Except String String) (q : Query) : Prop :=
  ∀ path object, a.policy = some path → a.object = some object →
    ∃ table, loadPolicy path (files path) = .ok table ∧
      table.validate object q.filter.filter (some q.sorting) = .ok ()

theorem permit_eq_ok : j.permit files = .ok () ↔ Permits j.arguments files j.query := by
  rw [permit]
  cases hp : j.policy? with
  | none =>
    refine iff_of_true rfl fun path object hpath hobject => ?_
    rw [policy?_eq_some.2 ⟨hpath, hobject⟩] at hp
    cases hp
  | some named =>
    obtain ⟨path, object⟩ := named
    obtain ⟨hpath, hobject⟩ := policy?_eq_some.1 hp
    simp only [ofQuery_eq_ok, bind_eq_ok_iff, Query.authorize, orFail_eq_ok]
    constructor
    · intro h path' object' hpath' hobject'
      obtain rfl := Option.some.inj (hpath.symm.trans hpath')
      obtain rfl := Option.some.inj (hobject.symm.trans hobject')
      exact h
    · exact fun h => h path object hpath hobject

theorem output_eq_ok :
    j.output input = .ok text ↔
      ∃ records page info, RecordsIn input records ∧
        j.query.run j.config records = .ok (page, info) ∧ text = textOfRecords page := by
  simp only [output, ofQuery_eq_ok, bind_eq_ok_iff, orFail_eq_ok, pure, Except.pure,
    Except.ok.injEq, recordsOfBytes_eq_ok_iff]
  constructor
  · rintro ⟨records, hrecords, ⟨page, info⟩, hrun, rfl⟩
    exact ⟨records, page, info, hrecords, hrun, rfl⟩
  · rintro ⟨records, page, info, hrecords, hrun, rfl⟩
    exact ⟨records, hrecords, (page, info), hrun, rfl⟩

variable [LogFilterReader]

/-- A job that is carried out: every step succeeds, and its query finds a page
among the records that the input holds. -/
structure CarriedOut (a : Arguments) (env : String → Option String)
    (files : String → Except String String) (input : ByteArray) (q : Query)
    (records page : List Value) (info : PageInfo) : Prop where
  logFilter : checkLogFilter (Config.ofEnvironment env) env = .ok ()
  config : (Config.ofEnvironment env).validate = .ok ()
  query : Query.parse a.query (Config.ofEnvironment env) = .ok q
  permitted : Permits a files q
  read : RecordsIn input records
  found : q.run (Config.ofEnvironment env) records = .ok (page, info)

/-- **A job succeeds when all its steps do**, and gives the text of its page. -/
theorem run_eq_ok :
    run a env files input = .ok text ↔
      ∃ q records page info, CarriedOut a env files input q records page info ∧
        text = textOfRecords page := by
  simp only [run, bind_eq_ok_iff, prepare_eq_ok, output_eq_ok]
  constructor
  · rintro ⟨_, ⟨hlog, hconfig, q, hq, rfl⟩, ⟨⟩, hpermit, records, page, info, hrecords, hrun, rfl⟩
    have hpermits := permit_eq_ok.1 hpermit
    exact ⟨q, records, page, info, ⟨hlog, hconfig, hq, hpermits, hrecords, hrun⟩, rfl⟩
  · rintro ⟨q, records, page, info, h, rfl⟩
    exact ⟨_, ⟨h.logFilter, h.config, q, h.query, rfl⟩, (), permit_eq_ok.2 h.permitted, records,
      page, info, h.read, h.found, rfl⟩

end Job

/-! ## Steps that fail -/

namespace Job

variable [Format] [LogFilterReader]

/-- That a step of a job fails, whether or not others do. A step that needs the
result of another one fails on that result. -/
inductive StepFails (a : Arguments) (env : String → Option String)
    (files : String → Except String String) (input : ByteArray) : Prop
  | logFilter {reports : List String} (hown : env "RUST_LOG" = none)
      (h : LogFilterReader.check (Config.ofEnvironment env).logLevel = .error reports)
  | config {e : ConfigError} (h : (Config.ofEnvironment env).validate = .error e)
  | filter {e : ParseError}
      (h : parseFilter (Config.ofEnvironment env).maxFilterDepth.toNat a.query.filter = .error e)
  | pattern {filter : Option Filter} {e : EvalError}
      (hfilter : parseFilter (Config.ofEnvironment env).maxFilterDepth.toNat a.query.filter =
        .ok filter)
      (h : PreparedFilter.prepare filter = .error e)
  | sorting {e : SortingError} (h : parseSorting a.query.orderBy = .error e)
  | paging {e : PagingError} (h : parsePagination a.query.limit a.query.offset "" = .error e)
  | policy {path object : String} {e : QueryError} (hpath : a.policy = some path)
      (hobject : a.object = some object) (h : loadPolicy path (files path) = .error e)
  | permission {path object : String} {table : PolicyTable} {q : Query} {e : PolicyError}
      (hpath : a.policy = some path) (hobject : a.object = some object)
      (htable : loadPolicy path (files path) = .ok table)
      (hq : Query.parse a.query (Config.ofEnvironment env) = .ok q)
      (h : table.validate object q.filter.filter (some q.sorting) = .error e)
  | reading (h : ∀ records, ¬ RecordsIn input records)
  | evaluation {q : Query} {records : List Value} {v : Value} {e : EvalError}
      (hq : Query.parse a.query (Config.ofEnvironment env) = .ok q)
      (hrecords : RecordsIn input records) (hv : v ∈ records)
      (h : q.filter.verdict (.document v) = .error e)

/-- A job is carried out unless a step fails. -/
theorem exists_carriedOut (h : ¬ StepFails a env files input) :
    ∃ q records page info, CarriedOut a env files input q records page info := by
  obtain ⟨⟨⟩, hlog⟩ := exists_eq_ok fun e he => by
    obtain ⟨hown, reports, hwrong, -⟩ := checkLogFilter_eq_error.1 he
    exact h (.logFilter hown hwrong)
  obtain ⟨⟨⟩, hconfig⟩ := exists_eq_ok fun e he => h (.config he)
  obtain ⟨filter, hfilter⟩ := exists_eq_ok fun e he => h (.filter he)
  obtain ⟨prepared, hprepared⟩ := exists_eq_ok fun e he => h (.pattern hfilter he)
  obtain ⟨sorting, hsorting⟩ := exists_eq_ok fun e he => h (.sorting he)
  obtain ⟨pagination, hpagination⟩ := exists_eq_ok fun e he => h (.paging he)
  have hq : Query.parse a.query (Config.ofEnvironment env) = .ok ⟨prepared, sorting, pagination⟩ :=
    Query.parse_eq_ok.2 ⟨filter, hfilter, hprepared, hsorting, hpagination⟩
  have hpermits : Permits a files ⟨prepared, sorting, pagination⟩ := by
    intro path object hpath hobject
    obtain ⟨table, htable⟩ := exists_eq_ok fun e he => h (.policy hpath hobject he)
    obtain ⟨⟨⟩, hvalid⟩ := exists_eq_ok fun e he => h (.permission hpath hobject htable hq he)
    exact ⟨table, htable, hvalid⟩
  obtain ⟨records, hrecords⟩ : ∃ records, RecordsIn input records :=
    Classical.byContradiction fun hnone => h (.reading fun records hr => hnone ⟨records, hr⟩)
  have hverdicts : ∀ v ∈ records, ∃ b, prepared.verdict (.document v) = .ok b :=
    fun v hv => exists_eq_ok fun e he => h (.evaluation hq hrecords hv he)
  exact ⟨_, records, _, _, hlog, hconfig, hq, hpermits, hrecords,
    Query.run_eq_ok.2 ⟨hverdicts, rfl, rfl⟩⟩

/-- No step of a job that is carried out fails. -/
theorem CarriedOut.not_stepFails {records page : List Value} {info : PageInfo}
    (h : CarriedOut a env files input q records page info) : ¬ StepFails a env files input := by
  obtain ⟨filter, hfilter, hprepared, hsorting, hpagination⟩ := Query.parse_eq_ok.1 h.query
  intro hfails
  cases hfails with
  | logFilter hown he =>
    exact ne_error_of_eq_ok h.logFilter (checkLogFilter_eq_error.2 ⟨hown, _, he, rfl⟩)
  | config he => exact ne_error_of_eq_ok h.config he
  | filter he => exact ne_error_of_eq_ok hfilter he
  | pattern hfilter' he =>
    obtain rfl := Except.ok.inj (hfilter.symm.trans hfilter')
    exact ne_error_of_eq_ok hprepared he
  | sorting he => exact ne_error_of_eq_ok hsorting he
  | paging he => exact ne_error_of_eq_ok hpagination he
  | policy hpath hobject he =>
    obtain ⟨table, htable, -⟩ := h.permitted _ _ hpath hobject
    exact ne_error_of_eq_ok htable he
  | permission hpath hobject htable' hq he =>
    obtain rfl := Except.ok.inj (h.query.symm.trans hq)
    obtain ⟨table, htable, hvalid⟩ := h.permitted _ _ hpath hobject
    obtain rfl := Except.ok.inj (htable.symm.trans htable')
    exact ne_error_of_eq_ok hvalid he
  | reading he => exact he _ h.read
  | evaluation hq hrecords hv he =>
    obtain rfl := Except.ok.inj (h.query.symm.trans hq)
    obtain rfl := h.read.unique hrecords
    obtain ⟨b, hb⟩ := (Query.run_eq_ok.1 h.found).1 _ hv
    exact ne_error_of_eq_ok hb he

/-- **A job fails exactly when one of its steps does.** -/
theorem exists_run_eq_error :
    (∃ e, run a env files input = .error e) ↔ StepFails a env files input := by
  constructor
  · rintro ⟨e, he⟩
    refine Classical.byContradiction fun hfails => ?_
    obtain ⟨q, records, page, info, h⟩ := exists_carriedOut hfails
    exact ne_error_of_eq_ok (run_eq_ok.2 ⟨q, records, page, info, h, rfl⟩) he
  · intro hfails
    cases hr : run a env files input with
    | error e => exact ⟨e, rfl⟩
    | ok text =>
      obtain ⟨q, records, page, info, h, -⟩ := run_eq_ok.1 hr
      exact absurd hfails h.not_stepFails

end Job

/-! ## Refusals -/

variable {object : String} {cause : PolicyError}

/-- Reading a query is no question of permission. -/
theorem Query.parse_ne_notPermitted {texts : QueryText} :
    Query.parse texts config ≠ .error (.notPermitted object cause) := by
  intro h
  simp only [Query.parse, bind_eq_error, orFail_eq_error, reduceCtorEq, and_false, exists_false,
    false_or, pure, Except.pure] at h

/-- Running a query is no question of permission either. -/
theorem Query.run_ne_notPermitted {records : List Value} :
    q.run config records ≠ .error (.notPermitted object cause) := by
  intro h
  obtain ⟨n, e, -, he⟩ := (Query.matching_eq_error 1).1 (Query.run_eq_error.1 h)
  cases he

namespace Job

theorem prepare_ne_notPermitted [LogFilterReader] :
    prepare a env ≠ .error (.query (.notPermitted object cause)) := by
  intro h
  rcases bind_eq_error.1 h with hlog | ⟨⟨⟩, -, h⟩
  · obtain ⟨-, _, -, he⟩ := checkLogFilter_eq_error.1 hlog
    cases he
  · rcases bind_eq_error.1 h with hconfig | ⟨⟨⟩, -, h⟩
    · obtain ⟨_, -, he⟩ := checkConfig_eq_error.1 hconfig
      cases he
    · obtain ⟨_, hq, he⟩ := ofQuery_eq_error.1 (bind_return_eq_error.1 h)
      cases he
      exact Query.parse_ne_notPermitted hq

variable [Format]

theorem output_ne_notPermitted : j.output input ≠ .error (.query (.notPermitted object cause)) := by
  intro h
  obtain ⟨_, h, he⟩ := ofQuery_eq_error.1 h
  cases he
  rcases bind_eq_error.1 h with hrecords | ⟨records, -, hrun⟩
  · obtain ⟨_, -, he⟩ := orFail_eq_error.1 hrecords
    cases he
  · exact Query.run_ne_notPermitted (bind_return_eq_error.1 hrun)

/-- A policy refuses a query when the table in its file does. -/
theorem permit_eq_notPermitted :
    j.permit files = .error (.query (.notPermitted object cause)) ↔
      ∃ path table, j.arguments.policy = some path ∧ j.arguments.object = some object ∧
        loadPolicy path (files path) = .ok table ∧
        table.validate object j.query.filter.filter (some j.query.sorting) = .error cause := by
  constructor
  · intro h
    rw [permit] at h
    split at h
    · cases h
    · next path object' hp =>
      obtain ⟨hpath, hobject⟩ := policy?_eq_some.1 hp
      obtain ⟨_, h, he⟩ := ofQuery_eq_error.1 h
      cases he
      rcases bind_eq_error.1 h with hload | ⟨table, htable, hvalid⟩
      · exact absurd hload loadPolicy_ne_notPermitted
      · obtain ⟨_, hvalid, he⟩ := orFail_eq_error.1 hvalid
        cases he
        exact ⟨path, table, hpath, hobject, htable, hvalid⟩
  · rintro ⟨path, table, hpath, hobject, htable, hvalid⟩
    rw [permit, policy?_eq_some.2 ⟨hpath, hobject⟩]
    simp only [htable, bind, Except.bind, Query.authorize, hvalid, orFail, ofQuery]

variable [LogFilterReader]

/-- That a job is refused: it is ready, and the policy that the arguments name
does not permit its query. -/
structure Refused (a : Arguments) (env : String → Option String)
    (files : String → Except String String) (object : String) (cause : PolicyError) : Prop where
  logFilter : checkLogFilter (Config.ofEnvironment env) env = .ok ()
  config : (Config.ofEnvironment env).validate = .ok ()
  refused : ∃ path table q, a.policy = some path ∧ a.object = some object ∧
    loadPolicy path (files path) = .ok table ∧
    Query.parse a.query (Config.ofEnvironment env) = .ok q ∧
    table.validate object q.filter.filter (some q.sorting) = .error cause

/-- **Whether a job is refused, and why, is settled before its input is read.** -/
theorem run_eq_notPermitted :
    run a env files input = .error (.query (.notPermitted object cause)) ↔
      Refused a env files object cause := by
  constructor
  · intro h
    rcases bind_eq_error.1 h with hready | ⟨j, hready, h⟩
    · exact absurd hready prepare_ne_notPermitted
    · obtain ⟨hlog, hconfig, q, hq, rfl⟩ := prepare_eq_ok.1 hready
      rcases bind_eq_error.1 h with hpermit | ⟨⟨⟩, -, houtput⟩
      · obtain ⟨path, table, hpath, hobject, htable, hvalid⟩ := permit_eq_notPermitted.1 hpermit
        exact ⟨hlog, hconfig, path, table, q, hpath, hobject, htable, hq, hvalid⟩
      · exact absurd houtput output_ne_notPermitted
  · rintro ⟨hlog, hconfig, path, table, q, hpath, hobject, htable, hq, hvalid⟩
    refine bind_eq_error.2 (.inr ⟨⟨a, _, q⟩, prepare_eq_ok.2 ⟨hlog, hconfig, q, hq, rfl⟩, ?_⟩)
    exact bind_eq_error.2 (.inl (permit_eq_notPermitted.2
      ⟨path, table, hpath, hobject, htable, hvalid⟩))

end Job

end RecordQuery
