import RecordQuery.Json.Decoding
import RecordQuery.Json.Format
import RecordQuery.Number.Count
import RecordQuery.Text.Blank
/-!
# Configuration — the bounds that queries keep to

The configuration comes from the environment. Values that cannot be read leave
the defaults as they are.
-/

namespace RecordQuery

open Json

/-- How many records a page holds if the query does not say, how many at most,
how deep filters may be, and which messages are logged. -/
structure Config where
  defaultLimit : UInt32
  maxLimit : UInt32
  maxFilterDepth : UInt64
  logLevel : String
deriving DecidableEq, Repr

namespace Config

/-- The configuration of an empty environment. -/
def standard : Config := ⟨1000, 10000, 64, "info"⟩

/-- The variables of the environment that are looked up. -/
def variableNames : List String :=
  ["QUERY_DEFAULT_LIMIT", "QUERY_MAX_LIMIT", "QUERY_MAX_FILTER_DEPTH", "LOG_LEVEL", "RUST_LOG"]

/-- The configuration that an environment gives. -/
def ofEnvironment (env : String → Option String) : Config where
  defaultLimit := (do readWord32 (trim (← env "QUERY_DEFAULT_LIMIT").toList)).getD
    standard.defaultLimit
  maxLimit := (do readWord32 (trim (← env "QUERY_MAX_LIMIT").toList)).getD standard.maxLimit
  maxFilterDepth := (do readWord64 (trim (← env "QUERY_MAX_FILTER_DEPTH").toList)).getD
    standard.maxFilterDepth
  logLevel := (env "LOG_LEVEL").getD standard.logLevel

/-- The number of records on a page, given how many are asked for. Asking for
none means the default. -/
def effectiveLimit (c : Config) (requested : UInt32) : UInt32 :=
  if requested = 0 then min c.defaultLimit c.maxLimit else min requested c.maxLimit

end Config

/-- What is wrong with a configuration. -/
inductive ConfigError where
  | noMaxLimit
  | noMaxFilterDepth
  | defaultAboveMax (default max : UInt32)
deriving DecidableEq, Repr

/-- The wording of an error. -/
def ConfigError.message (e : ConfigError) : String :=
  "configuration error: " ++ match e with
    | noMaxLimit => "max_limit must be greater than zero"
    | noMaxFilterDepth => "max_filter_depth must be greater than zero"
    | defaultAboveMax default max =>
      "default_limit (" ++ wordText default ++ ") exceeds max_limit (" ++ wordText max ++ ")"

/-- A configuration lets every page hold something and every filter be, and
its default lies within its bound. -/
def Config.validate (c : Config) : Except ConfigError Unit :=
  if c.maxLimit = 0 then .error .noMaxLimit
  else if c.maxFilterDepth = 0 then .error .noMaxFilterDepth
  else if c.maxLimit < c.defaultLimit then .error (.defaultAboveMax c.defaultLimit c.maxLimit)
  else .ok ()

/-- A configuration as JSON. -/
def Config.encode (c : Config) : Value :=
  .ofMembers [("defaultLimit", .ofInt c.defaultLimit.toNat), ("maxLimit", .ofInt c.maxLimit.toNat),
    ("maxFilterDepth", .ofInt c.maxFilterDepth.toNat), ("logLevel", .string c.logLevel)]

/-- The configuration that a JSON text stands for. -/
def Config.ofJson? [Format] (text : String) : Option Config := do
  let part ← (← Format.read text).fields? Format.nesting
    ["defaultLimit", "maxLimit", "maxFilterDepth", "logLevel"]
  return {
    defaultLimit := ← (← part "defaultLimit").word32?
    maxLimit := ← (← part "maxLimit").word32?
    maxFilterDepth := ← (← part "maxFilterDepth").word64?
    logLevel := ← (← part "logLevel").string? }

end RecordQuery
