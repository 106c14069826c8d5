import RecordQuery.CommandLine.Arguments
/-!
# A reader of command lines

Every parameter takes a value, either attached with an equals sign or as the
argument behind it, and may be given once. A parameter that waits for its
value, or has just got it, stays pending: it is settled when the next
parameter, a request for help or the version, or the end of the line comes.
So an argument that is not understood is reported before anything that is
wrong with a pending parameter.
-/

namespace RecordQuery

namespace Reference

/-- Why a command line does not lead to a run: it asks for something else, or
cannot be understood. -/
inductive Reason where
  | help
  | version
  | unknown (argument : String)
  | needlessValue (argument : String)
  | noValue (p : Parameter)
  | emptyValue (p : Parameter)
  | repeated (p : Parameter)
  | lacksNeeded (p : Parameter)
deriving DecidableEq, Repr

/-! ## Single arguments -/

/-- An argument on its own. -/
inductive Argument where
  | separator
  | parameter (p : Parameter) (attached : Option String)
  | help
  | version
  | needlessValue (text : String)
  | value (text : String)
  | unknown (text : String)
deriving DecidableEq, Repr

namespace Argument

/-- The word of a long argument, and what is attached to it. -/
def splitWord (cs : List Char) : String × Option String :=
  (String.ofList (cs.takeWhile (· != '=')),
    match cs.dropWhile (· != '=') with
    | _ :: attached => some (String.ofList attached)
    | [] => none)

/-- The argument that is written as a text. Short arguments are known by their
first letter. -/
def ofString (text : String) : Argument :=
  match text.toList with
  | ['-', '-'] => .separator
  | '-' :: '-' :: cs =>
    match splitWord cs with
    | ("help", attached) => if attached.isSome then .needlessValue text else .help
    | ("version", attached) => if attached.isSome then .needlessValue text else .version
    | (word, attached) =>
      match Parameter.words.lookup word with
      | some p => .parameter p attached
      | none => .unknown text
  | '-' :: 'h' :: _ => .help
  | '-' :: 'V' :: _ => .version
  | '-' :: _ :: _ => .unknown text
  | _ => .value text

end Argument

/-! ## Whole lines -/

/-- How far a line has been read: the parameters that are settled, and the one
that is pending, with its value if it has got one. -/
structure Reading where
  settled : List (Parameter × String)
  pending : Option (Parameter × Option String)
deriving DecidableEq, Repr

namespace Reading

/-- Nothing has been read. -/
def start : Reading := ⟨[], none⟩

/-- Settles a parameter with its value. The path of a policy must not be
empty. -/
def assign (r : Reading) (p : Parameter) (value : String) : Except Reason Reading :=
  if (r.settled.lookup p).isSome then .error (.repeated p)
  else if p = .policy ∧ value = "" then .error (.emptyValue p)
  else .ok { r with settled := r.settled ++ [(p, value)] }

/-- Settles the parameter that is pending. -/
def settle (r : Reading) : Except Reason Reading :=
  match r.pending with
  | none => .ok r
  | some (p, none) => .error (.noValue p)
  | some (p, some value) => assign ⟨r.settled, none⟩ p value

/-- Reads one argument. -/
def step (r : Reading) : Argument → Except Reason Reading
  | .parameter p (some value) => do (← r.settle).assign p value
  | .parameter p none => do return ⟨(← r.settle).settled, some (p, none)⟩
  | .help => do
    let _ ← r.settle
    .error .help
  | .version => do
    let _ ← r.settle
    .error .version
  | .needlessValue text => .error (.needlessValue text)
  | .value text =>
    match r.pending with
    | some (p, none) => .ok ⟨r.settled, some (p, some text)⟩
    | _ => .error (.unknown text)
  | .separator => .ok r
  | .unknown text => .error (.unknown text)

/-- Reads all arguments. Behind a separator none may follow. -/
def readAll (r : Reading) : List String → Except Reason Reading
  | [] => r.settle
  | text :: rest =>
    match Argument.ofString text, rest with
    | .separator, next :: _ => .error (.unknown next)
    | argument, _ => do (← r.step argument).readAll rest

end Reading

/-- Whether a parameter is set without the one that it needs. -/
def lacksNeeded (value : Parameter → Option String) (p : Parameter) : Bool :=
  (value p).isSome && p.needs?.any fun q => (value q).isNone

/-- The parameters that a command line sets. -/
def readArguments (line : List String) : Except Reason (Parameter → Option String) := do
  let r ← Reading.start.readAll line
  match Parameter.all.find? (lacksNeeded fun p => r.settled.lookup p) with
  | some p => .error (.lacksNeeded p)
  | none => return fun p => r.settled.lookup p

/-- The text that explains the command line. -/
def usage : String :=
  "querystack - filter, sort, and page JSON-lines records read from stdin\n\n" ++
  "Usage: querystack [OPTIONS]\n\n" ++
  "Options:\n" ++
  "      --filter <FILTER>      " ++
    "Filter expression (e.g., \"age >= 18 and name ~ '^J'\") [default: ]\n" ++
  "      --order-by <ORDER_BY>  Sort expression (e.g., \"last_name, age desc\") [default: ]\n" ++
  "      --limit <LIMIT>        Page size (default: QUERY_DEFAULT_LIMIT) [default: ]\n" ++
  "      --offset <OFFSET>      Number of matching records to skip [default: ]\n" ++
  "      --policy <POLICY>      JSON permission policy table\n" ++
  "      --object <OBJECT>      Object name to look up in the policy table\n" ++
  "  -h, --help                 Print help\n" ++
  "  -V, --version              Print version\n"

/-- How a command line ends that is not carried out. -/
def Reason.halt : Reason → Halt
  | help => .asked usage
  | version => .asked "querystack 0.3.0\n"
  | unknown text => .refused 2 ("unexpected argument '" ++ text ++ "'")
  | needlessValue text => .refused 2 ("unexpected value in '" ++ text ++ "'")
  | noValue p => .refused 2 ("a value is required for '--" ++ p.word ++ "'")
  | emptyValue p => .refused 2 ("the value of '--" ++ p.word ++ "' is empty")
  | repeated p => .refused 2 ("'--" ++ p.word ++ "' cannot be used multiple times")
  | lacksNeeded p => .refused 2 ("'--" ++ p.word ++ "' cannot be used alone")

/-- Parameters that are set by long arguments. -/
scoped instance argumentReader : ArgumentReader where
  read line := (readArguments line).mapError Reason.halt

end Reference

end RecordQuery
