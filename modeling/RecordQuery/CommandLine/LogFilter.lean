/-!
# Log filters — which messages are logged

What is taken from a library for logging: which texts tell it the messages to log.
-/

namespace RecordQuery

/-- A library for logging. A text that is no log filter has reports of what is wrong with
it, the outermost one first. -/
class LogFilterReader where
  check : String → Except (List String) Unit

end RecordQuery
