import RecordQuery.Reference.Pattern.Tree
import RecordQuery.Text.Alphabetic
import RecordQuery.Text.Blank
import RecordQuery.Text.Hexadecimal
import RecordQuery.Number.Decimal
/-!
# Reading patterns

Patterns are read from left to right. Whatever is not a pattern has no tree:
brackets and groups that stay open, repetitions of nothing or with their
bounds in the wrong order, escapes without a meaning, ranges that run
backwards, names given twice. There is no way to look around or back.

Every step of the reader takes a character, so a pattern's length bounds the
steps.
-/

namespace RecordQuery

namespace Reference

namespace Pattern

/-! ## Places -/

/-- A place in a pattern: what is left of it, the names of the groups so far,
and whether blanks and comments are skipped. -/
structure Place where
  rest : List Char
  names : List (List Char)
  verbose : Bool

/-- A text behind its blanks and comments, in so many steps. -/
def skipVerbose : Nat → List Char → List Char
  | 0, cs => cs
  | steps + 1, c :: cs =>
    if isBlank c then skipVerbose steps cs
    else if c = '#' then skipVerbose steps ((cs.dropWhile (· != '\n')).drop 1)
    else c :: cs
  | _ + 1, [] => []

namespace Place

/-- The place behind blanks and comments, where they are skipped. -/
def skip (p : Place) : Place :=
  if p.verbose then { p with rest := skipVerbose p.rest.length p.rest } else p

/-- The place some characters further on. -/
def drop (p : Place) (n : Nat) : Place := { p with rest := p.rest.drop n }

/-- The place behind a text that stands here. -/
def after? (p : Place) (text : String) : Option Place :=
  if text.toList.isPrefixOf p.rest then some (p.drop text.length) else none

end Place

/-! ## Escapes -/

/-- The character whose code point has these hexadecimal digits. -/
def charOfHex? (digits : List Char) : Option Char := do
  let values ← digits.mapM hexValue?
  let n := values.foldl (fun n d => 16 * n + d) 0
  if n.isValidChar then return Char.ofNat n else none

/-- A character given by a number of hexadecimal digits, or by any number of
them in braces. The flag says whether it is given as a byte. -/
def readHex (size : Nat) (byte : Bool) (p : Place) : Option (Tree × Place) :=
  match p.rest with
  | '{' :: cs =>
    let digits := cs.takeWhile (· != '}')
    if digits.isEmpty ∨ digits.length = cs.length then none
    else (charOfHex? digits).map fun c => (.char c false, p.drop (digits.length + 2))
  | cs =>
    let digits := cs.take size
    if digits.length < size then none
    else (charOfHex? digits).map fun c => (.char c byte, p.drop size)

/-- Whether a character has a meaning of its own somewhere in a pattern. -/
def isMeta (c : Char) : Bool := "\\.+*?()|[]\x7b\x7d^$#&-~".toList.contains c

/-- Whether a backslash may stand before a character to no effect. -/
def isEscapable (c : Char) : Bool :=
  isMeta c || (c.toNat < 128 && !c.isAlphanum && c != '<' && c != '>')

/-- A word boundary, which may be named in braces. Braces that start with
another character belong to a repetition. -/
def readBoundary (p : Place) : Option (Tree × Place) :=
  let inName (c : Char) : Bool := c.isAlpha || c == '-'
  match p.rest with
  | '{' :: cs =>
    match cs with
    | [] => none
    | c :: _ =>
      if inName c then
        let name := cs.takeWhile inName
        match cs.dropWhile inName with
        | '}' :: rest =>
          let kind : Option Anchor :=
            if name = "start".toList then some .wordStart
            else if name = "end".toList then some .wordEnd
            else if name = "start-half".toList then some .beforeWord
            else if name = "end-half".toList then some .behindWord
            else none
          kind.map fun k => (.anchor k, { p with rest })
        | _ => none
      else some (.anchor .boundary, p)
  | _ => some (.anchor .boundary, p)

/-- What a backslash introduces. -/
def readEscape (p : Place) : Option (Tree × Place) :=
  match p.rest with
  | [] => none
  | c :: cs =>
    let q : Place := { p with rest := cs }
    if c = 'x' then readHex 2 true q
    else if c = 'u' then readHex 4 false q
    else if c = 'U' then readHex 8 false q
    else if c = 'd' then some (.shorthand .digit false, q)
    else if c = 'D' then some (.shorthand .digit true, q)
    else if c = 's' then some (.shorthand .space false, q)
    else if c = 'S' then some (.shorthand .space true, q)
    else if c = 'w' then some (.shorthand .word false, q)
    else if c = 'W' then some (.shorthand .word true, q)
    else if isEscapable c then some (.char c false, q)
    else if c = 'a' then some (.char '\x07' false, q)
    else if c = 'f' then some (.char '\x0c' false, q)
    else if c = 't' then some (.char '\t' false, q)
    else if c = 'n' then some (.char '\n' false, q)
    else if c = 'r' then some (.char '\r' false, q)
    else if c = 'v' then some (.char '\x0b' false, q)
    else if c = 'A' then some (.anchor .textStart, q)
    else if c = 'z' then some (.anchor .textEnd, q)
    else if c = 'b' then readBoundary q
    else if c = 'B' then some (.anchor .noBoundary, q)
    else if c = '<' then some (.anchor .wordStart, q)
    else if c = '>' then some (.anchor .wordEnd, q)
    else none

/-! ## Bracketed sets -/

/-- The named sets. -/
def asciiClasses : List (String × AsciiClass) :=
  [("alnum", .alnum), ("alpha", .alpha), ("ascii", .ascii), ("blank", .blank),
    ("cntrl", .cntrl), ("digit", .digit), ("graph", .graph), ("lower", .lower),
    ("print", .print), ("punct", .punct), ("space", .space), ("upper", .upper),
    ("word", .word), ("xdigit", .xdigit)]

/-- A named set in brackets and colons. -/
def readAsciiClass (p : Place) : Option (SetTree × Place) := do
  let p ← p.after? "[:"
  let (negated, p) := match p.rest with
    | '^' :: rest => (true, { p with rest })
    | _ => (false, p)
  let name := p.rest.takeWhile (· != ':')
  let kind ← asciiClasses.lookup (String.ofList name)
  let p ← (p.drop name.length).after? ":]"
  return (.ascii kind negated, p)

/-- A character or an escape inside a set. -/
def readSetItem (p : Place) : Option (Tree × Place) :=
  match p.rest with
  | [] => none
  | '\\' :: rest => readEscape { p with rest }
  | c :: rest => some (.char c false, { p with rest })

/-- An item of a set that is not the end of a range. -/
def setOfItem? : Tree → Option SetTree
  | .char c _ => some (.char c)
  | .shorthand k n => some (.shorthand k n)
  | _ => none

/-- A character of a set, or a range of them. A minus before the closing
bracket or another minus is not part of a range. -/
def readSetRange (p : Place) : Option (SetTree × Place) := do
  let (first, p) ← readSetItem p
  let p := p.skip
  match p.rest with
  | [] => none
  | '-' :: rest =>
    let q := ({ p with rest } : Place).skip
    match q.rest with
    | [] => none
    | c :: _ =>
      if c = ']' ∨ c = '-' then return (← setOfItem? first, p)
      else
        let (last, q) ← readSetItem q
        match first, last with
        | .char a _, .char b _ => if a ≤ b then return (.range a b, q) else none
        | _, _ => none
  | _ => return (← setOfItem? first, p)

/-- The beginning of a set behind its bracket: whether it is negated, and the
characters that stand for themselves only there. -/
def openSet (p : Place) : Option (Bool × List SetTree × Place) := do
  let p := p.skip
  let (negated, p) := match p.rest with
    | '^' :: rest => (true, ({ p with rest } : Place).skip)
    | _ => (false, p)
  let rec minuses : Nat → List SetTree → Place → List SetTree × Place
    | 0, items, p => (items, p)
    | steps + 1, items, p =>
      match p.rest with
      | '-' :: rest => minuses steps (.char '-' :: items) ({ p with rest } : Place).skip
      | _ => (items, p)
  let (items, p) := minuses p.rest.length [] p
  match p.rest with
  | [] => none
  | ']' :: rest =>
    if items.isEmpty then
      let p := ({ p with rest } : Place).skip
      if p.rest.isEmpty then none else return (negated, [.char ']'], p)
    else return (negated, items, p)
  | _ => return (negated, items, p)

/-- What has been read of a set before its last operator. -/
def combineSet (before : Option (SetOperator × SetTree)) (items : List SetTree) : SetTree :=
  let last := SetTree.ofUnion items.reverse
  match before with
  | none => last
  | some (operator, s) => .combine operator s last

/-- The inside of a set up to its closing bracket, given what has been read of
it, the items in reverse order. -/
def readSet : (steps : Nat) → Option (SetOperator × SetTree) → List SetTree → Place →
    Option (SetTree × Place)
  | 0, _, _, _ => none
  | steps + 1, before, items, p => do
    let p := p.skip
    match p.rest with
    | [] => none
    | ']' :: rest => return (combineSet before items, { p with rest })
    | '[' :: rest =>
      match readAsciiClass p with
      | some (s, p) => readSet steps before (s :: items) p
      | none =>
        let (negated, inner, q) ← openSet { p with rest }
        let (s, q) ← readSet steps none inner q
        readSet steps before (.bracket negated s :: items) q
    | '&' :: '&' :: rest =>
      readSet steps (some (.intersection, combineSet before items)) [] { p with rest }
    | '-' :: '-' :: rest =>
      readSet steps (some (.difference, combineSet before items)) [] { p with rest }
    | '~' :: '~' :: rest =>
      readSet steps (some (.symmetricDifference, combineSet before items)) [] { p with rest }
    | _ =>
      let (s, p) ← readSetRange p
      readSet steps before (s :: items) p

/-- A bracketed set behind its opening bracket. -/
def readBracket (steps : Nat) (p : Place) : Option (Tree × Place) := do
  let (negated, items, p) ← openSet p
  let (s, p) ← readSet steps none items p
  return (.set negated s, p)

/-! ## Repetitions -/

/-- The number of a repetition, with blanks around it. -/
def readCount (p : Place) : Option (Nat × Place) :=
  let inNumber (c : Char) : Bool := c.isDigit || (p.verbose && isBlank c)
  let cs := p.rest.dropWhile isBlank
  let digits := (cs.takeWhile inNumber).filter Char.isDigit
  if digits.isEmpty then none
  else
    let n := ofDigits digits
    if n < UInt32.size then some (n, { p with rest := (cs.dropWhile inNumber).dropWhile isBlank })
    else none

/-- The bounds of a repetition behind its opening brace. -/
def readBounds (p : Place) : Option (Nat × Option Nat × Place) := do
  let (least, p) ← readCount p.skip
  match p.rest with
  | '}' :: rest => return (least, some least, { p with rest })
  | ',' :: rest =>
    let p := ({ p with rest } : Place).skip
    match p.rest with
    | '}' :: rest => return (least, none, { p with rest })
    | _ =>
      let (most, p) ← readCount p
      match p.rest with
      | '}' :: rest => if least ≤ most then return (least, some most, { p with rest }) else none
      | _ => none
  | _ => none

/-- The repetition of the last of some patterns in reverse order. A question
mark behind it makes it match lazily, which changes nothing about whether it
matches. -/
def repeatLast (items : List Tree) (least : Nat) (most : Option Nat) (p : Place) :
    Option (List Tree × Place) :=
  match items with
  | [] => none
  | .empty :: _ => none
  | .flags _ :: _ => none
  | t :: items =>
    let p := match p.rest with
      | '?' :: rest => { p with rest }
      | _ => p
    some (.repeated t least most :: items, p)

/-! ## Groups -/

/-- The flag with a letter. -/
def flag? (c : Char) : Option Flag :=
  if c = 'i' then some .ignoreCase
  else if c = 'm' then some .multiLine
  else if c = 's' then some .dotAll
  else if c = 'U' then some .lazy
  else if c = 'u' then some .unicode
  else if c = 'R' then some .carriageReturn
  else if c = 'x' then some .verbose
  else none

/-- The flags that letters turn on, and those that letters behind a minus turn
off. No flag is given twice, and a minus is followed by a flag. -/
def flagChange? (cs : List Char) : Option FlagChange := do
  let on ← (cs.takeWhile (· != '-')).mapM flag?
  let off ← match cs.dropWhile (· != '-') with
    | [] => some []
    | _ :: [] => none
    | _ :: rest => rest.mapM flag?
  if (on ++ off).length = (on ++ off).eraseDups.length then return ⟨on, off⟩ else none

/-- The name of a group and the place behind it. -/
def readName (p : Place) : Option (List Char × Place) :=
  let name := p.rest.takeWhile (· != '>')
  let starts (c : Char) : Bool := c == '_' || isAlphabetic c
  let continues (c : Char) : Bool :=
    c == '_' || c == '.' || c == '[' || c == ']' || isLetterOrNumeral c
  match name, p.rest.drop name.length with
  | c :: cs, '>' :: rest =>
    if starts c ∧ cs.all continues ∧ ¬p.names.contains name then
      some (name, { p with rest, names := name :: p.names })
    else none
  | _, _ => none

/-- What stands behind an opening bracket: flags for the rest of the group, or
the beginning of a group with its own flags. -/
inductive Opening where
  | flags (change : FlagChange)
  | group (change : FlagChange)

/-- What stands behind an opening bracket. -/
def readOpening (p : Place) : Option (Opening × Place) := do
  let p := p.skip
  match p.rest with
  | '?' :: cs =>
    match cs with
    | 'P' :: '<' :: rest =>
      let (_, p) ← readName { p with rest }
      return (.group ⟨[], []⟩, p)
    | '<' :: rest =>
      match rest with
      | '=' :: _ => none
      | '!' :: _ => none
      | _ =>
        let (_, p) ← readName { p with rest }
        return (.group ⟨[], []⟩, p)
    | _ =>
      let letters := cs.takeWhile fun c => c != ':' && c != ')'
      let change ← flagChange? letters
      match cs.drop letters.length with
      | ')' :: rest => if letters.isEmpty then none else return (.flags change, { p with rest })
      | ':' :: rest => return (.group change, { p with rest })
      | _ => none
  | _ => return (.group ⟨[], []⟩, p)

/-- Whether blanks are skipped after a change of flags. -/
def FlagChange.verbose (c : FlagChange) (before : Bool) : Bool :=
  (before || c.on.contains .verbose) && !c.off.contains .verbose

/-! ## Patterns -/

/-- The alternatives up to the end of the group or of the pattern, given those
before and the items of the one that is read, both in reverse order. -/
def readTree : (steps : Nat) → List Tree → List Tree → Place → Option (Tree × Place)
  | 0, _, _, _ => none
  | steps + 1, branches, items, p => do
    let p := p.skip
    let finished := Tree.ofAlternatives (Tree.ofSequence items.reverse :: branches).reverse
    match p.rest with
    | [] => return (finished, p)
    | c :: rest =>
      let q : Place := { p with rest }
      if c = ')' then return (finished, p)
      else if c = '|' then readTree steps (.ofSequence items.reverse :: branches) [] q
      else if c = '(' then
        match ← readOpening q with
        | (.flags change, q) =>
          readTree steps branches (.flags change :: items)
            { q with verbose := change.verbose q.verbose }
        | (.group change, q) =>
          let (t, inner) ← readTree steps [] [] { q with verbose := change.verbose q.verbose }
          match inner.rest with
          | ')' :: rest =>
            readTree steps branches (.group change t :: items)
              { inner with rest, verbose := q.verbose }
          | _ => none
      else if c = '[' then
        let (t, q) ← readBracket steps q
        readTree steps branches (t :: items) q
      else if c = '?' then
        let (items, q) ← repeatLast items 0 (some 1) q
        readTree steps branches items q
      else if c = '*' then
        let (items, q) ← repeatLast items 0 none q
        readTree steps branches items q
      else if c = '+' then
        let (items, q) ← repeatLast items 1 none q
        readTree steps branches items q
      else if c = '{' then
        let (least, most, q) ← readBounds q
        let (items, q) ← repeatLast items least most q.skip
        readTree steps branches items q
      else if c = '\\' then
        let (t, q) ← readEscape q
        readTree steps branches (t :: items) q
      else
        let t : Tree :=
          if c = '.' then .dot
          else if c = '^' then .anchor .lineStart
          else if c = '$' then .anchor .lineEnd
          else .char c false
        readTree steps branches (t :: items) q

/-- The tree of a pattern. -/
def tree? (pattern : String) : Option Tree := do
  let cs := pattern.toList
  let (t, p) ← readTree (2 * cs.length + 2) [] [] ⟨cs, [], false⟩
  if p.rest.isEmpty ∧ t.nesting ≤ nestingLimit then return t else none

end Pattern

end Reference

end RecordQuery
