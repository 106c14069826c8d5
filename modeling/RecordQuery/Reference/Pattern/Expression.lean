import RecordQuery.Reference.Pattern.CharSet
import RecordQuery.Reference.Pattern.Reader
/-!
# Regular expressions

A pattern's tree is turned into a regular expression, in which flags and
groups are gone and all sets are spelled out. This fails where a pattern asks
for single bytes that are not characters, and where its repetitions would
spell out too large an expression.
-/

namespace RecordQuery

namespace Reference

namespace Pattern

/-- A condition on a place between characters, given what stands before and
behind it. -/
inductive Look where
  | textStart
  | textEnd
  | lineStart (carriageReturn : Bool)
  | lineEnd (carriageReturn : Bool)
  | boundary (word : CharSet)
  | noBoundary (word : CharSet)
  | wordStart (word : CharSet)
  | wordEnd (word : CharSet)
  | beforeWord (word : CharSet)
  | behindWord (word : CharSet)

/-- A regular expression. -/
inductive Expression where
  | empty
  | set (s : CharSet)
  | look (l : Look)
  | cat (e f : Expression)
  | alt (e f : Expression)
  | repeated (e : Expression) (least : Nat) (most : Option Nat)

/-! ## Flags -/

/-- The flags that are on. The verbose flag matters only for reading, and the
lazy flag does not matter for whether a pattern matches. -/
structure Mode where
  ignoreCase : Bool
  multiLine : Bool
  dotAll : Bool
  unicode : Bool
  carriageReturn : Bool

/-- The flags a pattern starts with. -/
def Mode.initial : Mode := ⟨false, false, false, true, false⟩

/-- The flags after a change. -/
def Mode.change (m : Mode) (c : FlagChange) : Mode :=
  let after (flag : Flag) (before : Bool) : Bool :=
    (before || c.on.contains flag) && !c.off.contains flag
  ⟨after .ignoreCase m.ignoreCase, after .multiLine m.multiLine, after .dotAll m.dotAll,
    after .unicode m.unicode, after .carriageReturn m.carriageReturn⟩

/-! ## Sets -/

/-- A set in every letter case, if case is ignored. -/
def Mode.fold (m : Mode) (s : CharSet) : CharSet :=
  if m.ignoreCase then if m.unicode then .anyCase s else .anyAsciiCase s else s

/-- A set or its complement. Without the Unicode mode complements would hold
bytes that are not characters. -/
def Mode.negate? (m : Mode) (negated : Bool) (s : CharSet) : Option CharSet :=
  if negated then if m.unicode then some (.complement s) else none else some s

/-- The set of a shorthand. -/
def Mode.shorthand? (m : Mode) (kind : Shorthand) (negated : Bool) : Option CharSet :=
  m.negate? negated (if m.unicode then .shorthand kind else .ofAsciiShorthand kind)

/-- The characters that make words. -/
def Mode.word (m : Mode) : CharSet :=
  if m.unicode then .shorthand .word else .ofAsciiShorthand .word

mutual

/-- The set of a bracketed set's inside. -/
def setOf? (m : Mode) : SetTree → Option CharSet
  | .empty => some .none
  | .char c => if m.unicode || c.toNat < 128 then some (.single c) else none
  | .range a b =>
    if m.unicode || b.toNat < 128 then some (.range a.toNat b.toNat) else none
  | .ascii kind negated => m.negate? negated (m.fold (.ofAsciiClass kind))
  | .shorthand kind negated => m.shorthand? kind negated
  | .bracket negated inside => do m.negate? negated (m.fold (← setOf? m inside))
  | .union items => unionOf? m items
  | .combine operator l r => do
    let s := m.fold (← setOf? m l)
    let t := m.fold (← setOf? m r)
    return match operator with
      | .intersection => .inter s t
      | .difference => .diff s t
      | .symmetricDifference => .union (.diff s t) (.diff t s)

/-- The union of several sets. -/
def unionOf? (m : Mode) : List SetTree → Option CharSet
  | [] => some .none
  | s :: rest => do return .union (← setOf? m s) (← unionOf? m rest)

end

/-! ## Trees -/

/-- The condition that an anchor stands for. -/
def Mode.look (m : Mode) : Anchor → Look
  | .lineStart => if m.multiLine then .lineStart m.carriageReturn else .textStart
  | .lineEnd => if m.multiLine then .lineEnd m.carriageReturn else .textEnd
  | .textStart => .textStart
  | .textEnd => .textEnd
  | .boundary => .boundary m.word
  | .noBoundary => .noBoundary m.word
  | .wordStart => .wordStart m.word
  | .wordEnd => .wordEnd m.word
  | .beforeWord => .beforeWord m.word
  | .behindWord => .behindWord m.word

/-- The set that a single character of a pattern matches. -/
def Mode.char? (m : Mode) (c : Char) (byte : Bool) : Option CharSet :=
  if !m.unicode && byte && 128 ≤ c.toNat then none else some (m.fold (.single c))

/-- The set that a dot matches. -/
def Mode.dot? (m : Mode) : Option CharSet :=
  if !m.unicode then none
  else some (.complement (if m.dotAll then .none else .lineEnds m.carriageReturn))

mutual

/-- The expression of a tree, and the flags behind it. -/
def expression? (m : Mode) : Tree → Option (Expression × Mode)
  | .empty => some (.empty, m)
  | .flags change => some (.empty, m.change change)
  | .char c byte => do return (.set (← m.char? c byte), m)
  | .dot => do return (.set (← m.dot?), m)
  | .anchor kind => some (.look (m.look kind), m)
  | .shorthand kind negated => do return (.set (← m.shorthand? kind negated), m)
  | .set negated inside => do
    return (.set (← m.negate? negated (m.fold (← setOf? m inside))), m)
  | .repeated t least most => do
    let (e, m) ← expression? m t
    return (.repeated e least most, m)
  | .group change t => do
    let (e, _) ← expression? (m.change change) t
    return (e, m)
  | .alternatives ts => alternatives? m ts
  | .sequence ts => sequence? m ts

/-- Alternatives, of which there is one at least. -/
def alternatives? (m : Mode) : List Tree → Option (Expression × Mode)
  | [] => some (.empty, m)
  | [t] => expression? m t
  | t :: rest => do
    let (e, m) ← expression? m t
    let (f, m) ← alternatives? m rest
    return (.alt e f, m)

/-- A sequence. -/
def sequence? (m : Mode) : List Tree → Option (Expression × Mode)
  | [] => some (.empty, m)
  | t :: rest => do
    let (e, m) ← expression? m t
    let (f, m) ← sequence? m rest
    return (.cat e f, m)

end

/-! ## Size -/

/-- How much room a set takes up. Sets with many ranges take more. -/
def CharSet.weight : CharSet → Nat
  | none => 1
  | range a b => if a < 128 && b < 128 then 1 else 4
  | shorthand .digit => 250
  | shorthand .space => 20
  | shorthand .word => 1500
  | complement s => s.weight + 8
  | union s t => s.weight + t.weight
  | inter s t => max s.weight t.weight
  | anyCase s => 2 * s.weight
  | anyAsciiCase s => 2 * s.weight

/-- The room that an expression takes up with its repetitions spelled out. -/
def Expression.weight : Expression → Nat
  | empty => 0
  | set s => s.weight
  | look _ => 1
  | cat e f => e.weight + f.weight
  | alt e f => e.weight + f.weight + 1
  | repeated e least most => (e.weight + 1) * max least (most.getD (least + 1))

/-- The room that an expression may take up. -/
def weightLimit : Nat := 327680

end Pattern

/-- The regular expression of a pattern, if it is a valid one. -/
def Pattern.compile? (pattern : String) : Option Pattern.Expression := do
  let (e, _) ← Pattern.expression? Pattern.Mode.initial (← Pattern.tree? pattern)
  if e.weight ≤ Pattern.weightLimit then return e else none

end Reference

end RecordQuery
