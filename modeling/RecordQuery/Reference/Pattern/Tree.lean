/-!
# Patterns as they are written

The tree of a pattern keeps its groups, flags and bracketed sets as written.
Trees may nest no deeper than `nestingLimit`, sequences, alternatives, groups,
repetitions and sets counting as one level each.
-/

namespace RecordQuery

namespace Reference

namespace Pattern

/-- A flag that changes the meaning of what follows it in its group. -/
inductive Flag where
  | ignoreCase
  | multiLine
  | dotAll
  | lazy
  | unicode
  | carriageReturn
  | verbose
deriving DecidableEq, Repr

/-- The flags that are turned on and off. -/
structure FlagChange where
  on : List Flag
  off : List Flag
deriving DecidableEq, Repr

/-- A place in the text that a pattern can ask for. -/
inductive Anchor where
  | lineStart
  | lineEnd
  | textStart
  | textEnd
  | boundary
  | noBoundary
  | wordStart
  | wordEnd
  | beforeWord
  | behindWord
deriving DecidableEq, Repr

/-- A set of characters with a letter of its own. -/
inductive Shorthand where
  | digit
  | space
  | word
deriving DecidableEq, Repr

/-- A named set of characters below the code point 128. -/
inductive AsciiClass where
  | alnum
  | alpha
  | ascii
  | blank
  | cntrl
  | digit
  | graph
  | lower
  | print
  | punct
  | space
  | upper
  | word
  | xdigit
deriving DecidableEq, Repr

/-- What combines two sets in brackets. -/
inductive SetOperator where
  | intersection
  | difference
  | symmetricDifference
deriving DecidableEq, Repr

/-- The inside of a bracketed set. -/
inductive SetTree where
  | empty
  | char (c : Char)
  | range (first last : Char)
  | ascii (kind : AsciiClass) (negated : Bool)
  | shorthand (kind : Shorthand) (negated : Bool)
  | bracket (negated : Bool) (inside : SetTree)
  | union (items : List SetTree)
  | combine (operator : SetOperator) (left right : SetTree)

/-- A pattern. A single character may be given as a byte. -/
inductive Tree where
  | empty
  | flags (change : FlagChange)
  | char (c : Char) (byte : Bool)
  | dot
  | anchor (kind : Anchor)
  | shorthand (kind : Shorthand) (negated : Bool)
  | set (negated : Bool) (inside : SetTree)
  | repeated (t : Tree) (least : Nat) (most : Option Nat)
  | group (change : FlagChange) (t : Tree)
  | alternatives (ts : List Tree)
  | sequence (ts : List Tree)

mutual

/-- The levels of a bracketed set's inside. -/
def SetTree.nesting : SetTree → Nat
  | .bracket _ inside => inside.nesting + 1
  | .union items => SetTree.nestingOfAll items + 1
  | .combine _ l r => max l.nesting r.nesting + 1
  | _ => 0

/-- The levels of the deepest of several sets. -/
def SetTree.nestingOfAll : List SetTree → Nat
  | [] => 0
  | s :: rest => max s.nesting (SetTree.nestingOfAll rest)

end

mutual

/-- The levels of a pattern. -/
def Tree.nesting : Tree → Nat
  | .set _ inside => inside.nesting + 1
  | .repeated t _ _ => t.nesting + 1
  | .group _ t => t.nesting + 1
  | .alternatives ts => Tree.nestingOfAll ts + 1
  | .sequence ts => Tree.nestingOfAll ts + 1
  | _ => 0

/-- The levels of the deepest of several patterns. -/
def Tree.nestingOfAll : List Tree → Nat
  | [] => 0
  | t :: rest => max t.nesting (Tree.nestingOfAll rest)

end

/-- The levels that patterns may have. -/
def nestingLimit : Nat := 250

/-- A sequence of patterns, which may be one or none. -/
def Tree.ofSequence : List Tree → Tree
  | [] => .empty
  | [t] => t
  | ts => .sequence ts

/-- Alternatives, of which there may be one. -/
def Tree.ofAlternatives : List Tree → Tree
  | [] => .empty
  | [t] => t
  | ts => .alternatives ts

/-- A union of sets, which may be one or none. -/
def SetTree.ofUnion : List SetTree → SetTree
  | [] => .empty
  | [s] => s
  | ss => .union ss

end Pattern

end Reference

end RecordQuery
