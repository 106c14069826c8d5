import RecordQuery.Reference.Pattern.Expression
/-!
# Matching

An expression is matched against a text by following all its places at once.
A set of places is a natural number whose bit `i` stands for the place before
the character `i`. Places only move forward, so a repetition without an upper
bound adds a new place at most as often as there are places.
-/

namespace RecordQuery

namespace Reference

namespace Pattern

/-- The bits of the places, from `i` on, at which a condition holds that
depends on the character before and the character behind. -/
def placeBits (holds : Option Char → Option Char → Bool) (i : Nat) (before : Option Char) :
    List Char → Nat
  | [] => if holds before none then 1 <<< i else 0
  | c :: rest =>
    (if holds before (some c) then 1 <<< i else 0) + placeBits holds (i + 1) (some c) rest

/-- Whether a condition holds between two characters. -/
def Look.holds (l : Look) (before behind : Option Char) : Bool :=
  let inWord (word : CharSet) (c : Option Char) : Bool := c.any word.contains
  match l with
  | .textStart => before.isNone
  | .textEnd => behind.isNone
  | .lineStart false => before.isNone || before == some '\n'
  | .lineEnd false => behind.isNone || behind == some '\n'
  | .lineStart true =>
    before.isNone || before == some '\n' || (before == some '\r' && behind != some '\n')
  | .lineEnd true =>
    behind.isNone || behind == some '\r' || (behind == some '\n' && before != some '\r')
  | .boundary word => inWord word before != inWord word behind
  | .noBoundary word => inWord word before == inWord word behind
  | .wordStart word => !inWord word before && inWord word behind
  | .wordEnd word => inWord word before && !inWord word behind
  | .beforeWord word => !inWord word before
  | .behindWord word => !inWord word behind

/-- The places with those that a step leads to from them, over and over, at
most so many times. -/
def growing (step : Nat → Nat) : Nat → Nat → Nat
  | 0, places => places
  | times + 1, places =>
    let more := places ||| step places
    if more = places then places else growing step times more

/-- The places that a number of steps leads to. -/
def stepping (step : Nat → Nat) : Nat → Nat → Nat
  | 0, places => places
  | times + 1, places => if places = 0 then 0 else stepping step times (step places)

/-- The places at which an expression can end that starts at some of the given
ones. -/
def Expression.reach (text : List Char) : Expression → Nat → Nat
  | empty, places => places
  | set s, places =>
    (places &&& placeBits (fun _ behind => behind.any s.contains) 0 .none text) <<< 1
  | look l, places => places &&& placeBits l.holds 0 .none text
  | cat e f, places => f.reach text (e.reach text places)
  | alt e f, places => e.reach text places ||| f.reach text places
  | repeated e least most, places =>
    let start := stepping (e.reach text) least places
    match most with
    | .none => growing (e.reach text) (text.length + 1) start
    | some most => growing (e.reach text) (most - least) start

/-- Whether an expression matches somewhere in a text. -/
def Expression.isIn (e : Expression) (text : String) : Bool :=
  let cs := text.toList
  e.reach cs ((1 <<< (cs.length + 1)) - 1) != 0

end Pattern

end Reference

end RecordQuery
