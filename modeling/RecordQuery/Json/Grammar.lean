import RecordQuery.Json.Format
import RecordQuery.Number.Decimal
import RecordQuery.Text.Hexadecimal
/-!
# The grammar of JSON texts

Which texts are texts of which outlines, without a reader: `o.WrittenAs cs` says that
`cs` is a text of `o`, with spaces wherever they may stand. The number in a numeral is
the one that the format finds there. `Value.compact` is the text of a value without any
spaces.

A format conforms to the grammar (`Format.Conforms`) if it reads every text of an outline
as the outline, writes every value without spaces, and takes integers for what they are.
That it finds a floating-point number again in the numeral it wrote is a property of its
own (`Format.ReadsFloatsBack`).
-/

namespace RecordQuery

/-! ## Numerals -/

/-- The digits that a number may start with: none of them is a needless zero. -/
structure Leading (w : List Char) : Prop where
  ne_nil : w ≠ []
  digits : Digits w
  needed : w.head? = some '0' → w.length ≤ 1

/-- The digits before a point, and those behind it if there are some. -/
inductive Mantissa : List Char → List Char → Option (List Char) → Prop
  | whole {w : List Char} (hw : Leading w) : Mantissa w w none
  | pointed {w f : List Char} (hw : Leading w) (hne : f ≠ []) (hf : Digits f) :
      Mantissa (w ++ '.' :: f) w (some f)

namespace Json

/-- The text of a power of ten, if there is one. -/
inductive Exponent : List Char → Option Int → Prop
  | none : Exponent [] none
  | unsigned {c : Char} {w : List Char} (hc : c = 'e' ∨ c = 'E') (hne : w ≠ []) (hw : Digits w) :
      Exponent (c :: w) (some (ofDigits w : Int))
  | plus {c : Char} {w : List Char} (hc : c = 'e' ∨ c = 'E') (hne : w ≠ []) (hw : Digits w) :
      Exponent (c :: '+' :: w) (some (ofDigits w : Int))
  | minus {c : Char} {w : List Char} (hc : c = 'e' ∨ c = 'E') (hne : w ≠ []) (hw : Digits w) :
      Exponent (c :: '-' :: w) (some (-(ofDigits w : Int)))

/-- The minus in front of a number, if it has one. -/
def signText (negative : Bool) : List Char := if negative then ['-'] else []

/-- Whether a text is a numeral. -/
inductive IsNumeral : List Char → Prop
  | intro (negative : Bool) {cs w ds : List Char} {f : Option (List Char)} {e : Option Int}
      (hm : Mantissa cs w f) (he : Exponent ds e) : IsNumeral (signText negative ++ (cs ++ ds))

/-! ## Strings -/

/-- The value of four hexadecimal digits. -/
def codeUnit? (a b c d : Char) : Option Nat := do
  return ((((← hexValue? a) * 16 + (← hexValue? b)) * 16 + (← hexValue? c)) * 16 + (← hexValue? d))

/-- Whether a code is the first half of a surrogate pair. -/
def IsHigh (n : Nat) : Prop := 0xD800 ≤ n ∧ n ≤ 0xDBFF

/-- Whether a code is the second half of a surrogate pair. -/
def IsLow (n : Nat) : Prop := 0xDC00 ≤ n ∧ n ≤ 0xDFFF

instance : DecidablePred IsHigh := fun _ => inferInstanceAs (Decidable (_ ∧ _))

instance : DecidablePred IsLow := fun _ => inferInstanceAs (Decidable (_ ∧ _))

/-- The character that a surrogate pair stands for. -/
def pairChar (high low : Nat) : Char := .ofNat (0x10000 + (high - 0xD800) * 0x400 + (low - 0xDC00))

/-- The character that a letter behind a backslash stands for. -/
def escaped? (c : Char) : Option Char :=
  if c = '"' ∨ c = '\\' ∨ c = '/' then some c
  else if c = 'b' then some '\x08'
  else if c = 'f' then some '\x0c'
  else if c = 'n' then some '\n'
  else if c = 'r' then some '\r'
  else if c = 't' then some '\t'
  else none

/-- What stands between the quotes of a string, and the characters it stands for. -/
inductive Inside : List Char → List Char → Prop
  | nil : Inside [] []
  | plain {c : Char} {cs s : List Char} (hquote : c ≠ '"') (hescape : c ≠ '\\')
      (hc : 0x20 ≤ c.toNat) (h : Inside cs s) : Inside (c :: cs) (c :: s)
  | escaped {e c : Char} {cs s : List Char} (hc : escaped? e = some c) (h : Inside cs s) :
      Inside ('\\' :: e :: cs) (c :: s)
  | coded {a b c d : Char} {n : Nat} {cs s : List Char} (hn : codeUnit? a b c d = some n)
      (hhigh : ¬ IsHigh n) (hlow : ¬ IsLow n) (h : Inside cs s) :
      Inside ('\\' :: 'u' :: a :: b :: c :: d :: cs) (.ofNat n :: s)
  | pair {a b c d a' b' c' d' : Char} {n m : Nat} {cs s : List Char}
      (hn : codeUnit? a b c d = some n) (hhigh : IsHigh n)
      (hm : codeUnit? a' b' c' d' = some m) (hlow : IsLow m) (h : Inside cs s) :
      Inside ('\\' :: 'u' :: a :: b :: c :: d :: '\\' :: 'u' :: a' :: b' :: c' :: d' :: cs)
        (pairChar n m :: s)

/-- A text of a string, from its first quote to its last one. -/
def StringText (s : String) (cs : List Char) : Prop :=
  ∃ inside, cs = '"' :: (inside ++ ['"']) ∧ Inside inside s.toList

/-! ## Spaces -/

/-- Whether a character may stand between the parts of a text. -/
def isSpace (c : Char) : Bool := c == ' ' || c == '\t' || c == '\n' || c == '\r'

/-- A text of nothing but spaces. -/
def Spaces (cs : List Char) : Prop := ∀ c ∈ cs, isSpace c = true

/-- A text of a key, with the spaces around it. -/
def KeyText (key : String) (cs : List Char) : Prop :=
  ∃ before text after, cs = before ++ (text ++ after) ∧
    Spaces before ∧ StringText key text ∧ Spaces after

/-! ## Outlines -/

namespace Outline

variable [Format]

mutual

/-- The texts of an outline. -/
inductive WrittenAs : Outline → List Char → Prop
  | null : WrittenAs .null ['n', 'u', 'l', 'l']
  | true : WrittenAs (.bool true) ['t', 'r', 'u', 'e']
  | false : WrittenAs (.bool false) ['f', 'a', 'l', 's', 'e']
  | number {cs : List Char} (h : IsNumeral cs) : WrittenAs (.number (Format.number? cs)) cs
  | string {s : String} {cs : List Char} (h : StringText s cs) : WrittenAs (.string (some s)) cs
  | emptyArray {gap : List Char} (h : Spaces gap) : WrittenAs (.array []) ('[' :: (gap ++ [']']))
  | array {items : List Outline} {cs : List Char} (h : ItemsWrittenAs items cs) :
      WrittenAs (.array items) ('[' :: cs)
  | emptyObject {gap : List Char} (h : Spaces gap) : WrittenAs (.object []) ('{' :: (gap ++ ['}']))
  | object {members : List (Option String × Outline)} {cs : List Char}
      (h : MembersWrittenAs members cs) : WrittenAs (.object members) ('{' :: cs)
  | spaced {o : Outline} {before cs after : List Char} (hbefore : Spaces before)
      (h : WrittenAs o cs) (hafter : Spaces after) : WrittenAs o (before ++ (cs ++ after))

/-- The texts of an array's items, up to its closing bracket. -/
inductive ItemsWrittenAs : List Outline → List Char → Prop
  | last {o : Outline} {cs : List Char} (h : WrittenAs o cs) : ItemsWrittenAs [o] (cs ++ [']'])
  | more {o : Outline} {items : List Outline} {cs ds : List Char} (h : WrittenAs o cs)
      (hitems : ItemsWrittenAs items ds) : ItemsWrittenAs (o :: items) (cs ++ ',' :: ds)

/-- The texts of an object's members, up to its closing brace. -/
inductive MembersWrittenAs : List (Option String × Outline) → List Char → Prop
  | last {key : String} {o : Outline} {ks cs : List Char} (hkey : KeyText key ks)
      (h : WrittenAs o cs) : MembersWrittenAs [(some key, o)] (ks ++ ':' :: (cs ++ ['}']))
  | more {key : String} {o : Outline} {members : List (Option String × Outline)}
      {ks cs ds : List Char} (hkey : KeyText key ks) (h : WrittenAs o cs)
      (hmembers : MembersWrittenAs members ds) :
      MembersWrittenAs ((some key, o) :: members) (ks ++ ':' :: (cs ++ ',' :: ds))

end

end Outline

/-! ## Texts without spaces -/

namespace Value

/-- A character inside a string. Quotes, backslashes and control characters
are escaped, the usual ones by a letter. -/
def escape (c : Char) : List Char :=
  if c = '"' then ['\\', '"']
  else if c = '\\' then ['\\', '\\']
  else if c = '\x08' then ['\\', 'b']
  else if c = '\x0c' then ['\\', 'f']
  else if c = '\n' then ['\\', 'n']
  else if c = '\r' then ['\\', 'r']
  else if c = '\t' then ['\\', 't']
  else if c.toNat < 0x20 then
    ['\\', 'u', '0', '0', hexDigit (c.toNat / 16), hexDigit (c.toNat % 16)]
  else [c]

/-- The text of a string. -/
def stringText (s : String) : List Char := '"' :: (s.toList.flatMap escape ++ ['"'])

mutual

/-- The text of a value without spaces, given the numerals of numbers. -/
def compact (numeral : Number → List Char) : Value → List Char
  | null => ['n', 'u', 'l', 'l']
  | bool true => ['t', 'r', 'u', 'e']
  | bool false => ['f', 'a', 'l', 's', 'e']
  | number n => numeral n
  | string s => stringText s
  | array [] => ['[', ']']
  | array (v :: rest) => '[' :: (compact numeral v ++ compactItems numeral rest)
  | object [] => ['{', '}']
  | object ((k, v) :: rest) =>
    '{' :: (stringText k ++ ':' :: (compact numeral v ++ compactMembers numeral rest))

/-- The text of an array behind some of its items. -/
def compactItems (numeral : Number → List Char) : List Value → List Char
  | [] => [']']
  | v :: rest => ',' :: (compact numeral v ++ compactItems numeral rest)

/-- The text of an object behind some of its members. -/
def compactMembers (numeral : Number → List Char) : List (String × Value) → List Char
  | [] => ['}']
  | (k, v) :: rest =>
    ',' :: (stringText k ++ ':' :: (compact numeral v ++ compactMembers numeral rest))

end

end Value

/-! ## Formats -/

namespace Format

variable [Format]

/-- What a library for JSON does by its documentation. A text is read as what it says.
Values are written without spaces. A number is written as a numeral, an integer in base
ten, and is found there if it is an integer that fits into 64 bits. -/
structure Conforms : Prop where
  read_of_writtenAs : ∀ {text : String} {o : Outline}, o.WrittenAs text.toList → read text = some o
  write_eq : ∀ v : Value, write v = String.ofList (v.compact numeral)
  isNumeral : ∀ n : Number, IsNumeral (numeral n)
  numeral_integer : ∀ (n : Int) (fits : FitsWord n),
    numeral (.integer n fits) = (integerText n).toList
  number?_integer : ∀ (n : Int) (fits : FitsWord n),
    number? (integerText n).toList = some (.integer n fits)

/-- Whether every finite floating-point number is found again in what is written of it. -/
def ReadsFloatsBack : Prop :=
  ∀ (x : Binary64) (finite : x.isFinite = true),
    number? (numeral (.float x finite)) = some (.float x finite)

end Format

end Json

end RecordQuery
