import OroEdge.Lib.Scan
import Mathlib.Algebra.Order.Field.Rat
import Mathlib.Algebra.Order.Group.Unbundled.Abs

/-!
# Texts as numbers

`std::stoi` and `std::stof`, which read a number at the start of a text, after white
space, and ignore what comes after it.  They are `none` where the library throws: for a
text without a number, and for a number out of range.

Floating-point numbers are exact rationals, a NaN, or one of the two infinities
(`Extended`); they are not rounded.

What the two functions accept is wider than what a program usually means by a number: a text
such as `12abc` is 12, a float may be hexadecimal, and `inf` and `nan` are read as well, in any
case.  So a program that passes on what it has read must be looked at for these values, too.

Both functions scan from the left: white space, a sign, digits.  The value of the digits is
computed exactly, and the range is checked afterwards, which is where an exception comes from:
for `std::stoi` a number that is not an `int`, for `std::stof` one that would overflow or
underflow a `float` (`inFloatRange`).  The conversion of an `Extended` to an integer takes a
parameter for the numbers where C++ leaves it undefined.
-/

namespace OroEdge.Lib

open Directive

/-- Whether there is a minus sign, and what follows the sign. -/
def scanSign : List Char → Bool × List Char
  | '-' :: rest => (true, rest)
  | '+' :: rest => (false, rest)
  | rest => (false, rest)

/-- The sign of the number in a text, and the text from its first digit on. -/
def signedInput (s : String) : Bool × List Char := scanSign (s.toList.dropWhile isSpace)

/-- `std::stoi`; `none` stands for either exception. -/
def stoi (s : String) : Option ℤ :=
  match (signedInput s).2.takeWhile Char.isDigit with
  | [] => none
  | digits =>
      let n : ℤ := if (signedInput s).1 then -digitsValue digits else digitsValue digits
      if wrap32 n = n then some n else none

/-! ## Floating-point numbers -/

/-- A `float`, as an exact rational if it is finite. -/
inductive Extended
  | nan
  | negInf
  | finite (q : ℚ)
  | posInf
  deriving DecidableEq, Repr

namespace Extended

/-- The sign is changed. -/
def neg : Extended → Extended
  | .nan => .nan
  | .negInf => .posInf
  | .finite q => .finite (-q)
  | .posInf => .negInf

/-- The sum of two infinities of different signs is a NaN. -/
def add : Extended → Extended → Extended
  | .finite p, .finite q => .finite (p + q)
  | .nan, _ => .nan
  | _, .nan => .nan
  | .negInf, .posInf => .nan
  | .posInf, .negInf => .nan
  | .negInf, _ => .negInf
  | _, .negInf => .negInf
  | .posInf, _ => .posInf
  | _, .posInf => .posInf

/-- `x < q`; a NaN is not less than anything. -/
def below (q : ℚ) : Extended → Bool
  | .finite p => p < q
  | .negInf => true
  | _ => false

/-- `x > q`. -/
def above (q : ℚ) : Extended → Bool
  | .finite p => q < p
  | .posInf => true
  | _ => false

/-- The product with a positive number. -/
def scale (factor : ℚ) : Extended → Extended
  | .finite q => .finite (q * factor)
  | x => x

/-- The conversion to an integer.  It is defined for finite numbers only; any other gives
`arbitrary`. -/
def toInt (arbitrary : ℤ) : Extended → ℤ
  | .finite q => truncated q
  | _ => arbitrary

theorem neg_neg (x : Extended) : x.neg.neg = x := by
  cases x <;> simp [neg]

theorem neg_eq_nan_iff {x : Extended} : x.neg = .nan ↔ x = .nan := by
  cases x <;> simp [neg]

theorem finite_add_eq_nan_iff {q : ℚ} {x : Extended} : (finite q).add x = .nan ↔ x = .nan := by
  cases x <;> simp [add]

end Extended

def isHexDigit (c : Char) : Bool := c.isDigit || ('a' ≤ c.toLower && c.toLower ≤ 'f')

/-- The value of a hexadecimal digit. -/
def hexValue (c : Char) : ℕ :=
  if c.isDigit then c.toNat - '0'.toNat else c.toLower.toNat - 'a'.toNat + 10

/-- Digits with an optional point among them: their value, and what follows. -/
def scanMantissa (base : ℕ) (isDigit : Char → Bool) (input : List Char) : Option (ℚ × List Char) :=
  let whole := input.takeWhile isDigit
  let (fraction, rest) :=
    match input.dropWhile isDigit with
    | '.' :: rest => (rest.takeWhile isDigit, rest.dropWhile isDigit)
    | rest => ([], rest)
  if whole = [] ∧ fraction = [] then none
  else
    let value := (whole ++ fraction).foldl (fun value digit => base * value + hexValue digit) 0
    some ((value : ℚ) / (base : ℚ) ^ fraction.length, rest)

/-- A number is multiplied by the power that an exponent after the letter asks for. -/
def scaled (base : ℚ) (letter : Char) (mantissa : ℚ) : List Char → ℚ
  | c :: rest =>
      if c.toLower = letter then
        let exponent := digitsValue ((scanSign rest).2.takeWhile Char.isDigit)
        if (scanSign rest).1 then mantissa / base ^ exponent else mantissa * base ^ exponent
      else mantissa
  | [] => mantissa

/-- A hexadecimal number, and otherwise a decimal one. -/
def scanFinite (input : List Char) : Option ℚ :=
  match hexadecimal input with
  | some (mantissa, rest) => some (scaled 2 'p' mantissa rest)
  | none => (scanMantissa 10 Char.isDigit input).map fun (mantissa, rest) =>
      scaled 10 'e' mantissa rest
where
  hexadecimal : List Char → Option (ℚ × List Char)
    | '0' :: x :: rest => if x.toLower = 'x' then scanMantissa 16 isHexDigit rest else none
    | _ => none

/-- A magnitude rounds to a `float` without an overflow, and is zero, normal, or a
denormal number itself. -/
def inFloatRange (q : ℚ) : Bool :=
  decide (q < 2 ^ 128 - 2 ^ 103) &&
    (decide (q = 0) || decide (1 ≤ q * 2 ^ 126) || decide ((q * 2 ^ 149).den = 1))

/-- `std::stof`; `none` stands for either exception. -/
def stof (s : String) : Option Extended :=
  let (negative, input) := signedInput s
  let word := (input.take 3).map Char.toLower
  if word = ['i', 'n', 'f'] then some (if negative then .negInf else .posInf)
  else if word = ['n', 'a', 'n'] then some .nan
  else
    match scanFinite input with
    | some q => if inFloatRange q then some (.finite (if negative then -q else q)) else none
    | none => none

example : stoi " -42nd" = some (-42) ∧ stoi "4294967296" = none ∧ stoi "up" = none := by decide

example : stof "-12.5e1" = some (.finite (-125)) ∧ stof "0x1.8p1" = some (.finite 3) ∧
    stof "-inf" = some .negInf ∧ stof "nan" = some .nan ∧ stof "1e39" = none ∧
    stof "left" = none := by decide +kernel

end OroEdge.Lib
