-- Floating-point numbers of 53 significant bits, held exactly, so that every operation is the
-- exact one followed by a rounding to the nearest such number.
import CorpusSearch.Number.Decimal

namespace CorpusSearch

/-- A floating-point number. `finite negative m e` stands for `± m · 2 ^ e` with `m < 2 ^ 53` and
`-1074 ≤ e ≤ 971`; `m` has all 53 bits unless `e = -1074`. -/
inductive Double where
  | finite (negative : Bool) (mantissa : Nat) (exponent : Int)
  | infinite (negative : Bool)
  | nan
  deriving DecidableEq, Repr, Inhabited

namespace Double

/-- Zero, with its sign. -/
def zero (negative : Bool) : Double := .finite negative 0 (-1074)

/-! ## Rounding -/

/-- The quotient of two natural numbers rounded to the nearest natural number, a half to the even
neighbour. -/
def roundDiv (num den : Nat) : Nat :=
  let whole := num / den
  let twice := 2 * (num % den)
  if twice < den then whole
  else if twice = den then whole + whole % 2
  else whole + 1

/-- `num · 2 ^ e` and `den` as a quotient of natural numbers: `num / den · 2 ^ e`. -/
def scaled (num den : Nat) (e : Int) : Nat × Nat :=
  if 0 ≤ e then (num * Number.twoTo e.toNat, den) else (num, den * Number.twoTo (-e).toNat)

/-- The floating-point number nearest to `± num / den`, a tie going to the even mantissa. -/
def nearest (negative : Bool) (num den : Nat) : Double :=
  if num = 0 || den = 0 then zero negative
  else
    let low : Int := max ((num.log2 : Int) - (den.log2 : Int) - 53) (-1074)
    let (n, d) := scaled num den (-low)
    let e := if n / d < Number.twoTo 53 then low else low + 1
    let (n, d) := scaled num den (-e)
    let m := roundDiv n d
    let (m, e) := if m < Number.twoTo 53 then (m, e) else (Number.twoTo 52, e + 1)
    if e > 971 then .infinite negative else .finite negative m e

/-- The number nearest to a whole number, none when that is past the largest one. -/
def ofInt? (i : Int) : Option Double :=
  match nearest (i < 0) i.natAbs 1 with
  | .infinite _ => none
  | d => some d

/-- The number nearest to `± figures · 10 ^ power`. -/
def ofDecimal (negative : Bool) (figures : Nat) (power : Int) : Double :=
  let size := (Number.digits figures).length + power
  if figures = 0 || size < -400 then zero negative
  else if size > 400 then .infinite negative
  else if 0 ≤ power then nearest negative (figures * Number.tenTo power.toNat) 1
  else nearest negative figures (Number.tenTo (-power).toNat)

/-- The quotient of a whole number by a positive one, none when it is past the largest number. -/
def quotient? (num : Int) (den : Nat) : Option Double :=
  match nearest (num < 0) num.natAbs den with
  | .infinite _ => none
  | d => some d

/-! ## Arithmetic -/

def signed (negative : Bool) (m : Nat) : Int := if negative then -(m : Int) else m

/-- The number nearest to `i · 2 ^ e`; a zero takes the given sign. -/
def ofScaled (zeroNegative : Bool) (i e : Int) : Double :=
  if i = 0 then zero zeroNegative
  else
    let (n, d) := scaled i.natAbs 1 e
    nearest (i < 0) n d

def negated : Double → Double
  | .finite negative m e => .finite (!negative) m e
  | .infinite negative => .infinite (!negative)
  | .nan => .nan

def add : Double → Double → Double
  | .finite s m e, .finite s' m' e' =>
    let low := min e e'
    let total :=
      signed s m * Number.twoTo (e - low).toNat + signed s' m' * Number.twoTo (e' - low).toNat
    ofScaled (s && s') total low
  | .infinite s, .infinite s' => if s = s' then .infinite s else .nan
  | .infinite s, .finite .. => .infinite s
  | .finite .., .infinite s => .infinite s
  | _, _ => .nan

def mul : Double → Double → Double
  | .finite s m e, .finite s' m' e' =>
    ofScaled (s != s') (signed (s != s') (m * m')) (e + e')
  | .infinite s, .infinite s' => .infinite (s != s')
  | .infinite s, .finite s' m _ => if m = 0 then .nan else .infinite (s != s')
  | .finite s m _, .infinite s' => if m = 0 then .nan else .infinite (s != s')
  | _, _ => .nan

/-- Whether the first number is less than the second; no number is less than or above `nan`. -/
def lt : Double → Double → Bool
  | .finite s m e, .finite s' m' e' =>
    let low := min e e'
    signed s m * Number.twoTo (e - low).toNat < signed s' m' * Number.twoTo (e' - low).toNat
  | .infinite s, .infinite s' => s && !s'
  | .infinite s, .finite .. => s
  | .finite .., .infinite s => !s
  | _, _ => false

/-- Whether a number is zero or less. -/
def isAtMostZero : Double → Bool
  | .finite negative m _ => negative || m = 0
  | .infinite negative => negative
  | .nan => false

/-- The whole number that a number is equal to, if there is one. -/
def toInt? : Double → Option Int
  | .finite negative m e =>
    let (n, d) := scaled m 1 e
    if n % d = 0 then some (signed negative (n / d)) else none
  | _ => none

end Double

end CorpusSearch
