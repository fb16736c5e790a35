-- Numbers of 64 significant bits, zero or positive, without bounds on the exponent. Every operation
-- is the exact one followed by a rounding to the nearest such number, a half to the even neighbour.
import CorpusSearch.Number.Double

namespace CorpusSearch

/-- The number `mantissa · 2 ^ exponent`. -/
structure Wide where
  mantissa : Nat
  exponent : Int
  deriving Repr, Inhabited

namespace Wide

/-- The number nearest to the quotient of two natural numbers. -/
def nearest (num den : Nat) : Wide :=
  if num = 0 || den = 0 then ⟨0, 0⟩
  else
    let low : Int := (num.log2 : Int) - (den.log2 : Int) - 64
    let (n, d) := Double.scaled num den (-low)
    let exponent := if n / d < Number.twoTo 64 then low else low + 1
    let (n, d) := Double.scaled num den (-exponent)
    ⟨Double.roundDiv n d, exponent⟩

/-- The number nearest to a quotient times a power of two. -/
def ofScaled (num den : Nat) (exponent : Int) : Wide :=
  let (num, den) := Double.scaled num den exponent
  nearest num den

/-- The size of a floating-point number, which is held exactly; zero if it is infinite or none. -/
def ofDouble : Double → Wide
  | .finite _ mantissa exponent => ⟨mantissa, exponent⟩
  | .infinite _ | .nan => ⟨0, 0⟩

def ofNat (n : Nat) : Wide := nearest n 1

/-- The floating-point number nearest to `figures · 10 ^ power`. -/
def decimal (figures : Nat) (power : Int) : Wide := ofDouble (.ofDecimal false figures power)

/-- Two numbers as multiples of one power of two. -/
def aligned (x y : Wide) : Nat × Nat × Int :=
  let low := min x.exponent y.exponent
  (x.mantissa * Number.twoTo (x.exponent - low).toNat,
    y.mantissa * Number.twoTo (y.exponent - low).toNat, low)

/-- Whether a number is less than another one. -/
def lt (x y : Wide) : Bool :=
  let (m, n, _) := x.aligned y
  m < n

def add (x y : Wide) : Wide :=
  let (m, n, low) := x.aligned y
  ofScaled (m + n) 1 low

/-- The rounded difference, zero if it is negative. -/
def sub (x y : Wide) : Wide :=
  let (m, n, low) := x.aligned y
  ofScaled (m - n) 1 low

def mul (x y : Wide) : Wide := ofScaled (x.mantissa * y.mantissa) 1 (x.exponent + y.exponent)

def div (x y : Wide) : Wide := ofScaled x.mantissa y.mantissa (x.exponent - y.exponent)

def whole (x : Wide) : Nat :=
  let (num, den) := Double.scaled x.mantissa 1 x.exponent
  num / den

end Wide

end CorpusSearch
