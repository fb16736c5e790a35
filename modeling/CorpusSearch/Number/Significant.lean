-- Floating-point numbers with a limited count of significant digits, computed in numbers of 64
-- significant bits: the rounding of each step can show in the last digit.
import CorpusSearch.Number.Shortest
import CorpusSearch.Number.Wide

namespace CorpusSearch.Double

/-- A number and the power of ten that it has to be multiplied by. -/
abbrev Shifted := Wide × Int

/-- Multiplies a scale by a power of ten while a value is not below their product, at most `fuel`
times. -/
def raise (value : Wide) (power : Nat) : (fuel : Nat) → Shifted → Shifted
  | 0, scale => scale
  | fuel + 1, (scale, k) =>
    let step := Wide.decimal 1 power
    if value.lt (step.mul scale) then (scale, k)
    else raise value power fuel (scale.mul step, k + power)

/-- Multiplies a value by a power of ten while it is below a bound, at most `fuel` times. -/
def lift (bound : Wide) (power : Nat) : (fuel : Nat) → Shifted → Shifted
  | 0, value => value
  | fuel + 1, (value, k) =>
    if value.lt bound then lift bound power fuel (value.mul (Wide.decimal 1 power), k - power)
    else (value, k)

/-- A positive value as a number from 1 to 10 and a power of ten. The powers go in steps of a
hundred, of ten and of one. -/
def shifted (value : Wide) : Shifted :=
  let (scale, k) :=
    raise value 1 400 (raise value 10 40 (raise value 100 4 (Wide.ofNat 1, 0)))
  lift (Wide.ofNat 1) 1 10 (lift (Wide.decimal 1 (-8)) 8 50 (value.div scale, k))

/-- Half a unit of the last one of `count` digits, of which one stands before the point. -/
def halfUnit (count : Nat) : Wide :=
  let places := count - 1
  (List.range (places / 10)).foldl (fun half _ => half.mul (Wide.decimal 1 (-10)))
    (Wide.decimal 5 (-(places % 10 : Nat) - 1))

/-- The first `count` digits of a number below 10. -/
def figuresOf : (count : Nat) → Wide → Text
  | 0, _ => []
  | count + 1, value =>
    Char.ofNat ('0'.toNat + value.whole) ::
      figuresOf count ((value.sub (Wide.ofNat value.whole)).mul (Wide.ofNat 10))

/-- Digits without the zeros at their end, but one digit in any case. -/
def trimZeros (figures : Text) : Text :=
  match (figures.reverse.dropWhile (· == '0')).reverse with
  | [] => ['0']
  | figures => figures

/-- The size of a number with at most `count` significant digits and a point with a digit behind it
in any case: positional from `0.0001` up to below `10 ^ count`, else with an exponent. -/
def significantSize (count : Nat) (size : Wide) : Text :=
  let (value, k) := if size.mantissa = 0 then (size, 0) else shifted size
  let value := value.add (halfUnit count)
  let (value, k) :=
    if value.lt (Wide.ofNat 10) then (value, k) else (value.mul (Wide.decimal 1 (-1)), k + 1)
  let figures := figuresOf count value
  if k < -4 || (count : Int) ≤ k then
    figures.take 1 ++ ['.'] ++ trimZeros (figures.drop 1) ++ ['e'] ++ exponentText k
  else if k < 0 then
    ['0', '.'] ++ List.replicate (-k - 1).toNat '0' ++ trimZeros figures
  else
    figures.take (k.toNat + 1) ++ ['.'] ++ trimZeros (figures.drop (k.toNat + 1))

/-- A number with at most `count` significant digits. -/
def significant (count : Nat) : Double → Text
  | .nan => "NaN"
  | .infinite negative => if negative then "-Inf" else "Inf"
  | .finite negative mantissa exponent =>
    (if negative && mantissa != 0 then ['-'] else []) ++
      significantSize count ⟨mantissa, exponent⟩

end CorpusSearch.Double
