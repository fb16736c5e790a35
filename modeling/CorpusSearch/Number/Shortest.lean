-- Floating-point numbers in the fewest decimal digits that read back as the same number.
import CorpusSearch.Number.Double

namespace CorpusSearch.Double

/-! ## The fewest digits -/

/-- The power `k` with `10 ^ (k - 1) ≤ num / den < 10 ^ k` for a quotient below one that has at
most `fuel` zeros behind the point. -/
def smallPower (num den : Nat) : Nat → Int
  | 0 => 0
  | fuel + 1 => if num * 10 < den then smallPower (num * 10) den fuel - 1 else 0

/-- The power `k` with `10 ^ (k - 1) ≤ num / den < 10 ^ k`. -/
def decimalPower (num den : Nat) : Int :=
  if num < den then smallPower num den 400 else (Number.digits (num / den)).length

/-- Of the multiples of `grid`, the one to show for a number: it lies between `low` and `high`,
with the ends if `ends` holds, and is the nearer one of the two neighbours of `value`, of two
equally near ones the even one. -/
def pick? (low value high grid : Nat) (ends : Bool) : Option Nat :=
  let below := value / grid
  let fits (figure : Nat) : Bool :=
    let place := figure * grid
    if ends then low ≤ place && place ≤ high else low < place && place < high
  let twice := 2 * (value % grid)
  let lean := twice < grid || (twice = grid && below % 2 = 0)
  if fits below && (lean || !fits (below + 1)) then some below
  else if fits (below + 1) then some (below + 1)
  else none

/-- The figure and the digit count of the coarsest grid that has a decimal for `m · 2 ^ e`, where
`10 ^ (k - 1) ≤ m · 2 ^ e < 10 ^ k` and grids of fewer than `count` digits have none. The reals
that round to the number reach half a unit up and down, below a power of two a quarter down;
their ends belong to them when `m` is even. -/
def shortestFrom (m : Nat) (e k : Int) : (count fuel : Nat) → Nat × Nat
  | count, 0 => (m, count)
  | count, fuel + 1 =>
    let (quarter, quarterParts) := scaled 1 1 (e - 2)
    let shift := k - count
    let unit := quarter * Number.tenTo (-shift).toNat
    let grid := quarterParts * Number.tenTo shift.toNat
    let low := if m = Number.twoTo 52 && e > -1074 then 4 * m - 1 else 4 * m - 2
    match pick? (low * unit) (4 * m * unit) ((4 * m + 2) * unit) grid (m % 2 = 0) with
    | some figure => (figure, count)
    | none => shortestFrom m e k (count + 1) fuel

/-- The shortest decimal of a nonzero number: its digits, and the power `k` for which the number
is `0.digits · 10 ^ k`. Seventeen digits are always enough. -/
def shortest (m : Nat) (e : Int) : Text × Int :=
  let (num, den) := scaled m 1 e
  let k := decimalPower num den
  let (figure, count) := shortestFrom m e k 1 17
  let figures := Number.digits figure
  ((figures.reverse.dropWhile (· == '0')).reverse, k - count + figures.length)

/-! ## The text of a number -/

/-- Positive and negative exponents with their sign and at least two digits. -/
def exponentText (e : Int) : Text :=
  let figures := Number.digits e.natAbs
  (if e < 0 then '-' else '+') :: (if figures.length < 2 then '0' :: figures else figures)

/-- A number in its shortest decimal: positional from `0.0001` up to below `10 ^ 16`, with a point
and a digit behind it in any case, else with an exponent. -/
def text : Double → Text
  | .nan => ['n', 'a', 'n']
  | .infinite negative => (if negative then ['-'] else []) ++ ['i', 'n', 'f']
  | .finite negative m e =>
    let sign : Text := if negative then ['-'] else []
    if m = 0 then sign ++ ['0', '.', '0']
    else
      let (figures, k) := shortest m e
      if -4 < k && k ≤ 16 then
        if k ≤ 0 then sign ++ ['0', '.'] ++ List.replicate (-k).toNat '0' ++ figures
        else
          let whole := figures.take k.toNat
          let behind := figures.drop k.toNat
          sign ++ whole ++ List.replicate (k.toNat - whole.length) '0' ++ ['.'] ++
            (if behind.isEmpty then ['0'] else behind)
      else
        let point : Text := if figures.length < 2 then [] else ['.']
        sign ++ figures.take 1 ++ point ++ figures.drop 1 ++ ['e'] ++ exponentText (k - 1)

/-- A number with a fixed count of digits behind the point, a half going to the even digit. -/
def fixed (places : Nat) : Double → Text
  | .finite negative m e =>
    let (num, den) := scaled m 1 e
    let figures := Number.digits (roundDiv (num * Number.tenTo places) den)
    let filled := List.replicate (places + 1 - figures.length) '0' ++ figures
    let whole := filled.take (filled.length - places)
    let behind := filled.drop (filled.length - places)
    (if negative then ['-'] else []) ++ whole ++ (if places = 0 then [] else '.' :: behind)
  | other => other.text

end CorpusSearch.Double
