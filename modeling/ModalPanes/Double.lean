import ModalPanes.Text.Numeral

/-!
# Binary numbers with a fraction

A finite number of double precision is a multiple of the least positive one, `2 ^ -1074`, and is kept as
its sign and how many of these units it has.  At most 53 binary digits of it count.  Products and
quotients are rounded to the nearest such number, in the middle to the even one; what is too large for
that has no result.

A decimal is read by scaling its leading digits, as many as fit a machine word, by powers of ten that are
rounded themselves, so that what is read need not be the number nearest to what is written.
-/

namespace ModalPanes

namespace Double

/-- So many units are a finite number. -/
def Representable (units : Nat) : Prop :=
  ∃ significand shift, significand < 1 <<< 53 ∧ shift ≤ 2045 ∧ units = significand <<< shift

/-- The units at which numbers stop being finite. -/
def infinite : Nat := 1 <<< 2098

theorem shiftLeft_lt_infinite_iff (n : Nat) : 1 <<< n < infinite ↔ n < 2098 := by
  unfold infinite
  generalize 2098 = m
  simp only [Nat.shiftLeft_eq, Nat.one_mul]
  exact Nat.pow_lt_pow_iff_right Nat.one_lt_two

/-- The nearest whole number to a ratio, in the middle the even one. -/
def nearest (numerator denominator : Nat) : Nat :=
  let below := numerator / denominator
  let rest := numerator % denominator
  if 2 * rest < denominator ∨ 2 * rest = denominator ∧ below % 2 = 0 then below else below + 1

/-- How many binary digits of a ratio are rounded away. -/
def excess (numerator denominator : Nat) : Nat := (numerator / denominator).log2 - 52

/-- A ratio of units, rounded to 53 binary digits. -/
def rounded (numerator denominator : Nat) : Nat :=
  let shift := excess numerator denominator
  nearest numerator (denominator <<< shift) <<< shift

theorem nearest_bounds (numerator denominator : Nat) :
    numerator / denominator ≤ nearest numerator denominator ∧
      nearest numerator denominator ≤ numerator / denominator + 1 := by
  unfold nearest
  dsimp only
  split <;> omega

/-- What is kept of a ratio has 53 binary digits at most, and just as many if some are rounded away. -/
theorem kept_bounds (numerator denominator : Nat) :
    numerator / (denominator <<< excess numerator denominator) < 1 <<< 53 ∧
      (excess numerator denominator ≠ 0 →
        1 <<< 52 ≤ numerator / (denominator <<< excess numerator denominator)) := by
  rw [Nat.shiftLeft_eq denominator, ← Nat.div_div_eq_div_mul]
  unfold excess
  generalize numerator / denominator = whole
  simp only [Nat.shiftLeft_eq, Nat.one_mul]
  constructor
  · rw [Nat.div_lt_iff_lt_mul (Nat.two_pow_pos _), ← Nat.pow_add]
    exact Nat.lt_of_lt_of_le Nat.lt_log2_self (Nat.pow_le_pow_right Nat.two_pos (by omega))
  · intro long
    have some : whole ≠ 0 := by
      rintro rfl
      exact long rfl
    rw [Nat.le_div_iff_mul_le (Nat.two_pow_pos _), ← Nat.pow_add, Nat.add_sub_cancel' (by omega)]
    exact Nat.log2_self_le some

/-- A ratio is rounded to a number, unless that is too large. -/
theorem representable_rounded {numerator denominator : Nat} (small : rounded numerator denominator < infinite) :
    Representable (rounded numerator denominator) := by
  obtain ⟨short, long⟩ := kept_bounds numerator denominator
  obtain ⟨above, below⟩ := nearest_bounds numerator (denominator <<< excess numerator denominator)
  unfold rounded at *
  dsimp only at *
  generalize excess numerator denominator = shift at *
  generalize nearest numerator (denominator <<< shift) = kept at *
  have shift_le : shift ≤ 2045 := by
    by_cases none : shift = 0
    · omega
    · have large : 1 <<< (52 + shift) < infinite := by
        rw [Nat.shiftLeft_add]
        simp only [Nat.shiftLeft_eq _ shift] at small ⊢
        exact Nat.lt_of_le_of_lt (Nat.mul_le_mul_right _ (Nat.le_trans (long none) above)) small
      have bound := (shiftLeft_lt_infinite_iff _).1 large
      exact Nat.le_of_lt_succ (Nat.lt_of_add_lt_add_left (n := 52) bound)
  rcases Nat.lt_or_ge kept (1 <<< 53) with fits | carries
  · exact ⟨kept, shift, fits, shift_le, rfl⟩
  · obtain rfl : kept = 1 <<< 53 := Nat.le_antisymm (Nat.le_trans below short) carries
    rw [← Nat.shiftLeft_add] at small ⊢
    replace small := (shiftLeft_lt_infinite_iff _).1 small
    exact ⟨1 <<< 52, shift + 1, by decide, by omega, by rw [← Nat.shiftLeft_add]; congr 1; omega⟩

end Double

/-- A finite number of double precision.  Zero has a sign, too. -/
structure Double where
  negative : Bool
  units : Nat
  representable : Double.Representable units
deriving DecidableEq

namespace Double

/-- The number as so many units, positive or negative. -/
def value (number : Double) : Int := if number.negative then -number.units else number.units

/-- The number nearest to a ratio of units, if that is finite. -/
def ofRatio? (negative : Bool) (numerator denominator : Nat) : Option Double :=
  if small : rounded numerator denominator < infinite then
    some ⟨negative, rounded numerator denominator, representable_rounded small⟩
  else none

/-- A natural number, rounded. -/
def ofNat? (n : Nat) : Option Double := ofRatio? false (n <<< 1074) 1

def times? (a b : Double) : Option Double :=
  ofRatio? (a.negative != b.negative) (a.units * b.units) (1 <<< 1074)

def over? (a b : Double) : Option Double :=
  ofRatio? (a.negative != b.negative) (a.units <<< 1074) b.units

/-- A power of ten. -/
def tenTo : Nat → Nat
  | 0 => 1
  | exponent + 1 => 10 * tenTo exponent

/-- The largest exponent of a power of ten that is a number. -/
def largestExponent : Nat := 308

/-- Multiply by a power of ten. -/
def scaleUp? (number : Double) (exponent : Nat) : Option Double :=
  if exponent ≤ largestExponent then (ofNat? (tenTo exponent)).bind number.times?
  else if number.units = 0 then some number
  else none

/-- Divide by the largest power of ten so many times, or until nothing is left. -/
def shrink? : Nat → Double → Option Double
  | 0, number => some number
  | rounds + 1, number =>
      if number.units = 0 then some number
      else ((ofNat? (tenTo largestExponent)).bind number.over?).bind (shrink? rounds)

/-- Divide by a power of ten; beyond the largest one, by that first as often as it takes. -/
def scaleDown? (number : Double) (exponent : Nat) : Option Double :=
  let rounds := (exponent - 1) / largestExponent
  (shrink? rounds number).bind fun number =>
    (ofNat? (tenTo (exponent - rounds * largestExponent))).bind number.over?

/-- Further digits behind a number, as long as it fits a machine word, and how many do not. -/
def leading (n : Nat) : List Char → Nat × Nat
  | [] => (n, 0)
  | c :: digits =>
      let next := n * 10 + Numeral.digitValue c
      if next ≤ Numeral.largest then leading next digits else (n, digits.length + 1)

/-- The number that a decimal writes: its digits in front of the point, those behind it, and its
exponent. -/
def ofDecimal? (negative : Bool) (whole fraction : List Char) (exponent : Int) : Option Double :=
  let front := leading 0 whole
  let digits := leading front.1 fraction
  let scale := front.2 + digits.2 - fraction.length + exponent
  ((ofNat? digits.1).bind fun number =>
    if 0 ≤ scale then number.scaleUp? scale.toNat else number.scaleDown? (-scale).toNat).map
      fun number => { number with negative := negative }

/-- The place of the first digit of a number, counted from the point to the left. -/
def magnitude (number : Double) : Int :=
  (decimal ((number.units * tenTo 330) >>> 1074)).length - 331

/-- Whether a number is the one nearest to some digits, the last of which stands at a place. -/
def isNearest (number : Double) (digits : Nat) (place : Int) : Bool :=
  rounded ((digits * tenTo place.toNat) <<< 1074) (tenTo (-place).toNat) == number.units

/-- So many digits to which a number is nearest, those closer to it if there are two ways. -/
def digitsOf? (number : Double) (count : Nat) : Option (Nat × Int) :=
  let place := number.magnitude - count + 1
  let numerator := number.units * tenTo (-place).toNat
  let denominator := tenTo place.toNat <<< 1074
  let below := numerator / denominator
  let close := nearest numerator denominator
  ([close, below, below + 1].find? (number.isNearest · place)).map (·, place)

/-- The fewest digits to which a number is nearest, and the place of the last one.  All digits of a
number are always enough. -/
def fewestDigits (number : Double) : Nat × Int :=
  (((List.range 17).map (· + 1)).findSome? number.digitsOf?).getD ((number.units * tenTo 1074) >>> 1074, -1074)

/-- Digits with a point among them, or with zeros around them, or with an exponent, the last one at a
place. -/
def pointed (digits : List Char) (place : Int) : List Char :=
  let point := digits.length + place
  if 0 ≤ place ∧ point ≤ 16 then digits ++ List.replicate place.toNat '0' ++ ".0".toList
  else if 0 < point ∧ point ≤ 16 then digits.take point.toNat ++ '.' :: digits.drop point.toNat
  else if -5 < point ∧ point ≤ 0 then "0.".toList ++ List.replicate (-point).toNat '0' ++ digits
  else
    let exponent := 'e' :: (toString (point - 1)).toList
    match digits with
    | [digit] => digit :: exponent
    | _ => digits.take 1 ++ '.' :: digits.drop 1 ++ exponent

/-- The number as it is written, with as few digits as it takes. -/
def written (number : Double) : List Char :=
  let found := number.fewestDigits
  let digits := decimal found.1
  let kept := (digits.reverse.dropWhile (· == '0')).reverse
  let sign := if number.negative then ['-'] else []
  if number.units = 0 then sign ++ "0.0".toList
  else sign ++ pointed kept (found.2 + (digits.length - kept.length : Nat))

end Double

end ModalPanes
