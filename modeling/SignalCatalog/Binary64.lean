/-!
# Double-precision numbers

Cells and numeric fields hold numbers of 53 significant bits. A finite one is a sign, a significand
and a power of two in the one canonical form, so that equal numbers are equal values, up to the sign
of zero. Arithmetic is exact rational arithmetic followed by one rounding, to nearest with ties to
the even significand.
-/

namespace SignalCatalog

-- Powers are those of the standard library, also where a library of algebra brings its own.
attribute [instance (high), default_instance high+1] instPowNat

namespace Binary64

/-- The significand has 53 bits, or fewer at the smallest exponent. -/
def Canonical (significand : Nat) (exponent : Int) : Prop :=
  significand < 2 ^ 53 ∧ -1074 ≤ exponent ∧ exponent ≤ 971 ∧
    (2 ^ 52 ≤ significand ∨ exponent = -1074)

instance (significand : Nat) (exponent : Int) : Decidable (Canonical significand exponent) := by
  unfold Canonical; infer_instance

end Binary64

/-- A double; a finite one stands for `significand * 2 ^ exponent` with its sign. -/
inductive Binary64
  | nan
  | infinite (negative : Bool)
  | finite (negative : Bool) (significand : Nat) (exponent : Int)
      (canonical : Binary64.Canonical significand exponent)
deriving DecidableEq

namespace Binary64

def zero (negative : Bool) : Binary64 :=
  .finite negative 0 (-1074) (by decide)

instance : Inhabited Binary64 := ⟨zero false⟩

/-- The nearest integer to a quotient; a half goes to the even neighbour. -/
def roundDiv (num den : Nat) : Nat :=
  let q := num / den
  let r := num % den
  if 2 * r < den then q else if den < 2 * r then q + 1 else if q % 2 = 0 then q else q + 1

/-- `m * 2 ^ e` as a quotient of natural numbers. -/
def scaled (m : Nat) (e : Int) : Nat × Nat := (m * 2 ^ e.toNat, 2 ^ (-e).toNat)

/-- The exponent at which the quotient has a significand of 53 bits, if it is not too small. -/
def exponentOf (num den : Nat) : Int :=
  let k : Int := (num.log2 : Int) - den.log2
  let e := k - 52
  let e := if num * 2 ^ (-e).toNat < den * 2 ^ e.toNat * 2 ^ 52 then e - 1 else e
  max e (-1074)

/-- The double nearest to a quotient; what is too large becomes infinite. -/
def ofQuotient (negative : Bool) (num den : Nat) : Binary64 :=
  if num = 0 then zero negative
  else
    let e := exponentOf num den
    let m := roundDiv (num * 2 ^ (-e).toNat) (den * 2 ^ e.toNat)
    let (m, e) := if m = 2 ^ 53 then (2 ^ 52, e + 1) else (m, e)
    if h : Canonical m e then .finite negative m e h else .infinite negative

def ofNat (n : Nat) : Binary64 := ofQuotient false n 1

def ofInt (n : Int) : Binary64 := ofQuotient (decide (n < 0)) n.natAbs 1

/-- The double nearest to `digits * 10 ^ exponent`. Numbers of more than 310 digits before the point
are infinite and those of more than 330 zeros after it are zero, whatever their digits. -/
def ofDecimal (negative : Bool) (digits : Nat) (exponent : Int) : Binary64 :=
  if digits = 0 then zero negative
  else
    let magnitude : Int := (Nat.log2 digits : Int) * 30103 / 100000 + exponent
    if 320 < magnitude then .infinite negative
    else if magnitude < -340 then zero negative
    else ofQuotient negative (digits * 10 ^ exponent.toNat) (10 ^ (-exponent).toNat)

/-- The same magnitude with the other sign. -/
def neg : Binary64 → Binary64
  | nan => nan
  | infinite s => infinite (!s)
  | finite s m e h => finite (!s) m e h

def isFinite : Binary64 → Bool
  | finite .. => true
  | _ => false

/-- The exact value of a finite double. -/
def value? : Binary64 → Option Rat
  | finite s m e _ =>
    let (num, den) := scaled m e
    some (mkRat (if s then -(num : Int) else num) den)
  | _ => none

/-- Equality as numbers: the two zeros are equal and no number equals a NaN. -/
def sameNumber : Binary64 → Binary64 → Bool
  | infinite s, infinite t => s == t
  | x, y => match x.value?, y.value? with
    | some v, some w => v == w
    | _, _ => false

/-- The product or quotient of two doubles' magnitudes `m * 2 ^ e` and `n / d`, rounded once. -/
def timesQuotient (x : Binary64) (num den : Nat) : Binary64 :=
  match x with
  | finite s m e _ => let (a, b) := scaled m e; ofQuotient s (a * num) (b * den)
  | other => other

/-- The largest integer not above a finite double. -/
def floor? (x : Binary64) : Option Int := x.value?.map Rat.floor

/-- The number cut to an integer towards zero. -/
def truncate? (x : Binary64) : Option Int :=
  x.value?.map fun v => if v < 0 then v.ceil else v.floor

/-- The integer that a finite double without fraction equals. -/
def whole? (x : Binary64) : Option Int :=
  x.value?.bind fun v => if v.den = 1 then some v.num else none

end Binary64

end SignalCatalog
