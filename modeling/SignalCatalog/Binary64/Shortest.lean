import SignalCatalog.Binary64
import SignalCatalog.Text.Numeral

/-!
# The shortest decimal of a double

A double is written with the fewest digits that read back to it; of two decimals of that length the
nearer one is taken. `shortest` selects the digits and tests each candidate by reading it back, so
what it returns reads back by construction; `Layout` says how digits are set: where positional
notation ends, and whether a whole number keeps a point.
-/

namespace SignalCatalog.Binary64

open SignalCatalog.Text

/-- Digits and a power of ten: the number `digits * 10 ^ exponent`. -/
structure Decimal where
  digits : Nat
  exponent : Int
deriving DecidableEq

/-- The decimal without the zeros at the end of its digits. -/
def Decimal.strip : Nat → Decimal → Decimal
  | 0, d => d
  | fuel + 1, d =>
    if d.digits ≠ 0 ∧ d.digits % 10 = 0 then strip fuel ⟨d.digits / 10, d.exponent + 1⟩ else d

/-- Which of two equally near decimals is taken. -/
inductive TieRule
  | upper
  | even
deriving DecidableEq

/-- The number of digits before the point of `num / den`, at most zero for a fraction below one. -/
def digitsBeforePoint (num den : Nat) : Int :=
  let estimate : Int := ((num.log2 : Int) - den.log2) * 30103 / 100000
  let tooSmall (k : Int) : Bool := den * 10 ^ k.toNat ≤ num * 10 ^ (-k).toNat
  let k := estimate - 1
  let k := if tooSmall k then k + 1 else k
  let k := if tooSmall k then k + 1 else k
  if tooSmall k then k + 1 else k

/-- The decimals with `count` digits on both sides of `num / den`, and how twice the remainder
compares with the grid. -/
def neighbours (num den : Nat) (scale : Int) (count : Nat) : Decimal × Decimal × Ordering :=
  let unit : Int := scale - count
  let a := num * 10 ^ (-unit).toNat
  let b := den * 10 ^ unit.toNat
  (⟨a / b, unit⟩, ⟨a / b + 1, unit⟩, compare (2 * (a % b)) b)

/-- The nearer of the candidates of one length that read back. -/
def pick (tie : TieRule) (readsBack : Decimal → Bool) :
    Decimal × Decimal × Ordering → Option Decimal
  | (low, high, half) =>
    match readsBack low, readsBack high with
    | false, false => none
    | true, false => some low
    | false, true => some high
    | true, true =>
      match half, tie with
      | .lt, _ => some low
      | .gt, _ => some high
      | .eq, .upper => some high
      | .eq, .even => some (if low.digits % 2 = 0 then low else high)

/-- The exact decimal expansion of `m * 2 ^ e`. -/
def exactDecimal (m : Nat) (e : Int) : Decimal :=
  ⟨m * 2 ^ e.toNat * 5 ^ (-e).toNat, -((-e).toNat : Int)⟩

/-- The shortest decimal of the magnitude `m * 2 ^ e` of a double. -/
def shortest (tie : TieRule) (m : Nat) (e : Int) (h : Canonical m e) : Decimal :=
  if m = 0 then ⟨0, 0⟩
  else
    let (num, den) := scaled m e
    let scale := digitsBeforePoint num den
    let readsBack (d : Decimal) : Bool :=
      decide (ofDecimal false d.digits d.exponent = .finite false m e h)
    let found := (List.range 17).findSome? fun n =>
      pick tie readsBack (neighbours num den scale (n + 1))
    (found.getD (exactDecimal m e)).strip 800

/-- How the digits of a number are set. -/
structure Layout where
  /-- Numbers of more places before the point, or of more zeros after it, carry an exponent. -/
  positional : Option (Int × Int)
  /-- Whole numbers keep a point and a zero. -/
  keepsPoint : Bool
  tie : TieRule

/-- Positional notation always, and whole numbers without a point. -/
def plainLayout : Layout := ⟨none, false, .upper⟩

/-- A point in every number, and an exponent from 10^16 on and below 10^-5. -/
def pointedLayout : Layout := ⟨some (16, -5), true, .even⟩

def zeros (n : Nat) : List Char := List.replicate n '0'

/-- Positional notation of a decimal with `point` digits before the point. -/
def setPositional (keepsPoint : Bool) (run : List Char) (point : Int) : List Char :=
  if run.length ≤ point then
    run ++ zeros (point.toNat - run.length) ++ (if keepsPoint then ['.', '0'] else [])
  else if 0 < point then run.take point.toNat ++ ['.'] ++ run.drop point.toNat
  else ['0', '.'] ++ zeros (-point).toNat ++ run

/-- One digit, the others after a point, and a signed exponent. -/
def setScientific (run : List Char) (power : Int) : List Char :=
  let mantissa := match run with
    | first :: second :: rest => first :: '.' :: second :: rest
    | _ => run
  mantissa ++ ['e', if power < 0 then '-' else '+'] ++ digits power.natAbs

def Layout.set (layout : Layout) (d : Decimal) : List Char :=
  let run := digits d.digits
  let point : Int := run.length + d.exponent
  match layout.positional with
  | none => setPositional layout.keepsPoint run point
  | some (high, low) =>
    if d.digits ≠ 0 ∧ (high < point ∨ point - 1 < low) then setScientific run (point - 1)
    else setPositional layout.keepsPoint run point

/-- The text of a double. -/
def text (layout : Layout) : Binary64 → String
  | nan => "NaN"
  | infinite negative => if negative then "-inf" else "inf"
  | finite negative m e h =>
    String.ofList ((if negative then ['-'] else []) ++ layout.set (shortest layout.tie m e h))

end SignalCatalog.Binary64
