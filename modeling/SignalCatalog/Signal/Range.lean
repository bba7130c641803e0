import SignalCatalog.Binary64

/-!
# Ranges of numeric fields

A numeric field takes every `step`-th number from `min` to `max`. Any number is brought to the
nearest of them, the larger one of two equally near; what is no finite number goes to `min`.
-/

namespace SignalCatalog

structure FieldRange where
  field : String
  min : UInt32
  max : UInt32
  step : UInt32
deriving DecidableEq, Repr

namespace FieldRange

def contains (range : FieldRange) (value : UInt32) : Bool :=
  range.min ≤ value && value ≤ range.max && (value - range.min) % range.step == 0

/-- The number of steps from `min` to a number, to the nearest; a half goes up. -/
def steps (range : FieldRange) (value : Rat) : Int :=
  ((value - range.min.toNat) / range.step.toNat + mkRat 1 2).floor

/-- The contained number nearest to a number. -/
def clamp (range : FieldRange) (number : Binary64) : UInt32 :=
  match number.value? with
  | none => range.min
  | some value =>
    if value ≤ range.min.toNat then range.min
    else if (range.max.toNat : Rat) ≤ value then range.max
    else
      let snapped := range.min + UInt32.ofNat (range.steps value).toNat * range.step
      if snapped ≤ range.max then snapped else range.max

def bufferCount : FieldRange := ⟨"Buffer count_IPC", 1, 10, 1⟩

def sharedBuffers : FieldRange := ⟨"SM_Buff_Count", 1, 10, 1⟩

def timeout : FieldRange := ⟨"Timeout", 10, 1000, 10⟩

def periodicity : FieldRange := ⟨"Periodicity", 10, 1000, 10⟩

def all : List FieldRange := [bufferCount, sharedBuffers, timeout, periodicity]

end FieldRange

end SignalCatalog
