import SignalCatalog.Text.Numeral

/-!
# Broken rules

The rules that a catalog should keep, each as the cause that reports its violation. The validator and
the editor both report these causes.
-/

namespace SignalCatalog

inductive Violation
  | socTypeNotListed (soc : String)
  | buildTypeNotListed (build : String)
  | coreSocNotListed (soc : String)
  | duplicateSoc (soc : String)
  | duplicateBuildType (build : String)
  | unknownSource (signal source : String)
  | sourceIsDestination (signal source : String)
  | membersWithoutStruct (signal : String)
  | structWithoutMembers (signal : String)
  | structTooDeep (signal : String) (depth max : Nat)
  | outOfRange (signal field : String) (value min max step : UInt32)
deriving DecidableEq, Repr

namespace Violation

/-- Whether a number is out of its range; all other violations are structural. -/
def isRange : Violation → Bool
  | outOfRange .. => true
  | _ => false

def message : Violation → String
  | socTypeNotListed soc => "selected SoC '" ++ soc ++ "' is not in the SoC list"
  | buildTypeNotListed build => "selected build type '" ++ build ++ "' is not in the build list"
  | coreSocNotListed soc => "SoC '" ++ soc ++ "' has cores but is not in the SoC list"
  | duplicateSoc soc => "'" ++ soc ++ "' appears more than once in the SoC list"
  | duplicateBuildType build => "'" ++ build ++ "' appears more than once in the build list"
  | unknownSource signal source =>
    "signal '" ++ signal ++ "' has unknown source '" ++ source ++ "'"
  | sourceIsDestination signal source =>
    "signal '" ++ signal ++ "' lists its source '" ++ source ++ "' as a destination"
  | membersWithoutStruct signal =>
    "signal '" ++ signal ++ "' has struct fields but is not a STRUCT"
  | structWithoutMembers signal => "signal '" ++ signal ++ "' is a STRUCT without fields"
  | structTooDeep signal depth max =>
    "signal '" ++ signal ++ "' nests struct fields " ++ Text.number depth ++
      " levels deep (max " ++ Text.number max ++ ")"
  | outOfRange signal field value min max step =>
    "signal '" ++ signal ++ "' field " ++ field ++ " = " ++ Text.number value.toNat ++
      " is outside " ++ Text.number min.toNat ++ "..=" ++ Text.number max.toNat ++
      " (step " ++ Text.number step.toNat ++ ")"

end Violation

end SignalCatalog
