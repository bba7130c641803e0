/-!
# Octets

Programs exchange bytes, which need not be text. A text of octets has one character below 256 for each
byte, so that programs that look at ASCII only can treat it like any other text.
-/

namespace SignalCatalog.Text.Octets

def ofBytes (data : ByteArray) : String :=
  String.ofList (data.toList.map fun byte => Char.ofNat byte.toNat)

def toBytes (octets : String) : ByteArray :=
  octets.toList.foldl (fun data c => data.push (UInt8.ofNat c.toNat)) ByteArray.empty

/-- The bytes of a text. -/
def ofText (text : String) : String := ofBytes text.toUTF8

/-- The text with given bytes, if they are one. -/
def toText? (octets : String) : Option String := String.fromUTF8? (toBytes octets)

/-- The mark for what is no text. -/
def replacement : Char := Char.ofNat 0xFFFD

/-- The range of the second byte of a character behind a first byte, and the number of bytes behind
that one. -/
def follow? (first : Nat) : Option (Nat × Nat × Nat) :=
  if 0xC2 ≤ first ∧ first ≤ 0xDF then some (0x80, 0xBF, 0)
  else if first = 0xE0 then some (0xA0, 0xBF, 1)
  else if first = 0xED then some (0x80, 0x9F, 1)
  else if 0xE1 ≤ first ∧ first ≤ 0xEF then some (0x80, 0xBF, 1)
  else if first = 0xF0 then some (0x90, 0xBF, 2)
  else if 0xF1 ≤ first ∧ first ≤ 0xF3 then some (0x80, 0xBF, 2)
  else if first = 0xF4 then some (0x80, 0x8F, 2)
  else none

/-- Takes up to `count` bytes that continue a character: the number that they and the bits before them
make, the bytes behind them, and whether all were there. -/
def takeRest : (count bits : Nat) → List Nat → Nat × List Nat × Bool
  | 0, bits, rest => (bits, rest, true)
  | _ + 1, bits, [] => (bits, [], false)
  | count + 1, bits, byte :: rest =>
    if 0x80 ≤ byte ∧ byte ≤ 0xBF then takeRest count (64 * bits + (byte - 0x80)) rest
    else (bits, byte :: rest, false)

/-- The first character of some bytes, or the mark for the longest start of one, and the bytes behind
it. -/
def takeChar (first : Nat) (rest : List Nat) : Char × List Nat :=
  if first < 0x80 then (Char.ofNat first, rest)
  else match follow? first, rest with
    | some (low, high, count), second :: more =>
      if low ≤ second ∧ second ≤ high then
        let lead := if count = 0 then first - 0xC0 else if count = 1 then first - 0xE0 else first - 0xF0
        match takeRest count (64 * lead + (second - 0x80)) more with
        | (bits, rest, true) => (Char.ofNat bits, rest)
        | (_, rest, false) => (replacement, rest)
      else (replacement, rest)
    | _, _ => (replacement, rest)

/-- Reads characters; `fuel` bounds their number. -/
def charsUpTo : (fuel : Nat) → List Nat → List Char
  | 0, _ => []
  | _ + 1, [] => []
  | fuel + 1, first :: rest =>
    let (c, rest) := takeChar first rest
    c :: charsUpTo fuel rest

/-- The text of some bytes, with a mark in the place of whatever is no text. -/
def shown (octets : String) : String :=
  String.ofList (charsUpTo octets.length (octets.toList.map Char.toNat))

end SignalCatalog.Text.Octets
