/-!
# Expanding packed bytes

Packed data is a sequence of blocks of bits, lowest bit first. A block holds bytes as they are, or
codes of different lengths for bytes and for copies of what stands a distance back. The codes of a
block are given by their lengths alone: shorter codes come first, and codes of one length follow each
other in the order of their symbols.
-/

namespace SignalCatalog.Packing

/-- Bytes with a place in them, counted in bits. -/
structure Source where
  data : ByteArray
  place : Nat

namespace Source

def bit? (source : Source) : Option (Nat × Source) :=
  if source.place / 8 < source.data.size then
    some ((source.data.get! (source.place / 8)).toNat >>> (source.place % 8) % 2,
      { source with place := source.place + 1 })
  else none

/-- A number of some bits, the lowest first. -/
def bits? (source : Source) : (count : Nat) → Option (Nat × Source)
  | 0 => some (0, source)
  | count + 1 => do
    let (low, source) ← source.bit?
    let (high, source) ← source.bits? count
    some (low + 2 * high, source)

/-- The source at the next whole byte. -/
def aligned (source : Source) : Source := { source with place := (source.place + 7) / 8 * 8 }

end Source

/-- The longest code. -/
def maxCodeBits : Nat := 15

/-- Codes by the number of codes of each length, and all symbols in the order of their codes. -/
structure Codes where
  counts : List Nat
  symbols : Array Nat

namespace Codes

/-- The codes of symbols whose lengths are given; a length of zero is no code. -/
def ofLengths (lengths : List Nat) : Codes :=
  let ofLength (length : Nat) : List Nat :=
    lengths.zipIdx.filterMap fun (own, symbol) => if own = length then some symbol else none
  let groups := (List.range maxCodeBits).map fun length => ofLength (length + 1)
  ⟨groups.map List.length, groups.flatten.toArray⟩

/-- Reads a symbol. `code` is what has been read, `first` the first code of this length and `index`
the place of its symbol. -/
def readFrom? (symbols : Array Nat) (code first index : Nat) (source : Source) :
    List Nat → Option (Nat × Source)
  | [] => none
  | count :: rest => do
    let (bit, source) ← source.bit?
    let code := code + bit
    if code < first + count then
      (symbols[index + (code - first)]?).map fun symbol => (symbol, source)
    else readFrom? symbols (2 * code) (2 * (first + count)) (index + count) source rest

def read? (codes : Codes) (source : Source) : Option (Nat × Source) :=
  readFrom? codes.symbols 0 0 0 source codes.counts

end Codes

/-- The lengths of copies: for each symbol the least length and the number of further bits. -/
def copyLengths : List (Nat × Nat) :=
  [(3, 0), (4, 0), (5, 0), (6, 0), (7, 0), (8, 0), (9, 0), (10, 0), (11, 1), (13, 1), (15, 1),
    (17, 1), (19, 2), (23, 2), (27, 2), (31, 2), (35, 3), (43, 3), (51, 3), (59, 3), (67, 4),
    (83, 4), (99, 4), (115, 4), (131, 5), (163, 5), (195, 5), (227, 5), (258, 0)]

/-- The distances of copies. -/
def copyDistances : List (Nat × Nat) :=
  [(1, 0), (2, 0), (3, 0), (4, 0), (5, 1), (7, 1), (9, 2), (13, 2), (17, 3), (25, 3), (33, 4),
    (49, 4), (65, 5), (97, 5), (129, 6), (193, 6), (257, 7), (385, 7), (513, 8), (769, 8),
    (1025, 9), (1537, 9), (2049, 10), (3073, 10), (4097, 11), (6145, 11), (8193, 12), (12289, 12),
    (16385, 13), (24577, 13)]

/-- A number given by a symbol and further bits. -/
def extended? (table : List (Nat × Nat)) (symbol : Nat) (source : Source) :
    Option (Nat × Source) := do
  let (least, count) ← table[symbol]?
  let (more, source) ← source.bits? count
  some (least + more, source)

/-- Appends bytes that stand a distance back; they may overlap with their copy. -/
def copyBack (distance : Nat) : (length : Nat) → ByteArray → ByteArray
  | 0, done => done
  | length + 1, done => copyBack distance length (done.push (done.get! (done.size - distance)))

/-- The symbol at the end of a block. -/
def endSymbol : Nat := 256

/-- Reads bytes and copies up to the end of a block; `fuel` bounds their number. -/
def readCodes? (literals distances : Codes) : (fuel : Nat) → Source → ByteArray →
    Option (Source × ByteArray)
  | 0, _, _ => none
  | fuel + 1, source, done => do
    let (symbol, source) ← literals.read? source
    if symbol < endSymbol then readCodes? literals distances fuel source (done.push symbol.toUInt8)
    else if symbol = endSymbol then some (source, done)
    else
      let (length, source) ← extended? copyLengths (symbol - 257) source
      let (code, source) ← distances.read? source
      let (distance, source) ← extended? copyDistances code source
      if done.size < distance then none
      else readCodes? literals distances fuel source (copyBack distance length done)

/-- The codes of a block that gives none. -/
def fixedCodes : Codes × Codes :=
  (.ofLengths (List.replicate 144 8 ++ List.replicate 112 9 ++ List.replicate 24 7 ++
      List.replicate 8 8),
    .ofLengths (List.replicate 30 5))

/-- The order in which the lengths of the codes for lengths are given. -/
def lengthOrder : List Nat :=
  [16, 17, 18, 0, 8, 7, 9, 6, 10, 5, 11, 4, 12, 3, 13, 2, 14, 1, 15]

/-- Reads numbers of three bits. -/
def readThrees? (source : Source) : (count : Nat) → Option (List Nat × Source)
  | 0 => some ([], source)
  | count + 1 => do
    let (value, source) ← source.bits? 3
    let (rest, source) ← readThrees? source count
    some (value :: rest, source)

/-- Reads lengths of codes, with runs of equal ones, until there are `count`; the last one comes
first. -/
def readLengths? (codes : Codes) (count : Nat) : (fuel : Nat) → Source → List Nat →
    Option (List Nat × Source)
  | 0, _, _ => none
  | fuel + 1, source, found =>
    if count ≤ found.length then
      if count = found.length then some (found, source) else none
    else do
      let (symbol, source) ← codes.read? source
      if symbol < 16 then readLengths? codes count fuel source (symbol :: found)
      else
        let value ← if symbol = 16 then found.head? else some 0
        let (more, source) ← source.bits? (if symbol = 16 then 2 else if symbol = 17 then 3 else 7)
        let run := more + (if symbol = 18 then 11 else 3)
        readLengths? codes count fuel source (List.replicate run value ++ found)

/-- Reads the codes that a block gives. -/
def readTables? (source : Source) : Option ((Codes × Codes) × Source) := do
  let (literalCount, source) ← source.bits? 5
  let (distanceCount, source) ← source.bits? 5
  let (lengthCount, source) ← source.bits? 4
  let (given, source) ← readThrees? source (lengthCount + 4)
  let lengths := (List.range 19).map fun symbol =>
    ((lengthOrder.zip given).find? fun item => item.1 = symbol).elim 0 Prod.snd
  let all := literalCount + 257 + distanceCount + 1
  let (found, source) ← readLengths? (.ofLengths lengths) all (all + 1) source []
  let found := found.reverse
  some ((.ofLengths (found.take (literalCount + 257)),
    .ofLengths (found.drop (literalCount + 257))), source)

/-- Reads bytes that stand as they are. -/
def readStored? (source : Source) (done : ByteArray) : Option (Source × ByteArray) := do
  let (size, source) ← source.aligned.bits? 16
  let (_, source) ← source.bits? 16
  let start := source.place / 8
  if source.data.size < start + size then none
  else some ({ source with place := source.place + 8 * size },
    done ++ source.data.extract start (start + size))

/-- Reads blocks up to the last one; `fuel` bounds their number. -/
def readBlocks? : (fuel : Nat) → Source → ByteArray → Option ByteArray
  | 0, _, _ => none
  | fuel + 1, source, done => do
    let (last, source) ← source.bits? 1
    let (form, source) ← source.bits? 2
    let size := 8 * source.data.size + 1
    let (source, done) ← match form with
      | 0 => readStored? source done
      | 1 => readCodes? fixedCodes.1 fixedCodes.2 size source done
      | 2 => do
        let ((literals, distances), source) ← readTables? source
        readCodes? literals distances size source done
      | _ => none
    if last = 1 then some done else readBlocks? fuel source done

/-- Expands packed bytes. -/
def inflate? (data : ByteArray) : Option ByteArray :=
  readBlocks? (8 * data.size + 1) ⟨data, 0⟩ ByteArray.empty

end SignalCatalog.Packing
