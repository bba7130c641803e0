import SignalCatalog.Packing.Inflate
import SignalCatalog.Workbook.Archive

/-!
# Archives as bytes

An archive file holds its parts one after another, each behind a header with its name, then a
directory of all parts and at the end a record that says where the directory starts. Parts are written
as they are; packed parts are read as well.
-/

namespace SignalCatalog.Packing

/-- A number as bytes, the lowest first. -/
def little : (count : Nat) → Nat → List UInt8
  | 0, _ => []
  | count + 1, n => n.toUInt8 :: little count (n / 256)

/-- The number in some bytes from a place on; what lies behind the end is zero. -/
def number (data : ByteArray) (place : Nat) : (count : Nat) → Nat
  | 0 => 0
  | count + 1 =>
    (if place < data.size then (data.get! place).toNat else 0) + 256 * number data (place + 1) count

/-! ## Checksums -/

def checksumBit (sum : UInt32) : UInt32 :=
  if sum &&& 1 = 1 then (sum >>> 1) ^^^ 0xEDB88320 else sum >>> 1

def checksumByte (sum : UInt32) (byte : UInt8) : UInt32 :=
  (List.range 8).foldl (fun sum _ => checksumBit sum) (sum ^^^ byte.toUInt32)

/-- The checksum that guards a part. -/
def checksum (data : ByteArray) : UInt32 := data.foldl checksumByte 0xFFFFFFFF ^^^ 0xFFFFFFFF

/-! ## Writing -/

/-- A part as it is stored. -/
structure Stored where
  name : ByteArray
  data : ByteArray
  /-- Where its header starts. -/
  start : Nat

def partBytes : Part → ByteArray
  | .text document => document.toUTF8
  | .bytes data => data

/-- What the header of a part and its place in the directory have in common. The time is the earliest
that can be written. -/
def Stored.facts (part : Stored) : List UInt8 :=
  little 2 20 ++ little 2 0x0800 ++ little 2 0 ++ little 2 0 ++ little 2 0x21 ++
    little 4 (checksum part.data).toNat ++ little 4 part.data.size ++ little 4 part.data.size ++
    little 2 part.name.size ++ little 2 0

def bytes (list : List UInt8) : ByteArray := ⟨list.toArray⟩

/-- The header of a part and the part. -/
def Stored.record (part : Stored) : ByteArray :=
  bytes (little 4 0x04034B50 ++ part.facts) ++ part.name ++ part.data

/-- The place of a part in the directory. -/
def Stored.directoryRecord (part : Stored) : ByteArray :=
  bytes (little 4 0x02014B50 ++ little 2 20 ++ part.facts ++ little 2 0 ++ little 2 0 ++
    little 2 0 ++ little 4 0 ++ little 4 part.start) ++ part.name

/-- Parts one behind the other. -/
def place (start : Nat) : List (String × Part) → List Stored
  | [] => []
  | (name, part) :: rest =>
    let stored : Stored := ⟨name.toUTF8, partBytes part, start⟩
    stored :: place (start + stored.record.size) rest

def join (pieces : List ByteArray) : ByteArray := pieces.foldl (· ++ ·) ByteArray.empty

/-- The bytes of an archive. -/
def encode (archive : Archive) : ByteArray :=
  let parts := place 0 archive.parts.entries
  let body := join (parts.map Stored.record)
  let directory := join (parts.map Stored.directoryRecord)
  body ++ directory ++ bytes (little 4 0x06054B50 ++ little 2 0 ++ little 2 0 ++
    little 2 parts.length ++ little 2 parts.length ++ little 4 directory.size ++
    little 4 body.size ++ little 2 0)

/-! ## Reading -/

/-- What the record at the end of an archive says: the number of parts, and where the directory would
start if nothing stood before the archive. -/
structure EndRecord where
  place : Nat
  count : Nat
  directory : Nat

/-- The end record at a place, with its remark. Bytes behind it do no harm. -/
def endRecord? (data : ByteArray) (place : Nat) : Option EndRecord :=
  if number data place 4 = 0x06054B50 ∧ place + 22 + number data (place + 20) 2 ≤ data.size then
    some ⟨place, number data (place + 8) 2, number data (place + 16) 4⟩
  else none

/-- The first of some places, from one on, at which an entry of a directory starts. -/
def firstEntry? (data : ByteArray) : (count place : Nat) → Option Nat
  | 0, _ => none
  | count + 1, place =>
    if number data place 4 = 0x02014B50 then some place else firstEntry? data count (place + 1)

/-- Where the directory of a record starts. An archive without parts needs none. -/
def EndRecord.start? (record : EndRecord) (data : ByteArray) : Option Nat :=
  if record.count = 0 then some record.directory
  else firstEntry? data (record.place - record.directory) record.directory

/-- The last end record up to a place that has a directory, and where the directory starts. -/
def lastRecord? (data : ByteArray) : (place : Nat) → Option (EndRecord × Nat)
  | 0 => found 0
  | place + 1 => (found (place + 1)).or (lastRecord? data place)
where
  found (place : Nat) : Option (EndRecord × Nat) :=
    (endRecord? data place).bind fun record => (record.start? data).map fun start => (record, start)

/-- The content of a part whose header starts at a place. -/
def content? (data : ByteArray) (header form size : Nat) : Option ByteArray :=
  let start := header + 30 + number data (header + 26) 2 + number data (header + 28) 2
  let packed := data.extract start (start + size)
  match form with
  | 0 => some packed
  | 8 => inflate? packed
  | _ => none

def partOf (data : ByteArray) : Part :=
  match String.fromUTF8? data with
  | some document => .text document
  | none => .bytes data

/-- Reads entries of the directory; the places that they name are counted from `origin`. -/
def readDirectory? (data : ByteArray) (origin : Nat) :
    (count place : Nat) → Option (List (String × Part))
  | 0, _ => some []
  | count + 1, place => do
    if number data place 4 ≠ 0x02014B50 then none
    let nameSize := number data (place + 28) 2
    let name ← String.fromUTF8? (data.extract (place + 46) (place + 46 + nameSize))
    let content ← content? data (origin + number data (place + 42) 4)
      (number data (place + 10) 2) (number data (place + 20) 4)
    let next := place + 46 + nameSize + number data (place + 30) 2 + number data (place + 32) 2
    let rest ← readDirectory? data origin count next
    some ((name, partOf content) :: rest)

/-- Reads the bytes of an archive. All of it must be in one volume. -/
def decode? (data : ByteArray) : Option Archive := do
  if data.size < 22 then none
  let (record, start) ← lastRecord? data (data.size - 22)
  if number data (record.place + 4) 2 ≠ number data (record.place + 6) 2 then none
  let parts ← readDirectory? data (start - record.directory) record.count start
  some (.ofPairs parts)

end SignalCatalog.Packing
