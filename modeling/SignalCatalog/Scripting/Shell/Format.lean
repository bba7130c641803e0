import SignalCatalog.Binary64.Reading
import SignalCatalog.Scripting.Shell.Sum
import SignalCatalog.Text.Numeral

/-!
# Formats

What the utility for formatted output writes: a format is gone through again as long as arguments are
left, escapes with a backslash stand for octets, and a directive with a percent sign for an argument.
A complaint does not end the output unless the format itself is wrong.
-/

namespace SignalCatalog.Shell.Format

/-! ## Escapes -/

def octalDigits (limit : Nat) (text : List Char) : List Char :=
  (text.take limit).takeWhile fun c => '0' ≤ c && c ≤ '7'

def octalValue (digits : List Char) : Char :=
  Char.ofNat (digits.foldl (fun n c => 8 * n + (c.toNat - 48)) 0 % 256)

/-- The octet that a letter behind a backslash stands for. -/
def escape? (c : Char) : Option Char :=
  match c with
  | '\\' => some '\\'
  | 'a' => some (Char.ofNat 7)
  | 'b' => some (Char.ofNat 8)
  | 'e' => some (Char.ofNat 27)
  | 'f' => some (Char.ofNat 12)
  | 'n' => some '\n'
  | 'r' => some '\r'
  | 't' => some '\t'
  | 'v' => some (Char.ofNat 11)
  | _ => none

/-- The octet that an escape of a format stands for, behind its backslash, and the rest. Octets are
numbers of up to three octal digits. -/
def formatEscape (text : List Char) : List Char × List Char :=
  let digits := octalDigits 3 text
  if !digits.isEmpty then ([octalValue digits], text.drop digits.length)
  else match text with
    | [] => (['\\'], [])
    | c :: rest =>
      match escape? c with
      | some octet => ([octet], rest)
      | none => (['\\', c], rest)

/-- The text that a text with escapes stands for, and whether one of them ends the output. Octets are
numbers of up to three octal digits behind a zero. `fuel` bounds the number of characters. -/
def unescapeUpTo (plainOctal : Bool) : (fuel : Nat) → List Char → List Char × Bool
  | 0, _ | _, [] => ([], false)
  | fuel + 1, '\\' :: rest =>
    let join (found : List Char) (rest : List Char) : List Char × Bool :=
      let (more, ends) := unescapeUpTo plainOctal fuel rest
      (found ++ more, ends)
    match rest with
    | 'c' :: _ => ([], true)
    | '0' :: more =>
      let digits := octalDigits 3 more
      join [octalValue digits] (more.drop digits.length)
    | c :: more =>
      match escape? c with
      | some octet => join [octet] more
      | none =>
        let digits := octalDigits 3 (c :: more)
        if plainOctal && !digits.isEmpty then join [octalValue digits] ((c :: more).drop digits.length)
        else join ['\\', c] more
    | [] => (['\\'], false)
  | fuel + 1, c :: rest =>
    let (more, ends) := unescapeUpTo plainOctal fuel rest
    (c :: more, ends)

/-- As `unescapeUpTo`, for all of a text. -/
def unescape (plainOctal : Bool) (text : String) : String × Bool :=
  let (found, ends) := unescapeUpTo plainOctal (text.length + 1) text.toList
  (String.ofList found, ends)

/-! ## Directives -/

/-- A directive without its letter. -/
structure Directive where
  flags : List Char
  width : Nat
  precision : Option Nat

namespace Directive

def has (directive : Directive) (flag : Char) : Bool := directive.flags.contains flag

/-- The text set to the width of a directive. -/
def padded (directive : Directive) (text : String) : String :=
  let gap := String.ofList (List.replicate (directive.width - text.length) ' ')
  if directive.has '-' then text ++ gap else gap ++ text

/-- A number of digits with a sign in front, set to the width, with zeros if they are asked for. -/
def numeric (directive : Directive) (sign digits : String) (zeros : Bool) : String :=
  let gap := directive.width - (sign.length + digits.length)
  if directive.has '0' && !directive.has '-' && zeros then
    sign ++ String.ofList (List.replicate gap '0') ++ digits
  else directive.padded (sign ++ digits)

/-- The digits with zeros in front, as many as the precision asks for. -/
def precise (directive : Directive) (digits : String) : String :=
  match directive.precision with
  | none => digits
  | some precision =>
    let digits := if precision = 0 && digits = "0" then "" else digits
    String.ofList (List.replicate (precision - digits.length) '0') ++ digits

def signOf (directive : Directive) (negative : Bool) : String :=
  if negative then "-" else if directive.has '+' then "+" else if directive.has ' ' then " " else ""

def signed (directive : Directive) (n : Int) : String :=
  directive.numeric (directive.signOf (n < 0)) (directive.precise (Text.number n.natAbs))
    directive.precision.isNone

/-- The digits of a number in a base up to sixteen. -/
def digitsIn (base : Nat) (upper : Bool) (n : Nat) : String :=
  let digit (d : Nat) : Char :=
    if d < 10 then Char.ofNat (48 + d) else Char.ofNat ((if upper then 55 else 87) + d)
  let rec go : Nat → Nat → List Char → List Char
    | 0, _, found => found
    | fuel + 1, n, found =>
      if n < base then digit n :: found else go fuel (n / base) (digit (n % base) :: found)
  String.ofList (go 65 n [])

def unsigned (directive : Directive) (letter : Char) (n : Int) : String :=
  let n := Sum.word n
  let (base, upper) := match letter with
    | 'x' => (16, false)
    | 'X' => (16, true)
    | 'o' => (8, false)
    | _ => (10, false)
  let lead := if !directive.has '#' || n = 0 then ""
    else if letter = 'x' then "0x" else if letter = 'X' then "0X" else if letter = 'o' then "0" else ""
  directive.numeric lead (directive.precise (digitsIn base upper n)) directive.precision.isNone

/-- A quotient rounded to a whole number, halves to the even one. -/
def rounded (num den : Nat) : Nat :=
  let quotient := num / den
  let rest := 2 * (num % den)
  if rest > den || (rest = den && quotient % 2 = 1) then quotient + 1 else quotient

/-- A value without its sign, with a number of places. -/
def withPlaces (value : Rat) (places : Nat) : String :=
  let digits := Text.padded (places + 1) (rounded (value.num.natAbs * 10 ^ places) value.den)
  if places = 0 then digits
  else
    (digits.take (digits.length - places)).toString ++ "." ++
      (digits.drop (digits.length - places)).toString

/-- The exponent of the first digit of a value, searched for among those below `fuel`. -/
def exponentFrom (num den : Nat) : (fuel : Nat) → Int → Int
  | 0, e => e
  | fuel + 1, e =>
    if num < den then exponentFrom (num * 10) den fuel (e - 1)
    else if num ≥ 10 * den then exponentFrom num (den * 10) fuel (e + 1)
    else e

/-- The digits of a value with a number of places behind the first one, and the exponent. -/
def scientific (value : Rat) (places : Nat) : Nat × Int :=
  let num := value.num.natAbs
  if num = 0 then (0, 0)
  else
    let e := exponentFrom num value.den 700 0
    let shift := (places : Int) - e
    let found := if shift ≥ 0 then rounded (num * 10 ^ shift.toNat) value.den
      else rounded num (value.den * 10 ^ (-shift).toNat)
    if found ≥ 10 ^ (places + 1) then (found / 10, e + 1) else (found, e)

def exponentText (mark : Char) (e : Int) : String :=
  mark.toString ++ (if e < 0 then "-" else "+") ++ Text.padded 2 e.natAbs

/-- A value with an exponent. -/
def withExponent (mark : Char) (value : Rat) (places : Nat) : String :=
  let (digits, e) := scientific value places
  let text := Text.padded (places + 1) digits
  (if places = 0 then text
    else (text.take 1).toString ++ "." ++ (text.drop 1).toString) ++ exponentText mark e

/-- Digits without the zeros behind the last other place. -/
def withoutZeros (text : String) : String :=
  if !text.contains '.' then text
  else
    match text.toList.reverse.dropWhile (· = '0') with
    | '.' :: rest => String.ofList rest.reverse
    | rest => String.ofList rest.reverse

/-- A value in the shorter of both forms. -/
def general (directive : Directive) (mark : Char) (value : Rat) : String :=
  let places := max 1 (directive.precision.getD 6)
  let (digits, e) := scientific value (places - 1)
  let trim (text : String) : String := if directive.has '#' then text else withoutZeros text
  if -4 ≤ e && e < (places : Int) then trim (withPlaces value ((places : Int) - 1 - e).toNat)
  else
    let text := Text.padded places digits
    let mantissa := if places = 1 then text
      else (text.take 1).toString ++ "." ++ (text.drop 1).toString
    trim mantissa ++ exponentText mark e

/-- A number with a fraction, in the form of a letter. -/
def fraction (directive : Directive) (letter : Char) (x : Binary64) : String :=
  match x.value? with
  | none => directive.padded "nan"
  | some value =>
    let places := directive.precision.getD 6
    let text := match letter with
      | 'e' | 'E' => withExponent letter value places
      | 'g' => directive.general 'e' value
      | 'G' => directive.general 'E' value
      | _ => withPlaces value places
    directive.numeric (directive.signOf (value.num < 0)) text true

end Directive

/-! ## Arguments -/

/-- The output of a format so far. -/
structure Output where
  text : String
  /-- The complaints, in order. -/
  complaints : List String
  arguments : List String
  /-- Whether an argument has been asked for. -/
  used : Bool
  /-- Nothing more is written. -/
  ended : Bool
  /-- The format is wrong. -/
  wrong : Bool

namespace Output

def add (output : Output) (text : String) : Output := { output with text := output.text ++ text }

/-- The next argument, if there is one. -/
def next (output : Output) : Option String × Output :=
  (output.arguments.head?, { output with arguments := output.arguments.tail, used := true })

def complain (output : Output) (words : String) : Output :=
  { output with complaints := output.complaints ++ [words] }

def fail (output : Output) (words : String) : Output :=
  { output.complain words with ended := true, wrong := true }

/-- The number at the start of a text, what follows, and whether there was one. -/
def leadingNumber (text : List Char) : Int × List Char × Bool :=
  let body := text.dropWhile Sum.isSpace
  let (negative, body) := match body with
    | '-' :: rest => (true, rest)
    | '+' :: rest => (false, rest)
    | rest => (false, rest)
  match body with
  | [] => (0, text, false)
  | c :: _ =>
    if !c.isDigit then (0, text, false)
    else
      let (n, rest) := Sum.numeral body
      (if negative then -n else n, rest, true)

/-- The next argument as a number. What is no number is complained about. -/
def number (output : Output) (signed : Bool) : Int × Output :=
  match output.next with
  | (none, output) => (0, output)
  | (some argument, output) =>
    match argument.toList with
    | '"' :: c :: _ | '\'' :: c :: _ => (c.toNat, output)
    | text =>
      let (n, rest, found) := leadingNumber text
      let low : Int := if signed then -9223372036854775808 else -18446744073709551615
      let high : Int := if signed then 9223372036854775807 else 18446744073709551615
      if text.isEmpty then (0, output)
      else if !found then (0, output.complain (argument ++ ": expected numeric value"))
      else
        let value := max low (min high n)
        if !rest.isEmpty then (value, output.complain (argument ++ ": not completely converted"))
        else if n < low || high < n then
          (value, output.complain (argument ++ ": Numerical result out of range"))
        else (value, output)

/-- The next argument as a number with a fraction. -/
def fraction (output : Output) : Binary64 × Output :=
  match output.next with
  | (none, output) => (.ofNat 0, output)
  | (some argument, output) =>
    match Binary64.ofText? argument with
    | some x => (x, output)
    | none =>
      if argument.isEmpty then (.ofNat 0, output)
      else (.ofNat 0, output.complain (argument ++ ": expected numeric value"))

end Output

/-- Writes a directive with its letter. -/
def direct (output : Output) (directive : Directive) (letter : Char) (shown : String) : Output :=
  match letter with
  | 's' =>
    let (argument, output) := output.next
    let text := argument.getD ""
    let text := match directive.precision with
      | some n => String.ofList (text.toList.take n)
      | none => text
    output.add (directive.padded text)
  | 'b' =>
    let (argument, output) := output.next
    let (text, ends) := unescape true (argument.getD "")
    { output.add (directive.padded text) with ended := ends }
  | 'c' =>
    let (argument, output) := output.next
    let c := (argument.bind fun text => text.toList.head?).getD (Char.ofNat 0)
    output.add (directive.padded c.toString)
  | 'd' | 'i' =>
    let (n, output) := output.number true
    output.add (directive.signed n)
  | 'o' | 'u' | 'x' | 'X' =>
    let (n, output) := output.number false
    output.add (directive.unsigned letter n)
  | 'f' | 'F' | 'e' | 'E' | 'g' | 'G' =>
    let (x, output) := output.fraction
    output.add (directive.fraction letter x)
  | _ => output.fail ("%" ++ shown ++ ": invalid directive")

/-- A number of a directive: digits, or a star for the next argument. -/
def measure (output : Output) (text : List Char) : Int × List Char × Output :=
  match text with
  | '*' :: rest =>
    let (n, output) := output.number true
    (n, rest, output)
  | text =>
    let run := text.takeWhile Char.isDigit
    (Text.valueOf run, text.drop run.length, output)

/-- Reads a directive behind its percent sign, and writes it. -/
def directive (output : Output) (text : List Char) : Output × List Char :=
  let flags := text.takeWhile fun c => "#-+ 0".toList.contains c
  let (width, rest, output) := measure output (text.drop flags.length)
  let flags := if width < 0 then '-' :: flags else flags
  let (precision, rest, output) := match rest with
    | '.' :: rest =>
      let (n, rest, output) := measure output rest
      (if n < 0 then none else some n.toNat, rest, output)
    | rest => (none, rest, output)
  match rest with
  | [] => (output.fail "missing format character", [])
  | letter :: rest =>
    let shown := String.ofList (text.take (text.length - rest.length))
    (direct output ⟨flags, width.natAbs, precision⟩ letter shown, rest)

/-- Goes through a format once; `fuel` bounds its length. -/
def pass : (fuel : Nat) → Output → List Char → Output
  | 0, output, _ | _, output, [] => output
  | fuel + 1, output, c :: rest =>
    if output.ended then output
    else match c, rest with
      | '%', '%' :: rest => pass fuel (output.add "%") rest
      | '%', rest =>
        let (output, rest) := directive output rest
        pass fuel output rest
      | '\\', rest =>
        let (found, rest) := formatEscape rest
        pass fuel (output.add (String.ofList found)) rest
      | c, rest => pass fuel (output.add c.toString) rest

/-- Goes through a format as long as arguments are left; `fuel` bounds how often. -/
def passes (format : List Char) : (fuel : Nat) → Output → Output
  | 0, output => output
  | fuel + 1, output =>
    let output := pass (format.length + 1) { output with used := false } format
    if output.arguments.isEmpty || !output.used || output.ended then output
    else passes format fuel output

/-- Writes arguments into a format. -/
def apply (format : String) (arguments : List String) : Output :=
  passes format.toList (arguments.length + 1) ⟨"", [], arguments, false, false, false⟩

end SignalCatalog.Shell.Format
