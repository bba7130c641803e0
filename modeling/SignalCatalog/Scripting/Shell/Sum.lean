import SignalCatalog.Text.Numeral

/-!
# Sums

The arithmetic of a shell: numbers of 64 bits that wrap around, variables, and the operators of such
words, of which some leave their second part undone. A sum is read first and worked out behind that.
-/

namespace SignalCatalog.Shell

inductive SumOperator
  | times | over | remainder
  | plus | minus
  | shiftLeft | shiftRight
  | less | lessOrEqual | greater | greaterOrEqual
  | equal | unequal
  | andBits | differentBits | orBits
deriving DecidableEq

inductive SumSign
  | plus | minus | truth | bits
deriving DecidableEq

inductive Sum
  | number (n : Int)
  | named (name : String)
  | signed (sign : SumSign) (sum : Sum)
  | joined (operator : SumOperator) (first second : Sum)
  | both (first second : Sum)
  | either (first second : Sum)
  | choice (condition first second : Sum)
  /-- Sets a variable, perhaps from its own value. -/
  | assign (name : String) (operator : Option SumOperator) (sum : Sum)

/-- Why a sum has no value. -/
inductive SumFault
  | expecting (what : String)
  | divisionByZero
  | notNumber (text : String)

namespace Sum

/-! ## Numbers -/

/-- The number of 64 bits that a number wraps to. -/
def wrap (n : Int) : Int := Int.bmod n 18446744073709551616

def largest : Int := 9223372036854775807

def isSpace (c : Char) : Bool := c = ' ' || (9 ≤ c.toNat && c.toNat ≤ 13)

def digitIn? (base : Nat) (c : Char) : Option Nat :=
  let value :=
    if c.isDigit then c.toNat - 48
    else if 'a' ≤ c ∧ c ≤ 'f' then c.toNat - 87
    else if 'A' ≤ c ∧ c ≤ 'F' then c.toNat - 55
    else 99
  if value < base then some value else none

/-- The number at the start of a text in a base, with what follows. -/
def digitsIn (base : Nat) (text : List Char) : Nat × List Char :=
  let run := text.takeWhile fun c => (digitIn? base c).isSome
  (run.foldl (fun n c => base * n + (digitIn? base c).getD 0) 0, text.drop run.length)

/-- A number without sign; its start tells its base. -/
def numeral (text : List Char) : Nat × List Char :=
  match text with
  | '0' :: x :: d :: _ =>
    if (x = 'x' || x = 'X') && (digitIn? 16 d).isSome then digitsIn 16 (text.drop 2)
    else digitsIn 8 text
  | '0' :: _ => digitsIn 8 text
  | _ => digitsIn 10 text

/-- The number that the value of a variable stands for. -/
def ofValue? (text : String) : Option Int :=
  let body := text.toList.dropWhile isSpace
  let (negative, body) := match body with
    | '-' :: rest => (true, rest)
    | '+' :: rest => (false, rest)
    | rest => (false, rest)
  match body with
  | [] => if text.toList.all isSpace then some 0 else none
  | c :: _ =>
    if !c.isDigit then none
    else
      let (n, rest) := numeral body
      let value : Int := if negative then -n else n
      if rest.all isSpace && -largest - 1 ≤ value && value ≤ largest then some value else none

/-! ## Reading -/

/-- The operators of each strength, the weakest first; a longer sign is found before a shorter one. -/
def operatorLevels : List (List (String × SumOperator)) :=
  [[("|", .orBits)], [("^", .differentBits)], [("&", .andBits)],
    [("==", .equal), ("!=", .unequal)],
    [("<=", .lessOrEqual), (">=", .greaterOrEqual), ("<", .less), (">", .greater)],
    [("<<", .shiftLeft), (">>", .shiftRight)],
    [("+", .plus), ("-", .minus)],
    [("*", .times), ("/", .over), ("%", .remainder)]]

/-- The signs, the longest first. -/
def signs : List String :=
  ["<<=", ">>=", "&&", "||", "==", "!=", "<=", ">=", "<<", ">>", "+=", "-=", "*=", "/=", "%=", "&=",
    "|=", "^=", "+", "-", "*", "/", "%", "&", "|", "^", "<", ">", "=", "?", ":", "(", ")", "!", "~"]

inductive Token
  | number (n : Int)
  | name (name : String)
  | sign (sign : String)
  | unknown
deriving DecidableEq

/-- The tokens of a sum; `fuel` bounds their number. -/
def tokensUpTo : (fuel : Nat) → List Char → List Token
  | 0, _ | _, [] => []
  | fuel + 1, c :: rest =>
    if isSpace c then tokensUpTo fuel rest
    else if c.isDigit then
      let (n, rest) := numeral (c :: rest)
      .number (min n largest) :: tokensUpTo fuel rest
    else if c.isAlpha || c = '_' then
      let name := (c :: rest).takeWhile fun c => c.isAlphanum || c = '_'
      .name (String.ofList name) :: tokensUpTo fuel ((c :: rest).drop name.length)
    else match signs.find? fun sign => sign.toList.isPrefixOf (c :: rest) with
      | some sign => .sign sign :: tokensUpTo fuel ((c :: rest).drop sign.length)
      | none => [.unknown]

abbrev Read (α : Type) := List Token → Except SumFault (α × List Token)

/-- A part that stands for itself, given how a whole sum is read and how such a part is. -/
def primary (whole : Read Sum) (part : Read Sum) : Read Sum
  | .number n :: rest => .ok (number n, rest)
  | .name name :: rest => .ok (named name, rest)
  | .sign "(" :: rest =>
    match whole rest with
    | .error fault => .error fault
    | .ok (sum, .sign ")" :: rest) => .ok (sum, rest)
    | .ok _ => .error (.expecting "')'")
  | .sign "+" :: rest => (part rest).map fun (sum, rest) => (signed .plus sum, rest)
  | .sign "-" :: rest => (part rest).map fun (sum, rest) => (signed .minus sum, rest)
  | .sign "!" :: rest => (part rest).map fun (sum, rest) => (signed .truth sum, rest)
  | .sign "~" :: rest => (part rest).map fun (sum, rest) => (signed .bits sum, rest)
  | _ => .error (.expecting "primary")

/-- Goes on behind a first part with operators of one strength; `fuel` bounds their number. -/
def goOn (operators : List (String × SumOperator)) (next : Read Sum) :
    (fuel : Nat) → Sum → Read Sum
  | 0, first, tokens => .ok (first, tokens)
  | fuel + 1, first, tokens =>
    match tokens with
    | .sign sign :: rest =>
      match operators.find? fun operator => operator.1 = sign with
      | some (_, operator) =>
        match next rest with
        | .error fault => .error fault
        | .ok (second, rest) => goOn operators next fuel (joined operator first second) rest
      | none => .ok (first, tokens)
    | _ => .ok (first, tokens)

/-- Parts with operators of some strengths between them. -/
def level (part : Read Sum) : List (List (String × SumOperator)) → Read Sum
  | [], tokens => part tokens
  | operators :: stronger, tokens =>
    match level part stronger tokens with
    | .error fault => .error fault
    | .ok (first, rest) => goOn operators (level part stronger) rest.length first rest

/-- Parts of which the second is left undone when the first decides. -/
def short (sign : String) (join : Sum → Sum → Sum) (next : Read Sum) : (fuel : Nat) → Read Sum
  | 0, tokens => next tokens
  | fuel + 1, tokens =>
    match next tokens with
    | .error fault => .error fault
    | .ok (first, .sign found :: rest) =>
      if found = sign then
        (short sign join next fuel rest).map fun (second, rest) => (join first second, rest)
      else .ok (first, .sign found :: rest)
    | .ok (first, rest) => .ok (first, rest)

/-- The operator of a sign that sets a variable. -/
def assignment? (sign : String) : Option (Option SumOperator) :=
  if sign = "=" then some none
  else if sign.toList.getLast? = some '=' then
    let operator := String.ofList sign.toList.dropLast
    (operatorLevels.flatten.find? fun item =>
      item.1 = operator && !(["<", ">", "=", "!"].contains operator)).map fun item => some item.2
  else none

mutual

/-- A part with the signs in front of it; `fuel` bounds how deep parts are nested. -/
def readPart : (fuel : Nat) → Read Sum
  | 0, _ => .error (.expecting "primary")
  | fuel + 1, tokens => primary (readSum fuel) (readPart fuel) tokens

/-- A whole sum: an assignment, or a choice. -/
def readSum : (fuel : Nat) → Read Sum
  | 0, _ => .error (.expecting "primary")
  | fuel + 1, tokens =>
    let assigned := match tokens with
      | .name name :: .sign sign :: rest => (assignment? sign).map fun found => (name, found, rest)
      | _ => none
    match assigned with
    | some (name, operator, rest) =>
      (readSum fuel rest).map fun (sum, rest) => (assign name operator sum, rest)
    | none =>
      let parts := level (readPart fuel) operatorLevels
      let ands := short "&&" both parts tokens.length
      match short "||" either ands tokens.length tokens with
      | .error fault => .error fault
      | .ok (condition, .sign "?" :: rest) =>
        match readSum fuel rest with
        | .error fault => .error fault
        | .ok (first, .sign ":" :: rest) =>
          (readSum fuel rest).map fun (second, rest) => (choice condition first second, rest)
        | .ok _ => .error (.expecting "':'")
      | .ok (sum, rest) => .ok (sum, rest)

end

/-- Reads a sum. -/
def ofText (text : String) : Except SumFault Sum :=
  let tokens := tokensUpTo text.length text.toList
  match readSum (2 * tokens.length + 4) tokens with
  | .error fault => .error fault
  | .ok (sum, []) => .ok sum
  | .ok _ => .error (.expecting "EOF")

/-! ## Values -/

/-- The variables that a sum is worked out with. -/
abbrev Bindings := String → Option String

def truth (holds : Bool) : Int := if holds then 1 else 0

/-- The bits of a number as a natural number. -/
def word (n : Int) : Nat := (n % 18446744073709551616).toNat

def apply (operator : SumOperator) (a b : Int) : Except SumFault Int :=
  match operator with
  | .times => .ok (wrap (a * b))
  | .over => if b = 0 then .error .divisionByZero else .ok (wrap (a.tdiv b))
  | .remainder => if b = 0 then .error .divisionByZero else .ok (wrap (a.tmod b))
  | .plus => .ok (wrap (a + b))
  | .minus => .ok (wrap (a - b))
  | .shiftLeft => .ok (wrap (a * 2 ^ (word b % 64)))
  | .shiftRight => .ok (a >>> (word b % 64))
  | .less => .ok (truth (a < b))
  | .lessOrEqual => .ok (truth (a ≤ b))
  | .greater => .ok (truth (b < a))
  | .greaterOrEqual => .ok (truth (b ≤ a))
  | .equal => .ok (truth (a = b))
  | .unequal => .ok (truth (a ≠ b))
  | .andBits => .ok (wrap (word a &&& word b : Nat))
  | .differentBits => .ok (wrap (word a ^^^ word b : Nat))
  | .orBits => .ok (wrap (word a ||| word b : Nat))

def ofVariable (bindings : Bindings) (name : String) : Except SumFault Int :=
  match bindings name with
  | none => .ok 0
  | some text =>
    match ofValue? text with
    | some n => .ok n
    | none => .error (.notNumber text)

/-- The bindings with a new value for a name. -/
def bind (bindings : Bindings) (name : String) (n : Int) : Bindings := fun other =>
  if other = name then some (Text.integer n) else bindings other

/-- The value of a sum, with the variables behind it and those that were set, the last one first. -/
def evaluate (bindings : Bindings) (found : List (String × Int)) :
    Sum → Except SumFault (Int × Bindings × List (String × Int))
  | number n => .ok (n, bindings, found)
  | named name => (ofVariable bindings name).map fun n => (n, bindings, found)
  | signed sign sum =>
    (evaluate bindings found sum).map fun (n, bindings, found) =>
      (match sign with
        | .plus => n
        | .minus => wrap (-n)
        | .truth => truth (n = 0)
        | .bits => -n - 1, bindings, found)
  | joined operator first second =>
    match evaluate bindings found first with
    | .error fault => .error fault
    | .ok (a, bindings, found) =>
      match evaluate bindings found second with
      | .error fault => .error fault
      | .ok (b, bindings, found) => (apply operator a b).map fun n => (n, bindings, found)
  | both first second =>
    match evaluate bindings found first with
    | .error fault => .error fault
    | .ok (a, bindings, found) =>
      if a = 0 then .ok (0, bindings, found)
      else (evaluate bindings found second).map fun (b, rest) => (truth (b ≠ 0), rest)
  | either first second =>
    match evaluate bindings found first with
    | .error fault => .error fault
    | .ok (a, bindings, found) =>
      if a ≠ 0 then .ok (1, bindings, found)
      else (evaluate bindings found second).map fun (b, rest) => (truth (b ≠ 0), rest)
  | choice condition first second =>
    match evaluate bindings found condition with
    | .error fault => .error fault
    | .ok (n, bindings, found) =>
      if n ≠ 0 then evaluate bindings found first else evaluate bindings found second
  | assign name operator sum =>
    match evaluate bindings found sum with
    | .error fault => .error fault
    | .ok (n, bindings, found) =>
      let value : Except SumFault Int := match operator with
        | none => .ok n
        | some operator =>
          match ofVariable bindings name with
          | .error fault => .error fault
          | .ok old => apply operator old n
      value.map fun n => (n, bind bindings name n, (name, n) :: found)

end Sum

/-- The words for a sum without a value. -/
def SumFault.words (text : String) : SumFault → String
  | expecting what => "arithmetic expression: expecting " ++ what ++ ": \"" ++ text ++ "\""
  | divisionByZero => "arithmetic expression: division by zero: \"" ++ text ++ "\""
  | notNumber value => "Illegal number: " ++ value

end SignalCatalog.Shell
