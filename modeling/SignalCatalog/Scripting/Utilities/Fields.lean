import SignalCatalog.Scripting.Utilities.Lines

/-!
# Programs that look into lines

These programs put lines in order, drop those that repeat, cut parts out of them and exchange
characters.
-/

namespace SignalCatalog.Utilities

open Shell

namespace Fields

/-! ## Order -/

/-- How two lines are compared. -/
structure Comparison where
  numeric : Bool
  reversed : Bool
  ignoresCase : Bool
  skipsBlanks : Bool

/-- A key: the fields it goes from and to, and the character it starts at. -/
structure Key where
  first : Nat
  firstChar : Nat
  last : Option (Nat × Nat)
  comparison : Comparison

def isBlank (c : Char) : Bool := c = ' ' || c = '\t'

/-- The fields of a line; without a separator, blanks belong to the field behind them. -/
def fieldsUpTo (separator : Option Char) : (fuel : Nat) → List Char → List (List Char)
  | 0, _ => []
  | fuel + 1, line =>
    match separator with
    | some c =>
      let field := line.takeWhile (· ≠ c)
      match line.drop field.length with
      | [] => [field]
      | _ :: rest => field :: fieldsUpTo separator fuel rest
    | none =>
      if line.isEmpty then []
      else
        let blanks := line.takeWhile isBlank
        let word := (line.drop blanks.length).takeWhile fun c => !isBlank c
        (blanks ++ word) :: fieldsUpTo separator fuel (line.drop (blanks.length + word.length))

def fieldsOf (separator : Option Char) (line : List Char) : List (List Char) :=
  fieldsUpTo separator (line.length + 1) line

/-- The part of a line that a key looks at. -/
def Key.part (key : Key) (separator : Option Char) (line : List Char) : List Char :=
  let fields := fieldsOf separator line
  let glue : List Char := separator.toList
  let join (fields : List (List Char)) : List Char := glue.intercalate fields
  let trimmed (field : List Char) : List Char :=
    if key.comparison.skipsBlanks then field.dropWhile isBlank else field
  let start := key.first - 1
  match key.last with
  | some (last, 0) =>
    let kept := (fields.take last).drop start
    match kept with
    | [] => []
    | field :: rest => join ((trimmed field).drop (key.firstChar - 1) :: rest)
  | some (last, lastChar) =>
    let kept := (fields.take last).drop start
    match kept.reverse with
    | [] => []
    | [field] => ((trimmed field).take lastChar).drop (key.firstChar - 1)
    | field :: before =>
      match before.reverse with
      | [] => []
      | first :: rest =>
        join ((trimmed first).drop (key.firstChar - 1) :: rest ++ [(trimmed field).take lastChar])
  | none =>
    match fields.drop start with
    | [] => []
    | field :: rest => join ((trimmed field).drop (key.firstChar - 1) :: rest)

/-- The number at the start of a text, in millionths. -/
def numberAt (text : List Char) : Int :=
  let text := text.dropWhile isBlank
  let (negative, text) := match text with
    | '-' :: rest => (true, rest)
    | rest => (false, rest)
  let whole := text.takeWhile Char.isDigit
  let decimals := match text.drop whole.length with
    | '.' :: rest => (rest.takeWhile Char.isDigit).take 6
    | _ => []
  let value := Text.valueOf (whole ++ decimals ++ List.replicate (6 - decimals.length) '0')
  if negative then -(Int.ofNat value) else Int.ofNat value

/-- Compares characters from the left. -/
def compareChars : List Char → List Char → Ordering
  | [], [] => .eq
  | [], _ => .lt
  | _, [] => .gt
  | a :: as, b :: bs =>
    if a.toNat < b.toNat then .lt
    else if b.toNat < a.toNat then .gt
    else compareChars as bs

def Comparison.apply (comparison : Comparison) (a b : List Char) : Ordering :=
  let shape (text : List Char) : List Char :=
    let text := if comparison.skipsBlanks then text.dropWhile isBlank else text
    if comparison.ignoresCase then Text.upper text else text
  let found := if comparison.numeric then compare (numberAt a) (numberAt b)
    else compareChars (shape a) (shape b)
  if comparison.reversed then found.swap else found

/-- Compares two lines by the first key that tells them apart. -/
def compareKeys (separator : Option Char) : List Key → List Char → List Char → Ordering
  | [], _, _ => .eq
  | key :: rest, a, b =>
    match key.comparison.apply (key.part separator a) (key.part separator b) with
    | .eq => compareKeys separator rest a b
    | found => found

/-- A place in a line: a field, a character and letters. -/
def keyPlace? (text : List Char) : Option (Nat × Option Nat × List Char) := do
  let digits := text.takeWhile Char.isDigit
  let field ← Text.natural? digits
  match text.drop digits.length with
  | '.' :: rest =>
    let digits := rest.takeWhile Char.isDigit
    let char ← Text.natural? digits
    return (field, some char, rest.drop digits.length)
  | rest => return (field, none, rest)

def Comparison.withLetters (comparison : Comparison) (letters : List Char) : Comparison where
  numeric := comparison.numeric || letters.contains 'n' || letters.contains 'g'
  reversed := comparison.reversed || letters.contains 'r'
  ignoresCase := comparison.ignoresCase || letters.contains 'f'
  skipsBlanks := comparison.skipsBlanks || letters.contains 'b'

/-- Reads a key; one without letters of its own is compared like whole lines. -/
def key? (whole : Comparison) (text : String) : Option Key := do
  let plain : Comparison := ⟨false, false, false, false⟩
  let (start, stop) := match Text.cutAt? ',' text.toList with
    | some (start, stop) => (start, some stop)
    | none => (text.toList, none)
  let (first, firstChar, letters) ← keyPlace? start
  let (last, more) ← match stop with
    | none => some (none, [])
    | some stop => (keyPlace? stop).map fun (field, char, more) =>
      (some (field, char.getD 0), more)
  if first = 0 then none
  let own := letters ++ more
  let comparison := if own.isEmpty then whole else plain.withLetters own
  return ⟨first, firstChar.getD 1, last, comparison⟩

/-- The lines without those that are the same as the one before. -/
def withoutRepeats (same : List Char → List Char → Bool) : List (List Char) → List (List Char)
  | a :: b :: rest =>
    if same a b then withoutRepeats same (a :: rest) else a :: withoutRepeats same (b :: rest)
  | rest => rest
termination_by lines => lines.length

def sort (words : List String) : Act Nat :=
  withOptions "sort" 2
    ⟨"nrufbscgdiz".toList, ['k', 't', 'o'], [("numeric-sort", 'n'), ("reverse", 'r'), ("unique", 'u'),
      ("key", 'k'), ("field-separator", 't'), ("output", 'o'), ("stable", 's')]⟩ words fun options => do
      let plain : Comparison := ⟨false, false, false, false⟩
      let whole := plain.withLetters (options.found.map Prod.fst)
      let separator := (options.value? 't').bind fun text =>
        if text = "\\t" then some '\t' else text.toList.head?
      let texts := options.values 'k'
      match texts.find? fun text => (key? whole text).isNone with
      | some text => failed "sort" 2 ("invalid number at field start: invalid count at start of " ++
          quoted text)
      | none =>
        let keys := texts.filterMap (key? whole)
        let keys := if keys.isEmpty then [⟨1, 1, none, whole⟩] else keys
        let (found, good) ← inputs options.operands fun path why =>
          say "sort" ((if why = "Is a directory" then "read failed: " else "cannot read: ") ++ path ++
            ": " ++ why)
        if !good then return 2
        let lines := (found.flatMap fun item => linesOf item.2).map String.toList
        let byKeys (a b : List Char) : Ordering :=
          if texts.isEmpty then whole.apply a b else compareKeys separator keys a b
        let upTo (a b : List Char) : Bool := match byKeys a b with
          | .lt => true
          | .gt => false
          | .eq =>
            if options.has 'u' || options.has 's' then true
            else if whole.reversed then compareChars a b ≠ .lt
            else compareChars a b ≠ .gt
        if options.has 'c' then
          let pairs := lines.zip lines.tail
          match (pairs.zip (List.range pairs.length)).find? fun pair => !upTo pair.1.1 pair.1.2 with
          | none => return 0
          | some ((_, line), index) =>
            say "sort" (options.operands.headD "-" ++ ":" ++ Text.number (index + 2) ++
              ": disorder: " ++ String.ofList line)
            return 1
        let sorted := lines.mergeSort upTo
        let sorted := if options.has 'u' then
          withoutRepeats (fun a b => byKeys a b = .eq) sorted else sorted
        let text := unlines (sorted.map String.ofList)
        match options.value? 'o' with
        | none => Act.write 1 text
        | some path =>
          match State.openToWrite (← get) .write path with
          | .ok (file, state) =>
            set { state with files := state.files ++ [file] }
            modify fun state => state.writeTo (state.files.length - 1) text
          | .error cause => return ← failed "sort" 2 ("open failed: " ++ path ++ ": " ++ osWords cause)
        return 0

/-! ## Repeated lines -/

/-- Lines that stand together and are the same, with the number of each. -/
def runs (same : String → String → Bool) : List String → List (String × Nat)
  | [] => []
  | line :: rest =>
    match runs same rest with
    | (next, count) :: others =>
      if same line next then (line, count + 1) :: others else (line, 1) :: (next, count) :: others
    | [] => [(line, 1)]

def uniq (words : List String) : Act Nat :=
  withOptions "uniq" 1 ⟨"cduiz".toList, ['f', 's', 'w'], [("count", 'c'), ("repeated", 'd'),
      ("unique", 'u'), ("ignore-case", 'i')]⟩ words fun options => do
    let (found, good) ← plainInputs "uniq" (options.operands.take 1)
    if !good then return 1
    let same (a b : String) : Bool :=
      if options.has 'i' then Text.sameIgnoringCase a b else a = b
    let found := (runs same (linesOf (Lines.joined found))).filter fun item =>
      (!options.has 'd' || item.2 > 1) && (!options.has 'u' || item.2 = 1)
    let text := unlines (found.map fun (line, count) =>
      if options.has 'c' then Lines.column 7 count ++ " " ++ line else line)
    match options.operands[1]? with
    | none => Act.write 1 text
    | some path =>
      match State.openToWrite (← get) .write path with
      | .ok (file, state) =>
        set { state with files := state.files ++ [file] }
        modify fun state => state.writeTo (state.files.length - 1) text
      | .error cause => return ← failed "uniq" 1 (path ++ ": " ++ osWords cause)
    return 0

/-! ## Parts of lines -/

/-- Reads ranges of numbers from one on; the last number may be open. -/
def ranges? (text : String) : Option (List (Nat × Option Nat)) :=
  (Text.pieces ',' text.toList).mapM fun piece =>
    match Text.cutAt? '-' piece with
    | none => (Text.natural? piece).bind fun n => if n = 0 then none else some (n, some n)
    | some ([], []) => none
    | some ([], stop) => (Text.natural? stop).map fun n => (1, some n)
    | some (start, []) => (Text.natural? start).map fun n => (n, none)
    | some (start, stop) =>
      match Text.natural? start, Text.natural? stop with
      | some a, some b => if a = 0 || b < a then none else some (a, some b)
      | _, _ => none

def inRanges (ranges : List (Nat × Option Nat)) (n : Nat) : Bool :=
  ranges.any fun (first, last) => first ≤ n && last.all fun last => n ≤ last

/-- The items whose numbers, from one on, are in some ranges. -/
def pick {α : Type} (wanted : Nat → Bool) (items : List α) : List α :=
  ((items.zip (List.range items.length)).filter fun item => wanted (item.2 + 1)).map Prod.fst

def cut (words : List String) : Act Nat :=
  withOptions "cut" 1 ⟨['s', 'n', 'C', 'z'], ['d', 'f', 'c', 'b', 'O'], [("output-delimiter", 'O'),
      ("complement", 'C'), ("delimiter", 'd'), ("fields", 'f'), ("characters", 'c'), ("bytes", 'b'),
      ("only-delimited", 's')]⟩ words fun options => do
    let complain (words : String) : Act Nat := do
      say "cut" words
      Act.write 2 "Try 'cut --help' for more information.\n"
      return 1
    let byChars := (options.value? 'c').or (options.value? 'b')
    match (options.value? 'f').or byChars with
    | none => complain "you must specify a list of bytes, characters, or fields"
    | some text =>
      let fields := byChars.isNone
      match ranges? text with
      | none =>
        if (Text.pieces ',' text.toList).any fun piece => piece = ['0'] then
          complain (if fields then "fields are numbered from 1"
            else "byte/character positions are numbered from 1")
        else if text = "-" then complain "invalid range with no endpoint: -"
        else if text.contains '-' && text.toList.all fun c => c.isDigit || c = '-' || c = ',' then
          complain "invalid decreasing range"
        else complain ((if fields then "invalid field value " else
          "invalid byte/character position ") ++ quoted text)
      | some ranges =>
        let separator := (options.value? 'd').getD "\t"
        if separator.length > 1 then complain "the delimiter must be a single character"
        else
          let (found, good) ← plainInputs "cut" options.operands
          let wanted (n : Nat) : Bool := inRanges ranges n != options.has 'C'
          let c := separator.toList.headD (Char.ofNat 0)
          let glue := (options.value? 'O').getD separator
          for line in found.flatMap fun item => linesOf item.2 do
            if !fields then
              Act.write 1 (String.ofList (pick wanted line.toList) ++ "\n")
            else
              let parts := (Text.pieces c line.toList).map String.ofList
              if parts.length ≤ 1 then
                if !options.has 's' then Act.write 1 (line ++ "\n")
              else Act.write 1 (glue.intercalate (pick wanted parts) ++ "\n")
          return statusOf good

/-- Breaks lines at a width. -/
def broken (width : Nat) : (fuel : Nat) → List Char → List (List Char)
  | 0, _ => []
  | fuel + 1, line =>
    if line.length ≤ width then [line] else line.take width :: broken width fuel (line.drop width)

def fold (words : List String) : Act Nat :=
  withOptions "fold" 1 (.letters "bs" "w") words fun options => do
    let (found, good) ← plainInputs "fold" options.operands
    let width := max 1 ((options.number? 'w').getD 80)
    let lines := (linesOf (Lines.joined found)).flatMap fun line =>
      broken width (line.length + 1) line.toList
    Act.write 1 (unlines (lines.map String.ofList))
    return statusOf good

/-! ## Exchanging characters -/

/-- An item of a set of characters. -/
inductive Item
  | chars (found : List Char)
  /-- A character as often as it takes. -/
  | filling (c : Char)

def charsBetween (a b : Char) : List Char :=
  (List.range (b.toNat + 1 - a.toNat)).map fun k => Char.ofNat (a.toNat + k)

def charsOfKind (name : String) : List Char :=
  (charsBetween (Char.ofNat 0) (Char.ofNat 255)).filter (Member.isOfKind name)

/-- The first character of a set, with its escape, and what is behind it. -/
def setChar : List Char → Option (Char × List Char)
  | [] => none
  | '\\' :: c :: rest =>
    let digits := Format.octalDigits 3 (c :: rest)
    if !digits.isEmpty then some (Format.octalValue digits, (c :: rest).drop digits.length)
    else some ((Format.escape? c).getD c, rest)
  | c :: rest => some (c, rest)

/-- Reads the items of a set; `fuel` bounds their number. -/
def itemsUpTo : (fuel : Nat) → List Char → List Item
  | 0, _ => []
  | fuel + 1, text =>
    let kind := do
      let inside ← Text.after? "[:".toList text
      let name := inside.takeWhile (· ≠ ':')
      let rest ← Text.after? ":]".toList (inside.drop name.length)
      return (String.ofList name, rest)
    let filler := do
      let inside ← Text.after? ['['] text
      let (c, rest) ← setChar inside
      let rest ← Text.after? ['*'] rest
      let digits := rest.takeWhile Char.isDigit
      let rest ← Text.after? [']'] (rest.drop digits.length)
      return (c, digits, rest)
    match kind, filler with
    | some (name, rest), _ => .chars (charsOfKind name) :: itemsUpTo fuel rest
    | none, some (c, digits, rest) =>
      (match Text.natural? digits with
        | some (n + 1) => .chars (List.replicate (n + 1) c)
        | _ => .filling c) :: itemsUpTo fuel rest
    | none, none =>
      match setChar text with
      | none => []
      | some (a, '-' :: more) =>
        match setChar more with
        | some (b, rest) => .chars (charsBetween a b) :: itemsUpTo fuel rest
        | none => .chars [a, '-'] :: itemsUpTo fuel []
      | some (a, rest) => .chars [a] :: itemsUpTo fuel rest

def itemsOf (text : String) : List Item := itemsUpTo (text.length + 1) text.toList

/-- The characters of items, filled up to a length. -/
def charsOf (length : Nat) (items : List Item) : List Char :=
  let lengths := items.map fun
    | .chars found => found.length
    | .filling _ => 0
  let fixed := lengths.foldl (· + ·) 0
  items.flatMap fun
    | .chars found => found
    | .filling c => List.replicate (length - fixed) c

/-- Keeps one of each run of characters that are in a set. -/
def withoutRuns (isIn : Char → Bool) : (former : Option Char) → List Char → List Char
  | _, [] => []
  | former, c :: rest =>
    if former = some c && isIn c then withoutRuns isIn former rest
    else c :: withoutRuns isIn (some c) rest

def tr (words : List String) : Act Nat :=
  withOptions "tr" 1 ⟨"cCdst".toList, [], [("delete", 'd'), ("squeeze-repeats", 's'),
      ("complement", 'c'), ("truncate-set1", 't')]⟩ words fun options => do
    let complain (words : String) (more : String) : Act Nat := do
      say "tr" words
      Act.write 2 (more ++ "Try 'tr --help' for more information.\n")
      return 1
    let (drops, squeezes) := (options.has 'd', options.has 's')
    let all := charsBetween (Char.ofNat 0) (Char.ofNat 255)
    let firstSet (text : String) : List Char :=
      let found := charsOf 0 (itemsOf text)
      if options.has 'c' || options.has 'C' then all.filter fun c => !found.contains c else found
    match options.operands with
    | [] => complain "missing operand" ""
    | [first] =>
      if drops && squeezes then
        complain ("missing operand after " ++ quoted first)
          "Two strings must be given when both deleting and squeezing repeats.\n"
      else if !drops && !squeezes then
        complain ("missing operand after " ++ quoted first)
          "Two strings must be given when translating.\n"
      else
        let found := firstSet first
        let text := (← standardInput).toList
        let changed := if drops then text.filter fun c => !found.contains c
          else withoutRuns found.contains none text
        Act.write 1 (String.ofList changed)
        return 0
    | [first, second] =>
      if drops && !squeezes then
        complain ("extra operand " ++ quoted second)
          "Only one string may be given when deleting without squeezing repeats.\n"
      else
        let found := firstSet first
        let goals := charsOf found.length (itemsOf second)
        let text := (← standardInput).toList
        if drops then
          let kept := text.filter fun c => !found.contains c
          Act.write 1 (String.ofList (withoutRuns goals.contains none kept))
          return 0
        else match goals.getLast? with
          | none =>
            if options.has 't' then
              Act.write 1 (String.ofList text)
              return 0
            else failed "tr" 1 "when not truncating set1, string2 must be non-empty"
          | some last =>
            let goals := if options.has 't' then goals
              else goals ++ List.replicate (found.length - goals.length) last
            let table := (found.zip goals).reverse
            let change (c : Char) : Char :=
              ((table.find? fun pair => pair.1 = c).map Prod.snd).getD c
            let changed := text.map change
            Act.write 1 (String.ofList (if squeezes then
              withoutRuns goals.contains none changed else changed))
            return 0
    | _ :: _ :: extra :: _ => complain ("extra operand " ++ quoted extra) ""

end Fields

/-- The programs that look into lines. -/
def fieldProgram? (name : String) : Option Utility :=
  match name with
  | "sort" => some Fields.sort
  | "uniq" => some Fields.uniq
  | "cut" => some Fields.cut
  | "fold" => some Fields.fold
  | "tr" => some Fields.tr
  | _ => none

end SignalCatalog.Utilities
