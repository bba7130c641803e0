import SignalCatalog.Scripting.Utilities.Options

/-!
# Programs that pass lines on

These programs show inputs as they are, from an end, backwards or with numbers, and count what is in
them.
-/

namespace SignalCatalog.Utilities

open Shell

namespace Lines

/-- The texts of inputs one after another. -/
def joined (found : List (String × String)) : String := String.join (found.map Prod.snd)

/-- A number in a column that is filled up with blanks. -/
def column (width n : Nat) : String :=
  let text := Text.number n
  String.ofList (List.replicate (width - text.length) ' ') ++ text

/-! ## Whole inputs -/

/-- Shows a character that cannot be seen by one that can. -/
def visible (options : Options) (c : Char) : List Char :=
  let ends := options.has 'E' || options.has 'A' || options.has 'e'
  let tabs := options.has 'T' || options.has 'A' || options.has 't'
  let all := options.has 'v' || options.has 'A' || options.has 'e' || options.has 't'
  let rec low (n : Nat) : List Char :=
    if n < 32 then ['^', Char.ofNat (n + 64)] else if n = 127 then ['^', '?'] else [Char.ofNat n]
  if c = '\n' then if ends then ['$', '\n'] else ['\n']
  else if c = '\t' then if tabs then ['^', 'I'] else ['\t']
  else if all then
    if c.toNat < 128 then low c.toNat else 'M' :: '-' :: low (c.toNat - 128)
  else [c]

/-- The lines of a text without those that are empty behind an empty one. -/
def squeezed : (afterEmpty : Bool) → List String → List String
  | _, [] => []
  | afterEmpty, line :: rest =>
    let empty := line = "\n"
    if empty && afterEmpty then squeezed true rest else line :: squeezed empty rest

/-- Puts numbers before lines, or only before those that are not empty. -/
def numbered (skipEmpty : Bool) : (number : Nat) → List String → List String
  | _, [] => []
  | number, line :: rest =>
    if skipEmpty && line = "\n" then line :: numbered skipEmpty number rest
    else (column 6 number ++ "\t" ++ line) :: numbered skipEmpty (number + 1) rest

/-- Whether a path is the file that the output is added to. -/
def isOutput (path : String) : Act Bool := do
  let state ← get
  match (state.stream? 1).bind fun index => state.files[index]? with
  | some ⟨.file place, _, true, _, _⟩ =>
    match state.disk.find (State.pathOf path) with
    | .ok (other, _) => return other = place && (state.contentAt? place).any fun text => text ≠ ""
    | .error _ => return false
  | _ => return false

def cat (words : List String) : Act Nat :=
  withOptions "cat" 1 ⟨"nbsETAvuet".toList, [], [("number", 'n'), ("show-all", 'A')]⟩ words
    fun options => do
      let mut good := true
      let mut whole := ""
      for path in if options.operands.isEmpty then ["-"] else options.operands do
        if ← isOutput path then
          good := false
          say "cat" (path ++ ": input file is output file")
        else
          let (found, read) ← plainInputs "cat" [path]
          if !read then good := false
          if options.found.isEmpty then Act.write 1 (joined found)
          else whole := whole ++ joined found
      if !options.found.isEmpty then
        let lines := rawLines whole
        let lines := if options.has 's' then squeezed false lines else lines
        let lines := lines.map fun line => String.ofList (line.toList.flatMap (visible options))
        let lines := if options.has 'b' then numbered true 1 lines
          else if options.has 'n' then numbered false 1 lines else lines
        Act.write 1 (String.join lines)
      return statusOf good

def tee (words : List String) : Act Nat :=
  withOptions "tee" 1 ⟨['a', 'i', 'p'], [], [("append", 'a')]⟩ words fun options => do
    let text ← standardInput
    let mut good := true
    for path in options.operands do
      let mode := if options.has 'a' then OpenMode.append else .write
      match State.openToWrite (← get) mode path with
      | .ok (file, state) =>
        set { state with files := state.files ++ [file] }
        modify fun state => state.writeTo (state.files.length - 1) text
      | .error cause =>
        good := false
        say "tee" (path ++ ": " ++ osWords cause)
    Act.write 1 text
    return statusOf good

/-! ## Ends -/

/-- How much of an input is wanted. -/
structure Amount where
  /-- Whether bytes are counted, and not lines. -/
  bytes : Bool
  /-- The sign before the number. -/
  sign : Option Char
  count : Nat

/-- Reads an amount, with the complaint if it is none. -/
def amount (options : Options) : Except String Amount :=
  let read (bytes : Bool) (text : String) : Except String Amount :=
    let (sign, digits) := match text.toList with
      | '-' :: rest => (some '-', rest)
      | '+' :: rest => (some '+', rest)
      | rest => (none, rest)
    match Text.natural? digits with
    | some count => .ok ⟨bytes, sign, count⟩
    | none =>
      .error ("invalid number of " ++ (if bytes then "bytes" else "lines") ++ ": " ++ quoted text)
  match options.value? 'c', options.value? 'n' with
  | some text, _ => read true text
  | none, some text => read false text
  | none, none => .ok ⟨false, none, 10⟩

/-- Words in which an old form of an amount, a number behind a sign, has been made a new one. -/
def withAmounts (signs : List Char) : List String → List String
  | word :: rest =>
    match word.toList with
    | sign :: c :: more =>
      if signs.contains sign && c.isDigit then
        let digits := c :: more.takeWhile Char.isDigit
        let value := (if sign = '+' then ['+'] else []) ++ digits
        match more.dropWhile Char.isDigit with
        | [] => "-n" :: String.ofList value :: rest
        | ['c'] => "-c" :: String.ofList value :: rest
        | _ => word :: rest
      else word :: rest
    | _ => word :: rest
  | [] => []

/-- The pieces of a text that an amount counts. -/
def parts (amount : Amount) (text : String) : List String :=
  if amount.bytes then text.toList.map fun c => c.toString else rawLines text

def headOf (amount : Amount) (text : String) : String :=
  let found := parts amount text
  String.join (match amount.sign with
    | some '-' => found.take (found.length - amount.count)
    | _ => found.take amount.count)

def tailOf (amount : Amount) (text : String) : String :=
  let found := parts amount text
  String.join (match amount.sign with
    | some '+' => found.drop (amount.count - 1)
    | _ => found.drop (found.length - amount.count))

/-- Shows an end of each input, with the names of the files if there are more. -/
def showEnds (name : String) (cut : Amount → String → String) (words : List String) : Act Nat :=
  withOptions name 1
    ⟨"qvfz".toList, ['n', 'c'], [("lines", 'n'), ("bytes", 'c'), ("quiet", 'q'), ("verbose", 'v')]⟩ words
    fun options => do
      match amount options with
      | .error fault => failed name 1 fault
      | .ok amount =>
        let mut good := true
        let mut first := true
        for path in if options.operands.isEmpty then ["-"] else options.operands do
          match ← if path = "-" then do pure (.ok (← standardInput)) else contentOf path with
          | .error cause =>
            good := false
            say name (match cause with
              | .isDirectory => "error reading " ++ quoted path ++ ": " ++ osWords cause
              | _ => "cannot open " ++ quoted path ++ " for reading: " ++ osWords cause)
          | .ok text =>
            if !options.has 'q' && (options.has 'v' || options.operands.length > 1) then
              let shown := if path = "-" then "standard input" else path
              Act.write 1 ((if first then "" else "\n") ++ "==> " ++ shown ++ " <==\n")
            first := false
            Act.write 1 (cut amount text)
        return statusOf good

def head (words : List String) : Act Nat := showEnds "head" headOf (withAmounts ['-'] words)

def tail (words : List String) : Act Nat := showEnds "tail" tailOf (withAmounts ['-', '+'] words)

/-! ## Backwards -/

def tac (words : List String) : Act Nat :=
  withOptions "tac" 1 (.letters "" "") words fun options => do
    let (found, good) ← inputs options.operands fun path why =>
      say "tac" ("failed to open " ++ quoted path ++ " for reading: " ++ why)
    Act.write 1 (String.join (found.flatMap fun item => (rawLines item.2).reverse))
    return statusOf good

def rev (words : List String) : Act Nat :=
  withOptions "rev" 1 (.letters "" "") words fun options => do
    let (found, good) ← inputs options.operands fun path why =>
      say "rev" ("cannot open " ++ path ++ ": " ++ why)
    let turned (line : String) : String :=
      match line.toList.reverse with
      | '\n' :: rest => String.ofList rest ++ "\n"
      | rest => String.ofList rest
    Act.write 1 (String.join ((rawLines (joined found)).map turned))
    return statusOf good

/-! ## Numbers -/

def nl (words : List String) : Act Nat :=
  withOptions "nl" 1 (.letters "p" "bwsvin") words fun options => do
    let (found, good) ← plainInputs "nl" options.operands
    let width := (options.number? 'w').getD 6
    let separator := (options.value? 's').getD "\t"
    let all := options.value? 'b' = some "a"
    let gap := String.ofList (List.replicate (width + separator.length) ' ')
    let mut number := (options.number? 'v').getD 1
    for line in linesOf (joined found) do
      if line = "" && !all then Act.write 1 (gap ++ "\n")
      else
        Act.write 1 (column width number ++ separator ++ line ++ "\n")
        number := number + (options.number? 'i').getD 1
    return statusOf good

/-- The numbers of lines, words and bytes of a text, and the length of its longest line. -/
def counts (text : String) : List (Char × Nat) :=
  let chars := text.toList
  let isBlank (c : Char) : Bool := c = ' ' || (9 ≤ c.toNat && c.toNat ≤ 13)
  let words := (chars.foldl (fun (count, inWord) c =>
    if isBlank c then (count, false) else (if inWord then count else count + 1, true)) (0, false)).1
  [('l', chars.count '\n'), ('w', words), ('m', chars.length), ('c', chars.length),
    ('L', ((linesOf text).map String.length).foldl max 0)]

def wc (words : List String) : Act Nat :=
  withOptions "wc" 1
    ⟨"lwcmL".toList, [], [("lines", 'l'), ("words", 'w'), ("bytes", 'c'), ("chars", 'm')]⟩ words
    fun options => do
      let wanted := if options.found.isEmpty then ['l', 'w', 'c']
        else "lwmcL".toList.filter options.has
      let fromFile ← do
        let state ← get
        pure (match (state.stream? 0).bind fun index => state.files[index]? with
          | some ⟨.file _, _, _, _, _⟩ => true
          | _ => false)
      let mut good := true
      let mut rows : List (List Nat × String) := []
      let mut size := 0
      let mut plain := true
      for path in if options.operands.isEmpty then ["-"] else options.operands do
        match ← if path = "-" then do pure (.ok (← standardInput)) else contentOf path with
        | .error cause =>
          good := false
          say "wc" (path ++ ": " ++ osWords cause)
          if cause = .isDirectory then
            plain := false
            rows := (wanted.map fun _ => 0, path) :: rows
        | .ok text =>
          if path = "-" && !fromFile then plain := false
          size := size + text.length
          let found := counts text
          let row := wanted.map fun letter => ((found.find? fun item => item.1 = letter).map
            Prod.snd).getD 0
          rows := (row, if options.operands.isEmpty then "" else path) :: rows
      let totals := rows.foldl (fun sums row => List.zipWith (· + ·) sums row.1) (wanted.map fun _ => 0)
      let many := options.operands.length > 1
      let width := if !many && wanted.length = 1 then 1
        else max (if plain then 1 else 7) (Text.number size).length
      for (row, path) in rows.reverse ++ (if many then [(totals, "total")] else []) do
        let name := if path = "" then "" else " " ++ path
        Act.write 1 (" ".intercalate (row.map (column width)) ++ name ++ "\n")
      return statusOf good

/-- A whole number with a sign. -/
def integer? (text : String) : Option Int :=
  match text.toList with
  | '-' :: rest => (Text.natural? rest).map fun n => -(n : Int)
  | '+' :: rest => (Text.natural? rest).map fun n => (n : Int)
  | rest => (Text.natural? rest).map fun n => (n : Int)

/-- The numbers from one to another in steps. -/
def steps (first step last : Int) : List Int :=
  if step = 0 then []
  else
    let count := if step > 0 then (last - first) / step else (first - last) / (-step)
    if count < 0 then [] else (List.range (count.toNat + 1)).map fun (k : Nat) => first + step * Int.ofNat k

/-- The options and the numbers of a sequence; a number may have a dash before it. -/
def sequenceWords : List String → List (Char × String) × List String
  | "-w" :: rest => let (found, operands) := sequenceWords rest; (('w', "") :: found, operands)
  | "-s" :: value :: rest =>
    let (found, operands) := sequenceWords rest
    (('s', value) :: found, operands)
  | word :: rest =>
    match Text.after? "-s".toList word.toList with
    | some value => let (found, operands) := sequenceWords rest
                    (('s', String.ofList value) :: found, operands)
    | none => let (found, operands) := sequenceWords rest; (found, word :: operands)
  | [] => ([], [])

def sequence (words : List String) : Act Nat := do
  let (found, operands) := sequenceWords words
  let options : Options := ⟨found, operands, none⟩
  let present (numbers : List Int) : Act Nat := do
    let texts := numbers.map Text.integer
    let width := texts.foldl (fun width text => max width text.length) 0
    let wide (text : String) : String :=
      match text.toList with
      | '-' :: rest => "-" ++ String.ofList (List.replicate (width - text.length) '0' ++ rest)
      | rest => String.ofList (List.replicate (width - text.length) '0' ++ rest)
    let texts := if options.has 'w' then texts.map wide else texts
    if !texts.isEmpty then
      Act.write 1 (((options.value? 's').getD "\n").intercalate texts ++ "\n")
    return 0
  match operands.find? fun word => (integer? word).isNone with
  | some word =>
    say "seq" (if word.startsWith "--" then "unrecognized option " ++ quoted word
      else "invalid floating point argument: " ++ quoted word)
    Act.write 2 "Try 'seq --help' for more information.\n"
    return 1
  | none =>
    match operands.filterMap integer? with
    | [last] => present (steps 1 1 last)
    | [first, last] => present (steps first 1 last)
    | [first, step, last] =>
      if step = 0 then failed "seq" 1 "invalid Zero increment value: '0'"
      else present (steps first step last)
    | numbers =>
      say "seq" (if numbers.isEmpty then "missing operand"
        else "extra operand " ++ quoted ((operands.drop 3).headD ""))
      Act.write 2 "Try 'seq --help' for more information.\n"
      return 1

/-! ## Side by side -/

/-- The lines of several texts side by side; `fuel` bounds their number. -/
def beside (separator : Char) : (fuel : Nat) → List (List String) → List String
  | 0, _ => []
  | fuel + 1, columns =>
    if columns.all List.isEmpty then []
    else separator.toString.intercalate (columns.map fun column => column.headD "") ::
      beside separator fuel (columns.map List.tail)

def paste (words : List String) : Act Nat :=
  withOptions "paste" 1 (.letters "s" "d") words fun options => do
    let mut good := true
    let mut columns := []
    for path in if options.operands.isEmpty then ["-"] else options.operands do
      let (found, read) ← plainInputs "paste" [path]
      if !read then good := false
      columns := linesOf (joined found) :: columns
    let separator := match ((options.value? 'd').getD "\t").toList with
      | ['\\', 'n'] => '\n'
      | ['\\', 't'] => '\t'
      | c :: _ => c
      | [] => '\t'
    let ordered := columns.reverse
    if options.has 's' then
      Act.write 1 (unlines (ordered.map separator.toString.intercalate))
    else
      let height := (ordered.map List.length).foldl max 0
      Act.write 1 (unlines (beside separator (height + 1) ordered))
    return statusOf good

/-- Compares two files. -/
def cmp (words : List String) : Act Nat :=
  withOptions "cmp" 2 (.letters "slb" "") words fun options => do
    match options.operands with
    | [first, second] =>
      let (a, readA) ← plainInputs "cmp" [first]
      let (b, readB) ← plainInputs "cmp" [second]
      if !readA || !readB then return 2
      let (a, b) := (joined a, joined b)
      let shared := ((a.toList.zip b.toList).takeWhile fun pair => pair.1 = pair.2).length
      if a = b then return 0
      if !options.has 's' then
        let line := (a.toList.take shared).count '\n' + 1
        if shared = a.length || shared = b.length then
          let ended := if shared = a.length then first else second
          say "cmp" ("EOF on " ++ ended ++ (if shared = 0 then " which is empty" else
            " after byte " ++ Text.number shared ++ ", in line " ++ Text.number line))
        else
          Act.write 1 (first ++ " " ++ second ++ " differ: char " ++ Text.number (shared + 1) ++
            ", line " ++ Text.number line ++ "\n")
      return 1
    | _ =>
      say "cmp" "missing operand"
      return 2

end Lines

/-- The programs that pass lines on. -/
def lineProgram? (name : String) : Option Utility :=
  match name with
  | "cat" => some Lines.cat
  | "tee" => some Lines.tee
  | "head" => some Lines.head
  | "tail" => some Lines.tail
  | "tac" => some Lines.tac
  | "rev" => some Lines.rev
  | "nl" => some Lines.nl
  | "wc" => some Lines.wc
  | "seq" => some Lines.sequence
  | "paste" => some Lines.paste
  | "cmp" => some Lines.cmp
  | _ => none

end SignalCatalog.Utilities
