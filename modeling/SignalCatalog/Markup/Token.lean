import SignalCatalog.Text.Blank

/-!
# Markup tokens

The parts of a workbook are markup documents. `Token.scan` cuts a document into tags, texts,
comments and instructions and refuses what is not well formed at this level: characters that
documents may not hold, names, attributes without blanks between them, declarations of document
types, and text outside the one outermost element. References are left as they stand.
-/

namespace SignalCatalog.Markup

open SignalCatalog.Text

/-- A name with the label of its namespace in front of a colon; no label is the empty text. -/
structure Name where
  label : String
  base : String
deriving DecidableEq, Repr

def Name.plain (base : String) : Name := ⟨"", base⟩

inductive Token
  | openTag (name : Name) (attributes : List (Name × List Char)) (closed : Bool)
  | closeTag (name : Name)
  | text (chars : List Char)
  | cdata (chars : List Char)
  | comment
  | instruction

/-- A character that a document may hold. -/
def isAllowed (c : Char) : Bool :=
  if c.toNat < 0x20 then c = '\t' || c = '\n' || c = '\r'
  else c.toNat ≠ 0xFFFE && c.toNat ≠ 0xFFFF

def isSpace (c : Char) : Bool := c = ' ' || c = '\t' || c = '\n' || c = '\r'

def within (ranges : List (Nat × Nat)) (c : Char) : Bool :=
  ranges.any fun range => range.1 ≤ c.toNat && c.toNat ≤ range.2

/-- The first characters of names beyond ASCII. -/
def nameStartRanges : List (Nat × Nat) :=
  [(0xC0, 0xD6), (0xD8, 0xF6), (0xF8, 0x2FF), (0x370, 0x37D), (0x37F, 0x1FFF), (0x200C, 0x200D),
    (0x2070, 0x218F), (0x2C00, 0x2FEF), (0x3001, 0xD7FF), (0xF900, 0xFDCF), (0xFDF0, 0xFFFD),
    (0x10000, 0xEFFFF)]

def isNameStart (c : Char) : Bool :=
  if c.toNat ≤ 128 then c.isAlpha || c = '_' || c = ':' else within nameStartRanges c

def isNameChar (c : Char) : Bool :=
  if c.toNat ≤ 128 then c.isAlphanum || c = '_' || c = ':' || c = '-' || c = '.'
  else c.toNat = 0xB7 || within nameStartRanges c ||
    within [(0x300, 0x36F), (0x203F, 0x2040)] c

/-- What stands before the first occurrence of `stop`, all of it allowed, and what follows it. -/
def takeUntil? (stop : List Char) : List Char → Option (List Char × List Char)
  | [] => none
  | c :: rest =>
    match after? stop (c :: rest) with
    | some rest => some ([], rest)
    | none =>
      if isAllowed c then
        (takeUntil? stop rest).map fun (before, rest) => (c :: before, rest)
      else none

/-- A name with at most one colon; both sides of it start like names. -/
def takeName? (text : List Char) : Option (Name × List Char) :=
  let run := text.takeWhile isNameChar
  let rest := text.dropWhile isNameChar
  let startsWell (part : List Char) : Bool :=
    match part with
    | [] => true
    | c :: _ => isNameStart c
  match pieces ':' run with
  | [base] =>
    if base.isEmpty || !startsWell base then none
    else some (.plain (String.ofList base), rest)
  | [label, base] =>
    if base.isEmpty || !startsWell label || !startsWell base then none
    else some (⟨String.ofList label, String.ofList base⟩, rest)
  | _ => none

/-- A name, an equals sign and a quoted value without `<`. -/
def takeAttribute? (text : List Char) : Option ((Name × List Char) × List Char) := do
  let (name, rest) ← takeName? text
  let rest ← after? ['='] (rest.dropWhile isSpace)
  match rest.dropWhile isSpace with
  | quote :: rest =>
    if quote = '"' ∨ quote = '\'' then
      let value := rest.takeWhile fun c => isAllowed c && c ≠ quote && c ≠ '<'
      let rest ← after? [quote] (rest.drop value.length)
      some ((name, value), rest)
    else none
  | [] => none

/-- The attributes of a tag up to its end, and whether the tag closes itself. -/
def takeAttributes? : Nat → List Char → Option (List (Name × List Char) × Bool × List Char)
  | 0, _ => none
  | fuel + 1, text =>
    let spaced := match text with
      | c :: _ => isSpace c
      | [] => false
    match text.dropWhile isSpace with
    | [] => none
    | '/' :: rest => (after? ['>'] rest).map fun rest => ([], true, rest)
    | '>' :: rest => some ([], false, rest)
    | text =>
      if spaced then do
        let (item, rest) ← takeAttribute? text
        let (attributes, closed, rest) ← takeAttributes? fuel rest
        some (item :: attributes, closed, rest)
      else none

/-- A comment behind its opening; it may not hold two dashes or end in one. -/
def takeComment? (text : List Char) : Option (List Char) := do
  let (body, rest) ← takeUntil? "-->".toList text
  if (takeUntil? "--".toList body).isSome || body.getLast? = some '-' then none else some rest

/-- An instruction behind its opening; a declaration may only stand at the start. -/
def takeInstruction? (text : List Char) : Option (List Char) :=
  if (after? "xml ".toList text).isSome then none
  else match text with
    | c :: rest =>
      if isNameStart c then
        (takeUntil? "?>".toList ((rest.dropWhile isNameChar).dropWhile isSpace)).map Prod.snd
      else none
    | [] => none

/-- Blanks that must stand between the parts of a declaration. -/
def takeBlanks? (text : List Char) : Option (List Char) :=
  match text with
  | c :: _ =>
    if isSpace c then some (text.dropWhile isSpace)
    else if (after? "?>".toList text).isSome then some text
    else none
  | [] => some []

/-- One attribute of a declaration if it stands there. -/
def takeDeclared? (word : String) (text : List Char) : Option (List Char) :=
  match after? word.toList text with
  | some _ => (takeAttribute? text).map Prod.snd
  | none => some text

/-- The declaration behind its opening: the version, then an encoding and a word on other files. Only
the version must be there. -/
def takeDeclaration? (text : List Char) : Option (List Char) := do
  let rest ← takeBlanks? text
  let _ ← after? "version".toList rest
  let rest ← takeBlanks? (← takeDeclared? "version" rest)
  let rest ← match after? "encoding".toList rest with
    | some _ => (takeDeclared? "encoding" rest).bind takeBlanks?
    | none => some rest
  let rest ← takeDeclared? "standalone" rest
  after? "?>".toList (rest.dropWhile isSpace)

/-- A run of text up to the next tag; it may not hold the end mark of literal text. -/
def takeText? (text : List Char) : Option (List Char × List Char) :=
  let run := text.takeWhile fun c => isAllowed c && c ≠ '<'
  let rest := text.drop run.length
  match rest with
  | c :: _ =>
    if c = '<' && (takeUntil? "]]>".toList run).isNone then some (run, rest) else none
  | [] => if (takeUntil? "]]>".toList run).isNone then some (run, []) else none

/-- What stands between `<` and the token that it opens. -/
inductive Opening
  | comment (rest : List Char)
  | cdata (rest : List Char)
  | instruction (rest : List Char)
  | close (rest : List Char)
  | element (rest : List Char)

/-- Tells by its first characters what opens behind `<`. -/
def Opening.of (rest : List Char) : Option Opening :=
  match rest with
  | [] => none
  | '?' :: rest => some (.instruction rest)
  | '/' :: rest => some (.close rest)
  | '!' :: rest =>
    match after? "--".toList rest with
    | some rest => some (.comment rest)
    | none => (after? "[CDATA[".toList rest).map Opening.cdata
  | rest => some (.element rest)

/-- The tokens of a document. `depth` elements are open; `rooted` says whether the outermost element
has been met. -/
def scanFrom : (fuel depth : Nat) → (rooted : Bool) → List Char → Option (List Token)
  | 0, _, _, _ => none
  | fuel + 1, depth, rooted, text =>
    match if depth = 0 then text.dropWhile isSpace else text with
    | [] => if depth = 0 then some [] else none
    | '<' :: rest => do
      match ← Opening.of rest with
      | .comment rest =>
        let tokens ← scanFrom fuel depth rooted (← takeComment? rest)
        some (.comment :: tokens)
      | .instruction rest =>
        let tokens ← scanFrom fuel depth rooted (← takeInstruction? rest)
        some (.instruction :: tokens)
      | .cdata rest =>
        if depth = 0 then none
        else
          let (body, rest) ← takeUntil? "]]>".toList rest
          let tokens ← scanFrom fuel depth rooted rest
          some (.cdata body :: tokens)
      | .close rest =>
        if depth = 0 then none
        else
          let (name, rest) ← takeName? rest
          let rest ← after? ['>'] (rest.dropWhile isSpace)
          let tokens ← scanFrom fuel (depth - 1) rooted rest
          some (.closeTag name :: tokens)
      | .element rest =>
        if depth = 0 && rooted then none
        else
          let (name, rest) ← takeName? rest
          let (attributes, closed, rest) ← takeAttributes? (rest.length + 1) rest
          let tokens ← scanFrom fuel (if closed then depth else depth + 1) true rest
          some (.openTag name attributes closed :: tokens)
    | text =>
      if depth = 0 then none
      else do
        let (run, rest) ← takeText? text
        let tokens ← scanFrom fuel depth rooted rest
        some (.text run :: tokens)

/-- The tokens of a document, after a byte order mark and a declaration. -/
def Token.scan (document : String) : Option (List Token) := do
  let text := document.toList
  let text := match text with
    | c :: rest => if c.toNat = 0xFEFF then rest else text
    | [] => text
  let text ← match after? "<?xml ".toList text with
    | some rest => takeDeclaration? (' ' :: rest)
    | none => some text
  scanFrom (text.length + 1) 0 false text

end SignalCatalog.Markup
