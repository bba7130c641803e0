import SignalCatalog.Binary64

/-!
# Code of indented scripts
-/

namespace SignalCatalog.Indented

inductive Literal
  | nothing
  | ellipsis
  | truth (holds : Bool)
  | whole (n : Nat)
  | fraction (x : Binary64)
  | text (text : String)
  | octets (octets : String)

inductive UnaryOperator
  | minus
  | plus
  | invert
deriving DecidableEq

inductive BinaryOperator
  | add
  | subtract
  | multiply
  | divide
  | floorDivide
  | remainder
  | power
  | and
  | or
  | exclusiveOr
  | shiftLeft
  | shiftRight
deriving DecidableEq

inductive CompareOperator
  | equal
  | notEqual
  | less
  | upTo
  | greater
  | atLeast
  | same
  | notSame
  | isIn
  | notIn
deriving DecidableEq

/-- What a comprehension makes. -/
inductive Gathering
  | list
  | set
  | dict
deriving DecidableEq

/-- How a parameter takes arguments. -/
inductive ParameterKind
  | plain
  /-- Only by its name. -/
  | named
  /-- The positions that are left. -/
  | rest
  /-- The names that are left. -/
  | namedRest
deriving DecidableEq

mutual

inductive Expr
  | literal (literal : Literal)
  | name (name : String)
  | formatted (parts : List Part)
  | unary (operator : UnaryOperator) (operand : Expr)
  | negated (operand : Expr)
  | binary (operator : BinaryOperator) (first second : Expr)
  | both (first second : Expr)
  | either (first second : Expr)
  | comparison (first : Expr) (rest : List (CompareOperator × Expr))
  | choice (condition yes no : Expr)
  | call (callee : Expr) (arguments : List Argument)
  | member (owner : Expr) (name : String)
  | item (owner index : Expr)
  | slice (start stop step : Option Expr)
  | list (items : List Expr)
  | tuple (items : List Expr)
  | set (items : List Expr)
  /-- An item without a key stands for all items of another dictionary. -/
  | dict (items : List (Option Expr × Expr))
  | lambda (parameters : List Parameter) (body : Expr)
  | comprehension (gathering : Gathering) (key value : Expr) (clauses : List Clause)
  | starred (items : Expr)
  | naming (name : String) (value : Expr)
  | yielded (value : Option Expr)

inductive Argument
  | plain (value : Expr)
  | named (name : String) (value : Expr)
  | all (items : Expr)
  | allNamed (items : Expr)

/-- A part of a text with expressions in it. -/
inductive Part
  | text (text : String)
  | value (value : Expr) (conversion : Option Char) (format : List Part)

inductive Parameter
  | mk (name : String) (kind : ParameterKind) (byDefault : Option Expr)

inductive Clause
  | each (target source : Expr)
  | only (condition : Expr)

end

instance : Inhabited Expr := ⟨.literal .nothing⟩

mutual

inductive Statement
  | expression (value : Expr)
  | assign (targets : List Expr) (value : Expr)
  | augment (target : Expr) (operator : BinaryOperator) (value : Expr)
  | choice (condition : Expr) (body otherwise : List Line)
  | loop (condition : Expr) (body otherwise : List Line)
  | each (target source : Expr) (body otherwise : List Line)
  /-- A function; the flag says whether it yields values. -/
  | function (name : String) (parameters : List Parameter) (body : List Line) (yields : Bool)
      (decorators : List Expr)
  | kind (name : String) (bases : List Expr) (body : List Line)
  | give (value : Option Expr)
  | raise (value : Option Expr)
  | attempt (body : List Line) (handlers : List Handler) (otherwise final : List Line)
  | within (items : List (Expr × Option Expr)) (body : List Line)
  | load (modules : List (String × Option String))
  | loadFrom (module : String) (names : List (String × String))
  | pass
  | leave
  | nextRound
  | delete (targets : List Expr)
  | claim (condition : Expr) (message : Option Expr)
  | global (names : List String)
  | outer (names : List String)

/-- A statement with the line it starts at. -/
inductive Line
  | mk (number : Nat) (statement : Statement)

/-- What is done with an exception of a kind, or with any. -/
inductive Handler
  | mk (kind : Option Expr) (name : Option String) (body : List Line)

end

end SignalCatalog.Indented
