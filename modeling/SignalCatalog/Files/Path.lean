import SignalCatalog.Text.Blank

/-!
# Paths

A path is a text of names with slashes between them. Doubled slashes, slashes at the end and single
dots behind the first name do not count as names; a path is shown as it was given.
-/

namespace SignalCatalog.Path

open Text

/-- The pieces between slashes. -/
def segments (path : String) : List String := (pieces '/' path.toList).map String.ofList

def isAbsolute (path : String) : Bool := path.toList.head? = some '/'

def endsInSlash (path : String) : Bool := path.toList.getLast? = some '/'

/-- The names of a path with the indices of their segments. -/
def names (path : String) : List (String × Nat) :=
  (segments path).zipIdx.filter fun (name, index) =>
    name != "" && (name != "." || index == 0)

/-- The path without its last name; a path without names has no parent. -/
def parent? (path : String) : Option String :=
  match (names path).reverse with
  | [] => none
  | [_] => some (if isAbsolute path then "/" else "")
  | _ :: (_, index) :: _ => some ("/".intercalate ((segments path).take (index + 1)))

/-- The parent, if it is more than the working folder. -/
def folder? (path : String) : Option String :=
  (parent? path).filter fun parent => parent != ""

/-- The last name, unless it stands for a folder seen from another. -/
def fileName? (path : String) : Option String :=
  match (names path).getLast? with
  | some (name, _) => if name == "." || name == ".." then none else some name
  | none => none

def join (folder name : String) : String :=
  if isAbsolute name then name
  else if folder.isEmpty || endsInSlash folder then folder ++ name
  else folder ++ "/" ++ name

/-- The path with another last name. -/
def withFileName (path name : String) : String :=
  match fileName? path with
  | some _ => join ((parent? path).getD "") name
  | none => join path name

/-- The hidden path beside a file at which its new content is prepared. -/
def draft (fallback path : String) : String :=
  withFileName path ("." ++ (fileName? path).getD fallback ++ ".tmp")

end SignalCatalog.Path
