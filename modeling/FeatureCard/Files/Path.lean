/-!
# Paths

A path is a list of parts with slashes between them. It is absolute if it begins with a slash.
-/

namespace FeatureCard.Files

def parts (path : String) : List String := (path.toList.splitOn '/').map String.ofList

def isAbsolute (path : String) : Bool := path.toList.head? = some '/'

/-- A part that leads nowhere. -/
def isIdle (part : String) : Bool := part = "" || part = "."

/-- The path of the directory that holds what `path` names. Idle parts at its end are dropped, but
not a first part: it tells an absolute path from a relative one. -/
def directoryOf (path : String) : String :=
  match (parts path).dropLast with
  | [] => ""
  | first :: rest =>
    match (rest.reverse.dropWhile isIdle).reverse with
    | [] => if first = "" then "/" else first
    | rest => "/".intercalate (first :: rest)

/-- The path that leads to `path` from the directory `base`. Nothing is simplified. -/
def join (base path : String) : String :=
  if isAbsolute path || base = "" || base.toList.getLast? = some '/' then
    (if isAbsolute path then "" else base) ++ path
  else base ++ "/" ++ path

end FeatureCard.Files
