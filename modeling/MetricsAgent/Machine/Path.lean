/-!
# Paths of files

A path is text with names between slashes.  Joining and completing paths looks at their text only, so
that `..` stays as it is.
-/

namespace MetricsAgent.Path

/-- Splits text at slashes. -/
def split : List Char → List (List Char)
  | [] => [[]]
  | c :: cs =>
    if c = '/' then [] :: split cs
    else
      match split cs with
      | [] => [[c]]
      | name :: names => (c :: name) :: names

/-- The names on a path, without those that mean the directory itself. -/
def names (path : String) : List String :=
  ((split path.toList).map String.ofList).filter fun name => name != "" && name != "."

/-- Whether a path starts at the root. -/
def isAbsolute (path : String) : Bool :=
  path.toList.head? == some '/'

/-- Whether a path says that it starts from the working directory. -/
def isExplicit (path : String) : Bool :=
  (split path.toList).head? == some ['.']

/-- The names on a path after how it starts.  Slashes that are doubled or at the end do not count. -/
def parts (path : String) : List String :=
  (if isAbsolute path then ["/"] else if isExplicit path then ["."] else []) ++ names path

/-- Whether a path ends with a slash, and so can only name a directory. -/
def isOpen (path : String) : Bool :=
  path.toList.getLast? == some '/'

/-- A name within a directory.  No name at all leaves a slash at the end. -/
def join (dir name : String) : String :=
  if dir = "" || isOpen dir then dir ++ name else dir ++ "/" ++ name

/-- How an absolute path starts: exactly two slashes are kept. -/
def start (path : String) : String :=
  match path.toList with
  | ['/', '/'] => "//"
  | '/' :: '/' :: c :: _ => if c = '/' then "/" else "//"
  | _ => "/"

/-- The same path from the root, given the directory that relative paths start from.  A slash at the
end stays; the empty path names nothing. -/
def absolute? (workDir? : Option String) (path : String) : Option String :=
  if path = "" then none
  else
    (if isAbsolute path then some (start path) else workDir?).map fun dir =>
      let whole := (names path).foldl join dir
      if isOpen path then join whole "" else whole

end MetricsAgent.Path
