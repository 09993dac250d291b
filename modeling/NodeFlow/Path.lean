/-!
# Paths

How a path is written plainly, and where it leads from a working directory that holds some files.
A path is walked name by name, and only directories are walked through. Beyond the working
directory nothing is known to exist but what every system has: the directories above it, the usual
directories below the root and the empty file `/dev/null`. Main statement: a walk goes on from
where its first part ends.
-/

namespace NodeFlow

/-- Why a path leads nowhere. -/
inductive PathFault where
  /-- A directory on the way is missing. -/
  | missing
  /-- A file stands where a directory should. -/
  | notDirectory
  | nameTooLong
  deriving DecidableEq, Repr

/-- The wording of a fault. -/
def PathFault.message : PathFault → String
  | missing => "[Errno 2] No such file or directory"
  | notDirectory => "[Errno 20] Not a directory"
  | nameTooLong => "[Errno 36] File name too long"

/-- What a path leads to. -/
inductive Target where
  | file (bytes : ByteArray)
  | directory
  /-- Nothing, in a directory that exists. -/
  | vacant
  | nowhere (fault : PathFault)

/-- The files below the working directory, by the names on the way to them. -/
abbrev Files := List (List String × ByteArray)

/-- A place that a path may reach. -/
inductive Place where
  /-- Below the working directory, by the names on the way. -/
  | inside (names : List String)
  /-- Below the root, by the names on the way. -/
  | absolute (names : List String)
  /-- One of the directories above the working directory. -/
  | above
  /-- Any other place in those directories. -/
  | aside
  deriving DecidableEq, Repr

namespace Place

/-- The place of a name in a directory. -/
def child (name : String) : Place → Place
  | inside names => inside (names ++ [name])
  | absolute names => absolute (names ++ [name])
  | above | aside => aside

/-- The directory that holds the place; the root holds itself. -/
def parent : Place → Place
  | inside [] => above
  | inside names => inside names.dropLast
  | absolute names => absolute names.dropLast
  | above | aside => above

/-- The directories that every system has in its root. -/
def rootDirectories : List String :=
  ["bin", "boot", "dev", "etc", "home", "lib", "media", "mnt", "opt", "proc", "root", "run", "sbin",
    "srv", "sys", "tmp", "usr", "var"]

/-- Whether a directory stands at these names below the root of every system. -/
def isCommonDirectory : List String → Bool
  | [] => true
  | [name] => rootDirectories.contains name
  | _ => false

/-- What stands at the place. -/
def target (files : Files) : Place → Target
  | inside names =>
    match files.lookup names with
    | some bytes => .file bytes
    | none =>
      if names.isEmpty || files.any fun file => names.isPrefixOf file.1 then .directory
      else .vacant
  | absolute names =>
    if isCommonDirectory names then .directory
    else if names == ["dev", "null"] then .file .empty
    else .vacant
  | above => .directory
  | aside => .vacant

end Place

namespace Path

/-- The most bytes of one name. -/
def nameLimit : Nat := 255

/-- The most bytes of a whole path. -/
def lengthLimit : Nat := 4095

/-- The names that a path is made of. -/
def names (path : String) : List String :=
  ((path.toList.splitBy fun left right => left != '/' && right != '/').filter
    fun name => name != ['/']).map String.ofList

/-- A path in its plain form: `a//b/./c/` is `a/b/c`, and nothing is `.`. -/
def plain (path : String) : String :=
  let root :=
    if path.startsWith "//" && !path.startsWith "///" then "//"
    else if path.startsWith "/" then "/"
    else ""
  let text := root ++ "/".intercalate ((names path).filter (· != "."))
  if text.isEmpty then "." else text

/-- Goes from a place to a name in it. -/
def step (files : Files) (here : Place) (name : String) : Except PathFault Place :=
  match here.target files with
  | .directory =>
    if name == "." then .ok here
    else if name == ".." then .ok here.parent
    else if nameLimit < name.utf8ByteSize then .error .nameTooLong
    else .ok (here.child name)
  | .file _ => .error .notDirectory
  | .vacant => .error .missing
  | .nowhere fault => .error fault

/-- Goes from a place to one name after the other. -/
def walk (files : Files) (here : Place) (names : List String) : Except PathFault Place :=
  names.foldlM (step files) here

/-- The place to which a path leads. A slash at its end asks for a directory. -/
def locate (files : Files) (path : String) : Except PathFault Place :=
  if path.isEmpty then .error .missing
  else if lengthLimit < path.utf8ByteSize then .error .nameTooLong
  else
    walk files (if path.startsWith "/" then .absolute [] else .inside [])
      (names path ++ if path.endsWith "/" then ["."] else [])

/-- What a path leads to. -/
def target (files : Files) (path : String) : Target :=
  match locate files path with
  | .ok place => place.target files
  | .error fault => .nowhere fault

/-- The path of a place below the working directory. -/
def inside? (files : Files) (path : String) : Option String :=
  match locate files path with
  | .ok (.inside names) => some ("/".intercalate names)
  | _ => none

theorem walk_append (files : Files) (here : Place) (first second : List String) :
    walk files here (first ++ second) = (do walk files (← walk files here first) second) :=
  List.foldlM_append

/-- Nothing lies beyond a place that is vacant. -/
theorem step_of_vacant {files : Files} {here : Place} (h : here.target files = .vacant)
    (name : String) : step files here name = .error .missing := by
  simp [step, h]

/-- Nothing lies beyond a file. -/
theorem step_of_file {files : Files} {here : Place} {bytes : ByteArray}
    (h : here.target files = .file bytes) (name : String) :
    step files here name = .error .notDirectory := by
  simp [step, h]

example : plain "a//b/./c/" = "a/b/c" := by decide +kernel
example : plain "///a" = "/a" ∧ plain "//a" = "//a" ∧ plain "./" = "." := by decide +kernel
example : inside? [(["a", "b"], .empty)] "a/../a/./b" = some "a/b" := by decide +kernel
example : inside? [(["a"], .empty)] "a/." = none ∧ inside? [(["a"], .empty)] "../a" = none := by
  decide +kernel

end Path

end NodeFlow
