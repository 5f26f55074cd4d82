/-!
# Paths

What a path names, as far as its text tells.
-/

namespace Avenger.Path

/-- The parts of a path between slashes, without those that stay where they are. -/
def parts (path : String) : List String :=
  (path.splitOn "/").filter fun part => part != "" && part != "."

/-- The name that a path ends in. -/
def fileName? (path : String) : Option String :=
  (parts path).getLast?.filter (· != "..")

/-- What stands after the last dot of the file name, unless that is its first character. -/
def extension? (path : String) : Option String :=
  match fileName? path with
  | none => none
  | some name =>
      let reversed := name.toList.reverse
      match reversed.dropWhile (· != '.') with
      | [] => none
      | [_] => none
      | _ => some (String.ofList (reversed.takeWhile (· != '.')).reverse)

/-- Where steps lead from a directory, among files that are named by their paths.  Only a
directory can be left, upwards too, and nothing is known above the first one. -/
def walk {α : Type} (files : List (String × α)) (here : List String) :
    List String → Except String (List String)
  | [] => .ok here
  | step :: rest =>
      if files.any fun file => parts file.1 == here then
        .error "Not a directory (os error 20)"
      else if step == "" || step == "." then walk files here rest
      else if step == ".." then
        if here.isEmpty then .error "No such file or directory (os error 2)"
        else walk files here.dropLast rest
      else if files.any fun file => (here ++ [step]).isPrefixOf (parts file.1) then
        walk files (here ++ [step]) rest
      else .error "No such file or directory (os error 2)"

/-- Files by their paths in one directory.  A path that names no file is refused in the
words of the system. -/
def readFrom {α : Type} (files : List (String × α)) (path : String) : Except String α :=
  if path.startsWith "/" then .error "No such file or directory (os error 2)"
  else do
    let place ← walk files [] (path.splitOn "/")
    match files.find? fun file => parts file.1 == place with
    | some file => .ok file.2
    | none => .error "Is a directory (os error 21)"

end Avenger.Path
