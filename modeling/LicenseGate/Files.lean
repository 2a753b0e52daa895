/-!
Files as a program meets them: a path leads to some bytes, or there is a reason why it does not.
-/

namespace LicenseGate

inductive ReadFault where
  | notFound
  | notADirectory
  | isADirectory
  | nameTooLong
  | nulInName
  | other (reason : String)
  deriving DecidableEq, Repr

namespace ReadFault

def message : ReadFault → String
  | .notFound => "No such file or directory (os error 2)"
  | .notADirectory => "Not a directory (os error 20)"
  | .isADirectory => "Is a directory (os error 21)"
  | .nameTooLong => "File name too long (os error 36)"
  | .nulInName => "file name contained an unexpected NUL byte"
  | .other reason => reason

end ReadFault

abbrev Files := String → Except ReadFault (List UInt8)

inductive FileTree where
  | file (bytes : List UInt8)
  | directory (entries : List (String × FileTree))

namespace FileTree

def longestName : Nat := 255

def longestPath : Nat := 4095

/-- Follows the names of a path. `around` are the directories passed, the innermost first, to which
`..` leads back; above the topmost there is nothing else. -/
def follow (around : List FileTree) (tree : FileTree) : List String → Except ReadFault FileTree
  | [] => .ok tree
  | name :: rest =>
      match tree with
      | .file _ => .error .notADirectory
      | .directory entries =>
          if name = "" ∨ name = "." then follow around tree rest
          else if name = ".." then
            match around with
            | [] => follow [] tree rest
            | parent :: around => follow around parent rest
          else if longestName < name.utf8ByteSize then .error .nameTooLong
          else match entries.lookup name with
            | some found => follow (tree :: around) found rest
            | none => .error .notFound

/-- Reads a path. One that does not start at the root starts at `home`, a list of names. -/
def read (root : FileTree) (home : List String) (path : String) : Except ReadFault (List UInt8) :=
  let start := if path.toList.head? = some '/' then [] else home
  if '\x00' ∈ path.toList then .error .nulInName
  else if longestPath < path.utf8ByteSize then .error .nameTooLong
  else if path.isEmpty then .error .notFound
  else match follow [] root (start ++ path.splitOn "/") with
    | .ok (.file bytes) => .ok bytes
    | .ok (.directory _) => .error .isADirectory
    | .error fault => .error fault

end FileTree

end LicenseGate
