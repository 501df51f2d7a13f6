import LC3.HostError
import LC3.Word

/-! A directory of files, and what reading a path in it gives: the bytes of a file, or the host's
words for why there are none. -/

namespace LC3

structure Directory where
  files : List (String × List Byte)

namespace Directory

def notFound : HostError := ⟨.notFound, "No such file or directory (os error 2)"⟩

def notADirectory : HostError := ⟨.notADirectory, "Not a directory (os error 20)"⟩

def isADirectory : HostError := ⟨.isADirectory, "Is a directory (os error 21)"⟩

def nameTooLong : HostError := ⟨.invalidFilename, "File name too long (os error 36)"⟩

/-- No name in a path may have more bytes than this. -/
def longestName : Nat := 255

/-- No path may have more bytes than this. -/
def longestPath : Nat := 4095

/-- Follows the names of a path. Nothing is known outside the directory. -/
def follow (dir : Directory) (inside : Bool) : List String → Except HostError (List Byte)
  | [] => .error isADirectory
  | name :: rest =>
    if name = "" ∨ name = "." then dir.follow inside rest
    else if name = ".." then dir.follow false rest
    else if longestName < name.utf8ByteSize then .error nameTooLong
    else
      match if inside then dir.files.lookup name else none with
      | none => .error notFound
      | some bytes => if rest = [] then .ok bytes else .error notADirectory

def read (dir : Directory) (path : String) : Except HostError (List Byte) :=
  if path = "" then .error notFound
  else if longestPath < path.utf8ByteSize then .error nameTooLong
  else dir.follow (!path.startsWith "/") (path.splitOn "/")

end Directory

end LC3
