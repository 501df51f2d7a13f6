import LC3.Cli.Session
import LC3.Directory

/-! The program itself: reads the image and standard input, calls `invoke` and writes what it gives.
Standard input is read to its end before the run, like a pipe. -/

namespace LC3.Program

-- A bad path is refused when it is opened and the error then names it; a directory opens, and is
-- refused when it is read.
def hostError : IO.Error → HostError
  | .noFileOrDirectory .. => Directory.notFound
  | .inappropriateType (some _) .. => Directory.notADirectory
  | .inappropriateType none .. => Directory.isADirectory
  | .invalidArgument (some _) .. => Directory.nameTooLong
  | .permissionDenied .. => ⟨.permissionDenied, "Permission denied (os error 13)"⟩
  | error => ⟨.other, toString error⟩

def readFile (path : String) : IO (Except HostError (List Byte)) := do
  try
    let bytes ← IO.FS.readBinFile path
    pure (.ok bytes.toList)
  catch error => pure (.error (hostError error))

partial def readAll (input : IO.FS.Stream) (done : ByteArray) : IO ByteArray := do
  let more ← input.read 65536
  if more.isEmpty then pure done else readAll input (done ++ more)

/-- What the request needs of the host: a file to run, and then its input. -/
def gather (request : Request) : IO (Except HostError (List Byte) × List Byte) := do
  match request with
  | .run options =>
    match ← readFile options.path with
    | .ok image =>
      let input ← readAll (← IO.getStdin) ByteArray.empty
      pure (.ok image, input.toList)
    | .error error => pure (.error error, [])
  | _ => pure (.error Directory.notFound, [])

/-- No run on any machine is this long. -/
def fuel : Nat := 1 <<< 62

end LC3.Program

open LC3 in
def main (arguments : List String) : IO UInt32 := do
  let (image, input) ← Program.gather (Request.ofArguments arguments)
  let stdout ← IO.getStdout
  let style := if ← stdout.isTty then Style.colored else Style.plain
  let host : Host := ⟨fun _ => image, .pipe [.bytes input], ← IO.getEnv "RUST_LOG", style⟩
  let call := invoke Program.fuel host arguments
  stdout.write ⟨call.stdout.toArray⟩
  stdout.flush
  IO.eprint call.stderr
  pure (call.status.getD Session.faulted)
