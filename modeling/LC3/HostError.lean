/-! A failure of the host: of a console, a terminal or a file. Only its kind and its text matter. -/

namespace LC3

namespace HostError

inductive Kind where
  | brokenPipe
  | unexpectedEof
  | permissionDenied
  | interrupted
  | wouldBlock
  | timedOut
  | notFound
  | isADirectory
  | notADirectory
  | invalidFilename
  | other
deriving DecidableEq

end HostError

structure HostError where
  kind : HostError.Kind
  message : String
deriving DecidableEq

end LC3
