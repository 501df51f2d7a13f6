import LC3.Console.Buffered
import LC3.Console.Faulty
import LC3.Console.Recorded
import LC3.Main
import LC3.Proofs.Faults
import LC3.Proofs.InPlace
import LC3.Proofs.InstructionSet
import LC3.Proofs.Legal
import LC3.Proofs.Run
import LC3.Proofs.Step
import LC3.Text.Printable
import LC3.Proofs.Strings
import LC3.Proofs.Invariant
import LC3.Proofs.DeviceCells
import LC3.Proofs.History
import LC3.Proofs.Inbox
import LC3.Proofs.TerminalHistory
import LC3.Proofs.Ending
import LC3.Proofs.Interruption
import LC3.Proofs.Pipe
import LC3.Proofs.Accesses
import LC3.Proofs.ImageFile
import LC3.Proofs.Lockstep
import LC3.Proofs.PipeLockstep
import LC3.Proofs.TerminalLockstep
import LC3.Proofs.Condition
import LC3.Proofs.HiddenCells
import LC3.Proofs.LongerInput
import LC3.Proofs.Routes
import LC3.Proofs.Intake
import LC3.Proofs.Flushing
import LC3.Proofs.Printing
import LC3.Proofs.CommandLine
import LC3.Proofs.Deeds
import LC3.Proofs.Readiness
import LC3.Proofs.LineFeeds
import LC3.Proofs.Packing
import LC3.Proofs.ReturnLink
import LC3.Proofs.Encoding
import LC3.Proofs.SignExtension
