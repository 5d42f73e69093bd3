import BootRom.Command.Tool

/-!
# The program

The thin layer around `Command.run`: it fetches the surroundings, has the run
worked out for a standard output that takes everything, and hands the output
over. Should standard output refuse it, the run is worked out again for that
refusal, so that the answer is always the one that belongs to the device.
-/

namespace BootRom.Program

/-- A fault as the system reports it. -/
def faultOf : IO.Error → IoFault
  | .noFileOrDirectory _ code details => .system code.toNat details
  | .permissionDenied _ code details => .system code.toNat details
  | .inappropriateType _ code details => .system code.toNat details
  | .resourceExhausted _ code details => .system code.toNat details
  | .resourceVanished code details => .system code.toNat details
  | .unsupportedOperation code details => .system code.toNat details
  | .otherError code details => .system code.toNat details
  | e => .described .other e.toString

/-- What a file holds, or why it cannot be read. -/
def contentsOf (path : String) : IO (Except IoFault Memory.Node) := do
  try
    let file ← IO.FS.Handle.mk path .read
    return .ok (.file (← file.readBinToEnd))
  catch e =>
    return .error (faultOf e)

/-- Why physical memory cannot be used: its device may not be opened, and it cannot be mapped. -/
def memoryFault : IO IoFault := do
  try
    let _ ← IO.FS.Handle.mk Command.memoryDevice .read
    return .system 95 "Operation not supported"
  catch e =>
    return faultOf e

/-- The files that a command line can lead to. -/
def filesFor (line : List String) : IO Memory.Files := do
  match Command.Options.parse line with
  | .error _ => return fun _ => .error .noSuchFile
  | .ok options =>
    let found ← match options.rom with
      | some path => contentsOf path
      | none => Except.error <$> memoryFault
    return fun _ => found

/-- Hand output over, and say what refused it. -/
def handOver (output : Bytes) : IO (Option IoFault) := do
  if output.isEmpty then return none
  let out ← IO.getStdout
  try
    out.write (ByteArray.mk output.toArray)
    out.flush
    return none
  catch e =>
    return some (faultOf e)

end BootRom.Program

open BootRom Program in
/-- The program. -/
def main (line : List String) : IO UInt32 := do
  let files ← filesFor line
  let filter ← IO.getEnv "RUST_LOG"
  let planned := Command.run ⟨files, filter, .working⟩ line
  let ending ← match ← handOver planned.output with
    | none => pure planned
    | some fault => pure (Command.run ⟨files, filter, .refusing fault⟩ line)
  (← IO.getStderr).putStr ending.diagnostics
  return ending.exitCode.toUInt32
