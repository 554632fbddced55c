/-
# The program

The command line: arguments and the log setting come in, the device directory and the device file
stand for the machine, and the text and the exit code of the run go out.  What the program does
with them is `Run.ofArguments`; here the device's answers are only gathered, each when the run asks
for it.

The line settings of the device file are the system's: it should be set to the speed of the
controller, and to let a read end when nothing arrives.
-/
import VersionProbe.Run

namespace VersionProbe.Console

/-- An error of the operating system on an open file. -/
def ioError (e : IO.Error) : IoError :=
  let kind : IoKind := match e with
    | .timeExpired _ _ => .timedOut
    | .interrupted _ _ _ => .interrupted
    | .permissionDenied _ _ _ => .permissionDenied
    | .resourceBusy _ _ => .resourceBusy
    | .resourceVanished _ _ => .brokenPipe
    | .noFileOrDirectory _ _ _ => .notFound
    | .noSuchThing _ _ _ => .notFound
    | .invalidArgument _ _ _ => .invalidInput
    | .hardwareFault _ _ => .inputOutput
    | .unsupportedOperation _ _ => .unsupported
    | .unexpectedEof => .unexpectedEof
    | _ => .other
  ⟨kind, toString e⟩

/-- An error of the operating system while a file is opened. -/
def serialError (e : IO.Error) : SerialError :=
  ⟨.io (ioError e).kind, (ioError e).text⟩

/-- Do something on a file, with its result and the time in microseconds that it took. -/
def timed {α : Type} (act : IO α) : IO (Nat × Except IoError α) := do
  let start ← IO.monoNanosNow
  let answer ← try Except.ok <$> act catch e => pure (.error (ioError e))
  let finish ← IO.monoNanosNow
  return ((finish - start) / 1000, answer)

/-- Gather the answers to the read calls of a run, one at a time, until it asks for no more. -/
partial def gatherReads (file : IO.FS.Handle) (run : Device → Run) (device : Device) : IO Run := do
  let current := run device
  match (Trace.reads current.trace).drop device.reads.length with
  | [] => return current
  | call :: _ =>
    let (took, answer) ← timed (file.read call.asked.toUSize)
    let step : ReadStep := ⟨took, answer.map fun bytes => bytes.data.toList⟩
    gatherReads file run { device with reads := device.reads ++ [step] }

/-- Write what a run writes, then gather the answers to its reads. -/
def gather (file : IO.FS.Handle) (run : Device → Run) : IO Run := do
  let frame := Trace.written (run .silent).trace
  let (took, answer) ← timed do
    file.write (ByteArray.mk frame.toArray)
    file.flush
  let step : WriteStep := ⟨took, answer.map fun _ => none⟩
  gatherReads file run { Device.silent with writes := [step] }

/-- The names in the device directory, if it can be read. -/
def directory : IO (Option (List ByteArray)) := do
  try
    let entries ← (← IO.FS.realPath "/dev").readDir
    return some (entries.toList.map fun entry => entry.fileName.toUTF8)
  catch _ =>
    return none

/-- Run the program on the machine. -/
def runOnMachine (arguments : List String) : IO Run := do
  let inventory : Inventory := ⟨.ok [], ← directory⟩
  let run (opening : Except SerialError Device) : Run :=
    Run.ofArguments arguments ⟨opening, inventory⟩
  match Trace.openings (run (.ok .silent)).trace with
  | [] => return run (.ok .silent)
  | settings :: _ =>
    try
      let file ← IO.FS.Handle.mk settings.port IO.FS.Mode.readWrite
      gather file fun device => run (.ok device)
    catch e =>
      return run (.error (serialError e))

end VersionProbe.Console

/-- Run the program, print what it says, and end with its exit code. -/
def main (arguments : List String) : IO UInt32 := do
  let filter := VersionProbe.LogFilter.ofSetting (← IO.getEnv "RUST_LOG")
  let run ← VersionProbe.Console.runOnMachine arguments
  (← IO.getStderr).putStr (run.stderr filter)
  (← IO.getStdout).putStr run.stdout
  return UInt32.ofNat run.exitCode
