/-
# Runs

A whole run of the program: what it is asked for, the exit code, and the trace, from which the text
on both output streams is read off.
-/
import VersionProbe.Arguments
import VersionProbe.Listing
import VersionProbe.LogFilter
import VersionProbe.Session

namespace VersionProbe

/-! ## Fixed texts -/

/-- The version of the program. -/
def programVersion : String := "0.1.0"

/-- The text on how the program is called. -/
def helpText : String :=
  "Query a UART-attached Bluetooth controller and print its raw reply in hex\n" ++
  "\n" ++
  "Usage: hciprobe [OPTIONS] [DEVICE]\n" ++
  "\n" ++
  "Arguments:\n" ++
  "  [DEVICE]  Serial device path, e.g. /dev/ttyACM0 or COM3\n" ++
  "\n" ++
  "Options:\n" ++
  "      --list     List available serial ports and exit\n" ++
  "      --decode   Decode the reply as an HCI Read Local Version Information result\n" ++
  "      --json     Emit port listings and decoded results as JSON\n" ++
  "  -h, --help     Print help\n" ++
  "  -V, --version  Print version\n"

/-! ## Failure reports -/

/-- A text over several lines, each further one indented. -/
def indentLines (width : Nat) (text : String) : String :=
  String.ofList (text.toList.flatMap fun c =>
    if c = '\n' then '\n' :: List.replicate width ' ' else [c])

/-- A cause among several, with its number right-aligned in five columns. -/
def numberedCause (number : Nat) (text : String) : String :=
  let digits := toString number
  String.ofList (List.replicate (5 - digits.length) ' ') ++ digits ++ ": " ++ indentLines 7 text
    ++ "\n"

/-- The causes of a failure, each on a line of its own; one alone bears no number. -/
def causeLines : List String → String
  | [cause] => "    " ++ indentLines 4 cause ++ "\n"
  | causes => String.join (causes.mapIdx numberedCause)

/-- The report on a run that failed: what was being done, and the error with its sources. -/
def failureReport (context : String) (e : ProbeError) : String :=
  "Error: " ++ context ++ "\n\nCaused by:\n" ++ causeLines (e.message :: e.sources)

/-! ## Runs -/

/-- What the program finds on a machine: the answer to an attempt to open the port, and the ports
there are. -/
structure World where
  opening : Except SerialError Device
  inventory : Inventory

/-- A run: its exit code and what it did. -/
structure Run where
  exitCode : Nat
  trace : Trace

namespace Run

/-- The text on the standard output. -/
def stdout (r : Run) : String :=
  Trace.stdout r.trace

/-- What an effect puts on the standard error, given which log entries are let through. -/
def stderrText (filter : LogFilter) : Effect → String
  | .complain text => text
  | .log entry => if filter.allows entry then entry.consoleLine else ""
  | _ => ""

/-- The text on the standard error: reports, and between them the log entries let through. -/
def stderr (filter : LogFilter) (r : Run) : String :=
  String.join (r.trace.map (stderrText filter))

/-- List the ports of a machine. -/
def list (inventory : Inventory) (json : Bool) : Run :=
  let ports := inventory.listing
  let text := if json then (portsToJson ports).pretty ++ "\n" else portLines ports
  ⟨0, .enumeration :: inventory.log.map .log ++ [.print text]⟩

/-- What is shown of a reply besides its bytes when decoding is asked for. -/
def showDecoded (json : Bool) (r : Reply) : Trace :=
  match LocalVersion.decode r.bytes with
  | .ok v => [.print ((if json then v.toJson.pretty else v.display) ++ "\n")]
  | .error e => [.complain ("decode: " ++ e.message ++ "\n")]

/-- Query the controller behind a port: open it, exchange the query for a reply, close it, and only
then show the reply. -/
def probe (device : String) (decode json : Bool) (opening : Except SerialError Device) : Run :=
  match Connection.acquire (.forPort device) opening with
  | (.error e, trace) =>
    ⟨1, trace ++ [.complain (failureReport ("failed to open " ++ device) e)]⟩
  | (.ok connection, trace) =>
    let exchanged := connection.exchange requestFrame
    let trace := trace ++ exchanged.trace ++ [.log exchanged.state.closing]
    match exchanged.result with
    | .error e =>
      ⟨1, trace ++ [.complain (failureReport ("exchange with " ++ device ++ " failed") e)]⟩
    | .ok r =>
      ⟨0, trace ++ [.log (.replied r.length), .print (r.line ++ "\n")]
        ++ if decode then showDecoded json r else []⟩

/-- Do what is asked for. -/
def ofRequest (request : Request) (world : World) : Run :=
  match request with
  | .help => ⟨0, [.print helpText]⟩
  | .version => ⟨0, [.print ("hciprobe " ++ programVersion ++ "\n")]⟩
  | .list json => list world.inventory json
  | .probe device decode json => probe device decode json world.opening

/-- Run the program with some arguments. -/
def ofArguments (arguments : List String) (world : World) : Run :=
  match Request.ofArguments arguments with
  | .error e =>
    ⟨2, [.complain ("error: " ++ e.message ++ "\n\nUsage: hciprobe [OPTIONS] [DEVICE]\n\n"
      ++ "For more information, try '--help'.\n")]⟩
  | .ok request => ofRequest request world

end Run

end VersionProbe
