/-
# Arguments

What can be asked of the program, and how a list of arguments asks for it.  Arguments are read
from left to right, and the first one that settles the matter does: a request for help or for the
version, or a mistake.
-/

namespace VersionProbe

/-! ## Requests -/

/-- The options that change what the program does. -/
inductive Flag
  | list
  | decode
  | json
deriving DecidableEq

/-- What can be asked of the program. -/
inductive Request
  /-- Explain how the program is called. -/
  | help
  /-- Tell the version of the program. -/
  | version
  /-- List the serial ports. -/
  | list (json : Bool)
  /-- Query the controller behind a port, and decode its reply if that is asked for. -/
  | probe (device : String) (decode json : Bool)
deriving DecidableEq

/-- What is wrong with a list of arguments. -/
inductive UsageError
  | unknownOption (argument : String)
  | repeatedFlag (flag : Flag)
  | secondDevice (argument : String)
  | deviceWithList
  | missingDevice
deriving DecidableEq

/-- The spelling of an option. -/
def Flag.spelling : Flag → String
  | list => "--list"
  | decode => "--decode"
  | json => "--json"

/-- The mistake in words. -/
def UsageError.message : UsageError → String
  | unknownOption argument => "unexpected argument '" ++ argument ++ "' found"
  | repeatedFlag flag =>
    "the argument '" ++ flag.spelling ++ "' cannot be used multiple times"
  | secondDevice argument => "unexpected argument '" ++ argument ++ "' found"
  | deviceWithList => "the argument '--list' cannot be used with '[DEVICE]'"
  | missingDevice => "the following required arguments were not provided: <DEVICE>"

/-! ## Single arguments -/

/-- What a single argument can be. -/
inductive Word
  /-- From here on every argument is a device. -/
  | separator
  | help
  | version
  | flag (flag : Flag)
  | device (name : String)
  /-- An option that there is none of. -/
  | stray
deriving DecidableEq

/-- What an argument is.  Short options may stand in a cluster, of which the first one decides; a
lone hyphen and the empty text are devices. -/
def Word.ofArgument (argument : String) : Word :=
  match argument.toList with
  | ['-', '-'] => separator
  | '-' :: '-' :: _ =>
    match argument with
    | "--help" => help
    | "--version" => version
    | "--list" => flag .list
    | "--decode" => flag .decode
    | "--json" => flag .json
    | _ => stray
  | '-' :: 'h' :: _ => help
  | '-' :: 'V' :: _ => version
  | '-' :: _ :: _ => stray
  | _ => device argument

/-! ## Lists of arguments -/

/-- The options and the device that were read so far. -/
structure Selection where
  flags : List Flag
  device : Option String
deriving DecidableEq

namespace Selection

/-- Nothing was read yet. -/
def empty : Selection := ⟨[], none⟩

/-- Read an option, which may stand once. -/
def addFlag (s : Selection) (flag : Flag) : Except UsageError Selection :=
  if s.flags.contains flag then .error (.repeatedFlag flag)
  else .ok { s with flags := flag :: s.flags }

/-- Read a device, of which there may be one. -/
def addDevice (s : Selection) (name : String) : Except UsageError Selection :=
  match s.device with
  | none => .ok { s with device := some name }
  | some _ => .error (.secondDevice name)

/-- What a selection asks for once everything is read. -/
def request (s : Selection) : Except UsageError Request :=
  match s.flags.contains .list, s.device with
  | true, none => .ok (.list (s.flags.contains .json))
  | true, some _ => .error .deviceWithList
  | false, none => .error .missingDevice
  | false, some name =>
    .ok (.probe name (s.flags.contains .decode) (s.flags.contains .json))

end Selection

namespace Request

/-- Read arguments that are all devices. -/
def readDevices (s : Selection) : List String → Except UsageError Request
  | [] => s.request
  | argument :: rest =>
    match s.addDevice argument with
    | .error e => .error e
    | .ok s => readDevices s rest

/-- Read arguments after the ones that made a selection. -/
def readArguments (s : Selection) : List String → Except UsageError Request
  | [] => s.request
  | argument :: rest =>
    match Word.ofArgument argument with
    | .separator => readDevices s rest
    | .help => .ok .help
    | .version => .ok .version
    | .stray => .error (.unknownOption argument)
    | .flag flag =>
      match s.addFlag flag with
      | .error e => .error e
      | .ok s => readArguments s rest
    | .device name =>
      match s.addDevice name with
      | .error e => .error e
      | .ok s => readArguments s rest

/-- What a list of arguments asks for. -/
def ofArguments (arguments : List String) : Except UsageError Request :=
  readArguments .empty arguments

end Request

end VersionProbe
