import PolicyGate.CommandLine.Options

/-!
Reading arguments from left to right.

The value of an option may be the next argument, so an option stays open until something that is
no value of it follows. Its own faults come up when it is closed; an argument that means nothing
is refused before the open option is looked at.
-/

namespace PolicyGate.CommandLine

structure Reading where
  repoRoot : Option String := none
  eventPath : Option String := none
  config : Option String := none
  verbose : Bool := false
  pending : Option (Setting × Option String) := none

namespace Reading

def value? (reading : Reading) : Setting → Option String
  | .repoRoot => reading.repoRoot
  | .eventPath => reading.eventPath
  | .config => reading.config

def assign (reading : Reading) (value : String) : Setting → Reading
  | .repoRoot => { reading with repoRoot := some value }
  | .eventPath => { reading with eventPath := some value }
  | .config => { reading with config := some value }

def accept (reading : Reading) (setting : Setting) (value : String) : Except Request Reading :=
  if (reading.value? setting).isSome then .error (.refuse (.repeatedSetting setting))
  else if value = "" then .error (.refuse (.missingValue setting))
  else .ok (reading.assign value setting)

def close (reading : Reading) : Except Request Reading :=
  match reading.pending with
  | none => .ok reading
  | some (setting, none) => .error (.refuse (.missingValue setting))
  | some (setting, some value) => { reading with pending := none }.accept setting value

def turnOn (reading : Reading) (switch : Switch) : Except Request Reading := do
  let reading ← reading.close
  match switch with
  | .help => .error .help
  | .version => .error .version
  | .verbose =>
    if reading.verbose then .error (.refuse (.repeatedSwitch switch))
    else .ok { reading with verbose := true }

def readLong (reading : Reading) (name : String) (attached : Option String) :
    Except Request Reading :=
  match Setting.named? name, Switch.named? name, attached with
  | some setting, _, some value => do (← reading.close).accept setting value
  | some setting, _, none => do
    let reading ← reading.close
    .ok { reading with pending := some (setting, none) }
  | none, some switch, some value => .error (.refuse (.unexpectedValue value switch))
  | none, some switch, none => reading.turnOn switch
  | none, none, _ => .error (.refuse (.unexpectedArgument ("--" ++ name)))

def readLetters (reading : Reading) : List Char → Except Request Reading
  | [] => .ok reading
  | letter :: rest =>
    match Switch.lettered? letter with
    | some switch => do (← reading.turnOn switch).readLetters rest
    | none => .error (.refuse (.unexpectedArgument (.ofList ['-', letter])))

/-- An argument that is no option must be the value of the open one. -/
def readPlain (reading : Reading) (argument : String) : Except Request Reading :=
  match reading.pending with
  | some (setting, none) => .ok { reading with pending := some (setting, some argument) }
  | _ => .error (.refuse (.unexpectedArgument argument))

def splitAttached (text : List Char) : String × Option String :=
  let name := text.takeWhile (· ≠ '=')
  match text.drop name.length with
  | [] => (.ofList name, none)
  | _ :: value => (.ofList name, some (.ofList value))

def readAll (reading : Reading) : List String → Except Request Reading
  | [] => reading.close
  | argument :: rest =>
    match argument.toList with
    | ['-', '-'] =>
      match rest with
      | [] => reading.close
      | extra :: _ => .error (.refuse (.unexpectedArgument extra))
    | '-' :: '-' :: text => do
      let (name, attached) := splitAttached text
      (← reading.readLong name attached).readAll rest
    | '-' :: letter :: letters => do
      (← reading.readLetters (letter :: letters)).readAll rest
    | _ => do (← reading.readPlain argument).readAll rest

end Reading

def Request.ofArguments (arguments : List String) (eventVariable : Option String) : Request :=
  let request : Except Request Request := do
    let reading ← ({} : Reading).readAll arguments
    let reading ← match reading.eventPath, eventVariable with
      | none, some path => reading.accept .eventPath path
      | _, _ => .ok reading
    .ok (.run {
      repoRoot := reading.repoRoot.getD "."
      eventPath := reading.eventPath
      config := reading.config
      verbose := reading.verbose })
  match request with
  | .ok request => request
  | .error request => request

end PolicyGate.CommandLine
