import LangServer.Text.Numeral
import LangServer.Text.Units

/-!
# Command-Line Arguments

What the server can be told when it is started. A switch stands alone; an option takes a value,
either after an equals sign or as the next argument, which then must not start with a hyphen
unless it is a single one. Switches and options may be given once.

Arguments are read from left to right. An option whose value is a separate argument is settled
only when the next switch or option comes, or at the end; so an argument that means nothing is
found before a bad value that stands in front of it.

## Main definitions

* `Invocation.ofArguments`: what a list of arguments asks for.
-/

namespace LangServer

/-! ### Switches and options -/

/-- An argument that stands alone. -/
inductive Switch where
  | tcp
  | verbose
  | help
  | version
  deriving DecidableEq, Repr

namespace Switch

/-- How a switch is written. -/
def usage : Switch → String
  | .tcp => "--tcp"
  | .verbose => "--verbose"
  | .help => "--help"
  | .version => "--version"

/-- The switch of a name. -/
def ofName? : String → Option Switch
  | "tcp" => some .tcp
  | "verbose" => some .verbose
  | "help" => some .help
  | "version" => some .version
  | _ => none

/-- The switch of a letter. -/
def ofLetter? : Char → Option Switch
  | 'v' => some .verbose
  | 'h' => some .help
  | 'V' => some .version
  | _ => none

end Switch

/-- An argument that takes a value. -/
inductive Parameter where
  | port
  | host
  | config
  deriving DecidableEq, Repr

namespace Parameter

/-- How an option is written. -/
def usage : Parameter → String
  | .port => "--port <PORT>"
  | .host => "--host <HOST>"
  | .config => "--config <CONFIG>"

/-- The option of a name. -/
def ofName? : String → Option Parameter
  | "port" => some .port
  | "host" => some .host
  | "config" => some .config
  | _ => none

end Parameter

/-! ### Ports -/

/-- Why a text is no port. -/
inductive PortFault where
  | empty
  | notDigit
  /-- The number does not fit a signed word of 64 bits. -/
  | tooLarge
  /-- The negative number does not fit a signed word of 64 bits. -/
  | tooSmall
  | outOfRange (n : Int)
  deriving DecidableEq, Repr

/-- The wording of a fault. -/
def PortFault.message : PortFault → String
  | .empty => "cannot parse integer from empty string"
  | .notDigit => "invalid digit found in string"
  | .tooLarge => "number too large to fit in target type"
  | .tooSmall => "number too small to fit in target type"
  | .outOfRange n => toString n ++ " is not in 0..=65535"

/-- Reads digits after a number that is known to be smaller than `limit`, up to a number that is
not; `fault` is what that is called. -/
def readDigits (limit : Nat) (fault : PortFault) (n : Nat) : Text → Except PortFault Nat
  | [] => .ok n
  | c :: cs =>
    if c.isDigit then
      let next := n * 10 + (c.toNat - '0'.toNat)
      if next < limit then readDigits limit fault next cs else .error fault
    else .error .notDigit

/-- Reads a whole number with or without a sign. -/
def readInteger : Text → Except PortFault Int
  | [] => .error .empty
  | ['+'] => .error .notDigit
  | ['-'] => .error .notDigit
  | '+' :: cs => (readDigits (Nat.pow 2 63) .tooLarge 0 cs).map Int.ofNat
  | '-' :: cs => (readDigits (Nat.pow 2 63 + 1) .tooSmall 0 cs).map fun n => -Int.ofNat n
  | cs => (readDigits (Nat.pow 2 63) .tooLarge 0 cs).map Int.ofNat

/-- Reads a port. -/
def readPort (t : Text) : Except PortFault Nat := do
  let n ← readInteger t
  if 0 ≤ n ∧ n ≤ 65535 then .ok n.toNat else .error (.outOfRange n)

/-! ### Errors -/

/-- Why arguments are refused. -/
inductive ArgumentError where
  | unexpected (argument : String)
  | surplusValue (switch : Switch) (value : String)
  | missingValue (parameter : Parameter)
  | repeatedSwitch (switch : Switch)
  | repeatedParameter (parameter : Parameter)
  | badPort (value : String) (fault : PortFault)
  deriving DecidableEq, Repr

/-- The wording of an error. -/
def ArgumentError.message : ArgumentError → String
  | .unexpected argument => "unexpected argument '" ++ argument ++ "' found"
  | .surplusValue switch value =>
    "unexpected value '" ++ value ++ "' for '" ++ switch.usage ++
      "' found; no more were expected"
  | .missingValue parameter =>
    "a value is required for '" ++ parameter.usage ++ "' but none was supplied"
  | .repeatedSwitch switch => "the argument '" ++ switch.usage ++ "' cannot be used multiple times"
  | .repeatedParameter parameter =>
    "the argument '" ++ parameter.usage ++ "' cannot be used multiple times"
  | .badPort value fault =>
    "invalid value '" ++ value ++ "' for '" ++ Parameter.port.usage ++ "': " ++ fault.message

/-! ### Reading -/

/-- Why reading ends early. -/
inductive Ending where
  | help
  | version
  | wrong (e : ArgumentError)
  deriving DecidableEq, Repr

/-- Checks the value of an option: a port is a number in its range, and the settings file has a
name. -/
def Parameter.check (p : Parameter) (value : String) : Except ArgumentError Unit :=
  match p with
  | .port =>
    match readPort value.toList with
    | .ok _ => .ok ()
    | .error fault => .error (.badPort value fault)
  | .config => if value.isEmpty then .error (.missingValue .config) else .ok ()
  | .host => .ok ()

/-- What has been read. -/
structure Progress where
  switches : List Switch := []
  /-- The options that are settled, with their values. -/
  values : List (Parameter × String) := []
  /-- The option that is not settled, with the value that it got, if it got one. -/
  pending : Option (Parameter × Option String) := none

namespace Progress

/-- Settles an option with a value. -/
def give (p : Progress) (q : Parameter) (value : String) : Except Ending Progress :=
  if (p.values.lookup q).isSome then .error (.wrong (.repeatedParameter q))
  else match q.check value with
    | .ok _ => .ok { p with values := (q, value) :: p.values }
    | .error e => .error (.wrong e)

/-- Settles the option that is not settled. -/
def settle (p : Progress) : Except Ending Progress :=
  match p.pending with
  | none => .ok p
  | some (q, none) => .error (.wrong (.missingValue q))
  | some (q, some value) => { p with pending := none }.give q value

/-- Takes a switch. -/
def switch (p : Progress) (s : Switch) : Except Ending Progress := do
  let p ← p.settle
  match s with
  | .help => .error .help
  | .version => .error .version
  | s =>
    if s ∈ p.switches then .error (.wrong (.repeatedSwitch s))
    else .ok { p with switches := s :: p.switches }

/-- Takes switches that are given by their letters. -/
def letters (p : Progress) : Text → Except Ending Progress
  | [] => .ok p
  | c :: cs =>
    match Switch.ofLetter? c with
    | none => .error (.wrong (.unexpected (String.ofList ['-', c])))
    | some s => do (← p.switch s).letters cs

/-- Takes a switch or an option by its name. -/
def named (p : Progress) (name : String) (value : Option String) : Except Ending Progress :=
  match Switch.ofName? name, Parameter.ofName? name, value with
  | some s, _, none => p.switch s
  | some s, _, some v => .error (.wrong (.surplusValue s v))
  | none, some q, none => do return { ← p.settle with pending := some (q, none) }
  | none, some q, some v => do (← p.settle).give q v
  | none, none, _ => .error (.wrong (.unexpected ("--" ++ name)))

/-- Takes an argument that is no switch and no option: the value that an option waits for. -/
def word (p : Progress) (value : String) : Except Ending Progress :=
  match p.pending with
  | some (q, none) => .ok { p with pending := some (q, some value) }
  | _ => .error (.wrong (.unexpected value))

/-- What follows an equals sign, if there is one. -/
def attached : Text → Option String
  | [] => none
  | c :: cs => if c = '=' then some (String.ofList cs) else attached cs

/-- Takes an argument. -/
def take (p : Progress) (argument : String) : Except Ending Progress :=
  match argument.toList with
  | '-' :: '-' :: rest => p.named (String.ofList (rest.takeWhile (· ≠ '='))) (attached rest)
  | '-' :: c :: cs => p.letters (c :: cs)
  | _ => p.word argument

/-- Takes all arguments. After two hyphens alone there may be nothing more. -/
def takeAll (p : Progress) : List String → Except Ending Progress
  | [] => p.settle
  | argument :: rest =>
    if argument = "--" then
      match rest with
      | [] => p.settle
      | surplus :: _ => .error (.wrong (.unexpected surplus))
    else do (← p.take argument).takeAll rest

end Progress

/-! ### What is asked for -/

/-- How the server is to be started. -/
structure Arguments where
  tcp : Bool
  verbose : Bool
  port : Nat
  host : String
  config : Option String
  deriving DecidableEq, Repr

/-- What is shown as the version. -/
def versionLine : String := "buglang-lsp 0.1.0"

/-- The port when none is given. -/
def defaultPort : Nat := 9257

/-- The address when none is given. -/
def defaultHost : String := "127.0.0.1"

/-- What the arguments ask for: to serve, or no more than that something is shown. -/
inductive Invocation where
  | ended (ending : Ending)
  | serve (arguments : Arguments)

/-- The arguments that have been read. -/
def Progress.arguments (p : Progress) (config : Option String) : Arguments where
  tcp := .tcp ∈ p.switches
  verbose := .verbose ∈ p.switches
  port := match (p.values.lookup .port).map fun v => readPort v.toList with
    | some (.ok n) => n
    | _ => defaultPort
  host := (p.values.lookup .host).getD defaultHost
  config := config

/-- The settings file: the one that the arguments name, or else the one that the environment
names, which must have a name. -/
def Progress.configFile (p : Progress) (fallback : Option String) :
    Except ArgumentError (Option String) :=
  match p.values.lookup .config, fallback with
  | some file, _ => .ok (some file)
  | none, none => .ok none
  | none, some file => (Parameter.config.check file).map fun _ => some file

/-- What some arguments ask for, with the settings file that the environment names. -/
def Invocation.ofArguments (arguments : List String) (fallback : Option String) : Invocation :=
  match ({} : Progress).takeAll arguments with
  | .error ending => .ended ending
  | .ok p =>
    match p.configFile fallback with
    | .error e => .ended (.wrong e)
    | .ok config => .serve (p.arguments config)

end LangServer
