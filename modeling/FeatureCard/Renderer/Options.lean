import FeatureCard.Decimal.Reading

/-!
# Command-line options

Arguments are read from left to right. An option with a value takes it after an equals sign, or
else from the next argument, whatever that looks like. A complaint leaves the options as they are,
but asks for help.
-/

namespace FeatureCard.Renderer

inductive ValueOption where
  | config
  | rom
  | rate
  | seconds
  | midi
  | out
  deriving DecidableEq, Repr

namespace ValueOption

def all : List ValueOption := [config, rom, rate, seconds, midi, out]

def flag : ValueOption → String
  | config => "--config"
  | rom => "--rom"
  | rate => "--rate"
  | seconds => "--seconds"
  | midi => "--midi"
  | out => "--out"

def ofFlag? (flag : String) : Option ValueOption := all.find? fun o => o.flag = flag

end ValueOption

structure Options where
  config : Option String := none
  rom : Option String := none
  rate : Option UInt32 := none
  seconds : Float := 5.0
  midi : Option String := none
  out : String := "imfc.wav"
  help : Bool := false

inductive Complaint where
  | missingValue (flag : String)
  | unknownFlag (argument : String)
  | unexpected (argument : String)
  | badRate (value : String)
  | badDuration (value : String)
  deriving DecidableEq, Repr

def Complaint.message : Complaint → String
  | missingValue flag => s!"{flag} requires an argument"
  | unknownFlag argument => s!"Unknown flag: {argument}"
  | unexpected argument => s!"Unexpected argument: {argument}"
  | badRate value => s!"Invalid sample rate: {value}"
  | badDuration value => s!"Invalid duration: {value}"

/-! ## Arguments -/

inductive Argument where
  | help
  | option (o : ValueOption) (value : Option String)
  | unknown
  | positional
  deriving DecidableEq, Repr

/-- The flag and the value of an argument. Only long flags have a value. -/
def splitValue (argument : String) : String × Option String :=
  let cs := argument.toList
  match cs.dropWhile (· ≠ '=') with
  | [] => (argument, none)
  | _ :: value =>
    if ['-', '-'].isPrefixOf (cs.takeWhile (· ≠ '=')) then
      (String.ofList (cs.takeWhile (· ≠ '=')), some (String.ofList value))
    else (argument, none)

def Argument.ofString (argument : String) : Argument :=
  let (flag, value) := splitValue argument
  if flag = "--help" ∨ flag = "-h" then .help
  else
    match ValueOption.ofFlag? flag with
    | some o => .option o value
    | none => if flag.toList.head? = some '-' then .unknown else .positional

namespace Options

/-- The options with one of them set. A value that is not acceptable sets nothing. -/
def set (p : Options) (o : ValueOption) (value : String) : Except Complaint Options :=
  match o with
  | .config => .ok { p with config := some value }
  | .rom => .ok { p with rom := some value }
  | .midi => .ok { p with midi := some value }
  | .out => .ok { p with out := value }
  | .rate =>
    match Text.word32? value.toList with
    | some rate => .ok { p with rate := some rate }
    | none => .error (.badRate value)
  | .seconds =>
    match Decimal.positive? value.toList with
    | some seconds => .ok { p with seconds }
    | none => .error (.badDuration value)

def wantHelp (p : Options) : Options := { p with help := true }

end Options

structure Parsed where
  options : Options := {}
  complaints : List Complaint := []

namespace Parsed

def complain (p : Parsed) (c : Complaint) : Parsed where
  options := p.options.wantHelp
  complaints := p.complaints ++ [c]

def set (p : Parsed) (o : ValueOption) (value : String) : Parsed :=
  match p.options.set o value with
  | .ok options => { p with options }
  | .error c => p.complain c

def read (p : Parsed) : List String → Parsed
  | [] => p
  | argument :: rest =>
    match Argument.ofString argument with
    | .help => read { p with options := p.options.wantHelp } rest
    | .unknown => read (p.complain (.unknownFlag argument)) rest
    | .positional => read (p.complain (.unexpected argument)) rest
    | .option o (some value) => read (p.set o value) rest
    | .option o none =>
      match rest with
      | [] => p.complain (.missingValue o.flag)
      | value :: rest => read (p.set o value) rest

end Parsed

def parse (arguments : List String) : Parsed := Parsed.read {} arguments

/-! ## Help -/

def helpLines : List String :=
  ["Usage:",
    "  imfc-render [options]",
    "",
    "Options:",
    "  --config <file.json>  Card configuration (base_port, irq, sample_rate, firmware)",
    "  --rom <file>          IMFC firmware ROM image (32 KiB)",
    "  --rate <hz>           Output sample rate (minimum 8000, default 44100)",
    "  --seconds <s>         Length to render (default 5)",
    "  --midi <file>         Raw MIDI bytes to stream into the card",
    "  --out <file.wav>      Output file (default imfc.wav)",
    "  -h, --help            Show this help",
    "",
    "Logging:",
    "  RUST_LOG=imfc=debug   Show unmapped port accesses",
    "  RUST_LOG=imfc=trace   Show every port access",
    ""]

end FeatureCard.Renderer
