import CardMachine.Program
import CardMachine.Text.Decimal

/-! # The command line

The arguments are read from left to right. A flag is given by its long name, or by its letter, and
letters may be joined. A setting has a value, which is the next argument or is attached: after `=`
to a long name, and directly or after `=` to a letter, which then is the last of its group. A value
that is an argument of its own cannot start with a dash, unless it is just that. There are no other
arguments.

Nothing may be given twice, except the verbosity. The first mistake ends the reading; so does a
request for help or for the version, and then the arguments after it do not matter. -/

namespace CardMachine.Command

/-- Options without a value. -/
inductive Flag where
  | trace | json | list | check | force | verbose
  deriving DecidableEq

/-- Options with a value. -/
inductive Setting where
  | program | name | tape | preset | head | entry | halt | maxSteps | programsDir
  deriving DecidableEq

/-- What an option stands for. -/
inductive Switch where
  | flag (f : Flag)
  | setting (s : Setting)
  | help
  | version

/-- The option of a long name. -/
def Switch.ofName? : String → Option Switch
  | "trace" => some (.flag .trace)
  | "json" => some (.flag .json)
  | "list" => some (.flag .list)
  | "check" => some (.flag .check)
  | "force" => some (.flag .force)
  | "verbose" => some (.flag .verbose)
  | "program" => some (.setting .program)
  | "name" => some (.setting .name)
  | "tape" => some (.setting .tape)
  | "preset" => some (.setting .preset)
  | "head" => some (.setting .head)
  | "entry" => some (.setting .entry)
  | "halt" => some (.setting .halt)
  | "max-steps" => some (.setting .maxSteps)
  | "programs-dir" => some (.setting .programsDir)
  | "help" => some .help
  | "version" => some .version
  | _ => none

/-- The option of a letter. -/
def Switch.ofLetter? : Char → Option Switch
  | 'd' => some (.flag .trace)
  | 'l' => some (.flag .list)
  | 'v' => some (.flag .verbose)
  | 'p' => some (.setting .program)
  | 'n' => some (.setting .name)
  | 't' => some (.setting .tape)
  | 'm' => some (.setting .maxSteps)
  | 'h' => some .help
  | 'V' => some .version
  | _ => none

/-- What is asked for on the command line. -/
structure Options where
  program : Option String := none
  name : Option String := none
  tape : Option String := none
  preset : Option String := none
  head : Option UInt64 := none
  entry : Option StateId := none
  halt : Option StateId := none
  maxSteps : Option UInt64 := none
  programsDir : Option String := none
  trace : Bool := false
  json : Bool := false
  list : Bool := false
  check : Bool := false
  force : Bool := false

/-- Why the arguments give no options. -/
inductive Stop where
  | mistake
  | help
  | version
  deriving DecidableEq

/-! ### Values -/

/-- The digits of a number that may have a plus sign. -/
def unsignedDigits : List Char → List Char
  | '+' :: digits => digits
  | digits => digits

/-- A natural number. -/
def number? (s : String) : Option Nat :=
  let digits := unsignedDigits s.toList
  if !digits.isEmpty && digits.all Char.isDigit then some (Text.decimalValue digits) else none

/-- A path, which is not empty. -/
def path? (s : String) : Option String := if s.isEmpty then none else some s

/-- Puts a value where there is none. -/
def fresh? {α : Type} (old new : Option α) : Option (Option α) :=
  if old.isSome then none else new.map some

namespace Options

/-- Sets a flag, unless it is set; the verbosity may be raised again and again. -/
def raise? (o : Options) : Flag → Option Options
  | .trace => if o.trace then none else some { o with trace := true }
  | .json => if o.json then none else some { o with json := true }
  | .list => if o.list then none else some { o with list := true }
  | .check => if o.check then none else some { o with check := true }
  | .force => if o.force then none else some { o with force := true }
  | .verbose => some o

/-- Gives a setting its value, unless it has one or the value does not fit. -/
def set? (o : Options) (s : Setting) (v : String) : Option Options :=
  match s with
  | .program => (fresh? o.program (path? v)).map fun x => { o with program := x }
  | .name => (fresh? o.name (some v)).map fun x => { o with name := x }
  | .tape => (fresh? o.tape (some v)).map fun x => { o with tape := x }
  | .preset => (fresh? o.preset (some v)).map fun x => { o with preset := x }
  | .head => (fresh? o.head ((number? v).bind Text.word64?)).map fun x => { o with head := x }
  | .entry => (fresh? o.entry ((number? v).bind Text.word32?)).map fun x => { o with entry := x }
  | .halt => (fresh? o.halt ((number? v).bind Text.word32?)).map fun x => { o with halt := x }
  | .maxSteps =>
    (fresh? o.maxSteps ((number? v).bind Text.word64?)).map fun x => { o with maxSteps := x }
  | .programsDir =>
    (fresh? o.programsDir (path? v)).map fun x => { o with programsDir := x }

/-- Whether the options exclude one another. -/
def clash (o : Options) : Bool :=
  o.program.isSome && o.name.isSome || o.tape.isSome && o.preset.isSome

end Options

/-! ### Arguments -/

/-- A mistake, if there are no options. -/
def orMistake {α : Type} : Option α → Except Stop α
  | some a => .ok a
  | none => .error .mistake

/-- Reads a group of letters. A setting without an attached value is returned. -/
def readLetters : List Char → Options → Except Stop (Options × Option Setting)
  | [], o => .ok (o, none)
  | c :: rest, o =>
    match Switch.ofLetter? c with
    | none => .error .mistake
    | some .help => .error .help
    | some .version => .error .version
    | some (.flag f) =>
      match o.raise? f with
      | none => .error .mistake
      | some o' => readLetters rest o'
    | some (.setting s) =>
      match rest with
      | [] => .ok (o, some s)
      | '=' :: v => (orMistake (o.set? s (String.ofList v))).map (·, none)
      | v => (orMistake (o.set? s (String.ofList v))).map (·, none)

/-- Reads a long option, given without its dashes. A setting without an attached value is
returned. -/
def readName (s : List Char) (o : Options) : Except Stop (Options × Option Setting) :=
  let name := String.ofList (s.takeWhile (· ≠ '='))
  match Switch.ofName? name, s.dropWhile (· ≠ '=') with
  | some .help, [] => .error .help
  | some .version, [] => .error .version
  | some (.flag f), [] => (orMistake (o.raise? f)).map (·, none)
  | some (.setting s), [] => .ok (o, some s)
  | some (.setting s), _ :: v => (orMistake (o.set? s (String.ofList v))).map (·, none)
  | _, _ => .error .mistake

/-- Whether an argument can be a value. -/
def isValue (arg : String) : Bool := arg.toList.head? ≠ some '-' || arg == "-"

/-- Reads an option: a long one or a group of letters. -/
def readOption (arg : String) (o : Options) : Except Stop (Options × Option Setting) :=
  match arg.toList with
  | '-' :: '-' :: name => readName name o
  | '-' :: c :: letters => readLetters (c :: letters) o
  | _ => .error .mistake

/-- Reads arguments on top of options. -/
def readArguments : List String → Options → Except Stop Options
  | [], o => .ok o
  | arg :: args, o =>
    if arg = "--" then
      -- whatever follows would be an argument that is no option
      if args.isEmpty then .ok o else .error .mistake
    else
      match readOption arg o with
      | .error stop => .error stop
      | .ok (o', none) => readArguments args o'
      | .ok (o', some s) =>
        match args with
        | [] => .error .mistake
        | v :: args =>
          if isValue v then
            match o'.set? s v with
            | none => .error .mistake
            | some o'' => readArguments args o''
          else .error .mistake

/-- The options of a command line. -/
def Options.ofArguments (args : List String) : Except Stop Options := do
  let o ← readArguments args {}
  if o.clash then .error .mistake else .ok o

end CardMachine.Command
