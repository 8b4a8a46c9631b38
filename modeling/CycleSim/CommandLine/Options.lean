/-!
# Command-line options

The arguments of the program: a few options of its own, then arguments that are forwarded to the
run.  The first argument that is no option starts the forwarded list, and so does `--`, which is
itself dropped.  Options are read from left to right, and the first request for help or fault
decides.

An argument with one dash is read as options only if every letter after the dash is an option's;
an option that takes a value takes the rest of the letters, or else the next argument.
-/

namespace CycleSim

/-- An option of the program. -/
inductive Opt where
  | config
  | model
  | logDir
  | quiet
  | help
  | version
  deriving DecidableEq, Repr

namespace Opt

/-- The option with a one-letter name. -/
def ofLetter? : Char → Option Opt
  | 'c' => some config
  | 'm' => some model
  | 'q' => some quiet
  | 'h' => some help
  | 'V' => some version
  | _ => none

/-- The option with a long name. -/
def ofName? : String → Option Opt
  | "config" => some config
  | "model" => some model
  | "log-dir" => some logDir
  | "quiet" => some quiet
  | "help" => some help
  | "version" => some version
  | _ => none

/-- Whether the option takes a value. -/
def takesValue : Opt → Bool
  | config => true
  | model => true
  | logDir => true
  | _ => false

/-- Whether the option's value may be empty. -/
def allowsEmpty : Opt → Bool
  | model => true
  | _ => false

end Opt

/-- The options of one call of the program. -/
structure Options where
  /-- Configuration file. -/
  config : Option String := none
  /-- Model to run in place of the configured one. -/
  model : Option String := none
  /-- Log directory in place of the configured one. -/
  logDir : Option String := none
  /-- Whether the summary is left out. -/
  quiet : Bool := false
  /-- Arguments forwarded to the run. -/
  forwarded : List String := []
  deriving DecidableEq, Repr, Inhabited

/-- What a command line asks for. -/
inductive Invocation where
  | run (options : Options)
  | showHelp
  | showVersion
  /-- The command line is faulty. -/
  | misuse
  deriving DecidableEq, Repr

/-- How an argument reads before the forwarded list has begun. -/
inductive Argument where
  /-- The mark `--`. -/
  | mark
  /-- A long option, with the value behind its equals sign if there is one. -/
  | long (opt : Opt) (value : Option String)
  /-- Options by their letters. -/
  | letters (opts : List (Opt × Char))
  /-- Anything else. -/
  | plain
  deriving DecidableEq, Repr

namespace Argument

/-- Splits a long option at its first equals sign. -/
def splitEquals (chars : List Char) : String × Option String :=
  let name := chars.takeWhile (· ≠ '=')
  (String.ofList name,
    match chars.drop name.length with
    | [] => none
    | _ :: value => some (String.ofList value))

/-- Reads an argument. -/
def read (arg : String) : Argument :=
  match arg.toList with
  | ['-', '-'] => .mark
  | '-' :: '-' :: rest =>
    let (name, value) := splitEquals rest
    match Opt.ofName? name with
    | some opt => .long opt value
    | none => .plain
  | '-' :: c :: rest =>
    match (c :: rest).mapM fun c => (Opt.ofLetter? c).map (·, c) with
    | some opts => .letters opts
    | none => .plain
  | _ => .plain

end Argument

namespace Options

/-- The options with a value for one of them; `none` if it has one already or may not be empty. -/
def setValue (options : Options) (opt : Opt) (value : String) : Option Options :=
  if value.isEmpty && !opt.allowsEmpty then none
  else match opt, options with
    | .config, { config := none, .. } => some { options with config := some value }
    | .model, { model := none, .. } => some { options with model := some value }
    | .logDir, { logDir := none, .. } => some { options with logDir := some value }
    | _, _ => none

/-- The options with the summary left out; `none` if that was asked for before. -/
def setQuiet (options : Options) : Option Options :=
  if options.quiet then none else some { options with quiet := true }

end Options

namespace Invocation

/-- Where reading stands after an argument. -/
inductive Progress where
  /-- The command line is understood. -/
  | done (invocation : Invocation)
  /-- Further options may follow. -/
  | more (options : Options)
  /-- The next argument is the value of an option. -/
  | awaiting (opt : Opt) (options : Options)
  deriving DecidableEq, Repr

/-- Goes on with the options if there are any. -/
def Progress.ofOptions? : Option Options → Progress
  | some options => .more options
  | none => .done .misuse

/-- Reads options given by letters. -/
def readLetters (options : Options) : List (Opt × Char) → Progress
  | [] => .more options
  | (opt, _) :: rest =>
    match opt with
    | .help => .done .showHelp
    | .version => .done .showVersion
    | .quiet =>
      match options.setQuiet with
      | some options => readLetters options rest
      | none => .done .misuse
    | _ =>
      if rest.isEmpty then .awaiting opt options
      else .ofOptions? (options.setValue opt (String.ofList (rest.map (·.2))))

/-- Reads a long option. -/
def readLong (options : Options) (opt : Opt) (value : Option String) : Progress :=
  match opt, value with
  | .help, none => .done .showHelp
  | .version, none => .done .showVersion
  | .quiet, none => .ofOptions? options.setQuiet
  | _, none => .awaiting opt options
  | _, some value => if opt.takesValue then .ofOptions? (options.setValue opt value)
    else .done .misuse

/-- Reads the arguments that are left. -/
def readFrom (options : Options) : List String → Invocation
  | [] => .run options
  | arg :: rest =>
    let progress : Progress := match Argument.read arg with
      | .mark => .done (.run { options with forwarded := rest })
      | .long opt value => readLong options opt value
      | .letters opts => readLetters options opts
      | .plain => .done (.run { options with forwarded := arg :: rest })
    match progress, rest with
    | .done invocation, _ => invocation
    | .more options, rest => readFrom options rest
    | .awaiting _ _, [] => .misuse
    | .awaiting opt options, value :: rest =>
      match Argument.read value, options.setValue opt value with
      | .plain, some options => readFrom options rest
      | _, _ => .misuse

/-- Reads a command line. -/
def read (args : List String) : Invocation :=
  readFrom {} args

end Invocation

end CycleSim
