import SeriesPlot.Binary64.Numeral
import SeriesPlot.CommandLine.Help

/-!
# `SeriesPlot.CommandLine`: the program's arguments

Arguments are read from left to right. An option that takes a value gets it from
the same argument after an equals sign, or from the next argument. Options may
be given once; the files may stand anywhere between them. After `--` every
argument is a file.

A value after an equals sign is checked at once. A value in an argument of its
own, and a file, is checked only when something else follows it or the arguments
end: an unknown option is reported even if such a bad value stands right before
it. Help or the version is shown only if nothing bad stands before them.
-/

set_option autoImplicit false

namespace SeriesPlot.CommandLine

/-- Why arguments cannot be used. -/
inductive ArgumentError where
  /-- There is no such option. -/
  | unknownArgument
  /-- A value is missing, or empty where it must not be. -/
  | invalidValue
  /-- The line width is not a number. -/
  | malformedNumber
  /-- An option is given twice. -/
  | repeatedOption
  /-- An option that takes no value has one. -/
  | unexpectedValue
deriving DecidableEq, Inhabited

/-- What the user is told. -/
def ArgumentError.message : ArgumentError → String
  | unknownArgument => "unexpected argument"
  | invalidValue => "a value is required"
  | malformedNumber => "invalid float literal"
  | repeatedOption => "an option cannot be used multiple times"
  | unexpectedValue => "an option takes no value"

/-- What the arguments ask for. -/
structure Arguments where
  files : List String := []
  plotter : String := "gnuplot"
  style : String := "lines"
  lineWidth : Binary64 := 1
  echo : Bool := false
  debug : Bool := false
deriving DecidableEq

/-- What the program is to do. -/
inductive Request where
  | run (arguments : Arguments)
  | help
  | version
deriving DecidableEq

/-- An option. -/
inductive Switch where
  | plotter
  | style
  | lineWidth
  | echo
  | debug
  | help
  | version
deriving DecidableEq, Inhabited

namespace Switch

/-- The option of a long name. -/
def ofName? : String → Option Switch
  | "gnuplot" => some plotter
  | "style" => some style
  | "linewidth" => some lineWidth
  | "show" => some echo
  | "debug" => some debug
  | "help" => some help
  | "version" => some version
  | _ => none

/-- The option of a short name. -/
def ofLetter? : Char → Option Switch
  | 'h' => some help
  | 'V' => some version
  | _ => none

/-- Whether an option takes a value. -/
def takesValue : Switch → Bool
  | plotter => true
  | style => true
  | lineWidth => true
  | _ => false

end Switch

/-- What has been given but not been checked. -/
inductive Pending where
  | nothing
  | files (names : List String)
  /-- An option that takes a value, which may be yet to come. -/
  | option (switch : Switch) (value : Option String)
deriving DecidableEq, Inhabited

/-- What has been read of the arguments. -/
structure Reading where
  arguments : Arguments := {}
  /-- The options that have been used. -/
  used : List Switch := []
  pending : Pending := .nothing
  /-- Whether `--` has been read. -/
  onlyFiles : Bool := false
deriving DecidableEq

namespace Reading

/-- Uses an option, which must not have been used before. -/
def use (r : Reading) (switch : Switch) : Except ArgumentError Reading :=
  if switch ∈ r.used then .error .repeatedOption
  else .ok { r with used := switch :: r.used }

/-- Uses an option with its value. -/
def assign (r : Reading) (switch : Switch) (value : String) : Except ArgumentError Reading := do
  let r ← r.use switch
  match switch with
  | .plotter =>
    if value = "" then throw .invalidValue
    return { r with arguments := { r.arguments with plotter := value } }
  | .lineWidth =>
    match Binary64.ofText? value.toList with
    | some width => return { r with arguments := { r.arguments with lineWidth := width } }
    | none => throw .malformedNumber
  | .style => return { r with arguments := { r.arguments with style := value } }
  | _ => throw .unexpectedValue

/-- Checks and uses what is pending. -/
def settle (r : Reading) : Except ArgumentError Reading :=
  let r' := { r with pending := .nothing }
  match r.pending with
  | .nothing => .ok r'
  | .files names =>
    if "" ∈ names then .error .invalidValue
    else .ok { r' with arguments := { r.arguments with files := r.arguments.files ++ names } }
  | .option _ none => .error .invalidValue
  | .option switch (some value) => r'.assign switch value

/-- Takes an argument that is a value of the pending option, or a file. -/
def takeValue (r : Reading) (text : String) : Except ArgumentError Reading :=
  match r.pending with
  | .files names => .ok { r with pending := .files (names ++ [text]) }
  | .option switch none =>
    if r.onlyFiles then .error .invalidValue
    else .ok { r with pending := .option switch (some text) }
  | _ => do
    let r ← r.settle
    return { r with pending := .files [text] }

/-- Uses an option without a value: the reading goes on, or ends with a request. -/
def takeSwitch (r : Reading) (switch : Switch) : Except ArgumentError (Reading ⊕ Request) := do
  let r ← r.settle
  match switch with
  | .help => return .inr .help
  | .version => return .inr .version
  | .echo =>
    let r ← r.use switch
    return .inl { r with arguments := { r.arguments with echo := true } }
  | .debug =>
    let r ← r.use switch
    return .inl { r with arguments := { r.arguments with debug := true } }
  | _ => return .inl { r with pending := .option switch none }

/-- Reads a long option, with the value after its equals sign if it has one. -/
def takeLong (r : Reading) (text : List Char) : Except ArgumentError (Reading ⊕ Request) :=
  let (name, value) := match Text.cutAt? '=' text with
    | some (name, value) => (name, some (String.ofList value))
    | none => (text, none)
  match Switch.ofName? (String.ofList name), value with
  | none, _ => .error .unknownArgument
  | some switch, none => r.takeSwitch switch
  | some switch, some value =>
    if switch.takesValue then do
      let r ← r.settle
      return .inl (← r.assign switch value)
    else .error .unexpectedValue

/-- Reads the letters of short options; the first decides, as none of them lets
the reading go on. -/
def takeShort (r : Reading) (text : List Char) : Except ArgumentError (Reading ⊕ Request) :=
  match text.head?.bind Switch.ofLetter? with
  | some switch => r.takeSwitch switch
  | none => .error .unknownArgument

/-- Reads one argument. -/
def take (r : Reading) (argument : String) : Except ArgumentError (Reading ⊕ Request) :=
  if r.onlyFiles then .inl <$> r.takeValue argument
  else match argument.toList with
    | ['-', '-'] => .ok (.inl { r with onlyFiles := true })
    | ['-'] => .inl <$> r.takeValue argument
    | '-' :: '-' :: text => r.takeLong text
    | '-' :: text => r.takeShort text
    | _ => .inl <$> r.takeValue argument

/-- Reads the arguments that are left. -/
def takeAll (r : Reading) : List String → Except ArgumentError Request
  | [] => do return .run (← r.settle).arguments
  | argument :: rest => do
    match ← r.take argument with
    | .inl r => r.takeAll rest
    | .inr request => return request

end Reading

/-- What the arguments after the program's name ask for. -/
def read (arguments : List String) : Except ArgumentError Request := Reading.takeAll {} arguments

/-- The name in the path by which the program was called. -/
def calledAs (path : Option String) : String := (path.bind fileName?).getD programName

end SeriesPlot.CommandLine
