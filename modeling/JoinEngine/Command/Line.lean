import JoinEngine.Report.Format

/-!
The command line: a path to a job and options, each given at most once, in any order. An option
takes its value from behind an equals sign or from the next argument, which must not look like
an option itself. Arguments behind a double dash are never options.
-/

namespace JoinEngine

structure CommandOptions where
  path : Option String := none
  format : Option ReportFormat := none
  partitions : Option Nat := none
  parallelism : Option Nat := none
  maxBuildRows : Option Nat := none
  unlimitedBuild : Bool := false
  memberId : Option Nat := none
  explain : Bool := false

inductive Command where
  | run (path : String) (options : CommandOptions)
  | version
  | help (long : Bool)
  | misuse

namespace Command

/-- The digits of an unsigned number behind an optional plus sign. -/
def unsignedDigits (text : String) : List Char :=
  match text.toList with
  | '+' :: digits => digits
  | digits => digits

def unsigned? (text : String) : Option Nat :=
  let digits := unsignedDigits text
  if digits.isEmpty || !digits.all Char.isDigit then none
  else
    let n := digits.foldl (fun n c => n * 10 + (c.toNat - 48)) 0
    if n < UInt64.size then some n else none

/-- Set an option that has not been set before. -/
def once {α : Type} (old : Option α) (new : Option α) : Option (Option α) :=
  match old, new with
  | none, some value => some (some value)
  | _, _ => none

def takesValue (name : String) : Bool :=
  ["format", "partitions", "parallelism", "max-build-rows", "member-id"].contains name

/-- Set an option that takes a value; nothing if the value does not fit or it was set before. -/
def setValue (o : CommandOptions) (name value : String) : Option CommandOptions :=
  if name = "format" then
    (once o.format (ReportFormat.names.lookup value)).map fun v => { o with format := v }
  else if name = "partitions" then
    (once o.partitions (unsigned? value)).map fun v => { o with partitions := v }
  else if name = "parallelism" then
    (once o.parallelism (unsigned? value)).map fun v => { o with parallelism := v }
  else if name = "max-build-rows" then
    (once o.maxBuildRows (unsigned? value)).map fun v => { o with maxBuildRows := v }
  else if name = "member-id" then
    (once o.memberId (unsigned? value)).map fun v => { o with memberId := v }
  else none

def setFlag (o : CommandOptions) (name : String) : Option CommandOptions :=
  if name = "unlimited-build" then
    if o.unlimitedBuild then none else some { o with unlimitedBuild := true }
  else if name = "explain" then
    if o.explain then none else some { o with explain := true }
  else none

def setPath (o : CommandOptions) (path : String) : Option CommandOptions :=
  if path.isEmpty then none
  else (once o.path (some path)).map fun v => { o with path := v }

/-- The arguments behind a double dash. -/
def parsePaths (o : CommandOptions) : List String → Option CommandOptions
  | [] => some o
  | path :: rest => do parsePaths (← setPath o path) rest

def splitLong (arg : String) : String × Option String :=
  let body := arg.toList.drop 2
  let name := body.takeWhile (· ≠ '=')
  (String.ofList name,
    match body.dropWhile (· ≠ '=') with
    | [] => none
    | _ :: value => some (String.ofList value))

/-- What the arguments ask for as they are read, before they are checked as a whole. -/
inductive Reading where
  | options (o : CommandOptions)
  | version
  | help (long : Bool)
  | misuse

def Reading.ofOption : Option CommandOptions → Reading
  | some o => .options o
  | none => .misuse

def read (o : CommandOptions) : List String → Reading
  | [] => .options o
  | arg :: rest =>
    if arg = "--" then Reading.ofOption (parsePaths o rest)
    else if "--".toList.isPrefixOf arg.toList then
      match splitLong arg with
      | (name, some value) =>
        match setValue o name value with
        | some o => read o rest
        | none => .misuse
      | (name, none) =>
        if name = "version" then .version
        else if name = "help" then .help true
        else if takesValue name then
          match rest with
          | [] => .misuse
          | value :: rest =>
            if value.toList.head? = some '-' && value ≠ "-" then .misuse
            else
              match setValue o name value with
              | some o => read o rest
              | none => .misuse
        else
          match setFlag o name with
          | some o => read o rest
          | none => .misuse
    else
      match arg.toList with
      | '-' :: 'V' :: _ => .version
      | '-' :: 'h' :: _ => .help false
      | '-' :: _ :: _ => .misuse
      | _ =>
        match setPath o arg with
        | some o => read o rest
        | none => .misuse

/-- What the arguments ask for. A limit on rows and the lack of one exclude each other. -/
def parse (args : List String) : Command :=
  match read {} args with
  | .version => .version
  | .help long => .help long
  | .misuse => .misuse
  | .options o =>
    match o.path with
    | none => .misuse
    | some path => if o.maxBuildRows.isSome && o.unlimitedBuild then .misuse else .run path o

end Command

end JoinEngine
