import AbiBridge.Command.Basic

/-!
# Arguments

How a list of arguments is read as a command. Options may stand before, between and
after other arguments. Each may be given once, its value in the same argument or in
the next. After two dashes nothing is an option. The first thing that cannot be read
makes the list a misuse, unless help or the version was asked for before it.
-/

namespace AbiBridge

structure OptionSpec where
  name : String
  letter : Option Char := none
  takesValue : Bool := false
  /-- The value may be empty. -/
  allowsEmpty : Bool := false
  deriving DecidableEq

/-- Why the reading of arguments ends early. -/
inductive ArgumentStop where
  | misuse
  | help
  | version
  deriving DecidableEq, Repr

structure Arguments where
  options : List (String × String) := []
  words : List String := []

namespace Arguments

def has (arguments : Arguments) (name : String) : Bool :=
  (arguments.options.lookup name).isSome

/-- Add an option with its value, the empty text for one that takes none. -/
def give (arguments : Arguments) (spec : OptionSpec) (value : String) :
    Except ArgumentStop Arguments :=
  if spec.name = "help" then .error .help
  else if spec.name = "version" then .error .version
  else if arguments.has spec.name then .error .misuse
  else if spec.takesValue && !spec.allowsEmpty && value.isEmpty then .error .misuse
  else .ok { arguments with options := (spec.name, value) :: arguments.options }

/-- Add another argument, of which at most `limit` are allowed. -/
def addWord (limit : Nat) (arguments : Arguments) (word : String) :
    Except ArgumentStop Arguments :=
  if arguments.words.length < limit then
    .ok { arguments with words := arguments.words ++ [word] }
  else .error .misuse

end Arguments

inductive ArgumentEnd where
  | complete
  /-- An option whose value is the next argument. -/
  | pending (spec : OptionSpec)
  | unknown

/-- What one argument says: it is no option, or it gives options with their values. -/
inductive ArgumentForm where
  | word
  | options (given : List (OptionSpec × String)) (rest : ArgumentEnd)

def longForm (specs : List OptionSpec) (name : List Char) (value : Option (List Char)) :
    ArgumentForm :=
  match specs.find? (·.name == String.ofList name), value with
  | none, _ => .options [] .unknown
  | some spec, none =>
    if spec.takesValue then .options [] (.pending spec) else .options [(spec, "")] .complete
  | some spec, some value =>
    if spec.takesValue then .options [(spec, String.ofList value)] .complete
    else .options [] .unknown

/-- Options given by letters. The value of one that takes a value is the rest of the
argument. -/
def letterForm (specs : List OptionSpec) (given : List (OptionSpec × String)) :
    List Char → ArgumentForm
  | [] => .options given .complete
  | letter :: rest =>
    match specs.find? (·.letter == some letter) with
    | none => .options given .unknown
    | some spec =>
      if !spec.takesValue then letterForm specs (given ++ [(spec, "")]) rest
      else
        match rest with
        | [] => .options given (.pending spec)
        | '=' :: value => .options (given ++ [(spec, String.ofList value)]) .complete
        | value => .options (given ++ [(spec, String.ofList value)]) .complete

def argumentForm (specs : List OptionSpec) (argument : String) : ArgumentForm :=
  match argument.toList with
  | '-' :: '-' :: rest =>
    let name := rest.takeWhile (· != '=')
    longForm specs name ((rest.drop name.length).tail?)
  | '-' :: letter :: rest => letterForm specs [] (letter :: rest)
  | _ => .word

def isWord (argument : String) : Bool :=
  match argument.toList with
  | '-' :: _ :: _ => false
  | _ => true

namespace Arguments

def giveAll (arguments : Arguments) (options : List (OptionSpec × String)) :
    Except ArgumentStop Arguments :=
  options.foldlM (fun arguments (spec, value) => arguments.give spec value) arguments

/-- Read arguments up to the first word if that ends them, and else all of them. The
result has the arguments from that word on. -/
def read (specs : List OptionSpec) (limit : Nat) (endsAtWord : Bool) (arguments : Arguments) :
    List String → Except ArgumentStop (Arguments × List String)
  | [] => .ok (arguments, [])
  | argument :: rest =>
    if argument = "--" then do
      let arguments ← rest.foldlM (addWord limit) arguments
      return (arguments, [])
    else
      match argumentForm specs argument with
      | .word =>
        if endsAtWord then .ok (arguments, argument :: rest)
        else do read specs limit endsAtWord (← arguments.addWord limit argument) rest
      | .options given ending => do
        let arguments ← arguments.giveAll given
        match ending, rest with
        | .complete, rest => read specs limit endsAtWord arguments rest
        | .pending spec, value :: rest =>
          if isWord value then
            read specs limit endsAtWord (← arguments.give spec value) rest
          else .error .misuse
        | _, _ => .error .misuse

end Arguments

namespace Command

/-- The option that can be given anywhere; its value only matters to what is logged. -/
def logLevel : OptionSpec := { name := "log-level", takesValue := true, allowsEmpty := true }

def helpOption : OptionSpec := { name := "help", letter := some 'h' }

def commonOptions : List OptionSpec := [logLevel, helpOption]

def configOption : OptionSpec := { name := "config", letter := some 'c', takesValue := true }

def outputOption : OptionSpec := { name := "output", letter := some 'o', takesValue := true }

def defaultConfig : String := "vbind.toml"

def pathOf (arguments : Arguments) (name : String) : String :=
  (arguments.options.lookup name).getD defaultConfig

def topic? : String → Option HelpTopic
  | "generate" => some .generate
  | "gen-config" => some .genConfig
  | "check" => some .check
  | "resolve" => some .resolve
  | _ => none

/-- The options of a command and the number of words that it takes. -/
def usage : HelpTopic → List OptionSpec × Nat
  | .generate | .check => (configOption :: { name := "strict" } :: commonOptions, 0)
  | .genConfig => (outputOption :: commonOptions, 0)
  | .resolve => (configOption :: { name := "signature" } :: commonOptions, 1)
  | .program =>
    ({ name := "version", letter := some 'V' } :: commonOptions, 0)

def ofTopic (topic : HelpTopic) (arguments : Arguments) : Option Command :=
  match topic with
  | .generate => some (.generate (pathOf arguments "config") (arguments.has "strict"))
  | .check => some (.check (pathOf arguments "config") (arguments.has "strict"))
  | .genConfig => some (.genConfig (pathOf arguments "output"))
  | .resolve =>
    match arguments.words with
    | [type] =>
      some (.resolve type (arguments.has "signature") (arguments.options.lookup "config"))
    | _ => none
  | .program => none

/-- Where the reading of the arguments of a command ended early. -/
def ofStop (topic : HelpTopic) : ArgumentStop → Option Command
  | .misuse => none
  | .help => some (.help topic)
  | .version => some .version

/-- The command that the words after a request for help ask about. -/
def ofHelpWords : List String → Option Command
  | [] => some (.help .program)
  | [word] => if word = "help" then some (.help .program) else (topic? word).map .help
  | _ => none

/-- The command in a list of arguments; misuse gives none. -/
def ofArguments? (arguments : List String) : Option Command :=
  let (options, limit) := usage .program
  match Arguments.read options limit true {} arguments with
  | .error stop => ofStop .program stop
  | .ok (_, []) => none
  | .ok (_, word :: rest) =>
    if word = "help" then ofHelpWords rest
    else
      (topic? word).bind fun topic =>
        let (options, limit) := usage topic
        match Arguments.read options limit false {} rest with
        | .error stop => ofStop topic stop
        | .ok (arguments, _) => ofTopic topic arguments

end Command

end AbiBridge
