import TableStore.Settings

/-!
# Arguments

The words of a command line, read from left to right.  A flag takes the word behind it as its
value, whatever that word is; a flag in last place has no value.  Words that are neither flags nor
values mean nothing.
-/

namespace TableStore

/-- A flag, which changes the settings. -/
inductive Flag
  /-- The file that the settings are loaded from. -/
  | config
  /-- Where the coordinator listens. -/
  | bind
  | dataDir
  | transport
  deriving DecidableEq, Repr

namespace Flag

/-- The word for a flag. -/
def word : Flag → String
  | config => "--config"
  | bind => "--bind"
  | dataDir => "--data-dir"
  | transport => "--transport"

/-- The flag that a word is. -/
def ofWord? : String → Option Flag
  | "--config" => some config
  | "--bind" => some bind
  | "--data-dir" => some dataDir
  | "--transport" => some transport
  | _ => none

@[simp] theorem ofWord?_word (flag : Flag) : ofWord? flag.word = some flag := by
  cases flag <;> rfl

end Flag

/-- What one or two words of a command line mean. -/
inductive Argument
  | option (flag : Flag) (value : String)
  /-- A flag in last place. -/
  | bare (flag : Flag)
  | unknown (word : String)
  deriving DecidableEq, Repr

namespace Argument

/-- The arguments that words make. -/
def ofWords : List String → List Argument
  | [] => []
  | [word] =>
    match Flag.ofWord? word with
    | some flag => [bare flag]
    | none => [unknown word]
  | word :: value :: rest =>
    match Flag.ofWord? word with
    | some flag => option flag value :: ofWords rest
    | none => unknown word :: ofWords (value :: rest)

/-- Why the arguments cannot be obeyed. -/
inductive Fault
  | missingValue (flag : Flag)
  /-- No settings could be loaded from a file. -/
  | notLoaded (path : String) (cause : SettingsError)
  | notAnAddress (text : String)
  | unknownTransport (text : String)
  deriving DecidableEq, Repr

/-- The text of a fault. -/
def Fault.message : Fault → String
  | missingValue flag => flag.word ++ " needs a value"
  | notLoaded path _ => "Failed to load config from " ++ path
  | notAnAddress _ => "invalid socket address syntax"
  | unknownTransport text => Transport.unknownMessage text

/-- The settings after an argument.  The file of settings has been loaded before. -/
def apply (settings : Settings) : Argument → Except Fault Settings
  | option .config _ => .ok settings
  | option .bind value =>
    match SocketAddress.ofText? value with
    | none => .error (.notAnAddress value)
    | some address => .ok { settings with bind := address }
  | option .dataDir value => .ok { settings with dataDir := Path.ofText value }
  | option .transport value =>
    match Transport.ofName? value with
    | none => .error (.unknownTransport value)
    | some transport => .ok { settings with transport }
  | bare .config => .ok settings
  | bare flag => .error (.missingValue flag)
  | unknown _ => .ok settings

/-- The words that mean nothing among those that an argument consists of. -/
def ignored : Argument → List String
  | unknown word => [word]
  | _ => []

/-- The settings after all arguments, or the first fault among them, and the words that meant
nothing up to there. -/
def applyAll (settings : Settings) : List Argument → List String × Except Fault Settings
  | [] => ([], .ok settings)
  | argument :: rest =>
    match argument.apply settings with
    | .error fault => ([], .error fault)
    | .ok settings =>
      let (words, outcome) := applyAll settings rest
      (argument.ignored ++ words, outcome)

/-- The word behind the first word that is the flag for a file, wherever that word stands. -/
def configFile : List String → Except Fault (Option String)
  | [] => .ok none
  | word :: rest =>
    if word = Flag.config.word then
      match rest with
      | [] => .error (.missingValue .config)
      | path :: _ => .ok (some path)
    else configFile rest

/-- The settings that arguments are applied to: those of the file, or the default ones. -/
def baseSettings (files : FileSystem) (words : List String) : Except Fault Settings :=
  match configFile words with
  | .error fault => .error fault
  | .ok none => .ok {}
  | .ok (some path) =>
    match Settings.load files (Path.ofText path) with
    | .error cause => .error (.notLoaded path cause)
    | .ok settings => .ok settings

/-- The settings that the words of a command line make, and the words that mean nothing. -/
def settings (files : FileSystem) (words : List String) : List String × Except Fault Settings :=
  match baseSettings files words with
  | .error fault => ([], .error fault)
  | .ok base => applyAll base (ofWords words)

end Argument

end TableStore
