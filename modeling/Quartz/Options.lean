import Quartz.Log.Settings
import Quartz.Script
import Quartz.Settings

/-!
# `Quartz.Options`: the command line

The script path may stand anywhere among the flags, so the words are
arranged first: flags and their values in front, all else behind a double
dash. Then the flags are read one by one.

Each option is taken from the first place that sets it: the flags, the
environment, the settings file, and else its default. The path of a script
file is split into its directory and the entry script.
-/

set_option autoImplicit false

namespace Quartz

namespace Options

/-! ### Arranging the words -/

/-- The byte that starts a flag. -/
def dash : UInt8 := Bytes.byte '-'

/-- The word behind which nothing is a flag. -/
def separator : Bytes := utf8 "--"

/-- Whether a word is a flag. -/
def isFlagWord (w : Bytes) : Bool := 1 < w.length && w.head? = some dash

/-- The flags that never take the next word as their value, as they are
usually written. -/
def switchWords : List Bytes :=
  ["-h", "--help", "-help", "-i", "--interactive", "-interactive"].map utf8

/-- Whether a flag word leaves the next word alone. -/
def isClosed (w : Bytes) : Bool := w.contains (Bytes.byte '=') || switchWords.contains w

/-- Whether a word can be the value of a flag before it. -/
def isValueWord (w : Bytes) : Bool := w ≠ [] && w.head? ≠ some dash

/-- The flag words with their values, and the other words. -/
def sortWords : List Bytes → List Bytes × List Bytes
  | [] => ([], [])
  | w :: rest =>
    if w = separator then ([], rest)
    else if isFlagWord w then
      match rest with
      | v :: more =>
        if !isClosed w && isValueWord v then
          let (flags, others) := sortWords more
          (w :: v :: flags, others)
        else
          let (flags, others) := sortWords (v :: more)
          (w :: flags, others)
      | [] => ([w], [])
    else
      let (flags, others) := sortWords rest
      (flags, w :: others)

/-- The words with the flags in front. -/
def arrange (words : List Bytes) : List Bytes :=
  let (flags, others) := sortWords words
  if others = [] then flags else flags ++ separator :: others

/-! ### Reading the flags -/

/-- The flags. -/
inductive Flag where
  | level
  | format
  | charset
  | config
  | interactive
  | help
  deriving DecidableEq, Repr

/-- The flag with a name. -/
def Flag.named? (name : Bytes) : Option Flag :=
  let names : List (String × Flag) :=
    [("log-level", .level), ("l", .level), ("log-format", .format), ("encoding", .charset),
      ("e", .charset), ("config", .config), ("c", .config), ("interactive", .interactive),
      ("i", .interactive), ("help", .help), ("h", .help)]
  (names.find? fun p => utf8 p.1 = name).map Prod.snd

/-- Whether a flag is on or off, and takes no word behind it. -/
def Flag.isSwitch : Flag → Bool
  | .interactive | .help => true
  | _ => false

/-- What the flags say. -/
structure Flags where
  level : Option Bytes := none
  format : Option Bytes := none
  charset : Option Bytes := none
  config : Bytes := []
  interactive : Bool := false
  help : Bool := false
  deriving DecidableEq, Repr

/-- Why the words are refused. -/
inductive FlagError where
  | undefined (name : Bytes)
  | needsValue (name : Bytes)
  | form (word : Bytes)
  | badSwitch (value name : Bytes)
  deriving DecidableEq, Repr

/-- The wording of a refusal. -/
def FlagError.message : FlagError → Bytes
  | .undefined name => utf8 "flag provided but not defined: -" ++ name
  | .needsValue name => utf8 "flag needs an argument: -" ++ name
  | .form word => utf8 "bad flag syntax: " ++ word
  | .badSwitch value name =>
    utf8 "invalid boolean value " ++ value.quoted ++ utf8 " for -" ++ name ++
      utf8 ": parse error"

/-- The truth value that a word spells. -/
def switchValue? (w : Bytes) : Option Bool :=
  if (["1", "t", "T", "true", "TRUE", "True"].map utf8).contains w then some true
  else if (["0", "f", "F", "false", "FALSE", "False"].map utf8).contains w then some false
  else none

/-- Sets a flag that takes a value. -/
def Flags.set (f : Flags) (flag : Flag) (value : Bytes) : Flags :=
  match flag with
  | .level => { f with level := some value }
  | .format => { f with format := some value }
  | .charset => { f with charset := some value }
  | .config => { f with config := value }
  | _ => f

/-- Turns a switch on or off. -/
def Flags.turn (f : Flags) (flag : Flag) (on : Bool) : Flags :=
  match flag with
  | .interactive => { f with interactive := on }
  | .help => { f with help := on }
  | _ => f

/-- The name in a flag word, and the value behind an equals sign. The sign
cannot stand first. -/
def splitFlag (w : Bytes) : Except FlagError (Bytes × Option Bytes) :=
  let body := if separator.isPrefixOf w then w.drop 2 else w.drop 1
  let sign := Bytes.byte '='
  if body = [] || body.head? = some dash || body.head? = some sign then .error (.form w)
  else
    match body.dropWhile (· ≠ sign) with
    | [] => .ok (body, none)
    | _ :: value => .ok (body.takeWhile (· ≠ sign), some value)

/-- Reads flags off the front; the words behind them are handed back. -/
def readFlags (f : Flags) (words : List Bytes) : Except FlagError (Flags × List Bytes) :=
  match words with
  | [] => .ok (f, [])
  | w :: rest =>
    if !isFlagWord w then .ok (f, w :: rest)
    else if w = separator then .ok (f, rest)
    else
      match splitFlag w with
      | .error e => .error e
      | .ok (name, value) =>
        match Flag.named? name with
        | none => .error (.undefined name)
        | some flag =>
          if flag.isSwitch then
            match value with
            | none => readFlags (f.turn flag true) rest
            | some v =>
              match switchValue? v with
              | some on => readFlags (f.turn flag on) rest
              | none => .error (.badSwitch v name)
          else
            match value with
            | some v => readFlags (f.set flag v) rest
            | none =>
              match rest with
              | v :: more => readFlags (f.set flag v) more
              | [] => .error (.needsValue name)
termination_by words.length

end Options

/-! ### The options -/

/-- The options of a run. An empty directory means that there is no
script, and a depth of zero that the usual one applies. -/
structure Options where
  directory : Bytes := []
  entry : Bytes := []
  level : Log.Level := .info
  format : Log.Format := .text
  charset : Bytes := Script.defaultCharset
  config : Bytes := []
  depth : Nat := 0
  interactive : Bool := false
  help : Bool := false
  deriving DecidableEq, Repr

namespace Options

/-- The names of the formats. -/
def formatWord : Log.Format → Bytes
  | .text => utf8 "text"
  | .json => utf8 "json"

/-- The options on one line. -/
def summary (o : Options) : Bytes :=
  let depth := if o.depth = 0 then utf8 "default" else Bytes.ofNat o.depth
  utf8 "dir=" ++ o.directory.quoted ++ utf8 " entry=" ++ o.entry.quoted ++ utf8 " encoding=" ++
    o.charset ++ utf8 " log=" ++ o.level.word ++ utf8 "/" ++ formatWord o.format ++
    utf8 " depth=" ++ depth ++ utf8 " interactive=" ++ Log.flagWord o.interactive

/-- What the program leaves to others: the charsets, and the reading of
settings files. -/
structure Libraries where
  charsets : Charset.Library
  settings : Settings.Reader

/-- What the environment says; empty texts say nothing. -/
structure Environment where
  level : Bytes := []
  charset : Bytes := []

/-- Why a command line is refused. -/
inductive Error where
  | flag (e : FlagError)
  | configUnread (e : Volume.Error)
  | configMalformed (path why : Bytes)
  | level (word : Bytes)
  | format (word : Bytes)
  | charset (e : Charset.Error)
  | depth (n : Int)
  | tooMany (words : List Bytes)
  deriving DecidableEq, Repr

/-- The wording of a refusal. -/
def Error.message : Error → Bytes
  | .flag e => e.message
  | .configUnread e => utf8 "failed to read config file: " ++ e.message
  | .configMalformed path why =>
    utf8 "failed to parse config file " ++ path ++ utf8 ": " ++ why
  | .level word =>
    utf8 "invalid log level: " ++ word ++ utf8 " (must be debug, info, warn, or error)"
  | .format word => utf8 "invalid log format: " ++ word ++ utf8 " (must be text or json)"
  | .charset e => e.message
  | .depth n => utf8 "max_call_depth must be non-negative, got " ++ Bytes.ofInt n
  | .tooMany words => utf8 "too many arguments: " ++ Bytes.join (utf8 " ") words

/-- The first text that says something. -/
def firstOf (l : List Bytes) : Bytes := (l.find? (· ≠ [])).getD []

/-- The level with a name, without regard to case. -/
def readLevel (word : Bytes) : Except Error Log.Level :=
  match Log.Level.ofWord? word.toLower with
  | some l => .ok l
  | none => .error (.level word.toLower)

/-- The format with a name, without regard to case. -/
def readFormat (word : Bytes) : Except Error Log.Format :=
  match [Log.Format.text, .json].find? fun f => formatWord f = word.toLower with
  | some f => .ok f
  | none => .error (.format word.toLower)

/-- A charset that exists, under the name it was given. -/
def checkCharset (lib : Charset.Library) (name : Bytes) : Except Error Bytes :=
  match lib.named name with
  | .ok _ => .ok name
  | .error e => .error (.charset e)

/-- A depth that is not negative. -/
def checkDepth (n : Int) : Except Error Nat :=
  if n < 0 then .error (.depth n) else .ok n.toNat

/-- The settings in the file at a path; no path, no settings. -/
def readSettings (reader : Settings.Reader) (contents : Bytes → Except Volume.Error Bytes)
    (path : Bytes) : Except Error Settings :=
  if path = [] then .ok {}
  else
    match contents path with
    | .error e => .error (.configUnread e)
    | .ok source => (Settings.read reader source).mapError (.configMalformed path)

/-- The options with a script path, if there is one. -/
def withPath (o : Options) : List Bytes → Except Error Options
  | [] => .ok o
  | [path] =>
    if Script.hasExtension path Script.extension then
      .ok { o with directory := Path.directory path, entry := Path.base path }
    else .ok { o with directory := path }
  | words => .error (.tooMany words)

/-- The options that flags, environment and settings make together. -/
def combine (lib : Charset.Library) (flags : Flags) (env : Environment) (settings : Settings) :
    Except Error Options := do
  let level ← readLevel (flags.level.getD (firstOf [env.level, settings.level, utf8 "info"]))
  let format ← readFormat (flags.format.getD (firstOf [settings.format, utf8 "text"]))
  let charset ← checkCharset lib
    (flags.charset.getD (firstOf [env.charset, settings.charset, Script.defaultCharset]))
  let depth ← checkDepth settings.depth
  return { entry := settings.entry, level, format, charset, config := flags.config, depth,
           interactive := flags.interactive }

/-- Reads a command line. `contents` gives the file at a path. A call for
help is answered without looking at anything else. -/
def read (lib : Libraries) (contents : Bytes → Except Volume.Error Bytes) (env : Environment)
    (words : List Bytes) : Except Error Options :=
  match readFlags {} (arrange words) with
  | .error e => .error (.flag e)
  | .ok (flags, paths) =>
    if flags.help then
      .ok { config := flags.config, interactive := flags.interactive, help := true }
    else do
      let settings ← readSettings lib.settings contents flags.config
      let options ← combine lib.charsets flags env settings
      options.withPath paths

end Options

end Quartz
