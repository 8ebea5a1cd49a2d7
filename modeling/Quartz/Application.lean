import Quartz.Charset.Basic
import Quartz.History
import Quartz.Options
import Quartz.Prompt
import Quartz.Yaml.Settings

/-!
# `Quartz.Application`: the whole program

The application reads its command line, runs the entry script if there is
one, and then answers at the prompt if there is none or if it is asked to.
It is a function of its surroundings: what the environment says, what paths
lead to, and what stands on the input. `Outcome` is everything it writes.
-/

set_option autoImplicit false

namespace Quartz

namespace Application

/-- The charsets of the web, and settings in YAML. -/
def usualLibraries : Options.Libraries := ⟨Charset.web, Settings.yaml⟩

/-- What the application finds when it starts. -/
structure Surroundings where
  libraries : Options.Libraries := usualLibraries
  environment : Options.Environment := {}
  /-- What a path leads to. -/
  lookup : Bytes → Except Volume.Problem Volume.Node
  /-- What is entered at the prompt. -/
  input : Bytes := []
  /-- The home directory, if there is one. -/
  home : Option Bytes

/-- Why no script was loaded. -/
inductive LoadError where
  | path (e : Volume.Error)
  | notDirectory (dir : Bytes)
  | script (e : Script.Error)
  deriving DecidableEq, Repr

/-- The wording of a load error. -/
def LoadError.message : LoadError → Bytes
  | .path e => e.message
  | .notDirectory dir => dir ++ utf8 " is not a directory"
  | .script e => e.message

/-- Why the application ends early. -/
inductive Trouble where
  | arguments (e : Options.Error)
  | loading (e : LoadError)
  | failed (f : Failure)
  | exhausted
  deriving DecidableEq, Repr

/-- The wording of trouble. -/
def Trouble.message : Trouble → Bytes
  | .arguments e => utf8 "failed to parse args: " ++ e.message
  | .loading e => utf8 "failed to load script: " ++ e.message
  | .failed f => f.message
  | .exhausted => utf8 "out of call levels"

/-- What the application writes: its output, its journal, and the file of
the history with its path. -/
structure Outcome where
  output : Bytes := []
  journal : Bytes := []
  history : Option (Bytes × Bytes) := none
  trouble : Option Trouble := none

/-! ### Help -/

/-- The lines of the help text. -/
def helpLines : List String :=
  ["crystal - Crystal Script Runtime",
    "",
    "Usage:",
    "  crystal [options] [script-path]",
    "",
    "Arguments:",
    "  script-path   スクリプトのディレクトリ、または.cryファイルのパス（省略時はREPL）",
    "                ディレクトリを指定した場合、main.cry（または唯一の.cryファイル）を実行",
    "                .cryファイルを指定した場合、そのファイルを実行",
    "",
    "Options:",
    "  -l, --log-level <level>     ログレベル: debug, info, warn, error（デフォルト: info）",
    "  --log-format <format>       ログ形式: text, json（デフォルト: text）",
    "  -e, --encoding <name>       スクリプトの文字コード: utf-8, shift_jis, euc-jp, utf-16 など（デフォルト: utf-8）",
    "  -c, --config <file>         設定ファイル（YAML）",
    "  -i, --interactive           対話モード（REPL）",
    "  -h, --help                  このヘルプを表示",
    "",
    "Environment Variables:",
    "  CRYSTAL_LOG_LEVEL=<level>   ログレベル",
    "  CRYSTAL_ENCODING=<name>     スクリプトの文字コード",
    "",
    "Config File Keys:",
    "  log_level, log_format, encoding, entry, max_call_depth",
    "",
    "Examples:",
    "  crystal /path/to/scripts            ディレクトリを指定（main.cryを実行）",
    "  crystal /path/to/scripts/game.cry   ファイルを明示的に指定",
    "  crystal -e shift_jis old.cry        Shift-JISのスクリプトを実行",
    "  crystal -c crystal.yaml scripts     設定ファイルを使用",
    "  crystal                             REPLを起動"]

/-- The help text. -/
def help : Bytes := helpLines.flatMap fun l => utf8 l ++ [Bytes.newline]

/-! ### The script -/

/-- How many characters of a script are shown in the journal. -/
def previewLength : Nat := 100

/-- The beginning of a script. -/
def preview (content : Bytes) : Bytes :=
  let runes := Rune.decode content
  if runes.length ≤ previewLength then content
  else
    ((runes.take previewLength).flatMap fun r => String.utf8EncodeChar r.toChar) ++ utf8 "..."

/-- The volume of the script directory. -/
def scriptVolume (s : Surroundings) (dir : Bytes) : Except LoadError Volume :=
  match s.lookup dir with
  | .error problem => .error (.path ⟨utf8 "stat", dir, .disk, problem⟩)
  | .ok (.file _) => .error (.notDirectory dir)
  | .ok (.directory v) => .ok v

/-- Loads the entry script, and reports which one it is. -/
def loadScript (s : Surroundings) (o : Options) (st : State) :
    Except LoadError Script × State :=
  match scriptVolume s o.directory with
  | .error e => (.error e, st)
  | .ok v =>
    match Script.entry v o.entry with
    | .error e => (.error (.script e), st)
    | .ok path =>
      let charset := if o.charset = [] then Script.defaultCharset else o.charset
      let st := st.report (.entrySelected o.directory path charset)
      ((Script.load s.libraries.charsets v charset path).mapError .script, st)

/-- Runs a loaded script in a scope. -/
def runScript (script : Script) (s : ScopeId) (st : State) : Option Trouble × State :=
  let st := st.report (.scriptLoaded script.file script.size)
  let st := st.report (.scriptPreview script.file (preview script.content))
  match Program.compileFile script.file script.content with
  | .error f => (some (.failed f), st.report (.compilationFailed script.file f.message))
  | .ok p =>
    let st := st.report
      (.scriptCompiled p.functions.length p.classes.length p.main.length)
    match p.run s st with
    | (some (.ok v), st) => (none, st.report (.scriptFinished (st.display v) v.typeName))
    | (some (.error f), st) =>
      (some (.failed f), st.report (.scriptFailed script.file f.message))
    | (none, st) => (some .exhausted, st)

/-! ### The prompt -/

/-- The lines of the input. -/
def inputLines (s : Surroundings) : List Prompt.Line :=
  (Lines.pieces s.input).map fun p => .text p.text

/-- Answers at the prompt; also gives the history to save with its path. -/
def runPrompt (s : Surroundings) (g : ScopeId) (st : State) :
    State × Option (Bytes × Bytes) :=
  let st := (st.report .promptStarting).print Prompt.banner
  match s.home with
  | none =>
    let st := st.report (.historyDisabled (utf8 "$HOME is not defined"))
    let st := st.report (.promptStarted [])
    ((Prompt.converse g { st } (inputLines s)).1.st, none)
  | some home =>
    let path := Path.join home History.fileName
    let known := match s.lookup path with
      | .ok (.file contents) => History.read contents
      | _ => []
    let st := st.report (.promptStarted path)
    let d := (Prompt.converse g { st } (inputLines s)).1
    let refused : Option Volume.Problem := match s.lookup path with
      | .ok (.directory _) => some .isDirectory
      | .error .notDirectory => some .notDirectory
      | _ => none
    match refused with
    | some problem =>
      let e : Volume.Error := ⟨utf8 "open", path, .disk, problem⟩
      (d.st.report (.historyNotSaved path e.message), none)
    | none => (d.st, some (path, History.write (d.history.reverse.foldl History.append known)))

/-! ### The application -/

/-- A state with a scope for globals in which the usual functions are
registered. -/
def begin (o : Options) : ScopeId × State :=
  let st : State := { journal := { threshold := some o.level } }
  let st := st.report (.started o.summary)
  let (g, st) := st.newScope none (some o.depth)
  match registerBuiltins g st with
  | .ok _ st => (g, st)
  | .error _ st => (g, st)

/-- The contents of the file that a path leads to. -/
def contents (s : Surroundings) (p : Bytes) : Except Volume.Error Bytes :=
  match s.lookup p with
  | .ok (.file contents) => .ok contents
  | .ok (.directory _) => .error ⟨utf8 "read", p, .disk, .isDirectory⟩
  | .error problem => .error ⟨utf8 "open", p, .disk, problem⟩

/-- Everything that the state has to write. -/
def outcome (o : Options) (st : State) (history : Option (Bytes × Bytes))
    (trouble : Option Trouble) : Outcome :=
  { output := st.output, journal := st.journal.text o.format, history, trouble }

/-- Runs with options: the script first, if there is one, and then the
prompt, if it is wanted. -/
def runWith (s : Surroundings) (o : Options) : Outcome :=
  let (g, st) := begin o
  let (trouble, st) :=
    if o.directory = [] then (none, st)
    else
      match loadScript s o st with
      | (.error e, st) => (some (.loading e), st)
      | (.ok script, st) => runScript script g st
  match trouble with
  | some t => outcome o st none (some t)
  | none =>
    let (st, history) :=
      if o.interactive || o.directory = [] then runPrompt s g st else (st, none)
    outcome o (st.report .terminated) history none

/-- Runs the application with the words of its command line. -/
def run (s : Surroundings) (words : List Bytes) : Outcome :=
  match Options.read s.libraries (contents s) s.environment words with
  | .error e => { trouble := some (.arguments e) }
  | .ok o => if o.help then { output := help } else runWith s o

end Application

end Quartz
