import Quartz.Log.Record

/-!
# `Quartz.Log.Event`: what a run reports while it goes on

Every report of the runtime is one of these events; `Event.record` gives
its level, wording and fields.
-/

set_option autoImplicit false

namespace Quartz.Log

/-- What can be reported. -/
inductive Event where
  | framePushed (frame : Nat) (parent : Int)
  | frameReleased (frame : Int) (depth : Nat)
  | invoking (function : Bytes) (arguments depth : Nat)
  | classCreated (name : Bytes) (id functions : Nat)
  | classCloned (name : Bytes) (source copy : Nat)
  | builtinsRegistered (count : Nat)
  | programLoaded (name : Bytes) (functions classes tokens : Nat)
  | started (configuration : Bytes)
  | entrySelected (directory entry encoding : Bytes)
  | scriptLoaded (name : Bytes) (size : Nat)
  | scriptPreview (name preview : Bytes)
  | compilationFailed (file error : Bytes)
  | scriptCompiled (functions classes tokens : Nat)
  | scriptFailed (file error : Bytes)
  | scriptFinished (result type : Bytes)
  | promptStarting
  | promptStarted (history : Bytes)
  | evaluationFailed (error : Bytes)
  | historyDisabled (error : Bytes)
  | historyNotSaved (path error : Bytes)
  | terminated
  deriving DecidableEq, Repr

/-- A field that holds a count. -/
def count (name : String) (n : Nat) : Bytes × Field := (utf8 name, .number n)

/-- A field that holds a text. -/
def text (name : String) (s : Bytes) : Bytes × Field := (utf8 name, .text s)

/-- The record of an event. -/
def Event.record : Event → Record
  | .framePushed frame parent =>
    ⟨.debug, utf8 "Frame pushed", [count "frame" frame, (utf8 "parent", .number parent)]⟩
  | .frameReleased frame depth =>
    ⟨.debug, utf8 "Frame released", [(utf8 "frame", .number frame), count "depth" depth]⟩
  | .invoking function arguments depth =>
    ⟨.debug, utf8 "Invoking function",
      [text "name" function, count "args" arguments, count "depth" depth]⟩
  | .classCreated name id functions =>
    ⟨.debug, utf8 "Class created",
      [text "name" name, count "id" id, count "functions" functions]⟩
  | .classCloned name source copy =>
    ⟨.debug, utf8 "Class cloned", [text "name" name, count "from" source, count "to" copy]⟩
  | .builtinsRegistered n => ⟨.debug, utf8 "Builtins registered", [count "count" n]⟩
  | .programLoaded name functions classes tokens =>
    ⟨.debug, utf8 "Program loaded",
      [text "name" name, count "functions" functions, count "classes" classes,
        count "tokens" tokens]⟩
  | .started configuration =>
    ⟨.info, utf8 "Application started", [text "config" configuration]⟩
  | .entrySelected directory entry encoding =>
    ⟨.debug, utf8 "Entry script selected",
      [text "dir" directory, text "entry" entry, text "encoding" encoding]⟩
  | .scriptLoaded name size =>
    ⟨.info, utf8 "Script loaded", [text "name" name, count "size" size]⟩
  | .scriptPreview name preview =>
    ⟨.debug, utf8 "Script content preview", [text "name" name, text "preview" preview]⟩
  | .compilationFailed file error =>
    ⟨.error, utf8 "Compilation failed", [text "file" file, text "error" error]⟩
  | .scriptCompiled functions classes tokens =>
    ⟨.info, utf8 "Script compiled successfully",
      [count "functions" functions, count "classes" classes, count "tokens" tokens]⟩
  | .scriptFailed file error =>
    ⟨.error, utf8 "Script failed", [text "file" file, text "error" error]⟩
  | .scriptFinished result type =>
    ⟨.info, utf8 "Script finished", [text "result" result, text "type" type]⟩
  | .promptStarting => ⟨.info, utf8 "Starting REPL", []⟩
  | .promptStarted history => ⟨.debug, utf8 "REPL started", [text "history" history]⟩
  | .evaluationFailed error => ⟨.warn, utf8 "Evaluation failed", [text "error" error]⟩
  | .historyDisabled error => ⟨.warn, utf8 "History disabled", [text "error" error]⟩
  | .historyNotSaved path error =>
    ⟨.warn, utf8 "Failed to save history", [text "path" path, text "error" error]⟩
  | .terminated => ⟨.info, utf8 "Application terminated normally", []⟩

end Quartz.Log
