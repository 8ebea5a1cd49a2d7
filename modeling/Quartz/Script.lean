import Quartz.Charset.Library
import Quartz.Volume

/-!
# `Quartz.Script`: finding and loading scripts

Scripts are the files of a volume with the script extension. The entry
script is the one that is asked for, or else `main.cry`, or else the only
script there is. Loading a script reads its file without regard to the
case of its name and converts it to UTF-8 from a charset of a library.
-/

set_option autoImplicit false

namespace Quartz

/-- A loaded script: the path of its file, its text in UTF-8 and the size
of the file. -/
structure Script where
  file : Bytes
  content : Bytes
  size : Nat
  deriving DecidableEq, Repr

namespace Script

/-- The extension of script files. -/
def extension : Bytes := utf8 ".cry"

/-- The charset of scripts unless another one is named. -/
def defaultCharset : Bytes := utf8 "utf-8"

/-- The script that runs unless another one is named. -/
def defaultEntry : Bytes := utf8 "main.cry"

/-- Whether a path has an extension, without regard to case. -/
def hasExtension (path ext : Bytes) : Bool := (Path.extension path).equalFold ext

/-- Why a script was not found or not loaded. -/
inductive Error where
  | miss (m : Volume.Miss)
  | unread (name : Bytes) (m : Volume.Miss)
  | charset (file : Bytes) (e : Charset.Error)
  | none
  | several (count : Nat)
  deriving DecidableEq, Repr

/-- The wording of an error. -/
def Error.message : Error → Bytes
  | .miss m => m.message
  | .unread name m => utf8 "failed to read script " ++ name ++ utf8 ": " ++ m.message
  | .charset file e => utf8 "failed to convert encoding of " ++ file ++ utf8 ": " ++ e.message
  | .none => utf8 "no script files found"
  | .several count =>
    Bytes.ofNat count ++ utf8 " script files found and no " ++ defaultEntry ++
      utf8 "; specify the entry script"

/-- Every script of a volume, in the order of a walk. -/
def all (v : Volume) : List Bytes := v.walk.filter fun p => hasExtension p extension

/-- The path of the script to run. An empty name asks for none. -/
def entry (v : Volume) (name : Bytes) : Except Error Bytes :=
  if name ≠ [] then
    (v.find (Path.directory (Path.ofHost name)) (Path.base name)).mapError .miss
  else
    match v.find Path.here defaultEntry with
    | .ok p => .ok p
    | .error _ =>
      match all v with
      | [] => .error .none
      | [p] => .ok p
      | l => .error (.several l.length)

/-- Loads the script with a name in a charset. -/
def load (lib : Charset.Library) (v : Volume) (charset name : Bytes) : Except Error Script := do
  let (file, data) ← (v.read name).mapError (.unread name)
  let content ← (lib.decode charset data).mapError (.charset file)
  return ⟨file, content, data.length⟩

/-- Loads every script of a volume. The first failure ends it. -/
def loadAll (lib : Charset.Library) (v : Volume) (charset : Bytes) :
    Except Error (List Script) :=
  match all v with
  | [] => .error .none
  | l => l.mapM (load lib v charset)

end Script

end Quartz
