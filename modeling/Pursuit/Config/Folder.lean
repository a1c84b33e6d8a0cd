import Pursuit.Config.Document

/-! # Where the settings are kept

* **`Folder`** — the folder of the settings: not there yet, barred by a plain file of its name, or
  holding the settings file.
* **`Folder.loadOrCreate`**, **`Folder.save`**, **`Folder.reload`** — reading at the start, writing,
  and reading again later.
* **`ConfigError`** — the file cannot be read, cannot be written, or is not understood. -/

namespace Pursuit

/-- Why settings were not loaded or saved. -/
inductive ConfigError where
  /-- There is no file, or it is not encoded as UTF-8. -/
  | unreadable
  /-- The folder cannot be made. -/
  | unwritable
  /-- The text is not one of settings. -/
  | malformed
deriving DecidableEq, Repr

/-- The folder of the settings. -/
inductive Folder where
  /-- There is none. -/
  | absent
  /-- A plain file has its name. -/
  | barred
  /-- It holds a file with this content. -/
  | holding (file : List UInt8)
deriving DecidableEq

instance : Inhabited Folder := ⟨.absent⟩

namespace Folder

/-- The content of the file. -/
def file? : Folder → Option (List UInt8)
  | holding file => some file
  | _ => none

/-- The text of the file. -/
def text? (f : Folder) : Option String :=
  f.file?.bind fun file => String.fromUTF8? ⟨file.toArray⟩

/-- Makes the folder if need be and puts a file into it. -/
def write (f : Folder) (file : List UInt8) : Option Folder :=
  match f with
  | barred => none
  | _ => some (holding file)

/-- Puts a plain file in place of the folder. -/
def bar : Folder → Option Folder
  | holding _ => none
  | _ => some barred

/-- The settings in the file. -/
def read (f : Folder) : Except ConfigError Config :=
  match f.text? with
  | none => .error .unreadable
  | some text =>
    match Config.ofText? text with
    | some c => .ok c
    | none => .error .malformed

/-- Writes settings to the file. -/
def save (f : Folder) (c : Config) : Except ConfigError Folder :=
  match f.write c.text.toUTF8.toList with
  | some f => .ok f
  | none => .error .unwritable

/-- The settings in the file, or the defaults, which are then written to it. -/
def loadOrCreate (f : Folder) : Except ConfigError Config × Folder :=
  match f with
  | holding _ => (f.read, f)
  | _ =>
    match f.save default with
    | .ok f => (.ok default, f)
    | .error e => (.error e, f)

/-- The settings in the file if they differ from the given ones. -/
def reload (f : Folder) (c : Config) : Except ConfigError (Option Config) :=
  f.read.map fun new => if new = c then none else some new

/-- What is saved is read back as text. -/
theorem file?_of_save {f g : Folder} {c : Config} (h : f.save c = .ok g) :
    g.file? = some c.text.toUTF8.toList := by
  cases f <;> simp [save, write] at h <;> subst h <;> rfl

end Folder

end Pursuit
