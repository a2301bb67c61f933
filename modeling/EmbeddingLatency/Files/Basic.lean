import EmbeddingLatency.Fault

/-!
# Files

What a program may ask of a file system, and why it may be refused. `FileStore` leaves open what
carries the requests out: a real file system, or a tree of files in memory.
-/

set_option autoImplicit false

namespace EmbeddingLatency

/-- Why a file system refuses. -/
inductive FileFault where
  | missing
  | exists
  | notDirectory
  | isDirectory
  | nameTooLong
  /-- The path holds a null character. -/
  | nullCharacter
  /-- The file does not hold text. -/
  | notText
  /-- Any other reason, in the system's own words. -/
  | other (message : String)
  deriving DecidableEq, Repr

namespace FileFault

/-- What is said of a refusal. -/
def message : FileFault → String
  | .missing => "No such file or directory (os error 2)"
  | .exists => "File exists (os error 17)"
  | .notDirectory => "Not a directory (os error 20)"
  | .isDirectory => "Is a directory (os error 21)"
  | .nameTooLong => "File name too long (os error 36)"
  | .nullCharacter => "file name contained an unexpected NUL byte"
  | .notText => "stream did not contain valid UTF-8"
  | .other message => message

/-- The fault that a refusal leads to. -/
def fault (f : FileFault) : Fault := .io f.message

end FileFault

/-- A file system that can be asked to create directories and to write files. -/
structure FileStore (m : Type → Type) where
  /-- Creates a directory and all directories above it, as far as they do not exist. -/
  createDirectories : String → m (Except FileFault Unit)
  /-- Writes a file, which need not exist; what it held before is lost. -/
  write : String → String → m (Except FileFault Unit)

end EmbeddingLatency
