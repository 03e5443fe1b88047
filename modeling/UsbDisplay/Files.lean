import UsbDisplay.Text.Quoted

/-!
Files as a program sees them: whole files are read and written by path. What stands behind the paths
is left open.
-/

namespace UsbDisplay

/-- Why a file could not be read or written. -/
inductive FileFault where
  | notFound
  | notDirectory
  | isDirectory
  /-- A name, or a path as a whole, has too many bytes. -/
  | tooLongName
  | other (text : String)
  deriving DecidableEq, Repr

namespace FileFault

/-- The debug form of a fault of the operating system: its number, its kind and its message. -/
def systemDebug (code : Nat) (kind message : String) : String :=
  "Os \x7b code: " ++ toString code ++ ", kind: " ++ kind ++ ", message: " ++ Text.quoted message ++
    " \x7d"

def debug : FileFault → String
  | notFound => systemDebug 2 "NotFound" "No such file or directory"
  | notDirectory => systemDebug 20 "NotADirectory" "Not a directory"
  | isDirectory => systemDebug 21 "IsADirectory" "Is a directory"
  | tooLongName => systemDebug 36 "InvalidFilename" "File name too long"
  | other text => "Custom \x7b kind: Other, error: " ++ Text.quoted text ++ " \x7d"

end FileFault

/-- A way to files. A directory can be reached like a file, but has no bytes; reading it fails with
`FileFault.isDirectory`. -/
structure Files (m : Type → Type) where
  read : (path : String) → m (Except FileFault ByteArray)
  /-- Replaces what the file held. -/
  write : (path : String) → ByteArray → m (Except FileFault Unit)

end UsbDisplay
