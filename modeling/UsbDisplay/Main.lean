import UsbDisplay.Command.Program

/-!
The command line: files of the operating system, standard output and standard error.
-/

namespace UsbDisplay.Main

open UsbDisplay

/-- What an error of the operating system says about a file. -/
def faultOf : IO.Error → FileFault
  | .noFileOrDirectory .. => .notFound
  | .inappropriateType _ 20 _ => .notDirectory
  | .inappropriateType .. => .isDirectory
  | .invalidArgument _ 36 _ => .tooLongName
  | e => .other (toString e)

def files : Files IO where
  read path := do
    match ← (IO.FS.readBinFile path).toBaseIO with
    | .ok contents => return .ok contents
    | .error e => return .error (faultOf e)
  write path contents := do
    match ← (IO.FS.writeBinFile path contents).toBaseIO with
    | .ok _ => return .ok ()
    | .error e => return .error (faultOf e)

end UsbDisplay.Main

def main (arguments : List String) : IO UInt32 := do
  let result ← UsbDisplay.Command.run UsbDisplay.Main.files arguments
  IO.print result.printed
  IO.eprint result.complaint
  return result.exitCode.toUInt32
