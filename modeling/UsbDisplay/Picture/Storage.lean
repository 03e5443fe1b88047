import UsbDisplay.Adapter.Frame
import UsbDisplay.Files
import UsbDisplay.Png.Encode

/-!
Pictures in files. A file that cannot be reached is one fault, a file that holds no picture is
another, and so are bytes that make no picture. A picture is encoded only after its place is known
to exist, so the first of these faults is reported where both are there. A directory can be reached,
but nothing can be read from it.
-/

namespace UsbDisplay

/-- Why a picture could not be read or written. -/
inductive PictureError where
  | file (fault : FileFault)
  | encode
  /-- A place that can be reached, but from which nothing can be read. -/
  | unreadable (fault : FileFault)
  | decode
  deriving DecidableEq, Repr

def PictureError.debug : PictureError → String
  | file fault => "Io(" ++ fault.debug ++ ")"
  | encode => "Encode"
  | unreadable fault => "Decode(IoError(" ++ fault.debug ++ "))"
  | decode => "Decode"

namespace Picture

variable {m : Type → Type} [Monad m]

def loadWith (codec : Png.Codec) (files : Files m) (path : String) :
    m (Except PictureError Picture) := do
  match ← files.read path with
  | .error .isDirectory => return .error (.unreadable .isDirectory)
  | .error fault => return .error (.file fault)
  | .ok contents =>
    match codec.decode contents with
    | none => return .error .decode
    | some samples => return .ok samples.picture

def load (files : Files m) (path : String) : m (Except PictureError Picture) :=
  loadWith Png.codec files path

/-- Writes red, green, blue and opacity bytes as a picture. -/
def saveRgbaWith (codec : Png.Codec) (files : Files m) (path : String) (rgba : ByteArray)
    (width height : UInt32) : m (Except PictureError Unit) := do
  match codec.encode width height rgba with
  | none =>
    match ← files.write path .empty with
    | .error fault => return .error (.file fault)
    | .ok _ => return .error .encode
  | some contents =>
    match ← files.write path contents with
    | .error fault => return .error (.file fault)
    | .ok _ => return .ok ()

def saveRgba (files : Files m) (path : String) (rgba : ByteArray) (width height : UInt32) :
    m (Except PictureError Unit) :=
  saveRgbaWith Png.codec files path rgba width height

end Picture

namespace Frame

variable {m : Type → Type} [Monad m]

def saveWith (codec : Png.Codec) (f : Frame) (files : Files m) (path : String) :
    m (Except PictureError Unit) :=
  Picture.saveRgbaWith codec files path f.rgba (UInt32.ofNat f.width) (UInt32.ofNat f.height)

def save (f : Frame) (files : Files m) (path : String) : m (Except PictureError Unit) :=
  f.saveWith Png.codec files path

end Frame

end UsbDisplay
