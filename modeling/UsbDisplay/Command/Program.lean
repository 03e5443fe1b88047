import UsbDisplay.Command.Stream
import UsbDisplay.Picture.Storage

/-!
The command as a whole: from its arguments to an exit code and what it prints. Misused arguments end
it with code 2, a failure with code 1 and the failure's debug form.
-/

namespace UsbDisplay.Command

/-- Why the command failed. -/
inductive Failure where
  | pipeline (e : Error)
  | picture (e : PictureError)
  deriving DecidableEq, Repr

def Failure.debug : Failure → String
  | pipeline e => e.debug
  | picture e => e.debug

/-- How the command ended. -/
structure Result where
  exitCode : UInt8
  /-- What it printed. -/
  printed : String := ""
  /-- What it said about its failure. -/
  complaint : String := ""
  deriving DecidableEq, Repr

def versionText : String := "ms912x-sim 0.1.0\n"

def usageText : String :=
  "Stream frames to a simulated adapter and save what it received.\n\n" ++
  "Usage: ms912x-sim [OPTIONS]\n\n" ++
  "  --image <PATH>               picture to display; a moving gradient without it\n" ++
  "  --width <N>                  [default: 800]\n" ++
  "  --height <N>                 [default: 600]\n" ++
  "  --hz <N>                     [default: 60]\n" ++
  "  -f, --frames <N>             [default: 120]\n" ++
  "  --latency-ms <N>             [default: 4]\n" ++
  "  --frame-interval-ms <N>      [default: 16]\n" ++
  "  --transfer-timeout-ms <N>    [default: 5000]\n" ++
  "  -o, --output <PATH>          [default: ms912x.png]\n"

def misuseText : String := "Misused arguments; see --help.\n"

def writtenText (f : Frame) (path : String) : String :=
  "wrote " ++ toString f.width ++ "x" ++ toString f.height ++ " frame to " ++ path ++ "\n"

variable {m : Type → Type} [Monad m]

def scene (files : Files m) (o : Options) : m (Except Failure Scene) := do
  match o.image? with
  | none => return .ok ⟨.gradient o.width o.height, true⟩
  | some path =>
    match ← Picture.load files path with
    | .error e => return .error (.picture e)
    | .ok picture => return .ok ⟨.ofPicture picture, false⟩

/-- Streams a scene at some pace and saves what the adapter shows; gives the line to be printed. -/
def stream {τ : Type} (pace : Pace τ) (time : τ) (files : Files m) (o : Options) :
    m (Except Failure String) := do
  match Session.start pace time o with
  | .error e => return .error (.pipeline e)
  | .ok session =>
    match ← scene files o with
    | .error e => return .error e
    | .ok scene =>
      match Stream.run ⟨session, scene⟩ (Session.config o).frameInterval o.frames with
      | .error e => return .error (.pipeline e)
      | .ok (_, stream) =>
        let frame := stream.session.picture
        match ← frame.save files o.output with
        | .error e => return .error (.picture e)
        | .ok _ => return .ok (writtenText frame o.output)

def run (files : Files m) (arguments : List String) : m Result := do
  match Options.parse? arguments with
  | none => return { exitCode := 2, complaint := misuseText }
  | some .version => return { exitCode := 0, printed := versionText }
  | some .help => return { exitCode := 0, printed := usageText }
  | some (.run o) =>
    match ← stream Timeline.pace {} files o with
    | .error e => return { exitCode := 1, complaint := "Error: " ++ e.debug ++ "\n" }
    | .ok text => return { exitCode := 0, printed := text }

end UsbDisplay.Command
