/-!
The command's options. An option with a value takes it after an equals sign, from the next argument,
or with a one-letter name also directly; a next argument that begins with a hyphen is no value,
unless it is a hyphen alone. No option may come twice, and there are no other arguments. Arguments
are taken from the left, so a question for the version is answered if nothing before it was wrong.
-/

namespace UsbDisplay.Command

/-- What is to be streamed, and how. -/
structure Options where
  /-- The picture to display; a moving gradient is drawn if there is none. -/
  image? : Option String := none
  width : Nat := 800
  height : Nat := 600
  hertz : Nat := 60
  /-- The number of frames. -/
  frames : Nat := 120
  /-- How long the adapter takes for a bulk transfer, in milliseconds. -/
  latency : Nat := 4
  /-- The least time between two frames, in milliseconds. -/
  frameInterval : Nat := 16
  /-- How long a bulk transfer may take, in milliseconds. -/
  transferTimeout : Nat := 5000
  /-- Where the picture of the adapter goes. -/
  output : String := "ms912x.png"
  deriving DecidableEq, Repr

/-- What a list of arguments asks for. -/
inductive Request where
  | run (options : Options)
  | version
  | help
  deriving DecidableEq, Repr

namespace Options

def digits? (digits : List Char) : Option Nat :=
  if digits.isEmpty || !digits.all Char.isDigit then none
  else some (digits.foldl (fun n c => 10 * n + (c.toNat - '0'.toNat)) 0)

/-- A decimal number of up to 64 bits; a plus sign may stand before it. -/
def wide? (text : String) : Option Nat :=
  let n? := match text.toList with
    | '+' :: digits => digits? digits
    | digits => digits? digits
  n?.filter (· < UInt64.size)

/-- A decimal number of up to 32 bits, read with its sign, so that zero may have a minus sign. -/
def narrow? (text : String) : Option Nat :=
  match text.toList with
  | '-' :: digits => (digits? digits).filter (· == 0)
  | _ => (wide? text).filter (· < UInt32.size)

/-- A path; it has at least one character. -/
def path? (text : String) : Option String :=
  if text = "" then none else some text

/-- The options that take a value. -/
inductive Name where
  | image
  | width
  | height
  | hertz
  | frames
  | latency
  | frameInterval
  | transferTimeout
  | output
  deriving DecidableEq, Repr

def Name.ofLong? : String → Option Name
  | "image" => some .image
  | "width" => some .width
  | "height" => some .height
  | "hz" => some .hertz
  | "frames" => some .frames
  | "latency-ms" => some .latency
  | "frame-interval-ms" => some .frameInterval
  | "transfer-timeout-ms" => some .transferTimeout
  | "output" => some .output
  | _ => none

def Name.ofShort? : Char → Option Name
  | 'f' => some .frames
  | 'o' => some .output
  | _ => none

/-- Sets an option, if the text is a value for it. -/
def set? (o : Options) (name : Name) (text : String) : Option Options :=
  match name with
  | .image => (path? text).map fun p => { o with image? := some p }
  | .width => (narrow? text).map ({ o with width := · })
  | .height => (narrow? text).map ({ o with height := · })
  | .hertz => (narrow? text).map ({ o with hertz := · })
  | .frames => (narrow? text).map ({ o with frames := · })
  | .latency => (wide? text).map ({ o with latency := · })
  | .frameInterval => (wide? text).map ({ o with frameInterval := · })
  | .transferTimeout => (wide? text).map ({ o with transferTimeout := · })
  | .output => (path? text).map ({ o with output := · })

/-- The options so far, and which of them were given. -/
structure Progress where
  options : Options := {}
  given : List Name := []

def Progress.set? (p : Progress) (name : Name) (text : String) : Option Progress :=
  if p.given.contains name then none
  else (p.options.set? name text).map fun o => ⟨o, name :: p.given⟩

/-- What one argument is. -/
inductive Argument where
  | valued (name : Name) (value? : Option String)
  | version
  | help
  /-- The mark after which no options come. -/
  | endMark
  | unknown
  deriving DecidableEq, Repr

def longArgument (text : List Char) : Argument :=
  let name := String.ofList (text.takeWhile (· ≠ '='))
  let value? := match text.dropWhile (· ≠ '=') with
    | [] => none
    | _ :: rest => some (String.ofList rest)
  match name, value? with
  | "version", none => .version
  | "help", none => .help
  | name, value? =>
    match Name.ofLong? name with
    | some name => .valued name value?
    | none => .unknown

/-- An argument that begins with one hyphen and a letter. -/
def shortArgument (letter : Char) (text : List Char) : Argument :=
  if letter = 'V' then .version
  else if letter = 'h' then .help
  else
    match Name.ofShort? letter, text with
    | none, _ => .unknown
    | some name, [] => .valued name none
    | some name, '=' :: rest => .valued name (some (String.ofList rest))
    | some name, rest => .valued name (some (String.ofList rest))

def argument (text : String) : Argument :=
  match text.toList with
  | ['-', '-'] => .endMark
  | '-' :: '-' :: rest => longArgument rest
  | '-' :: letter :: rest => shortArgument letter rest
  | _ => .unknown

/-- Whether an argument can be the value of the option before it. -/
def isValue (text : String) : Bool :=
  match text.toList with
  | '-' :: _ :: _ => false
  | _ => true

/-- Takes the arguments one after the other; `none` if they are misused. -/
def parseFrom (p : Progress) : List String → Option Request
  | [] => some (.run p.options)
  | text :: rest =>
    match argument text with
    | .version => some .version
    | .help => some .help
    | .endMark => if rest.isEmpty then some (.run p.options) else none
    | .unknown => none
    | .valued name (some value) => (p.set? name value).bind fun p => parseFrom p rest
    | .valued name none =>
      match rest with
      | [] => none
      | value :: rest =>
        if isValue value then (p.set? name value).bind fun p => parseFrom p rest else none

/-- What the arguments ask for; `none` if they are misused. -/
def parse? (arguments : List String) : Option Request := parseFrom {} arguments

end Options

end UsbDisplay.Command
