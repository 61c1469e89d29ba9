import ResumableWatch.Bytes.Decoding
import ResumableWatch.Event
import ResumableWatch.Json.Parser
/-!
# Body lines

The body of a watch response has one JSON frame on each line; blank lines only keep the connection
alive.  A line that is no JSON text, or no frame, is an item too: a failure of its own, after which
the stream goes on.  Two kinds of content are not met by an item, a number too large for a status
code and a nesting too deep to read: their failure strikes the reader.
-/

namespace ResumableWatch.Frame

/-- The lines of a body behind some lines and the beginning of another one, both in reverse. -/
def linesAfter (before : List (List UInt8)) (begun : List UInt8) : List UInt8 → List (List UInt8)
  | [] => (if begun.isEmpty then before else begun.reverse :: before).reverse
  | b :: rest =>
    if b = 0x0a then linesAfter ((b :: begun).reverse :: before) [] rest
    else linesAfter before (b :: begun) rest

/-- The lines of a body, each with the byte that ends it. -/
def lines (body : List UInt8) : List (List UInt8) := linesAfter [] [] body

theorem flatten_linesAfter (before : List (List UInt8)) (begun body : List UInt8) :
    (linesAfter before begun body).flatten = before.reverse.flatten ++ begun.reverse ++ body := by
  induction body generalizing before begun with
  | nil => cases begun <;> simp [linesAfter]
  | cons b rest ih => by_cases h : b = 0x0a <;> simp [linesAfter, h, ih]

/-- Nothing of a body is lost. -/
theorem flatten_lines (body : List UInt8) : (lines body).flatten = body := by
  simp [lines, flatten_linesAfter]

/-- A line without the blanks around it; an empty one carries no frame. -/
def content (line : List UInt8) : List UInt8 := Text.strip Bytes.isBlank line

/-- The failure of a line that is not JSON text, with the line as it was. -/
def unreadable (cause : String) (line : List UInt8) : Failure :=
  .undecodable ("undecodable watch frame: " ++ cause) (.bytes line)

/-- The failure of a line, by its cause.  Too deep a nesting has nothing to do with the line, so it
is a failure of the reader. -/
def ofCause (cause : Json.ParseError) (line : List UInt8) : Failure :=
  match cause with
  | .tooDeep _ => .tooDeep cause.message
  | _ => unreadable cause.message line

/-- The JSON value on a line. -/
def json (line : List UInt8) : Except Failure Json :=
  match Bytes.decode line with
  | .error fault => .error (unreadable fault.message line)
  | .ok chars =>
    match Json.parseChars chars with
    | .ok frame => .ok frame
    | .error cause => .error (ofCause cause line)

/-- A failure that stands for the line in the stream, or the failure itself. -/
def delivered (failure : Failure) : Except Failure Item :=
  match failure with
  | .undecodable .. => .ok (.failure failure)
  | _ => .error failure

/-- The item of a line. -/
def item (decoder : Option Decoder) (line : List UInt8) : Except Failure Item :=
  match json line with
  | .error failure => delivered failure
  | .ok frame =>
    match Event.ofFrame? decoder frame with
    | .error failure => delivered failure
    | .ok event => .ok (.event event)

/-- What the decoder hands to the API client when it reads a line. -/
def handedOver? (decoder : Option Decoder) (line : List UInt8) : Option (String × String) :=
  match json line with
  | .error _ => none
  | .ok frame => Event.handedOver? decoder frame

end ResumableWatch.Frame
