import CommandConsole.Text.Quoted
import CommandConsole.Text.Utf8

/-!
# Faults of encodings

Why a text cannot be encoded, or bytes cannot be decoded, and how that is told.
-/

namespace CommandConsole.Text

/-- The message for bytes that are no text. -/
def flawMessage (codec : String) (position count byte : Nat) (reason : String) : String :=
  let place :=
    if count = 1 then
      let code := String.ofList (hexDigits 2 byte)
      s!"byte 0x{code} in position {position}"
    else s!"bytes in position {position}-{position + count - 1}"
  s!"'{codec}' codec can't decode {place}: {reason}"

/-- The message for bytes that are no text in UTF-8. -/
def Utf8.Flaw.message (f : Utf8.Flaw) : String :=
  flawMessage "utf-8" f.position f.count f.byte.toNat f.defect.message

/-- Why a text cannot be encoded, or bytes cannot be decoded. What does not fit is told by its first
position and the one after its last, with the whole text or all bytes. -/
inductive EncodingFault where
  | unknownEncoding (name : String)
  | noTextEncoding (name verb : String)
  | unknownHandling (name : String)
  | unfitHandling
  | unfit (reason : String)
  | changed (label back : List Char)
  | notEncodable (codec : String) (text : List Char) (start stop : Nat) (reason : String)
  | notDecodable (codec : String) (bytes : List Char) (start stop : Nat) (reason : String)
  | inside (encoding activity : String) (fault : EncodingFault)
  deriving DecidableEq, Repr

namespace EncodingFault

/-- The name of the kind of fault. -/
def label : EncodingFault → String
  | .unknownEncoding _ => "LookupError"
  | .noTextEncoding .. => "LookupError"
  | .unknownHandling _ => "LookupError"
  | .unfitHandling => "TypeError"
  | .unfit _ => "UnicodeError"
  | .changed .. => "UnicodeError"
  | .notEncodable .. => "UnicodeEncodeError"
  | .notDecodable .. => "UnicodeDecodeError"
  | .inside _ _ fault => fault.label

/-- An escape for a character. -/
def escaped (c : Char) : List Char :=
  let n := c.toNat
  if n < 0x100 then '\\' :: 'x' :: hexDigits 2 n
  else if n < 0x10000 then '\\' :: 'u' :: hexDigits 4 n
  else '\\' :: 'U' :: hexDigits 8 n

/-- The message for characters that an encoding does not have. -/
def missingMessage (codec : String) (text : List Char) (start stop : Nat) (reason : String) :
    String :=
  let place := match (text.drop start).take (stop - start) with
    | [c] =>
      let shown := String.ofList (escaped c)
      s!"character '{shown}' in position {start}"
    | _ => s!"characters in position {start}-{stop - 1}"
  s!"'{codec}' codec can't encode {place}: {reason}"

/-- The message of a fault. -/
def message : EncodingFault → String
  | .unknownEncoding name => s!"unknown encoding: {name}"
  | .noTextEncoding name verb =>
    s!"'{name}' is not a text encoding; use codecs.{verb}() to handle arbitrary codecs"
  | .unknownHandling name => s!"unknown error handler name '{name}'"
  | .unfitHandling => "don't know how to handle UnicodeDecodeError in error callback"
  | .unfit reason => reason
  | .changed label back =>
    s!"('IDNA does not round-trip', b{quoted (.ofList label)}, b{quoted (.ofList back)})"
  | .notEncodable codec text start stop reason => missingMessage codec text start stop reason
  | .notDecodable codec bytes start stop reason =>
    flawMessage codec start (stop - start) ((bytes[start]?.map (·.toNat)).getD 0) reason
  | .inside encoding activity fault =>
    s!"{activity} with '{encoding}' codec failed ({fault.label}: {fault.message})"

end EncodingFault

namespace Encoding

/-- Bytes that are no text: where they start, how many there are, and why. -/
structure Flaw where
  position : Nat
  count : Nat
  reason : String

end Encoding

end CommandConsole.Text
