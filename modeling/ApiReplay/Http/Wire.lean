import ApiReplay.Http.Message
import ApiReplay.Http.Url
import ApiReplay.Number
import ApiReplay.Text.Digits
import ApiReplay.Text.Utf8

/-!
# Messages as bytes

A message has a first line, lines with its headers, an empty line, and its body. The length of the
body is announced, or the body comes in chunks that announce their own, or it ends with the
connection.

## Main definitions

* `Http.Request.bytes`: a request as it is sent to a host.
* `Http.Reply.ofBytes?`: the reply that bytes write.
-/

namespace ApiReplay.Http

/-! ### Requests -/

/-- The end of a line. -/
def lineEnd : String := "\r\n"

/-- A header as a line. -/
def headerLine (header : Header) : String :=
  header.1 ++ ": " ++ header.2 ++ lineEnd

/-- A request as it is sent to a host. -/
def Request.bytes (host : String) (r : Request) : List UInt8 :=
  let body := Text.encode r.body.toList
  let framing := [("host", host), ("content-length", natText body.length), ("connection", "close")]
  let head := r.method ++ " " ++ r.target ++ " HTTP/1.1" ++ lineEnd
    ++ String.join ((framing ++ r.headers).map headerLine) ++ lineEnd
  Text.encode head.toList ++ body

/-! ### Replies -/

/-- The lines up to the first empty one, and what follows that. -/
def headLines (line : List UInt8) : List UInt8 → Option (List String × List UInt8)
  | 13 :: 10 :: rest =>
    if line.isEmpty then some ([], rest)
    else
      (headLines [] rest).map fun (lines, body) =>
        (String.ofList (Text.decodeLossy line.reverse) :: lines, body)
  | byte :: rest => headLines (byte :: line) rest
  | [] => none

/-- The header in a line. -/
def headerOfLine (line : String) : Header :=
  let name := line.toList.takeWhile (· ≠ ':')
  (String.ofList name, trimValue (String.ofList (line.toList.drop (name.length + 1))))

/-- The status and the reason in the first line of a reply. -/
def statusOfLine? (line : String) : Option (Nat × String) :=
  let behind := (line.toList.dropWhile (· ≠ ' ')).drop 1
  let digits := behind.takeWhile (· ≠ ' ')
  (Text.natural? 10 digits).map fun status =>
    (status, String.ofList (behind.drop (digits.length + 1)))

/-- The bytes of a body that comes in chunks, at most so many of them; none when it ends early. -/
def chunks? : Nat → List UInt8 → Option (List UInt8)
  | 0, _ => none
  | fuel + 1, bytes => do
    let line := bytes.takeWhile (· ≠ 10)
    let digits := (Text.decodeLossy line).takeWhile fun c => (Text.hexValue? c).isSome
    let size ← Text.natural? 16 digits
    let rest := bytes.drop (line.length + 1)
    if size = 0 then some []
    else if rest.length < size + 2 then none
    else return rest.take size ++ (← chunks? fuel (rest.drop (size + 2)))

/-- The reply that bytes write, up to the end of the connection. A body whose chunks break off has
one byte less than it announces. -/
def Reply.ofBytes? (bytes : List UInt8) : Option Reply := do
  let (lines, body) ← headLines [] bytes
  let (first, rest) ← lines.head?.map fun first => (first, lines.drop 1)
  let (status, reason) ← statusOfLine? first
  let headers := rest.map headerOfLine
  let announced := fun name => headerValue? name (headers.map fun h => (lower h.1, h.2))
  if (announced "transfer-encoding").map lower = some "chunked" then
    match chunks? (body.length + 1) body with
    | some body => return { status, reason, headers, body }
    | none => return { status, reason, headers, body, length := some (body.length + 1) }
  else
    let length := (announced "content-length").bind fun text => Text.natural? 10 text.toList
    return { status, reason, headers, body, length }

end ApiReplay.Http
