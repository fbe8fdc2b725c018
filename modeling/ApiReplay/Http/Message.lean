import ApiReplay.Http.Percent
import ApiReplay.Text.Blank
import ApiReplay.Text.Encoding

/-!
# Messages on the wire

A client sends requests, and a server replies or does not. Names of headers are in small letters and
repeated headers stay together. A reply may announce how long its body is; some replies have no
body.

## Main definitions

* `Http.Request`: method, target, headers and body of a request.
* `Http.isMethod`, `Http.isHeaderName`, `Http.isHeaderValue`: what messages may hold.
* `Http.Reply`, `Http.Delivery`: replies, and what becomes of a request.
* `Http.Reply.arriving`, `Http.Reply.contents?`, `Http.Reply.text?`: the body of a reply: the bytes
  that arrive, all of them if they do, and their text.
-/

namespace ApiReplay.Http

/-! ### Headers -/

/-- A header. -/
abbrev Header := String × String

/-- Whether a character may stand in a method or the name of a header. -/
def isTokenChar (c : Char) : Bool :=
  c.isAlphanum || "!#$%&'*+-.^_\x60|~".toList.contains c

/-- Whether a text is a method. -/
def isMethod (text : String) : Bool :=
  text ≠ "" && text.toList.all isTokenChar

/-- Whether a text is the name of a header. -/
def isHeaderName (text : String) : Bool :=
  text ≠ "" && text.toList.all isTokenChar

/-- Whether a text is the value of a header: it holds no control character but the tab. -/
def isHeaderValue (text : String) : Bool :=
  text.toList.all fun c => c = '\t' || (' ' ≤ c && c ≠ '\x7f')

/-- A text in small letters. -/
def lower (text : String) : String :=
  String.ofList (text.toList.map Char.toLower)

/-- The value of the first header with a name. -/
def headerValue? (name : String) (headers : List Header) : Option String :=
  headers.lookup name

/-- Puts a header behind the last one of its name, or at the end. -/
def place (header : Header) : List Header → List Header
  | [] => [header]
  | h :: rest =>
    if h.1 = header.1 ∧ !rest.any (·.1 = header.1) then h :: header :: rest
    else h :: place header rest

/-- The headers with those of the same name next to each other, at the place of the first. -/
def grouped (headers : List Header) : List Header :=
  headers.foldl (fun placed header => place header placed) []

/-- The value of a header without the blanks around it. -/
def trimValue (value : String) : String :=
  let isSpace := fun (c : Char) => c = ' ' || c = '\t'
  String.ofList ((value.toList.dropWhile isSpace).reverse.dropWhile isSpace).reverse

/-! ### Requests -/

/-- A request as the server sees it. -/
structure Request where
  method : String
  /-- The path and the query, as they stand on the request line. -/
  target : String
  /-- The headers, names in small letters. -/
  headers : List Header
  body : String

/-! ### Replies -/

/-- A reply as it is sent. -/
structure Reply where
  status : Nat := 200
  reason : String := "Reply"
  headers : List Header := []
  body : List UInt8 := []
  /-- The announced length of the body; without one the body ends with the connection. -/
  length : Option Nat := none

/-- What becomes of a request. -/
inductive Delivery where
  | reply (reply : Reply)
  /-- The connection is closed without a reply. -/
  | closed
  /-- Nothing happens any more. -/
  | silence

namespace Reply

/-- Whether the reply to a method has a body. -/
def hasBody (method : String) (r : Reply) : Bool :=
  method ≠ "HEAD" && r.status ≠ 204 && r.status ≠ 304

/-- The bytes of the body of the reply to a method that arrive, no more than were announced. -/
def arriving (method : String) (r : Reply) : List UInt8 :=
  if r.hasBody method then r.length.elim r.body r.body.take else []

/-- The body of the reply to a method, as far as it was announced; none when it ends early. -/
def contents? (method : String) (r : Reply) : Option (List UInt8) :=
  if r.hasBody method then
    match r.length with
    | none => some r.body
    | some length => if r.body.length < length then none else some (r.body.take length)
  else some []

/-- The headers of a reply as a client lists them: grouped by name, and without those whose values
hold anything but visible characters of ASCII, spaces and tabs. -/
def shownHeaders (r : Reply) : List Header :=
  let headers := grouped (r.headers.map fun (name, value) => (lower name, trimValue value))
  headers.filter fun h => h.2.toList.all fun c => c = '\t' || (' ' ≤ c && c ≤ '~')

/-! ### Types of bodies -/

/-- The value of a parameter of a type, between quotes or not, and what follows it. -/
def parameterValue (text : List Char) : Option (List Char × List Char) :=
  match text with
  | '"' :: rest =>
    match rest.span (· ≠ '"') with
    | (value, _ :: rest) => some (value, rest)
    | _ => none
  | text =>
    let value := text.takeWhile isTokenChar
    if value.isEmpty then none else some (value, text.drop value.length)

/-- The parameters of a type; none when they are malformed. -/
def parameters? : Nat → List Char → Option (List (List Char × List Char))
  | 0, _ => none
  | fuel + 1, text =>
    match text.dropWhile (· = ' ') with
    | [] => some []
    | ';' :: rest =>
      let rest := rest.dropWhile (· = ' ')
      if rest.isEmpty then some []
      else
        let name := rest.takeWhile isTokenChar
        match rest.drop name.length with
        | '=' :: rest => do
          let (value, rest) ← parameterValue rest
          some ((name.map Char.toLower, value) :: (← parameters? fuel rest))
        | _ => none
    | _ => none

/-- The encoding that a type of body tells. -/
def encoding? (type : List Char) : Option Text.Encoding := do
  let major := type.takeWhile isTokenChar
  match type.drop major.length with
  | '/' :: rest =>
    let minor := rest.takeWhile isTokenChar
    if major.isEmpty ∨ minor.isEmpty then none
    else
      let parameters ← parameters? (rest.length + 1) (rest.drop minor.length)
      Text.Encoding.ofLabel? (← parameters.lookup "charset".toList)
  | _ => none

/-- The text of the body of the reply to a method. -/
def text? (method : String) (r : Reply) : Option String := do
  let bytes ← r.contents? method
  let encoding :=
    (headerValue? "content-type" r.shownHeaders).bind fun type => encoding? type.toList
  some ((encoding.getD .utf8).decode bytes)

end Reply

end ApiReplay.Http
