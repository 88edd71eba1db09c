import FleetGate.Bytes.Percent
import FleetGate.Http.Host
import FleetGate.Http.Message

/-!
# The URL of a request

Some layers look at the URL that a request was sent to, put together from its host header, its path
and its query. A header that names no host is not used; the name of the server stands in for it. A
query that is not UTF-8 belongs to no URL. A URL that is sent out in a header is written in ASCII:
every other byte becomes a percent escape.
-/

namespace FleetGate

namespace Url

/-- Punctuation that stands for itself in a URL. -/
def plainPunctuation : List Char :=
  "_.-~:/%#?=@[]!$&'()*+,;".toList

/-- The character stands for itself in a URL. -/
def isPlain (char : Char) : Bool :=
  char.isAlphanum || plainPunctuation.contains char

/-- A URL in ASCII. -/
def escape (url : Text) : Except Fault Text :=
  (Percent.encode isPlain url).mapError fun fault => ⟨.encoding, fault.message⟩

end Url

namespace Url

/-- A code point of a path in a URL, where it must not end the path. -/
def escapePoint (point : CodePoint) : Text :=
  if point.is '?' then "%3F"
  else if point.is '#' then "%23"
  else if point.is '\\' then "%5C"
  else [point]

/-- A path as it stands in a URL: behind a slash, and without characters that end it. -/
def ofPath (path : Text) : Text :=
  let escaped := path.flatMap escapePoint
  if (path.head?.map (·.is '/')).getD false then escaped else Text.ofChar '/' ++ escaped

/-- Characters that a URL loses when it is read. -/
def isDropped (point : CodePoint) : Bool :=
  point.is '\t' || point.is '\n' || point.is '\r'

end Url

namespace Request

/-- The host of a request. -/
def host (request : Request) : Text :=
  match request.header? "host" with
  | some host => if Host.isValid host then host else request.server
  | none => request.server

/-- The query of a request as a text. -/
def queryText (request : Request) : Except Fault Text :=
  match Bytes.readUtf8 request.query with
  | .error fault => .error ⟨.decoding, fault.message⟩
  | .ok chars => .ok (chars.map .scalar)

/-- The URL of a request that is sent to another path. -/
def urlAt (request : Request) (path : Text) : Except Fault Text :=
  request.queryText.map fun query =>
    let question := if query.isEmpty then [] else Text.ofChar '?' ++ query
    Text.ofString "http://" ++ request.host ++ Url.ofPath path ++ question

/-- The path that is read out of the URL of a request. -/
def urlPath (request : Request) : Except Fault Text :=
  request.queryText.map fun _ =>
    (Url.ofPath request.path).filter fun point => !Url.isDropped point

end Request

end FleetGate
