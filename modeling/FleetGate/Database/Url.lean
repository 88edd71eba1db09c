import FleetGate.Bytes.Percent
import FleetGate.Entries
import FleetGate.Number.Spelled
import FleetGate.Text.Word

/-!
# Database URLs

The URL of a database names a driver by its scheme, a server, a database and options. The user, the
password, the database and the options may hold percent escapes, which `DatabaseUrl.read` replaces
and `DatabaseUrl.write` puts back. Whatever stands behind the last part is not read.
-/

namespace FleetGate

/-- The URL of a database in its parts. An option that is given several times has several values. -/
structure DatabaseUrl where
  scheme : Text
  user : Option Text
  password : Option Text
  host : Option Text
  port : Option Int
  database : Option Text
  options : Entries (List Text)

namespace DatabaseUrl

/-! ## Reading -/

/-- A character that may stand in a scheme. -/
def isSchemePoint (point : CodePoint) : Bool :=
  point.isWord || point.is '+'

/-- A character of the part between the scheme and the database. -/
def isServerPoint (point : CodePoint) : Bool :=
  !(point.is '/' || point.is '?')

/-- A part that starts with a mark, without the mark, and what follows it. -/
def takePart (mark : Char) (inside : CodePoint → Bool) (text : Text) : Option Text × Text :=
  match text with
  | [] => (none, [])
  | point :: rest =>
    if point.is mark then
      let part := rest.takeWhile inside
      (some part, rest.drop part.length)
    else (none, text)

/-- The user and the password in front of an at sign, and what follows it. A password ends at the
first at sign, a user without one at the last. -/
def takeUser (text : Text) : Option Text × Option Text × Text :=
  let name := text.takeWhile fun point => !(point.is ':' || point.is '/')
  let (password, behind) := takePart ':' (fun point => !point.is '@') (text.drop name.length)
  if password.isSome && !behind.isEmpty then (some name, password, behind.drop 1)
  else if name.any (·.is '@') then
    let host := (name.reverse.takeWhile fun point => !point.is '@').reverse
    (some (name.take (name.length - host.length - 1)), none, text.drop (name.length - host.length))
  else (none, none, text)

/-- The host, which may stand in brackets, and what follows it. -/
def takeHost (text : Text) : Option Text × Text :=
  let server := text.takeWhile isServerPoint
  let bracketed := (server.reverse.dropWhile fun point => !point.is ']').reverse
  if (text.head?.map (·.is '[')).getD false && 2 < bracketed.length then
    (some (bracketed.drop 1).dropLast, text.drop bracketed.length)
  else
    let host := server.takeWhile fun point => !point.is ':'
    (if host.isEmpty then none else some host, text.drop host.length)

/-- An option in a query. -/
def decodeOption (text : Text) : Text :=
  Percent.decode (text.map fun point => if point.is '+' then .scalar ' ' else point)

/-- The name and value of a piece of a query. A piece without a value is left out. -/
def readOption? (piece : Text) : Option (Text × Text) :=
  let name := piece.takeWhile fun point => !point.is '='
  let value := piece.drop (name.length + 1)
  if value.isEmpty then none else some (decodeOption name, decodeOption value)

/-- The options of a query. -/
def readOptions (query : Text) : Entries (List Text) :=
  ((Text.splitOn '&' query).filterMap readOption?).foldl (fun done (name, value) =>
    Entries.put name ((Entries.find name done).getD [] ++ [value]) done) []

/-- The URL that a text spells. -/
def read (text : Text) : Except Fault DatabaseUrl :=
  let scheme := text.takeWhile isSchemePoint
  let mark := Text.ofString "://"
  let behind := text.drop scheme.length
  if scheme.isEmpty || !Text.startsWith behind mark then
    .error ⟨.urlArgument, "Could not parse URL from given URL string"⟩
  else
    let (user, password, rest) := takeUser (behind.drop mark.length)
    let (host, rest) := takeHost rest
    let (port, rest) := takePart ':' isServerPoint rest
    let (database, rest) := takePart '/' (fun point => !point.is '?') rest
    let (query, _) := takePart '?' (fun point => !point.is '\n') rest
    let url (port : Option Int) : DatabaseUrl :=
      ⟨scheme, user.map Percent.decode, password.map Percent.decode, host, port,
        database.map Percent.decode, readOptions (query.getD [])⟩
    match port with
    | none => .ok (url none)
    | some digits => digits.readInt.map fun number => url (some number)

/-! ## Writing -/

/-- A character that stands for itself in a user or password. -/
def isPlainName (char : Char) : Bool :=
  Percent.isUnreserved char || char == ' ' || char == '+'

/-- A character that stands for itself in the name of a database. -/
def isPlainPath (char : Char) : Bool :=
  isPlainName char || char == '/'

/-- A character that stands for itself in an option, if blanks become plus signs later on. -/
def isPlainOption (char : Char) : Bool :=
  Percent.isUnreserved char || char == ' '

/-- An option in a query. -/
def encodeOption (text : Text) : Except Bytes.EncodeFault Text := do
  let encoded ← Percent.encode isPlainOption text
  return encoded.map fun point => if point.is ' ' then .scalar '+' else point

/-- One option with all its values, as pieces of a query. -/
def writeOption (name : Text) (values : List Text) : Except Bytes.EncodeFault (List Text) :=
  values.mapM fun value => do
    return (← encodeOption name) ++ Text.ofChar '=' ++ (← encodeOption value)

/-- The options as a query, sorted by their names. -/
def writeOptions (options : Entries (List Text)) : Except Bytes.EncodeFault Text := do
  let sorted := options.mergeSort fun left right => Text.le left.1 right.1
  let pieces ← sorted.mapM fun (name, values) => writeOption name values
  return if pieces.isEmpty then [] else
    Text.ofChar '?' ++ Text.joinWith (Text.ofChar '&') pieces.flatten

/-- The user and the password in front of the host. -/
def writeUser (url : DatabaseUrl) : Except Bytes.EncodeFault Text :=
  match url.user with
  | none => .ok []
  | some user => do
    let password ←
      match url.password with
      | some password => (Percent.encode isPlainName password).map (Text.ofChar ':' ++ ·)
      | none => .ok []
    return (← Percent.encode isPlainName user) ++ password ++ Text.ofChar '@'

/-- The host, in brackets if it holds a colon. -/
def writeHost (url : DatabaseUrl) : Text :=
  match url.host with
  | none => []
  | some host =>
    if host.any (·.is ':') then Text.ofChar '[' ++ host ++ Text.ofChar ']' else host

/-- The text of a URL. -/
def write (url : DatabaseUrl) : Except Bytes.EncodeFault Text := do
  let port :=
    match url.port with
    | some number => Text.ofChar ':' ++ Text.ofInt number
    | none => []
  let database ←
    match url.database with
    | some name => (Percent.encode isPlainPath name).map (Text.ofChar '/' ++ ·)
    | none => .ok []
  return url.scheme ++ Text.ofString "://" ++ (← url.writeUser) ++ url.writeHost ++ port ++
    database ++ (← writeOptions url.options)

end DatabaseUrl

end FleetGate
