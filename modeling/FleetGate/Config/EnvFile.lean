import FleetGate.Entries
import FleetGate.Text.Blank

/-!
# Environment files

An environment file has one binding per line: an optional `export`, a name, an equals sign and a
value, which may stand in quotes and then run over several lines. Comments start with a number
sign. A line that does not fit is skipped. Values may refer to other variables as `$` with the
name in braces, with a default after `:-`.
-/

namespace FleetGate

namespace EnvFile

/-- White space that does not end a line. -/
def isGap (point : CodePoint) : Bool :=
  point.isBlank && !point.is '\n' && !point.is '\r'

/-- Line ends of all kinds become line feeds. -/
def unifyLines : Text → Text
  | [] => []
  | [point] => [if point.is '\r' then .scalar '\n' else point]
  | point :: next :: rest =>
    if point.is '\r' then
      if next.is '\n' then unifyLines (next :: rest) else .scalar '\n' :: unifyLines (next :: rest)
    else point :: unifyLines (next :: rest)

/-- What follows the word `export` and the gap after it; without them the text itself. -/
def dropExport (text : Text) : Text :=
  let word := Text.ofString "export"
  let rest := text.drop word.length
  if Text.startsWith text word && (rest.head?.map isGap).getD false then rest.dropWhile isGap
  else text

/-- A character that may stand in a name without quotes. -/
def isNamePoint (point : CodePoint) : Bool :=
  !(point.is '=' || point.is '#' || point.isBlank)

/-- The number of code points in front of the quote that closes a value: the first that no
backslash escapes, or else the last one. A backslash that is escaped itself escapes nothing. -/
def closingQuote? (quote : Char) : (escaped : Bool) → Text → Option Nat
  | _, [] => none
  | escaped, point :: rest =>
    if point.is quote then
      if escaped then
        match closingQuote? quote false rest with
        | some later => some (later + 1)
        | none => some 0
      else some 0
    else (closingQuote? quote (point.is '\\' && !escaped) rest).map (· + 1)

/-- The characters that a backslash stands in front of, by the kind of quotes, with what they
mean together. -/
def escape? (quote : Char) (mark : CodePoint) : Option Char :=
  if mark.is '\\' then some '\\'
  else if mark.is '\'' then some '\''
  else if quote = '\'' then none
  else if mark.is '"' then some '"'
  else if mark.is 'a' then some '\x07'
  else if mark.is 'b' then some '\x08'
  else if mark.is 'f' then some '\x0c'
  else if mark.is 'n' then some '\n'
  else if mark.is 'r' then some '\r'
  else if mark.is 't' then some '\t'
  else if mark.is 'v' then some '\x0b'
  else none

/-- Replaces the escapes of a quoted value. -/
def unescape (quote : Char) : Text → Text
  | [] => []
  | [point] => [point]
  | point :: mark :: rest =>
    if point.is '\\' then
      match escape? quote mark with
      | some char => .scalar char :: unescape quote rest
      | none => point :: unescape quote (mark :: rest)
    else point :: unescape quote (mark :: rest)

/-- A value without quotes up to a comment with white space in front of it. -/
def dropComment : Text → Text
  | [] => []
  | point :: rest =>
    if point.isBlank && ((rest.dropWhile (·.isBlank)).head?.map (·.is '#')).getD false then []
    else point :: dropComment rest

/-- A name at the start of a text. `none` stands for a comment, which has no name. -/
def readName? (text : Text) : Option (Option Text × Text) :=
  match text with
  | [] => none
  | point :: rest =>
    if point.is '#' then some (none, text)
    else if point.is '\'' then
      let name := rest.takeWhile fun point => !point.is '\''
      match rest.drop name.length with
      | [] => none
      | _ :: after => if name.isEmpty then none else some (some name, after)
    else
      let name := text.takeWhile isNamePoint
      if name.isEmpty then none else some (some name, text.drop name.length)

/-- A value without quotes at the start of a text, and what follows its line. -/
def readPlain (text : Text) : Text × Text :=
  let line := text.takeWhile fun point => !point.is '\n'
  ((dropComment line).trim, text.drop line.length)

/-- A value behind an equals sign and what follows, and also where reading stands if the value
does not fit. -/
def readValue (text : Text) : Except Text (Text × Text) :=
  match text.dropWhile isGap with
  | [] => .ok ([], [])
  | point :: rest =>
    if point.is '\'' || point.is '"' then
      let quote := if point.is '"' then '"' else '\''
      match closingQuote? quote false rest with
      | some length => .ok (unescape quote (rest.take length), rest.drop (length + 1))
      | none => .error (point :: rest)
    else .ok (readPlain text)

/-- What follows the end of a line, after an optional comment; where reading stands if something
else is there. -/
def readLineEnd (text : Text) : Except Text Text :=
  let rest := text.dropWhile isGap
  let rest :=
    if (rest.head?.map (·.is '#')).getD false then rest.dropWhile fun point => !point.is '\n'
    else rest
  match rest with
  | [] => .ok []
  | point :: after => if point.is '\n' then .ok after else .error rest

/-- A name with a value, if it has one. -/
structure Binding where
  name : Text
  value : Option Text

/-- The binding at the start of a text, if there is one, and what follows. A line that does not
fit is an error, which says where reading stands. -/
def readBinding (text : Text) : Except Text (Option Binding × Text) :=
  let start := dropExport text
  match readName? start with
  | none => .error start
  | some (name?, rest) =>
    let rest := rest.dropWhile isGap
    let valued : Except Text (Option Text × Text) :=
      match rest with
      | point :: after =>
        if point.is '=' then
          match readValue after with
          | .ok (value, rest) => .ok (some value, rest)
          | .error place => .error place
        else .ok (none, rest)
      | [] => .ok (none, [])
    match valued with
    | .error place => .error place
    | .ok (value, rest) =>
      match readLineEnd rest with
      | .error place => .error place
      | .ok rest => .ok (name?.map fun name => ⟨name, value⟩, rest)

/-- The bindings of a text. The bound is the length of the text. -/
def readBindings : (bound : Nat) → Text → List Binding
  | 0, _ => []
  | bound + 1, text =>
    match text.dropWhile (·.isBlank) with
    | [] => []
    | rest =>
      match readBinding rest with
      | .ok (binding, rest) => binding.toList ++ readBindings bound rest
      | .error place =>
        readBindings bound ((place.dropWhile fun point => !point.is '\n').drop 1)

/-- A piece of a value: plain text, or a reference to a variable. -/
inductive Atom where
  | plain (text : Text)
  | reference (name : Text) (standard : Option Text)

/-- A reference at the start of a text, after its dollar sign and brace. -/
def readReference? (text : Text) : Option (Atom × Text) :=
  let name := text.takeWhile fun point => !(point.is '\x7d' || point.is ':')
  let rest := text.drop name.length
  match rest with
  | [] => none
  | point :: after =>
    if point.is '\x7d' then some (.reference name none, after)
    else
      match after with
      | [] => none
      | mark :: after =>
        if mark.is '-' then
          let standard := after.takeWhile fun point => !point.is '\x7d'
          match after.drop standard.length with
          | [] => none
          | _ :: last => some (.reference name (some standard), last)
        else none

/-- The pieces of a value. The bound is the length of the text. -/
def readAtoms : (bound : Nat) → Text → List Atom
  | 0, _ => []
  | _ + 1, [] => []
  | bound + 1, point :: rest =>
    let plain := Atom.plain [point] :: readAtoms bound rest
    match rest with
    | brace :: after =>
      if point.is '$' && brace.is '\x7b' then
        match readReference? after with
        | some (atom, rest) => atom :: readAtoms bound rest
        | none => plain
      else plain
    | [] => plain

/-- The text of a piece. A variable without a value counts as empty. -/
def Atom.resolve (known : Entries (Option Text)) : Atom → Text
  | plain text => text
  | reference name standard =>
    match Entries.find name known with
    | some value => value.getD []
    | none => standard.getD []

/-- Replaces the references in the values of bindings, each by what stands before it in the file
or else in the environment. -/
def resolve (environment : Entries Text) (bindings : List Binding) : Entries (Option Text) :=
  bindings.foldl (fun done binding =>
    let known := Entries.putAll (environment.map fun (name, value) => (name, some value)) done
    let value := binding.value.map fun text =>
      (readAtoms text.length text).flatMap (·.resolve known)
    Entries.put binding.name value done) []

/-- A text without the byte order mark that it may start with. -/
def dropMark : Text → Text
  | [] => []
  | point :: rest => if point.value = 0xFEFF then rest else point :: rest

/-- The variables of a file under an environment. -/
def read (environment : Entries Text) (file : Text) : Entries (Option Text) :=
  let text := unifyLines (dropMark file)
  resolve environment (readBindings (text.length + 1) text)

end EnvFile

end FleetGate
