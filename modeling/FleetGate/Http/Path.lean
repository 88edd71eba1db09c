import FleetGate.Text.CodePoint

/-!
# Paths

A path is a list of segments with slashes between them. `Path.label` replaces the segments that
look like record identifiers, so that the requests for different records share one label. A
`Guard` protects every path below its prefix; it compares whole segments, so a longer name that
starts alike is not protected.
-/

namespace FleetGate

namespace Path

/-- The segments of a path. -/
def segments (path : Text) : List Text :=
  Text.splitOn '/' path

/-- The path of segments. -/
def ofSegments (segments : List Text) : Text :=
  Text.joinWith (Text.ofChar '/') segments

@[simp]
theorem ofSegments_segments (path : Text) : ofSegments (segments path) = path :=
  Text.joinWith_splitOn '/' path

/-- A segment of 36 code points, four of them hyphens. -/
def isIdentifier (segment : Text) : Bool :=
  segment.length == 36 && segment.countP (·.is '-') == 4

/-- What stands for an identifier in a label. -/
def placeholder : Text := Text.ofString "\x7bid\x7d"

/-- A segment in a label. -/
def labelSegment (segment : Text) : Text :=
  if isIdentifier segment then placeholder else segment

/-- The label of a path. -/
def label (path : Text) : Text :=
  ofSegments ((segments path).map labelSegment)

/-- A path without the slashes at its end. -/
def dropTrailingSlashes (path : Text) : Text :=
  (path.reverse.dropWhile (·.is '/')).reverse

/-- What is left of a path below a root path. A root path counts only if it is followed by a slash
or by nothing. -/
def below (rootPath path : Text) : Text :=
  if rootPath.isEmpty || !Text.startsWith path rootPath then path
  else
    match path.drop rootPath.length with
    | [] => []
    | point :: rest => if point.is '/' then point :: rest else path

end Path

/-- The protection of all paths below a prefix. -/
structure Guard where
  pathPrefix : Text

namespace Guard

/-- Slashes at the end of a configured prefix do not count. -/
def ofPrefix (configured : Text) : Guard :=
  ⟨Path.dropTrailingSlashes configured⟩

/-- The path is the prefix or stands below it. The empty prefix protects every path. -/
def covers (guard : Guard) (path : Text) : Bool :=
  guard.pathPrefix.isEmpty || path == guard.pathPrefix ||
    Text.startsWith path (guard.pathPrefix ++ Text.ofChar '/')

end Guard

end FleetGate
