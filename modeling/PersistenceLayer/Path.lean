import PersistenceLayer.Text.Split

/-!
# Paths

A path is kept as it was built, since messages show it that way, and compared by
its components, since two spellings can lead to the same place.
-/

namespace PersistenceLayer

/-- A path as it was built. -/
structure Path where
  text : String
  deriving DecidableEq, Repr

namespace Path

/-- A component of a path. -/
inductive Component where
  | root
  | current
  | parent
  | normal (name : String)
  deriving DecidableEq, Repr

/-- The component that a segment between slashes makes. Nothing and a single dot make none. -/
def component? (segment : String) : Option Component :=
  if segment = "" ∨ segment = "." then none
  else if segment = ".." then some .parent
  else some (.normal segment)

/-- Whether a path starts at the root. -/
def isAbsolute (path : Path) : Bool :=
  path.text.toList.head? == some '/'

/-- What a path starts with, and the segments after it. Only there does a single dot count. -/
def split (path : Path) : List Component × List String :=
  match Text.splitAt '/' path.text with
  | [] => ([], [])
  | first :: rest =>
    if path.isAbsolute then ([.root], rest)
    else if first = "." then ([.current], rest)
    else ([], first :: rest)

/-- The components of a path. -/
def components (path : Path) : List Component :=
  path.split.1 ++ path.split.2.filterMap component?

/-- The last component, if it is a name that the path ends in. After a slash or a single dot at its
end a path names no file. -/
def lastName? (path : Path) : Option String :=
  match (Text.splitAt '/' path.text).getLast?.bind component? with
  | some (.normal name) => some name
  | _ => none

/-- Whether a path ends in a single dot, which stands for the directory before it. -/
def endsInDot (path : Path) : Bool :=
  (path.split.2.filter fun segment => segment ≠ "").getLast? == some "."

/-- Whether a path stays below where it starts: it has no root and no step upwards. -/
def isNormal (path : Path) : Bool :=
  path.components.all fun component =>
    match component with
    | .normal _ => true
    | _ => false

/-- A path followed by another one, which replaces it if it starts at the root. -/
def join (path other : Path) : Path :=
  if other.isAbsolute || path.text.isEmpty then other
  else if path.text.toList.getLast? == some '/' then ⟨path.text ++ other.text⟩
  else ⟨path.text ++ "/" ++ other.text⟩

/-- A list of segments without those at its end that make no component. -/
def dropVoid (segments : List String) : List String :=
  (segments.reverse.dropWhile fun segment => (component? segment).isNone).reverse

/-- What a path starts with, as it is written. -/
def anchorText : List Component → String
  | [] => ""
  | .root :: _ => "/"
  | .current :: _ => "."
  | .parent :: _ => ".."
  | .normal name :: _ => name

/-- The path without its last component, if there is one. -/
def parent? (path : Path) : Option Path :=
  let (anchor, body) := path.split
  match (dropVoid body).reverse with
  | [] => if anchor = [.current] then some ⟨""⟩ else none
  | _ :: before =>
    let rest := "/".intercalate (dropVoid before.reverse)
    match anchor with
    | [] => some ⟨rest⟩
    | .root :: _ => some ⟨"/" ++ rest⟩
    | anchor => some ⟨if rest = "" then anchorText anchor else anchorText anchor ++ "/" ++ rest⟩

/-- The directory of a package: its dots separate directories, and empty segments are left out. -/
def ofPackage (packageName : String) : Path :=
  ((Text.splitAt '.' packageName).filter fun segment => segment ≠ "").foldl
    (fun path segment => path.join ⟨segment⟩) ⟨""⟩

end Path

end PersistenceLayer
