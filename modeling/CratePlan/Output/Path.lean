/-!
Paths of files that would be written. A path is a text with slashes; nothing in it is normalized.
Two paths lead to the same place in a tree without links if they have the same components: repeated
slashes, slashes at the end and single dots other than a leading one do not count.
-/

namespace CratePlan.Output

/-- A path joined to a base. An absolute path replaces the base; otherwise one slash stands between
the two, unless the base is empty or ends with a slash already. -/
def join (base path : String) : String :=
  match path.toList.head?, base.toList.getLast? with
  | some '/', _ => path
  | _, none => path
  | _, some '/' => base ++ path
  | _, some _ => base ++ "/" ++ path

/-- A path that arises by joining parts, from the first to the last, to the empty path. -/
def joinAll (parts : List String) : String :=
  parts.foldl join ""

/-- The pieces of a text between slashes; `piece` is the piece under way, read backwards. -/
def piecesFrom (piece : List Char) : List Char → List (List Char)
  | [] => [piece.reverse]
  | c :: rest =>
    if c = '/' then piece.reverse :: piecesFrom [] rest else piecesFrom (c :: piece) rest

/-- The pieces of a text between slashes. -/
def pieces (s : String) : List String :=
  (piecesFrom [] s.toList).map String.ofList

/-- What a path says about a place: whether it starts at the root, and the steps from there. -/
structure Components where
  absolute : Bool
  steps : List String
deriving Repr, DecidableEq

/-- The components of a path. A dot counts only as the first piece of a relative path. -/
def components (path : String) : Components :=
  let absolute := path.toList.head? = some '/'
  match pieces path with
  | [] => ⟨absolute, []⟩
  | first :: rest =>
    let later := rest.filter fun piece => piece != "" && piece != "."
    ⟨absolute, if first = "" then later else first :: later⟩

/-- Whether two paths lead to the same place. -/
def samePlace (a b : String) : Bool :=
  components a = components b

end CratePlan.Output
