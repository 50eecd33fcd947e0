/-!
# File trees

The files below a working directory.  A path is followed name by name; the empty name and `.` stay
where they are and `..` goes up, and none of them leads anywhere from a file.  Above the working
directory there are directories, and nothing else is known about them.
-/

namespace PolySql

/-- What a path leads to. -/
inductive FileEntry where
  | file (content : ByteArray)
  | directory

/-- Files and directories by the names on the way to them.  The directories on the way to an entry
are there without entries of their own. -/
structure FileTree where
  entries : List (List String × FileEntry)

namespace FileTree

/-- The names of a path. -/
def splitPath (path : String) : List String := (path.toList.splitOn '/').map String.ofList

/-- A name that stays where it is. -/
def staysHere (name : String) : Bool := name = "" || name = "."

/-- The tree of files and directories with paths. -/
def ofList (entries : List (String × FileEntry)) : FileTree :=
  ⟨entries.map fun (path, entry) => ((splitPath path).filter (!staysHere ·), entry)⟩

/-- The entry at the end of the names. -/
def entryAt? (t : FileTree) (names : List String) : Option FileEntry :=
  match t.entries.lookup names with
  | some entry => some entry
  | none =>
    if names = [] ∨ t.entries.any (fun entry => names.isPrefixOf entry.1) = true then
      some .directory
    else none

/-- Follow the names of a path from the directory at `here`. -/
def follow? (t : FileTree) (here : List String) : List String → Option FileEntry
  | [] => t.entryAt? here
  | name :: rest =>
    match t.entryAt? here with
    | some .directory =>
      if staysHere name then t.follow? here rest
      else if name = ".." then
        if here ≠ [] then t.follow? here.dropLast rest
        else if rest.all fun name => staysHere name || name = ".." then some .directory
        else none
      else t.follow? (here ++ [name]) rest
    | _ => none

/-- What a path leads to from the working directory.  No file has an empty path; of what lies at the
root only the root itself is known. -/
def find? (t : FileTree) (path : String) : Option FileEntry :=
  if path.isEmpty then none
  else if path.toList.head? = some '/' then
    if (splitPath path).all fun name => staysHere name || name = ".." then some .directory else none
  else t.follow? [] (splitPath path)

/-- The path of what has a path from a directory.  The directory of the empty path is the working
directory. -/
def join (directory path : String) : String :=
  if directory.isEmpty then path else directory ++ "/" ++ path

end FileTree

end PolySql
