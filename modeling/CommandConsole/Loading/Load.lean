import CommandConsole.Console.Operations
import CommandConsole.Loading.Module
import CommandConsole.Text.Split

/-!
# Loading commands

All public modules of a package are imported in turn and their commands registered. What cannot be
registered is skipped with a warning; a module that cannot be imported ends the loading.
-/

/-!
## Installed modules

What can be imported is a tree of files. A file `name.py` is a module, a directory with a file
`__init__.py` a package, whose own attributes that file makes. Paths are lists of names, and so
are the names of modules.
-/

namespace CommandConsole.Loading

open CommandConsole.Text

/-- A file with the recipes of a module. -/
structure SourceFile where
  path : List String
  recipes : List (String × Recipe)

/-- The files that can be imported, and directories that hold no files. -/
structure Installation where
  files : List SourceFile
  directories : List (List String)

/-- What stands behind the name of a module. -/
inductive Source where
  | package (recipes : List (String × Recipe))
  | module (recipes : List (String × Recipe))
  | directory

/-- Whether modules can be looked for in what a name stands for. -/
def Source.isPackage : Source → Bool
  | .package _ => true
  | .module _ => false
  | .directory => true

/-- What importing makes attributes of. -/
def Source.recipes : Source → List (String × Recipe)
  | .package recipes => recipes
  | .module recipes => recipes
  | .directory => []

/-- A module's name in dotted form. -/
def dotted (path : List String) : String :=
  join "." path

/-- The text of a directory's path. -/
def directoryText (path : List String) : String :=
  "/" ++ join "/" path

/-- The file of a package's own attributes. -/
def packageFile : String := "__init__.py"

/-- The name of the module that a file name stands for. -/
def moduleName? (file : String) : Option String :=
  let reversed := file.toList.reverse
  if "yp.".toList.isPrefixOf reversed then some (.ofList (reversed.drop 3).reverse) else none

namespace Installation

/-- The recipes in the file at a path. -/
def recipes? (i : Installation) (path : List String) : Option (List (String × Recipe)) :=
  (i.files.find? (·.path == path)).map (·.recipes)

/-- Whether there is a file at a path. -/
def hasFile (i : Installation) (path : List String) : Bool :=
  (i.recipes? path).isSome

/-- The names in the directory at `path`: of what is in it directly, in order. -/
def names (i : Installation) (path : List String) : List String :=
  let paths := i.files.map (·.path) ++ i.directories
  let inside := paths.filterMap fun p =>
    if path.isPrefixOf p then (p.drop path.length).head? else none
  (inside.mergeSort (· ≤ ·)).eraseDups

/-- Whether there is a directory at a path. -/
def hasDirectory (i : Installation) (path : List String) : Bool :=
  !(i.names path).isEmpty || i.directories.contains path

/-- What the name of a module stands for. -/
def source? (i : Installation) (path : List String) : Option Source :=
  match i.recipes? (path ++ [packageFile]) with
  | some recipes => some (.package recipes)
  | none =>
    match i.recipes? (path.dropLast ++ [path.getLastD "" ++ ".py"]) with
    | some recipes => some (.module recipes)
    | none => if i.hasDirectory path then some .directory else none

/-- The name that a module in a directory is imported by, if `file` stands for one there. -/
def visible? (i : Installation) (path : List String) (file : String) : Option String :=
  let name? := match moduleName? file with
    | some name => if name == "" then none else some name
    | none => if i.hasFile (path ++ [file, packageFile]) then some file else none
  name?.filter fun name => name != "__init__" && !name.toList.contains '.'

/-- The names of the public modules in a package, in the order of their files, each once. -/
def publicModules (i : Installation) (path : List String) : List String :=
  ((i.names path).filterMap (i.visible? path)).eraseDups.filter
    fun name => name.toList.head? != some '_'

/-- Whether there is anything at a path. -/
def exists? (i : Installation) (path : List String) : Bool :=
  i.hasFile path || i.hasDirectory path

/-- The path of the module that a name in a package leads to: a package may have a module
`entrypoint` that stands for it. Anything of the file name of that module makes it be asked for. -/
def commandModule (i : Installation) (path : List String) (name : String) : List String :=
  let inner := path ++ [name]
  if i.hasFile (inner ++ [packageFile]) && i.exists? (inner ++ ["entrypoint.py"]) then
    inner ++ ["entrypoint"]
  else inner

end Installation

end CommandConsole.Loading

/-! ## Loading commands -/

namespace CommandConsole.Loading

open CommandConsole.Text

/-- The failure when there is no module of a name. -/
def noModule (message : String) : Failure :=
  .error "ModuleNotFoundError" message

/-- Imports what stands at `path`, whose packages are imported already, and notes that it was. -/
def importSource (path : List String) (source : Source) : Effect Module := do
  let name := dotted path
  Effect.noteImport name
  let directory := if source.isPackage then some (directoryText path) else none
  Effect.resume (Module.ofRecipes name directory source.recipes)

/-- Whether modules inside the module at `path` can be imported: it has to be a package, and what
stands there is found only in its own directory. -/
def isSearched (path : List String) (m : Module) (inner : List String) : Effect Bool := do
  match m.path? with
  | none =>
    throw (noModule s!"No module named '{dotted inner}'; '{dotted path}' is not a package")
  | some (.value .nothing) => return false
  | some e => return (← Effect.resume e.items).contains (directoryText path)

/-- Imports the modules on the way to `path ++ rest` and gives the last one, the one at `path` being
`outer`. -/
def importFrom (i : Installation) (path : List String) (outer : Option Module) :
    List String → Effect (Option Module)
  | [] => return outer
  | name :: rest => do
    let inner := path ++ [name]
    let searched ← match outer with
      | some m => isSearched path m inner
      | none => pure true
    match if searched then i.source? inner else none with
    | none => throw (noModule s!"No module named '{dotted inner}'")
    | some source =>
      let m ← importSource inner source
      importFrom i inner (some m) rest

/-- Imports a module by its dotted name. -/
def importModule (i : Installation) (name : String) : Effect (Option Module) := do
  if name == "" then throw (.badValue "Empty module name")
  if name.toList.head? == some '.' then
    throw (.badType ("the 'package' argument is required to perform a relative import for " ++
      quoted name))
  importFrom i [] none (split '.' name)

/-- Registers commands of the module `home`, and tells how many were taken. -/
def registerFound (home : String) : List (Definition Action) → Effect Nat
  | [] => return 0
  | d :: ds => do
    let taken ← Effect.register d false
    if !taken then Effect.note (.commandNotLoaded d.name home)
    return taken.toNat + (← registerFound home ds)

/-- Imports modules and registers their commands, and tells how many were taken. -/
def loadModules (i : Installation) : List (List String) → Effect Nat
  | [] => return 0
  | path :: paths => do
    match ← importModule i (dotted path) with
    | none => loadModules i paths
    | some m =>
      let count ← registerFound m.shownName m.commands
      Effect.note (.commandsLoaded count m.shownName)
      return count + (← loadModules i paths)

/-- Loads the commands of a package, and tells how many were taken. -/
def load (i : Installation) (package : String) : Effect Nat := do
  match ← importModule i package with
  | none => return 0
  | some m =>
    let directories ← match m.path? with
      | some e => Effect.resume e.items
      | none => pure []
    if directories.isEmpty then
      throw (.error "RuntimeError" s!"'{package}' must be a package (folder) with modules.")
    let path := split '.' package
    let own := directories.filter (· == directoryText path)
    loadModules i (own.flatMap fun _ => (i.publicModules path).map (i.commandModule path))

end CommandConsole.Loading
