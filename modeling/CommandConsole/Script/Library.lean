import CommandConsole.Script.Library.Abstract
import CommandConsole.Script.Library.Bytes
import CommandConsole.Script.Library.Calculation
import CommandConsole.Script.Library.Chance
import CommandConsole.Script.Library.Clocks
import CommandConsole.Script.Library.Collections
import CommandConsole.Script.Library.Comparisons
import CommandConsole.Script.Library.Decimals
import CommandConsole.Script.Library.Documents
import CommandConsole.Script.Library.Files
import CommandConsole.Script.Library.Fractions
import CommandConsole.Script.Library.Functions
import CommandConsole.Script.Library.Layouts
import CommandConsole.Script.Library.Moments
import CommandConsole.Script.Library.Patterns
import CommandConsole.Script.Library.Places
import CommandConsole.Script.Library.Prose
import CommandConsole.Script.Library.Records
import CommandConsole.Script.Library.Streams
import CommandConsole.Script.Library.System
import CommandConsole.Script.Library.Texts
import CommandConsole.Script.Library.Types

/-!
# Bringing modules

The modules that scripts can bring. A module whose name has parts with points between them is a part
of another, which is brought first.
-/

namespace CommandConsole.Script

open CommandConsole.Text

namespace Library

/-- The modules that have members. -/
def filledModules : List Module := [
  types, typing, abstract, abstractCollections, numbers, collections, copies, searches, heaps,
  enumerations, records, fractions, statistics, decimals, moments, functions, operators, managers,
  streams, texts, words, characters, documents, documentReading, patterns, digests, keyedDigests,
  bytesAsTexts, sums, letteredBytes, layouts, numberRows, codes, identities, wrapping, shellWords,
  fileNames, shortForms, pageEntities, pages, machineFacts, faultCodes, filePaths, ownPaths, system,
  platforms, clocks, calendars, chance, colours, planeCalculation, pagePlaces, fileTrees,
  machinePlaces, memoryFiles, rowFiles, writingOut, layout, differences, orders, waitingRows,
  calculation]

/-- The names of modules of which nothing but the name is known. -/
def emptyNames : List String := [
  "argparse", "asyncio", "cmd", "code", "configparser", "contextvars", "copyreg", "ctypes", "dis",
  "email", "encodings", "gc", "getopt", "getpass", "gettext", "glob", "gzip", "http", "imp",
  "importlib", "inspect", "linecache", "locale", "logging", "marshal", "mimetypes",
  "multiprocessing", "ntpath", "opcode", "pickle", "pkgutil", "posix", "readline", "sched",
  "secrets", "select", "selectors", "shelve", "shutil", "signal", "site", "smtplib", "socket",
  "sqlite3", "ssl", "stat", "stringprep", "subprocess", "symtable", "sysconfig", "tarfile",
  "tempfile", "this", "threading", "timeit", "token", "tokenize", "traceback", "tracemalloc",
  "typing_extensions", "unittest", "urllib", "warnings", "wave", "weakref", "webbrowser", "xml",
  "zipfile", "zipimport", "zoneinfo"]

/-- All modules, the one of the names that are known everywhere apart. -/
def modules : List Module :=
  filledModules ++ emptyNames.map fun n => ⟨n, [], [], []⟩

/-- The module of a name. -/
def find? (name : String) : Option Module := modules.find? (·.name == name)

/-- The name of the module of the names that are known everywhere. -/
def commonName : String := "builtins"

/-- Brings the module of a name. -/
def bringOne (name : String) : Work Meaning := do
  if name == commonName then
    if ((← get).libraries.lookup name).isNone then
      modify fun s => { s with libraries := (name, commonPlace) :: s.libraries }
    return .library name
  match find? name with
  | some m => m.bring
  | none =>
    let e ← Work.newError (Meaning.ofTypeName "ModuleNotFoundError")
      [.text s!"No module named '{name}'"]
    if let .object _ place := e then
      Work.changeObject place fun o => { o with slots := [("name", .text name)] }
    throw (.raised e)

/-- The names of a module and of those that it is a part of, the outermost first. -/
def lineOf (name : String) : List String :=
  let parts := split '.' name
  (List.range parts.length).map fun (i : Nat) => join "." (parts.take (i + 1))

/-- Brings modules of which each is a part of the one before, and gives the last one. -/
def bringLine (outer : Option Meaning) : List String → Work Meaning
  | [] => return outer.getD .nothing
  | name :: names => do
    let inner ← bringOne name
    if let some m := outer then m.setProperty (lastPart name) inner
    bringLine (some inner) names

/-- Brings the module of a name: the whole, or the one that it is a part of. -/
def bring (name : String) (whole : Bool) : Work Meaning := do
  if name == "" then throw (.badValue "Empty module name")
  let line := lineOf name
  let last ← bringLine none line
  match line with
  | first :: _ :: _ => if whole then return last else return .library first
  | _ => return last

/-- Brings a module by a function. -/
def bringBy : List (Option Meaning) → Work Meaning
  | some m :: _ :: _ :: names :: _ => do
    match ← m.text? with
    | some s =>
      let whole ← match names with
        | some n => n.truth
        | none => pure false
      bring s whole
    | none => throw (.unfit "module name must be a string")
  | _ => return .nothing

/-- What calling a function of a module gives, if there is one of the full name. -/
def call? (name : String) (args : Arguments) : Option (Work Meaning) :=
  if name == "__import__" then
    some do
      let arity : Arity := .keyed 1 5 ["name", "globals", "locals", "fromlist", "level"]
      bringBy (← Work.ofExcept (arity.take "" name args))
  else if name.toList.contains '.' then
    let home := homePart name
    some (match find? home with
      | some m => m.call (lastPart name) args
      | none => Module.callShown (home ++ ".") (lastPart name) args)
  else none

end Library

end CommandConsole.Script
