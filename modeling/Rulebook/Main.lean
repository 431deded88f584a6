import Rulebook.CommandLine
import Rulebook.Files.Tree

/-!
# The program

The program looks at the disk first and then runs as a function of what it has seen: everything
below the working directory, and what the arguments and the configuration name outside of it.
Entries that cannot be read are left out.
-/

namespace Rulebook.Disk

/-- Everything at a path, down to a number of levels. -/
def readEntry : Nat → String → IO FileEntry
  | 0, _ => return .dir []
  | depth + 1, path => do
    let here ← IO.FS.realPath path
    if ← here.isDir then
      let found ← here.readDir
      let entries ← found.toList.filterMapM fun e => do
        try return some (e.fileName, ← readEntry depth (path ++ "/" ++ e.fileName))
        catch _ => return none
      return .dir entries
    else return .file (← IO.FS.readBinFile here)

/-- The greatest depth of directories that is looked at. -/
def maxDepth : Nat := 64

/-- The part of a pattern in front of the first name with a wildcard. -/
def literalStem (pattern : String) : String :=
  "/".intercalate ((Path.segments pattern).takeWhile fun s => !s.toList.any "*?[".toList.contains)

/-- The paths outside of the working directory that a text of one or more patterns names. -/
def outsidePaths (text : String) : List String :=
  ((Text.entries text).map literalStem).filter fun path =>
    path ≠ "" && (Path.isAbsolute path || (Path.segments path).contains "..")

/-- Adds what some texts name outside of the working directory to what has been seen. -/
def addOutside (dir : String) (top : FileEntry) (texts : List String) : IO FileEntry :=
  (texts.flatMap outsidePaths).foldlM (fun top path => do
    try
      let entry ← readEntry maxDepth (Path.join dir path)
      return FileEntry.add entry (Path.resolve (Path.resolve [] dir) path) top
    catch _ => return top) top

/-- The texts of a command that name files. -/
def namedFiles : Command → List String
  | .check options _ =>
    options.units ++ options.config.toList ++ options.overrides.rules.toList
  | .checkers _ => []

/-- The rule files that the configuration of a command names. -/
def configuredFiles (fs : FileSystem) (env : Option String) : Command → List String
  | .check options _ =>
    match CheckRun.configOf fs env options with
    | .ok config => [config.checker.rules]
    | .error _ => []
  | .checkers _ => []

end Rulebook.Disk

open Rulebook Disk in
/-- Runs the program. -/
def main (args : List String) : IO UInt32 := do
  let dir := (← IO.currentDir).toString
  let env ← IO.getEnv "RULECHECK_CONFIG"
  let names := Path.resolve [] dir
  let command := (CommandLine.parse args).toList
  let top := FileEntry.add (← readEntry maxDepth dir) names (.dir [])
  let top ← addOutside dir top (env.toList ++ command.flatMap namedFiles)
  let seen := (⟨top, names⟩ : FileTree).toFileSystem
  let top ← addOutside dir top (command.flatMap (configuredFiles seen env))
  let result := CommandLine.run (⟨top, names⟩ : FileTree).toFileSystem env args
  IO.print result.stdout
  result.stderr.forM IO.eprintln
  return result.status.toUInt32
