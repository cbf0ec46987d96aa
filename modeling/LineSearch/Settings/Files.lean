/-
# The settings file

The settings are kept in a file of their own, in a directory that the user can choose.  If the path
of that file does not lead anywhere, the directories on its way are made, and the file is written
with the default settings.  A path may lead through a directory and out of it again; while such a
directory is missing the path leads nowhere, even if there is something at its end.

`Settings.load` is the settings that a search for the file ends with, and the files afterwards.
-/
import LineSearch.Settings.Reading

namespace LineSearch

open Data (Fault Format Reader)

/-- The names that lead to a file or a directory, one after the other, from the current directory or
from the root.  Where a path starts is not part of it: absolute and relative paths share one name
space, so that the files of a single start are spoken of at a time. -/
abbrev Path := List Text

namespace Path

/-- The path that a text writes, absolute or relative; parts that name the same directory again are
left out. -/
def ofText (t : Text) : Path :=
  (t.splitWhere (· == '/')).filter fun part => part != [] && part != ['.']

/-- The name that leads out of a directory again. -/
def up : Text := ['.', '.']

/-- What a name leads to from a directory.  Out of the directory where paths start it leads to one
that has no other name.  If paths start at the root, `..` there is kept as a directory of its own as
well, although it is the root again. -/
def enter (dir : Path) (name : Text) : Path :=
  if name = up && dir.any (· != up) then dir.dropLast else dir ++ [name]

/-- What a path leads to, said by a path that leads straight there. -/
def target (p : Path) : Path := p.foldl enter []

/-- The directories that a path leads through on its way from a directory, with this one. -/
def passes : Path → (dir : Path) → List Path
  | [], _ => []
  | name :: rest, dir => dir :: passes rest (enter dir name)

end Path

/-- Files with what they hold, and directories.  Besides the directories that are listed there are
those that the files are in, and the current one with those it is in. -/
structure Files where
  contents : List (Path × List UInt8)
  directories : List Path := []

namespace Files

/-- What a file holds. -/
def content? (fs : Files) (p : Path) : Option (List UInt8) :=
  (fs.contents.find? (·.1 = p)).map (·.2)

/-- Whether there is a directory. -/
def isDirectory (fs : Files) (p : Path) : Bool :=
  p.all (· = Path.up) || fs.contents.any (fun f => p.isPrefixOf f.1 && f.1 != p)
    || fs.directories.any p.isPrefixOf

/-- Whether there is a file or a directory. -/
def has (fs : Files) (p : Path) : Bool := (fs.content? p).isSome || fs.isDirectory p

/-- Whether a path leads to a file or a directory: all directories on its way have to be there. -/
def reaches (fs : Files) (p : Path) : Bool :=
  (p.passes []).all fs.isDirectory && fs.has p.target

/-- Makes a directory, unless it is there; `none` if a file is in the way. -/
def makeDirectory? (fs : Files) (d : Path) : Option Files :=
  if fs.isDirectory d then some fs
  else if (fs.content? d).isSome then none
  else some { fs with directories := fs.directories ++ [d] }

/-- Makes directories one after the other, until a file is in the way; tells whether all of them
are there afterwards. -/
def makeDirectories (fs : Files) : List Path → Files × Bool
  | [] => (fs, true)
  | d :: rest =>
    match fs.makeDirectory? d with
    | some fs => fs.makeDirectories rest
    | none => (fs, false)

/-- Writes a file; what it held before is lost. -/
def put (fs : Files) (p : Path) (content : List UInt8) : Files :=
  { fs with contents :=
      if (fs.content? p).isSome then
        fs.contents.map fun f => if f.1 = p then (p, content) else f
      else fs.contents ++ [(p, content)] }

/-- Writes a file where a path leads to, with the directories on its way; tells whether this can be
done.  It cannot if a file is where a directory should be, or the other way round; the directories
that were made stay. -/
def write (fs : Files) (p : Path) (content : List UInt8) : Files × Bool :=
  let (fs, through) := fs.makeDirectories (p.passes [])
  if through && !fs.isDirectory p.target then (fs.put p.target content, true) else (fs, false)

end Files

/-- Why settings could not be loaded. -/
inductive LoadFault where
  /-- The file is not there and cannot be written. -/
  | notWritable
  /-- What is in the file cannot be read. -/
  | unreadable (f : Fault)
  deriving DecidableEq, Repr

namespace Settings

/-- The directory for settings, with the directories that the user chose for settings and for
everything else. -/
def directoryIn (settingsHome home : Option Text) : Path :=
  match settingsHome with
  | some t => Path.ofText t
  | none => Path.ofText (home.getD ['.']) ++ [".config".toList]

/-- The path of the settings file. -/
def pathIn (settingsHome home : Option Text) : Path :=
  directoryIn settingsHome home ++ ["swiper".toList, "config.toml".toList]

/-- The text that is read for a path, and its notation: the one that the reader finds by the last
name of the path. -/
def find? [Reader] (fs : Files) (p : Path) : Option (Format × Text) :=
  p.getLast?.bind (Reader.find? fun name => fs.content? (p.dropLast ++ [name]))

/-- The settings for a path that leads straight to a file: those in the file over the default ones,
or only these if there is none. -/
def loadFrom [Reader] (fs : Files) (p : Path) : Except Fault Settings :=
  ofTexts ((.toml, builtInText) :: (find? fs p).toList)

/-- What a new settings file holds. -/
def defaultContent : List UInt8 := (String.ofList defaultText).toUTF8.toList

/-- Loads the settings; a path that leads nowhere is written to first. -/
def load [Reader] (settingsHome home : Option Text) (fs : Files) :
    Except LoadFault Settings × Files :=
  let p := pathIn settingsHome home
  let (fs, written) := if fs.reaches p then (fs, true) else fs.write p defaultContent
  (if written then (loadFrom fs p.target).mapError .unreadable else .error .notWritable, fs)

end Settings

end LineSearch
