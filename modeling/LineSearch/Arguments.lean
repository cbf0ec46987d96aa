/-
# The arguments of the program

One argument is the file; the others are options, whose names begin with two hyphens.  Arguments are
read from left to right, and the first fault ends the reading; whether they go together is looked at
in the end.

`Request.parse` reads all arguments.
-/
import LineSearch.Text.Basic

namespace LineSearch

/-- What was given. -/
structure Options where
  file : Option Text := none
  /-- Search for this word from the beginning. -/
  word : Option Text := none
  /-- Report the matches of this query and open no viewer. -/
  query : Option Text := none
  /-- Report in JSON. -/
  json : Bool := false
  /-- Keep a log. -/
  debug : Bool := false
  deriving DecidableEq, Repr

/-- What is wrong with the arguments. -/
inductive ArgumentFault where
  | unknown (argument : Text)
  | valueMissing (name : String)
  | valueUnexpected (name : String)
  | repeated (name : String)
  | together (name other : String)
  | alone (name other : String)
  | fileMissing
  deriving DecidableEq, Repr

/-- The message of a fault. -/
def ArgumentFault.message : ArgumentFault → Text
  | unknown argument => "unexpected argument ".toList ++ argument
  | valueMissing name => "a value is needed for ".toList ++ name.toList
  | valueUnexpected name => "no value can be given to ".toList ++ name.toList
  | repeated name => name.toList ++ " cannot be given more than once".toList
  | together name other => name.toList ++ " cannot be given together with ".toList ++ other.toList
  | alone name other => name.toList ++ " cannot be given without ".toList ++ other.toList
  | fileMissing => "a file is needed".toList

/-- What the arguments ask for. -/
inductive Request where
  | help
  /-- Report the matches of a query in a file. -/
  | report (file query : Text) (json : Bool)
  /-- Open a viewer of a file. -/
  | view (file : Text) (word : Option Text)
  deriving DecidableEq, Repr

namespace Options

/-- Gives the name of the file. -/
def setFile (o : Options) (t : Text) : Except ArgumentFault Options :=
  if o.file.isSome then .error (.unknown t)
  else if t = [] then .error (.valueMissing "FILE")
  else .ok { o with file := some t }

/-- Gives an option its value. -/
def setValue (o : Options) (name : String) (v : Text) : Except ArgumentFault Options :=
  match name with
  | "--word" =>
    if o.word.isSome then .error (.repeated name) else .ok { o with word := some v }
  | "--query" =>
    if o.query.isSome then .error (.repeated name) else .ok { o with query := some v }
  | _ => .error (.unknown name.toList)

/-- Sets an option that has no value. -/
def setFlag (o : Options) (name : String) : Except ArgumentFault Options :=
  match name with
  | "--json" => if o.json then .error (.repeated name) else .ok { o with json := true }
  | "--debug" => if o.debug then .error (.repeated name) else .ok { o with debug := true }
  | _ => .error (.unknown name.toList)

/-- Whether an option has a value; `none` if there is no such option. -/
def hasValue? : String → Option Bool
  | "--word" | "--query" => some true
  | "--json" | "--debug" | "--help" => some false
  | _ => none

/-- What options that go together ask for.  That a report in JSON needs a query is not looked at
when a word is given, which excludes a query. -/
def request (o : Options) : Except ArgumentFault Request :=
  match o.word, o.query, o.file with
  | some _, some _, _ => .error (.together "--word" "--query")
  | _, _, none => .error .fileMissing
  | none, some query, some file => .ok (.report file query o.json)
  | some word, none, some file => .ok (.view file (some word))
  | none, none, some file =>
    if o.json then .error (.alone "--json" "--query") else .ok (.view file none)

end Options

namespace Request

/-- Whether an argument looks like an option. -/
def isOption (t : Text) : Bool := t.head? == some '-' && t != ['-']

/-- The name of an option and the value that is attached to it, if there is one. -/
def splitValue (t : Text) : String × Option Text :=
  let name := t.takeWhile (· != '=')
  match t.drop name.length with
  | _ :: v => (String.ofList name, some v)
  | [] => (String.ofList name, none)

/-- Reads arguments after those that were read before. -/
def parseFrom (o : Options) : List Text → Except ArgumentFault Request
  | [] => o.request
  | t :: rest =>
    if t = ['-', '-'] then do (← rest.foldlM Options.setFile o).request
    else if !isOption t then do parseFrom (← o.setFile t) rest
    else
      let (name, attached) := splitValue t
      match Options.hasValue? name, attached, rest with
      | some true, some v, rest => do parseFrom (← o.setValue name v) rest
      | some true, none, v :: rest =>
        if isOption v then .error (.valueMissing name) else do parseFrom (← o.setValue name v) rest
      | some true, none, [] => .error (.valueMissing name)
      | some false, some _, _ => .error (.valueUnexpected name)
      | some false, none, rest =>
        if name = "--help" then .ok .help else do parseFrom (← o.setFlag name) rest
      | none, _, _ => if t.take 2 = ['-', 'h'] then .ok .help else .error (.unknown t)

/-- Reads all arguments. -/
def parse (args : List Text) : Except ArgumentFault Request := parseFrom {} args

end Request

end LineSearch
