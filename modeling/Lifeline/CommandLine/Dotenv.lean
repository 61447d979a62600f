import Lifeline.Text.Alphanumeric
import Lifeline.Text.Blank

/-!
# Files of variables

A file of variables holds one assignment `NAME=value` per line, with an optional
`export` before it.  Values may be quoted, and a quoted value may run over
several lines.  Single quotes keep everything; elsewhere a backslash escapes and
`$NAME` stands for another variable.  Reading stops at the first line that is
not understood; what was assigned before it stays.  A variable cannot hold the
NUL character, and there is no reading of a file that assigns one.
-/

namespace Lifeline.Dotenv

/-- A byte order mark at the beginning of a file is not part of its text. -/
def dropMark (text : List Char) : List Char :=
  if text.head? = some '\ufeff' then text.tail else text

/-! ## Lines -/

inductive Mood
  | complete
  | escape
  | strong
  | strongEscape
  | weak
  | weakEscape
  | blank
  | comment
  deriving DecidableEq

/-- How the end of a line is read on, character by character. -/
def Mood.next (mood : Mood) (c : Char) : Mood :=
  match mood with
  | .blank =>
      if c = '#' then .comment else if c = '\\' then .escape else if c = '"' then .weak
      else if c = '\'' then .strong else .complete
  | .escape => .complete
  | .complete =>
      if Text.isBlank c && c != '\n' && c != '\r' then .blank else if c = '\\' then .escape
      else if c = '"' then .weak else if c = '\'' then .strong else .complete
  | .weak => if c = '\\' then .weakEscape else if c = '"' then .complete else .weak
  | .weakEscape => .weak
  | .strong => if c = '\\' then .strongEscape else if c = '\'' then .complete else .strong
  | .strongEscape => .strong
  | .comment => .comment

/-- A physical line with its line feed, and what follows it. -/
def takeLine (text : List Char) : List Char × List Char :=
  match text.dropWhile (· != '\n') with
  | [] => (text, [])
  | _ :: rest => (text.takeWhile (· != '\n') ++ ['\n'], rest)

/-- The text of a line before its comment, and the mood at its end. -/
def scanLine (mood : Mood) : List Char → List Char × Mood
  | [] => ([], mood)
  | c :: rest =>
      match mood.next c with
      | .comment => ([], .comment)
      | next =>
          let (kept, last) := scanLine next rest
          (c :: kept, last)

def dropLineEnd (line : List Char) : List Char :=
  match line.reverse with
  | '\n' :: '\r' :: rest => rest.reverse
  | '\n' :: rest => rest.reverse
  | _ => line

/-- The logical lines; the list ends with nothing where a quote is left open. -/
def logicalLines (fuel : Nat) (sofar : List Char) (mood : Mood) (text : List Char) :
    List (Option (List Char)) :=
  match fuel with
  | 0 => []
  | fuel + 1 =>
      if text.isEmpty then if mood = .complete then [] else [none]
      else
        let (line, rest) := takeLine text
        if (Text.trimStart (sofar ++ line)).head? = some '#' then
          some [] :: logicalLines fuel [] .complete rest
        else
          match scanLine mood line with
          | (kept, .complete) =>
              some (dropLineEnd (sofar ++ kept)) :: logicalLines fuel [] .complete rest
          | (kept, .comment) => some (sofar ++ kept) :: logicalLines fuel [] .complete rest
          | (kept, other) => logicalLines fuel (sofar ++ kept) other rest

/-! ## Values -/

/-- Where a value is being read: what is quoted, and which name is being collected. -/
inductive Spot
  | plain
  | strong
  | weak
  | escaped (quoted : Bool)
  | name (quoted : Bool) (sofar : List Char)
  | braced (quoted : Bool) (sofar : List Char)
  | trailing

def resume (quoted : Bool) : Spot := if quoted then .weak else .plain

/-- Reads a value; `look` gives the values of other variables. -/
def readValue (look : String → String) (spot : Spot) (output : List Char) :
    List Char → Option (List Char)
  | [] => match spot with
      | .strong => none
      | .weak => none
      | .braced _ _ => none
      | .escaped quoted => if quoted then none else some output
      | .name quoted sofar =>
          if quoted then none else some (output ++ (look (String.ofList sofar)).toList)
      | _ => some output
  | c :: rest =>
      match spot with
      | .trailing =>
          if c = ' ' ∨ c = '\t' then readValue look .trailing output rest
          else if c = '#' then some output else none
      | .escaped quoted =>
          if c ∈ ['\\', '\'', '"', '$', ' '] then
            readValue look (resume quoted) (output ++ [c]) rest
          else if c = 'n' then readValue look (resume quoted) (output ++ ['\n']) rest
          else none
      | .strong =>
          if c = '\'' then readValue look .plain output rest
          else readValue look .strong (output ++ [c]) rest
      | .name quoted sofar =>
          if Text.isAlphanumeric c then readValue look (.name quoted (sofar ++ [c])) output rest
          else if c = '\x7b' ∧ sofar.isEmpty then readValue look (.braced quoted []) output rest
          else
            let output := output ++ (look (String.ofList sofar)).toList
            if c = '$' then readValue look (.name quoted []) output rest
            else readValue look (resume quoted) (output ++ [c]) rest
      | .braced quoted sofar =>
          if c = '\x7d' then
            readValue look (resume quoted) (output ++ (look (String.ofList sofar)).toList) rest
          else readValue look (.braced quoted (sofar ++ [c])) output rest
      | .weak =>
          if c = '$' then readValue look (.name true []) output rest
          else if c = '"' then readValue look .plain output rest
          else if c = '\\' then readValue look (.escaped true) output rest
          else readValue look .weak (output ++ [c]) rest
      | .plain =>
          if c = '$' then readValue look (.name false []) output rest
          else if c = '\'' then readValue look .strong output rest
          else if c = '"' then readValue look .weak output rest
          else if c = '\\' then readValue look (.escaped false) output rest
          else if c = ' ' ∨ c = '\t' then readValue look .trailing output rest
          else readValue look .plain (output ++ [c]) rest

/-! ## Assignments -/

def isNameChar (c : Char) : Bool := c.isAlphanum || c == '_' || c == '.'

def readName (line : List Char) : Option (String × List Char) :=
  match line with
  | c :: _ =>
      if c.isAlpha || c == '_' then
        some (String.ofList (line.takeWhile isNameChar), Text.trimStart (line.dropWhile isNameChar))
      else none
  | [] => none

def readEquals (line : List Char) : Option (List Char) :=
  match line with
  | '=' :: rest => some (Text.trimStart rest)
  | _ => none

/-- The name of an assignment and what stands behind its sign. -/
def readTarget (line : List Char) : Option (String × List Char) := do
  let (name, rest) ← readName line
  match readEquals rest with
  | some value => some (name, value)
  | none =>
      if name = "export" then do
        let (name, rest) ← readName rest
        some (name, ← readEquals rest)
      else none

abbrev Assignments := List (String × String)

/-- What a line assigns: nothing for a blank line or a comment, and no answer
for a line that is not understood. -/
def readLine (look : String → String) (line : List Char) : Option (Option (String × String)) :=
  let line := Text.trimEnd (Text.trimStart line)
  match line with
  | [] => some none
  | '#' :: _ => some none
  | _ => do
      let (name, value) ← readTarget line
      match value with
      | [] => some (some (name, ""))
      | '#' :: _ => some (some (name, ""))
      | value => do
          let read ← readValue look .plain [] value
          some (some (name, String.ofList read))

/-- The value of a variable among texts `name=value`.  In such a text a name that
holds an equals sign goes on into the value. -/
def valueOf (known : String → Option String) (name : String) : Option String :=
  match name.toList.dropWhile (· != '=') with
  | [] => if name.isEmpty then none else known name
  | _ :: part => do
      let value ← known (String.ofList (name.toList.takeWhile (· != '=')))
      let begun := part ++ ['=']
      if begun.isPrefixOf value.toList then some (String.ofList (value.toList.drop begun.length))
      else none

/-- Assigns line by line; a variable that is already set keeps its value. -/
def assign (given : String → Option String) (sofar : Assignments) :
    List (Option (List Char)) → Option Assignments
  | [] => some sofar
  | none :: _ => some sofar
  | some line :: rest =>
      let known (name : String) : Option String := (given name).or (sofar.lookup name)
      match readLine (fun name => (valueOf known name).getD "") line with
      | none => some sofar
      | some none => assign given sofar rest
      | some (some (name, value)) =>
          if (known name).isSome then assign given sofar rest
          else if value.contains '\x00' then none
          else assign given ((name, value) :: sofar) rest

/-- Supplements the variables that are set with those of a file; nothing if the
file assigns what no variable can hold. -/
def supplement (given : String → Option String) (text : String) :
    Option (String → Option String) :=
  let lines := logicalLines (text.length + 1) [] .complete (dropMark text.toList)
  (assign given [] lines).map fun assigned name => (given name).or (assigned.lookup name)

/-- The names that the values of a file may refer to. -/
def mentioned (text : String) : List String :=
  ((text.splitOn "$").drop 1).map fun piece => match piece.toList with
    | '\x7b' :: rest => String.ofList (rest.takeWhile (· != '\x7d'))
    | rest => String.ofList (rest.takeWhile Text.isAlphanumeric)

end Lifeline.Dotenv
