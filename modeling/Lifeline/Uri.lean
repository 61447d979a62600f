import Lifeline.Decimal.Whole
import Lifeline.Text.Bytes

/-!
# Addresses of resources

A url is written in one of three forms: a path, an authority, or a scheme with
an authority and perhaps a path.  The same reading serves the side that dials a
url and the side that is asked for one.  What follows a path, from a question
mark on, is its query; a fragment, from a number sign on, is dropped unread.
-/

namespace Lifeline

inductive UriError
  | empty
  | tooLong
  | schemeTooLong
  | invalidCharacter
  | invalidAuthority
  | invalidFormat
  deriving DecidableEq

def UriError.message : UriError → String
  | .empty => "empty string"
  | .tooLong => "uri too long"
  | .schemeTooLong => "scheme too long"
  | .invalidCharacter => "invalid uri character"
  | .invalidAuthority => "invalid authority"
  | .invalidFormat => "invalid format"

/-- A url in parts.  An authority that is missing is empty, and so are a path and
a query that are missing. -/
structure Uri where
  scheme : Option String
  authority : String
  pathAndQuery : String
  deriving DecidableEq

namespace Uri

/-- How many bytes a url may have. -/
def longest : Nat := 65534

/-- How many characters a scheme may have. -/
def longestScheme : Nat := 64

/-! ## Schemes -/

def isSchemeChar (c : Char) : Bool :=
  c.isAlphanum || c == '+' || c == '-' || c == '.' || c == '~'

/-- The name before `://`, and what follows; the two names of the web are known
in any case and kept in lower case. -/
def splitScheme (text : List Char) : Except UriError (Option (List Char × List Char)) :=
  match text.dropWhile isSchemeChar with
  | ':' :: '/' :: '/' :: rest =>
      let name := text.takeWhile isSchemeChar
      let lowered := name.map Char.toLower
      if lowered = "http".toList ∨ lowered = "https".toList then .ok (some (lowered, rest))
      else if text.length ≤ 3 then .ok none
      else if name.length > longestScheme then .error .schemeTooLong
      else .ok (some (name, rest))
  | _ => .ok none

/-! ## Authorities -/

def endsAuthority (c : Char) : Bool := c == '/' || c == '?' || c == '#'

def isAuthorityChar (c : Char) : Bool := c.isAlphanum || c ∈ "!$&'()*+,-.;=_~".toList

/-- What the characters of an authority have shown so far.  Colons and percent
signs count only after the last `@` and after a bracket that is closed. -/
structure Scan where
  colons : Nat
  opened : Bool
  closed : Bool
  percent : Bool

/-- Eight colons are as many as the longest number of a host needs. -/
def mostColons : Nat := 8

def Scan.next (scan : Scan) (c : Char) : Except UriError Scan :=
  if c = ':' then
    if scan.colons < mostColons then .ok { scan with colons := scan.colons + 1 }
    else .error .invalidAuthority
  else if c = '[' then
    if scan.percent || scan.opened then .error .invalidAuthority
    else .ok { scan with opened := true }
  else if c = ']' then
    if !scan.opened || scan.closed then .error .invalidAuthority
    else .ok { scan with closed := true, colons := 0, percent := false }
  else if c = '@' then .ok { scan with colons := 0, percent := false }
  else if c = '%' then .ok { scan with percent := true }
  else if isAuthorityChar c then .ok scan
  else .error .invalidCharacter

def Scan.isComplete (scan : Scan) : Bool :=
  scan.opened == scan.closed && scan.colons ≤ 1 && !scan.percent

/-- An authority, which may be empty, and what follows it. -/
def readAuthority (text : List Char) : Except UriError (List Char × List Char) := do
  let authority := text.takeWhile fun c => !endsAuthority c
  let scan ← authority.foldlM Scan.next ⟨0, false, false, false⟩
  if scan.isComplete && authority.getLast? != some '@' then
    .ok (authority, text.dropWhile fun c => !endsAuthority c)
  else .error .invalidAuthority

/-! ## Paths and queries -/

/-- A path may hold any character but blanks, controls and a few signs. -/
def isPathChar (c : Char) : Bool := 0x20 < c.toNat && !(c ∈ ['<', '>', '`'])

def isQueryChar (c : Char) : Bool := 0x20 < c.toNat && !(c ∈ ['"', '<', '>'])

/-- A path with its query, without the fragment. -/
def readPath (text : List Char) : Except UriError (List Char) :=
  let kept := text.takeWhile (· != '#')
  let path := kept.takeWhile (· != '?')
  let query := kept.dropWhile (· != '?')
  if path.all isPathChar && query.all isQueryChar then .ok kept else .error .invalidCharacter

/-! ## Urls -/

def ofAuthority (authority : List Char) : Uri := ⟨none, String.ofList authority, ""⟩

def ofPath (path : List Char) : Uri := ⟨none, "", String.ofList path⟩

/-- A url that does not begin with a slash. -/
def readFull (text : List Char) : Except UriError Uri := do
  match ← splitScheme text with
  | none =>
      let (authority, rest) ← readAuthority text
      if rest.isEmpty then .ok (ofAuthority authority) else .error .invalidFormat
  | some (_, []) => .error .empty
  | some (scheme, text) =>
      let (authority, rest) ← readAuthority text
      if authority.isEmpty then .error .invalidFormat
      else
        let path ← readPath rest
        .ok ⟨some (String.ofList scheme), String.ofList authority, String.ofList path⟩

/-- A single character is a path or else a whole authority. -/
def readSingle (c : Char) : Except UriError Uri :=
  if c = '/' ∨ c = '*' then .ok (ofPath [c])
  else do
    let (authority, rest) ← readAuthority [c]
    if rest.isEmpty then .ok (ofAuthority authority) else .error .invalidCharacter

def parse (text : String) : Except UriError Uri :=
  if Text.byteLength text.toList > longest then .error .tooLong
  else match text.toList with
    | [] => .error .empty
    | [c] => readSingle c
    | '/' :: rest => (readPath ('/' :: rest)).map ofPath
    | chars => readFull chars

/-! ## What a url names -/

/-- The path.  Behind an authority that stands alone there is none; elsewhere an
empty path is the root. -/
def path (uri : Uri) : String :=
  let written := uri.pathAndQuery.toList.takeWhile (· != '?')
  if !written.isEmpty then String.ofList written
  else if uri.scheme.isSome || !uri.pathAndQuery.isEmpty then "/"
  else ""

/-- The path with its query, as a request asks for it. -/
def target (uri : Uri) : String := if uri.pathAndQuery.isEmpty then "/" else uri.pathAndQuery

/-- The authority without what stands before its last `@`. -/
def hostAndPort (uri : Uri) : List Char :=
  (uri.authority.toList.reverse.takeWhile (· != '@')).reverse

/-- The host; one in brackets is given without them. -/
def host (uri : Uri) : String :=
  match uri.hostAndPort with
  | '[' :: rest => String.ofList (rest.takeWhile (· != ']'))
  | text => String.ofList (text.takeWhile (· != ':'))

/-- The port behind the last colon, if it is one. -/
def port? (uri : Uri) : Option UInt16 :=
  if uri.authority.contains ':' then
    let written := (uri.authority.toList.reverse.takeWhile (· != ':')).reverse
    (Decimal.readCount Decimal.beyond16 written).map UInt16.ofNat
  else none

end Uri

end Lifeline
