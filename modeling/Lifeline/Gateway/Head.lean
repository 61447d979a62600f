import Lifeline.Uri

/-!
# Heads of requests

A request begins with its head: a line with a method, a target and a version,
then one line for each header, then an empty line.  Lines end at a line feed,
before which there may be one carriage return.  What is not written to the
letter is refused, and the refusal is known by its status.
-/

namespace Lifeline.Gateway

/-- Why a request is not looked at. -/
inductive Refusal
  | malformed
  | targetTooLong
  | tooLarge
  deriving DecidableEq

def Refusal.status : Refusal → Nat
  | .malformed => 400
  | .targetTooLong => 414
  | .tooLarge => 431

structure Header where
  /-- In lower case. -/
  name : String
  value : String
  deriving DecidableEq

/-- A request without its body. -/
structure Request where
  method : String
  uri : Uri
  /-- Whether it speaks the version that upgrades belong to. -/
  current : Bool
  headers : List Header
  deriving DecidableEq

namespace Head

/-! ## Lines -/

/-- The line without the carriage return at its end. -/
def dropReturn (line : List Char) : List Char :=
  if line.getLast? = some '\r' then line.dropLast else line

def lines (text : String) : List (List Char) :=
  (text.splitOn "\n").map fun line => dropReturn line.toList

/-- How many bytes a head may have. -/
def longest : Nat := 8192 + 100 * 4096

/-- The lines of the head: empty lines before it are skipped, and it ends with
the first empty line after it has begun. -/
def headLines (text : String) : List (List Char) :=
  ((lines text).dropWhile List.isEmpty).takeWhile (!·.isEmpty)

/-- The bytes of some lines with two for the end of each. -/
def byteLength (lines : List (List Char)) : Nat :=
  (lines.map fun line => Text.byteLength line + 2).foldl (· + ·) 0

/-! ## The first line -/

/-- The characters of methods and of the names of headers. -/
def isTokenChar (c : Char) : Bool := c.isAlphanum || c ∈ "!#$%&'*+-.^_`|~".toList

def isToken (text : List Char) : Bool := !text.isEmpty && text.all isTokenChar

def isTargetChar (c : Char) : Bool := 0x20 < c.toNat && c.toNat != 0x7f

/-- Whether the version is the current one; the one before it is also spoken. -/
def readVersion (text : List Char) : Option Bool :=
  if text = "HTTP/1.1".toList then some true
  else if text = "HTTP/1.0".toList then some false
  else none

/-- Method, target and version, with one blank between them. -/
def readFirst (line : List Char) : Option (String × String × Bool) :=
  match line.dropWhile (· != ' ') with
  | _ :: rest =>
      let method := line.takeWhile (· != ' ')
      let target := rest.takeWhile (· != ' ')
      if isToken method && !target.isEmpty && target.all isTargetChar then
        (readVersion ((rest.dropWhile (· != ' ')).drop 1)).map fun current =>
          (String.ofList method, String.ofList target, current)
      else none
  | [] => none

/-! ## Headers -/

def isGap (c : Char) : Bool := c == ' ' || c == '\t'

def trimGaps (text : List Char) : List Char :=
  ((text.dropWhile isGap).reverse.dropWhile isGap).reverse

def isValueChar (c : Char) : Bool := c == '\t' || (0x20 ≤ c.toNat && c.toNat != 0x7f)

def readHeader (line : List Char) : Option Header :=
  match line.dropWhile (· != ':') with
  | _ :: value =>
      let name := line.takeWhile (· != ':')
      if isToken name && value.all isValueChar then
        some ⟨String.ofList (name.map Char.toLower), String.ofList (trimGaps value)⟩
      else none
  | [] => none

/-- How many headers a head may have. -/
def mostHeaders : Nat := 100

/-- The headers of some lines, of which there may be `room`. -/
def readHeaders (room : Nat) : List (List Char) → Except Refusal (List Header)
  | [] => .ok []
  | line :: rest => match readHeader line, room with
      | none, _ => .error .malformed
      | some _, 0 => .error .tooLarge
      | some header, room + 1 => (readHeaders room rest).map (header :: ·)

/-! ## The body -/

/-- What the headers say of the body: the length it is given, and whether it
comes in chunks, once either has been said. -/
structure BodyPlan where
  length : Option Nat
  chunked : Option Bool

/-- The greatest length of a body; the numbers beyond it have other meanings. -/
def longestBody : Nat := Decimal.beyond64 - 3

def readLength (value : String) : Option Nat :=
  if value.startsWith "+" then none else Decimal.readCount Decimal.beyond64 value.toList

/-- Whether chunks are the last of the codings that are listed. -/
def endsInChunks (value : String) : Bool :=
  value.toList.all (fun c => c == '\t' || (0x20 ≤ c.toNat && c.toNat < 0x7f)) &&
    let last := (value.toList.reverse.takeWhile (· != ',')).reverse
    (trimGaps last).map Char.toLower == "chunked".toList

/-- A length is heeded only before the first coding, and must not change. -/
def BodyPlan.next (current : Bool) (plan : BodyPlan) (header : Header) :
    Except Refusal BodyPlan :=
  if header.name = "transfer-encoding" then
    if current then .ok { plan with chunked := some (endsInChunks header.value) }
    else .error .malformed
  else if header.name = "content-length" ∧ plan.chunked.isNone then
    match readLength header.value with
    | none => .error .malformed
    | some length =>
        if plan.length.any (· != length) then .error .malformed
        else if length > longestBody then .error .tooLarge
        else .ok { plan with length := some length }
  else .ok plan

/-- Whether the end of the body can be told from the headers. -/
def checkBody (current : Bool) (headers : List Header) : Except Refusal Unit := do
  let plan ← headers.foldlM (BodyPlan.next current) ⟨none, none⟩
  if plan.chunked = some false then .error .malformed else .ok ()

end Head

/-- Reads the head of a request.  The lines come first, then the target, and
what the headers say of the body last. -/
def Request.parse (text : String) : Except Refusal Request := do
  match Head.headLines text with
  | [] => .error .malformed
  | first :: rest => match Head.readFirst first with
      | none => .error .malformed
      | some (method, target, current) =>
          if Head.byteLength (first :: rest) > Head.longest then throw .tooLarge
          let headers ← Head.readHeaders Head.mostHeaders rest
          match Uri.parse target with
          | .error .tooLong => .error .targetTooLong
          | .error _ => .error .malformed
          | .ok uri =>
              Head.checkBody current headers
              .ok ⟨method, uri, current, headers⟩

end Lifeline.Gateway
