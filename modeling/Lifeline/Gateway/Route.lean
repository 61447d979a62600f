/-!
# Routes

The gateway answers on two paths: the configured one, which takes sockets, and
the health check.  A configured path is a pattern.  A segment `:name` stands for
any segment, and a last segment `*name` for whatever is left; at the end of a
path neither matches nothing.  Patterns that do not start with a slash, that use
these signs in any other way, that hold too many parameters, or that claim the
path of the health check are refused.
-/

namespace Lifeline

/-- One piece of a pattern. -/
inductive RoutePiece
  | literal (c : Char)
  | parameter
  | remainder
  deriving DecidableEq

abbrev RoutePattern := List RoutePiece

namespace RoutePattern

def isMark (c : Char) : Bool := c == ':' || c == '*'

/-- A name is not empty and holds no further mark. -/
def isName (name : List Char) : Bool := !name.isEmpty && !name.any isMark

/-- Reads a pattern; `afterSlash` says whether a slash comes just before. -/
def read (fuel : Nat) (afterSlash : Bool) (text : List Char) : Option RoutePattern :=
  match fuel with
  | 0 => none
  | fuel + 1 => match text with
      | [] => some []
      | ':' :: rest =>
          if isName (rest.takeWhile (· != '/')) then
            (read fuel false (rest.dropWhile (· != '/'))).map (.parameter :: ·)
          else none
      | '*' :: rest =>
          if afterSlash && isName rest && !rest.contains '/' then some [.remainder] else none
      | c :: rest => (read fuel (c == '/') rest).map (.literal c :: ·)

/-- How many parameters a pattern may have: one fewer than there are letters. -/
def mostParameters : Nat := 25

/-- The pattern of a path, or nothing if the path is refused. -/
def parse (path : String) : Option RoutePattern :=
  match path.toList with
  | '/' :: rest => (read (rest.length + 2) false ('/' :: rest)).filter fun pattern =>
      pattern.count .parameter ≤ mostParameters
  | _ => none

/-- Whether a pattern stands for a path.  A parameter takes what comes before the
next slash, which may be nothing, but not from a path that is used up. -/
def accepts : RoutePattern → List Char → Bool
  | [], path => path.isEmpty
  | .literal c :: pieces, path => match path with
      | [] => false
      | d :: path => c == d && accepts pieces path
  | .parameter :: pieces, path =>
      !path.isEmpty && accepts pieces (path.dropWhile (· != '/'))
  | .remainder :: _, path => !path.isEmpty

end RoutePattern

/-- Where a request is sent to. -/
inductive Destination
  | socket
  | health
  | nowhere
  deriving DecidableEq

/-- The table of routes of a gateway. -/
structure Router where
  socketPattern : RoutePattern
  deriving DecidableEq

namespace Router

def healthPath : String := "/health"

/-- The router that takes sockets at the given path. -/
def mount (path : String) : Option Router :=
  if path = healthPath then none else (RoutePattern.parse path).map Router.mk

/-- A path that is written out wins over a pattern. -/
def destination (router : Router) (path : String) : Destination :=
  if path = healthPath then .health
  else if RoutePattern.accepts router.socketPattern path.toList then .socket
  else .nowhere

end Router

end Lifeline
