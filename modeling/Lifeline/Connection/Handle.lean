import Lifeline.Connection.Step

/-!
# Handles

Whoever holds a connection sends it requests and watches its link.  A connection
that has stopped refuses requests, but closing it again is fine.  A call that
waits for something has no answer yet.
-/

namespace Lifeline.Connection.State

/-- The answer to a request to send or to reconnect: it is taken while the
connection runs. -/
def requestAnswer (state : State) : Except ClientError Unit :=
  if state.stopped then .error .closed else .ok ()

/-- The answer to a call to close, which waits until the connection has stopped. -/
def closeAnswer (state : State) : Option (Except ClientError Unit) :=
  if state.stopped then some (.ok ()) else none

/-- The answer to a call that waits for a link state. -/
def waitAnswer (state : State) (link : Link) : Option (Except ClientError Unit) :=
  if state.link = link then some (.ok ())
  else if state.stopped then some (.error .closed)
  else none

end Lifeline.Connection.State
