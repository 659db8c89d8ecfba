import Gatehouse.Refusal

/- The body of a request, which arrives in pieces. A body that grows beyond the limit is refused at once, so that an
   object read in part is never admitted. -/
namespace Gatehouse

-- The pieces received, and whether the client went away after them instead of finishing.
structure Delivery where
  chunks : List ByteArray
  disconnected : Bool

namespace Body

def tooLarge (limit size : Nat) : Classified :=
  ⟨false, Message.withValue .bodyTooLarge (toString limit), "read " ++ toString size ++ " bytes before giving up"⟩

def disconnected : Classified := ⟨false, Message.text .readFailed, "client disconnected: ClientDisconnect()"⟩

def missing : Classified := ⟨false, Message.text .noBody, "the request body was empty"⟩

def gather (limit : Nat) (body : ByteArray) : List ByteArray → Except Classified ByteArray
  | [] => .ok body
  | chunk :: rest =>
    let grown := body ++ chunk
    if limit < grown.size then .error (tooLarge limit grown.size) else gather limit grown rest

def read (limit : Nat) (delivery : Delivery) : Except Classified ByteArray :=
  match gather limit ByteArray.empty delivery.chunks with
  | .error failure => .error failure
  | .ok body =>
    if delivery.disconnected then .error disconnected
    else if body.isEmpty then .error missing
    else .ok body

end Body
end Gatehouse
