/-! What a host shows of an error: a stable code, by which it finds its own wording, and the message
of this library. -/

namespace Conformance

/-- Errors with a stable code and a message. -/
class Notice (ε : Type) where
  code : ε → String
  message : ε → String

/-- The code in brackets, then the message. -/
def Notice.notification {ε : Type} [Notice ε] (e : ε) : String :=
  "[" ++ Notice.code e ++ "] " ++ Notice.message e

end Conformance
