/-!
# Commands to a store

What becomes of a command that a caller sends to a store over a network: the caller cannot
tell a command that never arrived from one whose reply was lost.
-/

namespace Marty.Lib

inductive Delivery
  /-- The command never reaches the store. -/
  | refused
  /-- It is carried out, and the reply is lost. -/
  | lost
  | answered
  deriving DecidableEq, Repr

end Marty.Lib
