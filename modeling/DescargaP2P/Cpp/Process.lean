import DescargaP2P.Cpp.Strings

/-!
# Ends of a process

The ways in which a process of the two programs can end, or stop having a
defined meaning, before it leaves `main`.
-/

namespace DescargaP2P.Cpp

/-- Early end of a process. -/
inductive Termination
  /-- A standard exception that nothing catches. -/
  | uncaught (cause : Exception)
  /-- A `zmq::error_t` that nothing catches. -/
  | socketError
  /-- `exit(-1)`. -/
  | exitFailure
  /-- A read out of bounds. -/
  | undefined
  deriving DecidableEq, Repr

end DescargaP2P.Cpp
