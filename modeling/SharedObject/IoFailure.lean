import SharedObject.Error

/-!
# Failures of input and output

What the system reports when a file cannot be opened, measured or read.  A file
that ends too early is not an input failure but a malformed file, whatever text
came with the report.
-/

namespace SharedObject

/-- The kinds of failure that the system tells apart. -/
inductive IoKind
  | notFound
  | permissionDenied
  | invalidInput
  | invalidData
  | timedOut
  | writeZero
  | interrupted
  | unsupported
  | unexpectedEof
  | outOfMemory
  | other
  deriving DecidableEq, Repr

/-- The text of a kind, used when a failure brings none of its own. -/
def IoKind.standardText : IoKind → String
  | .notFound => "entity not found"
  | .permissionDenied => "permission denied"
  | .invalidInput => "invalid input parameter"
  | .invalidData => "invalid data"
  | .timedOut => "timed out"
  | .writeZero => "write zero"
  | .interrupted => "operation interrupted"
  | .unsupported => "unsupported"
  | .unexpectedEof => "unexpected end of file"
  | .outOfMemory => "out of memory"
  | .other => "other error"

/-- A failure of input or output, with a text of its own or without. -/
structure IoFailure where
  kind : IoKind
  text : Option String := none
  deriving DecidableEq, Repr

def IoFailure.toError (failure : IoFailure) : Error :=
  match failure.kind with
  | .unexpectedEof => .malformedBinary .endOfFile
  | _ => .io (failure.text.getD failure.kind.standardText)

end SharedObject
