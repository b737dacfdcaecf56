import SignalLint.Text.Utf8

/-!
# Source locations

A span says where a piece of source stands. Lines and columns count from one, columns in bytes;
offsets count bytes from zero, and the end offset is exclusive.
-/

namespace SignalLint

/-- Where a piece of source stands. -/
structure Span where
  startLine : Nat := 0
  startColumn : Nat := 0
  endLine : Nat := 0
  endColumn : Nat := 0
  startByte : Nat := 0
  endByte : Nat := 0
  deriving DecidableEq, Repr, Inhabited

namespace Span

/-- The span of a piece given by byte offsets and by rows and columns that count from zero. -/
def ofRows (startByte endByte startRow startColumn endRow endColumn : Nat) : Span where
  startLine := startRow + 1
  startColumn := startColumn + 1
  endLine := endRow + 1
  endColumn := endColumn + 1
  startByte := startByte
  endByte := endByte

/-- The bytes of `source` that a span covers; offsets past the end are cut off. -/
def slice (span : Span) (source : Bytes) : Bytes :=
  (source.take span.endByte).drop span.startByte

/-- The text that a span covers. -/
def text (span : Span) (source : Bytes) : String :=
  Utf8.decodeLossy (span.slice source)

end Span

end SignalLint
