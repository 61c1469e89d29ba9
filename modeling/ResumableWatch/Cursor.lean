import ResumableWatch.Version
/-!
# The cursor of a watch session

The version seen last, and whether the server has said that it no longer knows that version.  All
informers of one session share one cursor, and each operation is one indivisible step on it.
-/

namespace ResumableWatch

/-- Where a watch session stands. -/
structure Cursor where
  /-- The version the next watch request resumes from. -/
  version : String := Version.origin
  /-- The server answered that the version has left its history; the next poll starts over. -/
  expired : Bool := false
  deriving DecidableEq

namespace Cursor

/-- Overwrites the version. -/
def set (version : String) (c : Cursor) : Cursor := { c with version }

/-- Goes back to where every live object is listed. -/
def reset (c : Cursor) : Cursor := c.set Version.origin

/-- Remembers that the version has expired. -/
def arm (c : Cursor) : Cursor := { c with expired := true }

/-- Forgets that the version has expired. -/
def clear (c : Cursor) : Cursor := { c with expired := false }

/-- Takes in a version seen on the stream. -/
def merge (incoming : String) (c : Cursor) : Except Number.NumeralError Cursor := do
  let version ← Version.merge c.version incoming
  return c.set version

end Cursor

end ResumableWatch
