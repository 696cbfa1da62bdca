import ClassOutline.Text.Basic

set_option autoImplicit false

/- An output file while it is being written. Small pieces are collected to a chunk, chunks are held
in a block, and what the file itself holds is always a beginning of what was written. -/

namespace ClassOutline.Command

/-- The numbers of bytes that are collected, held in the block and stored in the file. -/
structure Spool where
  collected : Nat := 0
  held : Nat := 0
  stored : Nat := 0
deriving DecidableEq, Repr

namespace Spool

def chunkSize : Nat := 8192

def blockSize : Nat := 4096

/-- Passes the collected bytes on to the block. If they do not fit, the block is stored before, and
bytes beyond the size of a block are stored as well. -/
def release (spool : Spool) : Spool :=
  if spool.held + spool.collected ≤ blockSize then
    { spool with collected := 0, held := spool.held + spool.collected }
  else if spool.collected ≤ blockSize then
    { collected := 0, held := spool.collected, stored := spool.stored + spool.held }
  else
    { collected := 0, held := 0, stored := spool.stored + spool.held + spool.collected }

def collect (spool : Spool) (size : Nat) : Spool :=
  { spool with collected := spool.collected + size }

def settle (spool : Spool) : Spool :=
  if chunkSize ≤ spool.collected then spool.release else spool

/-- Writes a piece. One that would make a chunk too large is not collected with those before it. -/
def write (spool : Spool) (size : Nat) : Spool :=
  if chunkSize < spool.collected + size then (spool.release.collect size).settle
  else (spool.collect size).settle

/-- What the file holds after some pieces. -/
def contents (pieces : List Text) : Array UInt8 :=
  let encoded := pieces.map fun piece => Text.utf8 (Text.escapeSurrogates piece)
  let spool := (encoded.map Array.size).foldl write {}
  (encoded.foldl (· ++ ·) #[]).extract 0 spool.stored

end Spool

end ClassOutline.Command
