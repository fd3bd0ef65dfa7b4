import RoleAudit.Files.Access

/-!
# Buffered writing

An open file takes bytes in two steps. Texts are collected until a further one would make the
collection too large, and what was collected goes through a buffer to the disk. So the file on the
disk is behind what was written, until it is flushed.

`Writer.settled` is what the file will hold: the bytes on their way come after those on the disk.
-/

namespace RoleAudit.Report

open RoleAudit.Files

/-- The size of the collection of texts, in bytes. -/
def chunkSize : Nat := 8192

/-- The size of the buffer in front of the disk. -/
def bufferSize : Nat := 4096

/-- A file that is open for writing. -/
structure Writer where
  /-- The file's node. -/
  node : Nat
  /-- How many bytes have reached the disk. -/
  offset : Nat := 0
  /-- Bytes in the buffer. -/
  buffered : List UInt8 := []
  /-- Bytes that are collected. -/
  pending : List UInt8 := []
  deriving Repr, DecidableEq, Inhabited

namespace Writer

/-- The bytes that have not reached the disk. -/
def unsettled (w : Writer) : List UInt8 := w.buffered ++ w.pending

/-- Sends bytes to the disk. -/
def send (w : Writer) (bytes : List UInt8) (d : Disk) : Writer × Disk :=
  ({ w with offset := w.offset + bytes.length }, d.writeAt w.node w.offset bytes)

/-- Sends the buffer to the disk. -/
def drain (w : Writer) (d : Disk) : Writer × Disk :=
  let (w', d) := w.send w.buffered d
  ({ w' with buffered := [] }, d)

/-- Puts the collected bytes through the buffer. Bytes that do not fit beside those in the buffer
push these out first, and go to the disk directly if they do not fit alone either. -/
def forward (w : Writer) (d : Disk) : Writer × Disk :=
  let bytes := w.pending
  let w := { w with pending := [] }
  if w.buffered.length + bytes.length ≤ bufferSize then
    ({ w with buffered := w.buffered ++ bytes }, d)
  else
    let (w, d) := w.drain d
    if bufferSize < bytes.length then w.send bytes d else ({ w with buffered := bytes }, d)

/-- Writes bytes. -/
def write (w : Writer) (bytes : List UInt8) (d : Disk) : Writer × Disk :=
  let (w, d) :=
    if !w.pending.isEmpty && chunkSize < w.pending.length + bytes.length then w.forward d
    else (w, d)
  let w := { w with pending := w.pending ++ bytes }
  if chunkSize ≤ w.pending.length then w.forward d else (w, d)

/-- Sends everything to the disk. -/
def flush (w : Writer) (d : Disk) : Writer × Disk :=
  let (w, d) := w.forward d
  w.drain d

end Writer

end RoleAudit.Report
