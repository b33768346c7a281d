/-!
Writers that take a fixed number of bytes and then refuse every further byte. Writing a whole
buffer takes the bytes that fit; when some do not, the writer keeps those that did and the write
fails with a write-zero error. The writer is the state of the computation and survives a
failure, so what it holds after a failed export can be read. A text is written as its UTF-8
octets, the same octets JSON text is read from.
-/
namespace OsdpTrace

def octets (s : String) : List UInt8 := s.toByteArray.data.toList

@[simp] theorem octets_append (s t : String) : octets (s ++ t) = octets s ++ octets t := by
  simp [octets, String.toByteArray_append, ByteArray.data_append]

@[simp] theorem octets_empty : octets "" = [] := rfl

structure Sink where
  held : List UInt8
  room : Nat
deriving DecidableEq, Repr

namespace Sink

def withRoom (limit : Nat) : Sink := ⟨[], limit⟩

def writeZeroMessage : String := "failed to write whole buffer"

/-- Writes a whole buffer: the bytes that fit are taken, and the write fails when some do not.
An empty buffer is always written. -/
def writeAll (chunk : List UInt8) : EStateM String Sink Unit := fun s =>
  if chunk.length ≤ s.room then .ok () ⟨s.held ++ chunk, s.room - chunk.length⟩
  else .error writeZeroMessage ⟨s.held ++ chunk.take s.room, 0⟩

/-- Writes the UTF-8 octets of a text. A formatted text is written piece by piece; writing the
pieces in turn leaves what writing them joined does. -/
def writeStr (text : String) : EStateM String Sink Unit := writeAll (octets text)

def writeLine (text : String) : EStateM String Sink Unit := writeStr (text ++ "\n")

def writeLines : List String → EStateM String Sink Unit
  | [] => pure ()
  | line :: rest => do
    writeLine line
    writeLines rest

end Sink

end OsdpTrace
