import Ril.Lib.CNumber
import Ril.Lib.CString

/-! How C lays out the members of a structure, and what is read of a memory. -/

namespace Ril.Lib

inductive PointerWidth
  | w32 | w64
deriving DecidableEq, Repr

def PointerWidth.bytes : PointerWidth → ℕ
  | w32 => 4
  | w64 => 8

/-- An array of chars, a union and an array of structures have a size and an alignment of their own. -/
inductive CType
  | char | unsignedChar | int | int64 | pointer
  | block (size align : ℕ)
deriving DecidableEq, Repr

namespace CType

def size (width : PointerWidth) : CType → ℕ
  | char => 1
  | unsignedChar => 1
  | int => 4
  | int64 => 8
  | pointer => width.bytes
  | block size _ => size

def align (width : PointerWidth) : CType → ℕ
  | char => 1
  | unsignedChar => 1
  | int => 4
  | int64 => 8
  | pointer => width.bytes
  | block _ align => align

end CType

def alignUp (n align : ℕ) : ℕ := (n + align - 1) / align * align

variable (width : PointerWidth)

/-- Where the members begin, and where the last one ends -/
def memberOffsets : ℕ → List CType → List ℕ × ℕ
  | position, [] => ([], position)
  | position, type :: types =>
    let start := alignUp position (type.align width)
    let rest := memberOffsets (start + type.size width) types
    (start :: rest.1, rest.2)

def memberOffset (layout : List CType) (i : ℕ) : ℕ := (memberOffsets width 0 layout).1.getD i 0

def structAlign (layout : List CType) : ℕ := layout.foldr (fun type n => max (type.align width) n) 1

def structSize (layout : List CType) : ℕ := alignUp (memberOffsets width 0 layout).2 (structAlign width layout)

/-- A memory in which strings end at its own end, if not before -/
structure CMemory where
  cells : ℕ → UInt8
  size : ℕ

namespace CMemory

variable (memory : CMemory) (address : ℕ)

def bytes (count : ℕ) : List UInt8 := cellsAt memory.cells address count

def number (count : ℕ) : ℕ := numberOfBytes (memory.bytes address count)

def string : List UInt8 :=
  memory.bytes address (scanWhile (· != 0) memory.cells (memory.size - address) address - address)

end CMemory

end Ril.Lib
