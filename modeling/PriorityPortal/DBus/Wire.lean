import PriorityPortal.DBus.Value
import PriorityPortal.Text.Utf8
/-!
# The wire format

Values are written in little-endian order, each at a multiple of its type's alignment from the start
of the body.
-/
namespace PriorityPortal.DBus

def Kind.alignment : Kind → Nat
  | .byte | .signature | .variant => 1
  | .int16 | .uint16 => 2
  | .boolean | .int32 | .uint32 | .string | .path | .array _ => 4
  | .int64 | .uint64 | .double | .struct _ | .entry .. => 8

namespace Wire

def littleEndian : Nat → Nat → List UInt8
  | 0, _ => []
  | width + 1, n => UInt8.ofNat n :: littleEndian width (n / 256)

def padding (offset alignment : Nat) : List UInt8 :=
  List.replicate ((alignment - offset % alignment) % alignment) 0

def number (offset width n : Nat) : List UInt8 := padding offset width ++ littleEndian width n

def text (offset width : Nat) (s : String) : List UInt8 :=
  let bytes := Text.encode s
  number offset width bytes.length ++ bytes ++ [0]

mutual

def marshal (offset : Nat) : Value → List UInt8
  | .byte value => [value]
  | .boolean value => number offset 4 value.toNat
  | .int16 value => number offset 2 value.toUInt16.toNat
  | .uint16 value => number offset 2 value.toNat
  | .int32 value => number offset 4 value.toUInt32.toNat
  | .uint32 value => number offset 4 value.toNat
  | .int64 value => number offset 8 value.toUInt64.toNat
  | .uint64 value => number offset 8 value.toNat
  | .double value => number offset 8 value.bits.toNat
  | .string value => text offset 4 value
  | .path value => text offset 4 value
  | .signature value => text offset 1 value
  | .variant value =>
    let head := text offset 1 value.kind.text
    head ++ marshal (offset + head.length) value
  | .array element items =>
    let start := padding offset 4
    let lead := padding (offset + start.length + 4) element.alignment
    let content := marshalAll (offset + start.length + 4 + lead.length) items
    start ++ littleEndian 4 content.length ++ lead ++ content
  | .struct fields =>
    let start := padding offset 8
    start ++ marshalAll (offset + start.length) fields
  | .entry key value =>
    let start := padding offset 8
    let first := start ++ marshal (offset + start.length) key
    first ++ marshal (offset + first.length) value

def marshalAll (offset : Nat) : List Value → List UInt8
  | [] => []
  | value :: rest =>
    let bytes := marshal offset value
    bytes ++ marshalAll (offset + bytes.length) rest

end

def body (args : List Value) : List UInt8 := marshalAll 0 args

/-- The text that bytes begin with, if they are read as a length in four bytes and so many bytes of
text without a zero. What type the bytes were written with does not count. -/
def leadingText? (bytes : List UInt8) : Option String :=
  let (head, rest) := bytes.splitAt 4
  let size := head.foldr (fun byte n => byte.toNat + 256 * n) 0
  if head.length = 4 ∧ size ≤ rest.length ∧ !(rest.take size).contains 0 then
    Text.decode? (rest.take size)
  else none

end Wire

end PriorityPortal.DBus
