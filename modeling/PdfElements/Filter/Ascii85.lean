/-!
Binary data as text: five characters for every four bytes.
-/

set_option autoImplicit false

namespace PdfElements.Filter.Ascii85

inductive Fault where
  /-- The short form of four zero bytes stands inside a group. -/
  | zeroInGroup
  /-- The digits of a group stand for a number that is too large. -/
  | overflow
  deriving DecidableEq, Repr

def Fault.message : Fault → String
  | .zeroInGroup => "z character is not allowed in the middle of a group"
  | .overflow => "multiplication overflow"

structure Group where
  value : Nat
  count : Nat

/-- The group with one more digit. The product must fit in 32 bits; a carry out of the sum is
lost. -/
def Group.push (group : Group) (digit : Nat) : Except Fault Group :=
  if Nat.pow 2 32 ≤ group.value * 85 then .error .overflow
  else .ok ⟨(group.value * 85 + digit) % Nat.pow 2 32, group.count + 1⟩

def Group.bytes (group : Group) : List UInt8 :=
  [Nat.pow 2 24, Nat.pow 2 16, Nat.pow 2 8, 1].map fun unit => (group.value / unit).toUInt8

def Group.fill (group : Group) : (missing : Nat) → Except Fault Group
  | 0 => .ok group
  | missing + 1 => do
    let group ← group.push 84
    group.fill missing

/-- The bytes of the last group: one fewer than it has digits. -/
def Group.finish (group : Group) : Except Fault (List UInt8) := do
  if group.count = 0 then return []
  let full ← group.fill (5 - group.count)
  return full.bytes.take (group.count - 1)

def isBlank (byte : UInt8) : Bool :=
  byte = 0x20 || byte = 0x09 || byte = 0x0A || byte = 0x0C || byte = 0x0D || byte = 0x00

def decodeFrom (group : Group) : List UInt8 → Except Fault (List UInt8)
  | [] => group.finish
  | byte :: rest =>
    if byte = 0x7A then
      if group.count = 0 then do return [0, 0, 0, 0] ++ (← decodeFrom group rest)
      else .error .zeroInGroup
    else if isBlank byte then decodeFrom group rest
    else if byte < 0x21 || 0x75 < byte then group.finish
    else do
      let group ← group.push (byte.toNat - 0x21)
      if group.count = 5 then return group.bytes ++ (← decodeFrom ⟨0, 0⟩ rest)
      else decodeFrom group rest

/-- The text without the mark at its very end. -/
def withoutMark (bytes : List UInt8) : List UInt8 :=
  match bytes.reverse with
  | 0x3E :: 0x7E :: rest => rest.reverse
  | _ => bytes

def decode (bytes : List UInt8) : Except Fault (List UInt8) := decodeFrom ⟨0, 0⟩ (withoutMark bytes)

end PdfElements.Filter.Ascii85
