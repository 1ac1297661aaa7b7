import ReplicaSync.Frame.StateCode

/-!
# Prefix codes

In a prefix code each symbol is a row of bits, and none is the beginning of another. So the code
is a tree: bits lead from the root to a leaf, and the leaf has the symbol.

A code is described by weights, one for each symbol. A symbol without weight is not in the code,
and each weight is worth twice the one before it: a symbol has one bit less for every step of
weight. The weight of the last symbol is not written down, since it has what is left of the tree.
The longest codes come first.
-/

set_option autoImplicit false

namespace ReplicaSync.Frame

/-- A prefix code. -/
inductive PrefixCode where
  | leaf (symbol : UInt8)
  | node (zero one : PrefixCode)

namespace PrefixCode

/-! ## Reading symbols -/

/-- Reads one symbol. -/
def take? : PrefixCode → Bits → Option (UInt8 × Bits)
  | .leaf symbol, bits => some (symbol, bits)
  | .node _ _, [] => none
  | .node zero one, bit :: rest => if bit then one.take? rest else zero.take? rest

/-- Reads so many symbols that all bits are used up, behind others. -/
def takeAll? (code : PrefixCode) : (count : Nat) → Bits → Array UInt8 → Option (Array UInt8)
  | 0, [], taken => some taken
  | 0, _ :: _, _ => none
  | count + 1, bits, taken =>
      match code.take? bits with
      | none => none
      | some (symbol, bits) => code.takeAll? count bits (taken.push symbol)

/-- Reads so many symbols from all of a byte string, behind others. -/
def readAll? (code : PrefixCode) (count : Nat) (bytes : Bytes) (taken : Array UInt8) :
    Option (Array UInt8) := do
  code.takeAll? count (← Bits.backwards? bytes) taken

/-- Reads so many symbols from four byte strings. The sizes of the first three stand in front, and
each of them has a quarter of the symbols, rounded up. -/
def readQuarters? (code : PrefixCode) (count : Nat) (bytes : Bytes) : Option (Array UInt8) := do
  let quarter := (count + 3) / 4
  let (first, bytes) ← Bytes.takeNumber? 2 bytes
  let (second, bytes) ← Bytes.takeNumber? 2 bytes
  let (third, bytes) ← Bytes.takeNumber? 2 bytes
  let (one, bytes) ← Bytes.takeField? first bytes
  let (two, bytes) ← Bytes.takeField? second bytes
  let (three, four) ← Bytes.takeField? third bytes
  if count < 3 * quarter then none
  else
    code.readAll? quarter one #[] >>= code.readAll? quarter two >>=
      code.readAll? quarter three >>= code.readAll? (count - 3 * quarter) four

/-! ## Descriptions -/

/-- The greatest number of bits of a symbol. -/
def maxDepth : Nat := 12

/-- What a weight is worth, as a part of the tree. -/
def worth : (weight : Nat) → Nat
  | 0 => 0
  | weight + 1 => Nat.pow 2 weight

/-- The weights of all symbols, with the last one that has what is left. -/
def complete? (weights : List Nat) : Option (List Nat) :=
  let total := weights.foldl (fun sum weight => sum + worth weight) 0
  let depth := total.log2 + 1
  let left := Nat.pow 2 depth - total
  if total = 0 ∨ maxDepth < depth ∨ weights.any (maxDepth < ·) ∨ Nat.pow 2 left.log2 ≠ left then
    none
  else some (weights ++ [left.log2 + 1])

/-- The tree of the given depth with symbols from a list, in its order, and the symbols that are
left over. -/
def build? : (depth : Nat) → List (UInt8 × Nat) → Option (PrefixCode × List (UInt8 × Nat))
  | _, [] => none
  | 0, (symbol, weight) :: rest => if weight = 1 then some (.leaf symbol, rest) else none
  | depth + 1, (symbol, weight) :: rest =>
      if weight = depth + 2 then some (.leaf symbol, rest)
      else do
        let (zero, rest) ← build? depth ((symbol, weight) :: rest)
        let (one, rest) ← build? depth rest
        return (.node zero one, rest)

/-- The code with the given weights. Some symbol has the smallest weight. -/
def ofWeights? (weights : List Nat) : Option PrefixCode := do
  let weights ← complete? weights
  let total := weights.foldl (fun sum weight => sum + worth weight) 0
  let numbered := weights.zipIdx.map fun (weight, symbol) => (UInt8.ofNat symbol, weight)
  let ordered := (List.range maxDepth).flatMap fun index =>
    numbered.filter fun entry => entry.2 == index + 1
  if weights.contains 1 then (build? total.log2 ordered).map Prod.fst else none

/-- Weights of half a byte each. -/
def halves (bytes : Bytes) : List Nat :=
  bytes.flatMap fun byte => [byte.toNat / 16, byte.toNat % 16]

/-- The greatest number of weights that are written down. -/
def maxWeights : Nat := 255

/-- Reads weights that are given by a code with states. -/
def readWeights? (bytes : Bytes) : Option (List Nat) := do
  let (distribution, field) ← Distribution.read? 6 256 bytes
  distribution.toCode.readTurns? maxWeights field

/-- Reads a code. Its weights stand in half a byte each, or are given by a code of their own, from
which `weights?` gets them. -/
def read? (weights? : Bytes → Option (List Nat)) (bytes : Bytes) : Option (PrefixCode × Bytes) :=
  match bytes with
  | [] => none
  | first :: rest =>
      let size := first.toNat
      if 128 ≤ size then do
        let count := size - 127
        let (field, rest) ← Bytes.takeField? ((count + 1) / 2) rest
        return (← ofWeights? ((halves field).take count), rest)
      else do
        let (field, rest) ← Bytes.takeField? size rest
        return (← ofWeights? (← weights? field), rest)

end PrefixCode

end ReplicaSync.Frame
