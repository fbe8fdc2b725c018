import ApiReplay.Archive.PrefixCode

/-!
# Compressed streams

A compressed stream is a row of blocks. A block is stored as it is or coded: then symbols stand for
bytes, for repetitions of what came before, and for the end of the block. The code is a fixed one,
or the block tells it. Bits are taken from each byte from the lowest on.

## Main definitions

* `Archive.Stream`, `Archive.Inflater`: what is left to read and what is read, and reading steps.
* `Archive.inflate`: the bytes of a compressed stream.
-/

namespace ApiReplay.Archive

/-- The state of reading a stream. -/
structure Stream where
  /-- The bits that are left. -/
  bits : List Bool
  /-- The bytes read so far. -/
  output : Array UInt8 := #[]

/-- Why a stream cannot be read on. -/
inductive Halt where
  | corrupt
  /-- The stream ends too early. -/
  | ended
deriving DecidableEq

/-- A step of reading a stream. -/
abbrev Inflater (α : Type) := ExceptT Halt (StateM Stream) α

/-- The bits of a byte, the lowest first. -/
def byteBits (byte : UInt8) : List Bool :=
  (List.range 8).map byte.toNat.testBit

/-! ### Steps -/

/-- Reads a bit. -/
def bit : Inflater Bool := do
  let stream ← get
  match stream.bits with
  | [] => throw .ended
  | b :: rest =>
    set { stream with bits := rest }
    return b

/-- Reads a number of so many bits, the lowest first. -/
def number : Nat → Inflater Nat
  | 0 => return 0
  | count + 1 => do
    let low ← bit
    let high ← number count
    return low.toNat + 2 * high

/-- Reads a symbol. -/
def PrefixCode.next : PrefixCode → Inflater Nat
  | missing => throw .corrupt
  | leaf symbol => return symbol
  | fork zero one => do if ← bit then one.next else zero.next

/-- Adds a byte to the output. -/
def emit (byte : UInt8) : Inflater Unit :=
  modify fun stream => { stream with output := stream.output.push byte }

/-- Adds bytes to the output that repeat those at a distance. -/
def copy (distance : Nat) : Nat → Inflater Unit
  | 0 => return
  | count + 1 => do
    let stream ← get
    match stream.output[stream.output.size - distance]? with
    | none => throw .corrupt
    | some byte =>
      emit byte
      copy distance count

/-! ### Coded blocks -/

/-- The smallest lengths of repetitions by symbol, and how many bits are added to each. -/
def lengthSteps : List (Nat × Nat) :=
  [(3, 0), (4, 0), (5, 0), (6, 0), (7, 0), (8, 0), (9, 0), (10, 0), (11, 1), (13, 1), (15, 1),
    (17, 1), (19, 2), (23, 2), (27, 2), (31, 2), (35, 3), (43, 3), (51, 3), (59, 3), (67, 4),
    (83, 4), (99, 4), (115, 4), (131, 5), (163, 5), (195, 5), (227, 5), (258, 0)]

/-- The smallest distances of repetitions by symbol, and how many bits are added to each. -/
def distanceSteps : List (Nat × Nat) :=
  [(1, 0), (2, 0), (3, 0), (4, 0), (5, 1), (7, 1), (9, 2), (13, 2), (17, 3), (25, 3), (33, 4),
    (49, 4), (65, 5), (97, 5), (129, 6), (193, 6), (257, 7), (385, 7), (513, 8), (769, 8),
    (1025, 9), (1537, 9), (2049, 10), (3073, 10), (4097, 11), (6145, 11), (8193, 12), (12289, 12),
    (16385, 13), (24577, 13)]

/-- Reads what a step of a table adds to its smallest value. -/
def extended (steps : List (Nat × Nat)) (index : Nat) : Inflater Nat :=
  match steps[index]? with
  | none => throw .corrupt
  | some (least, extra) => do return least + (← number extra)

/-- Reads symbols up to the end of the block, at most so many. -/
def symbols (literals distances : PrefixCode) : Nat → Inflater Unit
  | 0 => throw .ended
  | fuel + 1 => do
    let symbol ← literals.next
    if symbol < 256 then
      emit (UInt8.ofNat symbol)
      symbols literals distances fuel
    else if symbol = 256 then return
    else
      let length ← extended lengthSteps (symbol - 257)
      let distance ← extended distanceSteps (← distances.next)
      if (← get).output.size < distance then throw .corrupt
      copy distance length
      symbols literals distances fuel

/-- The lengths of the fixed code for bytes, lengths and the end. -/
def fixedLengths : List Nat :=
  List.replicate 144 8 ++ List.replicate 112 9 ++ List.replicate 24 7 ++ List.replicate 8 8

/-- The lengths of the fixed code for distances. -/
def fixedDistanceLengths : List Nat :=
  List.replicate 32 5

/-- The canonical code with given lengths. -/
def codeOf (lengths : List Nat) : Inflater PrefixCode :=
  (PrefixCode.ofLengths? lengths).elim (throw .corrupt) pure

/-- The order in which the lengths of words for lengths are told. -/
def toldOrder : List Nat :=
  [16, 17, 18, 0, 8, 7, 9, 6, 10, 5, 11, 4, 12, 3, 13, 2, 14, 1, 15]

/-- Reads so many lengths of words, behind others; a length may repeat the one before. -/
def wordLengths (code : PrefixCode) (count : Nat) : Nat → Array Nat → Inflater (List Nat)
  | 0, _ => throw .corrupt
  | fuel + 1, before =>
    if count < before.size then throw .corrupt
    else if before.size = count then return before.toList
    else do
      let repeated := fun (times length : Nat) =>
        wordLengths code count fuel (before ++ Array.replicate times length)
      match ← code.next with
      | 16 =>
        match before.back? with
        | none => throw .corrupt
        | some length => repeated (3 + (← number 2)) length
      | 17 => repeated (3 + (← number 3)) 0
      | 18 => repeated (11 + (← number 7)) 0
      | length => repeated 1 length

/-- Reads the two codes that a block tells. -/
def toldCodes : Inflater (PrefixCode × PrefixCode) := do
  let literals := 257 + (← number 5)
  let distances := 1 + (← number 5)
  let told := 4 + (← number 4)
  let lengths ← (toldOrder.take told).mapM fun symbol => return (symbol, ← number 3)
  let code ← codeOf ((List.range 19).map fun symbol => (lengths.lookup symbol).getD 0)
  if literals > 286 ∨ distances > 30 then throw .corrupt
  let all ← wordLengths code (literals + distances) (literals + distances + 1) #[]
  return (← codeOf (all.take literals), ← codeOf (all.drop literals))

/-! ### Blocks -/

/-- Reads so many bytes as they are. -/
def plainBytes : Nat → Inflater Unit
  | 0 => return
  | count + 1 => do
    emit (UInt8.ofNat (← number 8))
    plainBytes count

/-- Reads a block that is stored as it is. It starts with a byte. -/
def storedBlock : Inflater Unit := do
  modify fun stream => { stream with bits := stream.bits.drop (stream.bits.length % 8) }
  let length ← number 16
  let inverse ← number 16
  if length + inverse ≠ 0xFFFF then throw .corrupt
  plainBytes length

/-- Reads a block. -/
def block : Inflater Unit := do
  match ← number 2 with
  | 0 => storedBlock
  | 1 => codedBlock (← codeOf fixedLengths) (← codeOf fixedDistanceLengths)
  | 2 =>
    let (literals, distances) ← toldCodes
    codedBlock literals distances
  | _ => throw .corrupt
where
  codedBlock (literals distances : PrefixCode) : Inflater Unit := do
    symbols literals distances ((← get).bits.length + 1)

/-- Reads blocks up to the last, at most so many. -/
def blocks : Nat → Inflater Unit
  | 0 => throw .ended
  | fuel + 1 => do
    let isLast ← bit
    block
    if !isLast then blocks fuel

/-- The bytes of a compressed stream, as far as it goes; none when it is corrupt. -/
def inflate (bytes : List UInt8) : Option (List UInt8) :=
  let bits := bytes.flatMap byteBits
  match (blocks (bits.length + 1)).run.run { bits } with
  | (.error .corrupt, _) => none
  | (_, stream) => some stream.output.toList

end ApiReplay.Archive
