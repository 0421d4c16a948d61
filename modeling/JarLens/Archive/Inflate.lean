import JarLens.Archive.Expanded
import JarLens.Archive.PrefixCode
import JarLens.Text.Basic

/-!
# Inflating

The data of a deflated member is a series of blocks, each stored as it is or coded with two prefix
codes, one for literals and lengths and one for distances. `inflate` expands them.
-/

namespace JarLens.Archive

/-- What is wrong with data that no encoder writes. -/
inductive Corruption where
  | blockKind
  | storedLength
  | symbolCount
  | lengthCode
  | lengthRepeat
  | noEndSymbol
  | literalCode
  | distanceCode
  | literalSymbol
  | distanceSymbol
  | distanceReach
  deriving DecidableEq

/-- What is told of corrupt data. -/
def Corruption.message : Corruption → Text
  | blockKind => "invalid block type".toList
  | storedLength => "invalid stored block lengths".toList
  | symbolCount => "too many length or distance symbols".toList
  | lengthCode => "invalid code lengths set".toList
  | lengthRepeat => "invalid bit length repeat".toList
  | noEndSymbol => "invalid code -- missing end-of-block".toList
  | literalCode => "invalid literal/lengths set".toList
  | distanceCode => "invalid distances set".toList
  | literalSymbol => "invalid literal/length code".toList
  | distanceSymbol => "invalid distance code".toList
  | distanceReach => "invalid distance too far back".toList

/-- The data, the bits read of it, and what was expanded so far. -/
structure InflateState where
  data : ByteArray
  /-- Bits count from the lowest of the first byte. -/
  bit : Nat
  out : ByteArray

/-- A step of expanding. -/
abbrev Inflating := EStateM (Halt Corruption) InflateState

namespace Inflating

/-- The next bit. -/
def bit : Inflating Nat := fun s =>
  match s.data[s.bit / 8]? with
  | some b => .ok ((b.toNat >>> (s.bit % 8)) % 2) { s with bit := s.bit + 1 }
  | none => .error .starved s

/-- A number of `width` bits, the lowest first. -/
def bits : (width : Nat) → Inflating Nat
  | 0 => pure 0
  | width + 1 => do
    let low ← bit
    let high ← bits width
    pure (low + 2 * high)

/-- Puts out one byte. -/
def emit (b : UInt8) : Inflating Unit :=
  modify fun s => { s with out := s.out.push b }

/-- Repeats `count` bytes from `distance` bytes back, of which some may be just put out. -/
def repeatBack (distance count : Nat) : Inflating Unit :=
  modify fun s => { s with out := withRepeated distance count s.out }

end Inflating

namespace PrefixCode

/-- Reads one symbol. `code` and `first` are the bits read and the first code of their length,
`index` is where the symbols of that length start. Bits that belong to no symbol are corrupt as
`otherwise` says. -/
def symbolAfter (otherwise : Corruption) (symbols : Array Nat) :
    (counts : List Nat) → (code first index : Nat) → Inflating Nat
  | [], _, _, _ => throw (.corrupt otherwise)
  | count :: counts, code, first, index => do
    let code := code + (← Inflating.bit)
    if code < first + count then pure (symbols[index + (code - first)]?.getD 0)
    else if counts.all (· == 0) then throw (.corrupt otherwise)
    else symbolAfter otherwise symbols counts (2 * code) (2 * (first + count)) (index + count)

/-- Reads one symbol. -/
def symbol (code : PrefixCode) (otherwise : Corruption) : Inflating Nat :=
  symbolAfter otherwise code.symbols code.counts 0 0 0

end PrefixCode

namespace Inflating

/-- The least length and the further bits of the symbols from 257 on. -/
def lengthCodes : Array (Nat × Nat) :=
  #[(3, 0), (4, 0), (5, 0), (6, 0), (7, 0), (8, 0), (9, 0), (10, 0), (11, 1), (13, 1), (15, 1),
    (17, 1), (19, 2), (23, 2), (27, 2), (31, 2), (35, 3), (43, 3), (51, 3), (59, 3), (67, 4),
    (83, 4), (99, 4), (115, 4), (131, 5), (163, 5), (195, 5), (227, 5), (258, 0)]

/-- The least distance and the further bits of the distance symbols. -/
def distanceCodes : Array (Nat × Nat) :=
  #[(1, 0), (2, 0), (3, 0), (4, 0), (5, 1), (7, 1), (9, 2), (13, 2), (17, 3), (25, 3), (33, 4),
    (49, 4), (65, 5), (97, 5), (129, 6), (193, 6), (257, 7), (385, 7), (513, 8), (769, 8),
    (1025, 9), (1537, 9), (2049, 10), (3073, 10), (4097, 11), (6145, 11), (8193, 12), (12289, 12),
    (16385, 13), (24577, 13)]

/-- A number given by a symbol of a table and the bits after it. -/
def ranged (table : Array (Nat × Nat)) (otherwise : Corruption) (symbol : Nat) : Inflating Nat := do
  match table[symbol]? with
  | some (least, width) => pure (least + (← bits width))
  | none => throw (.corrupt otherwise)

/-- Expands a repetition whose length symbol is `symbol`. -/
def repetition (distances : PrefixCode) (symbol : Nat) : Inflating Unit := do
  let count ← ranged lengthCodes .literalSymbol (symbol - 257)
  let distance ← ranged distanceCodes .distanceSymbol (← distances.symbol .distanceSymbol)
  if (← get).out.size < distance then throw (.corrupt .distanceReach)
  repeatBack distance count

/-- Expands a coded block up to its end symbol. Every symbol takes a bit, so the bits of the data
bound the steps. -/
def coded (literals distances : PrefixCode) : (steps : Nat) → Inflating Unit
  | 0 => throw .starved
  | steps + 1 => do
    let symbol ← literals.symbol .literalSymbol
    if symbol = 256 then pure ()
    else
      if symbol < 256 then emit symbol.toUInt8 else repetition distances symbol
      coded literals distances steps

/-- Copies `count` bytes of a stored block. -/
def copyBytes : (count : Nat) → Inflating Unit
  | 0 => pure ()
  | count + 1 => do
    emit (← bits 8).toUInt8
    copyBytes count

/-- Expands a stored block: its length, the length's complement, and the bytes. -/
def stored : Inflating Unit := do
  modify fun s => { s with bit := (s.bit + 7) / 8 * 8 }
  let length ← bits 16
  let complement ← bits 16
  if length + complement ≠ 0xffff then throw (.corrupt .storedLength)
  copyBytes length

/-- The greatest length of a code. -/
def longestCode : Nat := 15

/-- The lengths of the fixed code for literals. -/
def fixedLiterals : PrefixCode :=
  .ofLengths longestCode (List.replicate 144 8 ++ List.replicate 112 9 ++ List.replicate 24 7 ++
    List.replicate 8 8)

/-- The lengths of the fixed code for distances. -/
def fixedDistances : PrefixCode :=
  .ofLengths longestCode (List.replicate 32 5)

/-- The symbols of the code for code lengths in the order in which their lengths are written. -/
def lengthOrder : List Nat :=
  [16, 17, 18, 0, 8, 7, 9, 6, 10, 5, 11, 4, 12, 3, 13, 2, 14, 1, 15]

/-- The lengths of the code for code lengths, by symbol. -/
def lengthLengths (count : Nat) : Inflating (List Nat) := do
  let written ← (lengthOrder.take count).mapM fun symbol => do pure (symbol, ← bits 3)
  pure ((List.range 19).map fun symbol => (written.lookup symbol).getD 0)

/-- The symbol for the next code length. A code without any symbol reads each bit as length zero. -/
def lengthSymbol (code : PrefixCode) : Inflating Nat :=
  if code.symbols.isEmpty then do
    discard bit
    pure 0
  else code.symbol .lengthCode

/-- Reads code lengths up to `total` of them, after those in `lengths`, the last one first. Each
symbol gives at least one, so `steps` that start at `total` suffice. -/
def codeLengths (code : PrefixCode) (total : Nat) :
    (steps : Nat) → (lengths : List Nat) → Inflating (List Nat)
  | 0, lengths => pure lengths.reverse
  | steps + 1, lengths =>
    if total ≤ lengths.length then pure lengths.reverse
    else do
      let symbol ← lengthSymbol code
      if symbol < 16 then codeLengths code total steps (symbol :: lengths)
      else
        let count ←
          if symbol = 16 then (· + 3) <$> bits 2
          else if symbol = 17 then (· + 3) <$> bits 3
          else (· + 11) <$> bits 7
        let repeated ←
          if symbol = 16 then
            match lengths with
            | last :: _ => pure last
            | [] => throw (.corrupt .lengthRepeat)
          else pure 0
        if total < lengths.length + count then throw (.corrupt .lengthRepeat)
        codeLengths code total steps (List.replicate count repeated ++ lengths)

/-- Reads the two codes in front of a block. -/
def codes : Inflating (PrefixCode × PrefixCode) := do
  let literalCount := (← bits 5) + 257
  let distanceCount := (← bits 5) + 1
  let lengthCount := (← bits 4) + 4
  if 286 < literalCount || 30 < distanceCount then throw (.corrupt .symbolCount)
  let lengthCode := PrefixCode.ofLengths longestCode (← lengthLengths lengthCount)
  if !lengthCode.isComplete && !lengthCode.symbols.isEmpty then throw (.corrupt .lengthCode)
  let total := literalCount + distanceCount
  let lengths ← codeLengths lengthCode total total []
  if lengths[256]? = some 0 then throw (.corrupt .noEndSymbol)
  let literals := PrefixCode.ofLengths longestCode (lengths.take literalCount)
  let distances := PrefixCode.ofLengths longestCode (lengths.drop literalCount)
  if !literals.isUsable then throw (.corrupt .literalCode)
  if !distances.isUsable then throw (.corrupt .distanceCode)
  pure (literals, distances)

/-- Expands the blocks up to the one marked as last. -/
def blocks : (steps : Nat) → Inflating Unit
  | 0 => throw .starved
  | steps + 1 => do
    let last ← bit
    let kind ← bits 2
    let size := 8 * (← get).data.size
    match kind with
    | 0 => stored
    | 1 => coded fixedLiterals fixedDistances size
    | 2 => do
      let (literals, distances) ← codes
      coded literals distances size
    | _ => throw (.corrupt .blockKind)
    if last = 0 then blocks steps

end Inflating

/-- The expanded data, as far as the data goes, or what is wrong with it. -/
def inflate (data : ByteArray) : Except Corruption Expanded :=
  match (Inflating.blocks (8 * data.size + 1)).run ⟨data, 0, .empty⟩ with
  | .ok _ s => .ok ⟨s.out, true⟩
  | .error .starved s => .ok ⟨s.out, false⟩
  | .error (.corrupt corruption) _ => .error corruption

end JarLens.Archive
