import JarLens.Archive.Expanded
import JarLens.Archive.PrefixCode

/-!
# Undoing block sorting

Block-sorted data is a series of blocks and a mark that ends them. Of each block's text the runs
were shortened, all its rotations sorted, and their last column written with each byte as its place
among those used most recently, runs of the first place apart, in up to six prefix codes that take
turns. `unsort?` goes back.

What comes out is collected in a buffer that grows in steps. When the data is used up, a block that
still has bytes to give fills the buffer as it is, and is neither finished nor checked.
-/

namespace JarLens.Archive

/-- The data, the bits read of it, what was put out so far, and of the block being read the codes
still to be used. -/
structure UnsortState where
  data : ByteArray
  /-- Bits count from the highest of the first byte. -/
  bit : Nat
  out : ByteArray
  /-- What the checks of all blocks so far come to. -/
  checksum : UInt32
  /-- The codes for this group of symbols and those after it. -/
  codes : List PrefixCode
  /-- The symbols left of this group. -/
  left : Nat

/-- A step of undoing. There is one message for all that can be wrong. -/
abbrev Unsorting := EStateM (Halt Unit) UnsortState

namespace Unsorting

/-- Stops because of what no encoder writes. -/
def corrupt {α : Type} : Unsorting α :=
  throw (.corrupt ())

/-- The next bit. -/
def bit : Unsorting Nat := fun s =>
  match s.data[s.bit / 8]? with
  | some b => .ok ((b.toNat >>> (7 - s.bit % 8)) % 2) { s with bit := s.bit + 1 }
  | none => .error .starved s

/-- A number of `width` bits, the highest first, after those in `high`. -/
def bitsAfter : (width high : Nat) → Unsorting Nat
  | 0, high => pure high
  | width + 1, high => do bitsAfter width (2 * high + (← bit))

/-- A number of `width` bits, the highest first. -/
def bits (width : Nat) : Unsorting Nat :=
  bitsAfter width 0

/-- Reads bytes that have to be these. -/
def expect (bytes : List Nat) : Unsorting Unit :=
  bytes.forM fun b => do if (← bits 8) ≠ b then corrupt

/-! ## Prefix codes -/

/-- One more than the length of the longest code: only after this many bits it is clear that they
belong to no symbol. -/
def codeReach : Nat := 21

/-- Reads one symbol. `code` and `first` are the bits read and the first code of their length,
`index` is where the symbols of that length start. -/
def symbolAfter (symbols : Array Nat) :
    (counts : List Nat) → (code first index : Nat) → Unsorting Nat
  | [], _, _, _ => corrupt
  | count :: counts, code, first, index => do
    let code := code + (← bit)
    if code < first + count then pure (symbols[index + (code - first)]?.getD 0)
    else symbolAfter symbols counts (2 * code) (2 * (first + count)) (index + count)

/-- The symbols that are read with one code before the next one takes its turn. -/
def groupLength : Nat := 50

/-- Reads the next symbol of the block. -/
def symbol : Unsorting Nat := do
  match (← get).codes with
  | [] => corrupt
  | code :: codes => do
    modify fun s =>
      if s.left = 1 then { s with codes, left := groupLength } else { s with left := s.left - 1 }
    symbolAfter code.symbols code.counts 0 0 0

/-- The length of a code, which is some steps away from `length`. Each step takes two bits, so the
bits of the data bound the steps. -/
def codeLength : (steps length : Nat) → Unsorting Nat
  | 0, _ => throw .starved
  | steps + 1, length => do
    if length < 1 || 20 < length then corrupt
    if (← bit) = 0 then pure length
    else if (← bit) = 0 then codeLength steps (length + 1)
    else codeLength steps (length - 1)

/-- The lengths of `count` codes, each told by its difference from the one before. -/
def codeLengths : (count length : Nat) → Unsorting (List Nat)
  | 0, _ => pure []
  | count + 1, length => do
    let length ← codeLength (8 * (← get).data.size) length
    pure (length :: (← codeLengths count length))

/-- A prefix code for `count` symbols. -/
def code (count : Nat) : Unsorting PrefixCode := do
  pure (.ofLengths codeReach (← codeLengths count (← bits 5)))

/-- How many of `count` one bits there are in front of a zero bit. Not all of them can be ones. -/
def unary : (count : Nat) → Unsorting Nat
  | 0 => corrupt
  | count + 1 => do
    if (← bit) = 0 then pure 0 else pure ((← unary count) + 1)

/-- A list with its `i`-th element brought to the front. -/
def toFront {α : Type} (l : List α) (i : Nat) : List α :=
  l[i]?.toList ++ l.eraseIdx i

/-- The numbers at the front of a list, each after the one at its given place is brought there. -/
def frontAfter : (front places : List Nat) → List Nat
  | _, [] => []
  | front, place :: places =>
    let front := toFront front place
    front.headD 0 :: frontAfter front places

/-- The most groups of symbols that are of use. Encoders may write some more. -/
def groupLimit : Nat := 18002

/-- Reads the codes of a block, in the order in which they take turns. -/
def readCodes (symbolCount : Nat) : Unsorting Unit := do
  let codeCount ← bits 3
  if codeCount < 2 || 6 < codeCount then corrupt
  let groupCount ← bits 15
  if groupCount < 1 then corrupt
  let places ← (List.replicate groupCount codeCount).mapM unary
  let turns := frontAfter (List.range codeCount) (places.take groupLimit)
  let codes ← (List.replicate codeCount symbolCount).mapM code
  modify fun s => { s with codes := turns.map (codes[·]?.getD ⟨[], #[]⟩), left := groupLength }

/-! ## The column of a block -/

/-- The bytes that a block uses, told by sixteen bits and by sixteen more for each one of them. -/
def usedBytes : Unsorting (List UInt8) := do
  let rows ← (List.range 16).filterMapM fun row => do
    pure (if (← bit) = 1 then some row else none)
  let used ← rows.mapM fun row =>
    (List.range 16).filterMapM fun column => do
      pure (if (← bit) = 1 then some (16 * row + column).toUInt8 else none)
  pure used.flatten

/-- Bytes with `count` times one more. -/
def pushMany (b : UInt8) : (count : Nat) → ByteArray → ByteArray
  | 0, out => out
  | count + 1, out => pushMany b count (out.push b)

/-- No run is longer than what digits of less than this weight tell. -/
def weightLimit : Nat := 2097152

/-- Reads the symbols of a block up to `last`, and gives the column of at most `limit` bytes that
they stand for. `front` has the bytes in use, the most recent first. Symbols 0 and 1 are digits of
the length `run` of a run of its first byte, `weight` the next digit's. Every symbol takes a bit, so
the bits of the data bound the steps. -/
def column (last limit : Nat) :
    (steps : Nat) → (front : List UInt8) → (run weight : Nat) → ByteArray → Unsorting ByteArray
  | 0, _, _, _, _ => throw .starved
  | steps + 1, front, run, weight, bytes => do
    let s ← symbol
    if s < 2 then
      if weightLimit ≤ weight then corrupt
      column last limit steps front (run + (s + 1) * weight) (2 * weight) bytes
    else
      if limit < bytes.size + run then corrupt
      let bytes := pushMany (front.headD 0) run bytes
      if s = last then pure bytes
      else
        if limit ≤ bytes.size then corrupt
        let front := toFront front (s - 1)
        column last limit steps front 0 1 (bytes.push (front.headD 0))

/-! ## The text of a block -/

/-- The positions of a column in the order of their bytes, and then in their own order. -/
def sortedPositions (column : ByteArray) : Array Nat :=
  ((List.range column.size).foldl
    (fun buckets i => buckets.modify (column[i]?.getD 0).toNat (·.push i))
    (Array.replicate 256 #[])).flatten

/-- `count` bytes of the text whose sorted rotations end with `column`, from the first byte of the
rotation at `position` on. -/
def textFrom (column : ByteArray) (positions : Array Nat) :
    (count position : Nat) → ByteArray → ByteArray
  | 0, _, text => text
  | count + 1, position, text =>
    let position := positions[position]?.getD 0
    textFrom column positions count position (text.push (column[position]?.getD 0))

/-- The distances between the bytes that are changed where a block was shuffled. -/
def shuffleSteps : Array Nat :=
  #[619, 720, 127, 481, 931, 816, 813, 233, 566, 247, 985, 724, 205, 454, 863, 491, 741, 242, 949,
    214, 733, 859, 335, 708, 621, 574, 73, 654, 730, 472, 419, 436, 278, 496, 867, 210, 399, 680,
    480, 51, 878, 465, 811, 169, 869, 675, 611, 697, 867, 561, 862, 687, 507, 283, 482, 129, 807,
    591, 733, 623, 150, 238, 59, 379, 684, 877, 625, 169, 643, 105, 170, 607, 520, 932, 727, 476,
    693, 425, 174, 647, 73, 122, 335, 530, 442, 853, 695, 249, 445, 515, 909, 545, 703, 919, 874,
    474, 882, 500, 594, 612, 641, 801, 220, 162, 819, 984, 589, 513, 495, 799, 161, 604, 958, 533,
    221, 400, 386, 867, 600, 782, 382, 596, 414, 171, 516, 375, 682, 485, 911, 276, 98, 553, 163,
    354, 666, 933, 424, 341, 533, 870, 227, 730, 475, 186, 263, 647, 537, 686, 600, 224, 469, 68,
    770, 919, 190, 373, 294, 822, 808, 206, 184, 943, 795, 384, 383, 461, 404, 758, 839, 887, 715,
    67, 618, 276, 204, 918, 873, 777, 604, 560, 951, 160, 578, 722, 79, 804, 96, 409, 713, 940, 652,
    934, 970, 447, 318, 353, 859, 672, 112, 785, 645, 863, 803, 350, 139, 93, 354, 99, 820, 908,
    609, 772, 154, 274, 580, 184, 79, 626, 630, 742, 653, 282, 762, 623, 680, 81, 927, 626, 789,
    125, 411, 521, 938, 300, 821, 78, 343, 175, 128, 250, 170, 774, 972, 275, 999, 639, 495, 78,
    352, 126, 857, 956, 358, 619, 580, 124, 737, 594, 701, 612, 669, 112, 134, 694, 363, 992, 809,
    743, 168, 974, 944, 375, 748, 52, 600, 747, 642, 182, 862, 81, 344, 805, 988, 739, 511, 655,
    814, 334, 249, 515, 897, 955, 664, 981, 649, 113, 974, 459, 893, 228, 433, 837, 553, 268, 926,
    240, 102, 654, 459, 51, 686, 754, 806, 760, 493, 403, 415, 394, 687, 700, 946, 670, 656, 610,
    738, 392, 760, 799, 887, 653, 978, 321, 576, 617, 626, 502, 894, 679, 243, 440, 680, 879, 194,
    572, 640, 724, 926, 56, 204, 700, 707, 151, 457, 449, 797, 195, 791, 558, 945, 679, 297, 59, 87,
    824, 713, 663, 412, 693, 342, 606, 134, 108, 571, 364, 631, 212, 174, 643, 304, 329, 343, 97,
    430, 751, 497, 314, 983, 374, 822, 928, 140, 206, 73, 263, 980, 736, 876, 478, 430, 305, 170,
    514, 364, 692, 829, 82, 855, 953, 676, 246, 369, 970, 294, 750, 807, 827, 150, 790, 288, 923,
    804, 378, 215, 828, 592, 281, 565, 555, 710, 82, 896, 831, 547, 261, 524, 462, 293, 465, 502,
    56, 661, 821, 976, 991, 658, 869, 905, 758, 745, 193, 768, 550, 608, 933, 378, 286, 215, 979,
    792, 961, 61, 688, 793, 644, 986, 403, 106, 366, 905, 644, 372, 567, 466, 434, 645, 210, 389,
    550, 919, 135, 780, 773, 635, 389, 707, 100, 626, 958, 165, 504, 920, 176, 193, 713, 857, 265,
    203, 50, 668, 108, 645, 990, 626, 197, 510, 357, 358, 850, 858, 364, 936, 638]

/-- Where in a shuffled text a reader stands. -/
structure Shuffle where
  /-- The next of the distances. -/
  step : Nat
  /-- The bytes left up to where it starts. -/
  left : Nat
  text : ByteArray

/-- One more byte of a shuffled text. The last but one before the next distance is changed. -/
def Shuffle.next (s : Shuffle) (b : UInt8) : Shuffle :=
  let (left, step) :=
    if s.left = 0 then
      (shuffleSteps[s.step]?.getD 0 - 1, (s.step + 1) % shuffleSteps.size)
    else (s.left - 1, s.step)
  ⟨step, left, s.text.push (if left = 1 then b ^^^ 1 else b)⟩

/-- The text that was shuffled. -/
def unshuffled (text : ByteArray) : ByteArray :=
  (text.foldl Shuffle.next ⟨0, 0, .empty⟩).text

/-- A text whose runs are shortened, as far as it is read. -/
structure Shortened where
  text : ByteArray
  last : UInt8
  /-- How many equal bytes there are at the end, up to four. -/
  equal : Nat

/-- One more byte. After four equal ones it tells how many more of them there are. -/
def Shortened.next (s : Shortened) (b : UInt8) : Shortened :=
  if s.equal = 4 then ⟨pushMany s.last b.toNat s.text, s.last, 0⟩
  else ⟨s.text.push b, b, if s.equal ≠ 0 && b == s.last then s.equal + 1 else 1⟩

/-- What a block gives. -/
structure Block where
  text : ByteArray
  isShuffled : Bool
  /-- Four equal bytes stand at the end and their number is missing. -/
  isBroken : Bool

/-- What a block gives of which the column was read. One byte more than the column has is read where
the last number is missing: it is there because the text goes round. -/
def Block.ofColumn (column : ByteArray) (start : Nat) (isShuffled : Bool) : Block :=
  let positions := sortedPositions column
  let text := textFrom column positions (column.size + 1) start .empty
  let text := if isShuffled then unshuffled text else text
  let read := (text.extract 0 column.size).foldl Shortened.next ⟨.empty, 0, 0⟩
  let isBroken := read.equal = 4
  let read := if isBroken then read.next (text[column.size]?.getD 0) else read
  ⟨read.text, isShuffled, isBroken⟩

/-! ## Checks -/

/-- The check of one byte, as the remainder after eight shifts. -/
def checkEntry (b : UInt32) : UInt32 :=
  (List.range 8).foldl
    (fun r _ => if r &&& 0x80000000 = 0 then r <<< 1 else (r <<< 1) ^^^ 0x04c11db7) (b <<< 24)

/-- The checks of all bytes. -/
def checkTable : Array UInt32 :=
  ((List.range 256).map fun b => checkEntry b.toUInt32).toArray

/-- The check of a block, with the polynomial 0x04C11DB7. -/
def check (bytes : ByteArray) : UInt32 :=
  (bytes.foldl (fun (r : UInt32) b =>
    (r <<< 8) ^^^ (checkTable[((r >>> 24) ^^^ b.toUInt32).toNat]?.getD 0)) 0xffffffff)
    ^^^ 0xffffffff

/-! ## Blocks -/

/-- By how much the buffer grows each time, in units of 32768 bytes. -/
def bufferSteps : List Nat :=
  [1, 2, 8, 32, 128, 256, 512, 512, 1024, 1024, 1024, 1024, 2048, 2048, 4096, 4096]

/-- By how much it grows after that. -/
def lastBufferStep : Nat := 8192

/-- The size in these units, at least `size`, to which a buffer of `units` grows. -/
def bufferAfter (size : Nat) : (steps : List Nat) → (units : Nat) → Nat
  | [], units => units + (size - units + lastBufferStep - 1) / lastBufferStep * lastBufferStep
  | step :: steps, units =>
    if size ≤ units + step then units + step else bufferAfter size steps (units + step)

/-- The size of the buffer when `size` bytes are in it. -/
def bufferSize (size : Nat) : Nat :=
  32768 * bufferAfter ((size + 32767) / 32768) bufferSteps 0

/-- Whether a block is cut where the data is used up: the buffer has no room for its text, or for
seeing that it is broken. -/
def isCut (s : UnsortState) (block : Block) : Bool :=
  let buffer := bufferSize s.out.size
  let size := s.out.size + block.text.size
  s.data.size ≤ (s.bit + 7) / 8 &&
    (buffer < size || (buffer == size && block.isShuffled && block.isBroken))

/-- Puts out what a block gives. -/
def emit (block : Block) (checksum : Nat) : Unsorting Unit := do
  let s ← get
  if isCut s block then
    set { s with out := (s.out ++ block.text).extract 0 (bufferSize s.out.size) }
    throw .starved
  if block.isBroken || (check block.text).toNat ≠ checksum then corrupt
  modify fun s =>
    { s with
      out := s.out ++ block.text
      checksum := ((s.checksum <<< 1) ||| (s.checksum >>> 31)) ^^^ checksum.toUInt32 }

/-- Reads the rest of a block after its mark, whose column has at most `limit` bytes. -/
def block (limit : Nat) : Unsorting Unit := do
  let checksum ← bits 32
  let isShuffled := (← bit) == 1
  let start ← bits 24
  if 10 + limit < start then corrupt
  let used ← usedBytes
  if used.isEmpty then corrupt
  readCodes (used.length + 2)
  let bytes ← column (used.length + 1) limit (8 * (← get).data.size) used 0 1 .empty
  if bytes.size ≤ start then corrupt
  emit (.ofColumn bytes start isShuffled) checksum

/-- The bytes after the first one of the mark that starts a block. -/
def blockMark : List Nat := [0x41, 0x59, 0x26, 0x53, 0x59]

/-- The bytes after the first one of the mark that ends the data. -/
def endMark : List Nat := [0x72, 0x45, 0x38, 0x50, 0x90]

/-- Reads blocks up to the mark that ends them. Every block takes a bit, so the bits of the data
bound the steps. -/
def blocks (limit : Nat) : (steps : Nat) → Unsorting Unit
  | 0 => throw .starved
  | steps + 1 => do
    match ← bits 8 with
    | 0x31 => do
      expect blockMark
      block limit
      blocks limit steps
    | 0x17 => do
      expect endMark
      let checksum ← bits 32
      if (← get).checksum.toNat ≠ checksum then corrupt
    | _ => corrupt

/-- Reads all of the data. The digit in front tells the limit of the blocks. -/
def all : Unsorting Unit := do
  expect [0x42, 0x5a, 0x68]
  let level ← bits 8
  if level < 0x31 || 0x39 < level then corrupt
  blocks (100000 * (level - 0x30)) (8 * (← get).data.size)

end Unsorting

/-- The data behind block-sorted data, as far as it goes, none where it is corrupt. -/
def unsort? (data : ByteArray) : Option Expanded :=
  match Unsorting.all.run ⟨data, 0, .empty, 0, [], 0⟩ with
  | .ok _ s => some ⟨s.out, true⟩
  | .error .starved s => some ⟨s.out, false⟩
  | .error (.corrupt _) _ => none

end JarLens.Archive
