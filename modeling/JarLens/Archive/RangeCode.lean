import JarLens.Archive.Bytes
import JarLens.Archive.Expanded
import JarLens.Text.Basic

/-!
# Range-coded data

The data is a series of steps: a literal byte, a repetition at a distance of its own, or one at a
distance used before. All choices are bits, most of which are coded within a range of numbers that
each one narrows by its weight, and the weights follow the bits seen so far. `unrange` expands the
data, after a head with the properties of the coding.
-/

namespace JarLens.Archive

/-- What is wrong with range-coded data. -/
inductive RangeCorruption where
  /-- The properties in the head are none that can be used. -/
  | properties
  | data
  deriving DecidableEq

/-- What is told of corrupt data. -/
def RangeCorruption.message : RangeCorruption → Text
  | properties => "Invalid or unsupported options".toList
  | data => "Corrupt input data".toList

/-- What the head tells about the coding. -/
structure RangeProperties where
  /-- How many of the high bits of the byte before a literal choose its weights. -/
  literalContext : Nat
  /-- How many of the low bits of a literal's position choose them. -/
  literalPlace : Nat
  /-- How many of the low bits of the position choose the weights of other choices. -/
  place : Nat
  /-- The greatest distance. -/
  reach : Nat
  deriving DecidableEq

/-- The properties told by five bytes. -/
def RangeProperties.ofBytes? (bytes : ByteArray) : Option RangeProperties :=
  let first := byteAt bytes 0
  let properties : RangeProperties :=
    ⟨first % 9, first / 9 % 5, first / 45, (max 4096 (numberAt bytes 4 1) + 15) / 16 * 16⟩
  if bytes.size = 5 ∧ first < 225 ∧ properties.literalContext + properties.literalPlace ≤ 4 then
    some properties
  else none

/-- How many numbers some bits tell. -/
def twoTo (bits : Nat) : Nat := 1 <<< bits

/-- The data, the range, what was expanded so far, and what the choices to come depend on. -/
structure RangeState where
  data : ByteArray
  /-- Where the bytes start that are not yet in `code`. -/
  next : Nat
  range : UInt32
  /-- The number within the range that tells the bits. -/
  code : UInt32
  /-- The weight of a zero bit for each choice, out of 2048. -/
  weights : Array Nat
  out : ByteArray
  /-- The kinds of the last steps, below 7 when the last one was a literal. -/
  course : Nat
  /-- The last four distances, the most recent first, each less by one. -/
  distances : List Nat

/-- A step of expanding. -/
abbrev Ranging := EStateM (Halt RangeCorruption) RangeState

namespace Ranging

/-! ## Bits -/

/-- Takes a byte in when the range is narrow. -/
def refill : Ranging Unit := fun s =>
  if s.range < 0x1000000 then
    match s.data[s.next]? with
    | some b =>
      .ok () { s with
        next := s.next + 1, range := s.range <<< 8, code := (s.code <<< 8) ||| b.toUInt32 }
    | none => .error .starved s
  else .ok () s

/-- The next bit of a choice. -/
def bit (choice : Nat) : Ranging Nat := do
  refill
  modifyGet fun (s : RangeState) =>
    let weight := s.weights[choice]?.getD 1024
    let bound := (s.range >>> 11) * weight.toUInt32
    if s.code < bound then
      (0, { s with
        range := bound, weights := s.weights.setIfInBounds choice (weight + (2048 - weight) / 32) })
    else
      (1, { s with
        range := s.range - bound, code := s.code - bound
        weights := s.weights.setIfInBounds choice (weight - weight / 32) })

/-- A bit without a weight. -/
def plainBit : Ranging Nat := do
  refill
  modifyGet fun (s : RangeState) =>
    let range := s.range >>> 1
    if (s.code - range) >>> 31 = 0 then (1, { s with range, code := s.code - range })
    else (0, { s with range })

/-- A number of `width` bits without weights, the highest first, after those in `high`. -/
def plainBits : (width high : Nat) → Ranging Nat
  | 0, high => pure high
  | width + 1, high => do plainBits width (2 * high + (← plainBit))

/-- A number of `width` bits, the highest first, after those in `high`, which start with a one. What
was read of the number is what tells the choice. -/
def tree (base : Nat) : (width high : Nat) → Ranging Nat
  | 0, high => pure high
  | width + 1, high => do tree base width (2 * high + (← bit (base + high)))

/-- A number of `width` bits. -/
def number (base width : Nat) : Ranging Nat := do
  pure ((← tree base width 1) - twoTo width)

/-- A number of `width` bits, the lowest first. -/
def lowFirst (base : Nat) : (width high : Nat) → Ranging Nat
  | 0, _ => pure 0
  | width + 1, high => do
    let low ← bit (base + high)
    pure (low + 2 * (← lowFirst base width (2 * high + low)))

/-! ## Choices

Each choice has its number, by which its weight is found. -/

/-- Whether a repetition comes, and not a literal. -/
def isRepetition (course place : Nat) : Nat := 16 * course + place

/-- Whether the repetition has a distance used before. -/
def isKnown (course : Nat) : Nat := 192 + course

/-- Whether that is not the last distance, and then not the one before, and so on. -/
def isOlder (age course : Nat) : Nat := 204 + 12 * age + course

/-- Whether more than one byte is repeated at the last distance. -/
def isLong (course place : Nat) : Nat := 240 + 16 * course + place

/-- The number of the distance, for each of four lengths. -/
def distanceNumber (length : Nat) : Nat := 432 + 64 * length

/-- The lower bits of a distance that is not far, from the least one with its number on. -/
def nearDistance (least number : Nat) : Nat := 688 + least - number

/-- The lowest four bits of a far distance. -/
def farDistance : Nat := 802

/-- The length of a repetition at a new distance. -/
def newLength : Nat := 818

/-- The length of a repetition at a known distance. -/
def knownLength : Nat := 1332

/-- The bits of a literal. -/
def literalBits (context : Nat) : Nat := 1846 + 768 * context

/-- How many choices there are. -/
def choiceCount (properties : RangeProperties) : Nat :=
  literalBits (twoTo (properties.literalContext + properties.literalPlace))

/-! ## Steps -/

/-- The byte that lies some bytes back, the last one at zero. In front of the first byte lies a
zero. -/
def byteBack (s : RangeState) (distance : Nat) : Nat :=
  if distance < s.out.size then byteAt s.out (s.out.size - 1 - distance) else 0

/-- The rest of a literal in place of another byte: as long as the bits are those of `other`, they
have weights of their own. -/
def literalAfter (base other : Nat) : (width high : Nat) → Ranging Nat
  | 0, high => pure high
  | width + 1, high => do
    let expected := other / twoTo width % 2
    let b ← bit (base + 256 * (1 + expected) + high)
    if b = expected then literalAfter base other width (2 * high + b)
    else tree base width (2 * high + b)

/-- Expands a literal. -/
def literal (properties : RangeProperties) : Ranging Unit := do
  let s ← get
  let base := literalBits
    (s.out.size % twoTo properties.literalPlace * twoTo properties.literalContext +
      byteBack s 0 / twoTo (8 - properties.literalContext))
  let b ← if s.course < 7 then tree base 8 1
    else literalAfter base (byteBack s (s.distances.headD 0)) 8 1
  modify fun s =>
    { s with
      out := s.out.push b.toUInt8
      course := if s.course < 4 then 0 else if s.course < 10 then s.course - 3 else s.course - 6 }

/-- The length of a repetition. -/
def length (base place : Nat) : Ranging Nat := do
  if (← bit base) = 0 then pure (2 + (← number (base + 2 + 8 * place) 3))
  else if (← bit (base + 1)) = 0 then pure (10 + (← number (base + 130 + 8 * place) 3))
  else pure (18 + (← number (base + 258) 8))

/-- The distance of a repetition of `length` bytes, less by one. -/
def distance (length : Nat) : Ranging Nat := do
  let n ← number (distanceNumber (min (length - 2) 3)) 6
  if n < 4 then pure n
  else
    let width := n / 2 - 1
    let least := (2 + n % 2) * twoTo width
    if n < 14 then pure (least + (← lowFirst (nearDistance least n - 1) width 1))
    else
      let high ← plainBits (width - 4) (2 + n % 2)
      pure (16 * high + (← lowFirst farDistance 4 1))

/-- Repeats `length` bytes at the last distance. -/
def repeatBack (length : Nat) : Ranging Unit :=
  modify fun s => { s with out := withRepeated (s.distances.headD 0 + 1) length s.out }

/-- The distance that ends the data. -/
def endDistance : Nat := 0xffffffff

/-- Expands a repetition at a new distance. Tells whether the data ends instead. -/
def newRepetition (properties : RangeProperties) (place : Nat) : Ranging Bool := do
  modify fun s => { s with course := if s.course < 7 then 7 else 10 }
  let count ← length newLength place
  let last ← distance count
  modify fun s => { s with distances := last :: s.distances.take 3 }
  if last = endDistance then
    refill
    if (← get).code ≠ 0 then throw (.corrupt .data)
    pure true
  else
    if min (← get).out.size properties.reach ≤ last then throw (.corrupt .data)
    repeatBack count
    pure false

/-- Which of the last distances is used, from one of an age on. -/
def olderDistance (course : Nat) : (ages age : Nat) → Ranging Nat
  | 0, age => pure age
  | ages + 1, age => do
    if (← bit (isOlder age course)) = 0 then pure age else olderDistance course ages (age + 1)

/-- Expands a repetition at a known distance. At the last one it may be of a single byte. -/
def knownRepetition (course place : Nat) : Ranging Unit := do
  if (← get).out.isEmpty then throw (.corrupt .data)
  let age ← olderDistance course 3 0
  let isShort ← if age = 0 then (· == 0) <$> bit (isLong course place) else pure false
  if isShort then
    modify fun s => { s with course := if course < 7 then 9 else 11 }
    repeatBack 1
  else
    modify fun s =>
      { s with
        distances := s.distances[age]?.toList ++ s.distances.eraseIdx age
        course := if course < 7 then 8 else 11 }
    repeatBack (← length knownLength place)

/-- Expands step after step. -/
def steps (properties : RangeProperties) : (count : Nat) → Ranging Unit
  | 0 => throw .starved
  | count + 1 => do
    let course := (← get).course
    let place := (← get).out.size % twoTo properties.place
    if (← bit (isRepetition course place)) = 0 then
      literal properties
      steps properties count
    else if (← bit (isKnown course)) = 0 then
      if !(← newRepetition properties place) then steps properties count
    else
      knownRepetition course place
      steps properties count

/-- How many steps can be coded in one byte. The greatest weight is 2017, so every bit narrows the
range by at least one part in 69, and so many of them by more than a byte. -/
def stepsPerByte : Nat := 400

/-- Expands all of the data: a zero, the first four bytes of the code, and the steps. -/
def all (properties : RangeProperties) : Ranging Unit := do
  let data := (← get).data
  if 0 < data.size && byteAt data 0 ≠ 0 then throw (.corrupt .data)
  if data.size < 5 then throw .starved
  modify fun s =>
    { s with
      next := 5
      code := (List.range 4).foldl (fun code i => (code <<< 8) ||| (byteAt data (i + 1)).toUInt32)
        0 }
  steps properties (stepsPerByte * (data.size + 1))

end Ranging

/-- The expanded data after a head, as far as the data goes, or what is wrong with it. The head has
a version, which does not matter, the length of the properties, and the properties. -/
def unrange (data : ByteArray) : Except RangeCorruption Expanded :=
  let start := 4 + numberAt data 2 2
  if data.size ≤ 4 || data.size ≤ start then .ok ⟨.empty, false⟩
  else
    match RangeProperties.ofBytes? (data.extract 4 start) with
    | none => .error .properties
    | some properties =>
      let weights := Array.replicate (Ranging.choiceCount properties) 1024
      match (Ranging.all properties).run
          ⟨data.extract start data.size, 0, 0xffffffff, 0, weights, .empty, 0, [0, 0, 0, 0]⟩ with
      | .ok _ s => .ok ⟨s.out, true⟩
      | .error .starved s => .ok ⟨s.out, false⟩
      | .error (.corrupt corruption) _ => .error corruption

end JarLens.Archive
