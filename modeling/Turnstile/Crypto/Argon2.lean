import Turnstile.Crypto.Blake2b

/-!
The password hash Argon2. It fills a memory of blocks, lane by lane, each block made from the one
before it and another one picked by pseudo-random numbers, and digests the last blocks of the
lanes. The variants differ in where those numbers come from: from the password (d), from counters
only (i), or from counters in the first half of the first pass (id).
-/

namespace Turnstile.Crypto.Argon2

inductive Variant where
  | d
  | i
  | id
  deriving DecidableEq, Repr

def Variant.number : Variant → Nat
  | d => 0
  | i => 1
  | id => 2

/-- The older version overwrites blocks in later passes, the newer one adds to them. -/
inductive Version where
  | v16
  | v19
  deriving DecidableEq, Repr

def Version.number : Version → Nat
  | v16 => 16
  | v19 => 19

structure Parameters where
  variant : Variant
  version : Version
  /-- In units of 1024 bytes. -/
  memory : Nat
  passes : Nat
  lanes : Nat
  size : Nat
  associated : Bytes := []
  deriving DecidableEq

/-! ## Hashing to any length -/

/-- Digests of up to 64 bytes come from one hash. Longer ones take 32 bytes from each of a chain
of hashes, and the rest from the last of it. -/
def longHashChain (remaining : Nat) (link : Bytes) : Bytes :=
  if remaining ≤ 64 then Blake2b.hash remaining link
  else
    let next := Blake2b.hash 64 link
    next.take 32 ++ longHashChain (remaining - 32) next
termination_by remaining

def longHash (size : Nat) (message : Bytes) : Bytes :=
  let message := Bytes.littleEndian 4 size ++ message
  if size ≤ 64 then Blake2b.hash size message
  else
    let first := Blake2b.hash 64 message
    first.take 32 ++ longHashChain (size - 32) first

/-! ## Blocks

A block is 128 words, seen as a square of 8 rows and 8 columns of two words each. The words of a
row stand in fields of their own, so that mixing them needs no look-up. -/

structure Row where
  w0 : UInt64
  w1 : UInt64
  w2 : UInt64
  w3 : UInt64
  w4 : UInt64
  w5 : UInt64
  w6 : UInt64
  w7 : UInt64
  w8 : UInt64
  w9 : UInt64
  w10 : UInt64
  w11 : UInt64
  w12 : UInt64
  w13 : UInt64
  w14 : UInt64
  w15 : UInt64

namespace Row

def ofFn (word : Nat → UInt64) : Row :=
  ⟨word 0, word 1, word 2, word 3, word 4, word 5, word 6, word 7, word 8, word 9, word 10,
   word 11, word 12, word 13, word 14, word 15⟩

def toList (row : Row) : List UInt64 :=
  [row.w0, row.w1, row.w2, row.w3, row.w4, row.w5, row.w6, row.w7, row.w8, row.w9, row.w10,
   row.w11, row.w12, row.w13, row.w14, row.w15]

def add (left right : Row) : Row :=
  ⟨left.w0 ^^^ right.w0, left.w1 ^^^ right.w1, left.w2 ^^^ right.w2, left.w3 ^^^ right.w3,
   left.w4 ^^^ right.w4, left.w5 ^^^ right.w5, left.w6 ^^^ right.w6, left.w7 ^^^ right.w7,
   left.w8 ^^^ right.w8, left.w9 ^^^ right.w9, left.w10 ^^^ right.w10, left.w11 ^^^ right.w11,
   left.w12 ^^^ right.w12, left.w13 ^^^ right.w13, left.w14 ^^^ right.w14, left.w15 ^^^ right.w15⟩

end Row

@[inline] def multiplyAdd (x y : UInt64) : UInt64 :=
  x + y + 2 * (x &&& 0xffffffff) * (y &&& 0xffffffff)

structure Quarter where
  a : UInt64
  b : UInt64
  c : UInt64
  d : UInt64

@[inline] def Quarter.mix (quarter : Quarter) : Quarter :=
  let a := multiplyAdd quarter.a quarter.b
  let d := Blake2b.rotateRight (quarter.d ^^^ a) 32
  let c := multiplyAdd quarter.c d
  let b := Blake2b.rotateRight (quarter.b ^^^ c) 24
  let a := multiplyAdd a b
  let d := Blake2b.rotateRight (d ^^^ a) 16
  let c := multiplyAdd c d
  let b := Blake2b.rotateRight (b ^^^ c) 63
  { a, b, c, d }

def Row.permute (row : Row) : Row :=
  let column₀ := Quarter.mix ⟨row.w0, row.w4, row.w8, row.w12⟩
  let column₁ := Quarter.mix ⟨row.w1, row.w5, row.w9, row.w13⟩
  let column₂ := Quarter.mix ⟨row.w2, row.w6, row.w10, row.w14⟩
  let column₃ := Quarter.mix ⟨row.w3, row.w7, row.w11, row.w15⟩
  let diagonal₀ := Quarter.mix ⟨column₀.a, column₁.b, column₂.c, column₃.d⟩
  let diagonal₁ := Quarter.mix ⟨column₁.a, column₂.b, column₃.c, column₀.d⟩
  let diagonal₂ := Quarter.mix ⟨column₂.a, column₃.b, column₀.c, column₁.d⟩
  let diagonal₃ := Quarter.mix ⟨column₃.a, column₀.b, column₁.c, column₂.d⟩
  ⟨diagonal₀.a, diagonal₁.a, diagonal₂.a, diagonal₃.a,
   diagonal₃.b, diagonal₀.b, diagonal₁.b, diagonal₂.b,
   diagonal₂.c, diagonal₃.c, diagonal₀.c, diagonal₁.c,
   diagonal₁.d, diagonal₂.d, diagonal₃.d, diagonal₀.d⟩

structure Block where
  r0 : Row
  r1 : Row
  r2 : Row
  r3 : Row
  r4 : Row
  r5 : Row
  r6 : Row
  r7 : Row

namespace Block

def ofFn (word : Nat → UInt64) : Block :=
  let row (index : Nat) : Row := Row.ofFn fun column => word (16 * index + column)
  ⟨row 0, row 1, row 2, row 3, row 4, row 5, row 6, row 7⟩

def rows (block : Block) : List Row :=
  [block.r0, block.r1, block.r2, block.r3, block.r4, block.r5, block.r6, block.r7]

def words (block : Block) : List UInt64 :=
  block.rows.flatMap Row.toList

def zero : Block := ofFn fun _ => 0

instance : Inhabited Block := ⟨zero⟩

def ofBytes (bytes : Bytes) : Block :=
  ofFn fun index => UInt64.ofNat (Bytes.toNat ((bytes.drop (8 * index)).take 8))

def toBytes (block : Block) : Bytes :=
  block.words.flatMap fun word => Bytes.littleEndian 8 word.toNat

def add (left right : Block) : Block :=
  ⟨left.r0.add right.r0, left.r1.add right.r1, left.r2.add right.r2, left.r3.add right.r3,
   left.r4.add right.r4, left.r5.add right.r5, left.r6.add right.r6, left.r7.add right.r7⟩

def permuteRows (block : Block) : Block :=
  ⟨block.r0.permute, block.r1.permute, block.r2.permute, block.r3.permute,
   block.r4.permute, block.r5.permute, block.r6.permute, block.r7.permute⟩

def transpose (block : Block) : Block :=
  ⟨ ⟨block.r0.w0, block.r0.w1, block.r1.w0, block.r1.w1, block.r2.w0, block.r2.w1, block.r3.w0,
     block.r3.w1, block.r4.w0, block.r4.w1, block.r5.w0, block.r5.w1, block.r6.w0, block.r6.w1,
     block.r7.w0, block.r7.w1⟩,
    ⟨block.r0.w2, block.r0.w3, block.r1.w2, block.r1.w3, block.r2.w2, block.r2.w3, block.r3.w2,
     block.r3.w3, block.r4.w2, block.r4.w3, block.r5.w2, block.r5.w3, block.r6.w2, block.r6.w3,
     block.r7.w2, block.r7.w3⟩,
    ⟨block.r0.w4, block.r0.w5, block.r1.w4, block.r1.w5, block.r2.w4, block.r2.w5, block.r3.w4,
     block.r3.w5, block.r4.w4, block.r4.w5, block.r5.w4, block.r5.w5, block.r6.w4, block.r6.w5,
     block.r7.w4, block.r7.w5⟩,
    ⟨block.r0.w6, block.r0.w7, block.r1.w6, block.r1.w7, block.r2.w6, block.r2.w7, block.r3.w6,
     block.r3.w7, block.r4.w6, block.r4.w7, block.r5.w6, block.r5.w7, block.r6.w6, block.r6.w7,
     block.r7.w6, block.r7.w7⟩,
    ⟨block.r0.w8, block.r0.w9, block.r1.w8, block.r1.w9, block.r2.w8, block.r2.w9, block.r3.w8,
     block.r3.w9, block.r4.w8, block.r4.w9, block.r5.w8, block.r5.w9, block.r6.w8, block.r6.w9,
     block.r7.w8, block.r7.w9⟩,
    ⟨block.r0.w10, block.r0.w11, block.r1.w10, block.r1.w11, block.r2.w10, block.r2.w11,
     block.r3.w10, block.r3.w11, block.r4.w10, block.r4.w11, block.r5.w10, block.r5.w11,
     block.r6.w10, block.r6.w11, block.r7.w10, block.r7.w11⟩,
    ⟨block.r0.w12, block.r0.w13, block.r1.w12, block.r1.w13, block.r2.w12, block.r2.w13,
     block.r3.w12, block.r3.w13, block.r4.w12, block.r4.w13, block.r5.w12, block.r5.w13,
     block.r6.w12, block.r6.w13, block.r7.w12, block.r7.w13⟩,
    ⟨block.r0.w14, block.r0.w15, block.r1.w14, block.r1.w15, block.r2.w14, block.r2.w15,
     block.r3.w14, block.r3.w15, block.r4.w14, block.r4.w15, block.r5.w14, block.r5.w15,
     block.r6.w14, block.r6.w15, block.r7.w14, block.r7.w15⟩⟩

def compress (left right : Block) : Block :=
  let sum := left.add right
  sum.add sum.permuteRows.transpose.permuteRows.transpose

end Block

/-! ## Memory

A pass goes through four slices of the lanes. Within a slice no lane looks at what the others
write at the same time, so that they could be filled side by side. -/

namespace Parameters

def segmentLength (parameters : Parameters) : Nat :=
  parameters.memory / (4 * parameters.lanes)

def laneLength (parameters : Parameters) : Nat :=
  4 * parameters.segmentLength

def picksByCounter (parameters : Parameters) (pass slice : Nat) : Bool :=
  match parameters.variant with
  | .d => false
  | .i => true
  | .id => pass == 0 && slice < 2

end Parameters

structure Position where
  pass : Nat
  slice : Nat
  lane : Nat

/-- The pseudo-random numbers of a segment that counters give, 128 at a time. -/
def counterNumbers (parameters : Parameters) (position : Position) : Array UInt64 :=
  let numbers (counter : Nat) : List UInt64 :=
    let given := [position.pass, position.lane, position.slice,
      parameters.lanes * parameters.laneLength, parameters.passes, parameters.variant.number,
      counter]
    let input := Block.ofFn fun index => UInt64.ofNat (given.getD index 0)
    (Block.zero.compress (Block.zero.compress input)).words
  ((List.range ((parameters.segmentLength + 127) / 128)).flatMap fun counter =>
    numbers (counter + 1)).toArray

/-- Where the block stands that a pseudo-random number picks for the block at `index` of a
segment. Blocks of the own lane may be picked if they are finished, those of other lanes if their
slice is; the block just before is never picked, since it is used anyway. -/
def pick (parameters : Parameters) (position : Position) (index : Nat) (number : UInt64) : Nat :=
  let segment := parameters.segmentLength
  let low := number.toNat % 0x100000000
  let high := number.toNat / 0x100000000
  let lane :=
    if position.pass = 0 ∧ position.slice = 0 then position.lane else high % parameters.lanes
  let finished :=
    if position.pass = 0 then position.slice * segment else parameters.laneLength - segment
  let area :=
    if lane = position.lane then finished + index - 1
    else if index = 0 then finished - 1
    else finished
  let scaled := low * low / 0x100000000 * area / 0x100000000
  let first := if position.pass = 0 then 0 else (position.slice + 1) % 4 * segment
  parameters.laneLength * lane + (first + (area - 1 - scaled)) % parameters.laneLength

def fillBlock (parameters : Parameters) (position : Position) (numbers : Option (Array UInt64))
    (memory : Array Block) (index : Nat) : Array Block :=
  let base := parameters.laneLength * position.lane
  let place := position.slice * parameters.segmentLength + index
  let before := memory[base + (place + parameters.laneLength - 1) % parameters.laneLength]!
  let number := match numbers with
    | some numbers => numbers[index]!
    | none => before.r0.w0
  let picked := memory[pick parameters position index number]!
  let block := before.compress picked
  let block := match parameters.version with
    | .v19 => if position.pass = 0 then block else memory[base + place]!.add block
    | .v16 => block
  memory.set! (base + place) block

def fillSegment (parameters : Parameters) (memory : Array Block) (position : Position) :
    Array Block :=
  let numbers :=
    if parameters.picksByCounter position.pass position.slice then
      some (counterNumbers parameters position)
    else none
  let given := if position.pass = 0 ∧ position.slice = 0 then 2 else 0
  (List.range' given (parameters.segmentLength - given)).foldl
    (fillBlock parameters position numbers) memory

def positions (parameters : Parameters) : List Position :=
  (List.range parameters.passes).flatMap fun pass =>
    (List.range 4).flatMap fun slice =>
      (List.range parameters.lanes).map fun lane => { pass, slice, lane }

def givenMemory (parameters : Parameters) (seed : Bytes) : Array Block :=
  let given (lane place : Nat) : Block :=
    Block.ofBytes (longHash 1024
      (seed ++ Bytes.littleEndian 4 place ++ Bytes.littleEndian 4 lane))
  (List.range parameters.lanes).foldl
    (fun memory lane =>
      memory ++ #[given lane 0, given lane 1]
        ++ Array.replicate (parameters.laneLength - 2) Block.zero)
    #[]

def withLength (bytes : Bytes) : Bytes :=
  Bytes.littleEndian 4 bytes.length ++ bytes

def hash (parameters : Parameters) (password salt : Bytes) : Bytes :=
  let numbers := [parameters.lanes, parameters.size, parameters.memory, parameters.passes,
    parameters.version.number, parameters.variant.number]
  let seed := Blake2b.hash 64
    (numbers.flatMap (Bytes.littleEndian 4) ++ withLength password ++ withLength salt
      ++ withLength [] ++ withLength parameters.associated)
  let memory := (positions parameters).foldl (fillSegment parameters) (givenMemory parameters seed)
  let lastBlock (lane : Nat) : Block :=
    memory[parameters.laneLength * (lane + 1) - 1]!
  let last := (List.range parameters.lanes).foldl
    (fun sum lane => sum.add (lastBlock lane)) Block.zero
  longHash parameters.size last.toBytes

end Turnstile.Crypto.Argon2
