import Turnstile.Bytes

/-!
The hash function BLAKE2b without a key, for digests of 1 to 64 bytes.
-/

namespace Turnstile.Crypto.Blake2b

abbrev Words (count : Nat) := Vector UInt64 count

@[inline] def rotateRight (word count : UInt64) : UInt64 :=
  (word >>> count) ||| (word <<< (64 - count))

def initial : Words 8 :=
  #v[0x6a09e667f3bcc908, 0xbb67ae8584caa73b, 0x3c6ef372fe94f82b, 0xa54ff53a5f1d36f1,
     0x510e527fade682d1, 0x9b05688c2b3e6c1f, 0x1f83d9abfb41bd6b, 0x5be0cd19137e2179]

/-- The order in which a round takes the words of a message block; rounds 10 and 11 repeat the
first two. -/
def schedule : List (Vector (Fin 16) 16) :=
  let orders : List (Vector (Fin 16) 16) :=
    [#v[0, 1, 2, 3, 4, 5, 6, 7, 8, 9, 10, 11, 12, 13, 14, 15],
     #v[14, 10, 4, 8, 9, 15, 13, 6, 1, 12, 0, 2, 11, 7, 5, 3],
     #v[11, 8, 12, 0, 5, 2, 15, 13, 10, 14, 3, 6, 7, 1, 9, 4],
     #v[7, 9, 3, 1, 13, 12, 11, 14, 2, 6, 5, 10, 4, 0, 15, 8],
     #v[9, 0, 5, 7, 2, 4, 10, 15, 14, 1, 11, 12, 6, 8, 3, 13],
     #v[2, 12, 6, 10, 0, 11, 8, 3, 4, 13, 7, 5, 15, 14, 1, 9],
     #v[12, 5, 1, 15, 14, 13, 4, 10, 0, 7, 6, 3, 9, 2, 8, 11],
     #v[13, 11, 7, 14, 12, 1, 3, 9, 5, 0, 15, 4, 8, 6, 2, 10],
     #v[6, 15, 14, 9, 11, 3, 0, 8, 12, 2, 13, 7, 1, 4, 10, 5],
     #v[10, 2, 8, 4, 7, 6, 1, 5, 15, 11, 9, 14, 3, 12, 13, 0]]
  orders ++ orders.take 2

def mix (state : Words 16) (a b c d : Fin 16) (x y : UInt64) : Words 16 :=
  let va := state[a] + state[b] + x
  let vd := rotateRight (state[d] ^^^ va) 32
  let vc := state[c] + vd
  let vb := rotateRight (state[b] ^^^ vc) 24
  let va := va + vb + y
  let vd := rotateRight (vd ^^^ va) 16
  let vc := vc + vd
  let vb := rotateRight (vb ^^^ vc) 63
  (((state.set a va).set b vb).set c vc).set d vd

def round (block : Words 16) (state : Words 16) (order : Vector (Fin 16) 16) : Words 16 :=
  let word (position : Fin 16) : UInt64 := block[order[position]]
  let state := mix state 0 4 8 12 (word 0) (word 1)
  let state := mix state 1 5 9 13 (word 2) (word 3)
  let state := mix state 2 6 10 14 (word 4) (word 5)
  let state := mix state 3 7 11 15 (word 6) (word 7)
  let state := mix state 0 5 10 15 (word 8) (word 9)
  let state := mix state 1 6 11 12 (word 10) (word 11)
  let state := mix state 2 7 8 13 (word 12) (word 13)
  mix state 3 4 9 14 (word 14) (word 15)

def blockWords (bytes : Bytes) : Words 16 :=
  Vector.ofFn fun index =>
    UInt64.ofNat (Bytes.toNat ((bytes.drop (8 * index.val)).take 8))

/-- `counted` is the number of bytes hashed so far, those of this block included. -/
def compress (chain : Words 8) (block : Bytes) (counted : Nat) (last : Bool) : Words 8 :=
  let low := UInt64.ofNat counted
  let high := UInt64.ofNat (counted / 0x10000000000000000)
  let start : Words 16 := chain ++ initial
  let start := (start.set 12 (start[12] ^^^ low)).set 13 (start[13] ^^^ high)
  let start := if last then start.set 14 (~~~ start[14]) else start
  let state := schedule.foldl (round (blockWords block)) start
  Vector.ofFn fun (index : Fin 8) => chain[index] ^^^ state[index.val] ^^^ state[index.val + 8]

def absorb (chain : Words 8) (counted : Nat) (message : Bytes) : Words 8 :=
  if message.length ≤ 128 then compress chain message (counted + message.length) true
  else
    absorb (compress chain (message.take 128) (counted + 128) false) (counted + 128)
      (message.drop 128)
termination_by message.length
decreasing_by simp; omega

def hash (size : Nat) (message : Bytes) : Bytes :=
  let start := initial.set 0 (initial[0] ^^^ 0x01010000 ^^^ UInt64.ofNat size)
  ((absorb start 0 message).toList.flatMap fun word => Bytes.littleEndian 8 word.toNat).take size

end Turnstile.Crypto.Blake2b
