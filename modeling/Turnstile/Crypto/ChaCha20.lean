import Turnstile.Bytes

/-!
The stream cipher ChaCha20 with 24-byte nonces. Sixteen bytes of the nonce make a key of their own
from the given one; the other eight number the streams of that key. Encrypting is adding a key
stream bit by bit, so decrypting is the same operation.
-/

namespace Turnstile.Crypto.ChaCha20

abbrev Key := Bytes.Sized 32

abbrev Nonce := Bytes.Sized 24

structure Row where
  word₀ : UInt32
  word₁ : UInt32
  word₂ : UInt32
  word₃ : UInt32

structure State where
  row₀ : Row
  row₁ : Row
  row₂ : Row
  row₃ : Row

namespace Row

def toList (row : Row) : List UInt32 :=
  [row.word₀, row.word₁, row.word₂, row.word₃]

def rotate (row : Row) : Row :=
  ⟨row.word₁, row.word₂, row.word₃, row.word₀⟩

end Row

namespace State

def toList (state : State) : List UInt32 :=
  state.row₀.toList ++ state.row₁.toList ++ state.row₂.toList ++ state.row₃.toList

def alignDiagonals (state : State) : State :=
  ⟨state.row₀, state.row₁.rotate, state.row₂.rotate.rotate, state.row₃.rotate.rotate.rotate⟩

def restoreDiagonals (state : State) : State :=
  ⟨state.row₀, state.row₁.rotate.rotate.rotate, state.row₂.rotate.rotate, state.row₃.rotate⟩

end State

@[inline] def rotateLeft (word count : UInt32) : UInt32 :=
  (word <<< count) ||| (word >>> (32 - count))

@[inline] def quarterRound (a b c d : UInt32) : UInt32 × UInt32 × UInt32 × UInt32 :=
  let a := a + b
  let d := rotateLeft (d ^^^ a) 16
  let c := c + d
  let b := rotateLeft (b ^^^ c) 12
  let a := a + b
  let d := rotateLeft (d ^^^ a) 8
  let c := c + d
  let b := rotateLeft (b ^^^ c) 7
  (a, b, c, d)

def mixColumns (state : State) : State :=
  let ⟨⟨a₀, a₁, a₂, a₃⟩, ⟨b₀, b₁, b₂, b₃⟩, ⟨c₀, c₁, c₂, c₃⟩, ⟨d₀, d₁, d₂, d₃⟩⟩ := state
  let (a₀, b₀, c₀, d₀) := quarterRound a₀ b₀ c₀ d₀
  let (a₁, b₁, c₁, d₁) := quarterRound a₁ b₁ c₁ d₁
  let (a₂, b₂, c₂, d₂) := quarterRound a₂ b₂ c₂ d₂
  let (a₃, b₃, c₃, d₃) := quarterRound a₃ b₃ c₃ d₃
  ⟨⟨a₀, a₁, a₂, a₃⟩, ⟨b₀, b₁, b₂, b₃⟩, ⟨c₀, c₁, c₂, c₃⟩, ⟨d₀, d₁, d₂, d₃⟩⟩

def doubleRound (state : State) : State :=
  (mixColumns (mixColumns state).alignDiagonals).restoreDiagonals

def twentyRounds (state : State) : State :=
  (List.range 10).foldl (fun state _ => doubleRound state) state

def word (bytes : Bytes) (index : Nat) : UInt32 :=
  UInt32.ofNat (Bytes.toNat ((bytes.drop (4 * index)).take 4))

def row (bytes : Bytes) (index : Nat) : Row :=
  ⟨word bytes index, word bytes (index + 1), word bytes (index + 2), word bytes (index + 3)⟩

def constants : Row :=
  ⟨0x61707865, 0x3320646e, 0x79622d32, 0x6b206574⟩

def initial (key : Bytes) (tail : Row) : State :=
  ⟨constants, row key 0, row key 4, tail⟩

def wordsBytes (words : List UInt32) : Bytes :=
  words.flatMap fun word => Bytes.littleEndian 4 word.toNat

def subkey (key : Key) (nonce : Nonce) : Bytes :=
  let state := twentyRounds (initial key.bytes (row nonce.bytes 0))
  wordsBytes (state.row₀.toList ++ state.row₃.toList)

def block (subkey : Bytes) (nonce : Nonce) (counter : Nat) : Bytes :=
  let tail : Row := ⟨UInt32.ofNat counter, 0, word nonce.bytes 4, word nonce.bytes 5⟩
  let start := initial subkey tail
  wordsBytes (List.zipWith (· + ·) (twentyRounds start).toList start.toList)

def keyStream (subkey : Bytes) (nonce : Nonce) (first count : Nat) : Bytes :=
  (List.range' first count).flatMap (block subkey nonce)

/-- Block 0 of the stream is not for data. -/
def apply (subkey : Bytes) (nonce : Nonce) (data : Bytes) : Bytes :=
  Bytes.xor data (keyStream subkey nonce 1 ((data.length + 63) / 64))

end Turnstile.Crypto.ChaCha20
