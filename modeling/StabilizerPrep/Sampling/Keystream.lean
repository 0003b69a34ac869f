import StabilizerPrep.Sampling.Draw

/-!
# The keystream of a seed

A seed of 64 bits is stretched to a key of eight words of 32 bits, and the key
to an endless keystream. The keystream is that of the ChaCha cipher with
twelve rounds: sixteen words at a time are mixed from four constants, the key,
the number of the block and a nonce of zero.
-/

namespace StabilizerPrep.Sampling

set_option autoImplicit false

abbrev Block := Vector UInt32 16

def rotateLeft (amount : UInt32) (value : UInt32) : UInt32 :=
  value <<< amount ||| value >>> (32 - amount)

def rotateRight (amount : UInt32) (value : UInt32) : UInt32 :=
  value >>> amount ||| value <<< (32 - amount)

namespace Block

/-- Adds one word to another, and the sum to a third one by bitwise addition
and rotation. -/
def mix (target source turned : Fin 16) (amount : UInt32) (block : Block) : Block :=
  let sum := block.get target + block.get source
  (block.set target sum).set turned (rotateLeft amount (block.get turned ^^^ sum))

def quarter (block : Block) (places : Fin 16 × Fin 16 × Fin 16 × Fin 16) : Block :=
  let (a, b, c, d) := places
  (((block.mix a b d 16).mix c d b 12).mix a b d 8).mix c d b 7

/-- The places that the quarters of two rounds act on: the columns of a square
of four words by four, then its diagonals. -/
def doubleRound : List (Fin 16 × Fin 16 × Fin 16 × Fin 16) :=
  [(0, 4, 8, 12), (1, 5, 9, 13), (2, 6, 10, 14), (3, 7, 11, 15),
    (0, 5, 10, 15), (1, 6, 11, 12), (2, 7, 8, 13), (3, 4, 9, 14)]

def rounds : Nat → Block → Block
  | 0, block => block
  | count + 1, block => rounds count (doubleRound.foldl quarter block)

def constants : Vector UInt32 4 :=
  #v[0x61707865, 0x3320646e, 0x79622d32, 0x6b206574]

def start (key : Vector UInt32 8) (number : Nat) : Block :=
  constants ++ key ++ #v[UInt32.ofNat number, UInt32.ofNat (number / 2 ^ 32), 0, 0]

def keystream (key : Vector UInt32 8) (number : Nat) : Block :=
  let first := start key number
  (rounds 6 first).zipWith (· + ·) first

end Block

def advance (state : UInt64) : UInt64 :=
  state * 6364136223846793005 + 11634580027462260723

def output (state : UInt64) : UInt32 :=
  rotateRight (state >>> 59).toUInt32 (((state >>> 18 ^^^ state) >>> 27).toUInt32)

def key (seed : Nat) : Vector UInt32 8 :=
  .ofFn fun index => output (Nat.repeat advance (index.val + 1) (UInt64.ofNat seed))

/-- The keystream of a seed as words of 64 bits, each of them made of two
words of 32 bits, the low one first. -/
def keystream (seed : Nat) : Words :=
  let key := key seed
  fun position =>
    let block := Block.keystream key (position / 8)
    let low := block[2 * (position % 8)]
    let high := block[2 * (position % 8) + 1]
    low.toNat + 2 ^ 32 * high.toNat

end StabilizerPrep.Sampling
