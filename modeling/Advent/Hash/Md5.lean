/-!
# The MD5 digest

A message is padded with one bit, zeroes and its length in bits to whole blocks of 64 bytes. Each
block is read as sixteen little-endian words and mixed into four words of state over 64 steps. The
digest is the final state, sixteen bytes.
-/
namespace Advent.Hash.Md5

/-- The whole parts of 2³² times the absolute sine of 1 to 64. -/
def sines : Array UInt32 := #[
  0xd76aa478, 0xe8c7b756, 0x242070db, 0xc1bdceee, 0xf57c0faf, 0x4787c62a,
  0xa8304613, 0xfd469501, 0x698098d8, 0x8b44f7af, 0xffff5bb1, 0x895cd7be,
  0x6b901122, 0xfd987193, 0xa679438e, 0x49b40821, 0xf61e2562, 0xc040b340,
  0x265e5a51, 0xe9b6c7aa, 0xd62f105d, 0x02441453, 0xd8a1e681, 0xe7d3fbc8,
  0x21e1cde6, 0xc33707d6, 0xf4d50d87, 0x455a14ed, 0xa9e3e905, 0xfcefa3f8,
  0x676f02d9, 0x8d2a4c8a, 0xfffa3942, 0x8771f681, 0x6d9d6122, 0xfde5380c,
  0xa4beea44, 0x4bdecfa9, 0xf6bb4b60, 0xbebfbc70, 0x289b7ec6, 0xeaa127fa,
  0xd4ef3085, 0x04881d05, 0xd9d4d039, 0xe6db99e5, 0x1fa27cf8, 0xc4ac5665,
  0xf4292244, 0x432aff97, 0xab9423a7, 0xfc93a039, 0x655b59c3, 0x8f0ccc92,
  0xffeff47d, 0x85845dd1, 0x6fa87e4f, 0xfe2ce6e0, 0xa3014314, 0x4e0811a1,
  0xf7537e82, 0xbd3af235, 0x2ad7d2bb, 0xeb86d391]

/-- The rotations of the four rounds, each repeated four times in its round. -/
def rotations : Array UInt32 := #[7, 12, 17, 22, 5, 9, 14, 20, 4, 11, 16, 23, 6, 10, 15, 21]

structure State where
  a : UInt32
  b : UInt32
  c : UInt32
  d : UInt32

def initial : State := ⟨0x67452301, 0xefcdab89, 0x98badcfe, 0x10325476⟩

@[inline] def rotateLeft (word amount : UInt32) : UInt32 :=
  (word <<< amount) ||| (word >>> (32 - amount))

/-- What a step makes of three words of the state. -/
@[inline] def mix (step : Nat) (b c d : UInt32) : UInt32 :=
  if step < 16 then (b &&& c) ||| (~~~b &&& d)
  else if step < 32 then (d &&& b) ||| (~~~d &&& c)
  else if step < 48 then b ^^^ c ^^^ d
  else c ^^^ (b ||| ~~~d)

/-- The place of the word that a step takes. -/
@[inline] def place (step : Nat) : Nat :=
  if step < 16 then step
  else if step < 32 then (5 * step + 1) % 16
  else if step < 48 then (3 * step + 5) % 16
  else 7 * step % 16

/-- The state when the steps that are left of the 64 are done. -/
def advance (words : Array UInt32) : (left : Nat) → (a b c d : UInt32) → State
  | 0, a, b, c, d => ⟨a, b, c, d⟩
  | left + 1, a, b, c, d =>
    let step := 63 - left
    let sum := a + mix step b c d + sines.getD step 0 + words.getD (place step) 0
    let rotation := rotations.getD (step / 16 * 4 + step % 4) 0
    advance words left d (b + rotateLeft sum rotation) b c

/-- Little-endian words of four bytes. -/
def toWords : List UInt8 → List UInt32
  | a :: b :: c :: d :: rest =>
    (a.toUInt32 ||| (b.toUInt32 <<< 8) ||| (c.toUInt32 <<< 16) ||| (d.toUInt32 <<< 24)) ::
      toWords rest
  | _ => []

def compress (state : State) (words : Array UInt32) : State :=
  let mixed := advance words 64 state.a state.b state.c state.d
  ⟨state.a + mixed.a, state.b + mixed.b, state.c + mixed.c, state.d + mixed.d⟩

/-- So many bytes of a number, lowest first. -/
def littleEndian : (count value : Nat) → List UInt8
  | 0, _ => []
  | count + 1, value => UInt8.ofNat (value % 256) :: littleEndian count (value / 256)

def pad (message : List UInt8) : List UInt8 :=
  -- With the marking byte and the eight bytes of the length, the zeroes complete a block.
  let zeroes := (119 - message.length % 64) % 64
  message ++ 0x80 :: Nat.repeat (List.cons 0) zeroes (littleEndian 8 (8 * message.length))

/-- Mixes in one block of sixteen words after the other. -/
def absorb (state : State) : Nat → List UInt32 → State
  | 0, _ => state
  | blocks + 1, words => absorb (compress state (words.take 16).toArray) blocks (words.drop 16)

def digest (message : List UInt8) : List UInt8 :=
  let words := toWords (pad message)
  let final := absorb initial (words.length / 16) words
  [final.a, final.b, final.c, final.d].flatMap fun word => littleEndian 4 word.toNat

end Advent.Hash.Md5
