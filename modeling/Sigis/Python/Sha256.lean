namespace sigis

/-! `hashlib.sha256`. -/

namespace sha256

/-- The working variables of a compression, and the hash value between two blocks. -/
structure Words where
  a : UInt32
  b : UInt32
  c : UInt32
  d : UInt32
  e : UInt32
  f : UInt32
  g : UInt32
  h : UInt32
deriving DecidableEq, Repr

/-- The state before the first block. -/
def initial : Words :=
  ⟨0x6a09e667, 0xbb67ae85, 0x3c6ef372, 0xa54ff53a, 0x510e527f, 0x9b05688c, 0x1f83d9ab, 0x5be0cd19⟩

/-- The constants of the 64 rounds. -/
def round_constants : List UInt32 :=
  [0x428a2f98, 0x71374491, 0xb5c0fbcf, 0xe9b5dba5, 0x3956c25b, 0x59f111f1, 0x923f82a4, 0xab1c5ed5,
   0xd807aa98, 0x12835b01, 0x243185be, 0x550c7dc3, 0x72be5d74, 0x80deb1fe, 0x9bdc06a7, 0xc19bf174,
   0xe49b69c1, 0xefbe4786, 0x0fc19dc6, 0x240ca1cc, 0x2de92c6f, 0x4a7484aa, 0x5cb0a9dc, 0x76f988da,
   0x983e5152, 0xa831c66d, 0xb00327c8, 0xbf597fc7, 0xc6e00bf3, 0xd5a79147, 0x06ca6351, 0x14292967,
   0x27b70a85, 0x2e1b2138, 0x4d2c6dfc, 0x53380d13, 0x650a7354, 0x766a0abb, 0x81c2c92e, 0x92722c85,
   0xa2bfe8a1, 0xa81a664b, 0xc24b8b70, 0xc76c51a3, 0xd192e819, 0xd6990624, 0xf40e3585, 0x106aa070,
   0x19a4c116, 0x1e376c08, 0x2748774c, 0x34b0bcb5, 0x391c0cb3, 0x4ed8aa4a, 0x5b9cca4f, 0x682e6ff3,
   0x748f82ee, 0x78a5636f, 0x84c87814, 0x8cc70208, 0x90befffa, 0xa4506ceb, 0xbef9a3f7, 0xc67178f2]

/-- A rotation to the right by less than a word. -/
def rotate_right (x n : UInt32) : UInt32 := (x >>> n) ||| (x <<< (32 - n))

/-- One round, with its constant and its word of the schedule. -/
def round (s : Words) (k w : UInt32) : Words :=
  let s1 := rotate_right s.e 6 ^^^ rotate_right s.e 11 ^^^ rotate_right s.e 25
  let ch := (s.e &&& s.f) ^^^ (~~~ s.e &&& s.g)
  let t1 := s.h + s1 + ch + k + w
  let s0 := rotate_right s.a 2 ^^^ rotate_right s.a 13 ^^^ rotate_right s.a 22
  let maj := (s.a &&& s.b) ^^^ (s.a &&& s.c) ^^^ (s.b &&& s.c)
  let t2 := s0 + maj
  ⟨t1 + t2, s.a, s.b, s.c, s.d + t1, s.e, s.f, s.g⟩

/-- The message schedule, a window of sixteen words at a time: `n` more words follow the
sixteen given. -/
def schedule : Nat → List UInt32 → List UInt32
  | 0, window => window
  | n + 1, window =>
    match window with
    | w0 :: rest =>
      let w1 := rest.getD 0 0
      let w14 := rest.getD 13 0
      let s0 := rotate_right w1 7 ^^^ rotate_right w1 18 ^^^ (w1 >>> 3)
      let s1 := rotate_right w14 17 ^^^ rotate_right w14 19 ^^^ (w14 >>> 10)
      w0 :: schedule n (rest ++ [w0 + s0 + rest.getD 8 0 + s1])
    | [] => []

/-- A block changes the state by 64 rounds. -/
def compress (s : Words) (block : List UInt32) : Words :=
  let t := (round_constants.zip (schedule 48 block)).foldl (fun t kw => round t kw.1 kw.2) s
  ⟨s.a + t.a, s.b + t.b, s.c + t.c, s.d + t.d, s.e + t.e, s.f + t.f, s.g + t.g, s.h + t.h⟩

/-- Big-endian words of four bytes each. -/
def words : List UInt8 → List UInt32
  | b0 :: b1 :: b2 :: b3 :: rest =>
    ((b0.toUInt32 <<< 24) ||| (b1.toUInt32 <<< 16) ||| (b2.toUInt32 <<< 8) ||| b3.toUInt32) :: words rest
  | _ => []

/-- The message, a one bit, zeros up to a whole number of blocks, and the length in bits. -/
def padded (message : List UInt8) : List UInt8 :=
  let zeros : List UInt8 := List.replicate ((119 - message.length % 64) % 64) 0
  let length : List UInt8 := ([56, 48, 40, 32, 24, 16, 8, 0] : List Nat).map fun shift =>
    UInt8.ofNat ((message.length * 8) >>> shift)
  message ++ [0x80] ++ zeros ++ length

/-- `n` blocks of sixteen words each. -/
def compress_blocks : Nat → Words → List UInt32 → Words
  | 0, s, _ => s
  | n + 1, s, message => compress_blocks n (compress s (message.take 16)) (message.drop 16)

/-- The digit of a number below sixteen. -/
def hex_digit (n : UInt32) : Char :=
  ['0', '1', '2', '3', '4', '5', '6', '7', '8', '9', 'a', 'b', 'c', 'd', 'e', 'f'].getD n.toNat '0'

/-- The eight digits of a word. -/
def hex_word (word : UInt32) : List Char :=
  ([28, 24, 20, 16, 12, 8, 4, 0] : List UInt32).map fun shift => hex_digit ((word >>> shift) &&& 15)

/-- `sha256(text.encode()).hexdigest()`. -/
def hexdigest (text : String) : String :=
  let message := words (padded (text.toList.flatMap String.utf8EncodeChar))
  let s := compress_blocks (message.length / 16) initial message
  String.ofList ([s.a, s.b, s.c, s.d, s.e, s.f, s.g, s.h].flatMap hex_word)

theorem length_hex_word (word : UInt32) : (hex_word word).length = 8 := rfl

/-- A digest has 64 characters. -/
@[simp] theorem length_hexdigest (text : String) : (hexdigest text).length = 64 := by
  simp [hexdigest, length_hex_word]

/-- A message of two blocks. -/
example : hexdigest "abcdbcdecdefdefgefghfghighijhijkijkljklmklmnlmnomnopnopq" =
    "248d6a61d20638b8e5c026930c3e6039a33ce45964ff2167f6ecedd419db06c1" := by
  decide +kernel

end sha256

end sigis
