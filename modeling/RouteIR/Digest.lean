import RouteIR.Text.Digit

namespace RouteIR

/-!
# SHA-1

The digest names decoders by their content: the same pattern or value set gets
the same name in every document.  The message is padded to whole blocks of
sixteen words, and each block is folded into five words of state.
-/

namespace Digest

/-- The five words of chaining state. -/
structure State where
  a : UInt32
  b : UInt32
  c : UInt32
  d : UInt32
  e : UInt32
deriving DecidableEq, Repr

def State.start : State :=
  ⟨0x67452301, 0xEFCDAB89, 0x98BADCFE, 0x10325476, 0xC3D2E1F0⟩

def rotateLeft (word : UInt32) (count : UInt32) : UInt32 :=
  (word <<< count) ||| (word >>> (32 - count))

def bigEndian (width value : Nat) : List UInt8 :=
  (List.range width).reverse.map fun place => UInt8.ofNat (value / Nat.pow 256 place)

/-- The message, a one bit, zeros, and the length in bits as eight bytes. -/
def pad (message : List UInt8) : List UInt8 :=
  let zeros := (119 - message.length % 64) % 64
  message ++ 0x80 :: List.replicate zeros 0 ++ bigEndian 8 (8 * message.length)

/-- Consecutive pieces of the given size. -/
def pieces {α : Type} (size : Nat) : Nat → List α → List (List α)
  | 0, _ => []
  | fuel + 1, items => if items.isEmpty then [] else items.take size :: pieces size fuel (items.drop size)

def wordOf (bytes : List UInt8) : UInt32 :=
  bytes.foldl (fun word byte => (word <<< 8) ||| byte.toUInt32) 0

/-- The eighty words of a block: each later word mixes four earlier ones. -/
def schedule (block : List UInt8) : Array UInt32 :=
  let first := ((pieces 4 16 block).map wordOf).toArray
  (List.range 64).foldl (fun words index =>
    let back (offset : Nat) : UInt32 := words.getD (index + 16 - offset) 0
    words.push (rotateLeft (back 3 ^^^ back 8 ^^^ back 14 ^^^ back 16) 1)) first

/-- The mixing function and the constant of a round. -/
def round (index : Nat) (state : State) : UInt32 × UInt32 :=
  if index < 20 then ((state.b &&& state.c) ||| ((~~~ state.b) &&& state.d), 0x5A827999)
  else if index < 40 then (state.b ^^^ state.c ^^^ state.d, 0x6ED9EBA1)
  else if index < 60 then
    ((state.b &&& state.c) ||| (state.b &&& state.d) ||| (state.c &&& state.d), 0x8F1BBCDC)
  else (state.b ^^^ state.c ^^^ state.d, 0xCA62C1D6)

def step (state : State) (indexed : UInt32 × Nat) : State :=
  let (mixed, constant) := round indexed.2 state
  ⟨rotateLeft state.a 5 + mixed + state.e + constant + indexed.1,
    state.a, rotateLeft state.b 30, state.c, state.d⟩

def absorb (state : State) (block : List UInt8) : State :=
  let last := (schedule block).toList.zipIdx.foldl step state
  ⟨state.a + last.a, state.b + last.b, state.c + last.c, state.d + last.d, state.e + last.e⟩

/-- The digest of a message as forty hexadecimal digits. -/
def sha1 (message : List UInt8) : String :=
  let padded := pad message
  let state := (pieces 64 padded.length padded).foldl absorb State.start
  String.ofList <| [state.a, state.b, state.c, state.d, state.e].flatMap fun word =>
    Text.hexDigits 8 word.toNat

/-- The first hexadecimal digits of the digest of a text in UTF-8, which every sequence of characters
has. -/
def shortHash (length : Nat) (text : String) : String :=
  String.ofList ((sha1 text.toUTF8.toList).toList.take length)

end Digest
end RouteIR
