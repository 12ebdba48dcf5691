import RouteIR.Deflate.PrefixCode

namespace RouteIR
namespace Deflate

/-!
# Compressed data

Compressed data are blocks of bits.  A block is stored as it is, or it is a row of symbols in
prefix codes: bytes, and references to bytes that came before.  The codes are fixed, or they
stand at the start of the block, written in a prefix code themselves.

Data that end early expand to what they hold until then.
-/

inductive Fault where
  | blockKind
  | storedLength
  | tooManySymbols
  | lengthCode
  | repeatedLength
  | noEnd
  | literalCode
  | distanceCode
  | literalSymbol
  | distanceSymbol
  | distanceTooGreat
deriving DecidableEq, Repr

def Fault.message : Fault → String
  | blockKind => "invalid block type"
  | storedLength => "invalid stored block lengths"
  | tooManySymbols => "too many length or distance symbols"
  | lengthCode => "invalid code lengths set"
  | repeatedLength => "invalid bit length repeat"
  | noEnd => "invalid code -- missing end-of-block"
  | literalCode => "invalid literal/lengths set"
  | distanceCode => "invalid distances set"
  | literalSymbol => "invalid literal/length code"
  | distanceSymbol => "invalid distance code"
  | distanceTooGreat => "invalid distance too far back"

/-- Why expansion stops before the last block is done. -/
inductive Stop where
  | ended
  | fault (fault : Fault)
deriving DecidableEq, Repr

structure Progress where
  bits : List Bool
  output : Array UInt8

abbrev Expand := ExceptT Stop (StateM Progress)

/-! ## Bits -/

/-- The bits of bytes, the lowest of each byte first. -/
def bitsOf (bytes : List UInt8) : List Bool :=
  bytes.flatMap fun byte => (List.range 8).map byte.toNat.testBit

/-- The number that bits denote, the lowest first. -/
def numberOf (bits : List Bool) : Nat := bits.foldr (fun bit value => 2 * value + bit.toNat) 0

def readBits (count : Nat) : Expand Nat := do
  let bits := (← get).bits
  let taken := bits.take count
  if taken.length < count then throw .ended
  modify fun state => { state with bits := bits.drop count }
  return numberOf taken

/-- Passes over the rest of a byte. -/
def skipToByte : Expand Unit :=
  modify fun state => { state with bits := state.bits.drop (state.bits.length % 8) }

def write (byte : UInt8) : Expand Unit :=
  modify fun state => { state with output := state.output.push byte }

/-- The next symbol, absent where the bits start with no code. -/
def readSymbol (code : PrefixCode) : Expand (Option Nat) := do
  match code.read (← get).bits with
  | .symbol number rest =>
      modify fun state => { state with bits := rest }
      return some number
  | .nothing => return none
  | .ended => throw .ended

/-! ## Blocks -/

/-- Writes a stored row of bytes. -/
def expandStored : Nat → Expand Unit
  | 0 => return ()
  | count + 1 => do
      write (.ofNat (← readBits 8))
      expandStored count

/-- Writes bytes again that stand the given distance before the end. -/
def repeatBytes (distance : Nat) : Nat → Expand Unit
  | 0 => return ()
  | count + 1 => do
      let output := (← get).output
      write (output.getD (output.size - distance) 0)
      repeatBytes distance count

/-- The bases of a scale, each reached from the one before by what its extra bits can count. -/
def basesOf (first : Nat) (extraBits : List Nat) : List (Nat × Nat) :=
  (extraBits.foldl (fun (bases, next) extra => (bases ++ [(next, extra)], next + Nat.pow 2 extra))
    (([] : List (Nat × Nat)), first)).1

/-- The length that each symbol after the end of a block starts from, and the number of bits
that are added to it. -/
def lengthBases : List (Nat × Nat) :=
  basesOf 3 (List.replicate 8 0 ++ [1, 2, 3, 4, 5].flatMap (List.replicate 4)) ++ [(258, 0)]

def distanceBases : List (Nat × Nat) :=
  basesOf 1 ([0, 0] ++ (List.range 14).flatMap (List.replicate 2))

def endOfBlock : Nat := 256

/-- A length or a distance. -/
def readExtent (bases : List (Nat × Nat)) (number : Nat) (unknown : Fault) : Expand Nat := do
  match bases[number]? with
  | some (base, extra) => return base + (← readBits extra)
  | none => throw (.fault unknown)

/-- Writes what a row of symbols stands for, up to the end of the block. -/
def expandSymbols (literals distances : PrefixCode) : Nat → Expand Unit
  | 0 => throw .ended
  | fuel + 1 => do
      match ← readSymbol literals with
      | none => throw (.fault .literalSymbol)
      | some number =>
          if number < endOfBlock then
            write (.ofNat number)
            expandSymbols literals distances fuel
          else if endOfBlock < number then
            let length ← readExtent lengthBases (number - endOfBlock - 1) .literalSymbol
            match ← readSymbol distances with
            | none => throw (.fault .distanceSymbol)
            | some number =>
                let distance ← readExtent distanceBases number .distanceSymbol
                if (← get).output.size < distance then throw (.fault .distanceTooGreat)
                repeatBytes distance length
                expandSymbols literals distances fuel

def fixedLiterals : PrefixCode :=
  .ofLengths (List.replicate 144 8 ++ List.replicate 112 9 ++ List.replicate 24 7 ++
    List.replicate 8 8)

def fixedDistances : PrefixCode := .ofLengths (List.replicate 32 5)

/-- The order in which the lengths of the code for lengths are written. -/
def lengthOrder : List Nat := [16, 17, 18, 0, 8, 7, 9, 6, 10, 5, 11, 4, 12, 3, 13, 2, 14, 1, 15]

/-- Reads lengths until there are as many as told.  Three symbols repeat a length: the last one,
or zero. -/
def readLengths (code : PrefixCode) (count : Nat) (lengths : List Nat) : Nat → Expand (List Nat)
  | 0 => return lengths
  | fuel + 1 => do
      if count ≤ lengths.length then return lengths
      let number := (← readSymbol code).getD 0
      if number < 16 then readLengths code count (lengths ++ [number]) fuel
      else
        let (least, extra) := if number = 16 then (3, 2) else if number = 17 then (3, 3) else (11, 7)
        let copies := least + (← readBits extra)
        let length ← match number, lengths.getLast? with
          | 16, some last => pure last
          | 16, none => throw (.fault .repeatedLength)
          | _, _ => pure 0
        if count < lengths.length + copies then throw (.fault .repeatedLength)
        readLengths code count (lengths ++ List.replicate copies length) fuel

/-- Reads the two codes at the start of a block. -/
def readCodes : Expand (PrefixCode × PrefixCode) := do
  let literals := 257 + (← readBits 5)
  let distances := 1 + (← readBits 5)
  let written := 4 + (← readBits 4)
  if 286 < literals ∨ 30 < distances then throw (.fault .tooManySymbols)
  let known ← (lengthOrder.take written).mapM fun symbol => do return (symbol, ← readBits 3)
  let code := PrefixCode.ofLengths ((List.range 19).map fun symbol => (known.lookup symbol).getD 0)
  if !code.isComplete then throw (.fault .lengthCode)
  let lengths ← readLengths code (literals + distances) [] (literals + distances)
  let literalCode := PrefixCode.ofLengths (lengths.take literals)
  let distanceCode := PrefixCode.ofLengths (lengths.drop literals)
  if lengths.getD endOfBlock 0 = 0 then throw (.fault .noEnd)
  if !literalCode.isUsable then throw (.fault .literalCode)
  if !distanceCode.isUsable then throw (.fault .distanceCode)
  return (literalCode, distanceCode)

/-- Expands a block of the given kind. -/
def expandBlock (fuel kind : Nat) : Expand Unit := do
  match kind with
  | 0 =>
      skipToByte
      let length ← readBits 16
      let complement ← readBits 16
      if length + complement ≠ 0xFFFF then throw (.fault .storedLength)
      expandStored length
  | 1 => expandSymbols fixedLiterals fixedDistances fuel
  | 2 =>
      let (literals, distances) ← readCodes
      expandSymbols literals distances fuel
  | _ => throw (.fault .blockKind)

/-- Expands blocks up to one that is marked as the last. -/
def expandBlocks (symbols : Nat) : Nat → Expand Unit
  | 0 => throw .ended
  | fuel + 1 => do
      let last ← readBits 1
      let kind ← readBits 2
      expandBlock symbols kind
      if last = 0 then expandBlocks symbols fuel

/-- What compressed data expand to, and the bits after the last block, absent if the data end
before it does. -/
structure Expansion where
  output : Array UInt8
  rest : Option (List Bool)

/-- Expands compressed data.  Every symbol and every block takes a bit at least. -/
def expand (bytes : List UInt8) : Except Fault Expansion :=
  let bits := bitsOf bytes
  match (expandBlocks (bits.length + 1) (bits.length + 1)).run.run ⟨bits, #[]⟩ with
  | (.ok (), state) => .ok ⟨state.output, some (state.bits.drop (state.bits.length % 8))⟩
  | (.error .ended, state) => .ok ⟨state.output, none⟩
  | (.error (.fault fault), _) => .error fault

end Deflate
end RouteIR
