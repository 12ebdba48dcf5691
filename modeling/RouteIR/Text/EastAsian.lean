import RouteIR.Text.EastAsian.Japanese
import RouteIR.Text.EastAsian.Korean
import RouteIR.Text.EastAsian.Simplified
import RouteIR.Text.EastAsian.Traditional

namespace RouteIR
namespace Text

/-!
# East Asian code pages

In these code pages the bytes of ASCII stand for themselves, and others stand for characters
two by two, or three or four together.  A byte that no character starts with reads as U+FFFD,
and so does a character that is cut short at the end of a text.
-/

inductive EastAsian where
  /-- Simplified Chinese: the standard, and its two extensions. -/
  | simplified
  | simplifiedExtended
  | simplifiedFull
  /-- Traditional Chinese, and as a vendor has it. -/
  | traditional
  | traditionalVendor
  /-- Korean: the standard, and with all syllables. -/
  | korean
  | koreanExtended
  /-- Japanese: shifted between the half-width letters, the same as a vendor has it, and in
  high bytes. -/
  | shifted
  | shiftedVendor
  | japanese
deriving DecidableEq, Repr

namespace EastAsian

/-- What a text starts with. -/
inductive Step where
  | char (char : Char) (length : Nat)
  /-- No character. -/
  | broken
  /-- The start of a character. -/
  | short
deriving DecidableEq, Repr

/-- A character of some bytes, if there is one. -/
def Step.ofChar? (length : Nat) : Option Char → Step
  | some letter => .char letter length
  | none => .broken

/-- A pair looked up in tables. -/
def pairStep (tables : List PairTable) (first : Nat) : List Nat → Step
  | second :: _ => .ofChar? 2 (PairTable.findIn? tables first second)
  | [] => .short

/-! ## Chinese -/

/-- The pairs that are left to users, as private characters: three zones of rows. -/
def privatePair? (first second : Nat) : Option Char :=
  let code :=
    if 0xA1 ≤ second ∧ second ≤ 0xFE ∧ 0xAA ≤ first ∧ first ≤ 0xAF then
      0xE000 + (first - 0xAA) * 94 + (second - 0xA1)
    else if 0xA1 ≤ second ∧ second ≤ 0xFE ∧ 0xF8 ≤ first ∧ first ≤ 0xFE then
      0xE234 + (first - 0xF8) * 94 + (second - 0xA1)
    else if 0x40 ≤ second ∧ second ≤ 0xA0 ∧ second ≠ 0x7F ∧ 0xA1 ≤ first ∧ first ≤ 0xA7 then
      0xE4C6 + (first - 0xA1) * 96 + (second - (if second < 0x7F then 0x40 else 0x41))
    else 0
  if code = 0 then none else some (Char.ofNat code)

/-- Where runs of code points start among the groups of four bytes: the number of the group, and
the first code point.  The groups have all that no pair has, in order. -/
def groupRuns : List (Nat × Nat) :=
  [(0, 0x80), (36, 0xA5), (38, 0xA9), (45, 0xB2), (50, 0xB8), (81, 0xD8), (89, 0xE2), (95, 0xEB),
   (96, 0xEE), (100, 0xF4), (103, 0xF8), (104, 0xFB), (105, 0xFD), (109, 0x102), (126, 0x114),
   (133, 0x11C), (148, 0x12C), (172, 0x145), (175, 0x149), (179, 0x14E), (208, 0x16C),
   (306, 0x1CF), (307, 0x1D1), (308, 0x1D3), (309, 0x1D5), (310, 0x1D7), (311, 0x1D9),
   (312, 0x1DB), (313, 0x1DD), (341, 0x1FA), (428, 0x252), (443, 0x262), (544, 0x2C8),
   (545, 0x2CC), (558, 0x2DA), (741, 0x3A2), (742, 0x3AA), (749, 0x3C2), (750, 0x3CA),
   (805, 0x402), (819, 0x450), (820, 0x452), (7922, 0x2011), (7924, 0x2017), (7925, 0x201A),
   (7927, 0x201E), (7934, 0x2027), (7943, 0x2031), (7944, 0x2034), (7945, 0x2036), (7950, 0x203C),
   (8062, 0x20AD), (8148, 0x2104), (8149, 0x2106), (8152, 0x210A), (8164, 0x2117), (8174, 0x2122),
   (8236, 0x216C), (8240, 0x217A), (8262, 0x2194), (8264, 0x219A), (8374, 0x2209), (8380, 0x2210),
   (8381, 0x2212), (8384, 0x2216), (8388, 0x221B), (8390, 0x2221), (8392, 0x2224), (8393, 0x2226),
   (8394, 0x222C), (8396, 0x222F), (8401, 0x2238), (8406, 0x223E), (8416, 0x2249), (8419, 0x224D),
   (8424, 0x2253), (8437, 0x2262), (8439, 0x2268), (8445, 0x2270), (8482, 0x2296), (8485, 0x229A),
   (8496, 0x22A6), (8521, 0x22C0), (8603, 0x2313), (8936, 0x246A), (8946, 0x249C), (9046, 0x254C),
   (9050, 0x2574), (9063, 0x2590), (9066, 0x2596), (9076, 0x25A2), (9092, 0x25B4), (9100, 0x25BE),
   (9108, 0x25C8), (9111, 0x25CC), (9113, 0x25D0), (9131, 0x25E6), (9162, 0x2607), (9164, 0x260A),
   (9218, 0x2641), (9219, 0x2643), (11329, 0x2E82), (11331, 0x2E85), (11334, 0x2E89),
   (11336, 0x2E8D), (11346, 0x2E98), (11361, 0x2EA8), (11363, 0x2EAB), (11366, 0x2EAF),
   (11370, 0x2EB4), (11372, 0x2EB8), (11375, 0x2EBC), (11389, 0x2ECB), (11682, 0x2FFC),
   (11686, 0x3004), (11687, 0x3018), (11692, 0x301F), (11694, 0x302A), (11714, 0x303F),
   (11716, 0x3094), (11723, 0x309F), (11725, 0x30F7), (11730, 0x30FF), (11736, 0x312A),
   (11982, 0x322A), (11989, 0x3232), (12102, 0x32A4), (12336, 0x3390), (12348, 0x339F),
   (12350, 0x33A2), (12384, 0x33C5), (12393, 0x33CF), (12395, 0x33D3), (12397, 0x33D6),
   (12510, 0x3448), (12553, 0x3474), (12851, 0x359F), (12962, 0x360F), (12973, 0x361B),
   (13738, 0x3919), (13823, 0x396F), (13919, 0x39D1), (13933, 0x39E0), (14080, 0x3A74),
   (14298, 0x3B4F), (14585, 0x3C6F), (14698, 0x3CE1), (15583, 0x4057), (15847, 0x4160),
   (16318, 0x4338), (16434, 0x43AD), (16438, 0x43B2), (16481, 0x43DE), (16729, 0x44D7),
   (17102, 0x464D), (17122, 0x4662), (17315, 0x4724), (17320, 0x472A), (17402, 0x477D),
   (17418, 0x478E), (17859, 0x4948), (17909, 0x497B), (17911, 0x497E), (17915, 0x4984),
   (17916, 0x4987), (17936, 0x499C), (17939, 0x49A0), (17961, 0x49B8), (18664, 0x4C78),
   (18703, 0x4CA4), (18814, 0x4D1A), (18962, 0x4DAF), (19043, 0x9FA6), (33469, 0xE76C),
   (33470, 0xE7C8), (33471, 0xE7E7), (33484, 0xE815), (33485, 0xE819), (33490, 0xE81F),
   (33497, 0xE827), (33501, 0xE82D), (33505, 0xE833), (33513, 0xE83C), (33520, 0xE844),
   (33536, 0xE856), (33550, 0xE865), (37845, 0xF92D), (37921, 0xF97A), (37948, 0xF996),
   (38029, 0xF9E8), (38038, 0xF9F2), (38064, 0xFA10), (38065, 0xFA12), (38066, 0xFA15),
   (38069, 0xFA19), (38075, 0xFA22), (38076, 0xFA25), (38078, 0xFA2A), (39108, 0xFE32),
   (39109, 0xFE45), (39113, 0xFE53), (39114, 0xFE58), (39115, 0xFE67), (39116, 0xFE6C),
   (39265, 0xFF5F), (39394, 0xFFE6)]

/-- The number of groups for the code points up to U+FFFF. -/
def groupCount : Nat := 39420

/-- The character of a group of four bytes. -/
def group? (first second third fourth : Nat) : Option Char :=
  let inRange (low high byte : Nat) : Bool := low ≤ byte && byte ≤ high
  if !(inRange 0x81 0xFE first && inRange 0x81 0xFE third && inRange 0x30 0x39 fourth) then none
  else
    let number (base : Nat) : Nat :=
      ((first - base) * 10 + (second - 0x30)) * 1260 + (third - 0x81) * 10 + (fourth - 0x30)
    if first < 0x85 then
      if number 0x81 < groupCount then
        let run := (groupRuns.filter (·.1 ≤ number 0x81)).getLast?
        run.map fun (start, code) => Char.ofNat (code + (number 0x81 - start))
      else none
    else if 0x90 ≤ first ∧ 0x10000 + number 0x90 ≤ 0x10FFFF then
      some (Char.ofNat (0x10000 + number 0x90))
    else none

def fullStep (first : Nat) : List Nat → Step
  | [] => .short
  | second :: rest =>
      if 0x30 ≤ second ∧ second ≤ 0x39 then
        match rest with
        | third :: fourth :: _ => .ofChar? 4 (group? first second third fourth)
        | _ => .short
      else
        let tables := [simplifiedPairs, simplifiedExtensionPairs, simplifiedSecondExtensionPairs]
        .ofChar? 2 (privatePair? first second <|> PairTable.findIn? tables first second)

/-! ## Korean -/

/-- The number of Hangul syllables, and the first of them. -/
def syllableCount : Nat := 11172

def firstSyllable : Nat := 0xAC00

/-- The rows of the standard that have syllables. -/
def syllableRows : PairTable := koreanPairs.filter fun row => 0xB0 ≤ row.1 && row.1 ≤ 0xC8

/-- The syllables that the standard lacks, in order. -/
def otherSyllables : Array Char :=
  let known := syllableRows.foldl (fun known row =>
    row.2.2.toList.foldl (fun known char => known.set! (char.toNat - firstSyllable) true) known)
    (Array.replicate syllableCount false)
  (((List.range syllableCount).filter fun index => !known.getD index true).map fun index =>
    Char.ofNat (firstSyllable + index)).toArray

/-- The place of a second byte among those that can follow the first byte of a syllable that the
standard lacks: letters of both cases, and then high bytes. -/
def syllablePlace? (second : Nat) : Option Nat :=
  if 0x41 ≤ second ∧ second ≤ 0x5A then some (second - 0x41)
  else if 0x61 ≤ second ∧ second ≤ 0x7A then some (second - 0x61 + 26)
  else if 0x81 ≤ second ∧ second ≤ 0xFE then some (second - 0x81 + 52)
  else none

/-- The number of second bytes in the rows above the standard, and in those beside it. -/
def wideRow : Nat := 178

def narrowRow : Nat := 84

def otherSyllable? (first second : Nat) : Option Char := do
  let place ← syllablePlace? second
  if 0x81 ≤ first ∧ first ≤ 0xA0 then otherSyllables[(first - 0x81) * wideRow + place]?
  else if 0xA1 ≤ first ∧ first ≤ 0xC6 ∧ place < narrowRow then
    otherSyllables[0x20 * wideRow + (first - 0xA1) * narrowRow + place]?
  else none

/-- The pair that starts a syllable written in parts, and stands for a part that is missing. -/
def filler : Nat × Nat := (0xA4, 0xD4)

/-- The letters that start a syllable, in the order of syllables. -/
def initials : List Nat :=
  [0xA1, 0xA2, 0xA4, 0xA7, 0xA8, 0xA9, 0xB1, 0xB2, 0xB3, 0xB5, 0xB6, 0xB7, 0xB8, 0xB9, 0xBA, 0xBB,
   0xBC, 0xBD, 0xBE]

def vowels : List Nat := List.range' 0xBF 21

/-- The letters that end a syllable; the first is none. -/
def finals : List Nat :=
  [0xD4, 0xA1, 0xA2, 0xA3, 0xA4, 0xA5, 0xA6, 0xA7, 0xA9, 0xAA, 0xAB, 0xAC, 0xAD, 0xAE, 0xAF, 0xB0,
   0xB1, 0xB2, 0xB4, 0xB5, 0xB6, 0xB7, 0xB8, 0xBA, 0xBB, 0xBC, 0xBD, 0xBE]

/-- The syllable of three letters. -/
def syllable? (initial vowel final : Nat) : Option Char := do
  let initial ← initials.idxOf? initial
  let vowel ← vowels.idxOf? vowel
  let final ← finals.idxOf? final
  return Char.ofNat (firstSyllable + (initial * 21 + vowel) * 28 + final)

def koreanStep (first : Nat) : List Nat → Step
  | [] => .short
  | second :: rest =>
      if (first, second) = filler then
        match rest with
        | lead :: initial :: lead2 :: vowel :: lead3 :: final :: _ =>
            if lead = first ∧ lead2 = first ∧ lead3 = first then
              .ofChar? 8 (syllable? initial vowel final)
            else .broken
        | _ => .short
      else .ofChar? 2 (koreanPairs.find? first second)

def koreanExtendedStep (first : Nat) : List Nat → Step
  | [] => .short
  | second :: _ =>
      if (first, second) = filler then .char '\u3164' 2
      else .ofChar? 2 (otherSyllable? first second <|> koreanPairs.find? first second)

/-! ## Japanese -/

/-- The half-width letters. -/
def halfWidth? (byte : Nat) : Option Char :=
  if 0xA1 ≤ byte ∧ byte ≤ 0xDF then some (Char.ofNat (0xFF61 + (byte - 0xA1))) else none

/-- The row and the cell of a shifted pair: a first byte has two rows. -/
def cellOfShifted? (first second : Nat) : Option (Nat × Nat) :=
  if second < 0x40 ∨ second = 0x7F ∨ 0xFC < second then none
  else
    let pair := if first < 0xE0 then first - 0x81 else first - 0xC1
    let place := if second < 0x80 then second - 0x40 else second - 0x41
    some (0x21 + 2 * pair + place / 94, 0x21 + place % 94)

def isShiftedLead (byte : Nat) : Bool :=
  (0x81 ≤ byte && byte ≤ 0x9F) || (0xE0 ≤ byte && byte ≤ 0xFC)

def shiftedStep (tables : List PairTable) (first : Nat) (rest : List Nat) : Step :=
  match halfWidth? first with
  | some char => .char char 1
  | none =>
      if !isShiftedLead first then .broken
      else match rest with
        | [] => .short
        | second :: _ =>
            .ofChar? 2 ((cellOfShifted? first second).bind fun (row, cell) =>
              PairTable.findIn? tables row cell)

/-- Single bytes that a vendor reads as other characters. -/
def vendorByte? (byte : Nat) : Option Char :=
  if byte = 0x80 then some '\u0080'
  else if byte = 0xA0 then some '\uf8f0'
  else if 0xFD ≤ byte then some (Char.ofNat (0xF8F1 + (byte - 0xFD)))
  else none

/-- The shifted pairs that a vendor leaves to users. -/
def privateShifted? (first second : Nat) : Option Char :=
  if 0xF0 ≤ first ∧ first ≤ 0xF9 ∧ 0x40 ≤ second ∧ second ≤ 0xFC ∧ second ≠ 0x7F then
    some (Char.ofNat (0xE000 + (first - 0xF0) * 188 +
      (if second < 0x80 then second - 0x40 else second - 0x41)))
  else none

def shiftedVendorStep (first : Nat) (rest : List Nat) : Step :=
  match vendorByte? first, rest.head?.bind (privateShifted? first) with
  | some char, _ => .char char 1
  | none, some char => .char char 2
  | none, none => shiftedStep [japaneseVendorPairs, japanesePairs] first rest

/-- What comes before a half-width letter, and before a pair of the supplement. -/
def halfWidthMark : Nat := 0x8E

def supplementMark : Nat := 0x8F

def japaneseStep (first : Nat) (rest : List Nat) : Step :=
  if first = halfWidthMark then
    match rest with
    | [] => .short
    | second :: _ => .ofChar? 2 (halfWidth? second)
  else if first = supplementMark then
    match rest with
    | second :: third :: _ =>
        if second < 0x80 ∨ third < 0x80 then .broken
        else .ofChar? 3 (japaneseSupplementPairs.find? (second - 0x80) (third - 0x80))
    | _ => .short
  else match rest with
    | [] => .short
    | second :: _ =>
        if second < 0x80 then .broken
        else .ofChar? 2 (japanesePairs.find? (first - 0x80) (second - 0x80))

/-! ## Texts -/

/-- What follows a high byte. -/
def step : EastAsian → Nat → List Nat → Step
  | simplified => pairStep [simplifiedOnlyPairs, simplifiedPairs]
  | simplifiedExtended => pairStep [simplifiedPairs, simplifiedExtensionPairs]
  | simplifiedFull => fullStep
  | traditional => pairStep [traditionalPairs]
  | traditionalVendor => pairStep [traditionalVendorPairs, traditionalPairs]
  | korean => koreanStep
  | koreanExtended => koreanExtendedStep
  | shifted => shiftedStep [japanesePairs]
  | shiftedVendor => shiftedVendorStep
  | japanese => japaneseStep

/-- The characters of bytes.  Every step takes a byte at least. -/
def decodeFrom (page : EastAsian) : Nat → List Nat → List Char
  | 0, _ => []
  | _, [] => []
  | fuel + 1, byte :: rest =>
      if byte < 0x80 then Char.ofNat byte :: decodeFrom page fuel rest
      else match page.step byte rest with
        | .char char length => char :: decodeFrom page fuel (rest.drop (length - 1))
        | .broken => '\ufffd' :: decodeFrom page fuel rest
        | .short => ['\ufffd']

def decode (page : EastAsian) (bytes : List UInt8) : List Char :=
  page.decodeFrom bytes.length (bytes.map UInt8.toNat)

end EastAsian
end Text
end RouteIR
