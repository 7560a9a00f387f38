/-
UTF-8 text that arrives in chunks.  Complete characters are decoded at once,
with a replacement character for every malformed part; the bytes of a
character that is not complete at the end of a chunk wait for the next one.
-/
import Mathlib.Data.List.Basic

namespace SamaServer

namespace Utf8

/-- A decoder inside a character: the bits read so far, how many bytes are
still needed, and the range of the next one. -/
structure Partial where
  codePoint : Nat
  bytesNeeded : Nat
  lowerBoundary : Nat
  upperBoundary : Nat

def replacement : Char := Char.ofNat 0xFFFD

/-- A byte between two characters. -/
def first (byte : Nat) : List Char × Option Partial :=
  if byte ≤ 0x7F then ([Char.ofNat byte], none)
  else if 0xC2 ≤ byte ∧ byte ≤ 0xDF then
    ([], some ⟨byte % 0x20, 1, 0x80, 0xBF⟩)
  else if 0xE0 ≤ byte ∧ byte ≤ 0xEF then
    ([], some ⟨byte % 0x10, 2, if byte = 0xE0 then 0xA0 else 0x80,
      if byte = 0xED then 0x9F else 0xBF⟩)
  else if 0xF0 ≤ byte ∧ byte ≤ 0xF4 then
    ([], some ⟨byte % 0x08, 3, if byte = 0xF0 then 0x90 else 0x80,
      if byte = 0xF4 then 0x8F else 0xBF⟩)
  else ([replacement], none)

/-- A byte inside a character.  One that does not belong there ends the
character, which is replaced, and is read again as the first of another. -/
def next (state : Partial) (byte : Nat) : List Char × Option Partial :=
  if state.lowerBoundary ≤ byte ∧ byte ≤ state.upperBoundary then
    let codePoint := state.codePoint * 0x40 + byte % 0x40
    if state.bytesNeeded = 1 then ([Char.ofNat codePoint], none)
    else ([], some ⟨codePoint, state.bytesNeeded - 1, 0x80, 0xBF⟩)
  else
    let (characters, state) := first byte
    (replacement :: characters, state)

def decodeFrom : Option Partial → List UInt8 → List Char
  | none, [] => []
  | some _, [] => [replacement]
  | none, byte :: bytes =>
      let (characters, state) := first byte.toNat
      characters ++ decodeFrom state bytes
  | some state, byte :: bytes =>
      let (characters, state) := next state byte.toNat
      characters ++ decodeFrom state bytes

/-- The text of a byte sequence. -/
def decode (bytes : List UInt8) : String :=
  String.ofList (decodeFrom none bytes)

/-- The form `10xxxxxx`. -/
def isTrailing (byte : UInt8) : Bool :=
  0x80 ≤ byte.toNat && byte.toNat ≤ 0xBF

/-- How many bytes the character that starts with this one has.  Everything but
the first byte of a longer character counts as none. -/
def characterLength (byte : UInt8) : Nat :=
  if 0xC0 ≤ byte.toNat ∧ byte.toNat ≤ 0xDF then 2
  else if 0xE0 ≤ byte.toNat ∧ byte.toNat ≤ 0xEF then 3
  else if 0xF0 ≤ byte.toNat ∧ byte.toNat ≤ 0xF7 then 4
  else 0

end Utf8

namespace StringDecoder

open Utf8

/-- Look from the end of the input for the start of a character that is not
complete: how many of its bytes are there and how many are missing.  The input
is given backwards, with the number of bytes already passed. -/
def incomplete : List UInt8 → Nat → Nat × Nat
  | [], _ => (0, 0)
  | byte :: bytes, passed =>
      if isTrailing byte then
        if 4 ≤ passed + 1 then (0, 0) else incomplete bytes (passed + 1)
      else if characterLength byte ≤ passed + 1 then (0, 0)
      else (passed + 1, characterLength byte - (passed + 1))

/-- When nothing is missing nothing is kept. -/
theorem incomplete_fst_of_snd (bytes : List UInt8) (passed : Nat)
    (hmissing : (incomplete bytes passed).2 = 0) :
    (incomplete bytes passed).1 = 0 := by
  induction bytes generalizing passed with
  | nil => rfl
  | cons byte bytes ih =>
      simp only [incomplete] at hmissing ⊢
      split at hmissing
      · split at hmissing
        · next htrailing hfour => rw [if_pos htrailing, if_pos hfour]
        · next htrailing hfour =>
            rw [if_pos htrailing, if_neg hfour]
            exact ih (passed + 1) hmissing
      · split at hmissing
        · next htrailing hlength => rw [if_neg htrailing, if_pos hlength]
        · next hlength =>
            dsimp only at hmissing
            omega

end StringDecoder

/-- The state of a decoder: the bytes of an incomplete character, and how many
are missing. -/
structure StringDecoder where
  lastChar : List UInt8
  missingBytes : Nat
  nothingKept : missingBytes = 0 → lastChar = []
deriving DecidableEq

namespace StringDecoder

open Utf8

def fresh : StringDecoder := ⟨[], 0, fun _ => rfl⟩

/-- The bytes of the input that go on with the character.  A byte that cannot
belong to it ends it there, and then nothing is missing any more. -/
def continuation (decoder : StringDecoder) (data : List UInt8) :
    List UInt8 × Nat :=
  let wanted := data.take decoder.missingBytes
  let found := wanted.takeWhile isTrailing
  (found, if found.length < wanted.length then 0
    else decoder.missingBytes - found.length)

/-- The input between two characters: what is complete is decoded and the rest
is kept. -/
def writeRest (data : List UInt8) : String × StringDecoder :=
  let tail := incomplete data.reverse 0
  let size := data.length - tail.1
  (decode (data.take size), ⟨data.drop size, tail.2, by
    intro hmissing
    have hnone : tail.1 = 0 := incomplete_fst_of_snd _ _ hmissing
    simp [size, hnone]⟩)

/-- `decoder.write`. -/
def write (decoder : StringDecoder) (data : List UInt8) :
    String × StringDecoder :=
  if decoder.missingBytes = 0 then writeRest data
  else
    let (found, missingBytes) := decoder.continuation data
    if hmissing : missingBytes = 0 then
      let (body, rest) := writeRest (data.drop found.length)
      (decode (decoder.lastChar ++ found) ++ body, rest)
    else
      ("", ⟨decoder.lastChar ++ found, missingBytes,
        fun hnone => absurd hnone hmissing⟩)

theorem eq_fresh {decoder : StringDecoder}
    (hidle : decoder.missingBytes = 0) : decoder = fresh := by
  obtain ⟨lastChar, missingBytes, hnothing⟩ := decoder
  obtain rfl : missingBytes = 0 := hidle
  obtain rfl : lastChar = [] := hnothing rfl
  rfl

/-- An empty chunk is decoded to nothing and changes nothing. -/
theorem write_nil (decoder : StringDecoder) :
    decoder.write [] = ("", decoder) := by
  unfold write
  split
  · next hidle => rw [eq_fresh hidle]; rfl
  · next hwaiting =>
      simp [continuation, hwaiting]

end StringDecoder

end SamaServer
