/-
Decoding what arrives on the sockets.  All connections of a process share one
decoder, so the bytes of a character that a chunk of one connection breaks off
wait for the next chunk of any connection.
-/
import SamaServer.SessionStore
import SamaServer.StringDecoder

namespace SamaServer

/-- A chunk of bytes that a socket receives. -/
structure Chunk where
  socket : Socket
  bytes : List UInt8

/-- `decodePackage`: the package, when there is any text, and the decoder of
the module after it. -/
def decodePackage (decoder : StringDecoder) (bytes : List UInt8) :
    Option String × StringDecoder :=
  let (stringMessage, decoder) := decoder.write bytes
  (if stringMessage = "" then none else some stringMessage, decoder)

/-- What `decodePackage` gives for each chunk of a sequence, with the socket it
arrived on. -/
def decodeAll (decoder : StringDecoder) :
    List Chunk → List (Socket × Option String)
  | [] => []
  | chunk :: chunks =>
      (chunk.socket, (decodePackage decoder chunk.bytes).1) ::
        decodeAll (decodePackage decoder chunk.bytes).2 chunks

/-- The packages of one socket. -/
def decodedOn (socket : Socket) (decoder : StringDecoder)
    (chunks : List Chunk) : List (Option String) :=
  ((decodeAll decoder chunks).filter
    (fun decoded => decoded.1 = socket)).map Prod.snd

def chunksOn (socket : Socket) (chunks : List Chunk) : List (List UInt8) :=
  (chunks.filter (fun chunk => chunk.socket = socket)).map Chunk.bytes

/-- The packages of a socket that has a decoder of its own. -/
def decodeOwn (decoder : StringDecoder) :
    List (List UInt8) → List (Option String)
  | [] => []
  | bytes :: chunks =>
      (decodePackage decoder bytes).1 ::
        decodeOwn (decodePackage decoder bytes).2 chunks

/-- The decoder waits for no byte whenever the reading goes over from the
socket to another one or back.  `isLast` says whether the bytes read last
arrived on the socket. -/
def Unmixed (socket : Socket) :
    StringDecoder → Bool → List Chunk → Prop
  | _, _, [] => True
  | decoder, isLast, chunk :: chunks =>
      (chunk.bytes ≠ [] → decide (chunk.socket = socket) ≠ isLast →
        decoder.missingBytes = 0) ∧
      Unmixed socket (decodePackage decoder chunk.bytes).2
        (if chunk.bytes = [] then isLast else chunk.socket = socket) chunks

section Runs

variable (socket : Socket)

theorem decodePackage_nil (decoder : StringDecoder) :
    decodePackage decoder [] = (none, decoder) := by
  rw [decodePackage, StringDecoder.write_nil]
  rfl

theorem decodedOn_cons_self (decoder : StringDecoder) (bytes : List UInt8)
    (chunks : List Chunk) :
    decodedOn socket decoder (⟨socket, bytes⟩ :: chunks) =
      (decodePackage decoder bytes).1 ::
        decodedOn socket (decodePackage decoder bytes).2 chunks := by
  simp [decodedOn, decodeAll]

theorem decodedOn_cons_other {chunk : Chunk} (hother : chunk.socket ≠ socket)
    (decoder : StringDecoder) (chunks : List Chunk) :
    decodedOn socket decoder (chunk :: chunks) =
      decodedOn socket (decodePackage decoder chunk.bytes).2 chunks := by
  simp [decodedOn, decodeAll, hother]

theorem chunksOn_cons_self (bytes : List UInt8) (chunks : List Chunk) :
    chunksOn socket (⟨socket, bytes⟩ :: chunks) =
      bytes :: chunksOn socket chunks := by
  simp [chunksOn]

theorem chunksOn_cons_other {chunk : Chunk} (hother : chunk.socket ≠ socket)
    (chunks : List Chunk) :
    chunksOn socket (chunk :: chunks) = chunksOn socket chunks := by
  simp [chunksOn, hother]

/-- A socket whose bytes do not mix with others is served as if the decoder
were its own.  The induction carries what that one would hold: the state of the
shared decoder if the socket was read last, and nothing otherwise. -/
theorem decodedOn_eq_decodeOwn (chunks : List Chunk)
    (decoder own : StringDecoder) (isLast : Bool)
    (hown : own = if isLast then decoder else .fresh)
    (hclean : Unmixed socket decoder isLast chunks) :
    decodedOn socket decoder chunks =
      decodeOwn own (chunksOn socket chunks) := by
  induction chunks generalizing decoder own isLast with
  | nil => rfl
  | cons chunk chunks ih =>
      obtain ⟨hswitch, hrest⟩ := hclean
      by_cases hempty : chunk.bytes = []
      · rw [if_pos hempty, hempty, decodePackage_nil] at hrest
        have hsame := ih decoder own isLast hown hrest
        by_cases hsocket : chunk.socket = socket
        · obtain ⟨_, _⟩ := chunk
          obtain rfl : _ = socket := hsocket
          obtain rfl : _ = [] := hempty
          rw [decodedOn_cons_self, chunksOn_cons_self, decodeOwn,
            decodePackage_nil, decodePackage_nil, hsame]
        · rw [decodedOn_cons_other socket hsocket,
            chunksOn_cons_other socket hsocket, hempty, decodePackage_nil]
          exact hsame
      · rw [if_neg hempty] at hrest
        have hidle := hswitch hempty
        by_cases hsocket : chunk.socket = socket
        · have hdecoder : own = decoder := by
            cases isLast with
            | true => exact hown
            | false =>
                rw [StringDecoder.eq_fresh (hidle (by simp [hsocket]))]
                exact hown
          rw [decide_eq_true hsocket] at hrest
          obtain ⟨_, _⟩ := chunk
          obtain rfl : _ = socket := hsocket
          rw [decodedOn_cons_self, chunksOn_cons_self, decodeOwn, hdecoder,
            ih _ _ true rfl hrest]
          rfl
        · have hfresh : own = .fresh := by
            cases isLast with
            | true =>
                rw [← StringDecoder.eq_fresh (hidle (by simp [hsocket]))]
                exact hown
            | false => exact hown
          rw [decide_eq_false hsocket] at hrest
          rw [decodedOn_cons_other socket hsocket,
            chunksOn_cons_other socket hsocket]
          exact ih _ own false hfresh hrest

/-- Two runs that do not mix the bytes of the socket with others and bring it
the same chunks give it the same packages. -/
theorem decodedOn_eq_of_unmixed (left right : List Chunk)
    (hleft : Unmixed socket .fresh false left)
    (hright : Unmixed socket .fresh false right)
    (hsame : chunksOn socket left = chunksOn socket right) :
    decodedOn socket .fresh left = decodedOn socket .fresh right := by
  rw [decodedOn_eq_decodeOwn socket left .fresh .fresh false rfl hleft,
    decodedOn_eq_decodeOwn socket right .fresh .fresh false rfl hright, hsame]

end Runs

section Samples

/-- `{}` on socket 2, alone. -/
def alone : List Chunk := [⟨2, [0x7B, 0x7D]⟩]

/-- The same after a letter `é` that socket 1 receives in two chunks. -/
def afterCharacter : List Chunk :=
  [⟨1, [0xC3]⟩, ⟨1, [0xA9]⟩, ⟨2, [0x7B, 0x7D]⟩]

/-- The same after the first half of that letter. -/
def afterHalfCharacter : List Chunk := [⟨1, [0xC3]⟩, ⟨2, [0x7B, 0x7D]⟩]

theorem decodedOn_afterCharacter :
    decodedOn 2 .fresh alone = decodedOn 2 .fresh afterCharacter := by
  apply decodedOn_eq_of_unmixed
  · exact ⟨by decide, trivial⟩
  · exact ⟨by decide, by decide, by decide, trivial⟩
  · rfl

/-- The half of a letter that socket 1 received is prepended, as a replacement
character, to what socket 2 receives next. -/
theorem decodedOn_afterHalfCharacter :
    chunksOn 2 alone = chunksOn 2 afterHalfCharacter ∧
    decodedOn 2 .fresh alone = [some "\x7b\x7d"] ∧
    decodedOn 2 .fresh afterHalfCharacter =
      [some (String.ofList [Utf8.replacement, '\x7b', '\x7d'])] ∧
    decodedOn 2 .fresh alone ≠ decodedOn 2 .fresh afterHalfCharacter := by
  refine ⟨rfl, ?_, ?_, ?_⟩
  · decide
  · decide
  · decide

end Samples

end SamaServer
