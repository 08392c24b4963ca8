import TriFusion.Library.Words
import TriFusion.DeviceControl.ControlTypes

namespace TriFusion.DeviceControl

open Foundation Library.Words

def kHeader : UInt16 := 0x55AA

namespace CompositeSensorCommandBuilder

def kReadLength : UInt16 := 0x0006

def kWriteLength : UInt16 := 0x0008

def appendBe16 (out : List UInt8) (value : UInt16) : List UInt8 := out ++ wordBytes value

def checksumWords (ws : List UInt16) : UInt16 := ws.foldl (· + ·) 0

/-- `configured` says whether `config_` has been set by `init`. -/
def buildReadRegister (configured : Bool) (address : UInt16) : Result (List UInt8) :=
  if !configured then
    .fail .notInitialized "composite sensor command builder is not initialized"
  else
    let out := appendBe16 [] kHeader
    let out := appendBe16 out kReadLength
    let out := appendBe16 out CompositeSensorCommandCode.readRegister.word
    let out := appendBe16 out address
    let out := appendBe16 out
      (checksumWords [kReadLength, CompositeSensorCommandCode.readRegister.word, address])
    .ok out

def buildWriteRegister (configured : Bool) (address value : UInt16) : Result (List UInt8) :=
  if !configured then
    .fail .notInitialized "composite sensor command builder is not initialized"
  else
    let out := appendBe16 [] kHeader
    let out := appendBe16 out kWriteLength
    let out := appendBe16 out CompositeSensorCommandCode.writeRegister.word
    let out := appendBe16 out address
    let out := appendBe16 out value
    let out := appendBe16 out
      (checksumWords [kWriteLength, CompositeSensorCommandCode.writeRegister.word, address, value])
    .ok out

end CompositeSensorCommandBuilder

namespace CompositeSensorCommandParser

def kWriteAckLength : UInt16 := 0x0006

def kReadAckLength : UInt16 := 0x0008

def kWriteAckBytes : ℕ := 10

def kReadAckBytes : ℕ := 12

def hexWord (value : UInt16) : Text := "0x".toList ++ upperHex value.toNat

def checksumWords (ws : List UInt16) : UInt16 := ws.foldl (· + ·) 0

def be16 (bytes : List UInt8) (offset : ℕ) : UInt16 := wordAt bytes offset

def checkSize (kind : Text) (expected : ℕ) (bytes : List UInt8) : Result Unit :=
  if bytes.length ≠ expected then
    .fail .serialAckInvalid (kind ++ "-register ACK must be ".toList ++ decimal expected ++
      " bytes, actual=".toList ++ decimal bytes.length ++ ", raw=".toList ++ toHex bytes)
  else .ok ()

def checkWords (headerText kind : Text) (ackLength : UInt16) (command : CompositeSensorCommandCode)
    (header length original status data checksum expectedChecksum : UInt16) :
    Result CompositeSensorAck :=
  if header ≠ kHeader then
    .fail .serialAckInvalid (headerText ++ hexWord header)
  else if length ≠ ackLength then
    .fail .serialAckInvalid
      ("invalid ".toList ++ kind ++ " ACK length: ".toList ++ hexWord length)
  else if original ≠ command.word then
    .fail .serialAckInvalid
      ("invalid ".toList ++ kind ++ " ACK original command: ".toList ++ hexWord original)
  else if status ≠ CompositeSensorStatusWord.executableWord ∧
      status ≠ CompositeSensorStatusWord.rejectedWord then
    .fail .serialAckInvalid
      ("invalid ".toList ++ kind ++ " ACK status word: ".toList ++ hexWord status)
  else if checksum ≠ expectedChecksum then
    .fail .serialAckInvalid ("invalid ".toList ++ kind ++ " ACK checksum, expected=".toList ++
      hexWord expectedChecksum ++ ", actual=".toList ++ hexWord checksum)
  else if !(CompositeSensorStatusWord.ofWord status).isExecutable then
    .fail .serialAckInvalid (kind ++ "-register command rejected by device, status=".toList ++
      (CompositeSensorStatusWord.ofWord status).toText)
  else
    .ok { type := .ack
          mode := .unknown
          originalCommand := command
          status := .ofWord status
          data := data
          checksum := checksum
          expectedChecksum := expectedChecksum
          message := kind ++ "-register ACK OK".toList }

def parseWriteRegisterAck (bytes : List UInt8) : Result CompositeSensorAck := do
  checkSize "write" kWriteAckBytes bytes
  let header := be16 bytes 0
  let length := be16 bytes 2
  let original := be16 bytes 4
  let status := be16 bytes 6
  let checksum := be16 bytes 8
  let expectedChecksum := checksumWords [length, original, status]
  checkWords "invalid ACK header: " "write" kWriteAckLength .writeRegister header length original
    status 0 checksum expectedChecksum

def parseReadRegisterAck (bytes : List UInt8) : Result CompositeSensorAck := do
  checkSize "read" kReadAckBytes bytes
  let header := be16 bytes 0
  let length := be16 bytes 2
  let original := be16 bytes 4
  let status := be16 bytes 6
  let data := be16 bytes 8
  let checksum := be16 bytes 10
  let expectedChecksum := checksumWords [length, original, status, data]
  checkWords "invalid read ACK header: " "read" kReadAckLength .readRegister header length original
    status data checksum expectedChecksum

end CompositeSensorCommandParser

open CompositeSensorCommandBuilder CompositeSensorCommandParser

theorem buildReadRegister_ok (address : UInt16) :
    buildReadRegister true address =
      .ok (line [kHeader, kReadLength, 0x5AF8, address, kReadLength + 0x5AF8 + address]) := by
  simp [buildReadRegister, appendBe16, CompositeSensorCommandBuilder.checksumWords,
    CompositeSensorCommandCode.word]

theorem buildWriteRegister_ok (address value : UInt16) :
    buildWriteRegister true address value =
      .ok (line [kHeader, kWriteLength, 0x5AF9, address, value,
        kWriteLength + 0x5AF9 + address + value]) := by
  simp [buildWriteRegister, appendBe16, CompositeSensorCommandBuilder.checksumWords,
    CompositeSensorCommandCode.word]

def writeAckWords (status : UInt16) : List UInt16 :=
  [kHeader, kWriteAckLength, 0x5AF9, status, kWriteAckLength + 0x5AF9 + status]

def readAckWords (status data : UInt16) : List UInt16 :=
  [kHeader, kReadAckLength, 0x5AF8, status, data, kReadAckLength + 0x5AF8 + status + data]

theorem checkWords_ok_iff {headerText kind : Text} {ackLength : UInt16}
    {command : CompositeSensorCommandCode}
    {header length original status data checksum expectedChecksum : UInt16}
    {ack : CompositeSensorAck} :
    checkWords headerText kind ackLength command header length original status data checksum
        expectedChecksum = .ok ack ↔
      header = kHeader ∧ length = ackLength ∧ original = command.word ∧
        status = CompositeSensorStatusWord.executableWord ∧ checksum = expectedChecksum ∧
        ack = ⟨.ack, .unknown, command, .executable, data, checksum, expectedChecksum,
          kind ++ "-register ACK OK".toList⟩ := by
  have hx : CompositeSensorStatusWord.ofWord CompositeSensorStatusWord.executableWord =
      .executable := rfl
  have hr : (CompositeSensorStatusWord.ofWord CompositeSensorStatusWord.rejectedWord).isExecutable =
      false := rfl
  unfold checkWords
  constructor
  · intro h
    split_ifs at h with h₁ h₂ h₃ h₄ h₅ h₆ <;> try cases h
    rw [not_not] at h₁ h₂ h₃ h₅
    have hs : status = CompositeSensorStatusWord.executableWord := by
      by_contra hne
      have hrej : status = CompositeSensorStatusWord.rejectedWord := by
        by_contra hne'
        exact h₄ ⟨hne, hne'⟩
      rw [hrej, hr] at h₆
      exact h₆ rfl
    refine ⟨h₁, h₂, h₃, hs, h₅, ?_⟩
    rw [hs, hx]
  · rintro ⟨rfl, rfl, rfl, rfl, rfl, rfl⟩
    simp [hx, CompositeSensorStatusWord.isExecutable]

theorem checkSize_ok_iff {kind : Text} {expected : ℕ} {bytes : List UInt8} :
    checkSize kind expected bytes = .ok () ↔ bytes.length = expected := by
  unfold checkSize
  split_ifs with h
  · exact ⟨fun he ↦ (nomatch he), fun he ↦ absurd he h⟩
  · exact ⟨fun _ ↦ not_not.mp h, fun _ ↦ rfl⟩

theorem be16_line (ws : List UInt16) (i : ℕ) : be16 (line ws) (2 * i) = ws.getD i 0 := by
  rw [be16, wordAt_even _ ws.length (length_line ws), words_line]

theorem parseWriteRegisterAck_line (header length original status checksum : UInt16) :
    parseWriteRegisterAck (line [header, length, original, status, checksum]) =
      checkWords "invalid ACK header: " "write" kWriteAckLength .writeRegister header length
        original status 0 checksum (length + original + status) := by
  have hw := be16_line [header, length, original, status, checksum]
  have h₀ : be16 _ 0 = header := hw 0
  have h₁ : be16 _ 2 = length := hw 1
  have h₂ : be16 _ 4 = original := hw 2
  have h₃ : be16 _ 6 = status := hw 3
  have h₄ : be16 _ 8 = checksum := hw 4
  simp only [parseWriteRegisterAck, checkSize, length_line, List.length_cons, List.length_nil,
    kWriteAckBytes, bind, Except.bind, h₀, h₁, h₂, h₃, h₄]
  simp [CompositeSensorCommandParser.checksumWords]

theorem parseReadRegisterAck_line (header length original status data checksum : UInt16) :
    parseReadRegisterAck (line [header, length, original, status, data, checksum]) =
      checkWords "invalid read ACK header: " "read" kReadAckLength .readRegister header length
        original status data checksum (length + original + status + data) := by
  have hw := be16_line [header, length, original, status, data, checksum]
  have h₀ : be16 _ 0 = header := hw 0
  have h₁ : be16 _ 2 = length := hw 1
  have h₂ : be16 _ 4 = original := hw 2
  have h₃ : be16 _ 6 = status := hw 3
  have h₄ : be16 _ 8 = data := hw 4
  have h₅ : be16 _ 10 = checksum := hw 5
  simp only [parseReadRegisterAck, checkSize, length_line, List.length_cons, List.length_nil,
    kReadAckBytes, bind, Except.bind, h₀, h₁, h₂, h₃, h₄, h₅]
  simp [CompositeSensorCommandParser.checksumWords]

def writeAck : CompositeSensorAck :=
  ⟨.ack, .unknown, .writeRegister, .executable, 0, 0xB357, 0xB357, "write-register ACK OK"⟩

def readAck (data : UInt16) : CompositeSensorAck :=
  ⟨.ack, .unknown, .readRegister, .executable, data, 0xB358 + data, 0xB358 + data,
    "read-register ACK OK"⟩

theorem parseWriteRegisterAck_length {bytes : List UInt8} {ack : CompositeSensorAck}
    (h : parseWriteRegisterAck bytes = .ok ack) : bytes.length = kWriteAckBytes := by
  apply (@checkSize_ok_iff "write" _ _).mp
  cases hs : checkSize "write" kWriteAckBytes bytes with
  | error e => simp only [parseWriteRegisterAck, hs, bind, Except.bind, reduceCtorEq] at h
  | ok u => rfl

theorem parseReadRegisterAck_length {bytes : List UInt8} {ack : CompositeSensorAck}
    (h : parseReadRegisterAck bytes = .ok ack) : bytes.length = kReadAckBytes := by
  apply (@checkSize_ok_iff "read" _ _).mp
  cases hs : checkSize "read" kReadAckBytes bytes with
  | error e => simp only [parseReadRegisterAck, hs, bind, Except.bind, reduceCtorEq] at h
  | ok u => rfl

theorem parseWriteRegisterAck_ok_iff {bytes : List UInt8} {ack : CompositeSensorAck} :
    parseWriteRegisterAck bytes = .ok ack ↔
      bytes = line (writeAckWords CompositeSensorStatusWord.executableWord) ∧ ack = writeAck := by
  constructor
  · intro h
    have hlen : bytes.length = 2 * 5 := parseWriteRegisterAck_length h
    have hws := length_words 5 bytes hlen
    rw [← line_words 5 bytes hlen] at h ⊢
    generalize words bytes = ws at h hws ⊢
    match ws, hws with
    | [header, length, original, status, checksum], _ =>
      rw [parseWriteRegisterAck_line] at h
      obtain ⟨rfl, rfl, rfl, rfl, rfl, rfl⟩ := checkWords_ok_iff.mp h
      exact ⟨rfl, rfl⟩
  · rintro ⟨rfl, rfl⟩
    rfl

theorem parseReadRegisterAck_ok_iff {bytes : List UInt8} {ack : CompositeSensorAck} :
    parseReadRegisterAck bytes = .ok ack ↔
      ∃ data, bytes = line (readAckWords CompositeSensorStatusWord.executableWord data) ∧
        ack = readAck data := by
  constructor
  · intro h
    have hlen : bytes.length = 2 * 6 := parseReadRegisterAck_length h
    have hws := length_words 6 bytes hlen
    rw [← line_words 6 bytes hlen] at h ⊢
    generalize words bytes = ws at h hws ⊢
    match ws, hws with
    | [header, length, original, status, data, checksum], _ =>
      rw [parseReadRegisterAck_line] at h
      obtain ⟨rfl, rfl, rfl, rfl, rfl, rfl⟩ := checkWords_ok_iff.mp h
      exact ⟨data, rfl, rfl⟩
  · rintro ⟨data, rfl, rfl⟩
    rw [readAckWords, parseReadRegisterAck_line]
    exact checkWords_ok_iff.mpr ⟨rfl, rfl, rfl, rfl, rfl, rfl⟩

end TriFusion.DeviceControl
