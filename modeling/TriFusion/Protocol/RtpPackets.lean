import TriFusion.Library.Fragments
import TriFusion.Protocol.RtspServer

namespace TriFusion.Protocol

open Media Library

/-! What a receiver reads in a packet. -/

namespace RtpPacket

def marker (p : List UInt8) : Bool := decide (0x80 ≤ p.getD 1 0)

def sequenceNumber (p : List UInt8) : ℕ := BigEndian.value ((p.drop 2).take 2)

def timestamp (p : List UInt8) : ℕ := BigEndian.value ((p.drop 4).take 4)

def ssrc (p : List UInt8) : ℕ := BigEndian.value ((p.drop 8).take 4)

def fragmentOffset (p : List UInt8) : ℕ := BigEndian.value ((p.drop 13).take 3)

/-- Q values from 128 on announce a table header. -/
def hasTables (p : List UInt8) : Bool := decide (128 ≤ p.getD 17 0)

def tablesLength (p : List UInt8) : ℕ := BigEndian.value ((p.drop 22).take 2)

def tables (p : List UInt8) : List UInt8 :=
  if hasTables p then (p.drop 24).take (tablesLength p) else []

def scanPayload (p : List UInt8) : List UInt8 :=
  if hasTables p then p.drop (24 + tablesLength p) else p.drop 20

end RtpPacket

namespace RtspServer

open RtpPacket

theorem writeBe16_eq (v : UInt16) : writeBe16 v = BigEndian.bytes 2 v.toNat :=
  Words.wordBytes_bigEndian v

theorem writeBe24_eq (v : UInt32) : writeBe24 v = BigEndian.bytes 3 v.toNat := by
  simp only [writeBe24, BigEndian.bytes, List.cons.injEq, and_true]
  refine ⟨?_, ?_, ?_⟩ <;> apply UInt8.toNat_inj.mp <;>
    simp [Nat.shiftRight_eq_div_pow, Words.and_byte]

theorem writeBe32_eq (v : UInt32) : writeBe32 v = BigEndian.bytes 4 v.toNat := by
  simp only [writeBe32, BigEndian.bytes, List.cons.injEq, and_true]
  refine ⟨?_, ?_, ?_, ?_⟩ <;> apply UInt8.toNat_inj.mp <;>
    simp [Nat.shiftRight_eq_div_pow, Words.and_byte]

theorem length_qtableHeader (info : JpegRtpInfo) (withQtable : Bool) :
    (qtableHeader info withQtable).length =
      if withQtable then 4 + info.quantTables.length else 0 := by
  cases withQtable with
  | false => rfl
  | true =>
    rw [qtableHeader, if_pos rfl, List.length_append]
    rfl

section Packet

variable (h : FrameHeader) (offset : ℕ) (withQtable mark : Bool) (seq : UInt16)
  (chunk : List UInt8)

theorem length_packet : (packet h offset withQtable mark seq chunk).length =
    12 + 8 + (if withQtable then 4 + h.info.quantTables.length else 0) + chunk.length := by
  have hr : (rtpHeader h mark seq).length = 12 := rfl
  have hj : (jpegHeader h.info offset withQtable).length = 8 := rfl
  rw [packet, List.length_append, List.length_append, List.length_append, hr, hj,
    length_qtableHeader]

theorem marker_packet : marker (packet h offset withQtable mark seq chunk) = mark := by
  cases mark <;> rfl

theorem sequenceNumber_packet :
    sequenceNumber (packet h offset withQtable mark seq chunk) = seq.toNat := by
  have hv : sequenceNumber (packet h offset withQtable mark seq chunk) =
      BigEndian.value (writeBe16 seq) := rfl
  rw [hv, writeBe16_eq, BigEndian.value_bytes]
  exact Nat.mod_eq_of_lt seq.toNat_lt

theorem timestamp_packet :
    timestamp (packet h offset withQtable mark seq chunk) = h.timestamp.toNat := by
  have hv : timestamp (packet h offset withQtable mark seq chunk) =
      BigEndian.value (writeBe32 h.timestamp) := rfl
  rw [hv, writeBe32_eq, BigEndian.value_bytes]
  exact Nat.mod_eq_of_lt h.timestamp.toNat_lt

theorem ssrc_packet : ssrc (packet h offset withQtable mark seq chunk) = h.ssrc.toNat := by
  have hv : ssrc (packet h offset withQtable mark seq chunk) =
      BigEndian.value (writeBe32 h.ssrc) := rfl
  rw [hv, writeBe32_eq, BigEndian.value_bytes]
  exact Nat.mod_eq_of_lt h.ssrc.toNat_lt

theorem fragmentOffset_packet :
    fragmentOffset (packet h offset withQtable mark seq chunk) = offset % 2 ^ 24 := by
  have hv : fragmentOffset (packet h offset withQtable mark seq chunk) =
      BigEndian.value (writeBe24 (UInt32.ofNat offset)) := rfl
  have hm : (256 : ℕ) ^ 3 = 2 ^ 24 := rfl
  rw [hv, writeBe24_eq, BigEndian.value_bytes, UInt32.toNat_ofNat', hm]
  exact Nat.mod_mod_of_dvd offset ⟨2 ^ 8, rfl⟩

theorem hasTables_packet :
    hasTables (packet h offset withQtable mark seq chunk) = withQtable := by
  cases withQtable <;> rfl

theorem tablesLength_packet (hq : h.info.quantTables.length < 2 ^ 16) :
    tablesLength (packet h offset true mark seq chunk) = h.info.quantTables.length := by
  have hv : tablesLength (packet h offset true mark seq chunk) =
      BigEndian.value (writeBe16 (UInt16.ofNat h.info.quantTables.length)) := rfl
  rw [hv, writeBe16_eq, BigEndian.value_bytes, UInt16.toNat_ofNat']
  omega

theorem tables_packet (hq : h.info.quantTables.length < 2 ^ 16) :
    tables (packet h offset true mark seq chunk) = h.info.quantTables := by
  have hd : (packet h offset true mark seq chunk).drop 24 = h.info.quantTables ++ chunk := rfl
  rw [tables, hasTables_packet, if_pos rfl, tablesLength_packet _ _ _ _ _ hq, hd,
    List.take_left]

theorem scanPayload_packet (hq : h.info.quantTables.length < 2 ^ 16) :
    scanPayload (packet h offset withQtable mark seq chunk) = chunk := by
  cases withQtable with
  | false => rfl
  | true =>
    have hd : (packet h offset true mark seq chunk).drop 24 = h.info.quantTables ++ chunk := rfl
    rw [scanPayload, hasTables_packet, if_pos rfl, tablesLength_packet _ _ _ _ _ hq,
      ← List.drop_drop, hd, List.drop_left]

end Packet

end RtspServer

end TriFusion.Protocol
