import LockLender.Proofs.Wire.Frame
import LockLender.Wire.Stream

namespace LockLender

namespace Frame

theorem make_proper (opcode : Opcode) (request : UInt64) (flags : Flags) {payload : Bytes}
    (fits : payload.length ≤ payloadLimit.toNat) : ((make opcode request payload).withFlags flags).Proper := by
  have small : payload.length < UInt32.size := Nat.lt_of_le_of_lt fits (by decide)
  have stated : (UInt32.ofNat payload.length).toNat = payload.length := UInt32.toNat_ofNat_of_lt' small
  constructor
  · rfl
  · rfl
  · exact stated
  · exact UInt32.le_iff_toNat_le.mpr (stated.symm ▸ fits)
  · rfl

theorem make_wants (opcode : Opcode) (request : UInt64) (payload : Bytes) :
    ((make opcode request payload).withFlags .none).isOneWay = false := by
  change Flags.none.contains .oneWay = false
  decide

theorem encode_ne_nil (frame : Frame) : frame.encode ≠ [] := by
  intro empty
  have length := encode_length frame
  simp only [empty,headerSize,List.length_nil] at length
  omega

end Frame

namespace Stream
variable {frame : Frame} {octets rest : Bytes}

theorem take_encode (proper : frame.Proper) (ended : Bool) (rest : Bytes) :
    take ended (frame.encode ++ rest) = .frame frame rest := by
  have header : Bytes.split? Frame.headerSize (frame.encode ++ rest) =
      some (frame.header.encode,frame.payload ++ rest) :=
    Bytes.split?_eq_some.mpr ⟨Frame.encode_append frame rest,Header.encode_length _⟩
  have decoded : Header.decode frame.header.encode = .ok frame.header :=
    Header.decode_eq_ok.mpr ⟨List.prefix_refl _,proper.magic,proper.version⟩
  have payload : Bytes.split? frame.header.length.toNat (frame.payload ++ rest) = some (frame.payload,rest) :=
    Bytes.split?_eq_some.mpr ⟨rfl,proper.stated.symm⟩
  have small : ¬ frame.header.length > Frame.payloadLimit := UInt32.not_lt.mpr proper.bounded
  unfold take
  simp only [header,decoded,if_neg small,payload,proper.check]

theorem split?_eq_none {n : Nat} : Bytes.split? n octets = none ↔ octets.length < n := by
  unfold Bytes.split?
  split <;> simp_all

theorem take_part (proper : frame.Proper) (whole : frame.encode = octets ++ rest) (missing : rest ≠ []) :
    take false octets = .waiting := by
  have length := congrArg List.length whole
  rw [Frame.encode_length,List.length_append] at length
  have positive : 0 < rest.length := List.length_pos_iff.mpr missing
  unfold take
  cases front : Bytes.split? Frame.headerSize octets with
  | none => rfl
  | some halves =>
      obtain ⟨header,payload⟩ := halves
      obtain ⟨rfl,long⟩ := Bytes.split?_eq_some.mp front
      rw [Frame.encode,List.append_assoc] at whole
      obtain ⟨rfl,same⟩ := List.append_inj whole (by rw [Header.encode_length,long])
      have decoded : Header.decode frame.header.encode = .ok frame.header :=
        Header.decode_eq_ok.mpr ⟨List.prefix_refl _,proper.magic,proper.version⟩
      have small : ¬ frame.header.length > Frame.payloadLimit := UInt32.not_lt.mpr proper.bounded
      have short : Bytes.split? frame.header.length.toNat payload = none := by
        rw [split?_eq_none,proper.stated,same,List.length_append]
        omega
      simp only [decoded,if_neg small,short]
      rfl

theorem drain_encode (proper : frame.Proper) (ended : Bool) :
    drain ended frame.encode = ([frame],take ended []) := by
  have taken := take_encode proper ended []
  rw [List.append_nil] at taken
  have long : ∃ more, frame.encode.length = more + 1 := by
    apply Nat.exists_eq_add_one.mpr
    exact List.length_pos_iff.mpr frame.encode_ne_nil
  obtain ⟨more,long⟩ := long
  unfold drain
  rw [long]
  simp only [drainFrom,taken]
  cases ended <;> rfl

end Stream
end LockLender
