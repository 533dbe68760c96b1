import LockLender.Wire.Frame

namespace LockLender

theorem Bytes.ofBig_lt (bytes : Bytes) : ofBig bytes < span bytes.length := by
  have bound := ofLittle_lt bytes.reverse
  rwa [List.length_reverse] at bound

namespace Header
variable {bytes : Bytes} {start width : Nat} {h : Header}

theorem field_past_big (width n start : Nat) (rest : Bytes) (other : Nat) :
    field (Bytes.big width n ++ rest) (width + start) other = field rest start other := by
  have skip : (Bytes.big width n ++ rest).drop (width + start) = rest.drop start := by
    rw [List.drop_append,Bytes.big_length,Nat.add_sub_cancel_left]
    simp
  rw [field,skip,field]

theorem field_past_octet (b : UInt8) (rest : Bytes) (start width : Nat) :
    field (b :: rest) (1 + start) width = field rest start width := by
  rw [field,Nat.add_comm,List.drop_succ_cons,field]

theorem field_big (width n : Nat) (rest : Bytes) : field (Bytes.big width n ++ rest) 0 width = n % Bytes.span width := by
  have front : (Bytes.big width n ++ rest).take width = Bytes.big width n :=
    List.take_left' (Bytes.big_length width n)
  rw [field,List.drop_zero,front,Bytes.ofBig_big]

theorem field_octet (b : UInt8) (rest : Bytes) : field (b :: rest) 0 1 = b.toNat := by
  simp [field,Bytes.ofBig,Bytes.ofLittle]

theorem field_lt (enough : start + width ≤ bytes.length) : field bytes start width < Bytes.span width := by
  have bound := Bytes.ofBig_lt ((bytes.drop start).take width)
  rwa [show ((bytes.drop start).take width).length = width by simp; omega] at bound

theorem drop_field (bytes : Bytes) (start width : Nat) (enough : start + width ≤ bytes.length) :
    bytes.drop start = Bytes.big width (field bytes start width) ++ bytes.drop (start + width) := by
  have length : ((bytes.drop start).take width).length = width := by simp; omega
  have front := Bytes.big_ofBig ((bytes.drop start).take width)
  rw [length] at front
  rw [field,front,← List.drop_drop,List.take_append_drop]

theorem drop_octet (bytes : Bytes) (start : Nat) (enough : start < bytes.length) :
    bytes.drop start = UInt8.ofNat (field bytes start 1) :: bytes.drop (start + 1) := by
  have octet := drop_field bytes start 1 enough
  have low : field bytes start 1 % 256 = field bytes start 1 := Nat.mod_eq_of_lt (field_lt enough)
  simpa [Bytes.big,Bytes.little,low] using octet

@[simp] theorem encode_length (h : Header) : h.encode.length = Frame.headerSize := by
  simp [encode,Frame.headerSize]

theorem encode_append (h : Header) (rest : Bytes) : h.encode ++ rest =
    Bytes.big 4 h.magic.toNat ++ (h.version :: h.flags.bits :: (Bytes.big 2 h.opcode.code.toNat ++
      (Bytes.big 8 h.request.toNat ++ (Bytes.big 4 h.length.toNat ++ (Bytes.big 4 h.checksum.toNat ++ rest))))) := by
  simp [encode]

structure Laid (h : Header) (bytes : Bytes) : Prop where
  magic : field bytes 0 4 = h.magic.toNat
  version : field bytes 4 1 = h.version.toNat
  flags : field bytes 5 1 = h.flags.bits.toNat
  opcode : field bytes 6 2 = h.opcode.code.toNat
  request : field bytes 8 8 = h.request.toNat
  length : field bytes 16 4 = h.length.toNat
  checksum : field bytes 20 4 = h.checksum.toNat

theorem encode_laid (h : Header) (rest : Bytes) : h.Laid (h.encode ++ rest) := by
  have word (n : UInt32) : n.toNat % Bytes.span 4 = n.toNat := Nat.mod_eq_of_lt n.toNat_lt
  rw [encode_append]
  constructor
  · rw [field_big,word]
  · change field _ (4 + 0) 1 = _
    rw [field_past_big,field_octet]
  · change field _ (4 + (1 + 0)) 1 = _
    rw [field_past_big,field_past_octet,field_octet]
  · change field _ (4 + (1 + (1 + 0))) 2 = _
    rw [field_past_big,field_past_octet,field_past_octet,field_big]
    exact Nat.mod_eq_of_lt h.opcode.code.toNat_lt
  · change field _ (4 + (1 + (1 + (2 + 0)))) 8 = _
    rw [field_past_big,field_past_octet,field_past_octet,field_past_big,field_big]
    exact Nat.mod_eq_of_lt h.request.toNat_lt
  · change field _ (4 + (1 + (1 + (2 + (8 + 0))))) 4 = _
    rw [field_past_big,field_past_octet,field_past_octet,field_past_big,field_past_big,field_big,word]
  · change field _ (4 + (1 + (1 + (2 + (8 + (4 + 0)))))) 4 = _
    rw [field_past_big,field_past_octet,field_past_octet,field_past_big,field_past_big,field_past_big,field_big,word]

theorem Laid.encode_prefix (laid : h.Laid bytes) (enough : Frame.headerSize ≤ bytes.length) :
    bytes = h.encode ++ bytes.drop Frame.headerSize := by
  have room (n : Nat) (within : n ≤ 24) : n ≤ bytes.length := Nat.le_trans within enough
  rw [encode_append,← laid.magic,← laid.opcode,← laid.request,← laid.length,← laid.checksum]
  rw [show h.version = UInt8.ofNat (field bytes 4 1) by rw [laid.version,UInt8.ofNat_toNat],
    show h.flags.bits = UInt8.ofNat (field bytes 5 1) by rw [laid.flags,UInt8.ofNat_toNat]]
  have magic := drop_field bytes 0 4 (room 4 (by decide))
  have version := drop_octet bytes 4 (room 5 (by decide))
  have flags := drop_octet bytes 5 (room 6 (by decide))
  have opcode := drop_field bytes 6 2 (room 8 (by decide))
  have request := drop_field bytes 8 8 (room 16 (by decide))
  have length := drop_field bytes 16 4 (room 20 (by decide))
  have checksum := drop_field bytes 20 4 (room 24 (by decide))
  calc
    bytes = bytes.drop 0 := rfl
    _ = _ := by
      rw [magic]
      simp only [Nat.zero_add]
      rw [version,flags,opcode,request,length,checksum]
      rfl

theorem decode_eq_ok : decode bytes = .ok h ↔
    h.encode <+: bytes ∧ h.magic = Frame.magic ∧ h.version = Frame.version := by
  constructor
  · intro decoded
    unfold decode at decoded
    split at decoded
    · cases decoded
    · rename_i long
      have enough : Frame.headerSize ≤ bytes.length := Nat.le_of_not_lt long
      have read {start width : Nat} (within : start + width ≤ 24) :
          field bytes start width < Bytes.span width := field_lt (Nat.le_trans within enough)
      dsimp only at decoded
      split at decoded
      · cases decoded
      · rename_i magic
        split at decoded
        · cases decoded
        · rename_i version
          split at decoded
          · cases decoded
          · rename_i opcode found
            cases decoded
            refine ⟨⟨bytes.drop Frame.headerSize,(Laid.encode_prefix ?_ enough).symm⟩,
              Decidable.of_not_not magic,Decidable.of_not_not version⟩
            have code := Opcode.ofCode?_eq_some.mp found
            exact {
              magic := (UInt32.toNat_ofNat_of_lt' (read (by decide))).symm
              version := (UInt8.toNat_ofNat_of_lt' (read (by decide))).symm
              flags := (UInt8.toNat_ofNat_of_lt' (read (by decide))).symm
              opcode := by rw [code,UInt16.toNat_ofNat_of_lt' (read (by decide))]
              request := (UInt64.toNat_ofNat_of_lt' (read (by decide))).symm
              length := (UInt32.toNat_ofNat_of_lt' (read (by decide))).symm
              checksum := (UInt32.toNat_ofNat_of_lt' (read (by decide))).symm }
  · rintro ⟨⟨rest,rfl⟩,magic,version⟩
    obtain ⟨fieldMagic,fieldVersion,fieldFlags,fieldOpcode,fieldRequest,fieldLength,fieldChecksum⟩ := encode_laid h rest
    have enough : ¬ (h.encode ++ rest).length < Frame.headerSize := by simp
    have code : Opcode.ofCode? h.opcode.code = some h.opcode := Opcode.ofCode?_eq_some.mpr rfl
    unfold decode
    simp only [if_neg enough,fieldMagic,fieldVersion,fieldFlags,fieldOpcode,fieldRequest,fieldLength,fieldChecksum,
      UInt32.ofNat_toNat,UInt8.ofNat_toNat,UInt16.ofNat_toNat,UInt64.ofNat_toNat,code]
    rw [if_neg (not_not_intro magic),if_neg (not_not_intro version)]

end Header

namespace Frame
variable {bytes : Bytes} {frame : Frame}

-- A frame that a reader may take. Its flags, opcode and request number are
-- free.
structure Proper (frame : Frame) : Prop where
  magic : frame.header.magic = magic
  version : frame.header.version = version
  stated : frame.header.length.toNat = frame.payload.length
  bounded : frame.header.length ≤ payloadLimit
  summed : frame.header.checksum = Checksum.crc32 frame.payload

theorem check_eq_ok : frame.check = .ok () ↔
    UInt32.ofNat frame.payload.length = frame.header.length ∧ Checksum.crc32 frame.payload = frame.header.checksum := by
  unfold check
  split
  · rename_i differ
    simp [differ]
  · rename_i same
    split
    · rename_i differ
      simp [differ]
    · rename_i sum
      simp [Decidable.of_not_not same,Decidable.of_not_not sum]

theorem decode_eq : decode bytes = (Header.decode bytes).bind fun header =>
    if header.length > payloadLimit then .error (.tooLarge header.length payloadLimit)
    else if bytes.length < headerSize + header.length.toNat then
      .error (.badFrame (.truncated (headerSize + header.length.toNat) bytes.length))
    else
      let frame : Frame := ⟨header,(bytes.drop headerSize).take header.length.toNat⟩
      frame.check.map fun _ => frame := by
  unfold decode
  cases Header.decode bytes with
  | error fault => rfl
  | ok header =>
    simp only [Except.bind,bind,pure,Except.pure]
    split
    · rfl
    · split
      · rfl
      · cases check _ <;> rfl

theorem encode_length (frame : Frame) : frame.encode.length = headerSize + frame.payload.length := by
  simp [encode]

theorem encode_append (frame : Frame) (rest : Bytes) :
    frame.encode ++ rest = frame.header.encode ++ (frame.payload ++ rest) := List.append_assoc ..

theorem Proper.check (proper : frame.Proper) : frame.check = .ok () :=
  check_eq_ok.mpr ⟨by rw [← proper.stated,UInt32.ofNat_toNat],proper.summed.symm⟩

theorem Proper.decode (proper : frame.Proper) (rest : Bytes) : decode (frame.encode ++ rest) = .ok frame := by
  have header : Header.decode (frame.encode ++ rest) = .ok frame.header := by
    apply Header.decode_eq_ok.mpr
    exact ⟨⟨frame.payload ++ rest,(encode_append frame rest).symm⟩,proper.magic,proper.version⟩
  have small : ¬ frame.header.length > payloadLimit := UInt32.not_lt.mpr proper.bounded
  have enough : ¬ (frame.encode ++ rest).length < headerSize + frame.header.length.toNat := by
    rw [List.length_append,encode_length,proper.stated]
    omega
  have payload : ((frame.encode ++ rest).drop headerSize).take frame.header.length.toNat = frame.payload := by
    rw [encode_append,List.drop_left' (Header.encode_length _),List.take_left' proper.stated.symm]
  rw [decode_eq,header]
  simp only [Except.bind,if_neg small,if_neg enough,payload,proper.check]
  rfl

theorem proper_of_decode (decoded : decode bytes = .ok frame) : frame.encode <+: bytes ∧ frame.Proper := by
  rw [decode_eq] at decoded
  cases read : Header.decode bytes with
  | error fault => simp [read,Except.bind] at decoded
  | ok header =>
    simp only [read,Except.bind] at decoded
    obtain ⟨⟨rest,rfl⟩,magic,version⟩ := Header.decode_eq_ok.mp read
    split at decoded
    · cases decoded
    · rename_i small
      split at decoded
      · cases decoded
      · rename_i long
        have stated : header.length.toNat = (rest.take header.length.toNat).length := by
          rw [List.length_append,Header.encode_length] at long
          rw [List.length_take]
          omega
        rw [List.drop_left' (Header.encode_length _)] at decoded
        cases checked : Frame.check ⟨header,rest.take header.length.toNat⟩ with
        | error fault => simp [checked,Except.map] at decoded
        | ok =>
          simp only [checked,Except.map,Except.ok.injEq] at decoded
          subst decoded
          refine ⟨?_,magic,version,stated,UInt32.not_lt.mp small,(check_eq_ok.mp checked).2.symm⟩
          exact (List.prefix_append_right_inj _).mpr (List.take_prefix _ _)

theorem decode_eq_ok : decode bytes = .ok frame ↔ frame.encode <+: bytes ∧ frame.Proper := by
  constructor
  · exact proper_of_decode
  · rintro ⟨⟨rest,rfl⟩,proper⟩
    exact proper.decode rest

-- Reading takes exactly what writing gives, whatever comes after it, and no
-- octets can be read as two frames.
theorem read_exactly_as_written :
    (∀ bytes frame, decode bytes = .ok frame ↔ frame.encode <+: bytes ∧ frame.Proper) ∧
    (∀ frame rest, frame.Proper → decode (frame.encode ++ rest) = .ok frame) ∧
    (∀ bytes frame, decode bytes = .ok frame → frame.encode = bytes.take (headerSize + frame.payload.length)) ∧
    ∀ (bytes : Bytes) (one two : Frame), one.Proper → two.Proper → one.encode <+: bytes → two.encode <+: bytes →
      one = two := by
  refine ⟨fun _ _ => decode_eq_ok,fun frame rest proper => proper.decode rest,fun bytes frame decoded => ?_,?_⟩
  · have front := (decode_eq_ok.mp decoded).1
    rw [← encode_length]
    exact List.prefix_iff_eq_take.mp front
  · intro bytes one two first second start other
    have read := decode_eq_ok.mpr ⟨start,first⟩
    rw [decode_eq_ok.mpr ⟨other,second⟩] at read
    exact (Except.ok.inj read).symm

def laden : Frame := (make .retry 0xFFFFFFFFFFFFFFFF [108,111,99,107,45,55]).withFlags ⟨0xFF⟩

theorem laden_proper : laden.Proper where
  magic := rfl
  version := rfl
  stated := by decide
  bounded := by decide
  summed := rfl

theorem read_exactly_as_written_laden :
    laden.Proper ∧ laden.encode <+: laden.encode ++ [0x4C,0x4B] ∧
      decode (laden.encode ++ [0x4C,0x4B]) = .ok laden ∧
      laden.encode = (laden.encode ++ [0x4C,0x4B]).take (headerSize + laden.payload.length) ∧
      ∀ other : Frame, other.Proper → other.encode <+: laden.encode ++ [0x4C,0x4B] → laden = other := by
  have begins : laden.encode <+: laden.encode ++ [0x4C,0x4B] := List.prefix_append _ _
  have read := read_exactly_as_written.2.1 laden [0x4C,0x4B] laden_proper
  refine ⟨laden_proper,begins,read,read_exactly_as_written.2.2.1 _ _ read,?_⟩
  intro other proper start
  exact read_exactly_as_written.2.2.2 _ _ _ laden_proper proper begins start

end Frame
end LockLender
