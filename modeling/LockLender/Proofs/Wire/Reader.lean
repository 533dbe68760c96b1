import LockLender.Proofs.Wire.Stream

namespace LockLender

namespace Header
variable {bytes : Bytes} {fault : LinkFault}

theorem field_append (more : Bytes) (start width : Nat) (within : start + width ≤ bytes.length) :
    field (bytes ++ more) start width = field bytes start width := by
  have room : width ≤ (bytes.drop start).length := by
    rw [List.length_drop]
    omega
  unfold field
  rw [List.drop_append_of_le_length (by omega),List.take_append_of_le_length room]

theorem decode_append (enough : Frame.headerSize ≤ bytes.length) (more : Bytes) :
    decode (bytes ++ more) = decode bytes := by
  have reads (start width : Nat) (within : start + width ≤ 24) :
      field (bytes ++ more) start width = field bytes start width :=
    field_append more start width (Nat.le_trans within enough)
  have long : ¬ (bytes ++ more).length < Frame.headerSize := by
    rw [List.length_append]
    omega
  unfold decode
  rw [if_neg long,if_neg (Nat.not_lt.mpr enough)]
  rw [reads 0 4 (by decide),reads 4 1 (by decide),reads 5 1 (by decide),reads 6 2 (by decide),
    reads 8 8 (by decide),reads 16 4 (by decide),reads 20 4 (by decide)]

theorem decode_short (short : bytes.length < Frame.headerSize) :
    decode bytes = .error (.badFrame (.shortHeader bytes.length)) := by
  unfold decode
  exact if_pos short

theorem decode_definite (enough : Frame.headerSize ≤ bytes.length) (refused : decode bytes = .error fault)
    (flaw : FrameFlaw) : fault ≠ .badFrame flaw := by
  intro same
  subst same
  unfold decode at refused
  rw [if_neg (Nat.not_lt.mpr enough)] at refused
  dsimp only at refused
  split at refused
  · cases refused
  · split at refused
    · cases refused
    · split at refused
      · cases refused
      · cases refused

end Header

theorem Frame.check_definite {frame : Frame} {fault : LinkFault}
    (stated : frame.payload.length = frame.header.length.toNat) (refused : frame.check = .error fault)
    (flaw : FrameFlaw) : fault ≠ .badFrame flaw := by
  intro same
  subst same
  unfold check at refused
  rw [stated,UInt32.ofNat_toNat,if_neg (not_not_intro rfl)] at refused
  split at refused
  · cases refused
  · cases refused

namespace Stream

inductive Alike (ended : Bool) (bytes : Bytes) : Except LinkFault Frame → Taken → Prop where
  | frame (proper : frame.Proper) (whole : bytes = frame.encode ++ rest) :
      Alike ended bytes (.ok frame) (.frame frame rest)
  -- What is missing may still come, or will not.
  | short (flaw : FrameFlaw) :
      Alike ended bytes (.error (.badFrame flaw)) (if ended then .fault .reset [] else .waiting)
  | refused {fault : LinkFault} (definite : ∀ flaw, fault ≠ .badFrame flaw) :
      Alike ended bytes (.error fault) (.fault fault rest)

variable {bytes front rest octets missing : Bytes} {frame last : Frame} {frames : List Frame} {header : Header}
  {fault : LinkFault} {ended : Bool}

theorem alike_behind (length : front.length = Frame.headerSize) (read : Header.decode front = .ok header)
    (small : ¬ header.length > Frame.payloadLimit) (found : Bytes.split? header.length.toNat rest = some (octets,missing)) :
    Alike ended (front ++ rest) (Frame.decode (front ++ rest))
      (match Frame.check ⟨header,octets⟩ with
        | .error fault => .fault fault missing
        | .ok () => .frame ⟨header,octets⟩ missing) := by
  obtain ⟨rfl,stated⟩ := Bytes.split?_eq_some.mp found
  have whole : Header.decode (front ++ (octets ++ missing)) = .ok header := by
    rw [Header.decode_append (Nat.le_of_eq length.symm),read]
  have payload : ((front ++ (octets ++ missing)).drop Frame.headerSize).take header.length.toNat = octets := by
    rw [List.drop_left' length,List.take_left' stated]
  have enough : ¬ (front ++ (octets ++ missing)).length < Frame.headerSize + header.length.toNat := by
    rw [List.length_append,List.length_append,length,stated]
    omega
  have decoded : Frame.decode (front ++ (octets ++ missing)) =
      (Frame.check ⟨header,octets⟩).map fun _ => ⟨header,octets⟩ := by
    rw [Frame.decode_eq,whole]
    simp only [Except.bind,if_neg small,if_neg enough,payload]
  cases checked : Frame.check ⟨header,octets⟩ with
  | error fault =>
      rw [decoded,checked]
      exact .refused (Frame.check_definite stated checked)
  | ok =>
      rw [checked] at decoded
      obtain ⟨begins,proper⟩ := Frame.proper_of_decode decoded
      rw [decoded]
      refine .frame proper ?_
      obtain ⟨more,split⟩ := begins
      rw [Frame.encode_append] at split
      obtain ⟨rfl,behind⟩ := List.append_inj split (by rw [Header.encode_length,length])
      rw [Frame.encode_append]

theorem alike (ended : Bool) (bytes : Bytes) : Alike ended bytes (Frame.decode bytes) (take ended bytes) := by
  unfold take
  cases found : Bytes.split? Frame.headerSize bytes with
  | none =>
      rw [Frame.decode_eq,Header.decode_short (split?_eq_none.mp found)]
      exact .short _
  | some halves =>
      obtain ⟨front,rest⟩ := halves
      obtain ⟨rfl,length⟩ := Bytes.split?_eq_some.mp found
      have enough : Frame.headerSize ≤ front.length := Nat.le_of_eq length.symm
      have same := Header.decode_append enough rest
      dsimp only
      cases read : Header.decode front with
      | error fault =>
          rw [Frame.decode_eq,same,read]
          exact .refused (Header.decode_definite enough read)
      | ok header =>
          by_cases large : header.length > Frame.payloadLimit
          · rw [Frame.decode_eq,same,read]
            simp only [Except.bind,if_pos large]
            exact .refused fun flaw => nofun
          · simp only [if_neg large]
            cases behind : Bytes.split? header.length.toNat rest with
            | none =>
                have short : (front ++ rest).length < Frame.headerSize + header.length.toNat := by
                  have missing := split?_eq_none.mp behind
                  rw [List.length_append,length]
                  omega
                rw [Frame.decode_eq,same,read]
                simp only [Except.bind,if_neg large,if_pos short]
                exact .short _
            | some halves => exact alike_behind length read large behind

theorem take_eq_frame : take ended bytes = .frame frame rest ↔ frame.Proper ∧ bytes = frame.encode ++ rest := by
  constructor
  · intro taken
    have same := alike ended bytes
    generalize Frame.decode bytes = decoded at same
    generalize take ended bytes = result at same taken
    cases same with
    | frame proper whole =>
        cases taken
        exact ⟨proper,whole⟩
    | short flaw =>
        split at taken
        · cases taken
        · cases taken
    | refused definite => cases taken
  · rintro ⟨proper,rfl⟩
    exact take_encode proper ended rest

theorem next_eq_take : next bytes = match take true bytes with
    | .frame frame rest => (.ok frame,rest)
    | .fault fault rest => (.error fault,rest)
    | .waiting => (.error .reset,[]) := rfl

theorem next_decoded (decoded : Frame.decode bytes = .ok frame) :
    next bytes = (.ok frame,bytes.drop (Frame.headerSize + frame.payload.length)) := by
  obtain ⟨⟨rest,rfl⟩,proper⟩ := Frame.decode_eq_ok.mp decoded
  rw [next_eq_take,take_encode proper,← Frame.encode_length,List.drop_left]

theorem next_short {flaw : FrameFlaw} (decoded : Frame.decode bytes = .error (.badFrame flaw)) :
    next bytes = (.error .reset,[]) := by
  have same := alike true bytes
  rw [decoded] at same
  rw [next_eq_take]
  generalize take true bytes = taken at same
  cases same with
  | short => rfl
  | refused definite => exact absurd rfl (definite flaw)

theorem next_refused (decoded : Frame.decode bytes = .error fault) (definite : ∀ flaw, fault ≠ .badFrame flaw) :
    (next bytes).1 = .error fault := by
  have same := alike true bytes
  rw [decoded] at same
  rw [next_eq_take]
  generalize take true bytes = taken at same
  cases same with
  | short flaw => exact absurd rfl (definite flaw)
  | refused => rfl

theorem next_eq_ok : next bytes = (.ok frame,rest) ↔ frame.Proper ∧ bytes = frame.encode ++ rest := by
  rw [← @take_eq_frame _ _ _ true,next_eq_take]
  cases take true bytes with
  | frame other left => simp
  | fault fault left => simp
  | waiting => simp

theorem next_encode (proper : frame.Proper) (rest : Bytes) : next (frame.encode ++ rest) = (.ok frame,rest) :=
  next_eq_ok.mpr ⟨proper,rfl⟩

theorem next_part (proper : last.Proper) (whole : last.encode = octets ++ missing) (cut : missing ≠ []) :
    next octets = (.error .reset,[]) := by
  have waits := take_part proper whole cut
  have same := alike false octets
  rw [waits] at same
  generalize decoded : Frame.decode octets = result at same
  cases same with
  | short flaw => exact next_short decoded

theorem length_le_encoded (frames : List Frame) : frames.length ≤ (frames.flatMap Frame.encode).length := by
  induction frames with
  | nil => exact Nat.le_refl _
  | cons frame others ih =>
      rw [List.flatMap_cons,List.length_append,Frame.encode_length,List.length_cons,Frame.headerSize]
      omega

-- The frames at the front of some octets, and what is left where no frame can be read.
structure Front (bytes : Bytes) (frames : List Frame) (rest : Bytes) : Prop where
  whole : bytes = frames.flatMap Frame.encode ++ rest
  proper : ∀ frame ∈ frames, Frame.Proper frame
  beyond : ∀ frame : Frame, frame.Proper → ¬ frame.encode <+: rest

theorem Front.cons (front : Front rest frames octets) (proper : frame.Proper) :
    Front (frame.encode ++ rest) (frame :: frames) octets := by
  constructor
  · rw [front.whole,List.flatMap_cons,List.append_assoc]
  · intro other member
    obtain rfl | member := List.mem_cons.mp member
    · exact proper
    · exact front.proper other member
  · exact front.beyond

theorem drainFrom_front (fuel : Nat) (bytes : Bytes) (enough : bytes.length < fuel) :
    ∃ rest, Front bytes (drainFrom fuel true bytes).1 rest := by
  induction fuel generalizing bytes with
  | zero => exact absurd enough (Nat.not_lt_zero _)
  | succ fuel ih =>
      unfold drainFrom
      cases taken : take true bytes with
      | frame frame rest =>
          obtain ⟨proper,rfl⟩ := take_eq_frame.mp taken
          rw [List.length_append,Frame.encode_length,Frame.headerSize] at enough
          obtain ⟨octets,front⟩ := ih rest (by omega)
          exact ⟨octets,front.cons proper⟩
      | waiting | fault fault rest =>
          refine ⟨bytes,rfl,fun frame member => absurd member List.not_mem_nil,?_⟩
          rintro frame proper ⟨rest,rfl⟩
          rw [take_encode proper] at taken
          cases taken

theorem Front.drained (front : Front bytes frames rest) {fuel : Nat} (enough : frames.length < fuel) :
    (drainFrom fuel true bytes).1 = frames := by
  induction frames generalizing bytes fuel with
  | nil =>
      obtain ⟨fuel,rfl⟩ := Nat.exists_eq_add_one.mpr enough
      obtain rfl : bytes = rest := front.whole
      unfold drainFrom
      cases taken : take true bytes with
      | frame frame more =>
          obtain ⟨proper,rfl⟩ := take_eq_frame.mp taken
          exact absurd (List.prefix_append _ _) (front.beyond frame proper)
      | waiting | fault fault more => rfl
  | cons frame others ih =>
      obtain ⟨fuel,rfl⟩ := Nat.exists_eq_add_one.mpr (Nat.zero_lt_of_lt enough)
      have taken : take true bytes = .frame frame (others.flatMap Frame.encode ++ rest) := by
        apply take_eq_frame.mpr
        refine ⟨front.proper frame List.mem_cons_self,?_⟩
        rw [front.whole,List.flatMap_cons,List.append_assoc]
      have behind : Front (others.flatMap Frame.encode ++ rest) others rest :=
        ⟨rfl,fun other member => front.proper other (List.mem_cons_of_mem _ member),front.beyond⟩
      unfold drainFrom
      rw [taken]
      dsimp only
      rw [ih behind (Nat.lt_of_succ_lt_succ enough)]

theorem readingsFrom_frames (faults : Nat) (ends : next octets = (.error .reset,[]))
    (proper : ∀ frame ∈ frames, frame.Proper) {fuel : Nat} (enough : frames.length < fuel) :
    readingsFrom fuel faults (frames.flatMap Frame.encode ++ octets) = frames.map .ok ++ [.error .reset] := by
  induction frames generalizing fuel with
  | nil =>
      obtain ⟨fuel,rfl⟩ := Nat.exists_eq_add_one.mpr enough
      simp only [readingsFrom,List.flatMap_nil,List.nil_append,ends,List.map_nil]
  | cons frame others ih =>
      obtain ⟨fuel,rfl⟩ := Nat.exists_eq_add_one.mpr (Nat.zero_lt_of_lt enough)
      have first := next_encode (proper frame List.mem_cons_self) (others.flatMap Frame.encode ++ octets)
      have rest := ih (fun other member => proper other (List.mem_cons_of_mem _ member)) (Nat.lt_of_succ_lt_succ enough)
      rw [List.flatMap_cons,List.append_assoc]
      simp only [readingsFrom,first,rest,List.map_cons,List.cons_append]

theorem readings_frames (faults : Nat) (ends : next octets = (.error .reset,[]))
    (proper : ∀ frame ∈ frames, frame.Proper) :
    readings faults (frames.flatMap Frame.encode ++ octets) = frames.map .ok ++ [.error .reset] := by
  have length := length_le_encoded frames
  apply readingsFrom_frames faults ends proper
  rw [List.length_append]
  omega

-- A stream that has ended is read as a buffer is: the frame that stands first, and no octet more than it
-- has, or the fault that a buffer has; and what is too short for a frame is a connection that was reset.
-- So frames written one after the other, the last of them in part, come out as they are, and then the end.
theorem reads_as_decoded :
    (∀ bytes frame, Frame.decode bytes = .ok frame →
      next bytes = (.ok frame,bytes.drop (Frame.headerSize + frame.payload.length)) ∧
        Frame.headerSize + frame.payload.length ≤ bytes.length) ∧
    (∀ bytes fault, Frame.decode bytes = .error fault → (∀ flaw, fault ≠ .badFrame flaw) →
      (next bytes).1 = .error fault) ∧
    (∀ bytes flaw, Frame.decode bytes = .error (.badFrame flaw) → (next bytes).1 = .error .reset) ∧
    ∀ (frames : List Frame) (last : Frame) (octets missing : Bytes) (faults : Nat),
      (∀ frame ∈ frames, frame.Proper) → last.Proper → last.encode = octets ++ missing → missing ≠ [] →
        readings faults (frames.flatMap Frame.encode ++ octets) = frames.map .ok ++ [.error .reset] := by
  refine ⟨?_,?_,?_,?_⟩
  · intro bytes frame decoded
    have length := (Frame.decode_eq_ok.mp decoded).1.length_le
    rw [Frame.encode_length] at length
    exact ⟨next_decoded decoded,length⟩
  · intro bytes fault decoded definite
    exact next_refused decoded definite
  · intro bytes flaw decoded
    rw [next_short decoded]
  · intro frames last octets missing faults proper fits whole cut
    exact readings_frames faults (next_part fits whole cut) proper

theorem reads_as_decoded_cut :
    (Frame.decode (Frame.laden.encode ++ [0x4C]) = .ok Frame.laden ∧
      next (Frame.laden.encode ++ [0x4C]) =
        (.ok Frame.laden,(Frame.laden.encode ++ [0x4C]).drop (Frame.headerSize + 6))) ∧
    (Frame.decode (0xFF :: Frame.laden.encode) = .error (.badMagic 0x4C4B0001 0xFF4C4B00) ∧
      (next (0xFF :: Frame.laden.encode)).1 = .error (.badMagic 0x4C4B0001 0xFF4C4B00)) ∧
    (Frame.decode (Frame.laden.encode.take 27) = .error (.badFrame (.truncated 30 27)) ∧
      (next (Frame.laden.encode.take 27)).1 = .error .reset) ∧
    readings 3 ([Frame.laden,Frame.laden].flatMap Frame.encode ++ Frame.laden.encode.take 27) =
      [.ok Frame.laden,.ok Frame.laden,.error .reset] := by
  obtain ⟨frames,faults,short,lists⟩ := reads_as_decoded
  have decoded : Frame.decode (Frame.laden.encode ++ [0x4C]) = .ok Frame.laden := Frame.laden_proper.decode _
  have refused : Frame.decode (0xFF :: Frame.laden.encode) = .error (.badMagic 0x4C4B0001 0xFF4C4B00) := by rfl
  have cut : Frame.decode (Frame.laden.encode.take 27) = .error (.badFrame (.truncated 30 27)) := by rfl
  have proper : ∀ frame ∈ [Frame.laden,Frame.laden], frame.Proper := by
    intro frame member
    obtain rfl : frame = Frame.laden := by simpa using member
    exact Frame.laden_proper
  refine ⟨⟨decoded,(frames _ _ decoded).1⟩,⟨refused,faults _ _ refused fun flaw => nofun⟩,⟨cut,short _ _ cut⟩,?_⟩
  exact lists [Frame.laden,Frame.laden] Frame.laden _ (Frame.laden.encode.drop 27) 3 proper Frame.laden_proper
    (List.take_append_drop 27 _).symm (by decide)

end Stream
end LockLender
