import LockLender.Proofs.Text.Size
import LockLender.Proofs.Wire.Codec
import LockLender.Service

namespace LockLender
open Utf8 (size size_append)

namespace Codec
variable {α β γ : Type} {encode : α → Bytes} {fits : α → Prop}

def Terse (reader : Reader α) : Prop :=
  ∀ bytes flaw, reader bytes = .error flaw → size flaw.message ≤ bytes.length + 100

theorem Exact.shortens {reader : Reader α} (exact : Exact reader encode fits) {bytes rest : Bytes} {value : α}
    (read : reader bytes = .ok (value,rest)) : (encode value).length + rest.length = bytes.length := by
  obtain ⟨_,rfl⟩ := (exact _ _ _).mp read
  exact List.length_append.symm

theorem number_terse (width : Nat) : Terse (number width) := by
  intro bytes flaw refused
  unfold number at refused
  split at refused
  · cases refused
    change 32 ≤ _
    omega
  · cases refused

theorem word_terse : Terse word := by
  intro bytes flaw refused
  obtain cut | ⟨_,_,read⟩ := Except.bind_eq_error.mp refused
  · exact number_terse 8 bytes flaw cut
  · cases read

theorem text_terse : Terse text := by
  intro bytes flaw refused
  obtain cut | ⟨⟨length,rest⟩,read,behind⟩ := Except.bind_eq_error.mp refused
  · exact number_terse 8 bytes flaw cut
  · obtain ⟨_,rfl⟩ := number_eq_ok.mp read
    dsimp only at behind
    split at behind
    · cases behind
      change 10 ≤ _
      omega
    · rename_i front more found
      obtain ⟨rfl,_⟩ := Bytes.split?_eq_some.mp found
      split at behind
      · rename_i fault wrong
        cases behind
        have words := Utf8.size_fault wrong
        unfold MessageFlaw.message
        rw [size_append,List.length_append,List.length_append]
        change 26 + _ ≤ _
        omega
      · cases behind

theorem map_terse {reader : Reader α} (f : α → β) (terse : Terse reader) : Terse (map f reader) := by
  intro bytes flaw refused
  obtain wrong | ⟨_,_,read⟩ := Except.bind_eq_error.mp refused
  · exact terse bytes flaw wrong
  · cases read

theorem both_terse {one : Reader α} {two : Reader β} (f : α → β → γ) (exact : Exact one encode fits)
    (first : Terse one) (second : Terse two) : Terse (both f one two) := by
  intro bytes flaw refused
  obtain wrong | ⟨⟨a,rest⟩,read,refused⟩ := Except.bind_eq_error.mp refused
  · exact first bytes flaw wrong
  · obtain wrong | ⟨_,_,read⟩ := Except.bind_eq_error.mp refused
    · have shorter := exact.shortens read
      have words := second rest flaw wrong
      omega
    · cases read

theorem variant_terse {cases : List (Reader α)} (few : cases.length < 10) (each : ∀ reader ∈ cases, Terse reader) :
    Terse (variant cases) := by
  intro bytes flaw refused
  obtain cut | ⟨⟨n,rest⟩,read,behind⟩ := Except.bind_eq_error.mp refused
  · exact number_terse 4 bytes flaw cut
  · obtain ⟨_,rfl⟩ := number_eq_ok.mp read
    dsimp only at behind
    split at behind
    · cases behind
      have found : size (Numeral.decimal (UInt32.ofNat n).toNat) ≤ 10 :=
        Numeral.size_decimal (Nat.lt_trans (UInt32.ofNat n).toNat_lt (by decide)) (by decide)
      have known : size (Numeral.decimal cases.length) ≤ 1 := Numeral.size_decimal few (by decide)
      unfold MessageFlaw.message
      rw [size_append,size_append,size_append]
      change 24 + _ + 35 + _ ≤ _
      omega
    · rename_i reader known
      have words := each reader (List.mem_of_getElem? known) rest flaw behind
      rw [List.length_append]
      omega

theorem request_terse : Terse (Coded.reader : Reader Request) := by
  have lock : Terse (Coded.reader : Reader LockId) := map_terse _ word_terse
  have client : Terse (Coded.reader : Reader ClientId) := map_terse _ text_terse
  have both (f : LockId → ClientId → Request) : Terse (both f Coded.reader Coded.reader) :=
    both_terse f lockId_exact lock client
  apply variant_terse (by decide)
  intro reader member
  simp only [List.mem_cons,List.not_mem_nil,or_false] at member
  obtain rfl | rfl | rfl := member
  · exact both _
  · exact both _
  · exact map_terse _ lock

end Codec

theorem Reply.encode_length_le (reply : Reply) : (Coded.encode reply).length ≤ 12 := by
  cases reply with
  | granted | retry | released => exact Nat.le_of_lt (by decide)
  | count n => exact Nat.le_of_eq (by simp [Coded.encode,Codec.caseBytes,Codec.wordBytes])
  | noSuchLock lock => exact Nat.le_of_eq (by simp [Coded.encode,Codec.caseBytes,Codec.wordBytes])

namespace Request

theorem size_lock (lock : LockId) : size lock.shown ≤ 28 := by
  have digits := Numeral.size_word lock.number
  unfold LockId.shown LockId.text
  rw [size_append,size_append]
  change 7 + _ + 1 ≤ _
  omega

theorem size_client (client : ClientId) : size client.shown ≤ 6 * size client.name + 12 := by
  have quoted := Quoted.size_quoted_le client.name
  unfold ClientId.shown
  rw [size_append,size_append]
  change 9 + _ + 1 ≤ _
  omega

theorem size_pair (name : String) (lock : LockId) (client : ClientId) :
    size (shownRecord name [("lock_id",lock.shown),("client_id",client.shown)]) ≤
      size name + 6 * size client.name + 67 := by
  have lock := size_lock lock
  have client := size_client client
  unfold shownRecord
  rw [List.map_cons,List.map_cons,List.map_nil,String.intercalate_cons_cons,String.intercalate_singleton]
  simp only [size_append]
  change size name + 3 + (7 + 2 + _ + 2 + (9 + 2 + _)) + 2 ≤ _
  omega

theorem size_shown (request : Request) : size request.shown ≤ 6 * (Coded.encode request).length := by
  have pair (name : String) (lock : LockId) (client : ClientId) (number : Nat) (short : size name ≤ 50) :
      size (shownRecord name [("lock_id",lock.shown),("client_id",client.shown)]) ≤
        6 * (Codec.caseBytes number ++ (Coded.encode lock ++ Coded.encode client)).length := by
    have words := size_pair name lock client
    have length : (Codec.caseBytes number ++ (Coded.encode lock ++ Coded.encode client)).length =
        20 + size client.name := by
      simp [Coded.encode,Codec.caseBytes,Codec.wordBytes,Codec.textBytes,size]
      omega
    omega
  cases request with
  | acquire lock client => exact pair "Acquire" lock client 0 (by decide)
  | release lock client => exact pair "Release" lock client 1 (by decide)
  | stat lock =>
      have words := size_lock lock
      have length : (Coded.encode (Request.stat lock)).length = 12 := by
        simp [Coded.encode,Codec.caseBytes,Codec.wordBytes]
      change size (shownRecord "Stat" [("lock_id",lock.shown)]) ≤ _
      unfold shownRecord
      rw [List.map_cons,List.map_nil,String.intercalate_singleton,length]
      simp only [size_append]
      change 4 + 3 + (7 + 2 + _) + 2 ≤ _
      omega

end Request

namespace Frame
variable {frame : Frame} {fault : LockFault}

theorem size_asRequest (refused : frame.asRequest = .error fault) :
    size fault.message ≤ 6 * frame.payload.length + 135 := by
  unfold asRequest message at refused
  split at refused
  · rename_i flaw wrong
    cases refused
    have words := Codec.request_terse frame.payload flaw (Except.map_eq_error.mp wrong)
    unfold LockFault.message LinkFault.message
    rw [size_append,size_append]
    change 14 + (21 + _) ≤ _
    omega
  · rename_i request read
    obtain ⟨_,begins⟩ := (Coded.decode_eq_ok Codec.request_exact).mp read
    have shorter := begins.length_le
    have words := request.size_shown
    have opcode : size frame.opcode.name ≤ 7 := by
      cases frame.opcode <;> decide
    split at refused
    · cases refused
    · cases refused
      unfold LockFault.message
      rw [size_append,size_append,size_append]
      change 19 + (_ + 14 + _) ≤ _
      omega

end Frame
end LockLender
