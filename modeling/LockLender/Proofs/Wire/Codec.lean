import Mathlib.Algebra.Group.Nat.Defs
import LockLender.Proofs.Text.Utf8
import LockLender.Wire.Codec

namespace LockLender

theorem Except.bind_eq_ok {ε α β : Type} {one : Except ε α} {two : α → Except ε β} {b : β} :
    (one >>= two) = .ok b ↔ ∃ a, one = .ok a ∧ two a = .ok b := by
  cases one with
  | error fault => exact ⟨nofun,nofun⟩
  | ok a => exact ⟨fun read => ⟨a,rfl,read⟩,fun ⟨_,same,read⟩ => Except.ok.inj same ▸ read⟩

-- Eight octets can tell a text's length, as they can of any text in a memory
-- whose addresses are words.
def Codec.Short (text : String) : Prop := (Utf8.encode text).length < 2 ^ 64

def Request.Short : Request → Prop
  | .acquire _ client | .release _ client => Codec.Short client.name
  | .stat _ => True

namespace Codec
variable {α β γ : Type} {bytes rest : Bytes} {n width : Nat}

-- A reader takes exactly the octets that are written for the values of a kind, and leaves what follows them.
def Exact (reader : Reader α) (encode : α → Bytes) (fits : α → Prop) : Prop :=
  ∀ bytes value rest, reader bytes = .ok (value,rest) ↔ fits value ∧ bytes = encode value ++ rest

theorem number_eq_ok : number width bytes = .ok (n,rest) ↔
    n < Bytes.span width ∧ bytes = Bytes.little width n ++ rest := by
  unfold number
  cases found : Bytes.split? width bytes with
  | none =>
      refine iff_of_false nofun ?_
      rintro ⟨_,rfl⟩
      have short := Bytes.split?_append (Bytes.little width n) rest
      rw [Bytes.little_length,found] at short
      cases short
  | some halves =>
      obtain ⟨front,back⟩ := halves
      obtain ⟨rfl,rfl⟩ := Bytes.split?_eq_some.mp found
      constructor
      · intro read
        cases read
        exact ⟨Bytes.ofLittle_lt front,by rw [Bytes.little_ofLittle]⟩
      · rintro ⟨bound,same⟩
        obtain ⟨written,rfl⟩ := List.append_inj same (Bytes.little_length _ n).symm
        have value : Bytes.ofLittle front = n := by
          rw [written,Bytes.ofLittle_little,Nat.mod_eq_of_lt bound]
        simp only [value]

theorem word_exact : Exact word wordBytes fun _ => True := by
  intro bytes value rest
  unfold word
  rw [Except.bind_eq_ok]
  constructor
  · rintro ⟨⟨n,back⟩,read,same⟩
    cases same
    obtain ⟨bound,rfl⟩ := number_eq_ok.mp read
    refine ⟨trivial,?_⟩
    rw [wordBytes,UInt64.toNat_ofNat_of_lt' bound]
  · rintro ⟨_,rfl⟩
    refine ⟨(value.toNat,rest),number_eq_ok.mpr ⟨value.toNat_lt,rfl⟩,?_⟩
    simp [pure,Except.pure]

theorem text_exact : Exact text textBytes Short := by
  intro bytes value rest
  unfold text
  rw [Except.bind_eq_ok]
  constructor
  · rintro ⟨⟨length,tail⟩,read,same⟩
    obtain ⟨bound,rfl⟩ := number_eq_ok.mp read
    dsimp only at same
    split at same
    · cases same
    · rename_i front back found
      obtain ⟨rfl,rfl⟩ := Bytes.split?_eq_some.mp found
      split at same
      · cases same
      · rename_i decoded
        cases same
        obtain rfl := Utf8.decode_eq_ok.mp decoded
        exact ⟨bound,by rw [textBytes,List.append_assoc]⟩
  · rintro ⟨short,rfl⟩
    refine ⟨((Utf8.encode value).length,Utf8.encode value ++ rest),number_eq_ok.mpr ⟨short,?_⟩,?_⟩
    · rw [textBytes,List.append_assoc]
    · simp only [Bytes.split?_append,Utf8.decode_eq_ok.mpr rfl]
      rfl

theorem map_eq_ok {f : α → β} {reader : Reader α} {value : β} : map f reader bytes = .ok (value,rest) ↔
    ∃ a, f a = value ∧ reader bytes = .ok (a,rest) := by
  unfold map
  rw [Except.bind_eq_ok]
  constructor
  · rintro ⟨⟨a,back⟩,read,same⟩
    cases same
    exact ⟨a,rfl,read⟩
  · rintro ⟨a,rfl,read⟩
    exact ⟨(a,rest),read,rfl⟩

theorem both_eq_ok {f : α → β → γ} {one : Reader α} {two : Reader β} {value : γ} :
    both f one two bytes = .ok (value,rest) ↔
      ∃ a b, f a b = value ∧ ∃ middle, two middle = .ok (b,rest) ∧ one bytes = .ok (a,middle) := by
  unfold both
  rw [Except.bind_eq_ok]
  constructor
  · rintro ⟨⟨a,middle⟩,first,same⟩
    obtain ⟨⟨b,back⟩,second,same⟩ := Except.bind_eq_ok.mp same
    cases same
    exact ⟨a,b,rfl,middle,second,first⟩
  · rintro ⟨a,b,rfl,middle,second,first⟩
    exact ⟨(a,middle),first,Except.bind_eq_ok.mpr ⟨(b,rest),second,rfl⟩⟩

theorem always_eq_ok {value other : α} : always value bytes = .ok (other,rest) ↔ value = other ∧ bytes = rest := by
  simp [always]

theorem variant_eq_ok {cases : List (Reader α)} {value : α} (few : cases.length ≤ Bytes.span 4) :
    variant cases bytes = .ok (value,rest) ↔
      ∃ n reader, cases[n]? = some reader ∧ ∃ tail, reader tail = .ok (value,rest) ∧ bytes = caseBytes n ++ tail := by
  unfold variant
  rw [Except.bind_eq_ok]
  constructor
  · rintro ⟨⟨n,tail⟩,read,same⟩
    obtain ⟨_,rfl⟩ := number_eq_ok.mp read
    dsimp only at same
    split at same
    · cases same
    · rename_i reader found
      exact ⟨n,reader,found,tail,same,rfl⟩
  · rintro ⟨n,reader,found,tail,read,rfl⟩
    have known : n < cases.length := (List.getElem?_eq_some_iff.mp found).1
    refine ⟨(n,tail),number_eq_ok.mpr ⟨Nat.lt_of_lt_of_le known few,rfl⟩,?_⟩
    simp only [found,read]

theorem exists_case_cons {p : Nat → Reader α → Prop} {first : Reader α} {others : List (Reader α)} :
    (∃ n reader, (first :: others)[n]? = some reader ∧ p n reader) ↔
      p 0 first ∨ ∃ n reader, others[n]? = some reader ∧ p (n + 1) reader := by
  constructor
  · rintro ⟨n,reader,found,holds⟩
    cases n with
    | zero =>
        cases found
        exact .inl holds
    | succ n => exact .inr ⟨n,reader,found,holds⟩
  · rintro (holds | ⟨n,reader,found,holds⟩)
    · exact ⟨0,first,rfl,holds⟩
    · exact ⟨n + 1,reader,found,holds⟩

theorem exists_case_nil {p : Nat → Reader α → Prop} :
    (∃ n reader, ([] : List (Reader α))[n]? = some reader ∧ p n reader) ↔ False := by
  simp

theorem lockId_exact : Exact (Coded.reader : Reader LockId) Coded.encode fun _ => True := by
  intro bytes lock rest
  simp only [Coded.reader,map_eq_ok,word_exact _ _ _,true_and]
  constructor
  · rintro ⟨n,rfl,rfl⟩
    rfl
  · rintro rfl
    exact ⟨lock.number,rfl,rfl⟩

theorem clientId_exact : Exact (Coded.reader : Reader ClientId) Coded.encode fun client => Short client.name := by
  intro bytes client rest
  simp only [Coded.reader,map_eq_ok,text_exact _ _ _]
  constructor
  · rintro ⟨n,rfl,short,rfl⟩
    exact ⟨short,rfl⟩
  · rintro ⟨short,rfl⟩
    exact ⟨client.name,rfl,short,rfl⟩

theorem request_exact : Exact (Coded.reader : Reader Request) Coded.encode Request.Short := by
  intro bytes request rest
  change variant _ bytes = _ ↔ _
  rw [variant_eq_ok (by decide)]
  simp only [exists_case_cons,exists_case_nil,both_eq_ok,map_eq_ok,lockId_exact _ _ _,clientId_exact _ _ _]
  cases request <;> simp [Request.Short,Coded.encode,and_assoc]

theorem reply_exact : Exact (Coded.reader : Reader Reply) Coded.encode fun _ => True := by
  intro bytes reply rest
  change variant _ bytes = _ ↔ _
  rw [variant_eq_ok (by decide)]
  simp only [exists_case_cons,exists_case_nil,always_eq_ok,map_eq_ok,word_exact _ _ _,lockId_exact _ _ _]
  cases reply <;> simp [Coded.encode]

theorem callback_exact : Exact (Coded.reader : Reader Callback) Coded.encode fun _ => True := by
  intro bytes callback rest
  change variant _ bytes = _ ↔ _
  rw [variant_eq_ok (by decide)]
  simp only [exists_case_cons,exists_case_nil,map_eq_ok,lockId_exact _ _ _]
  cases callback <;> simp [Coded.encode]

theorem callbackReply_exact : Exact (Coded.reader : Reader CallbackReply) Coded.encode fun _ => True := by
  intro bytes reply rest
  change variant _ bytes = _ ↔ _
  rw [variant_eq_ok (by decide)]
  simp only [exists_case_cons,exists_case_nil,always_eq_ok]
  cases reply
  simp [Coded.encode]

theorem status_exact : Exact (Coded.reader : Reader Status) Coded.encode fun _ => True := by
  intro bytes status rest
  change variant _ bytes = _ ↔ _
  rw [variant_eq_ok (by decide)]
  simp only [exists_case_cons,exists_case_nil,always_eq_ok]
  cases status <;> simp [Coded.encode]

theorem lockState_exact : Exact (Coded.reader : Reader LockState) Coded.encode fun _ => True := by
  intro bytes state rest
  change variant _ bytes = _ ↔ _
  rw [variant_eq_ok (by decide)]
  simp only [exists_case_cons,exists_case_nil,always_eq_ok]
  cases state <;> simp [Coded.encode]

end Codec

namespace Coded
open Codec
variable {α : Type} [Coded α] {fits : α → Prop}

structure Faithful (α : Type) [Coded α] (fits : α → Prop) : Prop where
  read : ∀ bytes (message : α), decode bytes = .ok message ↔ fits message ∧ encode message <+: bytes
  survives : ∀ message : α, fits message → decode (encode message) = .ok message
  distinct : ∀ one two : α, fits one → fits two → encode one = encode two → one = two
  -- No octets are a message and the beginning of another.
  separate : ∀ one two : α, fits one → fits two → encode one <+: encode two → one = two

theorem decode_eq_ok (exact : Exact (reader : Reader α) encode fits) {bytes : Bytes} {message : α} :
    decode bytes = .ok message ↔ fits message ∧ encode message <+: bytes := by
  have read : decode bytes = .ok message ↔ ∃ rest, (reader : Reader α) bytes = .ok (message,rest) := by
    unfold decode
    cases (reader : Reader α) bytes with
    | error fault => exact ⟨nofun,nofun⟩
    | ok found => simp [Except.map,Prod.ext_iff]
  rw [read]
  constructor
  · rintro ⟨rest,taken⟩
    obtain ⟨fits,rfl⟩ := (exact _ _ _).mp taken
    exact ⟨fits,List.prefix_append _ _⟩
  · rintro ⟨fits,rest,rfl⟩
    exact ⟨rest,(exact _ _ _).mpr ⟨fits,rfl⟩⟩

theorem faithful (exact : Exact (reader : Reader α) encode fits) : Faithful α fits := by
  have separate (one two : α) (left : fits one) (right : fits two) (begins : encode one <+: encode two) : one = two := by
    have first := (decode_eq_ok exact).mpr ⟨left,begins⟩
    have second := (decode_eq_ok exact).mpr ⟨right,List.prefix_refl (encode two)⟩
    exact Except.ok.inj (first.symm.trans second)
  constructor
  · exact fun _ _ => decode_eq_ok exact
  · exact fun message fits => (decode_eq_ok exact).mpr ⟨fits,List.prefix_refl _⟩
  · exact fun one two left right same => separate one two left right (same ▸ List.prefix_refl _)
  · exact separate

-- All that goes over a connection, and what it is made of.
theorem every_kind_faithful :
    Faithful Request Request.Short ∧ Faithful Reply (fun _ => True) ∧ Faithful Callback (fun _ => True) ∧
      Faithful CallbackReply (fun _ => True) ∧ Faithful Status (fun _ => True) ∧ Faithful LockState (fun _ => True) ∧
      Faithful LockId (fun _ => True) ∧ Faithful ClientId fun client => Short client.name :=
  ⟨faithful request_exact,faithful reply_exact,faithful callback_exact,faithful callbackReply_exact,
    faithful status_exact,faithful lockState_exact,faithful lockId_exact,faithful clientId_exact⟩

def greeting : Request := .acquire ⟨7⟩ ⟨"Zoë 🔒"⟩

theorem every_kind_faithful_greeting :
    greeting.Short ∧ decode (encode greeting ++ [0xFF]) = .ok greeting ∧
      ∀ other : Request, other.Short → encode other <+: encode greeting → other = greeting := by
  have short : Short "Zoë 🔒" := by
    unfold Short
    decide
  have faithful := every_kind_faithful.1
  refine ⟨short,(faithful.read _ _).mpr ⟨short,List.prefix_append _ _⟩,?_⟩
  intro other fits begins
  exact faithful.separate other greeting fits short begins

end Coded
end LockLender
