import Mathlib.Algebra.Group.Nat.Defs
import LockLender.Proofs.Text.Utf8
import LockLender.Proofs.Toml.Document
import LockLender.Settings.File

namespace LockLender

namespace Settings
variable {ρ β : Type} {settings : List (Setting ρ)} {fields : Toml.Fields} {initial found : ρ}

theorem fromFields_same (view : ρ → β) (same : ∀ setting ∈ settings, ∀ node change,
      setting.toml node = some change → ∀ r, view (change r) = view r)
    (read : fromFields fields settings initial = some found) : view found = view initial := by
  induction settings generalizing initial with
  | nil =>
      cases read
      rfl
  | cons setting rest ih =>
      have others := fun one member => same one (List.mem_cons_of_mem _ member)
      unfold fromFields at read
      split at read
      · exact ih others read
      · rename_i node _
        obtain ⟨change,given,read⟩ := Option.bind_eq_some_iff.mp read
        rw [ih others read,same setting List.mem_cons_self node change given]

end Settings

namespace ClientSettings
open Toml
variable {directory server s : String} {threshold : UInt64} {found : ClientSettings} {fields : Fields}
  {b : Building} {fuel : Nat}

def readBack (directory server : String) (threshold : UInt64) : Except SettingsFault ClientSettings :=
  load (fileIn directory) (some (Utf8.encode (fileText server threshold)))

theorem readBack_eq : readBack directory server threshold =
    Settings.fromToml Settings.ofClient {} (fileText server threshold).toList := by
  have extension : FileName.extension? (fileIn directory) = some "toml" := by
    have name : FileName.last (fileIn directory).toList = "client.toml".toList := by
      unfold fileIn
      rw [String.toList_append]
      exact FileName.last_behind_slash (by decide)
    unfold FileName.extension?
    rw [name]
    decide
  unfold readBack load Settings.load
  dsimp only
  rw [Utf8.decode_eq_ok.mpr rfl,extension]
  rfl

def thresholdLine (threshold : UInt64) : List Char :=
  "release_threshold".toList ++ ' ' :: '=' :: ' ' :: (Nat.toDigits 10 threshold.toNat ++ ['\n'])

theorem thresholdLine_unquoted : '"' ∉ '\n' :: thresholdLine threshold := by
  have number : '"' ∉ Nat.toDigits 10 threshold.toNat := by
    intro member
    exact absurd (Nat.isDigit_of_mem_toDigits (by decide) (by decide) member) (by decide)
  unfold thresholdLine
  simp [number]

theorem fileText_toList : (fileText server threshold).toList = "server_addr".toList ++
    ' ' :: '=' :: ' ' :: '"' :: (server.toList ++ '"' :: '\n' :: thresholdLine threshold) := by
  unfold fileText thresholdLine Numeral.decimal
  simp

theorem statements_thresholdLine : statements (fuel + 2) b (thresholdLine threshold) =
    if threshold.toNat < 2 ^ 63 then b.pair ["release_threshold"] (.integer threshold.toNat) else none := by
  unfold thresholdLine
  rw [statements_line (List.all_eq_true.mp rfl) (by decide),skipBlanks_toDigits,value_toDigits]
  split
  · exact Option.bind_fun_some _
  · rfl

-- The first line gives the address whatever it holds, and the rest of the file
-- is read on from where its string ends.
theorem parse_fileText (server : String) (threshold : UInt64) : ∃ fuel, parse (fileText server threshold).toList =
    (string ('"' :: (server.toList ++ '"' :: '\n' :: thresholdLine threshold))).bind fun (s,rest) =>
      (lineEnd rest).bind fun rest =>
        (statements (fuel + 2) { current := [("server_addr",.text s)] } rest).bind Building.close := by
  have long : ∃ fuel, (fileText server threshold).toList.length = fuel + 2 := by
    rw [fileText_toList]
    exact ⟨_,rfl⟩
  obtain ⟨fuel,length⟩ := long
  refine ⟨fuel,?_⟩
  unfold parse
  split
  · rename_i marked
    rw [fileText_toList] at marked
    cases marked
  · dsimp only
    have quoted (length : Nat) (text : List Char) : value (length + 2) 0 (skipBlanks (' ' :: '"' :: text)) =
        (string ('"' :: text)).map fun (s,rest) => (.text s,rest) := value_string
    rw [length,fileText_toList,statements_line (List.all_eq_true.mp rfl) (by decide),quoted]
    rw [Option.bind_assoc,Option.bind_map]
    refine Option.bind_congr ?_
    rintro ⟨s,rest⟩ -
    exact Option.bind_assoc (lineEnd rest) _ _

def written (server : String) (threshold : UInt64) : Fields :=
  [("server_addr",.text server),("release_threshold",.integer threshold.toNat)]

theorem fromFields_written :
    Settings.fromFields (written server threshold) Settings.ofClient {} = some { server, threshold } := by
  have word : Settings.word.toml (.integer threshold.toNat) = some threshold := by
    have bound : (threshold.toNat : Int) < UInt64.size := Int.ofNat_lt.mpr threshold.toNat_lt
    unfold Settings.word
    dsimp only
    rw [if_pos ⟨Int.natCast_nonneg _,bound⟩,Int.toNat_natCast,UInt64.ofNat_toNat]
  simp [Settings.fromFields,Settings.ofClient,Settings.setting,written,Fields.find?_cons,Fields.find?_nil,word,
    Settings.text]

theorem server_of_fields (given : fields.find? "server_addr" = some (.text s))
    (read : Settings.fromFields fields Settings.ofClient {} = some found) : found.server = s := by
  unfold Settings.ofClient Settings.fromFields at read
  simp only [Settings.setting,given] at read
  obtain ⟨change,first,read⟩ := Option.bind_eq_some_iff.mp read
  cases first
  refine Settings.fromFields_same ClientSettings.server ?_ read
  intro setting member node change given r
  simp only [List.mem_cons,List.not_mem_nil,or_false] at member
  rcases member with rfl | rfl | rfl
  all_goals
    obtain ⟨value,-,rfl⟩ := Option.map_eq_some_iff.mp given
    rfl

theorem readBack_read (read : string ('"' :: (server.toList ++ '"' :: '\n' :: thresholdLine threshold)) =
      some (s,'\n' :: thresholdLine threshold)) : readBack directory server threshold =
    if threshold.toNat < 2 ^ 63 then .ok { server := s, threshold } else .error .toml := by
  obtain ⟨fuel,parsed⟩ := parse_fileText server threshold
  have line : lineEnd ('\n' :: thresholdLine threshold) = some (thresholdLine threshold) := rfl
  rw [read,Option.bind_some] at parsed
  dsimp only at parsed
  rw [line,Option.bind_some,statements_thresholdLine] at parsed
  rw [readBack_eq]
  unfold Settings.fromToml
  rw [parsed]
  by_cases fits : threshold.toNat < 2 ^ 63
  · have built : ({ current := [("server_addr",.text s)] } : Building).pair ["release_threshold"]
        (.integer threshold.toNat) = some { current := written s threshold } := rfl
    have closed : Building.close { current := written s threshold } = some (written s threshold) := rfl
    rw [if_pos fits,if_pos fits,built,Option.bind_some,closed,Option.bind_some,fromFields_written]
  · rw [if_neg fits,if_neg fits]
    rfl

theorem readBack_unread (unread : string ('"' :: (server.toList ++ '"' :: '\n' :: thresholdLine threshold)) = none) :
    readBack directory server threshold = .error .toml := by
  obtain ⟨fuel,parsed⟩ := parse_fileText server threshold
  rw [unread] at parsed
  rw [readBack_eq]
  unfold Settings.fromToml
  rw [parsed]
  rfl

theorem readBack_plain (plain : ∀ c ∈ server.toList, isPlain c) : readBack directory server threshold =
    if threshold.toNat < 2 ^ 63 then .ok { server, threshold } else .error .toml :=
  readBack_read (string_plain plain thresholdLine_unquoted)

-- The file has the address of its first line to the end, so the right one is
-- read only from the string of that line.
theorem plain_of_readBack (read : readBack directory server threshold = .ok found) (same : found.server = server) :
    ∀ c ∈ server.toList, isPlain c := by
  obtain ⟨fuel,parsed⟩ := parse_fileText server threshold
  rw [readBack_eq] at read
  unfold Settings.fromToml at read
  split at read
  · rename_i given
    cases read
    obtain ⟨fields,given,read⟩ := Option.bind_eq_some_iff.mp given
    rw [parsed] at given
    obtain ⟨⟨s,rest⟩,first,given⟩ := Option.bind_eq_some_iff.mp given
    obtain ⟨line,-,given⟩ := Option.bind_eq_some_iff.mp given
    obtain ⟨built,others,closed⟩ := Option.bind_eq_some_iff.mp given
    have keeps := (statements_keep others).trans (Building.close_keeps closed)
    have kept : fields.find? "server_addr" = some (.text s) := keeps "server_addr" (.text s) id rfl
    rw [server_of_fields kept read] at same
    rw [same] at first
    exact plain_of_string first thresholdLine_unquoted
  · cases read

theorem readBack_refused {fault : SettingsFault} (refused : readBack directory server threshold = .error fault) :
    fault = .toml := by
  rw [readBack_eq] at refused
  unfold Settings.fromToml at refused
  split at refused
  · cases refused
  · exact (Except.error.inj refused).symm

-- A written file reads back exactly if the address has none but plain
-- characters and the threshold is below 2^63. Else it is refused, or gives
-- another address.
theorem reads_back_iff :
    (readBack directory server threshold = .ok { server, threshold } ↔
      (∀ c ∈ server.toList, isPlain c) ∧ threshold.toNat < 2 ^ 63) ∧
    (readBack directory server threshold = .ok { server, threshold } ∨
      readBack directory server threshold = .error .toml ∨
      ∃ other, readBack directory server threshold = .ok other ∧ other.server ≠ server) := by
  refine ⟨⟨?_,?_⟩,?_⟩
  · intro read
    have plain := plain_of_readBack read rfl
    rw [readBack_plain plain] at read
    split at read
    · exact ⟨plain,‹_›⟩
    · cases read
  · rintro ⟨plain,fits⟩
    rw [readBack_plain plain,if_pos fits]
  · cases read : readBack directory server threshold with
    | error fault => exact .inr (.inl (congrArg _ (readBack_refused read)))
    | ok found =>
        by_cases same : found.server = server
        · rw [readBack_plain (plain_of_readBack read same)] at read
          split at read
          · exact .inl read.symm
          · cases read
        · exact .inr (.inr ⟨found,rfl,same⟩)

theorem reads_back_largest : readBack "/tmp" "[fe80::1]:7410\t" 9223372036854775807 =
    .ok { server := "[fe80::1]:7410\t", threshold := 9223372036854775807 } :=
  reads_back_iff.1.mpr ⟨List.all_eq_true.mp rfl,by decide⟩

-- A backslash is read with what follows it as another character, or not at all,
-- and a threshold of 64 bits is no number of the file's language.
theorem pasted_misread :
    readBack "/tmp" "db\\tower:7410" 2 = .ok { server := "db\tower:7410", threshold := 2 } ∧
    readBack "/tmp" "db\\locks:7410" 2 = .error .toml ∧
    readBack "/tmp" "127.0.0.1:7410" 9223372036854775808 = .error .toml := by
  refine ⟨?_,?_,?_⟩
  · rw [readBack_read rfl]
    rfl
  · exact readBack_unread rfl
  · rw [readBack_plain (List.all_eq_true.mp rfl)]
    rfl

end ClientSettings
end LockLender
