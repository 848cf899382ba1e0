import Ril.Ipc.NvDataLoad

/-! What is loaded after a process was killed while it was writing to the nv_data. -/

namespace Ril.Ipc

variable (specs : NvDataSpecs)

/-- The content of the backup, where it is valid -/
def savedBackup (files : Files NvPath) : Option Bytes :=
  if ipcNvDataBackupCheck specs files then files .nvDataBackup else none

/-- The content of the nv_data after a write -/
def written (old data : Bytes) (offset : ℕ) : Bytes := overwrite old (seekPosition specs.offBits offset) data

variable {specs} {files : Files NvPath} {old data : Bytes} {offset : ℕ}

lemma load_fst (files : Files NvPath) : (ipcNvDataLoad specs files).1 =
    if ipcNvDataCheck specs files then files .nvData else savedBackup specs files := by
  rcases @load_cases specs files with ⟨hv, h⟩ | ⟨hv, hb, h⟩ | ⟨hv, data, md5, hd, hm, hp, h⟩
  · have hc : ipcNvDataCheck specs files = true := pair_check_iff.mpr hv
    rw [h, (load_checked_eq hv).1, if_pos hc]
  · have hc : ¬ipcNvDataCheck specs files = true := fun hc => hv (pair_check_iff.mp hc)
    have hb' : ¬ipcNvDataBackupCheck specs files = true := fun hc => hb (pair_check_iff.mp hc)
    rw [h, if_neg hc, savedBackup, if_neg hb']
  · have hc : ¬ipcNvDataCheck specs files = true := fun hc => hv (pair_check_iff.mp hc)
    have hb' : ipcNvDataBackupCheck specs files = true := pair_check_iff.mpr ⟨data, md5, hd, hm, hp⟩
    rw [h, (load_checked_eq (restored_valid hp.length)).1, if_neg hc, savedBackup, if_pos hb', hd]
    rfl

lemma saved_backup_congr {files' : Files NvPath} (h : files' .nvDataBackup = files .nvDataBackup)
    (h' : files' .nvDataBackupMd5 = files .nvDataBackupMd5) : savedBackup specs files' = savedBackup specs files := by
  have hc : ipcNvDataBackupCheck specs files' = ipcNvDataBackupCheck specs files := by
    rw [Bool.eq_iff_iff]
    have hiff {f : Files NvPath} : ipcNvDataBackupCheck specs f = true ↔
        Valid specs f .nvDataBackup .nvDataBackupMd5 := pair_check_iff
    rw [hiff, hiff, Valid, Valid, h, h']
  rw [savedBackup, savedBackup, hc, h]

lemma md5_calculate_take {path : NvPath} (h : files path = some old) (hl : specs.size ≤ old.length) :
    ipcNvDataMd5Calculate specs files path = some (digestString specs (old.take specs.size)) := by
  rw [ipcNvDataMd5Calculate, file_data_read_eq h size_pos specs.chunkSize_pos specs.chunkSize_le, seek_position_zero,
    if_pos (by omega), List.drop_zero]
  exact data2string_digest _

lemma written_length (h : old.length = specs.size) (data : Bytes) (offset : ℕ) :
    specs.size ≤ (written specs old data offset).length := by
  simp only [written, overwrite, List.length_append, List.length_take, List.length_replicate, List.length_drop]
  omega

lemma written_fits (h : old.length = specs.size)
    (hf : seekPosition specs.offBits offset + data.length ≤ specs.size) :
    (written specs old data offset).length = specs.size := (overwrite_length (h ▸ hf)).trans h

lemma data_write_eq (h : files .nvData = some old) (hd : data ≠ []) :
    nvWriteStep specs data offset files .dataWrite =
      some (Function.update files .nvData (some (written specs old data offset))) := by
  have hp : 0 < data.length := List.length_pos_iff.mpr hd
  have hc := specs.chunkSize_pos
  rw [nvWriteStep, file_data_write_eq hd, h]
  · rfl
  · split <;> omega
  · split <;> omega

lemma killed_eq {md5 : Bytes} (h : files .nvData = some old) (hl : old.length = specs.size)
    (hm : files .nvDataMd5 = some md5) (hd : data ≠ []) :
    ipcNvDataWriteKilled specs data offset 0 files = files ∧
    ipcNvDataWriteKilled specs data offset 1 files =
      Function.update files .nvData (some (written specs old data offset)) ∧
    ipcNvDataWriteKilled specs data offset 2 files =
      unlink (Function.update files .nvData (some (written specs old data offset))) .nvDataMd5 ∧
    ipcNvDataWriteKilled specs data offset 3 files =
      Function.update (Function.update files .nvData (some (written specs old data offset))) .nvDataMd5
        (some (digestString specs ((written specs old data offset).take specs.size))) ∧
    (ipcNvDataWrite specs data offset files).1 = true ∧
    (ipcNvDataWrite specs data offset files).2 = ipcNvDataWriteKilled specs data offset 3 files := by
  have hp : pathCheck specs files .nvData = true := path_check_iff.mpr ⟨old, h, hl⟩
  have hw := written_length hl data offset
  have h1 := @data_write_eq specs files old data offset h hd
  have hmd5 : (Function.update files .nvData (some (written specs old data offset))) .nvDataMd5 = some md5 := hm
  have hcalc : ipcNvDataMd5Calculate specs (Function.update files .nvData (some (written specs old data offset)))
      .nvData = some (digestString specs ((written specs old data offset).take specs.size)) := md5_calculate_take rfl hw
  have h2 : nvWriteStep specs data offset (Function.update files .nvData (some (written specs old data offset)))
      .md5Unlink = some (unlink (Function.update files .nvData (some (written specs old data offset))) .nvDataMd5) := by
    simp only [nvWriteStep, hcalc, hmd5]
  have hcalc' : ipcNvDataMd5Calculate specs
      (unlink (Function.update files .nvData (some (written specs old data offset))) .nvDataMd5) .nvData =
        some (digestString specs ((written specs old data offset).take specs.size)) := md5_calculate_take rfl hw
  have h3 : nvWriteStep specs data offset
      (unlink (Function.update files .nvData (some (written specs old data offset))) .nvDataMd5) .md5Write =
        some (Function.update (Function.update files .nvData (some (written specs old data offset))) .nvDataMd5
          (some (digestString specs ((written specs old data offset).take specs.size)))) := by
    have hne : digestString specs ((written specs old data offset).take specs.size) ≠ [] := by
      intro h0
      have hl := @digest_length specs ((written specs old data offset).take specs.size)
      rw [h0] at hl
      cases hl
    simp only [nvWriteStep, hcalc']
    exact write_new hne (List.length_pos_iff.mpr hne) (Nat.le_refl _)
  simp only [ipcNvDataWriteKilled, ipcNvDataWrite, hp, Bool.not_true, Bool.false_eq_true, if_false, nvWriteOrder,
    List.take_zero, List.take_succ_cons, List.take_nil, nvWriteSteps, h1, h2, h3, and_self]

lemma not_valid_unlinked (files : Files NvPath) : ipcNvDataCheck specs (unlink files .nvDataMd5) = false := by
  refine Bool.eq_false_iff.mpr fun h => ?_
  obtain ⟨-, md5, -, hm, -⟩ := pair_check_iff.mp h
  cases hm

/-- After a process was killed in a write, what is loaded is the content before the write if it had not begun, and
the content after it if it had ended and the write fits. In between the digest is that of the old content or is
missing: unless it happens to fit, the backup is loaded, if there is a valid one. A write that does not fit leaves
only the backup. -/
theorem nv_data_killed (specs : NvDataSpecs) (files : Files NvPath) (old md5 data : Bytes) (offset : ℕ)
    (h : files .nvData = some old) (hm : files .nvDataMd5 = some md5) (hv : PairValid specs old md5) :
    (ipcNvDataLoad specs (ipcNvDataWriteKilled specs data offset 0 files)).1 = some old ∧
    (data = [] → ∀ k, (ipcNvDataLoad specs (ipcNvDataWriteKilled specs data offset k files)).1 = some old) ∧
    (data ≠ [] → seekPosition specs.offBits offset + data.length ≤ specs.size →
      (ipcNvDataLoad specs (ipcNvDataWriteKilled specs data offset 1 files)).1 =
        (if digestString specs (written specs old data offset) = digestString specs old then
          some (written specs old data offset) else savedBackup specs files) ∧
      (ipcNvDataLoad specs (ipcNvDataWriteKilled specs data offset 2 files)).1 = savedBackup specs files ∧
      (ipcNvDataLoad specs (ipcNvDataWriteKilled specs data offset 3 files)).1 =
        some (written specs old data offset)) ∧
    (data ≠ [] → specs.size < seekPosition specs.offBits offset + data.length → ∀ k, 0 < k → k ≤ 3 →
      (ipcNvDataLoad specs (ipcNvDataWriteKilled specs data offset k files)).1 = savedBackup specs files) := by
  have hcheck : ipcNvDataCheck specs files = true := pair_check_iff.mpr ⟨old, md5, h, hm, hv⟩
  have hload : (ipcNvDataLoad specs files).1 = some old := by rw [load_fst, if_pos hcheck, h]
  have hp : pathCheck specs files .nvData = true := path_check_iff.mpr ⟨old, h, hv.length⟩
  have hsaved (f : Option Bytes) (f' : Option Bytes) :
      savedBackup specs (Function.update (Function.update files .nvData f) .nvDataMd5 f') = savedBackup specs files :=
    saved_backup_congr rfl rfl
  have hvalid {d : Bytes} {m : Option Bytes} : ipcNvDataCheck specs
      (Function.update (Function.update files .nvData (some d)) .nvDataMd5 m) = true ↔
        ∃ m', m = some m' ∧ PairValid specs d m' := by
    refine pair_check_iff.trans ⟨?_, ?_⟩
    · rintro ⟨d', m', hd', hm', hv'⟩
      cases hd'
      exact ⟨m', hm', hv'⟩
    · rintro ⟨m', rfl, hv'⟩
      exact ⟨d, m', rfl, rfl, hv'⟩
  have hkept (d : Option Bytes) : Function.update files .nvData d =
      Function.update (Function.update files .nvData d) .nvDataMd5 (some md5) := by
    rw [eq_comm, Function.update_eq_self_iff]
    exact hm.symm
  refine ⟨?_, ?_, fun hd hf => ?_, fun hd hf => ?_⟩
  · simpa [ipcNvDataWriteKilled, hp, nvWriteSteps] using hload
  · rintro rfl k
    have hk : ipcNvDataWriteKilled specs [] offset k files = files := by
      rw [ipcNvDataWriteKilled, hp]
      cases k with
      | zero => rfl
      | succ k => rfl
    rw [hk, hload]
  · obtain ⟨-, h1, h2, h3, -⟩ := @killed_eq specs files old data offset md5 h hv.length hm hd
    have hlen := written_fits hv.length hf
    refine ⟨?_, ?_, ?_⟩
    · have hiff : ipcNvDataCheck specs (Function.update (Function.update files .nvData
          (some (written specs old data offset))) .nvDataMd5 (some md5)) = true ↔
            digestString specs (written specs old data offset) = digestString specs old := by
        rw [hvalid, ← hv.digest]
        constructor
        · rintro ⟨m', hm', hv'⟩
          cases hm'
          exact hv'.digest.symm
        · exact fun he => ⟨md5, rfl, hlen, he.symm⟩
      rw [h1, hkept, load_fst, hsaved]
      by_cases he : digestString specs (written specs old data offset) = digestString specs old
      · rw [if_pos (hiff.mpr he), if_pos he]
        rfl
      · rw [if_neg (fun hc => he (hiff.mp hc)), if_neg he]
    · rw [h2, load_fst, not_valid_unlinked]
      exact hsaved _ none
    · have hv3 : ipcNvDataCheck specs (Function.update (Function.update files .nvData
          (some (written specs old data offset))) .nvDataMd5
            (some (digestString specs ((written specs old data offset).take specs.size)))) = true := by
        refine hvalid.mpr ⟨_, rfl, hlen, ?_⟩
        rw [List.take_of_length_le (Nat.le_of_eq hlen), List.take_of_length_le (Nat.le_of_eq (digest_length _))]
      rw [h3, load_fst, if_pos hv3]
      rfl
  · obtain ⟨-, h1, h2, h3, -⟩ := @killed_eq specs files old data offset md5 h hv.length hm hd
    have hlong : (written specs old data offset).length ≠ specs.size := by
      simp only [written, overwrite, List.length_append, List.length_take, List.length_replicate, List.length_drop]
      omega
    have hbad (m : Option Bytes) : ¬ipcNvDataCheck specs (Function.update (Function.update files .nvData
        (some (written specs old data offset))) .nvDataMd5 m) = true := by
      rw [hvalid]
      rintro ⟨m', -, hv'⟩
      exact hlong hv'.length
    intro k hk0 hk3
    obtain rfl | rfl | rfl : k = 1 ∨ k = 2 ∨ k = 3 := by omega
    · rw [h1, hkept, load_fst, if_neg (hbad _), hsaved]
    · rw [h2, load_fst, not_valid_unlinked]
      exact hsaved _ none
    · rw [h3, load_fst, if_neg (hbad _), hsaved]

/-! ### A store of two bytes -/

/-- The MD5 of three strings, which is all that is needed of it below -/
def md5Examples (data : Bytes) : Bytes :=
  if data = [0x00, 0x00, 0x53] then
    [0xc1, 0xa6, 0x2e, 0x5e, 0x6d, 0x2b, 0x2a, 0xba, 0x02, 0xa4, 0x0f, 0xcd, 0xbb, 0x1d, 0x4c, 0x14]
  else if data = [0x01, 0x00, 0x53] then
    [0x78, 0x03, 0x97, 0x5e, 0x44, 0x16, 0x7d, 0x50, 0xc5, 0xf2, 0x8c, 0x84, 0xae, 0x5c, 0x64, 0xd3]
  else if data = [0x09, 0x09, 0x53] then
    [0x3a, 0x59, 0xcb, 0xf0, 0xaa, 0x61, 0x77, 0x00, 0x63, 0xad, 0xb5, 0x30, 0x37, 0xfd, 0x21, 0xd7]
  else List.replicate 16 0

def twoBytes : NvDataSpecs where
  secret := [0x53]
  size := 2
  chunkSize := 1
  offBits := 64
  md5 := md5Examples
  chunkSize_pos := by decide
  chunkSize_le := by decide
  size_le := by decide
  md5_length := by
    intro data
    simp only [md5Examples]
    split_ifs <;> rfl

/-- A valid store, with a backup or without one -/
def twoBytesFiles (backup : Option Bytes) : Files NvPath
  | .nvData => some [0x00, 0x00]
  | .nvDataMd5 => some (digestString twoBytes [0x00, 0x00])
  | .nvDataBackup => backup
  | .nvDataBackupMd5 => backup.map (digestString twoBytes)

lemma two_bytes_valid : PairValid twoBytes [0x00, 0x00] (digestString twoBytes [0x00, 0x00]) := ⟨by decide, by decide⟩

theorem nv_data_killed_two_bytes : (ipcNvDataLoad twoBytes
    (ipcNvDataWriteKilled twoBytes [0x01] 0 3 (twoBytesFiles none))).1 = some [0x01, 0x00] :=
  ((nv_data_killed twoBytes (twoBytesFiles none) _ _ [0x01] 0 rfl rfl two_bytes_valid).2.2.1 (by decide) (by decide)).2.2

/-- A process killed between the write of the data and the unlink of the digest leaves an older state, or nothing
that can be loaded. -/
theorem nv_data_killed_fails :
    (Valid twoBytes (twoBytesFiles (some [0x09, 0x09])) .nvData .nvDataMd5 ∧
      (ipcNvDataLoad twoBytes (ipcNvDataWriteKilled twoBytes [0x01] 0 1 (twoBytesFiles (some [0x09, 0x09])))).1 =
        some [0x09, 0x09]) ∧
    Valid twoBytes (twoBytesFiles none) .nvData .nvDataMd5 ∧
      (ipcNvDataLoad twoBytes (ipcNvDataWriteKilled twoBytes [0x01] 0 1 (twoBytesFiles none))).1 = none :=
  ⟨⟨⟨_, _, rfl, rfl, two_bytes_valid⟩, by decide⟩, ⟨_, _, rfl, rfl, two_bytes_valid⟩, by decide⟩

end Ril.Ipc
