import Ril.Ipc.FileFaults
import Ril.Ipc.NvDataKilled

/-! What a write to the nv_data leaves behind when one of its steps fails. -/

namespace Ril.Ipc

/-- What the operating system does in one `ipc_nv_data_write` -/
structure NvWriteCalls where
  statted : Bool
  dataWrite : FileCalls
  digestRead : FileCalls
  unlinked : Bool
  md5Write : FileCalls

section

variable (specs : NvDataSpecs)

def ipcNvDataMd5CalculateWith (calls : FileCalls) (files : Files NvPath) (path : NvPath) : Option CString :=
  match fileDataReadWith calls specs.offBits files path specs.size specs.chunkSize 0 with
  | none => none
  | some data => data2string (specs.md5 (data ++ specs.secret))

/-- `chunk_size > size ? size : chunk_size` -/
def nvWriteChunk (size : ℕ) : ℕ := if specs.chunkSize > size then size else specs.chunkSize

def ipcNvDataWriteWith (calls : NvWriteCalls) (data : Bytes) (offset : ℕ) (files : Files NvPath) :
    Bool × Files NvPath :=
  if !(calls.statted && pathCheck specs files .nvData) then (false, files)
  else
    let wrote := fileDataWriteWith calls.dataWrite specs.offBits files .nvData data (nvWriteChunk specs data.length) offset
    if !wrote.1 then wrote
    else
      let files := wrote.2
      match ipcNvDataMd5CalculateWith specs calls.digestRead files .nvData with
      | none => (false, files)
      | some md5String =>
        if !(calls.unlinked && (files .nvDataMd5).isSome) then (false, files)
        else fileDataWriteWith calls.md5Write specs.offBits (unlink files .nvDataMd5) .nvDataMd5 md5String
          md5String.length 0

/-- How many bytes of the data are in the file when the data write ends -/
def dataWritten (calls : NvWriteCalls) (data : Bytes) (offset : ℕ) : ℕ :=
  calls.dataWrite.count specs.offBits offset (nvWriteChunk specs data.length) data.length

/-- A failure that comes before the old digest is removed, and before a byte of the nv_data is changed -/
def HarmlessFailure (calls : NvWriteCalls) (old data : Bytes) (offset : ℕ) : Prop :=
  calls.statted = false ∨ data = [] ∨
    data.take (dataWritten specs calls data offset) <+: old.drop (seekPosition specs.offBits offset) ∧
      (dataWritten specs calls data offset < data.length ∨
        calls.digestRead.count specs.offBits 0 specs.chunkSize specs.size < specs.size ∨ calls.unlinked = false)

end

variable {specs : NvDataSpecs} {calls : NvWriteCalls} {files : Files NvPath} {old md5 data : Bytes} {offset : ℕ}

/-- No step of the write fails. -/
structure NvWriteCalls.Succeed (calls : NvWriteCalls) : Prop where
  statted : calls.statted = true
  dataWrite : calls.dataWrite.Succeed
  digestRead : calls.digestRead.Succeed
  unlinked : calls.unlinked = true
  md5Write : calls.md5Write.Succeed

lemma digest_with_succeeds {calls : FileCalls} (h : calls.Succeed) {path : NvPath} :
    ipcNvDataMd5CalculateWith specs calls files path = ipcNvDataMd5Calculate specs files path := by
  rw [ipcNvDataMd5CalculateWith, read_with_succeeds h]
  rfl

/-- Without a failure, and however the data is cut into pieces, the write is the one of the files that do not fail. -/
theorem nv_data_write_with_succeeds (h : calls.Succeed) :
    ipcNvDataWriteWith specs calls data offset files = ipcNvDataWrite specs data offset files := by
  rw [ipcNvDataWriteWith, ipcNvDataWrite, h.statted, Bool.true_and]
  cases hp : pathCheck specs files .nvData with
  | false => rfl
  | true =>
    simp only [Bool.not_true, Bool.false_eq_true, if_false, nvWriteOrder, nvWriteSteps, nvWriteStep,
      write_with_succeeds h.dataWrite, digest_with_succeeds h.digestRead, write_with_succeeds h.md5Write, h.unlinked,
      Bool.true_and, nvWriteChunk]
    cases fileDataWrite specs.offBits files .nvData data
        (if specs.chunkSize > data.length then data.length else specs.chunkSize) offset with
    | none => rfl
    | some written =>
      simp only [Option.elim_some, Bool.not_true, Bool.false_eq_true, if_false]
      have hsame : ipcNvDataMd5Calculate specs (unlink written .nvDataMd5) .nvData =
          ipcNvDataMd5Calculate specs written .nvData := rfl
      cases hd : ipcNvDataMd5Calculate specs written .nvData with
      | none => rfl
      | some md5String =>
        rcases Option.eq_none_or_eq_some (written .nvDataMd5) with hm | ⟨md5, hm⟩
        · simp only [hm, Option.isSome_none, Bool.not_false, if_true]
        · simp only [hm, Option.isSome_some, Bool.not_true, Bool.false_eq_true, if_false, hsame, hd]
          cases fileDataWrite specs.offBits (unlink written .nvDataMd5) .nvDataMd5 md5String md5String.length 0 with
          | none => rfl
          | some files => rfl

/-! ### What a failure leaves -/

lemma overwrite_self_iff {file : Bytes} {position : ℕ} (hd : data ≠ []) :
    overwrite file position data = file ↔ data <+: file.drop position := by
  have hpos : 0 < data.length := List.length_pos_iff.mpr hd
  constructor
  · intro h
    have hlen := congrArg List.length h
    simp only [overwrite, List.length_append, List.length_take, List.length_replicate, List.length_drop] at hlen
    have hp : position ≤ file.length := by omega
    have ht : (file.take position).length = position := by rw [List.length_take, Nat.min_eq_left hp]
    have hdrop := congrArg (List.drop position) h
    rw [overwrite_inside data hp, List.drop_left' ht] at hdrop
    exact ⟨_, hdrop⟩
  · rintro ⟨rest, h⟩
    have hlen := congrArg List.length h
    simp only [List.length_append, List.length_drop] at hlen
    have hrest : file.drop (position + data.length) = rest := by
      rw [← List.drop_drop, ← h, List.drop_left]
    rw [overwrite_inside data (by omega), hrest, h, List.take_append_drop]

lemma nv_write_chunk_pos (hd : data ≠ []) : 0 < nvWriteChunk specs data.length := by
  have hpos : 0 < data.length := List.length_pos_iff.mpr hd
  have hc := specs.chunkSize_pos
  rw [nvWriteChunk]
  split <;> omega

lemma nv_write_chunk_le : nvWriteChunk specs data.length ≤ data.length := by
  rw [nvWriteChunk]
  split <;> omega

lemma digest_with_eq {calls : FileCalls} (h : files .nvData = some old) (hl : specs.size ≤ old.length) :
    ipcNvDataMd5CalculateWith specs calls files .nvData =
      if calls.count specs.offBits 0 specs.chunkSize specs.size = specs.size then
        some (digestString specs (old.take specs.size))
      else none := by
  rw [ipcNvDataMd5CalculateWith, read_with_eq h size_pos specs.chunkSize_pos specs.chunkSize_le
    (by rw [seek_position_zero]; omega), seek_position_zero, List.drop_zero]
  by_cases hc : calls.count specs.offBits 0 specs.chunkSize specs.size = specs.size
  · rw [if_pos hc, if_pos hc]
    exact data2string_digest _
  · rw [if_neg hc, if_neg hc]

/-- The files are as they were, and they are still valid. -/
def NvDataKept (specs : NvDataSpecs) (files files' : Files NvPath) : Prop :=
  files' .nvData = files .nvData ∧ files' .nvDataMd5 = files .nvDataMd5 ∧ ipcNvDataCheck specs files' = true

lemma kept_refl (h : Valid specs files .nvData .nvDataMd5) : NvDataKept specs files files :=
  ⟨rfl, rfl, pair_check_iff.mpr h⟩

/-- The files after the data write -/
def dataWriteFiles (specs : NvDataSpecs) (calls : NvWriteCalls) (files : Files NvPath) (old data : Bytes)
    (offset : ℕ) : Files NvPath :=
  if dataWritten specs calls data offset = 0 then files
  else Function.update files .nvData
    (some (written specs old (data.take (dataWritten specs calls data offset)) offset))

lemma data_write_with_eq (h : files .nvData = some old) (hd : data ≠ []) :
    fileDataWriteWith calls.dataWrite specs.offBits files .nvData data (nvWriteChunk specs data.length) offset =
      (decide (dataWritten specs calls data offset = data.length), dataWriteFiles specs calls files old data offset) :=
  write_with_eq h hd (nv_write_chunk_pos hd) nv_write_chunk_le

lemma data_write_md5 : dataWriteFiles specs calls files old data offset .nvDataMd5 = files .nvDataMd5 := by
  rw [dataWriteFiles]
  split <;> rfl

/-- The digest of what was written is calculated unless one of the calls that read it fails. -/
lemma digest_of_written (h : files .nvData = some old) (hl : old.length = specs.size) (calls : NvWriteCalls)
    (data : Bytes) (offset : ℕ) (calls' : FileCalls) :
    ipcNvDataMd5CalculateWith specs calls' (dataWriteFiles specs calls files old data offset) .nvData = none ∧
      calls'.count specs.offBits 0 specs.chunkSize specs.size < specs.size ∨
    ∃ content, ipcNvDataMd5CalculateWith specs calls' (dataWriteFiles specs calls files old data offset) .nvData =
        some (digestString specs content) ∧
      ¬calls'.count specs.offBits 0 specs.chunkSize specs.size < specs.size := by
  have hfile : ∃ content, dataWriteFiles specs calls files old data offset .nvData = some content ∧
      specs.size ≤ content.length := by
    rw [dataWriteFiles]
    split
    · exact ⟨old, h, Nat.le_of_eq hl.symm⟩
    · exact ⟨_, Function.update_self _ _ _, written_length hl _ _⟩
  obtain ⟨content, hc, hlen⟩ := hfile
  have hle : calls'.count specs.offBits 0 specs.chunkSize specs.size ≤ specs.size := count_le
  rw [digest_with_eq hc hlen]
  by_cases hcount : calls'.count specs.offBits 0 specs.chunkSize specs.size = specs.size
  · rw [if_pos hcount]
    exact .inr ⟨_, rfl, by omega⟩
  · rw [if_neg hcount]
    exact .inl ⟨rfl, by omega⟩

/-- When the new digest cannot be written, the old one is gone. -/
lemma md5_write_not_kept {calls : FileCalls} {files' : Files NvPath} {content : Bytes}
    (hm : files .nvDataMd5 = some md5) (hv : PairValid specs old md5)
    (hf : (fileDataWriteWith calls specs.offBits (unlink files' .nvDataMd5) .nvDataMd5 (digestString specs content)
      (digestString specs content).length 0).1 = false) :
    ¬NvDataKept specs files (fileDataWriteWith calls specs.offBits (unlink files' .nvDataMd5) .nvDataMd5
      (digestString specs content) (digestString specs content).length 0).2 := by
  rintro ⟨-, hmd5, -⟩
  have hpos : 0 < (digestString specs content).length := by
    rw [digest_length]
    decide
  have hlt := write_with_new (Function.update_self _ _ _) hpos hf (hmd5.trans hm)
  have hlen := congrArg List.length hv.digest
  rw [List.length_take, digest_length] at hlen
  rw [digest_length] at hlt
  omega

/-- After the data write the store is as it was exactly when the bytes that were written had been there. -/
lemma kept_data_write_iff (h : files .nvData = some old) (hm : files .nvDataMd5 = some md5)
    (hv : PairValid specs old md5) (hd : data ≠ []) :
    NvDataKept specs files (dataWriteFiles specs calls files old data offset) ↔
      data.take (dataWritten specs calls data offset) <+: old.drop (seekPosition specs.offBits offset) := by
  have hkept : NvDataKept specs files files := kept_refl ⟨old, md5, h, hm, hv⟩
  rw [dataWriteFiles]
  by_cases h0 : dataWritten specs calls data offset = 0
  · rw [if_pos h0, h0, List.take_zero]
    exact iff_of_true hkept (List.nil_prefix)
  · have hne : data.take (dataWritten specs calls data offset) ≠ [] := by
      rw [ne_eq, List.take_eq_nil_iff]
      exact fun hor => hor.elim h0 hd
    rw [if_neg h0, ← overwrite_self_iff hne]
    constructor
    · rintro ⟨hdata, -, -⟩
      rw [Function.update_self, h, Option.some.injEq] at hdata
      exact hdata
    · intro hsame
      rw [written, hsame, ← h, Function.update_eq_self]
      exact hkept

/-- When `ipc_nv_data_write` fails on a valid store, the store is as it was exactly when the failure came before the
old digest was removed, and everything that had been written to the nv_data by then had been there. -/
theorem nv_data_write_failure (specs : NvDataSpecs) (calls : NvWriteCalls) (files : Files NvPath)
    (old md5 data : Bytes) (offset : ℕ) (h : files .nvData = some old) (hm : files .nvDataMd5 = some md5)
    (hv : PairValid specs old md5) (hf : (ipcNvDataWriteWith specs calls data offset files).1 = false) :
    NvDataKept specs files (ipcNvDataWriteWith specs calls data offset files).2 ↔
      HarmlessFailure specs calls old data offset := by
  have hkept : NvDataKept specs files files := kept_refl ⟨old, md5, h, hm, hv⟩
  have hp : pathCheck specs files .nvData = true := path_check_iff.mpr ⟨old, h, hv.length⟩
  rw [ipcNvDataWriteWith, hp, Bool.and_true] at hf ⊢
  rw [HarmlessFailure]
  cases hs : calls.statted with
  | false => exact iff_of_true (by simpa [hs] using hkept) (.inl rfl)
  | true =>
    rw [hs] at hf
    by_cases hd : data = []
    · refine iff_of_true ?_ (.inr (.inl hd))
      subst hd
      exact hkept
    · simp only [Bool.not_true, Bool.false_eq_true, if_false, data_write_with_eq h hd, false_or, hd] at hf ⊢
      have hiff := @kept_data_write_iff specs calls files old md5 data offset h hm hv hd
      by_cases hn : dataWritten specs calls data offset = data.length
      · simp only [hn, decide_true, Bool.not_true, Bool.false_eq_true, if_false, Nat.lt_irrefl, false_or,
          data_write_md5, hm, Option.isSome_some, Bool.and_true] at hf hiff ⊢
        rcases digest_of_written h hv.length calls data offset calls.digestRead with ⟨hnone, hcount⟩ | ⟨content, hsome, hcount⟩
        · simp only [hnone, hiff, hcount, true_or, and_true, Bool.true_eq_false, false_or]
        · rw [hsome] at hf ⊢
          cases hu : calls.unlinked with
          | false => simp [hiff]
          | true =>
            simp only [hu, Bool.not_true, Bool.false_eq_true, if_false] at hf
            simp only [Bool.not_true, Bool.false_eq_true, if_false, Bool.true_eq_false, hcount, or_self, and_false,
              iff_false]
            exact md5_write_not_kept hm hv hf
      · have hlt : dataWritten specs calls data offset < data.length := by
          have hle : dataWritten specs calls data offset ≤ data.length := count_le
          omega
        simp only [hn, decide_false, Bool.not_false, if_true, hiff, hlt, true_or, and_true,
          Bool.true_eq_false, false_or]

def callsSucceed : FileCalls := ⟨true, true, fun _ => 1⟩

/-- The data write fails at its first round. -/
theorem nv_data_write_failure_early : NvDataKept twoBytes (twoBytesFiles none) (ipcNvDataWriteWith twoBytes
    ⟨true, ⟨true, true, fun _ => -1⟩, callsSucceed, true, callsSucceed⟩ [0x01, 0x01] 0 (twoBytesFiles none)).2 :=
  (nv_data_write_failure twoBytes _ _ _ _ [0x01, 0x01] 0 rfl rfl two_bytes_valid (by decide)).mpr
    (.inr (.inr ⟨by decide, .inl (by decide)⟩))

/-- The last step fails, so the modem is told that nothing was written; but the byte is in the nv_data, and its digest
is gone. -/
theorem nv_data_write_failure_late :
    Valid twoBytes (twoBytesFiles none) .nvData .nvDataMd5 ∧
    let result := ipcNvDataWriteWith twoBytes
      ⟨true, callsSucceed, callsSucceed, true, ⟨false, true, fun _ => 1⟩⟩ [0x01] 0 (twoBytesFiles none)
    result.1 = false ∧ result.2 .nvData = some [0x01, 0x00] ∧ result.2 .nvDataMd5 = none ∧
      ipcNvDataCheck twoBytes result.2 = false :=
  ⟨⟨_, _, rfl, rfl, two_bytes_valid⟩, by decide⟩

end Ril.Ipc

/-! Whether a backup that could be restored is there after `ipc_nv_data_load`. -/

namespace Ril.Ipc

/-- The files after the nv_data and its digest have become anything, or are gone. The backup is not touched. -/
def corrupted (files : Files NvPath) (nvData nvDataMd5 : Option Bytes) : Files NvPath :=
  Function.update (Function.update files .nvData nvData) .nvDataMd5 nvDataMd5

variable {specs : NvDataSpecs} {files : Files NvPath} {data md5 : Bytes}

lemma backup_check_iff : ipcNvDataBackupCheck specs files = true ↔
    Valid specs files .nvDataBackup .nvDataBackupMd5 := pair_check_iff

lemma backup_valid (hd : files .nvData = some data) (hl : data.length = specs.size) :
    Valid specs (ipcNvDataBackup specs files).2 .nvDataBackup .nvDataBackupMd5 := by
  rw [backup_eq hd hl]
  exact ⟨data, digestString specs data, rfl, rfl, hl, List.take_of_length_le (Nat.le_of_eq (digest_length data))⟩

/-- The end of the load leaves a valid backup when it makes one, and otherwise the backup that was there. -/
lemma load_checked_backup (h : Valid specs files .nvData .nvDataMd5) :
    Valid specs (ipcNvDataLoadChecked specs files).2 .nvDataBackup .nvDataBackupMd5 ↔
      pathCheck specs files .nvDataBackup = false ∨ Valid specs files .nvDataBackup .nvDataBackupMd5 := by
  obtain ⟨data, md5, hd, hm, hv⟩ := h
  by_cases hp : pathCheck specs files .nvDataBackup = true
  · simp [ipcNvDataLoadChecked, hp]
  · have hf : pathCheck specs files .nvDataBackup = false := Bool.eq_false_iff.mpr hp
    simp only [ipcNvDataLoadChecked, hf, Bool.not_false, if_true, true_or, iff_true]
    exact backup_valid hd hv.length

/-- Every corruption can be restored exactly when the backup is valid: the worst is that the nv_data is gone. -/
lemma restorable_iff : (∀ nvData nvDataMd5, (ipcNvDataLoad specs (corrupted files nvData nvDataMd5)).1.isSome = true) ↔
    Valid specs files .nvDataBackup .nvDataBackupMd5 := by
  have hb (a b : Option Bytes) : Valid specs (corrupted files a b) .nvDataBackup .nvDataBackupMd5 ↔
      Valid specs files .nvDataBackup .nvDataBackupMd5 := Iff.rfl
  constructor
  · intro h
    rcases (load_isSome_iff _).mp (h none none) with ⟨data, md5, hd, -, -⟩ | hv
    · cases hd
    · exact (hb none none).mp hv
  · exact fun h a b => (load_isSome_iff _).mpr (.inr ((hb a b).mpr h))

/-- A load that succeeds ends with a backup that passes its check, so that every later corruption of the nv_data is
restored, exactly when the backup was valid before or was not of the right size. A backup of the right size that does
not fit its digest is kept. -/
theorem backup_after_load (specs : NvDataSpecs) (files : Files NvPath)
    (h : (ipcNvDataLoad specs files).1.isSome = true) :
    (ipcNvDataBackupCheck specs (ipcNvDataLoad specs files).2 = true ↔
      pathCheck specs files .nvDataBackup = false ∨ ipcNvDataBackupCheck specs files = true) ∧
    ((∀ nvData nvDataMd5,
        (ipcNvDataLoad specs (corrupted (ipcNvDataLoad specs files).2 nvData nvDataMd5)).1.isSome = true) ↔
      pathCheck specs files .nvDataBackup = false ∨ ipcNvDataBackupCheck specs files = true) := by
  rw [restorable_iff, backup_check_iff, backup_check_iff, and_self]
  rcases @load_cases specs files with ⟨hv, hl⟩ | ⟨-, -, hl⟩ | ⟨-, data, md5, hd, hm, hp, hl⟩
  · rw [hl]
    exact load_checked_backup hv
  · rw [hl] at h
    cases h
  · have hb : Valid specs files .nvDataBackup .nvDataBackupMd5 := ⟨data, md5, hd, hm, hp⟩
    rw [hl, load_checked_backup (restored_valid hp.length)]
    exact iff_of_true (.inr hb) (.inr hb)

theorem backup_after_load_made :
    ipcNvDataBackupCheck twoBytes (ipcNvDataLoad twoBytes (twoBytesFiles none)).2 = true :=
  (backup_after_load twoBytes (twoBytesFiles none) (by decide)).1.mpr (.inl (by decide))

/-- The digest of the backup is lost: the backup has the right size, so it is not made again, and the nv_data that was
loaded cannot be restored afterwards. -/
theorem backup_after_load_fails :
    let files := Function.update (twoBytesFiles (some [0x09, 0x09])) .nvDataBackupMd5 none
    (ipcNvDataLoad twoBytes files).1 = some [0x00, 0x00] ∧
      ipcNvDataBackupCheck twoBytes (ipcNvDataLoad twoBytes files).2 = false ∧
      (ipcNvDataLoad twoBytes (corrupted (ipcNvDataLoad twoBytes files).2 none none)).1 = none := by
  decide

end Ril.Ipc
