import Mathlib.Data.List.TakeWhile
import Ril.Ipc.Rfs

/-! What `ipc_nv_data_load` returns, and what it leaves in the four files. -/

namespace Ril.Ipc

variable (specs : NvDataSpecs)

/-- The string that is stored next to some data -/
def digestString (data : Bytes) : CString :=
  (specs.md5 (data ++ specs.secret)).flatMap fun b => [hexDigit (b.toNat / 16), hexDigit (b.toNat % 16)]

/-- The data has the size of the nv_data, and the other file starts with its digest. -/
structure PairValid (data md5 : Bytes) : Prop where
  length : data.length = specs.size
  digest : md5.take md5StringLength = digestString specs data

/-- Both files are there, and they are valid. -/
def Valid (files : Files NvPath) (path md5Path : NvPath) : Prop :=
  ∃ data md5, files path = some data ∧ files md5Path = some md5 ∧ PairValid specs data md5

variable {specs} {files : Files NvPath} {path md5Path : NvPath} {data md5 : Bytes}

lemma digest_length (data : Bytes) : (digestString specs data).length = md5StringLength := by
  rw [digestString, hex_digits_length, specs.md5_length]
  rfl

lemma digest_ne_zero (data : Bytes) : ∀ c ∈ digestString specs data, c ≠ 0 := hex_digits_ne_zero _

/-- Up to the first NUL the buffer is the string exactly when it is the string. -/
lemma strndup_eq {string buffer : Bytes} (hs : ∀ c ∈ string, c ≠ 0) (hl : buffer.length = string.length) :
    string = strndup buffer ↔ buffer = string := by
  constructor
  · intro h
    have ht : buffer.takeWhile (· != 0) = string := h.symm
    have hp := (List.takeWhile_prefix (l := buffer) (· != 0)).eq_of_length (by rw [ht, hl])
    exact hp.symm.trans ht
  · rintro rfl
    exact (List.takeWhile_eq_self_iff.mpr fun c hc => bne_iff_ne.mpr (hs c hc)).symm

lemma data2string_digest (data : Bytes) : data2string (specs.md5 (data ++ specs.secret)) = some (digestString specs data) := by
  rw [data2string, if_neg]
  · rfl
  · have hl := specs.md5_length (data ++ specs.secret)
    intro h
    rw [List.isEmpty_iff.mp h] at hl
    cases hl

lemma size_pos : 0 < specs.size := Nat.lt_of_lt_of_le specs.chunkSize_pos specs.chunkSize_le

lemma read_whole (h : files path = some data) (hl : data.length = specs.size) :
    fileDataRead specs.offBits files path specs.size specs.chunkSize 0 = some data := by
  rw [file_data_read_eq h size_pos specs.chunkSize_pos specs.chunkSize_le, seek_position_zero, if_pos (by omega),
    List.drop_zero, List.take_of_length_le (by omega)]

lemma md5_calculate_eq (h : files path = some data) (hl : data.length = specs.size) :
    ipcNvDataMd5Calculate specs files path = some (digestString specs data) := by
  rw [ipcNvDataMd5Calculate, read_whole h hl]
  exact data2string_digest data

lemma read_digest {offBits n : ℕ} (hn : 0 < n) (h : files md5Path = some md5) (hl : n ≤ md5.length) :
    fileDataRead offBits files md5Path n n 0 = some (md5.take n) := by
  rw [file_data_read_eq h hn hn (Nat.le_refl _), seek_position_zero, if_pos (by omega), List.drop_zero]

lemma pair_check_iff : pairCheck specs files path md5Path = true ↔ Valid specs files path md5Path := by
  have hpos : 0 < md5StringLength := by decide
  constructor
  · intro h
    simp only [pairCheck, pathCheck, md5PathCheck] at h
    cases hd : files path with
    | none => simp [hd] at h
    | some data =>
      cases hm : files md5Path with
      | none => simp [hd, hm] at h
      | some md5 =>
        simp only [hd, hm, beq_eq_false_iff_ne, ne_eq, Bool.not_eq_eq_eq_not, Bool.not_true, Bool.not_false,
          decide_eq_true_eq] at h
        by_cases hl : data.length = specs.size
        · by_cases hl' : md5.length < md5StringLength
          · simp [hl, hl'] at h
          · rw [if_neg (by simpa using hl), if_neg hl', md5_calculate_eq hd hl] at h
            simp only [digest_length, read_digest hpos hm (Nat.le_of_not_lt hl'), beq_iff_eq] at h
            refine ⟨data, md5, hd, hm, hl, (strndup_eq (digest_ne_zero data) ?_).mp h⟩
            rw [digest_length, List.length_take]
            omega
        · simp [hl] at h
  · rintro ⟨data, md5, hd, hm, hl, he⟩
    have hlen : md5StringLength ≤ md5.length := by
      have h := congrArg List.length he
      rw [digest_length, List.length_take] at h
      omega
    simp only [pairCheck, pathCheck, md5PathCheck, hd, hm, hl, beq_self_eq_true, Bool.not_true, Bool.false_eq_true,
      if_false, Nat.not_lt.mpr hlen, decide_false, Bool.not_false, md5_calculate_eq hd hl, digest_length,
      read_digest hpos hm hlen, beq_iff_eq]
    exact (strndup_eq (digest_ne_zero data) (by rw [he])).mpr he

lemma path_check_iff : pathCheck specs files path = true ↔ ∃ data, files path = some data ∧ data.length = specs.size := by
  rw [pathCheck]
  cases files path <;> simp

lemma write_new {offBits chunkSize : ℕ} (hd : data ≠ []) (hc : 0 < chunkSize) (hle : chunkSize ≤ data.length) :
    fileDataWrite offBits (unlink files path) path data chunkSize 0 = some (Function.update files path (some data)) := by
  have hnone : (unlink files path) path = none := Function.update_self _ _ _
  rw [file_data_write_eq hd hc hle, seek_position_zero, hnone, Option.getD_none, overwrite_nil]
  simp [unlink]

lemma nonempty_of_size (h : data.length = specs.size) : data ≠ [] := by
  have hp : 0 < specs.size := size_pos
  rintro rfl
  rw [List.length_nil] at h
  omega

lemma restore_eq (h : Valid specs files .nvDataBackup .nvDataBackupMd5) : ∃ data md5,
    files .nvDataBackup = some data ∧ files .nvDataBackupMd5 = some md5 ∧ PairValid specs data md5 ∧
      ipcNvDataRestore specs files = (true, Function.update (Function.update files .nvData (some data)) .nvDataMd5
        (some (digestString specs data))) := by
  have hb : ipcNvDataBackupCheck specs files = true := pair_check_iff.mpr h
  obtain ⟨data, md5, hd, hm, hv⟩ := h
  have hlen : (md5.take md5StringLength).length = md5StringLength := by rw [hv.digest, digest_length]
  have hlen' : md5StringLength ≤ md5.length := by
    rw [List.length_take] at hlen
    omega
  have hm' : (Function.update files NvPath.nvData (some data)) NvPath.nvDataBackupMd5 = some md5 := hm
  refine ⟨data, md5, hd, hm, hv, ?_⟩
  have hread := @read_digest (Function.update files NvPath.nvData (some data)) .nvDataBackupMd5 md5 specs.offBits
    md5StringLength (by decide) hm' hlen'
  simp only [ipcNvDataRestore, hb, Bool.not_true, Bool.false_eq_true, if_false, read_whole hd hv.length,
    write_new (nonempty_of_size hv.length) specs.chunkSize_pos (hv.length ▸ specs.chunkSize_le), hread]
  rw [write_new, hv.digest]
  · intro h0
    rw [h0] at hlen
    cases hlen
  · decide
  · omega

lemma restore_fails (h : ¬Valid specs files .nvDataBackup .nvDataBackupMd5) :
    ipcNvDataRestore specs files = (false, files) := by
  have hb : ipcNvDataBackupCheck specs files = false := Bool.eq_false_iff.mpr fun hb => h (pair_check_iff.mp hb)
  simp [ipcNvDataRestore, hb]

lemma backup_eq (hd : files .nvData = some data) (hl : data.length = specs.size) :
    ipcNvDataBackup specs files = (true, Function.update (Function.update files .nvDataBackup (some data))
      .nvDataBackupMd5 (some (digestString specs data))) := by
  have hp : pathCheck specs files .nvData = true := path_check_iff.mpr ⟨data, hd, hl⟩
  have hpos : 0 < (digestString specs data).length := by
    rw [digest_length]
    decide
  have hw {files : Files NvPath} : fileDataWrite specs.offBits (unlink files .nvDataBackup) .nvDataBackup data
      specs.chunkSize 0 = some (Function.update files .nvDataBackup (some data)) :=
    write_new (nonempty_of_size hl) specs.chunkSize_pos (hl ▸ specs.chunkSize_le)
  have hw' {files : Files NvPath} : fileDataWrite specs.offBits (unlink files .nvDataBackupMd5) .nvDataBackupMd5
      (digestString specs data) (digestString specs data).length 0 =
        some (Function.update files .nvDataBackupMd5 (some (digestString specs data))) :=
    write_new (List.length_pos_iff.mp hpos) hpos (Nat.le_refl _)
  simp only [ipcNvDataBackup, hp, Bool.not_true, Bool.false_eq_true, if_false, read_whole hd hl,
    md5_calculate_eq hd hl, hw, hw']

/-- A backup is made where there is none of the right size; the nv_data is left as it is. -/
lemma load_checked_eq (h : Valid specs files .nvData .nvDataMd5) :
    (ipcNvDataLoadChecked specs files).1 = files .nvData ∧
      (ipcNvDataLoadChecked specs files).2 .nvDataMd5 = files .nvDataMd5 ∧
      (Valid specs files .nvDataBackup .nvDataBackupMd5 → (ipcNvDataLoadChecked specs files).2 = files) := by
  obtain ⟨data, md5, hd, hm, hv⟩ := h
  by_cases hp : pathCheck specs files .nvDataBackup = true
  · simp only [ipcNvDataLoadChecked, hp, Bool.not_true, Bool.false_eq_true, if_false, read_whole hd hv.length, hd]
    exact ⟨trivial, trivial, fun _ => trivial⟩
  · have hback : (ipcNvDataBackup specs files).2 = Function.update (Function.update files .nvDataBackup (some data))
        .nvDataBackupMd5 (some (digestString specs data)) := by rw [backup_eq hd hv.length]
    have hkeep : (ipcNvDataBackup specs files).2 .nvData = some data := by
      rw [hback]
      exact hd
    simp only [ipcNvDataLoadChecked, Bool.eq_false_iff.mpr hp, Bool.not_false, if_true,
      read_whole hkeep hv.length, hd]
    refine ⟨trivial, by rw [hback]; rfl, fun hb => ?_⟩
    obtain ⟨b, m, hb, -, hv'⟩ := hb
    exact absurd (path_check_iff.mpr ⟨b, hb, hv'.length⟩) hp

lemma load_cases (files : Files NvPath) :
    (Valid specs files .nvData .nvDataMd5 ∧ ipcNvDataLoad specs files = ipcNvDataLoadChecked specs files) ∨
    (¬Valid specs files .nvData .nvDataMd5 ∧ ¬Valid specs files .nvDataBackup .nvDataBackupMd5 ∧
      ipcNvDataLoad specs files = (none, files)) ∨
    (¬Valid specs files .nvData .nvDataMd5 ∧ ∃ data md5, files .nvDataBackup = some data ∧
      files .nvDataBackupMd5 = some md5 ∧ PairValid specs data md5 ∧
      ipcNvDataLoad specs files = ipcNvDataLoadChecked specs (Function.update
        (Function.update files .nvData (some data)) .nvDataMd5 (some (digestString specs data)))) := by
  by_cases hv : Valid specs files .nvData .nvDataMd5
  · have hc : ipcNvDataCheck specs files = true := pair_check_iff.mpr hv
    exact .inl ⟨hv, by simp [ipcNvDataLoad, hc]⟩
  · have hc : ipcNvDataCheck specs files = false := Bool.eq_false_iff.mpr fun hc => hv (pair_check_iff.mp hc)
    by_cases hb : Valid specs files .nvDataBackup .nvDataBackupMd5
    · obtain ⟨data, md5, hd, hm, hp, hr⟩ := restore_eq hb
      have hvalid : ipcNvDataCheck specs (Function.update
          (Function.update files .nvData (some data)) .nvDataMd5 (some (digestString specs data))) = true := by
        refine pair_check_iff.mpr ⟨data, digestString specs data, rfl, rfl, hp.length, ?_⟩
        exact List.take_of_length_le (Nat.le_of_eq (digest_length data))
      refine .inr (.inr ⟨hv, data, md5, hd, hm, hp, ?_⟩)
      simp [ipcNvDataLoad, hc, hr, hvalid]
    · refine .inr (.inl ⟨hv, hb, ?_⟩)
      simp [ipcNvDataLoad, hc, restore_fails hb]

lemma restored_valid {data : Bytes} (h : data.length = specs.size) : Valid specs (Function.update
    (Function.update files .nvData (some data)) .nvDataMd5 (some (digestString specs data))) .nvData .nvDataMd5 :=
  ⟨data, digestString specs data, rfl, rfl, h, List.take_of_length_le (Nat.le_of_eq (digest_length data))⟩

lemma load_isSome_iff (files : Files NvPath) : (ipcNvDataLoad specs files).1.isSome = true ↔
    Valid specs files .nvData .nvDataMd5 ∨ Valid specs files .nvDataBackup .nvDataBackupMd5 := by
  rcases @load_cases specs files with ⟨hv, h⟩ | ⟨hv, hb, h⟩ | ⟨hv, data, md5, hd, hm, hp, h⟩
  · obtain ⟨h1, -, -⟩ := load_checked_eq hv
    obtain ⟨data, md5, hd, hm, hp⟩ := hv
    simp only [h, h1, hd, Option.isSome_some, true_iff]
    exact .inl ⟨data, md5, hd, hm, hp⟩
  · simp [h, hv, hb]
  · obtain ⟨h1, -, -⟩ := load_checked_eq (@restored_valid specs files data hp.length)
    have hb : Valid specs files .nvDataBackup .nvDataBackupMd5 := ⟨data, md5, hd, hm, hp⟩
    simp only [h, h1, hb, or_true, iff_true]
    rfl

/-- A load succeeds when one of the two pairs is valid, prefers the nv_data, leaves its digest with it, and does not
touch a valid backup. -/
theorem nv_data_load_sound (specs : NvDataSpecs) (files : Files NvPath) :
    ((ipcNvDataLoad specs files).1.isSome = true ↔
        Valid specs files .nvData .nvDataMd5 ∨ Valid specs files .nvDataBackup .nvDataBackupMd5) ∧
      (Valid specs files .nvData .nvDataMd5 → (ipcNvDataLoad specs files).1 = files .nvData) ∧
      (¬Valid specs files .nvData .nvDataMd5 → Valid specs files .nvDataBackup .nvDataBackupMd5 →
        (ipcNvDataLoad specs files).1 = files .nvDataBackup) ∧
      (∀ data, (ipcNvDataLoad specs files).1 = some data → ∃ md5,
        (ipcNvDataLoad specs files).2 .nvDataMd5 = some md5 ∧ PairValid specs data md5) ∧
      (Valid specs files .nvDataBackup .nvDataBackupMd5 →
        (ipcNvDataLoad specs files).2 .nvDataBackup = files .nvDataBackup ∧
        (ipcNvDataLoad specs files).2 .nvDataBackupMd5 = files .nvDataBackupMd5) := by
  refine ⟨load_isSome_iff files, ?_⟩
  rcases @load_cases specs files with ⟨hv, h⟩ | ⟨hv, hb, h⟩ | ⟨hv, data, md5, hd, hm, hp, h⟩
  · obtain ⟨h1, h2, h3⟩ := load_checked_eq hv
    obtain ⟨data, md5, hd, hm, hp⟩ := hv
    rw [h]
    refine ⟨fun _ => h1, fun hn => absurd ⟨data, md5, hd, hm, hp⟩ hn, ?_, fun hb => by rw [h3 hb]; exact ⟨rfl, rfl⟩⟩
    intro data' he
    rw [h1, hd, Option.some.injEq] at he
    subst he
    exact ⟨md5, h2.trans hm, hp⟩
  · rw [h]
    refine ⟨fun h => absurd h hv, fun _ h => absurd h hb, fun data he => ?_, fun h => absurd h hb⟩
    cases he
  · have hb : Valid specs files .nvDataBackup .nvDataBackupMd5 := ⟨data, md5, hd, hm, hp⟩
    obtain ⟨h1, h2, h3⟩ := load_checked_eq (@restored_valid specs files data hp.length)
    have h1' : (ipcNvDataLoad specs files).1 = some data := by
      rw [h, h1]
      rfl
    have hfiles := h3 hb
    refine ⟨fun h => absurd h hv, fun _ _ => h1'.trans hd.symm, ?_, fun _ => ?_⟩
    · intro data' he
      rw [h1', Option.some.injEq] at he
      subst he
      rw [h, h2]
      exact ⟨_, rfl, hp.length, List.take_of_length_le (Nat.le_of_eq (digest_length data))⟩
    · rw [h, hfiles]
      exact ⟨rfl, rfl⟩

end Ril.Ipc
