import Ril.Ipc.Files
import Ril.Ipc.Utils

/-! The nv_data of the modem: two files, and a backup of both. -/

namespace Ril.Ipc

inductive NvPath
  | nvData | nvDataMd5 | nvDataBackup | nvDataBackupMd5
deriving DecidableEq, Repr

/-- The `nv_data_specs` of a device, the digest, and the width of an `off_t`. A file of the size of the nv_data has
offsets that are not negative. -/
structure NvDataSpecs where
  secret : Bytes
  size : ℕ
  chunkSize : ℕ
  offBits : ℕ
  md5 : Bytes → Bytes
  chunkSize_pos : 0 < chunkSize
  chunkSize_le : chunkSize ≤ size
  size_le : size ≤ 2 ^ (offBits - 1)
  md5_length : ∀ data, (md5 data).length = 16

/-- `2 * sizeof(char) * MD5_DIGEST_LENGTH` -/
def md5StringLength : ℕ := 32

/-- `strndup(buffer, length)` of a buffer of this length -/
def strndup (buffer : Bytes) : CString := buffer.takeWhile (· != 0)

section

variable (specs : NvDataSpecs)

def ipcNvDataMd5Calculate (files : Files NvPath) (path : NvPath) : Option CString :=
  match fileDataRead specs.offBits files path specs.size specs.chunkSize 0 with
  | none => none
  | some data => data2string (specs.md5 (data ++ specs.secret))

/-- `ipc_nv_data_path_check`, `ipc_nv_data_backup_path_check` -/
def pathCheck (files : Files NvPath) (path : NvPath) : Bool :=
  match files path with
  | none => false
  | some file => file.length == specs.size

/-- `ipc_nv_data_md5_path_check`, `ipc_nv_data_backup_md5_path_check` -/
def md5PathCheck (files : Files NvPath) (path : NvPath) : Bool :=
  match files path with
  | none => false
  | some file => !(file.length < md5StringLength)

/-- `ipc_nv_data_check`, `ipc_nv_data_backup_check` -/
def pairCheck (files : Files NvPath) (path md5Path : NvPath) : Bool :=
  if !pathCheck specs files path then false
  else if !md5PathCheck files md5Path then false
  else
    match ipcNvDataMd5Calculate specs files path with
    | none => false
    | some md5String =>
      match fileDataRead specs.offBits files md5Path md5String.length md5String.length 0 with
      | none => false
      | some buffer => md5String == strndup buffer

def ipcNvDataCheck (files : Files NvPath) : Bool := pairCheck specs files .nvData .nvDataMd5

def ipcNvDataBackupCheck (files : Files NvPath) : Bool := pairCheck specs files .nvDataBackup .nvDataBackupMd5

/-- The files are those left when a step has failed. -/
def ipcNvDataBackup (files : Files NvPath) : Bool × Files NvPath :=
  if !pathCheck specs files .nvData then (false, files)
  else
    match fileDataRead specs.offBits files .nvData specs.size specs.chunkSize 0 with
    | none => (false, files)
    | some data =>
      match ipcNvDataMd5Calculate specs files .nvData with
      | none => (false, files)
      | some md5String =>
        let files := unlink files .nvDataBackup
        match fileDataWrite specs.offBits files .nvDataBackup data specs.chunkSize 0 with
        | none => (false, files)
        | some files =>
          let files := unlink files .nvDataBackupMd5
          match fileDataWrite specs.offBits files .nvDataBackupMd5 md5String md5String.length 0 with
          | none => (false, files)
          | some files => (true, files)

def ipcNvDataRestore (files : Files NvPath) : Bool × Files NvPath :=
  if !ipcNvDataBackupCheck specs files then (false, files)
  else
    match fileDataRead specs.offBits files .nvDataBackup specs.size specs.chunkSize 0 with
    | none => (false, files)
    | some data =>
      let files := unlink files .nvData
      match fileDataWrite specs.offBits files .nvData data specs.chunkSize 0 with
      | none => (false, files)
      | some files =>
        match fileDataRead specs.offBits files .nvDataBackupMd5 md5StringLength md5StringLength 0 with
        | none => (false, files)
        | some data =>
          let files := unlink files .nvDataMd5
          match fileDataWrite specs.offBits files .nvDataMd5 data md5StringLength 0 with
          | none => (false, files)
          | some files => (true, files)

/-- The end of `ipc_nv_data_load`, from the check of the backup path on -/
def ipcNvDataLoadChecked (files : Files NvPath) : Option Bytes × Files NvPath :=
  let files := if !pathCheck specs files .nvDataBackup then (ipcNvDataBackup specs files).2 else files
  (fileDataRead specs.offBits files .nvData specs.size specs.chunkSize 0, files)

def ipcNvDataLoad (files : Files NvPath) : Option Bytes × Files NvPath :=
  if !ipcNvDataCheck specs files then
    let restored := ipcNvDataRestore specs files
    if !restored.1 then (none, restored.2)
    else if !ipcNvDataCheck specs restored.2 then (none, restored.2)
    else ipcNvDataLoadChecked specs restored.2
  else ipcNvDataLoadChecked specs files

def ipcNvDataRead (files : Files NvPath) (size offset : ℕ) : Option Bytes :=
  if !pathCheck specs files .nvData then none
  else fileDataRead specs.offBits files .nvData size (if specs.chunkSize > size then size else specs.chunkSize) offset

/-- The steps of `ipc_nv_data_write` that change a file; each may be the last one of a process that is killed. -/
inductive NvWriteStep
  | dataWrite | md5Unlink | md5Write
deriving DecidableEq, Repr

def nvWriteStep (data : Bytes) (offset : ℕ) (files : Files NvPath) : NvWriteStep → Option (Files NvPath)
  | .dataWrite => fileDataWrite specs.offBits files .nvData data
      (if specs.chunkSize > data.length then data.length else specs.chunkSize) offset
  | .md5Unlink =>
    match ipcNvDataMd5Calculate specs files .nvData, files .nvDataMd5 with
    | some _, some _ => some (unlink files .nvDataMd5)
    | _, _ => none
  | .md5Write =>
    match ipcNvDataMd5Calculate specs files .nvData with
    | none => none
    | some md5String => fileDataWrite specs.offBits files .nvDataMd5 md5String md5String.length 0

/-- The first steps; the flag tells whether none has failed. -/
def nvWriteSteps (data : Bytes) (offset : ℕ) : List NvWriteStep → Files NvPath → Bool × Files NvPath
  | [], files => (true, files)
  | step :: steps, files =>
    match nvWriteStep specs data offset files step with
    | none => (false, files)
    | some files => nvWriteSteps data offset steps files

def nvWriteOrder : List NvWriteStep := [.dataWrite, .md5Unlink, .md5Write]

/-- The digest is calculated before the unlink and does not depend on the file that is removed. -/
def ipcNvDataWrite (data : Bytes) (offset : ℕ) (files : Files NvPath) : Bool × Files NvPath :=
  if !pathCheck specs files .nvData then (false, files)
  else nvWriteSteps specs data offset nvWriteOrder files

/-- The files left by a process that is killed before or after one of the steps -/
def ipcNvDataWriteKilled (data : Bytes) (offset steps : ℕ) (files : Files NvPath) : Files NvPath :=
  if !pathCheck specs files .nvData then files
  else (nvWriteSteps specs data offset (nvWriteOrder.take steps) files).2

/-! ### The messages of the modem -/

/-- The size of the two requests' headers -/
def nvItemHeaderSize : ℕ := 8

structure NvItemResponse where
  confirm : UInt8
  offset : ℕ
  length : ℕ
  /-- what follows the header; `none` where the message reaches over the end of the buffer it is sent from -/
  data : Option Bytes
deriving DecidableEq, Repr

/-- `ipc_rfs_nv_data_item_size_setup` adds an uninitialized `size`, which is given here for each of its two calls:
`ipc_rfs_nv_read_item_setup` allocates the second one, and the first one is sent. -/
def nvReadItemData (sent allocated : ℕ) (nvData : Bytes) : Option Bytes :=
  if sent ≤ allocated ∧ nvData.length ≤ allocated then
    some ((nvData ++ List.replicate (allocated - nvData.length) 0).take sent)
  else none

/-- `none` stands for no response. -/
def ipcRfsNvReadItem (message : Bytes) (sent allocated : ℕ) (files : Files NvPath) : Option NvItemResponse :=
  if message.length < nvItemHeaderSize then none
  else
    match ipcNvDataRead specs files (intAt message 4) (intAt message 0) with
    | none => some ⟨0, 0, 0, some []⟩
    | some nvData => some ⟨1, intAt message 0, intAt message 4, nvReadItemData sent allocated nvData⟩

def ipcRfsNvWriteItem (message : Bytes) (files : Files NvPath) : Option NvItemResponse × Files NvPath :=
  if message.length < nvItemHeaderSize then (none, files)
  else if intAt message 4 = 0 ∨ intAt message 4 > message.length - nvItemHeaderSize then (none, files)
  else
    let result := ipcNvDataWrite specs ((message.drop nvItemHeaderSize).take (intAt message 4)) (intAt message 0) files
    if result.1 then (some ⟨1, intAt message 0, intAt message 4, some []⟩, result.2)
    else (some ⟨0, 0, 0, some []⟩, result.2)

end

end Ril.Ipc
