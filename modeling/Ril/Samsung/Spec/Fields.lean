import Ril.Samsung.System

/-! The seqs and the lists of requests under the operations on them. -/

namespace Ril.Samsung

open Ril.Ipc Ril.Lib

namespace RilData
variable (s : RilData) (token : RilToken) (seq : UInt8)

lemma fmtRequests_eq {s : RilData} {d : IpcFmtData} (h : s.fmt.data = some d) : s.fmtRequests = d.requests := by
  rw [fmtRequests, h]

lemma requestFindToken_token {s : RilData} {token : RilToken} {r : RilRequest}
    (h : s.requestFindToken token = some r) : r.token = token := by
  simpa using List.find?_some h

lemma requestFindToken_mem {s : RilData} {token : RilToken} {r : RilRequest}
    (h : s.requestFindToken token = some r) : r ∈ s.requests := List.mem_of_find?_eq_some h

lemma modifyFmt_of_none {s : RilData} (h : s.fmt.data = none) (f : IpcFmtData → IpcFmtData) :
    s.modifyFmt f = s := by
  rw [modifyFmt, h, Option.map_none, ← h]

lemma modifyFmt_fmtRequests {f : IpcFmtData → IpcFmtData} (hf : ∀ d, (f d).requests = d.requests) :
    (s.modifyFmt f).fmtRequests = s.fmtRequests := by
  cases h : s.fmt.data with
  | none => rw [modifyFmt_of_none h]
  | some d => simp [fmtRequests, modifyFmt, h, hf]

lemma fmtRequestFindToken_setSeq :
    (s.fmtRequestSetSeq token seq).fmtRequestFindToken token =
      (s.fmtRequestFindToken token).map fun r => { r with seq := seq } := by
  cases h : s.fmt.data with
  | none => simp [fmtRequestFindToken, fmtRequests, fmtRequestSetSeq, modifyFmt, h]
  | some d =>
    have hp : ((fun r : IpcFmtRequest => r.token == token) ∘ fun r : IpcFmtRequest =>
        if r.token == token then { r with seq } else r) = fun r => r.token == token := by
      funext r
      simp only [Function.comp_apply]
      split
      · rfl
      · rfl
    simp only [fmtRequestFindToken, fmtRequests, fmtRequestSetSeq, modifyFmt, h, Option.map_some,
      List.find?_map, hp]
    cases hr : d.requests.find? fun r => r.token == token with
    | none => rfl
    | some r => 
      have := List.find?_some hr
      simp only [Option.map_some, this, if_true]

lemma fmtRequestFindToken_ipcFmtSeq (owner : Option RilToken) :
    (s.ipcFmtSeq owner).2.fmtRequestFindToken token = s.fmtRequestFindToken token := by
  cases h : s.fmt.data with
  | none => simp only [ipcFmtSeq, h]
  | some d => simp only [ipcFmtSeq, fmtRequestFindToken, fmtRequests, modifyFmt, log, h, Option.map_some]

lemma ipcFmtRequestSeq_of_seq {s : RilData} {token : RilToken} {r : IpcFmtRequest}
    (h : s.fmtRequestFindToken token = some r) (hs : r.seq ≠ 0xff) :
    s.ipcFmtRequestSeq token = (r.seq, s) := by
  simp only [ipcFmtRequestSeq, h, beq_iff_eq, hs, if_false]

lemma ipcFmtRequestSeq_again {s : RilData} {token : RilToken} (h : (s.ipcFmtRequestSeq token).1 ≠ 0xff) :
    (s.ipcFmtRequestSeq token).2.ipcFmtRequestSeq token = s.ipcFmtRequestSeq token := by
  cases hr : s.fmtRequestFindToken token with
  | none =>
    rw [ipcFmtRequestSeq, hr] at h
    exact (h rfl).elim
  | some r =>
    by_cases hs : r.seq = 0xff
    · have he : s.ipcFmtRequestSeq token = ((s.ipcFmtSeq (some token)).1,
          (s.ipcFmtSeq (some token)).2.fmtRequestSetSeq token (s.ipcFmtSeq (some token)).1) := by
        simp [ipcFmtRequestSeq, hr, hs]
      rw [he] at h ⊢
      refine ipcFmtRequestSeq_of_seq (r := { r with seq := (s.ipcFmtSeq (some token)).1 }) ?_ h
      rw [fmtRequestFindToken_setSeq, fmtRequestFindToken_ipcFmtSeq, hr]
      rfl
    · rw [ipcFmtRequestSeq_of_seq hr hs]
      exact ipcFmtRequestSeq_of_seq hr hs

lemma ipcFmtSeq_requests (owner : Option RilToken) : (s.ipcFmtSeq owner).2.requests = s.requests := by
  rw [ipcFmtSeq]
  split
  · rfl
  · rfl

lemma ipcFmtRequestSeq_requests : (s.ipcFmtRequestSeq token).2.requests = s.requests := by
  rw [ipcFmtRequestSeq]
  split
  · rfl
  · split
    · exact ipcFmtSeq_requests s (some token)
    · rfl

end RilData

/-! ### Messages -/

/-- The expectation that a kind registers. -/
def ExpectKind.entry (aseq : UInt8) (command : IpcCommand) : ExpectKind → IpcGenPhoneResExpect
  | callback handler => ⟨aseq, command, some handler, false, false⟩
  | complete => ⟨aseq, command, none, true, false⟩
  | abort => ⟨aseq, command, none, false, true⟩

lemma ExpectKind.expect_eq (aseq : UInt8) (command : IpcCommand) (kind : ExpectKind) :
    kind.expect aseq command = ipcGenPhoneResExpect (kind.entry aseq command) := by
  cases kind <;> rfl

namespace RilData

def expected (expect : Option ExpectKind) (aseq : UInt8) (command : IpcCommand) (s : RilData) : RilData :=
  match expect with
  | none => s
  | some kind => s.expectRegister (kind.entry aseq command)

variable (s : RilData) (expect : Option ExpectKind) (mseq : UInt8) (command : IpcCommand)
  (type : IpcRequestType) (data : Bytes)

@[simp] lemma expectRegister_clientAccepts (e : IpcGenPhoneResExpect) (request : IpcRequest) :
    (s.expectRegister e).clientAccepts request = s.clientAccepts request := by
  simp [clientAccepts, expectRegister, modifyFmt]

@[simp] lemma expectRegister_fmtRequests (e : IpcGenPhoneResExpect) :
    (s.expectRegister e).fmtRequests = s.fmtRequests := modifyFmt_fmtRequests s fun _ => rfl

lemma expectSend_some (kind : ExpectKind) : expectSend (some kind) mseq command type data s =
    if s.fmt.data.isSome then
      Samsung.ipcFmtSend mseq command type data (s.expectRegister (kind.entry mseq command))
    else (false, s.expectRegister (kind.entry mseq command)) := by
  cases kind <;>
    exact ite_run (s.fmt.data.isSome = true) (Samsung.ipcFmtSend mseq command type data)
      (pure false : RilM Bool) _

lemma expectSend_apply : expectSend expect mseq command type data s =
    if expect.isSome ∧ s.fmt.data = none then (false, s)
    else (s.clientAccepts ⟨mseq, command, type, data⟩,
      (s.expected expect mseq command).log (.sent ⟨mseq, command, type, data⟩
        (s.clientAccepts ⟨mseq, command, type, data⟩))) := by
  cases expect with
  | none => rfl
  | some kind =>
    rw [expectSend_some]
    cases h : s.fmt.data with
    | none => simp [expectRegister, modifyFmt_of_none h]
    | some d => simp [Samsung.ipcFmtSend, ipcFmtSend, expected]

lemma transmit_request (token : RilToken) : transmit (.request token) expect command type data s =
    expectSend expect (s.ipcFmtRequestSeq token).1 command type data (s.ipcFmtRequestSeq token).2 := rfl

lemma expectSend_requests : (expectSend expect mseq command type data s).2.requests = s.requests := by
  rw [expectSend_apply]
  split
  · rfl
  · cases expect <;> rfl

lemma log_fmtRequests (e : Event) : (s.log e).fmtRequests = s.fmtRequests := rfl

lemma expectSend_fmtRequests :
    (expectSend expect mseq command type data s).2.fmtRequests = s.fmtRequests := by
  rw [expectSend_apply]
  split
  · rfl
  · cases expect with
    | none => rfl
    | some kind => simp only [log_fmtRequests, expected, expectRegister_fmtRequests]

end RilData

end Ril.Samsung
