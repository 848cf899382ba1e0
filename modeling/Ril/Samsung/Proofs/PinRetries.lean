import Ril.Samsung.Spec.Events

/-! When a PIN that the modem has rejected is sent again. -/

namespace Ril.Samsung

open Ril.Ipc Ril.Lib

/-- The message verifies a first PIN. -/
def PinMessage (pin : CString) (m : IpcRequest) : Prop :=
  m.command = .secPinStatus ∧ m.type = .set ∧ m.data = ipcSecPinStatusSetup ipcSecPinTypePin1 (some pin) none

instance (pin : CString) (m : IpcRequest) : Decidable (PinMessage pin m) :=
  inferInstanceAs (Decidable (_ ∧ _ ∧ _))

/-- An answer of failure to the verification of a PIN. -/
def refusal (message : IpcMessage) : Bool :=
  message.command == .genPhoneRes && match IpcGenPhoneResData.read message.data with
    | some data => data.command == IpcCommand.secPinStatus.code && !ipcGenPhoneResCheck data
    | none => false

/-- The last verification with the seq, since a PIN was entered, was one of this PIN. -/
def verified (pin : CString) (seq : UInt8) : List Event → Bool
  | [] => false
  | .pinCached _ :: _ => false
  | .sent m true :: trace =>
    if m.mseq = seq ∧ m.command = .secPinStatus then decide (PinMessage pin m) else verified pin seq trace
  | _ :: trace => verified pin seq trace

/-- The modem has rejected the PIN since one was entered. -/
def rejected (pin : CString) : List Event → Bool
  | [] => false
  | .pinCached _ :: _ => false
  | .received message :: trace => (refusal message && verified pin message.aseq trace) || rejected pin trace
  | _ :: trace => rejected pin trace

/-- What happens next is not done for a request that was dispatched. -/
def automatic : List Event → Bool
  | [] => true
  | .dispatched _ :: _ => false
  | .received _ :: _ => true
  | .seqTaken none _ :: _ => true
  | _ :: trace => automatic trace

/-- A PIN was sent that the modem had rejected, and for no request. -/
def RejectedPinSent (trace : List Event) : Prop :=
  ∃ later m earlier pin, trace = later ++ .sent m true :: earlier ∧ PinMessage pin m ∧
    automatic earlier = true ∧ rejected pin earlier = true

def asksForPin (message : IpcMessage) (s : RilData) : Bool :=
  message.command == .secPinStatus && s.radioStateCheck .simNotReady &&
    match IpcSecPinStatusResponseData.read message.data with
    | some data => needsPin (ipc2rilSecPinStatusResponse data).2
    | none => false

/-- A status that asks for the first PIN finds none in the cache that was rejected, or cannot be answered. -/
def cacheUsable (d : Daemon) : Action → Bool
  | .message env message =>
    match d.data.simPin with
    | some pin =>
      !(asksForPin message d.data &&
        ({ d.data with env := env } : RilData).clientAccepts ⟨message.aseq, .secPinStatus, .set,
          ipcSecPinStatusSetup ipcSecPinTypePin1 (some pin) none⟩ && rejected pin d.data.trace)
    | none => true
  | _ => true

lemma PinMessage.data_eq {pin pin' : CString} {m : IpcRequest} (h : PinMessage pin m) (h' : PinMessage pin' m) :
    ipcSecPinStatusSetup ipcSecPinTypePin1 (some pin) none =
      ipcSecPinStatusSetup ipcSecPinTypePin1 (some pin') none := h.2.2.symm.trans h'.2.2

lemma rejected_congr {pin pin' : CString} (h : ipcSecPinStatusSetup ipcSecPinTypePin1 (some pin) none =
    ipcSecPinStatusSetup ipcSecPinTypePin1 (some pin') none) (trace : List Event) :
    rejected pin trace = rejected pin' trace := by
  have hm (m : IpcRequest) : PinMessage pin m ↔ PinMessage pin' m := by
    rw [PinMessage, PinMessage, h]
  have hv (seq : UInt8) (trace : List Event) : verified pin seq trace = verified pin' seq trace := by
    fun_induction verified pin seq trace <;> simp_all [verified]
  fun_induction rejected pin trace <;> simp_all [rejected]

lemma rejected_received {message : IpcMessage} (h : message.command ≠ .genPhoneRes) (pin : CString)
    (trace : List Event) : rejected pin (.received message :: trace) = rejected pin trace := by
  simp [rejected, refusal, h]

/-- The events of the dispatch of a request. -/
def Event.ofDispatch : Event → Prop
  | received _ => False
  | seqTaken owner _ => owner ≠ none
  | _ => True

lemma automatic_dispatched {token : RilToken} {trace new : List Event} (h : ∀ e ∈ new, e.ofDispatch) :
    automatic (new ++ .dispatched token :: trace) = false := by
  induction new with
  | nil => rfl
  | cons e new ih =>
    have he := h e List.mem_cons_self
    have ih := ih fun e he => h e (List.mem_cons_of_mem _ he)
    cases e with
    | received message => exact he.elim
    | seqTaken owner seq =>
      cases owner with
      | none => exact absurd rfl he
      | some token => exact ih
    | dispatched token => rfl
    | _ => exact ih

namespace RejectedPinSent

variable {trace trace' : List Event}

lemma mono (h : RejectedPinSent trace) (ht : trace <:+ trace') : RejectedPinSent trace' := by
  obtain ⟨later, m, earlier, pin, rfl, hm⟩ := h
  obtain ⟨new, rfl⟩ := ht
  exact ⟨new ++ later, m, earlier, pin, (List.append_assoc _ _ _).symm, hm⟩

lemma of_extends (h : RejectedPinSent trace')
    (ht : Extends (fun e => ∀ m ok, e = .sent m ok → m.command ≠ .secPinStatus) trace trace') :
    RejectedPinSent trace := by
  obtain ⟨later, m, earlier, pin, hl, hm, ha, hr⟩ := h
  obtain ⟨new, rfl, hnew⟩ := ht
  rcases split_append hl with ⟨mid, rfl, rfl⟩ | ⟨later', rfl⟩
  · exact absurd hm.1 (hnew (.sent m true) (by simp) m true rfl)
  · exact ⟨later', m, earlier, pin, rfl, hm, ha, hr⟩

lemma of_dispatch {token : RilToken} {new : List Event} (hnew : ∀ e ∈ new, e.ofDispatch)
    (h : RejectedPinSent (new ++ .dispatched token :: trace)) : RejectedPinSent trace := by
  obtain ⟨later, m, earlier, pin, hl, hm, ha, hr⟩ := h
  rcases split_append hl with ⟨mid, rfl, rfl⟩ | ⟨later', hl'⟩
  · rw [automatic_dispatched fun e he => hnew e (by simp [he])] at ha
    cases ha
  · cases later' with
    | nil => cases hl'
    | cons e later' =>
      obtain ⟨rfl, rfl⟩ := List.cons.inj hl'
      exact ⟨later', m, earlier, pin, rfl, hm, ha, hr⟩

lemma sent_iff {m : IpcRequest} {ok : Bool} (h : ¬RejectedPinSent trace) :
    RejectedPinSent (.sent m ok :: trace) ↔
      ok = true ∧ automatic trace = true ∧ ∃ pin, PinMessage pin m ∧ rejected pin trace = true := by
  constructor
  · rintro ⟨later, m', earlier, pin, hl, hm, ha, hr⟩
    cases later with
    | nil =>
      obtain ⟨he, rfl⟩ := List.cons.inj hl
      obtain ⟨rfl, rfl⟩ := Event.sent.inj he
      exact ⟨rfl, ha, pin, hm, hr⟩
    | cons e later =>
      obtain ⟨-, rfl⟩ := List.cons.inj hl
      exact absurd ⟨later, m', earlier, pin, rfl, hm, ha, hr⟩ h
  · rintro ⟨rfl, ha, pin, hm, hr⟩
    exact ⟨[], m, trace, pin, rfl, hm, ha, hr⟩

end RejectedPinSent

/-! ### What is sent for requests, and what is not -/

lemma request_op_logged {F : Footprint} {token : RilToken} {sent : Bool} {s : RilData} {op : Op}
    (h : RequestOp F token sent s op) : Logged Event.ofDispatch s (op.exec s) := by
  rcases h.cases with rfl | ⟨expect, command, type, data, rfl, -, -⟩ | hq
  · exact Logged.ipcFmtRequestSeq s token fun seq => Option.some_ne_none token
  · exact (Logged.ipcFmtRequestSeq s token fun seq => Option.some_ne_none token).trans
      (Logged.expectSend _ expect _ command type data trivial)
  · refine (op_logged op s).mono fun e he => ?_
    cases op <;> simp_all [QuietOp, Op.logs, Event.ofDispatch]

lemma dispatch_events (env : Env) (r : RilRequest) (s : RilData) :
    ∃ new, (dispatchRequest env r s).trace = new ++ .dispatched r.token :: s.trace ∧ ∀ e ∈ new, e.ofDispatch := by
  have hpath {sent : Bool} {s' : RilData}
      (hp : RequestPath r.request.footprint r.token sent (s.started env (.dispatched r.token)) s') :
      Logged Event.ofDispatch (s.started env (.dispatched r.token)) s' := by
    induction hp with
    | refl => exact .refl _
    | tail _ ht ih =>
      obtain ⟨op, hop, rfl⟩ := ht
      exact ih.trans (request_op_logged hop)
  have hd : Logged Event.ofDispatch (s.started env (.dispatched r.token)) (dispatchRequest env r s) := by
    rcases dispatch_cases env r s with ⟨h, -⟩ | ⟨s', hp, h⟩ | ⟨s', error, response, hp, h⟩
    · rw [h]
      exact .of_eq rfl
    · rw [h]
      exact (hpath hp).trans (.of_eq rfl)
    · rw [h]
      exact (hpath hp).trans (Logged.requestComplete s' r.token error response trivial)
  exact hd

/-- No PIN is sent. -/
def Event.keepsPin (e : Event) : Prop := ∀ m ok, e = .sent m ok → m.command ≠ .secPinStatus

lemma message_path_keeps_pin {F : Footprint} {message : IpcMessage} {s t : RilData}
    (hF : ∀ x ∈ F.messages, x.2.1 ≠ .secPinStatus) (hp : MessagePath F message s t) :
    Logged Event.keepsPin s t := by
  induction hp with
  | refl => exact .refl _
  | tail _ ht ih =>
    obtain ⟨op, hop, rfl⟩ := ht
    refine ih.trans ((op_logged op _).mono ?_)
    rintro e he m ok rfl
    rcases logs_sent he with ⟨sender, expect, rfl⟩ | ⟨env, rfl⟩
    · exact hF _ hop.2
    · exact hop.elim

lemma message_footprint_keeps_pin {message : IpcMessage} (h : message.command ≠ .secPinStatus) (s : RilData) :
    ∀ x ∈ (messageFootprint message s).messages, x.2.1 ≠ .secPinStatus := by
  obtain ⟨aseq, command, type, data⟩ := message
  cases command with
  | secPinStatus => exact absurd rfl h
  | genPhoneRes =>
    simp only [messageFootprint, genPhoneResFootprint]
    split
    · rename_i callback _ _ _
      cases callback <;> simp [GenPhoneResCallback.footprint]
    · simp
    · simp
  | _ => simp [messageFootprint]

/-- Only the dispatch of a request and a status of the SIM send a PIN. -/
lemma step_keeps_pin {d d' : Daemon} {a : Action} (hstep : step d a = some d') (hr : ∀ env, a ≠ .loopDispatch env)
    (hm : ∀ env message, a = .message env message → message.command ≠ .secPinStatus) :
    Extends Event.keepsPin d.data.trace d'.data.trace := by
  refine (step_logged hstep).mono ?_
  rintro e ⟨s, op, hop, he⟩ m ok rfl
  rcases logs_sent he with ⟨sender, expect, rfl⟩ | ⟨env, rfl⟩
  · cases a with
    | loopDispatch env => exact absurd rfl (hr env)
    | message env message =>
      rcases hop with h | h | h
      · cases h
      · exact message_footprint_keeps_pin (hm env message rfl) d.data _ h.2
      · cases h
    | srs env message =>
      rcases hop with h | ⟨command, hc, type, data, h⟩ | ⟨state, -, h⟩
      · cases h
      · cases h
        rintro h
        simp [srsCommands, h] at hc
      · cases h
    | _ => simp [StepOp] at hop
  · cases a with
    | loopDispatch env =>  exact absurd rfl (hr env)
    | message env message => simp [StepOp, MessageOp, SilentOp, QuietOp] at hop
    | _ => simp [StepOp] at hop

/-! ### The answer to a status of the SIM -/

section

variable {env : Env} {message : IpcMessage} {s : RilData}

lemma pin_status_dispatch (hc : message.command = .secPinStatus) :
    dispatchMessage env message s = ipcSecPinStatus message (s.started env (.received message)) := by
  rw [dispatchMessage, ipcFmtDispatch, hc]
  rfl

lemma asks_for_pin_iff (hc : message.command = .secPinStatus) {data : IpcSecPinStatusResponseData}
    (hd : IpcSecPinStatusResponseData.read message.data = some data) :
    asksForPin message s = true ↔
      s.radioStateCheck .simNotReady = true ∧ needsPin (ipc2rilSecPinStatusResponse data).2 = true := by
  simp [asksForPin, hc, hd]

lemma pin_status_eq {data : IpcSecPinStatusResponseData}
    (hd : IpcSecPinStatusResponseData.read message.data = some data) :
    ipcSecPinStatus message s =
      if s.radioStateCheck .simNotReady = true then
        match needsPin (ipc2rilSecPinStatusResponse data).2, s.simPin with
        | true, some pin => ipcSecPinStatusUnlock message (ipc2rilSecPinStatusResponse data).2 pin s
        | _, _ =>
          ipcSecPinStatusReport message (ipc2rilSecPinStatusResponse data).1 (ipc2rilSecPinStatusResponse data).2 s
      else (.ok, s) := by
  rw [ipcSecPinStatus, hd]
  dsimp only
  rw [get_bind_apply]
  cases s.radioStateCheck .simNotReady with
  | false => rfl
  | true =>
    simp only [if_true]
    cases needsPin (ipc2rilSecPinStatusResponse data).2 <;> cases s.simPin <;> rfl

lemma pin_status_reports (hc : message.command = .secPinStatus)
    (h : asksForPin message s = false ∨ s.simPin = none) :
    Logged Event.keepsPin (s.started env (.received message)) (dispatchMessage env message s).2 := by
  rw [pin_status_dispatch hc]
  cases hd : IpcSecPinStatusResponseData.read message.data with
  | none =>
    rw [ipcSecPinStatus, hd]
    exact .refl _
  | some data =>
    rw [pin_status_eq hd]
    split
    · rename_i hr
      split
      · rename_i pin hp hpin
        have hask : asksForPin message s = true := (asks_for_pin_iff hc hd).mpr ⟨hr, hp⟩
        have hs : s.simPin = some pin := hpin
        simp [hask, hs] at h
      · exact message_path_keeps_pin (F := { data := [.getSimStatus], replies := true }) (by simp)
          (sec_pin_status_report_spec message (fun _ => rfl) (List.mem_singleton_self _)
            (sec_pin_status_radio_state data).1 (sec_pin_status_radio_state data).2 _ _)
    · exact .refl _

lemma pin_status_unlock_trace (status : RilCardStatus) (pin : CString) :
    (ipcSecPinStatusUnlock message status pin s).2.trace =
      (transmit (.reply message.aseq) (some (.callback .ipcSecPinStatus)) .secPinStatus .set
        (ipcSecPinStatusSetup ipcSecPinTypePin1 (some pin) none)
        (s.requestDataSetUniq .getSimStatus (.cardStatus status))).2.trace := by
  simp only [ipcSecPinStatusUnlock, rilRequestDataSetUniq, rilRequestDataFree, bind_apply, modify_apply]
  split <;> rfl

lemma pin_status_unlocks (hc : message.command = .secPinStatus) (h : asksForPin message s = true) {pin : CString}
    (hp : s.simPin = some pin) :
    (dispatchMessage env message s).2.trace = if s.fmt.data = none then .received message :: s.trace else
      .sent ⟨message.aseq, .secPinStatus, .set, ipcSecPinStatusSetup ipcSecPinTypePin1 (some pin) none⟩
        (({ s with env := env } : RilData).clientAccepts ⟨message.aseq, .secPinStatus, .set,
          ipcSecPinStatusSetup ipcSecPinTypePin1 (some pin) none⟩) :: .received message :: s.trace := by
  obtain ⟨data, hd⟩ : ∃ data, IpcSecPinStatusResponseData.read message.data = some data := by
    cases hd : IpcSecPinStatusResponseData.read message.data with
    | none => simp [asksForPin, hd] at h
    | some data => exact ⟨data, rfl⟩
  obtain ⟨hr, hn⟩ := (asks_for_pin_iff hc hd).mp h
  have hr' : (s.started env (.received message)).radioStateCheck .simNotReady = true := hr
  have hp' : (s.started env (.received message)).simPin = some pin := hp
  rw [pin_status_dispatch hc, pin_status_eq hd, if_pos hr', hn, hp']
  dsimp only
  rw [pin_status_unlock_trace]
  have he (t : RilData) (data : Bytes) :
      transmit (.reply message.aseq) (some (.callback .ipcSecPinStatus)) .secPinStatus .set data t =
        expectSend (some (.callback .ipcSecPinStatus)) message.aseq .secPinStatus .set data t := rfl
  rw [he, RilData.expectSend_apply]
  by_cases hf : s.fmt.data = none
  · rw [if_pos ⟨rfl, hf⟩, if_pos hf]
    rfl
  · rw [if_neg fun h => hf h.2, if_neg hf]
    rfl

end

/-! ### Runs -/

lemma run_trace {as : List Action} {d d' : Daemon} (hr : run step d as = some d') :
    d.data.trace <:+ d'.data.trace := by
  induction as generalizing d with
  | nil =>
    obtain rfl : d = d' := Option.some.inj hr
    exact List.suffix_rfl
  | cons a as ih =>
    obtain ⟨d₁, h₁, hr⟩ := Option.bind_eq_some_iff.mp hr
    exact (step_logged h₁).suffix.trans (ih hr)

lemma message_trace {d d' : Daemon} {env : Env} {message : IpcMessage}
    (hstep : step d (.message env message) = some d') :
    d'.data.trace = (dispatchMessage env message d.data).2.trace := by
  obtain ⟨-, -, ⟨data, hm, rfl⟩ | ⟨data, hm, rfl⟩⟩ := step_message.mp hstep
  · rw [hm]
  · rw [hm]

/-- The message that answers a status repeats a rejection exactly if the cached PIN was rejected. -/
lemma pin_status_step {d d' : Daemon} {env : Env} {message : IpcMessage} {pin : CString}
    (hstep : step d (.message env message) = some d') (h : ¬RejectedPinSent d.data.trace)
    (hc : message.command = .secPinStatus) (ha : asksForPin message d.data = true) (hp : d.data.simPin = some pin) :
    RejectedPinSent d'.data.trace ↔ cacheUsable d (.message env message) = false := by
  have hu : cacheUsable d (.message env message) =
      !(({ d.data with env := env } : RilData).clientAccepts ⟨message.aseq, .secPinStatus, .set,
          ipcSecPinStatusSetup ipcSecPinTypePin1 (some pin) none⟩ && rejected pin d.data.trace) := by
    simp [cacheUsable, hp, ha]
  have hg : message.command ≠ .genPhoneRes := by simp [hc]
  have hreceived : ¬RejectedPinSent (.received message :: d.data.trace) := fun hs =>
    h (hs.of_extends (.one (fun m ok he => by cases he) _))
  rw [message_trace hstep, pin_status_unlocks hc ha hp, hu]
  by_cases hf : d.data.fmt.data = none
  · rw [if_pos hf]
    exact iff_of_false hreceived (by simp [RilData.clientAccepts, hf])
  · rw [if_neg hf, RejectedPinSent.sent_iff hreceived, Bool.not_eq_false', Bool.and_eq_true]
    refine and_congr_right fun _ => ⟨?_, fun hr => ⟨rfl, pin, ⟨rfl, rfl, rfl⟩, ?_⟩⟩
    · rintro ⟨-, pin', hm, hr⟩
      rw [rejected_received hg, ← rejected_congr (PinMessage.data_eq ⟨rfl, rfl, rfl⟩ hm)] at hr
      exact hr
    · rw [rejected_received hg]
      exact hr

/-- A step sends a rejected PIN exactly if it answers a status with one. -/
lemma rejected_pin_step {d d' : Daemon} {a : Action} (hstep : step d a = some d')
    (h : ¬RejectedPinSent d.data.trace) : RejectedPinSent d'.data.trace ↔ cacheUsable d a = false := by
  have hkeep (hu : cacheUsable d a = true) (hl : Extends Event.keepsPin d.data.trace d'.data.trace) :
      RejectedPinSent d'.data.trace ↔ cacheUsable d a = false :=
    iff_of_false (fun hs => h (hs.of_extends hl)) (by simp [hu])
  cases a with
  | loopDispatch env =>
    obtain ⟨-, r, -, rfl⟩ := step_loop_dispatch.mp hstep
    obtain ⟨new, hnew, hl⟩ := dispatch_events env r d.data
    refine iff_of_false (fun hs => h ?_) (by simp [cacheUsable])
    rw [hnew] at hs
    exact hs.of_dispatch hl
  | message env message =>
    by_cases hc : message.command = .secPinStatus
    · have hreport (ha : asksForPin message d.data = false ∨ d.data.simPin = none) :
          Extends Event.keepsPin d.data.trace d'.data.trace := by
        rw [message_trace hstep]
        exact Extends.trans (.one (fun m ok he => by cases he) _) (pin_status_reports hc ha)
      cases hp : d.data.simPin with
      | none => exact hkeep (by simp [cacheUsable, hp]) (hreport (.inr hp))
      | some pin =>
        cases ha : asksForPin message d.data with
        | false => exact hkeep (by simp [cacheUsable, hp, ha]) (hreport (.inl ha))
        | true => exact pin_status_step hstep h hc ha hp
    · refine hkeep ?_ (step_keeps_pin hstep (fun env he => by cases he) ?_)
      · have ha : asksForPin message d.data = false := by simp [asksForPin, hc]
        simp only [cacheUsable, ha]
        cases d.data.simPin <;> rfl
      · rintro env message ⟨⟩
        exact hc
  | _ => exact hkeep rfl (step_keeps_pin hstep (fun env he => by cases he) fun env message he => by cases he)

lemma rejected_pin_run {as : List Action} {d d' : Daemon} (hr : run step d as = some d')
    (h : ¬RejectedPinSent d.data.trace) :
    ¬RejectedPinSent d'.data.trace ↔ runMeets step cacheUsable d as = true := by
  induction as generalizing d with
  | nil =>
    obtain rfl : d = d' := Option.some.inj hr
    exact iff_of_true h rfl
  | cons a as ih =>
    obtain ⟨d₁, h₁, hr⟩ := Option.bind_eq_some_iff.mp hr
    have hstep := rejected_pin_step h₁ h
    simp only [runMeets, h₁, Bool.and_eq_true]
    cases hc : cacheUsable d a with
    | true =>
      have hd₁ : ¬RejectedPinSent d₁.data.trace := by simp [hstep, hc]
      simp [ih hr hd₁]
    | false =>
      have hd' := (hstep.mpr hc).mono (run_trace hr)
      simp [hd']

/-- The PIN 1 is entered and rejected under the seq 1, then the SIM asks for it. -/
def rejectedPinRun : List Action :=
  .message {} ⟨0x01, .pwrPhoneState, .resp, [ipcPwrPhoneStateResponseNormal]⟩ ::
    dispatchRun {} .enterSimPin (.strings [some (ascii ['1']), none]) 1 ++
    [.message {} ⟨0x01, .genPhoneRes, .resp, [0x05, 0x01, 0x03, 0x10, 0x00]⟩,
      .message {} ⟨0x00, .secPinStatus, .noti, [0x03, 0x01]⟩]

/-- In a run of the daemon no PIN that the modem has rejected is sent for no request, if and only if every status that
asks for a PIN and can be answered finds a PIN in the cache that was not rejected, or none. -/
theorem rejected_pin_not_resent (as : List Action) {d : Daemon} (h : run step {} as = some d) :
    ¬RejectedPinSent d.data.trace ↔ runMeets step cacheUsable {} as = true := by
  refine rejected_pin_run h ?_
  rintro ⟨later, m, earlier, pin, hl, -⟩
  cases later <;> cases hl

/-- Without the last message the rejection is not repeated. -/
theorem rejected_pin_not_resent_entered :
    ¬RejectedPinSent (runFrom {} rejectedPinRun.dropLast).data.trace :=
  (rejected_pin_not_resent rejectedPinRun.dropLast (d := runFrom {} rejectedPinRun.dropLast) rfl).mpr (by decide)

/-- The rejected PIN is sent again. -/
theorem rejected_pin_not_resent_fails :
    ∃ d, run step {} rejectedPinRun = some d ∧ RejectedPinSent d.data.trace := by
  refine ⟨runFrom {} rejectedPinRun, rfl, [],
    ⟨0x00, .secPinStatus, .set, ipcSecPinStatusSetup ipcSecPinTypePin1 (some (ascii ['1'])) none⟩,
    (runFrom {} rejectedPinRun).data.trace.tail, ascii ['1'], ?_⟩
  decide

end Ril.Samsung
