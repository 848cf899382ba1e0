import Ril.Lib.Extends
import Ril.Reference.AtChannel

/-! Which lines the response to a command contains, and which the unsolicited handler gets. -/

namespace Ril.Reference

open Lib

/-- The lines that may be intermediate responses to a command of the type -/
def AtCommandType.takes (type : AtCommandType) (line : Bytes) : Bool :=
  match type with
  | noResult => false
  | numeric => line.head?.any isDigit
  | singleline responsePrefix | multiline responsePrefix => strStartsWith line responsePrefix

/-- Whether there may be more than one of them -/
def AtCommandType.several : AtCommandType → Bool
  | multiline _ => true
  | _ => false

namespace AtCommand

variable (c : AtCommand) (lines : List Bytes) (line : Bytes)

/-- The first prompt is answered with the PDU of a command that has one. -/
def withoutPrompt : List Bytes := if c.smspdu.isSome then lines.erase prompt else lines

def intermediates : List Bytes :=
  let taken := (c.withoutPrompt lines).filter c.type.takes
  if c.type.several then taken else taken.take 1

/-- The line that follows `lines` is the prompt that is answered. -/
def answersPrompt : Bool := c.smspdu.isSome && line == prompt && !lines.contains prompt

/-- The line that follows `lines` is an intermediate response. -/
def selects : Bool := c.type.takes line && (c.type.several || (c.intermediates lines).isEmpty)

end AtCommand

/-- The first line of an SMS that is not complete, and the command that is open with the lines that were processed since
it was issued -/
structure Exchange where
  smsLine : Option Bytes := none
  command : Option (AtCommand × List Bytes) := none

def exchange : List AtRecord → Exchange
  | [] => {}
  | .issued c :: log => { exchange log with command := some (c, []) }
  | .returned _ _ :: log => { exchange log with command := none }
  | .read line :: log =>
    match (exchange log).smsLine with
    | some _ => { exchange log with smsLine := none }
    | none =>
      if isSMSUnsolicited line then { exchange log with smsLine := some line }
      else { exchange log with command := (exchange log).command.map fun e => (e.1, e.2 ++ [line]) }

/-- The line is for the open command: its first final line, the prompt that is answered, or an intermediate response
before the first final line. -/
def Exchange.own (e : Exchange) (line : Bytes) : Bool :=
  match e.command with
  | none => false
  | some (c, lines) =>
    !lines.any isFinalResponse && (isFinalResponse line || c.answersPrompt lines line || c.selects lines line)

/-- Every other line is delivered, newest first, the two lines of an SMS at once. -/
def deliveries : List AtRecord → List (Bytes × Option Bytes)
  | [] => []
  | .read line :: log =>
    match (exchange log).smsLine with
    | some line1 => (line1, some line) :: deliveries log
    | none => if isSMSUnsolicited line || (exchange log).own line then deliveries log else (line, none) :: deliveries log
  | .issued _ :: log => deliveries log
  | .returned _ _ :: log => deliveries log

/-- The response answers the command that is open: it has the intermediate responses before the first final line, in the
order in which they came, and that line. -/
def Answers (e : Exchange) (r : AtResponse) : Prop :=
  ∃ c lines final late, e.command = some (c, lines ++ final :: late) ∧ (∀ line ∈ lines, isFinalResponse line = false) ∧
    isFinalResponse final = true ∧ r.intermediates = c.intermediates lines ∧ r.finalResponse = some final ∧
    r.success = isFinalResponseSuccess final

/-- The line would change an open response: it is final, or the prompt while the PDU waits, or still an intermediate
response. -/
def AtCommands.changes (d : AtCommands) (r : AtResponse) (line : Bytes) : Bool :=
  isFinalResponse line || (d.smsPDU.isSome && line == prompt) ||
    (d.type.takes line && (d.type.several || r.intermediates.isEmpty))

/-- Once the response has its final line, no line is processed that would change it. -/
def timely (d : AtCommands) : AtAction → Bool
  | .line line => d.smsLine.isSome || isSMSUnsolicited line ||
      !d.response.any fun r => r.finalResponse.isSome && d.changes r line
  | _ => true

/-! ### The lines that a command selects -/

section

variable {c : AtCommand} {lines : List Bytes} {line : Bytes}

lemma without_prompt_snoc : c.withoutPrompt (lines ++ [line]) =
    if c.answersPrompt lines line then c.withoutPrompt lines else c.withoutPrompt lines ++ [line] := by
  rw [AtCommand.answersPrompt, AtCommand.withoutPrompt, AtCommand.withoutPrompt]
  cases c.smspdu.isSome with
  | false => simp
  | true =>
    by_cases hp : prompt ∈ lines
    · simp [List.erase_append, hp]
    · by_cases hl : line = prompt
      · simp [List.erase_append, hp, hl, List.erase_of_not_mem hp]
      · simp [List.erase_append, hp, hl, List.erase_of_not_mem hp, List.erase_of_not_mem (Ne.symm hl ∘ List.mem_singleton.mp)]

lemma take_one_snoc {α : Type} (xs : List α) (x : α) :
    (xs ++ [x]).take 1 = if (xs.take 1).isEmpty then xs.take 1 ++ [x] else xs.take 1 := by
  cases xs with
  | nil => rfl
  | cons y ys => simp

lemma intermediates_snoc : c.intermediates (lines ++ [line]) =
    if c.answersPrompt lines line then c.intermediates lines
    else if c.selects lines line then c.intermediates lines ++ [line] else c.intermediates lines := by
  cases hp : c.answersPrompt lines line with
  | true => simp [AtCommand.intermediates, without_prompt_snoc, hp]
  | false =>
    cases ht : c.type.takes line with
    | false => simp [AtCommand.intermediates, without_prompt_snoc, AtCommand.selects, hp, ht]
    | true =>
      cases hs : c.type.several with
      | true => simp [AtCommand.intermediates, without_prompt_snoc, AtCommand.selects, hp, ht, hs]
      | false => simp [AtCommand.intermediates, without_prompt_snoc, AtCommand.selects, hp, ht, hs, take_one_snoc]

lemma process_intermediate_eq (d : AtCommands) (r : AtResponse) : d.processIntermediate r line =
    if d.type.takes line && (d.type.several || r.intermediates.isEmpty) then d.addIntermediate r line
    else d.handleUnsolicited line := by
  rw [AtCommands.processIntermediate]
  cases d.type with
  | noResult => rfl
  | numeric => simp [AtCommandType.takes, AtCommandType.several, and_comm]
  | singleline p => simp [AtCommandType.takes, AtCommandType.several, and_comm]
  | multiline p => simp [AtCommandType.takes, AtCommandType.several]

end

/-! ### The reader and the thread that waits -/

/-- What the open response has, of the lines that were processed for its command -/
inductive Phase (c : AtCommand) (smsPDU : Option Bytes) (r : AtResponse) : List Bytes → Prop
  | collecting {lines : List Bytes} : (∀ line ∈ lines, isFinalResponse line = false) → r.finalResponse = none →
      r.intermediates = (c.intermediates lines).reverse →
      smsPDU = (if lines.contains prompt then none else c.smspdu) → Phase c smsPDU r lines
  | answered {lines late : List Bytes} {final : Bytes} : (∀ line ∈ lines, isFinalResponse line = false) →
      isFinalResponse final = true → r.finalResponse = some final → r.success = isFinalResponseSuccess final →
      r.intermediates = (c.intermediates lines).reverse → Phase c smsPDU r (lines ++ final :: late)

structure Open (d : AtCommands) (c : AtCommand) (r : AtResponse) (lines : List Bytes) : Prop where
  response : d.response = some r
  waiting : d.waiting = some c
  type : d.type = c.type
  command : (exchange d.log).command = some (c, lines)
  phase : Phase c d.smsPDU r lines

structure Closed (d : AtCommands) : Prop where
  response : d.response = none
  waiting : d.waiting = none
  command : (exchange d.log).command = none

structure Exchanging (d : AtCommands) : Prop where
  smsLine : (exchange d.log).smsLine = d.smsLine
  unsolicited : d.unsolicited = deliveries d.log
  command : Closed d ∨ ∃ c r lines, Open d c r lines
  returned : ∀ later r earlier, d.log = later ++ .returned none (some r) :: earlier → Answers (exchange earlier) r

variable {d : AtCommands} {c : AtCommand} {r : AtResponse} {lines : List Bytes} {line : Bytes}

/-- What becomes of the response and of the PDU, and whether the line is delivered, when a line is processed for an open
command -/
structure Processes (d : AtCommands) (line : Bytes) (delivered : Bool) (smsPDU : Option Bytes) (r : AtResponse) : Prop where
  response : (d.processLine line).response = some r
  smsPDU : (d.processLine line).smsPDU = smsPDU
  unsolicited : (d.processLine line).unsolicited = if delivered then (line, none) :: d.unsolicited else d.unsolicited

lemma process_line_open (hr : d.response = some r) (hf : isFinalResponse line = false)
    (hp : (d.smsPDU.isSome && line == prompt) = false) : d.processLine line =
    if d.type.takes line && (d.type.several || r.intermediates.isEmpty) then d.addIntermediate r line
    else d.handleUnsolicited line := by
  rw [isFinalResponse, Bool.or_eq_false_iff] at hf
  rw [← process_intermediate_eq, AtCommands.processLine, hr]
  simp only [hf.1, hf.2, Bool.false_eq_true, if_false]
  split
  · rename_i hs hl
    simp [hs, hl] at hp
  · rfl

lemma Phase.process (hr : d.response = some r) (ht : d.type = c.type) (hp : Phase c d.smsPDU r lines)
    (hk : r.finalResponse.isSome → d.changes r line = false) :
    ∃ smsPDU r', Processes d line (!(Exchange.mk none (some (c, lines))).own line) smsPDU r' ∧
      Phase c smsPDU r' (lines ++ [line]) := by
  cases hp with
  | collecting hn hf hi hs =>
    have hany : lines.any isFinalResponse = false := by simpa using hn
    cases hsuccess : isFinalResponseSuccess line with
    | true =>
      refine ⟨d.smsPDU, { r with success := true, finalResponse := some line }, ⟨?_, ?_, ?_⟩, ?_⟩
      · simp [AtCommands.processLine, hr, hsuccess, AtCommands.handleFinalResponse]
      · simp [AtCommands.processLine, hr, hsuccess, AtCommands.handleFinalResponse]
      · simp [AtCommands.processLine, hr, hsuccess, AtCommands.handleFinalResponse, Exchange.own, hany, isFinalResponse]
      · exact .answered hn (by simp [isFinalResponse, hsuccess]) rfl hsuccess.symm hi
    | false =>
      cases herror : isFinalResponseError line with
      | true =>
        refine ⟨d.smsPDU, { r with success := false, finalResponse := some line }, ⟨?_, ?_, ?_⟩, ?_⟩
        · simp [AtCommands.processLine, hr, hsuccess, herror, AtCommands.handleFinalResponse]
        · simp [AtCommands.processLine, hr, hsuccess, herror, AtCommands.handleFinalResponse]
        · simp [AtCommands.processLine, hr, hsuccess, herror, AtCommands.handleFinalResponse, Exchange.own, hany,
            isFinalResponse]
        · exact .answered hn (by simp [isFinalResponse, herror]) rfl hsuccess.symm hi
      | false =>
        have hfinal : isFinalResponse line = false := by simp [isFinalResponse, hsuccess, herror]
        have hn' : ∀ l ∈ lines ++ [line], isFinalResponse l = false := by
          intro l hl
          rcases List.mem_append.mp hl with hl | hl
          · exact hn l hl
          · rw [List.mem_singleton.mp hl]
            exact hfinal
        cases hprompt : c.answersPrompt lines line with
        | true =>
          simp only [AtCommand.answersPrompt, Bool.and_eq_true, beq_iff_eq, Bool.not_eq_true'] at hprompt
          obtain ⟨⟨hpdu, rfl⟩, hnot⟩ := hprompt
          obtain ⟨pdu, hpdu⟩ := Option.isSome_iff_exists.mp hpdu
          rw [hnot, if_neg Bool.false_ne_true, hpdu] at hs
          have hnot' : prompt ∉ lines := by simpa using hnot
          refine ⟨none, r, ⟨?_, ?_, ?_⟩, .collecting hn' hf ?_ ?_⟩
          · simp [AtCommands.processLine, hr, hsuccess, herror, hs]
          · simp [AtCommands.processLine, hr, hsuccess, herror, hs]
          · simpa [AtCommands.processLine, hr, hsuccess, herror, hs, Exchange.own, AtCommand.answersPrompt, hpdu, hnot'] using hn
          · rw [intermediates_snoc, if_pos (by simp [AtCommand.answersPrompt, hpdu, hnot']), hi]
          · simp
        | false =>
          have hwaits : (d.smsPDU.isSome && line == prompt) = false := by
            rw [hs]
            cases hc : lines.contains prompt with
            | true => rfl
            | false =>
              rw [AtCommand.answersPrompt, hc, Bool.not_false, Bool.and_true] at hprompt
              exact hprompt
          have hselects : c.selects lines line = (d.type.takes line && (d.type.several || r.intermediates.isEmpty)) := by
            rw [AtCommand.selects, ht, hi, List.isEmpty_reverse]
          have hpdu : d.smsPDU = if (lines ++ [line]).contains prompt then none else c.smspdu := by
            have hlast : (lines ++ [line]).contains prompt = (lines.contains prompt || line == prompt) := by
              rw [List.contains_append, List.contains_cons, List.contains_nil, Bool.or_false, Bool.beq_comm]
            rw [hlast, hs]
            rw [hs] at hwaits
            cases hc : lines.contains prompt with
            | true => rfl
            | false =>
              rw [hc] at hwaits
              cases hl : line == prompt with
              | false => rfl
              | true => simpa [hl] using hwaits
          cases hadds : c.selects lines line with
          | true =>
            refine ⟨d.smsPDU, { r with intermediates := line :: r.intermediates }, ⟨?_, ?_, ?_⟩,
              .collecting hn' hf ?_ hpdu⟩
            · simp [process_line_open hr hfinal hwaits, ← hselects, hadds, AtCommands.addIntermediate]
            · simp [process_line_open hr hfinal hwaits, ← hselects, hadds, AtCommands.addIntermediate]
            · simp [process_line_open hr hfinal hwaits, ← hselects, hadds, AtCommands.addIntermediate, Exchange.own, hany]
            · simp [intermediates_snoc, hprompt, hadds, hi]
          | false =>
            refine ⟨d.smsPDU, r, ⟨?_, ?_, ?_⟩, .collecting hn' hf ?_ hpdu⟩
            · simp [process_line_open hr hfinal hwaits, ← hselects, hadds, AtCommands.handleUnsolicited, hr]
            · simp [process_line_open hr hfinal hwaits, ← hselects, hadds, AtCommands.handleUnsolicited]
            · simp [process_line_open hr hfinal hwaits, ← hselects, hadds, AtCommands.handleUnsolicited, Exchange.own,
                hany, hfinal, hprompt]
            · simp [intermediates_snoc, hprompt, hadds, hi]
  | @answered lines late final hn hfinal hf hsuccess hi =>
    have hk := hk (by simp [hf])
    simp only [AtCommands.changes, Bool.or_eq_false_iff] at hk
    obtain ⟨⟨hl, hwaits⟩, hadds⟩ := hk
    refine ⟨d.smsPDU, r, ⟨?_, ?_, ?_⟩, ?_⟩
    · simp [process_line_open hr hl hwaits, hadds, AtCommands.handleUnsolicited, hr]
    · simp [process_line_open hr hl hwaits, hadds, AtCommands.handleUnsolicited]
    · simp [process_line_open hr hl hwaits, hadds, AtCommands.handleUnsolicited, Exchange.own, hfinal]
    · rw [List.append_assoc]
      exact .answered hn hfinal hf hsuccess hi

lemma process_line_frame (line : Bytes) (d : AtCommands) :
    (d.processLine line).log = d.log ∧ (d.processLine line).smsLine = d.smsLine ∧
      (d.processLine line).waiting = d.waiting ∧ (d.processLine line).type = d.type := by
  rw [AtCommands.processLine]
  split
  · exact ⟨rfl, rfl, rfl, rfl⟩
  split
  · exact ⟨rfl, rfl, rfl, rfl⟩
  split
  · exact ⟨rfl, rfl, rfl, rfl⟩
  split
  · exact ⟨rfl, rfl, rfl, rfl⟩
  rw [process_intermediate_eq]
  split
  · exact ⟨rfl, rfl, rfl, rfl⟩
  · exact ⟨rfl, rfl, rfl, rfl⟩

/-! ### The steps -/

lemma Exchanging.start : Exchanging {} where
  smsLine := rfl
  unsolicited := rfl
  command := .inl ⟨rfl, rfl, rfl⟩
  returned := by
    intro later r earlier hl
    simp at hl

lemma Exchanging.returns {error : Option AtError} {response : Option AtResponse} (h : Exchanging d)
    (hr : ∀ r, error = none → response = some r → Answers (exchange d.log) r) : Exchanging (d.returns error response) where
  smsLine := h.smsLine
  unsolicited := h.unsolicited
  command := .inl ⟨rfl, rfl, rfl⟩
  returned := by
    intro later r earlier hl
    rcases split_cons hl with ⟨-, he, rfl⟩ | ⟨later, -, hl'⟩
    · obtain ⟨he, hresponse⟩ := AtRecord.returned.inj he
      exact hr r he.symm hresponse.symm
    · exact h.returned later r earlier hl'

lemma Exchanging.issue {written : Bool} (h : Exchanging d) (hw : d.waiting.isSome = false) : Exchanging (d.issue c written) := by
  rcases h.command with hclosed | ⟨c', r, lines, hopen⟩
  · rw [AtCommands.issue, hclosed.response, Option.isSome_none, if_neg Bool.false_ne_true]
    split
    · exact h.returns (by simp)
    split
    · exact h.returns (by simp)
    refine ⟨h.smsLine, h.unsolicited, .inr ⟨c, {}, [], rfl, rfl, rfl, rfl, ?_⟩, ?_⟩
    · exact .collecting (by simp) rfl (by simp [AtCommand.intermediates, AtCommand.withoutPrompt]) rfl
    · intro later r earlier hl
      rcases split_cons hl with ⟨-, he, -⟩ | ⟨later, -, hl'⟩
      · cases he
      · exact h.returned later r earlier hl'
  · rw [hopen.waiting] at hw
    cases hw

lemma Exchanging.processLine (h : Exchanging d) (hs : d.smsLine = none) (hu : isSMSUnsolicited line = false)
    (hk : timely d (.line line) = true) : Exchanging (AtCommands.processLine line { d with log := .read line :: d.log }) := by
  obtain ⟨hlog, hsms, hwaiting, htype⟩ := process_line_frame line { d with log := .read line :: d.log }
  have he : (exchange d.log).smsLine = none := h.smsLine.trans hs
  have hreturned : ∀ later r earlier, AtRecord.read line :: d.log = later ++ .returned none (some r) :: earlier →
      Answers (exchange earlier) r := by
    intro later r earlier hl
    rcases split_cons hl with ⟨-, he, -⟩ | ⟨later, -, hl'⟩
    · cases he
    · exact h.returned later r earlier hl'
  have hexchange : exchange (.read line :: d.log) =
      { exchange d.log with command := (exchange d.log).command.map fun e => (e.1, e.2 ++ [line]) } := by
    simp [exchange, he, hu]
  rcases h.command with hclosed | ⟨c, r, lines, hopen⟩
  · have hp : AtCommands.processLine line { d with log := .read line :: d.log } =
        AtCommands.handleUnsolicited line { d with log := .read line :: d.log } := by
      simp [AtCommands.processLine, hclosed.response]
    rw [hp]
    refine ⟨?_, ?_, .inl ⟨hclosed.response, hclosed.waiting, ?_⟩, hreturned⟩
    · exact (congrArg Exchange.smsLine hexchange).trans h.smsLine
    · simp [AtCommands.handleUnsolicited, deliveries, he, hu, Exchange.own, hclosed.command, h.unsolicited]
    · exact (congrArg Exchange.command hexchange).trans (by rw [hclosed.command]; rfl)
  · have hk' : r.finalResponse.isSome → d.changes r line = false := by
      intro hf
      simpa [timely, hs, hu, hopen.response, hf] using hk
    obtain ⟨smsPDU, r', hprocesses, hphase⟩ :=
      Phase.process (d := { d with log := .read line :: d.log }) hopen.response hopen.type hopen.phase hk'
    have hown : (exchange d.log).own line = (Exchange.mk none (some (c, lines))).own line := by
      simp [Exchange.own, hopen.command]
    refine ⟨?_, ?_, .inr ⟨c, r', lines ++ [line], ?_⟩, ?_⟩
    · rw [hlog, hsms]
      exact (congrArg Exchange.smsLine hexchange).trans h.smsLine
    · rw [hlog, hprocesses.unsolicited]
      simp only [deliveries, he, hu, Bool.false_or, hown, h.unsolicited]
      cases (Exchange.mk none (some (c, lines))).own line with
      | false => rfl
      | true => rfl
    · refine ⟨hprocesses.response, hwaiting.trans hopen.waiting, htype.trans hopen.type, ?_, ?_⟩
      · rw [hlog]
        exact (congrArg Exchange.command hexchange).trans (by rw [hopen.command]; rfl)
      · rw [hprocesses.smsPDU]
        exact hphase
    · rw [hlog]
      exact hreturned

lemma Exchanging.readLine (h : Exchanging d) (hk : timely d (.line line) = true) : Exchanging (d.readLine line) := by
  have hreturned : ∀ later r earlier, AtRecord.read line :: d.log = later ++ .returned none (some r) :: earlier →
      Answers (exchange earlier) r := by
    intro later r earlier hl
    rcases split_cons hl with ⟨-, he, -⟩ | ⟨later, -, hl'⟩
    · cases he
    · exact h.returned later r earlier hl'
  -- a line of an SMS leaves the command as it is
  have hcommand (d' : AtCommands) (hr : d'.response = d.response) (hw : d'.waiting = d.waiting) (ht : d'.type = d.type)
      (hp : d'.smsPDU = d.smsPDU) (he : (exchange d'.log).command = (exchange d.log).command) :
      Closed d' ∨ ∃ c r lines, Open d' c r lines := by
    rcases h.command with hclosed | ⟨c, r, lines, hopen⟩
    · exact .inl ⟨hr.trans hclosed.response, hw.trans hclosed.waiting, he.trans hclosed.command⟩
    · exact .inr ⟨c, r, lines, hr.trans hopen.response, hw.trans hopen.waiting, ht.trans hopen.type, he.trans hopen.command,
        hp ▸ hopen.phase⟩
  rw [AtCommands.readLine]
  cases hs : d.smsLine with
  | some line1 =>
    have he : (exchange d.log).smsLine = some line1 := h.smsLine.trans hs
    refine ⟨?_, ?_, hcommand _ rfl rfl rfl rfl ?_, hreturned⟩
    · simp [exchange, he]
    · simp [deliveries, he, h.unsolicited]
    · simp [exchange, he]
  | none =>
    have he : (exchange d.log).smsLine = none := h.smsLine.trans hs
    cases hu : isSMSUnsolicited line with
    | true =>
      refine ⟨?_, ?_, hcommand _ rfl rfl rfl rfl ?_, hreturned⟩
      · simp [exchange, he, hu]
      · simp [deliveries, he, hu, h.unsolicited]
      · simp [exchange, he, hu]
    | false =>
      have hp := h.processLine hs hu hk
      rw [hs] at hp
      exact hp

lemma Phase.answers {e : Exchange} (hp : Phase c d.smsPDU r lines) (he : e.command = some (c, lines))
    (hf : r.finalResponse.isSome) : Answers e (AtCommands.reverseIntermediates r) := by
  cases hp with
  | collecting _ hn _ _ =>
    rw [hn] at hf
    cases hf
  | answered hn hfinal hr hsuccess hi =>
    refine ⟨c, _, _, _, he, hn, hfinal, ?_, hr, hsuccess⟩
    rw [AtCommands.reverseIntermediates, hi, List.reverse_reverse]

lemma Exchanging.wake {timedOut : Bool} (h : Exchanging d) (hw : d.waiting = some c) (hr : d.response = some r) :
    Exchanging (d.wake c r timedOut) := by
  rcases h.command with hclosed | ⟨c', r', lines, hopen⟩
  · rw [hclosed.waiting] at hw
    cases hw
  · obtain rfl : r' = r := Option.some.inj (hopen.response.symm.trans hr)
    rw [AtCommands.wake]
    split
    · exact h.returns (by simp)
    split
    · exact h
    rename_i hdone
    refine h.returns ?_
    intro r he hresponse
    cases hclosed : d.readerClosed with
    | true => simp [hclosed] at he
    | false =>
      have hf : r'.finalResponse.isSome := by simpa [hclosed, Option.isSome_iff_ne_none] using hdone
      obtain rfl : AtCommands.reverseIntermediates r' = r := by
        split at hresponse
        · exact Option.some.inj hresponse
        · cases hresponse
      exact hopen.phase.answers hopen.command hf

lemma Exchanging.step {a : AtAction} {d' : AtCommands} (h : Exchanging d) (hk : timely d a = true) (hs : atStep d a = some d') :
    Exchanging d' := by
  cases a with
  | issue c written =>
    simp only [atStep] at hs
    split at hs
    · cases hs
    · rename_i hw
      obtain rfl := Option.some.inj hs
      exact h.issue (by simpa using hw)
  | line line =>
    obtain rfl := Option.some.inj hs
    exact h.readLine hk
  | wake timedOut =>
    simp only [atStep] at hs
    split at hs
    · rename_i c r hw hr
      split at hs
      · cases hs
      · obtain rfl := Option.some.inj hs
        exact h.wake hw hr
    · cases hs
  | close =>
    obtain rfl := Option.some.inj hs
    refine ⟨h.smsLine, h.unsolicited, ?_, h.returned⟩
    rcases h.command with hclosed | ⟨c, r, lines, hopen⟩
    · exact .inl ⟨hclosed.response, hclosed.waiting, hclosed.command⟩
    · exact .inr ⟨c, r, lines, hopen.response, hopen.waiting, hopen.type, hopen.command, hopen.phase⟩

/-- While no late line changes a response, a response that is returned has the intermediate responses to its command and
its first final line, and every line that is not for a command is delivered once. -/
theorem at_responses_answer (h : Reaches atStep (fun d a => timely d a = true) {} d) :
    d.unsolicited = deliveries d.log ∧
      ∀ later r earlier, d.log = later ++ .returned none (some r) :: earlier → Answers (exchange earlier) r := by
  have hexchanging : Exchanging d := h.invariant .start fun _ _ _ _ hi hk hs => hi.step hk hs
  exact ⟨hexchanging.unsolicited, hexchanging.returned⟩

def smsCommand : AtCommand := { command := ascii "AT+CMGS=21", type := .singleline (ascii "+CMGS:"), smspdu := some (ascii "00") }

/-- A call and a message arrive while an SMS is sent, the status report after the final line. -/
def smsRun : List AtAction :=
  [.issue smsCommand true, .line (ascii "RING"), .line prompt, .line (ascii "+CMT: 23"), .line (ascii "07"),
    .line (ascii "+CMGS: 7"), .line (ascii "OK"), .line (ascii "+CMGS: 8"), .wake false]

theorem at_responses_answer_sms : ∃ d, run atStep {} smsRun = some d ∧ d.unsolicited = deliveries d.log ∧
    ∀ later r earlier, d.log = later ++ .returned none (some r) :: earlier → Answers (exchange earlier) r := by
  have hr : (run atStep {} smsRun).isSome = true := by decide
  obtain ⟨d, hd⟩ := Option.isSome_iff_exists.mp hr
  exact ⟨d, hd, at_responses_answer (.of_run smsRun hd (by decide : runMeets _ timely _ _ = true) fun _ _ h => h)⟩

/-- The prompt that is answered with the PDU is not final and no intermediate response, and it is not delivered. -/
theorem prompt_not_delivered : ∃ d, run atStep {} smsRun = some d ∧ .read prompt ∈ d.log ∧ isFinalResponse prompt = false ∧
    smsCommand.type.takes prompt = false ∧ ∀ delivery ∈ d.unsolicited, delivery.1 ≠ prompt ∧ delivery.2 ≠ some prompt := by
  refine ⟨(run atStep {} smsRun).get (by decide), (Option.some_get _).symm, ?_⟩
  decide

end Ril.Reference
