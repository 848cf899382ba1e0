import Ril.Lib.CString
import Ril.Lib.Socket
import Ril.Lib.Transition

/-! The line reader of the AT channel. -/

namespace Ril.Reference

open Lib

abbrev Bytes := List UInt8

def maxAtResponse : ℕ := 8192

/-- `sizeof(s_ATBuffer)` -/
def atBufferSize : ℕ := maxAtResponse + 1

/-- The bytes behind the buffer belong to the memory as well. -/
structure AtChannel where
  memory : ℕ → UInt8
  cur : ℕ
  /-- where the data was ended last; the program does not keep it -/
  dataEnd : ℕ
  stream : Bytes
  /-- what the reads have brought -/
  received : List Bytes

def atChannel (stream : Bytes) : AtChannel := ⟨fun _ => 0, 0, 0, stream, []⟩

def isNewline (b : UInt8) : Bool := b == 0x0d || b == 0x0a

def isInLine (b : UInt8) : Bool := b != 0 && !isNewline b

def prompt : Bytes := [0x3e, 0x20]

/-- The steps of a scan that stay in the buffer -/
def stepsLeft (cur : ℕ) : ℕ := atBufferSize - cur

def skipNewlines (memory : ℕ → UInt8) (cur : ℕ) : ℕ := scanWhile isNewline memory (stepsLeft cur) cur

def strlen (memory : ℕ → UInt8) (cur : ℕ) : ℕ := scanWhile (· != 0) memory (stepsLeft cur) cur - cur

def cString (memory : ℕ → UInt8) (cur : ℕ) : Bytes := cellsAt memory cur (strlen memory cur)

def findNextEOL (memory : ℕ → UInt8) (cur : ℕ) : Option ℕ :=
  if memory cur = 0x3e ∧ memory (cur + 1) = 0x20 ∧ memory (cur + 2) = 0 then some (cur + 2)
  else
    let cur := scanWhile isInLine memory (stepsLeft cur) cur
    if memory cur = 0 then none else some cur

/-- `closed` stands for NULL. A call that `waits` has not returned. -/
inductive ReadLine
  | line (bytes : Bytes)
  | closed
  | waits
deriving DecidableEq, Repr

/-- The end of `readline` -/
def takeLine (st : AtChannel) (eol : ℕ) : ReadLine × AtChannel :=
  let memory := Function.update st.memory eol 0
  (.line (cString memory st.cur), { st with memory := memory, cur := eol + 1 })

def ditch (st : AtChannel) : AtChannel :=
  { st with memory := Function.update st.memory 0 0, cur := 0, dataEnd := 0 }

/-- The `while` loop, from the test of the space on. The rest of the events is for the next call. -/
def readMore : List ReadEvent → AtChannel → ℕ → ReadLine × AtChannel × List ReadEvent
  | [], st, _ => (.waits, st, [])
  | event :: events, st, pRead =>
    let full := maxAtResponse - pRead = 0
    let st := if full then ditch st else st
    let pRead := if full then 0 else pRead
    match readSocket event (maxAtResponse - pRead) st.stream with
    | .error .eintr => readMore events st pRead
    | .error _ => (.closed, st, events)
    | .ok data =>
      if data.length = 0 then (.closed, st, events)
      else
        let memory := Function.update (storeAt st.memory pRead data) (pRead + data.length) 0
        let st :=
          { memory := memory, cur := skipNewlines memory st.cur, dataEnd := pRead + data.length,
            stream := st.stream.drop data.length, received := st.received ++ [data] }
        match findNextEOL memory st.cur with
        | none => readMore events st (pRead + data.length)
        | some eol => ((takeLine st eol).1, (takeLine st eol).2, events)

def readline (events : List ReadEvent) (st : AtChannel) : ReadLine × AtChannel × List ReadEvent :=
  if st.memory st.cur = 0 then readMore events (ditch st) 0
  else
    let st := { st with cur := skipNewlines st.memory st.cur }
    match findNextEOL st.memory st.cur with
    | none =>
      let len := strlen st.memory st.cur
      let memory := storeAt st.memory 0 (cellsAt st.memory st.cur (len + 1))
      readMore events { st with memory := memory, cur := 0, dataEnd := len } len
    | some eol => ((takeLine st eol).1, (takeLine st eol).2, events)

/-- So many calls, one after the other -/
def readlineRun : ℕ → List ReadEvent → AtChannel → List ReadLine × AtChannel × List ReadEvent
  | 0, events, st => ([], st, events)
  | calls + 1, events, st =>
    let result := readline events st
    let rest := readlineRun calls result.2.2 result.2.1
    (result.1 :: rest.1, rest.2)

end Ril.Reference

/-! The commands of the AT channel: the reader thread, which sorts the lines, and the thread that has issued a command.
What one of them does with `s_commandmutex` is one step. -/

namespace Ril.Reference

open Lib

def ascii (s : String) : Bytes := s.toList.map fun c => UInt8.ofNat c.toNat

def strStartsWith (line start : Bytes) : Bool := start.isPrefixOf line

def isDigit (b : UInt8) : Bool := 0x30 ≤ b.toNat && b.toNat ≤ 0x39

/-- `s_type`, with `s_responsePrefix` for the types that have one -/
inductive AtCommandType
  | noResult
  | numeric
  | singleline (responsePrefix : Bytes)
  | multiline (responsePrefix : Bytes)
deriving DecidableEq, Repr

/-- The intermediate responses are in the order of their list. -/
structure AtResponse where
  success : Bool := false
  finalResponse : Option Bytes := none
  intermediates : List Bytes := []
deriving DecidableEq, Repr

inductive AtError
  | generic | commandPending | channelClosed | timeout | invalidResponse
deriving DecidableEq, Repr

/-- The arguments of `at_send_command_full` -/
structure AtCommand where
  command : Bytes
  type : AtCommandType
  smspdu : Option Bytes := none
  timeout : Bool := false
  outResponse : Bool := true
deriving DecidableEq, Repr

inductive AtRecord
  | issued (command : AtCommand)
  | read (line : Bytes)
  | returned (error : Option AtError) (response : Option AtResponse)
deriving DecidableEq, Repr

/-- `smsLine` is the first line of an SMS in the reader thread, `waiting` the command whose thread is in the wait. What
was delivered to the unsolicited handler and what was written after a prompt come newest first, as the records do. -/
structure AtCommands where
  response : Option AtResponse := none
  type : AtCommandType := .noResult
  smsPDU : Option Bytes := none
  readerClosed : Bool := false
  smsLine : Option Bytes := none
  waiting : Option AtCommand := none
  unsolicited : List (Bytes × Option Bytes) := []
  prompted : List Bytes := []
  log : List AtRecord := []

def finalResponsesError : List Bytes :=
  ["ERROR", "+CMS ERROR:", "+CME ERROR:", "NO CARRIER", "NO ANSWER", "NO DIALTONE"].map ascii

def isFinalResponseError (line : Bytes) : Bool := finalResponsesError.any (strStartsWith line)

def finalResponsesSuccess : List Bytes := ["OK", "CONNECT"].map ascii

def isFinalResponseSuccess (line : Bytes) : Bool := finalResponsesSuccess.any (strStartsWith line)

def isFinalResponse (line : Bytes) : Bool := isFinalResponseSuccess line || isFinalResponseError line

def smsUnsoliciteds : List Bytes := ["+CMT:", "+CDS:", "+CBM:"].map ascii

def isSMSUnsolicited (line : Bytes) : Bool := smsUnsoliciteds.any (strStartsWith line)

namespace AtCommands

def handleUnsolicited (line : Bytes) (d : AtCommands) : AtCommands :=
  { d with unsolicited := (line, none) :: d.unsolicited }

def addIntermediate (r : AtResponse) (line : Bytes) (d : AtCommands) : AtCommands :=
  { d with response := some { r with intermediates := line :: r.intermediates } }

def handleFinalResponse (r : AtResponse) (line : Bytes) (d : AtCommands) : AtCommands :=
  { d with response := some { r with finalResponse := some line } }

/-- The switch of `processLine` -/
def processIntermediate (r : AtResponse) (line : Bytes) (d : AtCommands) : AtCommands :=
  match d.type with
  | .noResult => d.handleUnsolicited line
  | .numeric =>
    if r.intermediates.isEmpty && (line.head?.any isDigit) then d.addIntermediate r line
    else d.handleUnsolicited line
  | .singleline responsePrefix =>
    if r.intermediates.isEmpty && strStartsWith line responsePrefix then d.addIntermediate r line
    else d.handleUnsolicited line
  | .multiline responsePrefix =>
    if strStartsWith line responsePrefix then d.addIntermediate r line else d.handleUnsolicited line

def processLine (line : Bytes) (d : AtCommands) : AtCommands :=
  match d.response with
  | none => d.handleUnsolicited line
  | some r =>
    if isFinalResponseSuccess line then d.handleFinalResponse { r with success := true } line
    else if isFinalResponseError line then d.handleFinalResponse { r with success := false } line
    else
      match d.smsPDU, line == prompt with
      | some pdu, true => { d with prompted := pdu :: d.prompted, smsPDU := none }
      | _, _ => d.processIntermediate r line

/-- What `readerLoop` does with a line -/
def readLine (line : Bytes) (d : AtCommands) : AtCommands :=
  let d := { d with log := .read line :: d.log }
  match d.smsLine with
  | some line1 => { d with smsLine := none, unsolicited := (line1, some line) :: d.unsolicited }
  | none => if isSMSUnsolicited line then { d with smsLine := some line } else d.processLine line

def clearPendingCommand (d : AtCommands) : AtCommands := { d with response := none, smsPDU := none }

def returns (error : Option AtError) (response : Option AtResponse) (d : AtCommands) : AtCommands :=
  { d.clearPendingCommand with waiting := none, log := .returned error response :: d.log }

def reverseIntermediates (r : AtResponse) : AtResponse := { r with intermediates := r.intermediates.reverse }

/-- `at_send_command_full_nolock` up to the wait. `written` tells whether the command could be written. -/
def issue (c : AtCommand) (written : Bool) (d : AtCommands) : AtCommands :=
  if d.response.isSome then d.returns (some .commandPending) none
  else if d.readerClosed then d.returns (some .channelClosed) none
  else if !written then d.returns (some .generic) none
  else { d with
    type := c.type, smsPDU := c.smspdu, response := some {}, waiting := some c, log := .issued c :: d.log }

/-- The wait is over, or has timed out. A wait without a final response goes on. -/
def wake (c : AtCommand) (r : AtResponse) (timedOut : Bool) (d : AtCommands) : AtCommands :=
  if timedOut then d.returns (some .timeout) none
  else if r.finalResponse.isNone && !d.readerClosed then d
  else
    d.returns (if d.readerClosed then some .channelClosed else none)
      (if c.outResponse then some (reverseIntermediates r) else none)

end AtCommands

inductive AtAction
  | issue (command : AtCommand) (written : Bool)
  | line (line : Bytes)
  | wake (timedOut : Bool)
  | close
deriving DecidableEq, Repr

/-- `at_close` and the end of the reader thread set `s_readerClosed`. -/
def atStep (d : AtCommands) : AtAction → Option AtCommands
  | .issue c written => if d.waiting.isSome then none else some (d.issue c written)
  | .line line => some (d.readLine line)
  | .wake timedOut =>
    match d.waiting, d.response with
    | some c, some r => if timedOut && !c.timeout then none else some (d.wake c r timedOut)
    | _, _ => none
  | .close => some { d with readerClosed := true }

end Ril.Reference
