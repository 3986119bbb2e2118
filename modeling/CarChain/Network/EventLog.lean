import CarChain.Library.CDecimal
import CarChain.Library.CText
import CarChain.Model.Server
import CarChain.Model.Stub

/-! The log of the server (`log.c`, `network_server.c`).

Each thread builds the entry of an event and hands it to `WriteLog`, which prints it under a
mutex, so the text of the log is that of its calls one after the other. The strings of a
request are printed as they are.
-/

namespace CarChain

open CRuntime CStandard

-----------------------------------------------------------------------------------------
-- log.c
-----------------------------------------------------------------------------------------

namespace Opcode

abbrev opOrder : Int32 := 70

end Opcode

namespace EventType

abbrev connect : Int32 := 0
abbrev request : Int32 := 1
abbrev close : Int32 := 2

end EventType

/-- `struct ServerLog`; of the time only `tv_sec` is read. -/
structure ServerLog where
  tv : Option Int64
  client : Option CString
  eventType : Int32
  opcode : Int32
  ctype : Int32
  content : Option CString
  argument : Option (List (Option CString))
  deriving DecidableEq

def opcodeToString (opcode : Int32) : CString :=
  if opcode = Opcode.opAdd then .literal "OP_ADD"
  else if opcode = Opcode.opGet then .literal "OP_GET"
  else if opcode = Opcode.opDel then .literal "OP_DEL"
  else if opcode = Opcode.opSize then .literal "OP_SIZE"
  else if opcode = Opcode.opGetmodels then .literal "OP_GETMODELS"
  else if opcode = Opcode.opGetlistbytear then .literal "OP_GETLISTBYTEAR"
  else if opcode = Opcode.opOrder then .literal "OP_ORDER"
  else if opcode = Opcode.opError then .literal "OP_ERROR"
  else .literal "OP_UNKNOWN"

def cTypeToString (ctype : Int32) : CString :=
  if ctype = CType.ctBad then .literal "CT_BAD"
  else if ctype = CType.ctData then .literal "CT_DATA"
  else if ctype = CType.ctMarca then .literal "CT_MARCA"
  else if ctype = CType.ctYear then .literal "CT_YEAR"
  else if ctype = CType.ctModel then .literal "CT_MODEL"
  else if ctype = CType.ctResult then .literal "CT_RESULT"
  else if ctype = CType.ctList then .literal "CT_LIST"
  else if ctype = CType.ctNone then .literal "CT_NONE"
  else .literal "CT_UNKNOWN"

/-- `FreeServerLog` walks the arguments up to the NULL behind them. -/
def freeServerLog : Option ServerLog → Mem Int32
  | none => pure (-1)
  | some log =>
      match log.argument with
      | none => pure 0
      | some cells => do
          let _ ← countToNull cells
          return 0

/-- What `%s` prints; the library prints a text of its own for NULL. -/
def percentS (text : Option CString) : List UInt8 := (text.getD (.literal "(null)")).bytes

/-- The content once more, unless it is NULL or empty. -/
def printContent : Option CString → List UInt8
  | none => []
  | some content => if 0 < content.strlen then 32 :: content.bytes else []

/-- The arguments up to NULL, each behind a space. -/
def printArguments : List (Option CString) → Mem (List UInt8)
  | [] => throw .outOfBounds
  | none :: _ => pure []
  | some argument :: rest => do return 32 :: argument.bytes ++ (← printArguments rest)

def printArgument : Option (List (Option CString)) → Mem (List UInt8)
  | none => pure []
  | some cells => printArguments cells

/-- The line of a request with these arguments. -/
def printRequest (log : ServerLog) (arguments : List UInt8) : List UInt8 :=
  (CString.literal "REQUEST ").bytes
    ++ (opcodeToString log.opcode).bytes ++ [32]
    ++ (cTypeToString log.ctype).bytes ++ [32] ++ percentS log.content
    ++ printContent log.content ++ arguments

/-- What follows the time and the client in an entry. -/
def printEvent (log : ServerLog) : Mem (List UInt8) :=
  if log.eventType = EventType.connect then
    pure (CString.literal "CONNECT\n").bytes
  else if log.eventType = EventType.request then do
    let arguments ← printArgument log.argument
    return printRequest log arguments ++ [10]
  else if log.eventType = EventType.close then
    pure (CString.literal "CLOSE\n").bytes
  else
    pure (CString.literal "UNKNOWN EVENT\n").bytes

/-- `WriteLog` on an open file: what it appends and what it returns. -/
def writeLog : Option ServerLog → Mem (List UInt8 × Int32)
  | none => pure ([], -1)
  | some log =>
      match log.tv, log.client with
      | some seconds, some client =>
          if log.eventType < EventType.connect ∨ EventType.close < log.eventType then
            return ([], ← freeServerLog (some log))
          else do
            let event ← printEvent log
            let text := signedDecimal seconds.toInt ++ [32] ++ client.bytes ++ [32] ++ event
            return (text, ← freeServerLog (some log))
      | _, _ => return ([], ← freeServerLog (some log))

-----------------------------------------------------------------------------------------
-- network_server.c
-----------------------------------------------------------------------------------------

/-- The address of a client: the bytes of `sin_addr` and the port in the order of the host. -/
structure ClientAddress where
  sinAddr : UInt8 × UInt8 × UInt8 × UInt8
  sinPort : UInt16
  deriving DecidableEq

/-- `inet_ntoa`. -/
def inetNtoa (sinAddr : UInt8 × UInt8 × UInt8 × UInt8) : CString :=
  let part (byte : UInt8) : CString := .ofInt byte.toNat
  let (a, b, c, d) := sinAddr
  part a ++ .literal "." ++ part b ++ .literal "." ++ part c ++ .literal "." ++ part d

/-- The host and the port of a client as `%s:%d` prints them. -/
def ClientAddress.text (address : ClientAddress) : CString :=
  inetNtoa address.sinAddr ++ ⟨[58], by decide⟩ ++ .ofInt address.sinPort.toNat

/-- `addrstr`, a buffer of 64 bytes. -/
def ClientAddress.addrstr (address : ClientAddress) : CString := address.text.truncate 64

/-- What the server logs: a client connects, sends a request or is gone. -/
inductive Occurrence where
  | connect
  | request (message : MessageT)
  | close
  deriving DecidableEq

/-- An event with its time, as `gettimeofday` gives it, and its client. -/
structure LogEvent where
  time : Int64
  address : ClientAddress
  occurrence : Occurrence
  deriving DecidableEq

def marcaName (marca : Int32) : CString :=
  if marca = 0 then .literal "Toyota"
  else if marca = 1 then .literal "BMW"
  else if marca = 2 then .literal "Renault"
  else if marca = 3 then .literal "Audi"
  else if marca = 4 then .literal "Mercedes"
  else .literal "Unknown"

/-- The arguments of the entry for a car, all of them or NULL. -/
def dataArgument (data : Data) : Mem (Option (List (Option CString))) := do
  if !(← malloc) then return none
  let marca ← strdup (marcaName data.marca)
  let modelo ← strdup (data.modelo.getD (.literal ""))
  let ano ← strdup ((CString.ofInt data.ano.toInt).truncate 32)
  if marca = none ∨ modelo = none ∨ ano = none then return none
  return some [marca, modelo, ano, none]

/-- `request->n_models > 0 && request->models[0]`: the model, if there is one. -/
def headModel (request : MessageT) : Mem (Option CString) :=
  if request.nModels = 0 then pure none
  else
    match request.models with
    | none => throw .nullDereference
    | some [] => throw .outOfBounds
    | some (model :: _) => pure model

/-- The content of the entry for a request without a car to list. -/
def requestContent (request : MessageT) : Mem (Option CString) := do
  match ← if request.cType = CType.ctModel then headModel request else pure none with
  | some model => strdup model
  | none =>
      if request.cType = CType.ctNone then
        strdup (.literal "")
      else
        match request.data.bind Data.modelo with
        | some modelo => strdup modelo
        | none =>
            match ← headModel request with
            | some model => strdup model
            | none => strdup (.literal "")

/-- The entry for a connection, which the others start from. -/
def connectEntry (time : Int64) (client : CString) : ServerLog where
  tv := some time
  client := some client
  eventType := EventType.connect
  opcode := Opcode.opBad
  ctype := CType.ctNone
  content := none
  argument := none

/-- What `serve_client` adds to the entry for a request. -/
def requestEntry (log : ServerLog) (request : MessageT) : Mem ServerLog := do
  let log : ServerLog :=
    {
      log with
      eventType := EventType.request
      opcode := request.opcode
      ctype := request.cType
    }
  match if request.cType = CType.ctData then request.data else none with
  | some data =>
      let argument ← dataArgument data
      let content ← strdup (.literal "")
      return { log with argument, content }
  | none => return { log with content := ← requestContent request }

/-- The entry that `network_main_loop` or `serve_client` builds for an event; NULL without
memory for it, its time or its client.
-/
def logEntry (event : LogEvent) : Mem (Option ServerLog) := do
  if !(← malloc) then return none
  if !(← malloc) then return none
  match ← strdup event.address.addrstr with
  | none => return none
  | some client =>
      let log := connectEntry event.time client
      match event.occurrence with
      | .connect => return some log
      | .request request => return some (← requestEntry log request)
      | .close => return some { log with eventType := EventType.close }

/-- What is appended for an event; `none` when there is no entry to write. -/
def logEvent (event : LogEvent) : Mem (Option (List UInt8)) := do
  match ← logEntry event with
  | none => return none
  | some log =>
      let (text, result) ← writeLog (some log)
      if result ≠ 0 then
        let _ ← freeServerLog (some log)
      return some text

/-- The events whose entries are written, and what is appended for them in this order. Each
event comes with the outcomes of the allocations made for its entry.
-/
def logEvents : List (LogEvent × List Bool) → Except Fault (List LogEvent × List UInt8)
  | [] => .ok ([], [])
  | (event, script) :: later => do
      let (appended, _) ← (logEvent event).run script
      let (logged, text) ← logEvents later
      match appended with
      | none => return (logged, text)
      | some line => return (event :: logged, line ++ text)

-----------------------------------------------------------------------------------------
-- One line an event
-----------------------------------------------------------------------------------------

/-- The time and the client of an event as its line starts with them. -/
def LogEvent.stamp (event : LogEvent) : List UInt8 :=
  signedDecimal event.time.toInt ++ [32] ++ event.address.text.bytes ++ [32]

/-- The text is one newline-terminated line for each event, in order, each of which starts
with the time and the client of its event.
-/
def OneLinePerEvent (logged : List LogEvent) (text : List UInt8) : Prop :=
  ∃ lines,
    text = unlines lines
    ∧ (∀ line ∈ lines, 10 ∉ line)
    ∧ List.Forall₂ (fun event line => event.stamp <+: line) logged lines

/-- The first model of a request, if it brings one. -/
def MessageT.firstText (request : MessageT) : Option CString :=
  (request.models.getD []).head?.join

/-- A request that is logged by its car. -/
def MessageT.ListsCar (request : MessageT) : Prop :=
  request.cType = CType.ctData ∧ request.data ≠ none

instance (request : MessageT) : Decidable request.ListsCar :=
  inferInstanceAs (Decidable (_ ∧ _))

/-- The string of a request that its entry shows: the model of the car in a request with a car,
the first model in a request with a model, nothing in a request without content, and in any
other the model of its car or else its first model.
-/
def MessageT.shown (request : MessageT) : Option CString :=
  if request.ListsCar then
    request.data.bind Data.modelo
  else if request.cType = CType.ctModel ∧ request.firstText ≠ none then
    request.firstText
  else if request.cType = CType.ctNone then
    none
  else
    (request.data.bind Data.modelo).or request.firstText

/-- The allocations that showing the string takes: its copy, or the array of the arguments and
a copy of each.
-/
def MessageT.shownAllocations (request : MessageT) : Nat := if request.ListsCar then 4 else 1

/-- A request that shows a newline, when there is memory for the string. -/
def MessageT.ShowsNewline (request : MessageT) (script : List Bool) : Prop :=
  (∃ text, request.shown = some text ∧ 10 ∈ text.bytes)
  ∧ grants request.shownAllocations script = true

/-- An event that puts a newline inside its entry: a request that shows one, when there is also
memory for the entry, its time and its client.
-/
def LogEvent.BreaksLine (event : LogEvent) (script : List Bool) : Prop :=
  ∃ request,
    event.occurrence = .request request
    ∧ grants 3 script = true
    ∧ request.ShowsNewline (script.drop 3)

-----------------------------------------------------------------------------------------
-- Printed entries
-----------------------------------------------------------------------------------------

/-- The buffer holds every address. -/
theorem ClientAddress.addrstr_eq (address : ClientAddress) : address.addrstr = address.text := by
  obtain ⟨⟨a, b, c, d⟩, port⟩ := address
  have part (byte : UInt8) : (CString.ofInt byte.toNat).bytes.length ≤ 3 :=
    @length_decimal_le 2 byte.toNat (Nat.lt_trans byte.toNat_lt (by decide))
  have number : (CString.ofInt port.toNat).bytes.length ≤ 5 :=
    @length_decimal_le 4 port.toNat (Nat.lt_trans port.toNat_lt (by decide))
  have dot : (CString.literal ".").bytes.length = 1 := rfl
  have first := part a
  have second := part b
  have third := part c
  have fourth := part d
  refine CString.truncate_of_lt ?_
  simp only [text, inetNtoa, CString.strlen, CString.append_bytes, List.length_append, dot,
    List.length_singleton]
  omega

theorem opcodeToString_single (opcode : Int32) : 10 ∉ (opcodeToString opcode).bytes := by
  unfold opcodeToString
  split_ifs <;> decide

theorem cTypeToString_single (ctype : Int32) : 10 ∉ (cTypeToString ctype).bytes := by
  unfold cTypeToString
  split_ifs <;> decide

theorem marcaName_single (marca : Int32) : 10 ∉ (marcaName marca).bytes := by
  unfold marcaName
  split_ifs <;> decide

theorem ClientAddress.text_single (address : ClientAddress) : 10 ∉ address.text.bytes := by
  have digits (value : Int) : 10 ∉ (CString.ofInt value).bytes :=
    notMem_signedDecimal (by decide)
  have dot : 10 ∉ (CString.literal ".").bytes := by decide
  simp [text, inetNtoa, digits, dot]

theorem LogEvent.stamp_single (event : LogEvent) : 10 ∉ event.stamp := by
  have time : 10 ∉ signedDecimal event.time.toInt := notMem_signedDecimal (by decide)
  simp [stamp, time, event.address.text_single]

/-- The arguments of an entry. -/
def ServerLog.arguments (log : ServerLog) : List CString :=
  (log.argument.getD []).filterMap id

/-- The strings of an entry that its caller may have taken from a request. -/
def ServerLog.strings (log : ServerLog) : List CString := log.content.toList ++ log.arguments

/-- An entry that shows a newline. -/
def ServerLog.ShowsNewline (log : ServerLog) : Prop :=
  log.eventType = EventType.request ∧ ∃ text ∈ log.strings, 10 ∈ text.bytes

/-- An entry for an event: its time and its client are set, and it has no arguments or an array
of them that ends in NULL.
-/
structure ServerLog.EntryOf (log : ServerLog) (event : LogEvent) : Prop where
  tv : log.tv = some event.time
  client : log.client = some event.address.text
  kind
    : log.eventType = EventType.connect
      ∨ log.eventType = EventType.request
      ∨ log.eventType = EventType.close
  argument : log.argument = none ∨ ∃ items, log.argument = some (nullTerminated items)

theorem printArguments_nullTerminated (items : List CString)
    : printArguments (nullTerminated items)
      = pure (items.flatMap (fun item => 32 :: item.bytes)) := by
  induction items with
  | nil => rfl
  | cons item rest ih =>
      have step : printArguments (nullTerminated (item :: rest))
          = (do return 32 :: item.bytes ++ (← printArguments (nullTerminated rest))) := rfl
      rw [step, ih]
      rfl

variable {log : ServerLog} {event : LogEvent}

/-- The arguments of an entry are printed one after the other. -/
theorem printArgument_eq (entry : log.EntryOf event)
    : printArgument log.argument = pure (log.arguments.flatMap (fun item => 32 :: item.bytes)) := by
  rcases entry.argument with absent | ⟨items, cells⟩
  · rw [absent, ServerLog.arguments, absent]
    rfl
  · rw [cells, printArgument, printArguments_nullTerminated, ServerLog.arguments, cells]
    simp [nullTerminated]

/-- Printing the content twice adds no newline that it does not hold. -/
theorem mem_printContent (content : Option CString)
    : 10 ∈ percentS content ++ printContent content ↔ ∃ text ∈ content, 10 ∈ text.bytes := by
  cases content with
  | none => exact iff_of_false (by decide) (by simp)
  | some text =>
      have twice : 10 ∈ printContent (some text) → 10 ∈ text.bytes := by
        rw [printContent]
        split <;> simp
      simpa [percentS] using twice

/-- The line of a request holds the newlines of its strings. -/
theorem mem_printRequest (log : ServerLog)
    : 10 ∈ printRequest log (log.arguments.flatMap (fun item => 32 :: item.bytes))
      ↔ ∃ text ∈ log.strings, 10 ∈ text.bytes := by
  have word : 10 ∉ (CString.literal "REQUEST ").bytes := by decide
  have content := mem_printContent log.content
  rw [List.mem_append] at content
  have opcode := opcodeToString_single log.opcode
  have ctype := cTypeToString_single log.ctype
  have arguments
      : 10 ∈ log.arguments.flatMap (fun item => 32 :: item.bytes)
        ↔ ∃ text ∈ log.arguments, 10 ∈ text.bytes := by
    simp
  have space : (10 : UInt8) ∉ [(32 : UInt8)] := by decide
  simp only [printRequest, List.mem_append, word, opcode, ctype, space, false_or,
    ServerLog.strings, arguments, content, or_and_right, exists_or, Option.mem_toList,
    Option.mem_def]

/-- The line of an entry ends in a newline, and it holds others where its strings do. -/
theorem printEvent_ends (entry : log.EntryOf event)
    : ∃ body,
        printEvent log = pure (body ++ [10])
        ∧ (10 ∈ body ↔ log.ShowsNewline) := by
  rcases entry.kind with connect | request | close
  · refine ⟨(CString.literal "CONNECT").bytes, ?_, iff_of_false (by decide) ?_⟩
    · rw [printEvent, if_pos connect]
      rfl
    · intro shows
      exact absurd (connect.symm.trans shows.1) (by decide)
  · have differ : ¬log.eventType = EventType.connect := by
      rw [request]
      decide
    refine ⟨_, ?_, mem_printRequest log |>.trans ?_⟩
    · rw [printEvent, if_neg differ, if_pos request, printArgument_eq entry, pure_bind]
    · rw [ServerLog.ShowsNewline, and_iff_right request]
  · have first : ¬log.eventType = EventType.connect := by
      rw [close]
      decide
    have second : ¬log.eventType = EventType.request := by
      rw [close]
      decide
    refine ⟨(CString.literal "CLOSE").bytes, ?_, iff_of_false (by decide) ?_⟩
    · rw [printEvent, if_neg first, if_neg second, if_pos close]
      rfl
    · intro shows
      exact second shows.1

/-- `WriteLog` appends an entry whole: the time and the client of its event, then its line. -/
theorem writeLog_ends (entry : log.EntryOf event)
    : ∃ body,
        writeLog (some log) = pure (event.stamp ++ body ++ [10], 0)
        ∧ (10 ∈ body ↔ log.ShowsNewline) := by
  obtain ⟨body, printed, shows⟩ := printEvent_ends entry
  have within : ¬(log.eventType < EventType.connect ∨ EventType.close < log.eventType) := by
    rcases entry.kind with kind | kind | kind <;> (rw [kind]; decide)
  have freed : freeServerLog (some log) = pure 0 := by
    rw [freeServerLog]
    rcases entry.argument with absent | ⟨items, cells⟩
    · rw [absent]
    · rw [cells]
      dsimp only
      rw [countToNull_nullTerminated, pure_bind]
  refine ⟨body, ?_, shows⟩
  rw [writeLog, entry.tv, entry.client]
  dsimp only
  rw [if_neg within, printed, pure_bind, freed, pure_bind, LogEvent.stamp]
  simp only [List.append_assoc]

-----------------------------------------------------------------------------------------
-- Entries of requests
-----------------------------------------------------------------------------------------

/-- The array of arguments is made with four allocations, or not at all. -/
theorem run_dataArgument (data : Data) (script : List Bool)
    : ∃ rest,
        (dataArgument data).run script
        = .ok (
            if grants 4 script then
              some (
                nullTerminated [
                  marcaName data.marca,
                  data.modelo.getD (.literal ""),
                  (CString.ofInt data.ano.toInt).truncate 32
                ]
              )
            else
              none,
            rest
          ) := by
  rcases script with _ | ⟨_ | _, _ | ⟨_ | _, _ | ⟨_ | _, _ | ⟨_ | _, rest⟩⟩⟩⟩ <;> exact ⟨_, rfl⟩

section

variable {request : MessageT}

/-- The first model is read where there is one. -/
theorem headModel_eq (unpacked : request.Unpacked)
    : headModel request = pure request.firstText := by
  obtain ⟨texts, counted, cells⟩ := unpacked.models
  rw [headModel, MessageT.firstText, counted, cells]
  cases texts <;> rfl

/-- The content is a copy of the string that is shown, or of an empty one. -/
theorem requestContent_eq (unpacked : request.Unpacked) (other : ¬request.ListsCar)
    : requestContent request = strdup (request.shown.getD (.literal "")) := by
  have model : CType.ctModel ≠ CType.ctNone := by decide
  rw [requestContent, MessageT.shown, if_neg other, headModel_eq unpacked]
  by_cases typed : request.cType = CType.ctModel
  · cases first : request.firstText with
    | some text => simp [typed]
    | none => cases request.data.bind Data.modelo <;> simp [typed, model]
  · by_cases none : request.cType = CType.ctNone
    · simp [none, model.symm]
    · cases request.data.bind Data.modelo with
      | some modelo => simp [typed, none]
      | none => cases request.firstText <;> simp [typed, none]

/-- The entry for a request with a car shows the model of the car among its arguments. -/
theorem run_requestEntry_car (unpacked : request.Unpacked) (car : request.ListsCar)
    (tv : log.tv = some event.time) (client : log.client = some event.address.text)
    (script : List Bool)
    : ∃ entry rest,
        (requestEntry log request).run script = .ok (entry, rest)
        ∧ entry.EntryOf event
        ∧ (entry.ShowsNewline ↔ request.ShowsNewline script) := by
  obtain ⟨data, brought⟩ := Option.ne_none_iff_exists'.mp car.2
  obtain ⟨modelo, named⟩ := Option.ne_none_iff_exists'.mp (unpacked.data data brought)
  obtain ⟨rest, ran⟩ := run_dataArgument data script
  have shown : request.shown = some modelo := by
    rw [MessageT.shown, if_pos car, brought]
    exact named
  have needed : request.shownAllocations = 4 := if_pos car
  have empty : 10 ∉ (CString.literal "").bytes := by decide
  have year : 10 ∉ ((CString.ofInt data.ano.toInt).truncate 32).bytes :=
    fun member => notMem_signedDecimal (by decide) (List.mem_of_mem_take member)
  have marca := marcaName_single data.marca
  rw [requestEntry, if_pos car.1, brought]
  dsimp only
  rw [run_bind_of_ok ran, run_bind_of_ok (run_strdup _ _)]
  refine ⟨_, _, rfl, ⟨tv, client, .inr (.inl rfl), ?_⟩, ?_⟩
  · cases grants 4 script with
    | true => exact .inr ⟨_, rfl⟩
    | false => exact .inl rfl
  · cases granted : grants 4 script <;>
      simp [ServerLog.ShowsNewline, ServerLog.strings, ServerLog.arguments,
        MessageT.ShowsNewline, shown, needed, granted, empty, year, marca, named, nullTerminated,
        or_and_right, exists_or, and_assoc]

/-- The entry for any other request shows its string as the content. -/
theorem run_requestEntry_other (unpacked : request.Unpacked) (other : ¬request.ListsCar)
    (tv : log.tv = some event.time) (client : log.client = some event.address.text)
    (bare : log.argument = none) (script : List Bool)
    : ∃ entry rest,
        (requestEntry log request).run script = .ok (entry, rest)
        ∧ entry.EntryOf event
        ∧ (entry.ShowsNewline ↔ request.ShowsNewline script) := by
  have nothing : (if request.cType = CType.ctData then request.data else none) = none := by
    split
    · rename_i typed
      by_contra present
      exact other ⟨typed, present⟩
    · rfl
  have needed : request.shownAllocations = 1 := if_neg other
  have empty : 10 ∉ (CString.literal "").bytes := by decide
  rw [requestEntry, nothing]
  dsimp only
  rw [requestContent_eq unpacked other, run_bind_of_ok (run_strdup _ _)]
  refine ⟨_, _, rfl, ⟨tv, client, .inr (.inl rfl), .inl bare⟩, ?_⟩
  cases granted : grants 1 script <;> cases shown : request.shown <;>
    simp [ServerLog.ShowsNewline, ServerLog.strings, ServerLog.arguments,
      MessageT.ShowsNewline, shown, needed, granted, empty, bare]

/-- The entry for a request shows a newline where the request does. -/
theorem run_requestEntry (unpacked : request.Unpacked) (tv : log.tv = some event.time)
    (client : log.client = some event.address.text) (bare : log.argument = none)
    (script : List Bool)
    : ∃ entry rest,
        (requestEntry log request).run script = .ok (entry, rest)
        ∧ entry.EntryOf event
        ∧ (entry.ShowsNewline ↔ request.ShowsNewline script) := by
  by_cases car : request.ListsCar
  · exact run_requestEntry_car unpacked car tv client script
  · exact run_requestEntry_other unpacked car tv client bare script

end

-----------------------------------------------------------------------------------------
-- One event
-----------------------------------------------------------------------------------------

/-- A request in an event is one that unpacking can produce. -/
def LogEvent.Received (event : LogEvent) : Prop :=
  ∀ request, event.occurrence = .request request → request.Unpacked

/-- Only requests bring strings. -/
theorem LogEvent.not_breaksLine (other : ∀ request, event.occurrence ≠ .request request)
    (script : List Bool)
    : ¬event.BreaksLine script :=
  fun ⟨request, same, _⟩ => other request same

/-- With memory for the entry, its time and its client what happened decides the rest. -/
theorem run_logEntry_granted {script : List Bool} (granted : grants 3 script = true)
    : (logEntry event).run script
      = (
          match event.occurrence with
          | .connect => pure (some (connectEntry event.time event.address.text))
          | .request request => do
              return some (← requestEntry (connectEntry event.time event.address.text) request)
          | .close =>
              pure (
                some
                  {
                    connectEntry event.time event.address.text with
                    eventType := EventType.close
                  }
              )
          : Mem (Option ServerLog)
        ).run (script.drop 3) := by
  have split : grants 1 script = true
      ∧ grants 1 (script.drop 1) = true
      ∧ grants 1 ((script.drop 1).drop 1) = true := by
    simpa [grants_add 1 2, grants_add 1 1, Bool.and_eq_true] using granted
  obtain ⟨first, second, third⟩ := split
  have dropped : ((script.drop 1).drop 1).drop 1 = script.drop 3 := by simp
  rw [logEntry, run_bind_of_ok (run_malloc script), first, if_neg (by simp),
    run_bind_of_ok (run_malloc _), second, if_neg (by simp),
    run_bind_of_ok (run_strdup _ _), third, if_pos rfl, ClientAddress.addrstr_eq, dropped]

/-- The entry for an event shows a newline where the event puts one inside its line. -/
theorem run_logEntry (received : event.Received) {script : List Bool}
    (granted : grants 3 script = true)
    : ∃ entry rest,
        (logEntry event).run script = .ok (some entry, rest)
        ∧ entry.EntryOf event
        ∧ (entry.ShowsNewline ↔ event.BreaksLine script) := by
  rw [run_logEntry_granted granted]
  cases occurred : event.occurrence with
  | connect =>
      have quiet := @LogEvent.not_breaksLine event (by simp [occurred]) script
      refine ⟨_, _, rfl, ⟨rfl, rfl, .inl rfl, .inl rfl⟩, iff_of_false ?_ quiet⟩
      intro shows
      exact absurd shows.1 (show ¬EventType.connect = EventType.request by decide)
  | close =>
      have quiet := @LogEvent.not_breaksLine event (by simp [occurred]) script
      refine ⟨_, _, rfl, ⟨rfl, rfl, .inr (.inr rfl), .inl rfl⟩, iff_of_false ?_ quiet⟩
      intro shows
      exact absurd shows.1 (show ¬EventType.close = EventType.request by decide)
  | request request =>
      obtain ⟨entry, rest, ran, whole, shows⟩ :=
        @run_requestEntry (connectEntry event.time event.address.text) event request
          (received request occurred) rfl rfl rfl (script.drop 3)
      dsimp only
      rw [run_bind_of_ok ran]
      refine ⟨entry, rest, rfl, whole, shows.trans ?_⟩
      constructor
      · intro breaks
        exact ⟨request, occurred, granted, breaks⟩
      · intro ⟨other, same, _, breaks⟩
        cases occurred.symm.trans same
        exact breaks

/-- Without memory for the entry, its time or its client there is no entry. -/
theorem run_logEntry_refused {script : List Bool} (refused : grants 3 script = false)
    : ∃ rest, (logEntry event).run script = .ok (none, rest) := by
  rcases script with _ | ⟨_ | _, _ | ⟨_ | _, _ | ⟨_ | _, rest⟩⟩⟩ <;>
    first | exact ⟨_, rfl⟩ | simp at refused

/-- An event with an entry appends it, and has newlines inside it only where it breaks it. -/
theorem run_logEvent (received : event.Received) {script : List Bool}
    (granted : grants 3 script = true)
    : ∃ body rest,
        (logEvent event).run script = .ok (some (event.stamp ++ body ++ [10]), rest)
        ∧ (10 ∈ event.stamp ++ body ↔ event.BreaksLine script) := by
  obtain ⟨entry, rest, ran, whole, breaks⟩ := run_logEntry received granted
  obtain ⟨body, written, shows⟩ := writeLog_ends whole
  refine ⟨body, rest, ?_, ?_⟩
  · rw [logEvent, run_bind_of_ok ran]
    dsimp only
    rw [written, pure_bind]
    rfl
  · rw [List.mem_append, or_iff_right event.stamp_single, shows, breaks]

theorem run_logEvent_refused {script : List Bool} (refused : grants 3 script = false)
    : ∃ rest, (logEvent event).run script = .ok (none, rest) := by
  obtain ⟨rest, ran⟩ := @run_logEntry_refused event script refused
  refine ⟨rest, ?_⟩
  rw [logEvent, run_bind_of_ok ran]
  rfl

-----------------------------------------------------------------------------------------
-- Sequences of events
-----------------------------------------------------------------------------------------

/-- The log is made of the entries of the logged events, none of which holds a newline unless
one of the events puts it there; by induction on the events.
-/
theorem logEvents_entries {events : List (LogEvent × List Bool)}
    (received : ∀ pair ∈ events, pair.1.Received)
    : ∃ logged texts,
        logEvents events = .ok (logged, unlines texts)
        ∧ List.Forall₂ (fun event text => event.stamp <+: text) logged texts
        ∧ ((∀ text ∈ texts, 10 ∉ text) ↔ ∀ pair ∈ events, ¬pair.1.BreaksLine pair.2) := by
  induction events with
  | nil => exact ⟨[], [], rfl, .nil, by simp⟩
  | cons pair later ih =>
      obtain ⟨event, script⟩ := pair
      obtain ⟨logged, texts, ran, stamped, single⟩ :=
        ih (fun pair member => received pair (List.mem_cons_of_mem _ member))
      cases granted : grants 3 script with
      | true =>
          obtain ⟨body, rest, appended, breaks⟩ :=
            run_logEvent (received (event, script) (by simp)) granted
          refine ⟨event :: logged, (event.stamp ++ body) :: texts, ?_, ?_, ?_⟩
          · rw [logEvents, appended, ran, unlines_cons]
            simp
          · exact .cons (List.prefix_append _ _) stamped
          · simp only [List.forall_mem_cons, single, breaks]
      | false =>
          obtain ⟨rest, appended⟩ := @run_logEvent_refused event script granted
          refine ⟨logged, texts, ?_, stamped, single.trans ?_⟩
          · rw [logEvents, appended, ran]
            rfl
          · have quiet : ¬event.BreaksLine script := by
              intro ⟨request, occurred, allowed, breaks⟩
              simp [granted] at allowed
            simp only [List.forall_mem_cons, quiet, not_false_eq_true, true_and]

/-- The log is one line for each logged event exactly when no event breaks its line. -/
theorem logEvents_oneLinePerEvent_iff {events : List (LogEvent × List Bool)}
    (received : ∀ pair ∈ events, pair.1.Received)
    : (∃ logged text, logEvents events = .ok (logged, text) ∧ OneLinePerEvent logged text)
      ↔ ∀ pair ∈ events, ¬pair.1.BreaksLine pair.2 := by
  obtain ⟨logged, texts, ran, stamped, single⟩ := logEvents_entries received
  rw [← single]
  constructor
  · intro ⟨others, text, same, lines, made, apart, ordered⟩
    cases ran.symm.trans same
    have length : texts.length = lines.length :=
      stamped.length_eq.symm.trans ordered.length_eq
    exact notMem_of_unlines_eq made apart length
  · intro apart
    exact ⟨logged, unlines texts, ran, texts, rfl, apart, stamped⟩

/-- A client of the local host. -/
def localClient : ClientAddress := ⟨(127, 0, 0, 1), 40000⟩

/-- The events of a client that removes a car of this model. -/
def removalEvents (modelo : CString) : List (LogEvent × List Bool) :=
  [
    (⟨7, localClient, .connect⟩, []),
    (⟨8, localClient, .request (delRequest modelo)⟩, []),
    (⟨9, localClient, .close⟩, [])
  ]

theorem removalEvents_received (modelo : CString)
    : ∀ pair ∈ removalEvents modelo, pair.1.Received := by
  have unpacked : (delRequest modelo).Unpacked :=
    ⟨⟨[modelo], rfl, rfl⟩, ⟨[], rfl, rfl⟩, fun data brought => by cases brought⟩
  intro pair member request occurred
  simp only [removalEvents, List.mem_cons, List.not_mem_nil, or_false] at member
  rcases member with same | same | same <;> cases same <;> cases occurred
  exact unpacked

/-- A client that removes a car leaves one line for each event. -/
theorem logEvents_oneLinePerEvent_iff_removal
    : ∃ logged text,
        logEvents (removalEvents (.literal "Clio")) = .ok (logged, text)
        ∧ OneLinePerEvent logged text := by
  refine (logEvents_oneLinePerEvent_iff (removalEvents_received _)).mpr ?_
  intro pair member ⟨request, occurred, _, ⟨text, shown, newline⟩, _⟩
  simp only [removalEvents, List.mem_cons, List.not_mem_nil, or_false] at member
  rcases member with same | same | same <;> cases same <;> cases occurred
  cases shown
  exact absurd newline (by decide)

/-- A model with a line of its own behind it. -/
def forgedModel : CString := .literal "x\n9 10.0.0.1:5 CLOSE"

/-- A request that brings a model with a newline makes five lines of three events. -/
theorem removalEvents_forged
    : ¬∀ events : List (LogEvent × List Bool),
        (∀ pair ∈ events, pair.1.Received)
        → ∃ logged text, logEvents events = .ok (logged, text) ∧ OneLinePerEvent logged text := by
  intro claimed
  obtain ⟨logged, text, ran, lines, made, apart, ordered⟩ :=
    claimed (removalEvents forgedModel) (removalEvents_received _)
  have run : ∃ text,
      logEvents (removalEvents forgedModel) = .ok ((removalEvents forgedModel).map Prod.fst, text)
      ∧ text.count 10 = 5 :=
    ⟨_, rfl, by decide +kernel⟩
  obtain ⟨other, ended, newlines⟩ := run
  cases ran.symm.trans ended
  rw [made, count_unlines_of_notMem apart, ← ordered.length_eq] at newlines
  exact absurd newlines (by decide)

end CarChain
