import Iq.Library.Cursor
import Iq.Library.JsonText
import Iq.Library.Transition
import Iq.Store.Schema
import Mathlib.Algebra.Ring.Nat

/-!
# Watching durable events

The stream of durable events as its threads: the producer selects batches and queues them, the
server writes them to the socket, the client reads whole frames and keeps the cursor of the last
one. Appends interleave with all of them; the connection may be lost, closed or refused at any
point, and the client connects again with its cursor. The time-outs are labels. The serialised
length of a frame is a parameter.
-/

namespace Iq

open Library

/-- A row of `durable_events` with its sequence number. -/
structure EventRow where
  sequence : Nat
  event : DurableEvent
  deriving DecidableEq, Repr

/-- The stream bounds of `ControlPlaneConfig`. -/
structure StreamConfig where
  maxResponseBytes : Nat
  maxClientQueueBytes : Nat
  maxStreamBacklogEvents : Nat
  deriving DecidableEq, Repr

/-- `reason` of a `disconnect` frame. -/
inductive DisconnectReason where
  | backpressure
  | idle
  deriving DecidableEq, Repr

/-- The frames that answer a `Watch` request. -/
inductive StreamResponse where
  | events (cursor : Nat) (events : List EventRow)
  | disconnect (reason : DisconnectReason) (cursor : Nat)
  | invalidStreamLimit (maximum cursor : Nat)
  | cursorExpired (oldestCursor cursor : Nat)
  | tooManyClients
  deriving DecidableEq, Repr

namespace StreamResponse

/-- `response.ok`. -/
def ok : StreamResponse → Bool
  | events .. | disconnect .. => true
  | _ => false

/-- `response.result["cursor"]`. -/
def cursor? : StreamResponse → Option Nat
  | events cursor _ | disconnect _ cursor => some cursor
  | invalidStreamLimit _ cursor | cursorExpired _ cursor => some cursor
  | tooManyClients => none

/-- `response.result["kind"] == "disconnect"`. -/
def isDisconnect : StreamResponse → Bool
  | disconnect .. => true
  | _ => false

/-- The events that a frame carries. -/
def batch : StreamResponse → List EventRow
  | events _ rows => rows
  | _ => []

end StreamResponse

/-- What `events_after` refuses. -/
inductive EventsError where
  | limit
  | cursorExpired (oldest : Nat)
  | cursorOutOfRange
  deriving DecidableEq, Repr

/-- `SELECT MIN(sequence) FROM durable_events`, over rows in sequence order. -/
def oldestEventSequence (table : List EventRow) : Option Nat := table.head?.map EventRow.sequence

/-- The cursor is older than the retained events. -/
def isExpired (table : List EventRow) (cursor : Nat) : Bool :=
  match oldestEventSequence table with
  | some oldest => cursor != 0 && cursor + 1 < oldest
  | none => false

/-- `events_after`. A cursor that is not an SQLite integer cannot be bound to the query. -/
def eventsAfter (table : List EventRow) (cursor limit : Nat) :
    Except EventsError (List EventRow) :=
  if limit < 1 || 10000 < limit then .error .limit
  else if isExpired table cursor then
    .error (.cursorExpired ((oldestEventSequence table).getD 0))
  else if 2 ^ 63 ≤ cursor then .error .cursorOutOfRange
  else .ok (Log.batch EventRow.sequence table cursor limit)

namespace Watch

/-- What the client keeps: the cursor of the last frame and the events of all batches. -/
structure Progress where
  cursor : Nat
  received : List EventRow
  deriving DecidableEq, Repr

/-- The client's part of `watch` for one frame. -/
def Progress.receive (progress : Progress) (response : StreamResponse) : Progress where
  cursor := response.cursor?.getD progress.cursor
  received := progress.received ++ response.batch

/-- The variables of `stream_events` and of its producer thread. -/
structure Stream where
  limit : Nat
  selectedCursor : Nat
  channel : List StreamResponse
  producing : Bool
  backpressure : Bool
  sentCursor : Nat
  deriving DecidableEq, Repr

/-- A connection: the frames written and not yet read, and the stream while the server serves it. -/
structure Connection where
  socket : List StreamResponse
  stream : Option Stream
  deriving DecidableEq, Repr

/-- The rows of `durable_events` with the last sequence number that was given out. -/
structure EventLog where
  table : List EventRow
  lastSequence : Nat
  deriving DecidableEq, Repr

/-- `INSERT INTO durable_events`: the rows get consecutive sequence numbers. -/
def EventLog.append (log : EventLog) (event : DurableEvent) : EventLog where
  table := log.table ++ [⟨log.lastSequence + 1, event⟩]
  lastSequence := log.lastSequence + 1

/-- The log, a client that began with a cursor, and its connection. -/
structure Session where
  log : EventLog
  start : Nat
  progress : Progress
  connection : Option Connection
  deriving DecidableEq, Repr

/-- Steps of the store, the server threads, the client and the network. -/
inductive Label where
  | append (event : DurableEvent)
  | connect (limit : Nat)
  | refuse
  | poll
  | pollFails
  | transmit
  | disconnect
  | idle
  | close
  | receive
  | lose
  deriving DecidableEq, Repr

section Server

variable (config : StreamConfig) (size : StreamResponse → Nat)

/-- The bound of the frames that the server makes itself. -/
def producerMax : Nat := min config.maxClientQueueBytes config.maxResponseBytes

/-- The bound of the channel. -/
def messageBound : Nat := max (config.maxClientQueueBytes / max config.maxResponseBytes 1) 1

/-- `write_response` on a stream that takes the bytes; a frame out of bounds ends the stream. -/
def writeResponse (connection : Connection) (stream : Option Stream) (response : StreamResponse)
    (bound : Nat) : Connection :=
  if bound < size response || 2 ^ 32 ≤ size response then { connection with stream := none }
  else { socket := connection.socket ++ [response], stream }

/-- The first part of `stream_events`. -/
def openStream (table : List EventRow) (cursor limit : Nat) : Connection :=
  let maximum := min config.maxStreamBacklogEvents 10000
  let opened : Connection := ⟨[], none⟩
  if limit = 0 || maximum < limit then
    writeResponse size opened none (.invalidStreamLimit maximum cursor) (producerMax config)
  else if isExpired table cursor then
    writeResponse size opened none
      (.cursorExpired ((oldestEventSequence table).getD 0 - 1) cursor) (producerMax config)
  else { opened with stream := some ⟨limit, cursor, [], true, false, cursor⟩ }

/-- One round of the producer thread. -/
def Stream.poll (table : List EventRow) (stream : Stream) : Stream :=
  match eventsAfter table stream.selectedCursor stream.limit with
  | .error _ => { stream with producing := false }
  | .ok [] => stream
  | .ok (row :: rows) =>
    let next := Log.advance EventRow.sequence stream.selectedCursor (row :: rows)
    let response := StreamResponse.events next (row :: rows)
    if producerMax config < size response then
      { stream with producing := false, backpressure := true }
    else if messageBound config ≤ stream.channel.length then
      { stream with selectedCursor := next, producing := false, backpressure := true }
    else { stream with selectedCursor := next, channel := stream.channel ++ [response] }

/-- The step of the serving side of a connection; the client's steps leave it as it is. -/
def Connection.serve (table : List EventRow) (connection : Connection) (stream : Stream) :
    Label → Connection
  | .poll =>
    if stream.producing then { connection with stream := some (stream.poll config size table) }
    else connection
  | .pollFails => { connection with stream := some { stream with producing := false } }
  | .transmit =>
    match stream.channel with
    | [] =>
      if stream.producing || stream.backpressure then connection
      else { connection with stream := none }
    | response :: rest =>
      writeResponse size connection
        (some { stream with
          channel := rest, sentCursor := response.cursor?.getD stream.sentCursor })
        response config.maxResponseBytes
  | .disconnect =>
    if stream.backpressure then
      writeResponse size connection none (.disconnect .backpressure stream.sentCursor)
        (producerMax config)
    else connection
  | .idle =>
    if stream.producing && stream.channel.isEmpty then
      writeResponse size connection none (.disconnect .idle stream.sentCursor) (producerMax config)
    else connection
  | .close => { connection with stream := none }
  | _ => connection

/-- The client reads one frame and keeps its cursor; the frames that end a stream end the call. -/
def Session.receive (session : Session) (connection : Connection) : Session :=
  match connection.socket with
  | [] => session
  | response :: rest =>
    { session with
      progress := session.progress.receive response
      connection :=
        if !response.ok || response.isDisconnect then none
        else some { connection with socket := rest } }

/-- One step of a session. -/
def Session.step (session : Session) (label : Label) : Session :=
  match label, session.connection with
  | .append event, _ => { session with log := session.log.append event }
  | .connect limit, none =>
    { session with
      connection := some (openStream config size session.log.table session.progress.cursor limit) }
  | .refuse, none =>
    { session with
      connection := some
        (writeResponse size ⟨[], none⟩ none .tooManyClients config.maxResponseBytes) }
  | .receive, some connection => session.receive connection
  | .lose, some _ => { session with connection := none }
  | label, some connection =>
    match connection.stream with
    | some stream =>
      { session with
        connection := some (connection.serve config size session.log.table stream label) }
    | none => session
  | _, none => session

/-- The rows stand in sequence order, and no sequence number is above the last one. -/
structure EventLog.Numbered (log : EventLog) : Prop where
  ordered : Log.Ordered EventRow.sequence log.table
  bounded : ∀ row ∈ log.table, row.sequence ≤ log.lastSequence

/-- Sessions of one client over retained events and whatever is appended later. -/
def watch : Machine Session Label where
  Initial session :=
    session.log.Numbered ∧ session.progress = ⟨session.start, []⟩ ∧ session.connection = none
  step := Session.step config size

end Server

/-! ## The part of the log that a client has read -/

namespace EventLog

/-- A cursor that a stream from a start cursor has reached, with the events of the batches that led
to it: these are the events after the start cursor, less the events after the cursor. -/
structure Reaches (log : EventLog) (start : Nat) (progress : Progress) : Prop where
  position : progress.cursor = start ∨
    start ≤ progress.cursor ∧ progress.cursor ≤ log.lastSequence
  exact : progress.received ++ Log.after EventRow.sequence log.table progress.cursor =
    Log.after EventRow.sequence log.table start

/-- The frames that follow each other from a progress of the client reach every cursor between. -/
def Delivers (log : EventLog) (start : Nat) (progress : Progress)
    (frames : List StreamResponse) : Prop :=
  ∀ read, read <+: frames → log.Reaches start (read.foldl Progress.receive progress)

end EventLog

/-- The frames that are written or queued, oldest first. -/
def Connection.frames (connection : Connection) : List StreamResponse :=
  connection.socket ++ (connection.stream.map Stream.channel).getD []

/-- The cursors of the server threads follow the frames. -/
structure Stream.Follows (stream : Stream) (socket : List StreamResponse) (progress : Progress) :
    Prop where
  queued : ∀ response ∈ stream.channel, ∃ cursor rows, response = .events cursor rows
  sent : stream.sentCursor = (socket.foldl Progress.receive progress).cursor
  selected : stream.producing = true →
    stream.selectedCursor = ((socket ++ stream.channel).foldl Progress.receive progress).cursor

/-- What holds of a connection. -/
structure Connection.Exact (connection : Connection) (log : EventLog) (start : Nat)
    (progress : Progress) : Prop where
  delivers : log.Delivers start progress connection.frames
  follows : ∀ stream, connection.stream = some stream → stream.Follows connection.socket progress

/-- The invariant of a session. -/
structure Session.Exact (session : Session) : Prop where
  numbered : session.log.Numbered
  read : session.log.Reaches session.start session.progress
  connected : ∀ connection, session.connection = some connection →
    connection.Exact session.log session.start session.progress

/-! ## Frames -/

namespace Progress

/-- The end of a stream delivers nothing. -/
@[simp] theorem receive_disconnect (progress : Progress) (reason : DisconnectReason) :
    progress.receive (.disconnect reason progress.cursor) = progress := by
  simp [receive, StreamResponse.cursor?, StreamResponse.batch]

/-- A refused limit delivers nothing. -/
@[simp] theorem receive_invalidStreamLimit (progress : Progress) (maximum : Nat) :
    progress.receive (.invalidStreamLimit maximum progress.cursor) = progress := by
  simp [receive, StreamResponse.cursor?, StreamResponse.batch]

/-- An expired cursor delivers nothing. -/
@[simp] theorem receive_cursorExpired (progress : Progress) (oldest : Nat) :
    progress.receive (.cursorExpired oldest progress.cursor) = progress := by
  simp [receive, StreamResponse.cursor?, StreamResponse.batch]

/-- A refused client is delivered nothing. -/
@[simp] theorem receive_tooManyClients (progress : Progress) :
    progress.receive .tooManyClients = progress := by
  simp [receive, StreamResponse.cursor?, StreamResponse.batch]

end Progress

namespace EventLog

variable {log : EventLog} {start : Nat} {progress : Progress} {frames : List StreamResponse}

/-- No frame delivers what has been reached. -/
theorem delivers_nil (reaches : log.Reaches start progress) : log.Delivers start progress [] := by
  intro read begins
  rw [List.prefix_nil.mp begins]
  exact reaches

/-- What the frames deliver is reached. -/
theorem Delivers.reaches (delivers : log.Delivers start progress frames) :
    log.Reaches start (frames.foldl Progress.receive progress) :=
  delivers frames (List.prefix_refl _)

/-- Fewer frames deliver as far as they go. -/
theorem Delivers.of_prefix {fewer : List StreamResponse} (begins : fewer <+: frames)
    (delivers : log.Delivers start progress frames) : log.Delivers start progress fewer :=
  fun read before => delivers read (before.trans begins)

/-- A frame that reaches further may follow. -/
theorem Delivers.append {response : StreamResponse} (delivers : log.Delivers start progress frames)
    (next : log.Reaches start ((frames.foldl Progress.receive progress).receive response)) :
    log.Delivers start progress (frames ++ [response]) := by
  intro read begins
  rcases List.prefix_concat_iff.mp begins with whole | part
  · rw [whole, List.foldl_append]
    exact next
  · exact delivers read part

/-- After a frame the others deliver from where it led. -/
theorem Delivers.tail {response : StreamResponse}
    (delivers : log.Delivers start progress (response :: frames)) :
    log.Delivers start (progress.receive response) frames :=
  fun read begins => delivers (response :: read) (List.cons_prefix_cons.mpr ⟨rfl, begins⟩)

/-- A batch selected after a reached cursor reaches the cursor of its last event. -/
theorem Reaches.batch {row : EventRow} {rows : List EventRow} {limit : Nat}
    (numbered : log.Numbered) (reaches : log.Reaches start progress)
    (selected : eventsAfter log.table progress.cursor limit = .ok (row :: rows)) :
    log.Reaches start (progress.receive
      (.events (Log.advance EventRow.sequence progress.cursor (row :: rows)) (row :: rows))) := by
  have batch : Log.batch EventRow.sequence log.table progress.cursor limit = row :: rows := by
    unfold eventsAfter at selected
    split at selected
    · cases selected
    · split at selected
      · cases selected
      · split at selected
        · cases selected
        · exact Except.ok.inj selected
  have advanced := @Log.after_advance _ EventRow.sequence log.table progress.cursor limit numbered.ordered
  rw [batch] at advanced
  constructor
  · right
    obtain ⟨last, is_last⟩ : ∃ last, (row :: rows).getLast? = some last :=
      ⟨_, List.getLast?_eq_some_getLast (List.cons_ne_nil _ _)⟩
    have listed : last ∈ Log.batch EventRow.sequence log.table progress.cursor limit := by
      rw [batch]
      exact List.mem_of_getLast? is_last
    have unread := Log.mem_after.mp (List.mem_of_mem_take listed)
    have bound := numbered.bounded last unread.1
    have position := reaches.position
    simp only [Progress.receive, StreamResponse.cursor?, Option.getD_some, Log.advance, is_last,
      Option.map_some]
    omega
  · simp only [Progress.receive, StreamResponse.cursor?, Option.getD_some, StreamResponse.batch]
    let unread := Log.after EventRow.sequence log.table progress.cursor
    calc (progress.received ++ row :: rows) ++ Log.after EventRow.sequence log.table
            (Log.advance EventRow.sequence progress.cursor (row :: rows))
        = progress.received ++ ((row :: rows) ++ unread.drop limit) := by
          rw [advanced, List.append_assoc]
      _ = progress.received ++ (unread.take limit ++ unread.drop limit) := by
          rw [← batch]
          rfl
      _ = progress.received ++ unread := by rw [List.take_append_drop]
      _ = Log.after EventRow.sequence log.table start := reaches.exact

/-- An appended event stands after every reached cursor that is not in the future of the log, and
after the start cursor just as well. -/
theorem Reaches.append (reaches : log.Reaches start progress) (event : DurableEvent) :
    (log.append event).Reaches start progress := by
  have position := reaches.position
  constructor
  · simp only [EventLog.append]
    omega
  · have later : (progress.cursor < log.lastSequence + 1) =
        (start < log.lastSequence + 1) := by
      simp only [eq_iff_iff]
      omega
    have exact_before := reaches.exact
    simp only [EventLog.append, Log.after, List.filter_append] at exact_before ⊢
    rw [← List.append_assoc, exact_before]
    simp [List.filter_cons, later]

end EventLog

/-! ## Steps -/

variable {config : StreamConfig} {size : StreamResponse → Nat} {log : EventLog} {start : Nat}
  {progress : Progress} {connection : Connection} {stream : Stream} {session : Session}

/-- A round of the producer queues the batch after the last one it queued. -/
theorem Stream.Follows.poll {socket : List StreamResponse} (numbered : log.Numbered)
    (producing : stream.producing = true) (follows : stream.Follows socket progress)
    (delivers : log.Delivers start progress (socket ++ stream.channel)) :
    (stream.poll config size log.table).Follows socket progress ∧
      log.Delivers start progress (socket ++ (stream.poll config size log.table).channel) := by
  unfold Stream.poll
  split
  · exact ⟨⟨follows.queued, follows.sent, nofun⟩, delivers⟩
  · exact ⟨follows, delivers⟩
  · rename_i row rows selected
    rw [follows.selected producing] at selected
    have next := delivers.reaches.batch numbered selected
    rw [← follows.selected producing] at next
    simp only
    split
    · exact ⟨⟨follows.queued, follows.sent, nofun⟩, delivers⟩
    · split
      · exact ⟨⟨follows.queued, follows.sent, nofun⟩, delivers⟩
      · constructor
        · constructor
          · intro response mem
            rcases List.mem_append.mp mem with old | new
            · exact follows.queued response old
            · exact ⟨_, _, List.mem_singleton.mp new⟩
          · exact follows.sent
          · intro _
            simp [List.foldl_append, Progress.receive, StreamResponse.cursor?]
        · rw [← List.append_assoc]
          exact delivers.append next

namespace Connection

/-- A connection without its stream still delivers what is in the socket. -/
theorem Exact.closed (exact_now : connection.Exact log start progress) :
    Exact { connection with stream := none } log start progress := by
  constructor
  · apply exact_now.delivers.of_prefix
    simp [frames]
  · exact fun stream none => nomatch none

/-- The last frame of a stream repeats the cursor before it. -/
theorem Exact.write_last {response : StreamResponse} (bound : Nat)
    (delivers : log.Delivers start progress connection.socket)
    (repeats : (connection.socket.foldl Progress.receive progress).receive response =
      connection.socket.foldl Progress.receive progress) :
    (writeResponse size connection none response bound).Exact log start progress := by
  unfold writeResponse
  split
  · constructor
    · simpa [frames] using delivers
    · exact fun stream none => nomatch none
  · constructor
    · simp only [frames, Option.map_none, Option.getD_none, List.append_nil]
      apply delivers.append
      rw [repeats]
      exact delivers.reaches
    · exact fun stream none => nomatch none

/-- What a stream has sent stands at its sent cursor. -/
theorem Exact.write_disconnect (reason : DisconnectReason) (bound : Nat)
    (exact_now : connection.Exact log start progress) (served : connection.stream = some stream) :
    (writeResponse size connection none (.disconnect reason stream.sentCursor) bound).Exact
      log start progress := by
  apply Exact.write_last
  · apply exact_now.delivers.of_prefix
    simp [frames]
  · rw [(exact_now.follows stream served).sent]
    exact Progress.receive_disconnect _ reason

/-- A frame that is written leaves the channel and enters the socket. -/
theorem Exact.transmit {response : StreamResponse} {rest : List StreamResponse} (bound : Nat)
    (exact_now : connection.Exact log start progress) (served : connection.stream = some stream)
    (first : stream.channel = response :: rest) :
    (writeResponse size connection
      (some { stream with
        channel := rest, sentCursor := response.cursor?.getD stream.sentCursor })
      response bound).Exact log start progress := by
  have follows := exact_now.follows stream served
  obtain ⟨cursor, rows, rfl⟩ := follows.queued response (by rw [first]; exact List.mem_cons_self ..)
  unfold writeResponse
  split
  · exact exact_now.closed
  · constructor
    · have delivers := exact_now.delivers
      simp only [frames, served, first, Option.map_some, Option.getD_some] at delivers ⊢
      simpa using delivers
    · rintro later same
      cases same
      constructor
      · intro response mem
        exact follows.queued response (by rw [first]; exact List.mem_cons_of_mem _ mem)
      · simp [List.foldl_append, Progress.receive, StreamResponse.cursor?]
      · intro producing
        rw [List.append_assoc, show [StreamResponse.events cursor rows] ++ rest =
          stream.channel from first.symm]
        exact follows.selected producing

/-- The serving side keeps a connection exact. -/
theorem Exact.serve (label : Label) (numbered : log.Numbered)
    (exact_now : connection.Exact log start progress) (served : connection.stream = some stream) :
    (connection.serve config size log.table stream label).Exact log start progress := by
  have follows := exact_now.follows stream served
  have delivers := exact_now.delivers
  simp only [frames, served, Option.map_some, Option.getD_some] at delivers
  cases label with
  | poll =>
    simp only [Connection.serve]
    split
    · rename_i producing
      have polled := @Stream.Follows.poll config size _ _ _ _ _ numbered producing follows delivers
      refine ⟨polled.2, fun later same => ?_⟩
      cases same
      exact polled.1
    · exact exact_now
  | pollFails =>
    refine ⟨delivers, fun later same => ?_⟩
    cases same
    exact ⟨follows.queued, follows.sent, nofun⟩
  | transmit =>
    simp only [Connection.serve]
    split
    · split
      · exact exact_now
      · exact exact_now.closed
    · rename_i response rest first
      exact exact_now.transmit _ served first
  | disconnect =>
    simp only [Connection.serve]
    split
    · exact exact_now.write_disconnect _ _ served
    · exact exact_now
  | idle =>
    simp only [Connection.serve]
    split
    · exact exact_now.write_disconnect _ _ served
    · exact exact_now
  | close => exact exact_now.closed
  | append | connect | refuse | receive | lose => exact exact_now

/-- A new connection is exact. -/
theorem openStream_exact (limit : Nat) (reaches : log.Reaches start progress) :
    (openStream config size log.table progress.cursor limit).Exact log start progress := by
  have empty : log.Delivers start progress [] := EventLog.delivers_nil reaches
  simp only [openStream]
  split
  · exact Exact.write_last _ empty (Progress.receive_invalidStreamLimit _ _)
  · split
    · exact Exact.write_last _ empty (Progress.receive_cursorExpired _ _)
    · refine ⟨empty, fun stream same => ?_⟩
      cases same
      exact ⟨List.forall_mem_nil _, rfl, fun _ => rfl⟩

end Connection

/-- An append keeps the numbering. -/
theorem EventLog.Numbered.append (event : DurableEvent) (numbered : log.Numbered) :
    (log.append event).Numbered := by
  constructor
  · apply List.pairwise_append.mpr
    refine ⟨numbered.ordered, List.pairwise_singleton _ _, ?_⟩
    intro row mem new same
    have bound := numbered.bounded row mem
    rw [List.mem_singleton.mp same]
    exact Nat.lt_succ_of_le bound
  · intro row mem
    rcases List.mem_append.mp mem with old | new
    · exact Nat.le_succ_of_le (numbered.bounded row old)
    · rw [List.mem_singleton.mp new]
      exact Nat.le_refl _

namespace Session

/-- Reading a frame keeps a session exact. -/
theorem Exact.receive (exact_now : session.Exact) (connected : session.connection = some connection) :
    (session.receive connection).Exact := by
  have exact_connection := exact_now.connected connection connected
  unfold Session.receive
  split
  · exact exact_now
  · rename_i response rest first
    have delivers := exact_connection.delivers
    rw [Connection.frames, first, List.cons_append] at delivers
    refine ⟨exact_now.numbered, delivers.tail.of_prefix List.nil_prefix |>.reaches, ?_⟩
    intro later same
    simp only at same
    split at same
    · cases same
    · cases same
      refine ⟨delivers.tail, fun stream served => ?_⟩
      have follows := exact_connection.follows stream served
      rw [first] at follows
      exact ⟨follows.queued, follows.sent, follows.selected⟩

/-- An append keeps a session exact: it adds to what is left, not to what was read. -/
theorem Exact.append (event : DurableEvent) (exact_now : session.Exact) :
    Exact { session with log := session.log.append event } := by
  refine ⟨exact_now.numbered.append event, exact_now.read.append event, ?_⟩
  intro connection connected
  have exact_connection := exact_now.connected connection connected
  constructor
  · exact fun read begins => (exact_connection.delivers read begins).append event
  · exact exact_connection.follows

/-- Every step keeps a session exact. -/
theorem Exact.step (label : Label) (exact_now : session.Exact) :
    (session.step config size label).Exact := by
  have replaced {connection : Connection}
      (exact_new : connection.Exact session.log session.start session.progress) :
      Exact { session with connection := some connection } := by
    refine ⟨exact_now.numbered, exact_now.read, fun later same => ?_⟩
    cases same
    exact exact_new
  unfold Session.step
  split
  · exact exact_now.append _
  · exact replaced (Connection.openStream_exact _ exact_now.read)
  · apply replaced
    exact Connection.Exact.write_last _ (EventLog.delivers_nil exact_now.read)
      (Progress.receive_tooManyClients _)
  · rename_i connected
    exact exact_now.receive connected
  · exact ⟨exact_now.numbered, exact_now.read, fun _ none => nomatch none⟩
  · have connected := exact_now.connected _ ‹session.connection = some _›
    split
    · rename_i stream served
      exact replaced (connected.serve _ exact_now.numbered served)
    · exact exact_now
  · exact exact_now

/-- Every reachable session is exact. -/
theorem exact_of_reachable (reachable : (watch config size).Reachable session) :
    session.Exact := by
  refine reachable.invariant ?_ fun _ label exact_now => exact_now.step label
  rintro start ⟨numbered, fresh, disconnected⟩
  refine ⟨numbered, ?_, fun connection some => ?_⟩
  · rw [fresh]
    exact ⟨.inl rfl, rfl⟩
  · rw [disconnected] at some
    cases some

end Session

/-! ## Nothing is held back -/

/-- A poll that finds nothing has nothing left to deliver. -/
theorem after_of_eventsAfter_nil {table : List EventRow} {cursor limit : Nat}
    (polled : eventsAfter table cursor limit = .ok []) :
    Log.after EventRow.sequence table cursor = [] := by
  unfold eventsAfter at polled
  split at polled
  · cases polled
  · rename_i limited
    split at polled
    · cases polled
    · split at polled
      · cases polled
      · have empty := Except.ok.inj polled
        rcases List.take_eq_nil_iff.mp empty with none | nothing
        · simp only [none] at limited
          exact absurd (by decide) limited
        · exact nothing

/-- Every retained event has an SQLite integer as its number and fits in a frame of its own. -/
def EventLog.Fits (config : StreamConfig) (size : StreamResponse → Nat) (log : EventLog) : Prop :=
  ∀ row ∈ log.table, row.sequence ≤ 2 ^ 63 ∧
    size (.events row.sequence [row]) ≤ producerMax config ∧
    size (.events row.sequence [row]) < 2 ^ 32

/-- The steps by which a client that is not connected reads one event. -/
def readOne : List Label := [.connect 1, .poll, .transmit, .receive, .lose]

/-- A frame within its bounds reaches the socket. -/
theorem writeResponse_of_fits {connection : Connection} {stream : Option Stream}
    {response : StreamResponse} {bound : Nat} (fits : size response ≤ bound)
    (framed : size response < 2 ^ 32) :
    writeResponse size connection stream response bound =
      ⟨connection.socket ++ [response], stream⟩ := by
  unfold writeResponse
  rw [if_neg]
  simp only [Bool.or_eq_true, decide_eq_true_eq]
  omega

/-- A client that is not connected and whose cursor is retained reads the next event. -/
theorem run_readOne {row : EventRow} {rest : List EventRow}
    (bounded : 1 ≤ config.maxStreamBacklogEvents) (fits : session.log.Fits config size)
    (retained : isExpired session.log.table session.progress.cursor = false)
    (disconnected : session.connection = none)
    (left : Log.after EventRow.sequence session.log.table session.progress.cursor = row :: rest) :
    (watch config size).run session readOne =
      { session with progress := ⟨row.sequence, session.progress.received ++ [row]⟩ } := by
  have next : row ∈ session.log.table ∧ session.progress.cursor < row.sequence := by
    apply Log.mem_after.mp
    rw [left]
    exact List.mem_cons_self ..
  obtain ⟨integer, framed, written⟩ := fits row next.1
  have polled : eventsAfter session.log.table session.progress.cursor 1 = .ok [row] := by
    unfold eventsAfter
    rw [if_neg (by decide), retained, if_neg Bool.false_ne_true, if_neg (by omega)]
    rw [Log.batch, left]
    rfl
  have small : ¬producerMax config < size (.events row.sequence [row]) := Nat.not_lt.mpr framed
  have room : ¬messageBound config ≤ 0 := by
    unfold messageBound
    omega
  have bounds : size (.events row.sequence [row]) ≤ config.maxResponseBytes := by
    unfold producerMax at framed
    omega
  have sent (connection : Connection) (stream : Option Stream) :
      writeResponse size connection stream (.events row.sequence [row]) config.maxResponseBytes =
        ⟨connection.socket ++ [.events row.sequence [row]], stream⟩ :=
    writeResponse_of_fits bounds written
  have limited : ¬min config.maxStreamBacklogEvents 10000 < 1 := by omega
  simp [readOne, watch, Session.step, disconnected, openStream, limited, retained,
    Connection.serve, Stream.poll, polled, Log.advance, small, room, sent,
    Session.receive, Progress.receive, StreamResponse.cursor?, StreamResponse.batch,
    StreamResponse.ok, StreamResponse.isDisconnect]

/-- A cursor at a retained event is retained. -/
theorem isExpired_of_mem {log : EventLog} {row : EventRow} (numbered : log.Numbered)
    (mem : row ∈ log.table) : isExpired log.table row.sequence = false := by
  unfold isExpired oldestEventSequence
  cases listed : log.table with
  | nil => rfl
  | cons oldest rest =>
    have ordered := numbered.ordered
    rw [listed, Log.Ordered, List.pairwise_cons] at ordered
    rw [listed] at mem
    have le : oldest.sequence ≤ row.sequence := by
      rcases List.mem_cons.mp mem with same | later
      · exact Nat.le_of_eq (congrArg EventRow.sequence same.symm)
      · exact Nat.le_of_lt (ordered.1 row later)
    simp only [List.head?_cons, Option.map_some, Bool.and_eq_false_iff, decide_eq_false_iff_not]
    right
    omega

/-- A client that is not connected and whose cursor is retained can read all that is left. -/
theorem reads_all (bounded : 1 ≤ config.maxStreamBacklogEvents)
    (numbered : session.log.Numbered) (fits : session.log.Fits config size)
    (retained : isExpired session.log.table session.progress.cursor = false)
    (disconnected : session.connection = none) :
    ∃ labels, ((watch config size).run session labels).log = session.log ∧
      ((watch config size).run session labels).progress.received =
        session.progress.received ++
          Log.after EventRow.sequence session.log.table session.progress.cursor := by
  generalize left : Log.after EventRow.sequence session.log.table session.progress.cursor = rows
  induction rows generalizing session with
  | nil => exact ⟨[], rfl, by simp⟩
  | cons row rest reads_rest =>
    have read := run_readOne bounded fits retained disconnected left
    have listed : row ∈ session.log.table := by
      apply List.mem_of_mem_filter
      rw [show session.log.table.filter _ = row :: rest from left]
      exact List.mem_cons_self ..
    have remaining : Log.after EventRow.sequence session.log.table row.sequence = rest := by
      have advanced := @Log.after_advance _ EventRow.sequence session.log.table
        session.progress.cursor 1 numbered.ordered
      rw [Log.batch, left] at advanced
      exact advanced
    obtain ⟨labels, same, received⟩ := @reads_rest
      { session with progress := ⟨row.sequence, session.progress.received ++ [row]⟩ } numbered fits
      (isExpired_of_mem numbered listed) disconnected remaining
    refine ⟨readOne ++ labels, ?_⟩
    rw [Machine.run_append, read]
    exact ⟨same, by rw [received, List.append_assoc]; rfl⟩

/-- The batches that a watch client received hold exactly the events between its start cursor and
its present cursor, in order. They are all the events after the start cursor when a poll from the
present cursor finds nothing, and the client can always come to that: it reads every event that is
left whenever its cursor is retained and each event fits in a frame. An event whose frame is above
the bound is never delivered, nor is what comes after it. -/
theorem received_exactly_once (reachable : (watch config size).Reachable session) :
    session.progress.received ++
        Log.after EventRow.sequence session.log.table session.progress.cursor =
      Log.after EventRow.sequence session.log.table session.start ∧
    (∀ limit, eventsAfter session.log.table session.progress.cursor limit = .ok [] →
      session.progress.received = Log.after EventRow.sequence session.log.table session.start) ∧
    (1 ≤ config.maxStreamBacklogEvents → session.log.Fits config size →
      isExpired session.log.table session.progress.cursor = false →
      ∃ labels, ((watch config size).run session labels).log = session.log ∧
        ((watch config size).run session labels).progress.received =
          Log.after EventRow.sequence session.log.table session.start) := by
  have exact_now := Session.exact_of_reachable reachable
  have split := exact_now.read.exact
  refine ⟨split, ?_, ?_⟩
  · intro limit polled
    rw [after_of_eventsAfter_nil polled, List.append_nil] at split
    exact split
  · intro bounded fits retained
    have lost : (watch config size).step session .lose = { session with connection := none } := by
      cases connected : session.connection with
      | none =>
        simp only [watch, Session.step, connected]
        rw [← connected]
      | some connection => simp [watch, Session.step, connected]
    obtain ⟨labels, same, received⟩ := @reads_all config size { session with connection := none }
      bounded exact_now.numbered fits retained rfl
    refine ⟨.lose :: labels, ?_⟩
    rw [Machine.run_cons, lost]
    exact ⟨same, received.trans split⟩

namespace Sample

/-- A daemon that answers frames of at most 4096 bytes. -/
def bounds : StreamConfig := ⟨4096, 8192, 100⟩

/-- The JSON of an event without a payload. -/
def eventJson (row : EventRow) : JsonText := .object [
  ("alert", .bool row.event.alert), ("created_at", .text "2026-01-01T00:00:00+00:00"),
  ("effort_id", .text row.event.effortId), ("event_type", .text row.event.eventType),
  ("id", .text row.event.id), ("item_id", .text row.event.itemId), ("payload", .object []),
  ("sequence", .number row.sequence)]

/-- The result that a frame carries. -/
def resultJson : StreamResponse → JsonText
  | .events cursor rows => .object [("cursor", .number cursor),
    ("events", .array (rows.map eventJson)), ("kind", .text "events")]
  | .disconnect reason cursor => .object [("cursor", .number cursor),
    ("kind", .text "disconnect"),
    ("reason", .text (match reason with | .backpressure => "backpressure" | .idle => "idle"))]
  | .invalidStreamLimit maximum cursor => .object [("cursor", .number cursor),
    ("kind", .text "invalid_stream_limit"), ("maximum", .number maximum)]
  | .cursorExpired oldest cursor => .object [("cursor", .number cursor),
    ("kind", .text "cursor_expired"), ("oldest_cursor", .number oldest)]
  | .tooManyClients => .object [("error", .text "too_many_clients")]

/-- The length of a serialised frame. -/
def frameSize (response : StreamResponse) : Nat :=
  (JsonText.compact (.object [("version", .number 1), ("ok", .bool response.ok),
    ("result", resultJson response)])).length

/-- An event of some item. -/
def event (eventType : String) : DurableEvent :=
  ⟨eventType ++ "-id", "item", "effort", eventType, .fields [], false⟩

/-- A client that watches from the beginning, loses its connection after the first batch and
connects again while events are appended. -/
def labels : List Label :=
  [.append (event "first"), .append (event "second"), .connect 1, .poll, .transmit, .poll, .receive,
    .lose, .append (event "third"), .connect 10, .poll, .transmit, .receive]

/-- The session before any event. -/
def fresh : Session := ⟨⟨[], 0⟩, 0, ⟨0, []⟩, none⟩

end Sample

/-- The sample client received the three events once and in order. -/
theorem sample_received_exactly_once :
    ((watch Sample.bounds Sample.frameSize).run Sample.fresh Sample.labels).progress.received =
      [⟨1, Sample.event "first"⟩, ⟨2, Sample.event "second"⟩, ⟨3, Sample.event "third"⟩] := by
  have initial : (watch Sample.bounds Sample.frameSize).Initial Sample.fresh :=
    ⟨⟨List.Pairwise.nil, List.forall_mem_nil _⟩, rfl, rfl⟩
  have exactly := received_exactly_once (Machine.Reachable.run (.initial initial) Sample.labels)
  exact (exactly.2.1 10 (by decide +kernel)).trans (by decide +kernel)

end Watch

end Iq
