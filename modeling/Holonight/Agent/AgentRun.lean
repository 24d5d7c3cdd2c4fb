import Holonight.Agent.SessionRecords
import Holonight.Base.JsonRoundTrip
import Holonight.Process.CommandRunner

/-!
# The wrapper `hn-agent-run` (`apps/agent-run/main.cpp`)

A wrapper registers a session under the id `provider-pid`, runs the agent as its child and,
when the child is gone, ends the session with the child's result. Many wrappers run at a
time; their calls meet those of the hooks on the bus and are handled one after the other by
the daemon. `system` is the machine of all of them, and its inputs are their steps in any
order.

The registry marks a session of a wrapper by its process: `PublishEvent` creates sessions
without one. Two things hold in every state of every run.

- Every session with a process is accounted for: its wrapper is running, or its end is on
  the bus, or a wrapper of that id ended without ending its session (`Accounted`). These are
  the wrappers that were killed, could not fork, lost their child or found no bus.
- The session of a running wrapper that registered is there, once the bus is drained, and is
  its own: no other wrapper and no hook takes it over (`Held`), unless a prune removes it.

Both rest on the ids of running wrappers being different (`sessionId_injective`), as the ids of
running processes are.
-/

namespace Holonight

namespace Agent

namespace AgentRun

open CommandRunner (WaitStatus)

/-! ## One wrapper -/

/-- `getProjectName` (main.cpp:41–47): the part of the path after its last `/` (47), or the
whole path when that is empty. -/
def getProjectName (cwd : Bytes) : Bytes :=
  let filename := (cwd.reverse.takeWhile fun b => b != 47).reverse
  if filename = [] then cwd else filename

/-- `session_id` (main.cpp:62). -/
def sessionId (provider : Bytes) (pid : UInt32) : Bytes :=
  provider ++ Bytes.ofString "-" ++ decimalNat pid.toNat

/-- The title of the terminal (main.cpp:64). -/
def terminalTitle (provider cwd : Bytes) : Bytes :=
  provider ++ Bytes.ofString " · " ++ getProjectName cwd

/-- `metadata` (main.cpp:63–64). -/
def metadata (provider cwd : Bytes) : Json :=
  .object [("terminal_title", .str (terminalTitle provider cwd))]

/-- `result` (main.cpp:133). -/
def result (status : WaitStatus) : Bytes :=
  if status = .exited 0 then "Completed" else "Failed"

/-- The exit code (main.cpp:146). A status that is neither of an exit nor of a signal has all the
bits that `WTERMSIG` reads. -/
def exitCode : WaitStatus → UInt8
  | .exited code => code
  | .signaled signal => 128 + UInt8.ofNat signal
  | .other => 128 + 127

/-- A call on the bus. -/
inductive Message where
  | registerSession (provider sessionId : Bytes) (pid : UInt32) (cwd metadata : Bytes)
  | publishEvent (arguments : PublishArguments)
  | endSession (sessionId result : Bytes)
  | activateSession (sessionId : Bytes)

/-- The strings of a call. -/
def Message.strings : Message → List Bytes
  | .registerSession provider sessionId _ cwd metadata => [provider, sessionId, cwd, metadata]
  | .publishEvent arguments =>
    [arguments.sessionId, arguments.provider, arguments.cwd, arguments.eventType, arguments.state,
      arguments.title, arguments.message]
  | .endSession sessionId result => [sessionId, result]
  | .activateSession sessionId => [sessionId]

/-- What goes out when the bus could be opened: the call, if all its strings are UTF-8. -/
def sent (opens : Bool) (message : Message) : List Message :=
  if opens && message.strings.all validUtf8 then [message] else []

/-- Where a wrapper is in its program. -/
inductive Phase where
  | starting
  | forking
  | waiting
  | ending (status : WaitStatus)
  deriving DecidableEq

/-- A running wrapper. The program does not read `registered`: whether its `RegisterSession` went
out. -/
structure Wrapper where
  provider : Bytes
  cwd : Bytes
  phase : Phase := .starting
  registered : Bool := false
  deriving DecidableEq

/-- What `waitpid` of the child returns. -/
inductive WaitAnswer where
  | child (status : WaitStatus)
  | interrupted
  | failed

/-- What a wrapper gets from the system. -/
inductive Answer where
  | bus (opens : Bool)
  | fork (succeeds : Bool)
  | wait (answer : WaitAnswer)

/-- A wrapper after a step: it runs on, or it has ended, with the status its parent sees. -/
inductive Next where
  | runs (wrapper : Wrapper)
  | ends (status : WaitStatus)

/-- The call that registers the session of a wrapper (main.cpp:81–84). -/
def registration (provider cwd : Bytes) (pid : UInt32) (metadata : Bytes) : Message :=
  .registerSession provider (sessionId provider pid) pid cwd metadata

/-- `main` of the wrapper (main.cpp:51–147), one answer at a time: the calls it sends, and how it
goes on. An answer it does not wait for changes nothing. -/
def Wrapper.step (fmt : ℚ → Bytes) (wrapper : Wrapper) (pid : UInt32) (answer : Answer) :
    List Message × Next :=
  match wrapper.phase, answer with
  | .starting, .bus opens =>
    match (metadata wrapper.provider wrapper.cwd).dump fmt with
    -- nothing catches the exception: `abort`
    | .error _ => ([], .ends (.signaled 6))
    | .ok text =>
      let calls := sent opens (registration wrapper.provider wrapper.cwd pid text)
      (calls,
        .runs
          { wrapper with
            phase := .forking
            registered := wrapper.registered || !calls.isEmpty })
  | .forking, .fork true => ([], .runs { wrapper with phase := .waiting })
  | .forking, .fork false => ([], .ends (.exited 1))
  | .waiting, .wait (.child status) => ([], .runs { wrapper with phase := .ending status })
  | .waiting, .wait .failed => ([], .ends (.exited 1))
  | .ending status, .bus opens =>
    (sent opens (.endSession (sessionId wrapper.provider pid) (result status)),
      .ends (.exited (exitCode status)))
  | _, _ => ([], .runs wrapper)

/-! ## The system -/

/-- The wrappers by their processes, the calls that are not handled yet, and the daemon. -/
structure System where
  wrappers : UnorderedMap UInt32 Wrapper
  bus : List Message
  daemon : AppContext

/-- Before anything runs. -/
def System.initial : System where
  wrappers := UnorderedMap.empty
  bus := []
  daemon := .initial

/-- What the daemon reads from outside while it handles a call. -/
structure Reading where
  lineage : List UInt32 := []
  now : TimePoint
  reply : Option UInt32 := none
  times : NotificationBridge.ReplaceTimes

/-- A step of the system. -/
inductive Event where
  | start (pid : UInt32) (provider cwd : Bytes)
  | wrapper (pid : UInt32) (answer : Answer)
  | killed (pid : UInt32) (signal : ℕ)
  | publish (arguments : PublishArguments)
  | activate (sessionId : Bytes)
  | handle (reading : Reading)
  | prune (now : TimePoint)
  | actionInvoked (notificationId : UInt32) (actionKey : Bytes) (now : TimePoint)
  | notificationClosed (notificationId : UInt32)

/-- What a step shows: the end of a wrapper, with the calls it sent last, or what the daemon
sends. -/
inductive Observation where
  | ended (pid : UInt32) (wrapper : Wrapper) (status : WaitStatus) (calls : List Message)
  | daemon (output : Output)

section System

variable {lib : CppLib} (J : JsonLibrary lib) (env : Environment)

/-- The metadata of a registration (agentd main.cpp:54–60). -/
def readMetadata (text : Bytes) : Json :=
  if text = [] then .null
  else
    match J.parse text with
    | .ok parsed => parsed
    | .error _ => .null

/-- What the daemon handles for a call. -/
def Message.input (reading : Reading) : Message → Input
  | .registerSession provider sessionId pid cwd metadata =>
    .registerSession provider sessionId pid cwd (readMetadata J metadata) reading.lineage reading.now
  | .publishEvent arguments => .publishEvent arguments reading.now reading.reply reading.times
  | .endSession sessionId result => .endSession sessionId result
  | .activateSession sessionId => .activateSession sessionId

/-- The daemon takes an input. -/
def System.feed (s : System) (input : Input) : System × List Observation :=
  let next := handle env s.daemon input
  ({ s with daemon := next.1 }, next.2.map .daemon)

/-- One step of the system. A process starts under an id that no running process has. -/
def step (s : System) : Event → System × List Observation
  | .start pid provider cwd =>
    if pid = 0 ∨ (s.wrappers.find pid).isSome then (s, [])
    else
      ({ s with wrappers := s.wrappers.insertOrAssign pid { provider := provider, cwd := cwd } }, [])
  | .wrapper pid answer =>
    match s.wrappers.find pid with
    | none => (s, [])
    | some wrapper =>
      let (calls, next) := wrapper.step lib.jsonNumber pid answer
      match next with
      | .runs wrapper' =>
        ({ s with wrappers := s.wrappers.insertOrAssign pid wrapper', bus := s.bus ++ calls }, [])
      | .ends status =>
        ({ s with wrappers := s.wrappers.erase pid, bus := s.bus ++ calls },
          [.ended pid wrapper status calls])
  | .killed pid signal =>
    match s.wrappers.find pid with
    | none => (s, [])
    | some wrapper =>
      ({ s with wrappers := s.wrappers.erase pid }, [.ended pid wrapper (.signaled signal) []])
  | .publish arguments => ({ s with bus := s.bus ++ sent true (.publishEvent arguments) }, [])
  | .activate sessionId => ({ s with bus := s.bus ++ sent true (.activateSession sessionId) }, [])
  | .handle reading =>
    match s.bus with
    | [] => (s, [])
    | message :: rest => { s with bus := rest }.feed env (message.input J reading)
  | .prune now => s.feed env (.pruneStaleSessions now)
  | .actionInvoked notificationId actionKey now =>
    s.feed env (.actionInvoked notificationId actionKey now)
  | .notificationClosed notificationId => s.feed env (.notificationClosed notificationId)

/-- The wrappers, the bus and the daemon as one machine. -/
def system : Machine System Event Observation where
  step := step J env

end System

/-! ## One step of a wrapper -/

section Steps

variable {fmt : ℚ → Bytes} {wrapper wrapper' : Wrapper} {pid : UInt32} {answer : Answer}
  {calls : List Message} {status : WaitStatus}

theorem sent_cases (opens : Bool) (message : Message) :
    sent opens message = [] ∨ sent opens message = [message] := by
  unfold sent
  split
  · exact Or.inr rfl
  · exact Or.inl rfl

/-- What a wrapper that runs on has done: it is the same wrapper, and a call it sent is its
registration. -/
structure RunsOn (fmt : ℚ → Bytes) (wrapper : Wrapper) (pid : UInt32) (calls : List Message)
    (wrapper' : Wrapper) : Prop where
  provider : wrapper'.provider = wrapper.provider
  cwd : wrapper'.cwd = wrapper.cwd
  calls : (calls = [] ∧ wrapper'.registered = wrapper.registered) ∨
    ∃ text, (metadata wrapper.provider wrapper.cwd).dump fmt = .ok text ∧
      calls = [registration wrapper.provider wrapper.cwd pid text] ∧ wrapper'.registered = true

theorem RunsOn.refl (phase : Phase) :
    RunsOn fmt wrapper pid [] { wrapper with phase := phase } :=
  ⟨rfl, rfl, Or.inl ⟨rfl, rfl⟩⟩

theorem runsOn_of_step (h : wrapper.step fmt pid answer = (calls, .runs wrapper')) :
    RunsOn fmt wrapper pid calls wrapper' := by
  unfold Wrapper.step at h
  split at h
  case h_1 opens _ =>
    cases htext : (metadata wrapper.provider wrapper.cwd).dump fmt with
    | error e =>
      rw [htext] at h
      cases h
    | ok text =>
      rw [htext] at h
      cases h
      refine ⟨rfl, rfl, ?_⟩
      rcases sent_cases opens (registration wrapper.provider wrapper.cwd pid text) with hsent | hsent
      · exact Or.inl ⟨hsent, by simp [hsent]⟩
      · exact Or.inr ⟨text, htext, hsent, by simp [hsent]⟩
  case h_2 => cases h; exact RunsOn.refl _
  case h_4 => cases h; exact RunsOn.refl _
  case h_7 => cases h; exact RunsOn.refl _
  -- the other branches end the wrapper
  all_goals cases h

/-- A wrapper that ends sends nothing, or the end of its session. -/
theorem calls_of_step_ends (h : wrapper.step fmt pid answer = (calls, .ends status)) :
    calls = [] ∨ ∃ result, calls = [.endSession (sessionId wrapper.provider pid) result] := by
  unfold Wrapper.step at h
  split at h
  case h_1 =>
    cases htext : (metadata wrapper.provider wrapper.cwd).dump fmt with
    | error e =>
      rw [htext] at h
      cases h
      exact Or.inl rfl
    | ok text =>
      rw [htext] at h
      cases h
  case h_6 opens _ =>
    cases h
    rcases sent_cases opens (.endSession (sessionId wrapper.provider pid) _) with hsent | hsent
    · exact Or.inl hsent
    · exact Or.inr ⟨_, hsent⟩
  case h_3 => cases h; exact Or.inl rfl
  case h_5 => cases h; exact Or.inl rfl
  all_goals cases h

end Steps

/-! ## Session ids -/

/-- The bytes after the last `-` of a session id. -/
theorem takeWhile_reverse_sessionId (provider : Bytes) (pid : UInt32) :
    ((sessionId provider pid).reverse.takeWhile fun b => b != 45)
      = (decimalNat pid.toNat).reverse := by
  have hdigits : ∀ b ∈ (decimalNat pid.toNat).reverse, (b != 45) = true := by
    intro b hb
    have hlo := (mem_decimalNat (List.mem_reverse.mp hb)).1
    rw [bne_iff_ne]
    rintro rfl
    exact absurd hlo (by decide)
  rw [sessionId, List.reverse_append, List.reverse_append, List.takeWhile_append_of_pos hdigits]
  show (decimalNat pid.toNat).reverse ++ List.takeWhile _ (45 :: provider.reverse) = _
  rw [List.takeWhile_cons_of_neg (by simp), List.append_nil]

/-- **Different processes have different sessions**, whatever the names of their providers. -/
theorem sessionId_injective {provider other : Bytes} {pid otherPid : UInt32}
    (h : sessionId provider pid = sessionId other otherPid) : provider = other ∧ pid = otherPid := by
  have hdigits : decimalNat pid.toNat = decimalNat otherPid.toNat := by
    have hreverse := takeWhile_reverse_sessionId provider pid
    rw [h, takeWhile_reverse_sessionId] at hreverse
    exact (List.reverse_injective hreverse).symm
  have hpid : pid = otherPid := UInt32.toNat_inj.mp (decimalNat_injective hdigits)
  subst hpid
  exact ⟨List.append_cancel_right (List.append_cancel_right h), rfl⟩

theorem sessionId_ne_nil (provider : Bytes) (pid : UInt32) : sessionId provider pid ≠ [] :=
  List.append_ne_nil_of_right_ne_nil _ (decimalNat_ne_nil _)

theorem sessionId_ne {provider other : Bytes} {pid otherPid : UInt32} (h : pid ≠ otherPid) :
    sessionId provider pid ≠ sessionId other otherPid :=
  fun heq => h (sessionId_injective heq).2

/-! ## What the daemon does to the records -/

section Records

variable {env : Environment} {ctx : AppContext} {input : Input} {id : Bytes}
  {session old : AgentSession}

/-- A record that keeps its process and its descriptor. -/
def SameOwner (old session : AgentSession) : Prop :=
  session.pid = old.pid ∧ session.activation = old.activation

/-- Where a record comes from: a registration wrote it, or an event created it, or it was there
before and kept its owner. -/
inductive RecordFrom (ctx : AppContext) (id : Bytes) (session : AgentSession) : Input → Prop
  | registered {provider given cwd : Bytes} {pid : UInt32} {metadata : Json}
      {lineage : List UInt32} {now : TimePoint}
      (hid : SessionRegistry.assignedId provider given pid = id) (hpid : session.pid = pid) :
      RecordFrom ctx id session (.registerSession provider given pid cwd metadata lineage now)
  | created {input : Input} (hpid : session.pid = 0) : RecordFrom ctx id session input
  | kept {input : Input} (old : AgentSession) (hfound : ctx.registry.find id = some old)
      (hsame : SameOwner old session) : RecordFrom ctx id session input

theorem published_sameOwner {arguments : PublishArguments} {now : TimePoint}
    (h : ctx.registry.find arguments.sessionId = some old) :
    SameOwner old (ctx.registry.published env.workingDirectory arguments.event now) := by
  unfold SessionRegistry.published
  rw [show arguments.event.sessionId = arguments.sessionId from rfl, h]
  exact ⟨rfl, rfl⟩

theorem recordFrom_handle (h : (handle env ctx input).1.registry.find id = some session) :
    RecordFrom ctx id session input := by
  cases input with
  | registerSession provider given pid cwd metadata lineage now =>
    rcases UnorderedMap.find_insertOrAssign_iff.mp h with ⟨rfl, rfl⟩ | ⟨-, hfound⟩
    · exact .registered rfl rfl
    · exact .kept session hfound ⟨rfl, rfl⟩
  | publishEvent arguments now reply times =>
    by_cases hid : id = arguments.sessionId
    · subst hid
      have hself := @find_methodPublishEvent_self env ctx arguments now reply times
      rw [show (handle env ctx (.publishEvent arguments now reply times)).1
        = (methodPublishEvent env ctx arguments now reply times).1 from rfl, hself] at h
      cases h
      cases hold : ctx.registry.find arguments.sessionId with
      | none =>
        refine .created ?_
        show (ctx.registry.published env.workingDirectory arguments.event now).pid = 0
        unfold SessionRegistry.published
        rw [show arguments.event.sessionId = arguments.sessionId from rfl, hold]
        rfl
      | some old => exact .kept old hold (published_sameOwner hold)
    · refine .kept session ?_ ⟨rfl, rfl⟩
      rw [← h]
      exact (find_methodPublishEvent_of_ne hid).symm
  | endSession sessionId result =>
    exact .kept session (UnorderedMap.find_of_find_erase h) ⟨rfl, rfl⟩
  | activateSession sessionId => exact .kept session h ⟨rfl, rfl⟩
  | pruneStaleSessions now => exact .kept session (UnorderedMap.find_eraseIf.mp h).1 ⟨rfl, rfl⟩
  | actionInvoked notificationId actionKey now => exact .kept session h ⟨rfl, rfl⟩
  | notificationClosed notificationId => exact .kept session h ⟨rfl, rfl⟩

/-- The input neither registers the session nor ends it, and prunes it only when it is not
there. -/
def LeavesRecord (ctx : AppContext) (id : Bytes) : Input → Prop
  | .registerSession provider given pid _ _ _ _ => SessionRegistry.assignedId provider given pid ≠ id
  | .endSession sessionId _ => sessionId ≠ id
  | .pruneStaleSessions now => (ctx.registry.pruneStaleSessions now).find id = ctx.registry.find id
  | _ => True

/-- A record that is left alone stays, with its owner. -/
theorem find_handle_of_leavesRecord (hleaves : LeavesRecord ctx id input)
    (h : ctx.registry.find id = some old) :
    ∃ session, (handle env ctx input).1.registry.find id = some session ∧
      SameOwner old session := by
  cases input with
  | registerSession provider given pid cwd metadata lineage now =>
    refine ⟨old, ?_, rfl, rfl⟩
    rw [← h]
    exact UnorderedMap.find_insertOrAssign_of_ne (Ne.symm hleaves)
  | publishEvent arguments now reply times =>
    by_cases hid : id = arguments.sessionId
    · subst hid
      exact ⟨_, find_methodPublishEvent_self, published_sameOwner h⟩
    · refine ⟨old, ?_, rfl, rfl⟩
      rw [← h]
      exact find_methodPublishEvent_of_ne hid
  | endSession sessionId result =>
    refine ⟨old, ?_, rfl, rfl⟩
    rw [← h]
    exact UnorderedMap.find_erase_of_ne (Ne.symm hleaves)
  | activateSession sessionId => exact ⟨old, h, rfl, rfl⟩
  | pruneStaleSessions now => exact ⟨old, hleaves.trans h, rfl, rfl⟩
  | actionInvoked notificationId actionKey now => exact ⟨old, h, rfl, rfl⟩
  | notificationClosed notificationId => exact ⟨old, h, rfl, rfl⟩

end Records

/-! ## Every session is accounted for -/

section Accounting

/-- Who answers for a session of a process: the end of the session among later calls, the running
wrapper, or a wrapper that was seen to end without ending the session. -/
inductive Accounted (wrappers : UnorderedMap UInt32 Wrapper) (log : List Observation)
    (later : List Message) (pid : UInt32) : Bytes → Prop
  | ends {id result : Bytes} (h : .endSession id result ∈ later) :
      Accounted wrappers log later pid id
  | runs (wrapper : Wrapper) (hfind : wrappers.find pid = some wrapper)
      (hregistered : wrapper.registered = true) :
      Accounted wrappers log later pid (sessionId wrapper.provider pid)
  | lost (wrapper : Wrapper) (status : WaitStatus) (calls : List Message)
      (hmem : .ended pid wrapper status calls ∈ log) (hregistered : wrapper.registered = true)
      (hsilent : ∀ result, .endSession (sessionId wrapper.provider pid) result ∉ calls) :
      Accounted wrappers log later pid (sessionId wrapper.provider pid)

/-- Every session with a process is accounted for. -/
def SessionsAccounted (log : List Observation) (s : System) : Prop :=
  ∀ id session, s.daemon.registry.find id = some session → session.pid ≠ 0 →
    Accounted s.wrappers log s.bus session.pid id

/-- So are the sessions that are yet to be registered. -/
structure AccountInv (log : List Observation) (s : System) : Prop where
  bus : ∀ before after provider id pid cwd metadata,
    s.bus = before ++ .registerSession provider id pid cwd metadata :: after →
    id ≠ [] ∧ Accounted s.wrappers log after pid id
  registry : SessionsAccounted log s

variable {wrappers wrappers' : UnorderedMap UInt32 Wrapper} {log log' : List Observation}
  {later calls : List Message} {pid : UInt32} {id : Bytes}

/-- A step of the wrappers keeps the account when it answers for each wrapper it found. -/
theorem Accounted.advance (h : Accounted wrappers log later pid id) (hlog : log ⊆ log')
    (hwrappers : ∀ pid wrapper, wrappers.find pid = some wrapper → wrapper.registered = true →
      Accounted wrappers' log' calls pid (sessionId wrapper.provider pid)) :
    Accounted wrappers' log' (later ++ calls) pid id := by
  cases h with
  | ends hmem => exact .ends (List.mem_append_left _ hmem)
  | runs wrapper hfind hregistered =>
    have hanswer := hwrappers pid wrapper hfind hregistered
    generalize sessionId wrapper.provider pid = id at hanswer ⊢
    cases hanswer with
    | ends hmem => exact .ends (List.mem_append_right _ hmem)
    | runs wrapper' hfind' hregistered' => exact .runs wrapper' hfind' hregistered'
    | lost wrapper' status calls' hmem hregistered' hsilent =>
      exact .lost wrapper' status calls' hmem hregistered' hsilent
  | lost wrapper status calls' hmem hregistered hsilent =>
    exact .lost wrapper status calls' (hlog hmem) hregistered hsilent

/-- A call that does not end the session is not missed. -/
theorem Accounted.tail {message : Message} {rest : List Message}
    (h : Accounted wrappers log (message :: rest) pid id)
    (hother : ∀ result, message ≠ .endSession id result) : Accounted wrappers log rest pid id := by
  cases h with
  | ends hmem =>
    rcases List.mem_cons.mp hmem with heq | hmem
    · exact absurd heq.symm (hother _)
    · exact .ends hmem
  | runs wrapper hfind hregistered => exact .runs wrapper hfind hregistered
  | lost wrapper status calls hmem hregistered hsilent =>
    exact .lost wrapper status calls hmem hregistered hsilent

variable {s : System}

/-- A step of the wrappers or of a hook: at most one call is sent, and a registration only by a
wrapper that then runs. -/
theorem AccountInv.advance (h : AccountInv log s) (hlog : log ⊆ log')
    (hwrappers : ∀ pid wrapper, s.wrappers.find pid = some wrapper → wrapper.registered = true →
      Accounted wrappers' log' calls pid (sessionId wrapper.provider pid))
    (hcalls : calls = [] ∨ ∃ message, calls = [message] ∧
      ∀ provider id pid cwd metadata, message = .registerSession provider id pid cwd metadata →
        id ≠ [] ∧ Accounted wrappers' log' [] pid id) :
    AccountInv log' { s with wrappers := wrappers', bus := s.bus ++ calls } where
  bus before after provider id pid cwd metadata hbus := by
    have hold : ∀ before after', s.bus
          = before ++ .registerSession provider id pid cwd metadata :: after' →
        id ≠ [] ∧ Accounted wrappers' log' (after' ++ calls) pid id := by
      intro before after' hbus
      obtain ⟨hne, haccounted⟩ := h.bus before after' provider id pid cwd metadata hbus
      exact ⟨hne, haccounted.advance hlog hwrappers⟩
    rcases hcalls with rfl | ⟨message, rfl, hnew⟩
    · have hold' := hold before after ((List.append_nil _).symm.trans hbus)
      rwa [List.append_nil] at hold'
    · rcases append_singleton_eq hbus with ⟨-, hmessage, rfl⟩ | ⟨init, rfl, hinit⟩
      · exact hnew provider id pid cwd metadata hmessage
      · exact hold before init hinit
  registry id session hfind hpid := (h.registry id session hfind hpid).advance hlog hwrappers

theorem AccountInv.append_log (h : AccountInv log s) (hlog : log ⊆ log') : AccountInv log' s := by
  have hadvanced : AccountInv log' { s with bus := s.bus ++ [] } := h.advance hlog
    (fun pid wrapper hfind hregistered => .runs wrapper hfind hregistered) (Or.inl rfl)
  rwa [List.append_nil] at hadvanced

/-- A wrapper starts under an id that no wrapper has. -/
theorem AccountInv.start (h : AccountInv log s) {wrapper : Wrapper}
    (hfree : s.wrappers.find pid = none) :
    AccountInv log { s with wrappers := s.wrappers.insertOrAssign pid wrapper } := by
  have hadvanced : AccountInv log
      { s with wrappers := s.wrappers.insertOrAssign pid wrapper, bus := s.bus ++ [] } := by
    refine h.advance (List.Subset.refl log) (fun other found hfind hregistered => ?_) (Or.inl rfl)
    refine .runs found ?_ hregistered
    rw [UnorderedMap.find_insertOrAssign_of_ne, hfind]
    rintro rfl
    rw [hfree] at hfind
    cases hfind
  rwa [List.append_nil] at hadvanced

/-- A wrapper runs on. -/
theorem AccountInv.runs {fmt : ℚ → Bytes} {wrapper wrapper' : Wrapper} (h : AccountInv log s)
    (hfind : s.wrappers.find pid = some wrapper) (hruns : RunsOn fmt wrapper pid calls wrapper') :
    AccountInv log
      { s with wrappers := s.wrappers.insertOrAssign pid wrapper', bus := s.bus ++ calls } := by
  refine h.advance (List.Subset.refl log) (fun other found hother hregistered => ?_) ?_
  · by_cases hpid : other = pid
    · subst hpid
      rw [hfind] at hother
      cases hother
      rw [← hruns.provider]
      refine .runs wrapper' UnorderedMap.find_insertOrAssign_self ?_
      rcases hruns.calls with ⟨-, hkept⟩ | ⟨-, -, -, hnow⟩
      · rw [hkept, hregistered]
      · exact hnow
    · refine .runs found ?_ hregistered
      rw [UnorderedMap.find_insertOrAssign_of_ne hpid, hother]
  · rcases hruns.calls with ⟨hnone, -⟩ | ⟨text, -, hcalls, hregistered⟩
    · exact Or.inl hnone
    · refine Or.inr ⟨_, hcalls, fun provider id pid' cwd metadata heq => ?_⟩
      cases heq
      refine ⟨sessionId_ne_nil _ _, ?_⟩
      rw [← hruns.provider]
      exact .runs wrapper' UnorderedMap.find_insertOrAssign_self hregistered

/-- A wrapper ends: with its session, or it is lost. -/
theorem AccountInv.ends {wrapper : Wrapper} {status : WaitStatus} (h : AccountInv log s)
    (hfind : s.wrappers.find pid = some wrapper)
    (hcalls : calls = [] ∨ ∃ result, calls = [.endSession (sessionId wrapper.provider pid) result]) :
    AccountInv (log ++ [.ended pid wrapper status calls])
      { s with wrappers := s.wrappers.erase pid, bus := s.bus ++ calls } := by
  refine h.advance (List.subset_append_left _ _) (fun other found hother hregistered => ?_) ?_
  · by_cases hpid : other = pid
    · subst hpid
      rw [hfind] at hother
      cases hother
      rcases hcalls with rfl | ⟨result, rfl⟩
      · exact .lost wrapper status [] (List.mem_append_right _ (List.mem_singleton_self _))
          hregistered fun _ => List.not_mem_nil
      · exact .ends (List.mem_singleton_self _)
    · refine .runs found ?_ hregistered
      rw [UnorderedMap.find_erase_of_ne hpid, hother]
  · rcases hcalls with hnone | ⟨result, rfl⟩
    · exact Or.inl hnone
    · exact Or.inr ⟨_, rfl, fun _ _ _ _ _ heq => Message.noConfusion heq⟩

/-- A hook sends a call that registers nothing. -/
theorem AccountInv.sends (h : AccountInv log s) {message : Message}
    (hother : ∀ provider id pid cwd metadata,
      message ≠ .registerSession provider id pid cwd metadata) :
    AccountInv log { s with bus := s.bus ++ sent true message } := by
  refine h.advance (List.Subset.refl log)
    (fun pid wrapper hfind hregistered => .runs wrapper hfind hregistered) ?_
  rcases sent_cases true message with hsent | hsent
  · exact Or.inl hsent
  · exact Or.inr ⟨message, hsent, fun provider id pid cwd metadata heq =>
      absurd heq (hother provider id pid cwd metadata)⟩

variable {env : Environment}

/-- The daemon takes an input that registers nothing. -/
theorem AccountInv.feed (h : AccountInv log s) {input : Input}
    (hother : ∀ provider given pid cwd metadata lineage now,
      input ≠ .registerSession provider given pid cwd metadata lineage now) :
    AccountInv log { s with daemon := (handle env s.daemon input).1 } where
  bus := h.bus
  registry id session hfind hpid := by
    cases recordFrom_handle hfind with
    | registered hid hregistered => exact absurd rfl (hother _ _ _ _ _ _ _)
    | created hzero => exact absurd hzero hpid
    | kept old hold hsame =>
      rw [hsame.1] at hpid ⊢
      exact h.registry id old hold hpid

/-- The daemon handles the next call. -/
theorem AccountInv.handle {lib : CppLib} {J : JsonLibrary lib} (h : AccountInv log s)
    {message : Message} {rest : List Message} (hbus : s.bus = message :: rest) (reading : Reading) :
    AccountInv log
      { s with
        bus := rest
        daemon := (handle env s.daemon (message.input J reading)).1 } where
  bus before after provider id pid cwd metadata hrest := by
    refine h.bus (message :: before) after provider id pid cwd metadata ?_
    rw [hbus]
    exact congrArg (message :: ·) hrest
  registry id session hfind hpid := by
    cases message with
    | registerSession provider given pid cwd metadata =>
      obtain ⟨hne, haccounted⟩ := h.bus [] rest provider given pid cwd metadata hbus
      rcases UnorderedMap.find_insertOrAssign_iff.mp hfind with ⟨rfl, rfl⟩ | ⟨-, hold⟩
      · -- the id was given, so it is the one that is assigned
        rw [SessionRegistry.assignedId, if_neg hne]
        exact haccounted
      · have hkept := h.registry id session hold hpid
        rw [hbus] at hkept
        exact hkept.tail fun _ => Message.noConfusion
    | publishEvent arguments =>
      have hfed : AccountInv log { s with daemon := (Agent.handle env s.daemon (.publishEvent
          arguments reading.now reading.reply reading.times)).1 } :=
        h.feed fun _ _ _ _ _ _ _ => Input.noConfusion
      have hkept := hfed.registry id session hfind hpid
      rw [hbus] at hkept
      exact hkept.tail fun _ => Message.noConfusion
    | endSession ended result =>
      obtain ⟨hother, hold⟩ := UnorderedMap.find_erase_iff.mp hfind
      have hkept := h.registry id session hold hpid
      rw [hbus] at hkept
      refine hkept.tail fun result' heq => ?_
      cases heq
      exact hother rfl
    | activateSession sessionId =>
      have hkept := h.registry id session hfind hpid
      rw [hbus] at hkept
      exact hkept.tail fun _ => Message.noConfusion

variable {lib : CppLib} {J : JsonLibrary lib}

theorem step_wrapper_runs {wrapper wrapper' : Wrapper} {answer : Answer}
    (hfind : s.wrappers.find pid = some wrapper)
    (hstep : wrapper.step lib.jsonNumber pid answer = (calls, .runs wrapper')) :
    step J env s (.wrapper pid answer)
      = ({ s with wrappers := s.wrappers.insertOrAssign pid wrapper', bus := s.bus ++ calls }, []) := by
  unfold step
  simp only [hfind, hstep]

theorem step_wrapper_ends {wrapper : Wrapper} {answer : Answer} {status : WaitStatus}
    (hfind : s.wrappers.find pid = some wrapper)
    (hstep : wrapper.step lib.jsonNumber pid answer = (calls, .ends status)) :
    step J env s (.wrapper pid answer)
      = ({ s with wrappers := s.wrappers.erase pid, bus := s.bus ++ calls },
        [.ended pid wrapper status calls]) := by
  unfold step
  simp only [hfind, hstep]

/-- Every step keeps the account. -/
theorem AccountInv.step (h : AccountInv log s) (event : Event) :
    AccountInv (log ++ (step J env s event).2) (step J env s event).1 := by
  cases event with
  | start pid provider cwd =>
    simp only [AgentRun.step]
    split
    · rwa [List.append_nil]
    · rename_i hfree
      rw [not_or, Bool.not_eq_true, Option.isSome_eq_false_iff, Option.isNone_iff_eq_none] at hfree
      rw [List.append_nil]
      exact h.start hfree.2
  | wrapper pid answer =>
    cases hfind : s.wrappers.find pid with
    | none => simpa only [AgentRun.step, hfind, List.append_nil] using h
    | some wrapper =>
      cases hstep : wrapper.step lib.jsonNumber pid answer with
      | mk calls next =>
        cases next with
        | runs wrapper' =>
          rw [step_wrapper_runs hfind hstep, List.append_nil]
          exact h.runs hfind (runsOn_of_step hstep)
        | ends status =>
          rw [step_wrapper_ends hfind hstep]
          exact h.ends hfind (calls_of_step_ends hstep)
  | killed pid signal =>
    cases hfind : s.wrappers.find pid with
    | none => simpa only [AgentRun.step, hfind, List.append_nil] using h
    | some wrapper =>
      have hends : AccountInv (log ++ [.ended pid wrapper (.signaled signal) []])
          { s with wrappers := s.wrappers.erase pid, bus := s.bus ++ [] } :=
        h.ends hfind (Or.inl rfl)
      rw [List.append_nil] at hends
      simpa only [AgentRun.step, hfind] using hends
  | publish arguments =>
    simpa only [AgentRun.step, List.append_nil] using
      h.sends fun _ _ _ _ _ => Message.noConfusion
  | activate sessionId =>
    simpa only [AgentRun.step, List.append_nil] using
      h.sends fun _ _ _ _ _ => Message.noConfusion
  | handle reading =>
    cases hbus : s.bus with
    | nil => simpa only [AgentRun.step, hbus, List.append_nil] using h
    | cons message rest =>
      simp only [AgentRun.step, hbus]
      exact (h.handle hbus reading).append_log (List.subset_append_left _ _)
  | prune now =>
    exact (h.feed fun _ _ _ _ _ _ _ => Input.noConfusion).append_log (List.subset_append_left _ _)
  | actionInvoked notificationId actionKey now =>
    exact (h.feed fun _ _ _ _ _ _ _ => Input.noConfusion).append_log (List.subset_append_left _ _)
  | notificationClosed notificationId =>
    exact (h.feed fun _ _ _ _ _ _ _ => Input.noConfusion).append_log (List.subset_append_left _ _)

theorem accountInv_initial : AccountInv [] System.initial where
  bus before after provider id pid cwd metadata hbus :=
    absurd hbus.symm (List.append_ne_nil_of_right_ne_nil before (List.cons_ne_nil _ after))
  registry id session hfind := by cases hfind

/-- **No session is left behind silently.** In every state of every run of wrappers, hooks and the
daemon, in any order of their steps, a session with a process is that of its running wrapper, or its
end is on the bus, or its wrapper was seen to end without ending it. -/
theorem sessions_accounted (J : JsonLibrary lib) (env : Environment) (events : List Event) :
    SessionsAccounted ((system J env).run System.initial events).2
      ((system J env).run System.initial events).1 := by
  have hall : (system J env).AllSteps (fun _ _ => True) System.initial events :=
    (system J env).allSteps_inputs_iff.mpr fun _ _ => trivial
  have hinv : AccountInv ([] ++ ((system J env).run System.initial events).2)
      ((system J env).run System.initial events).1 :=
    (system J env).run_induction (fun _ _ event h _ => h.step event) accountInv_initial hall
  exact hinv.registry

end Accounting

/-! ## The session of a running wrapper -/

section Holding

/-- The call does not register or end the session. -/
def Message.Spares (id : Bytes) : Message → Prop
  | .registerSession provider given pid _ _ => SessionRegistry.assignedId provider given pid ≠ id
  | .endSession ended _ => ended ≠ id
  | _ => True

/-- The record of the wrapper's own registration: its process, and the title of its terminal. -/
def Own (provider cwd : Bytes) (pid : UInt32) (session : AgentSession) : Prop :=
  session.pid = pid ∧ ∀ descriptor, session.activation = some descriptor →
    descriptor.titleHint = (terminalTitle provider cwd).take maximumActivationTitleBytes

/-- The registration is on the bus, or it has been handled and the record is there; no call after
it touches the session. -/
inductive Held (fmt : ℚ → Bytes) (bus : List Message) (registry : SessionRegistry)
    (provider cwd : Bytes) (pid : UInt32) : Prop
  | announced (before after : List Message) (text : Bytes)
      (htext : (metadata provider cwd).dump fmt = .ok text)
      (hbus : bus = before ++ registration provider cwd pid text :: after)
      (hafter : ∀ message ∈ after, message.Spares (sessionId provider pid))
  | stored (session : AgentSession) (hfind : registry.find (sessionId provider pid) = some session)
      (hown : Own provider cwd pid session)
      (hbus : ∀ message ∈ bus, message.Spares (sessionId provider pid))

/-- Every running wrapper that registered has its session. -/
def SessionsHeld (fmt : ℚ → Bytes) (s : System) : Prop :=
  ∀ pid wrapper, s.wrappers.find pid = some wrapper → wrapper.registered = true →
    Held fmt s.bus s.daemon.registry wrapper.provider wrapper.cwd pid

/-- A prune comes within a day of the last event of every running wrapper's session. -/
def PrunesIdle (s : System) : Event → Prop
  | .prune now => ∀ pid wrapper session, s.wrappers.find pid = some wrapper →
      s.daemon.registry.find (sessionId wrapper.provider pid) = some session →
      now - session.lastUpdateTime ≤ nanosPerDay
  | _ => True

variable {fmt : ℚ → Bytes} {bus calls : List Message} {registry : SessionRegistry}
  {provider cwd : Bytes} {pid : UInt32} {s : System}

theorem assignedId_sessionId (provider : Bytes) (pid : UInt32) :
    SessionRegistry.assignedId provider (sessionId provider pid) pid = sessionId provider pid := by
  rw [SessionRegistry.assignedId, if_neg (sessionId_ne_nil _ _)]

theorem Held.append (h : Held fmt bus registry provider cwd pid)
    (hcalls : ∀ message ∈ calls, message.Spares (sessionId provider pid)) :
    Held fmt (bus ++ calls) registry provider cwd pid := by
  cases h with
  | announced before after text htext hbus hafter =>
    refine .announced before (after ++ calls) text htext ?_ fun message hmem => ?_
    · rw [hbus, List.append_assoc, List.cons_append]
    · exact (List.mem_append.mp hmem).elim (hafter message) (hcalls message)
  | stored session hfind hown hbus =>
    refine .stored session hfind hown fun message hmem => ?_
    exact (List.mem_append.mp hmem).elim (hbus message) (hcalls message)

theorem Own.of_sameOwner {old session : AgentSession} (h : Own provider cwd pid old)
    (hsame : SameOwner old session) : Own provider cwd pid session := by
  refine ⟨hsame.1.trans h.1, fun descriptor hactivation => h.2 descriptor ?_⟩
  rw [← hsame.2, hactivation]

variable {env : Environment} {ctx : AppContext}

/-- The daemon takes an input that leaves the record alone. -/
theorem Held.feed (h : Held fmt bus ctx.registry provider cwd pid) {input : Input}
    (hleaves : LeavesRecord ctx (sessionId provider pid) input) :
    Held fmt bus (handle env ctx input).1.registry provider cwd pid := by
  cases h with
  | announced before after text htext hbus hafter =>
    exact .announced before after text htext hbus hafter
  | stored old hold hown hbus =>
    obtain ⟨session, hfind, hsame⟩ := @find_handle_of_leavesRecord env ctx input _ old hleaves hold
    exact .stored session hfind (hown.of_sameOwner hsame) hbus

variable {lib : CppLib} {J : JsonLibrary lib}

/-- The daemon reads the metadata that the wrapper wrote. -/
theorem readMetadata_dump {text : Bytes}
    (htext : (metadata provider cwd).dump lib.jsonNumber = .ok text) :
    readMetadata J text = metadata provider cwd := by
  have hwf : (metadata provider cwd).WellFormed J.IsDouble := by
    simp [metadata, Json.object, Json.insertField, Json.WellFormed, Json.WellFormedFields]
  have hparse := J.parse_dump hwf htext
  have hne : text ≠ [] := by
    rintro rfl
    simp only [metadata, Json.object, List.foldl_cons, List.foldl_nil, Json.insertField,
      Json.dump] at htext
    obtain ⟨parts, -, hparts⟩ := bind_eq_ok.mp htext
    cases hparts
  rw [readMetadata, if_neg hne, hparse]
  rfl

/-- The record of a registration is the wrapper's own. -/
theorem own_registered (lineage : List UInt32) {session : AgentSession}
    (hpid : session.pid = pid)
    (hactivation : session.activation
      = SessionRegistry.registeredActivation lineage (metadata provider cwd)) :
    Own provider cwd pid session := by
  refine ⟨hpid, fun descriptor hsome => ?_⟩
  rw [hactivation] at hsome
  unfold SessionRegistry.registeredActivation at hsome
  simp only at hsome
  split at hsome
  · cases hsome
    rfl
  · cases hsome

theorem find_registration {text : Bytes}
    (htext : (metadata provider cwd).dump lib.jsonNumber = .ok text) (reading : Reading) :
    ∃ session, (handle env ctx ((registration provider cwd pid text).input J reading)).1.registry.find
        (sessionId provider pid) = some session ∧ Own provider cwd pid session := by
  refine ⟨_, (congrArg _ (assignedId_sessionId provider pid).symm).trans
    UnorderedMap.find_insertOrAssign_self, own_registered reading.lineage rfl ?_⟩
  show SessionRegistry.registeredActivation _ (readMetadata J text) = _
  rw [readMetadata_dump htext]

/-- The daemon handles the next call. -/
theorem Held.handle {message : Message} {rest : List Message}
    (h : Held lib.jsonNumber (message :: rest) ctx.registry provider cwd pid) (reading : Reading) :
    Held lib.jsonNumber rest (Agent.handle env ctx (message.input J reading)).1.registry provider cwd
      pid := by
  cases h with
  | announced before after text htext hbus hafter =>
    cases before with
    | nil =>
      obtain ⟨rfl, rfl⟩ := List.cons.inj hbus
      obtain ⟨session, hfind, hown⟩ := find_registration htext reading
      exact .stored session hfind hown hafter
    | cons first before =>
      exact .announced before after text htext (List.cons.inj hbus).2 hafter
  | stored old hold hown hbus =>
    have hspares := hbus message List.mem_cons_self
    have hleaves : LeavesRecord ctx (sessionId provider pid) (message.input J reading) := by
      cases message with
      | registerSession _ _ _ _ _ => exact hspares
      | publishEvent _ => trivial
      | endSession _ _ => exact hspares
      | activateSession _ => trivial
    have hrest : Held lib.jsonNumber rest ctx.registry provider cwd pid :=
      .stored old hold hown fun message hmem => hbus message (List.mem_cons_of_mem _ hmem)
    exact hrest.feed hleaves

/-- The calls of one wrapper spare the sessions of the others. -/
theorem spares_registration {other : Bytes} {otherPid : UInt32} (cwd text : Bytes)
    (hne : otherPid ≠ pid) :
    (registration other cwd otherPid text).Spares (sessionId provider pid) := by
  show SessionRegistry.assignedId _ _ _ ≠ _
  rw [assignedId_sessionId]
  exact sessionId_ne hne

/-- A wrapper runs on, and the sessions of all are held. -/
theorem SessionsHeld.runs {wrapper wrapper' : Wrapper} (h : SessionsHeld fmt s)
    (hfind : s.wrappers.find pid = some wrapper) (hruns : RunsOn fmt wrapper pid calls wrapper') :
    SessionsHeld fmt
      { s with wrappers := s.wrappers.insertOrAssign pid wrapper', bus := s.bus ++ calls } := by
  intro other found hother hregistered
  rcases UnorderedMap.find_insertOrAssign_iff.mp hother with ⟨rfl, rfl⟩ | ⟨hne, hold⟩
  · rw [hruns.provider, hruns.cwd]
    rcases hruns.calls with ⟨rfl, hkept⟩ | ⟨text, htext, rfl, -⟩
    · rw [List.append_nil]
      exact h other wrapper hfind (hkept ▸ hregistered)
    · exact .announced s.bus [] text htext rfl fun _ hmem => absurd hmem List.not_mem_nil
  · refine (h other found hold hregistered).append fun message hmem => ?_
    rcases hruns.calls with ⟨rfl, -⟩ | ⟨text, -, rfl, -⟩
    · exact absurd hmem List.not_mem_nil
    · rw [List.mem_singleton.mp hmem]
      exact spares_registration _ _ (Ne.symm hne)

/-- A wrapper ends, and the sessions of the others are held. -/
theorem SessionsHeld.ends {wrapper : Wrapper} (h : SessionsHeld fmt s)
    (hcalls : calls = [] ∨ ∃ result, calls = [.endSession (sessionId wrapper.provider pid) result]) :
    SessionsHeld fmt { s with wrappers := s.wrappers.erase pid, bus := s.bus ++ calls } := by
  intro other found hother hregistered
  obtain ⟨hne, hold⟩ := UnorderedMap.find_erase_iff.mp hother
  refine (h other found hold hregistered).append fun message hmem => ?_
  rcases hcalls with rfl | ⟨result, rfl⟩
  · exact absurd hmem List.not_mem_nil
  · rw [List.mem_singleton.mp hmem]
    exact sessionId_ne (Ne.symm hne)

/-- A hook sends a call. -/
theorem SessionsHeld.sends (h : SessionsHeld fmt s) {message : Message}
    (hspares : ∀ id, message.Spares id) :
    SessionsHeld fmt { s with bus := s.bus ++ sent true message } := by
  intro pid wrapper hfind hregistered
  refine (h pid wrapper hfind hregistered).append fun other hmem => ?_
  rcases sent_cases true message with hsent | hsent
  · rw [hsent] at hmem
    exact absurd hmem List.not_mem_nil
  · rw [hsent] at hmem
    rw [List.mem_singleton.mp hmem]
    exact hspares _

/-- The daemon takes an input that leaves the sessions of the wrappers alone. -/
theorem SessionsHeld.feed (h : SessionsHeld fmt s) {input : Input}
    (hleaves : ∀ pid wrapper, s.wrappers.find pid = some wrapper →
      LeavesRecord s.daemon (sessionId wrapper.provider pid) input) :
    SessionsHeld fmt { s with daemon := (Agent.handle env s.daemon input).1 } :=
  fun pid wrapper hfind hregistered =>
    (h pid wrapper hfind hregistered).feed (hleaves pid wrapper hfind)

/-- A prune within a day of the last event leaves the record. -/
theorem leavesRecord_prune {id : Bytes} {now : TimePoint}
    (hidle : ∀ session, ctx.registry.find id = some session →
      now - session.lastUpdateTime ≤ nanosPerDay) :
    LeavesRecord ctx id (.pruneStaleSessions now) := by
  show (ctx.registry.pruneStaleSessions now).find id = ctx.registry.find id
  ext session
  refine UnorderedMap.find_eraseIf.trans ⟨And.left, fun hfind => ⟨hfind, ?_⟩⟩
  exact decide_eq_false (not_lt.mpr (hidle session hfind))

/-- Every step keeps the sessions of the running wrappers, a prune when they are not idle. -/
theorem SessionsHeld.step (h : SessionsHeld lib.jsonNumber s) {event : Event}
    (hidle : PrunesIdle s event) : SessionsHeld lib.jsonNumber (step J env s event).1 := by
  cases event with
  | start pid provider cwd =>
    simp only [AgentRun.step]
    split
    · exact h
    · intro other found hother hregistered
      rcases UnorderedMap.find_insertOrAssign_iff.mp hother with ⟨-, rfl⟩ | ⟨-, hold⟩
      -- the new wrapper has not registered
      · cases hregistered
      · exact h other found hold hregistered
  | wrapper pid answer =>
    cases hfind : s.wrappers.find pid with
    | none => simpa only [AgentRun.step, hfind] using h
    | some wrapper =>
      cases hstep : wrapper.step lib.jsonNumber pid answer with
      | mk calls next =>
        cases next with
        | runs wrapper' =>
          rw [step_wrapper_runs hfind hstep]
          exact h.runs hfind (runsOn_of_step hstep)
        | ends status =>
          rw [step_wrapper_ends hfind hstep]
          exact h.ends (calls_of_step_ends hstep)
  | killed pid signal =>
    cases hfind : s.wrappers.find pid with
    | none => simpa only [AgentRun.step, hfind] using h
    | some wrapper =>
      simp only [AgentRun.step, hfind]
      exact fun other found hother hregistered =>
        h other found (UnorderedMap.find_of_find_erase hother) hregistered
  | publish arguments => exact h.sends fun _ => trivial
  | activate sessionId => exact h.sends fun _ => trivial
  | handle reading =>
    cases hbus : s.bus with
    | nil => simpa only [AgentRun.step, hbus] using h
    | cons message rest =>
      simp only [AgentRun.step, hbus]
      intro pid wrapper hfind hregistered
      have hheld := h pid wrapper hfind hregistered
      rw [hbus] at hheld
      exact hheld.handle reading
  | prune now => exact h.feed fun pid wrapper hfind => leavesRecord_prune (hidle pid wrapper · hfind)
  | actionInvoked notificationId actionKey now => exact h.feed fun _ _ _ => trivial
  | notificationClosed notificationId => exact h.feed fun _ _ _ => trivial

/-- **The session of a running wrapper is its own.** In every state of a run whose prunes find no
running wrapper's session idle for a day, each running wrapper that registered has its registration
on the bus, with nothing after it that touches the session, or its record in the registry, with its
process and its title. -/
theorem running_sessions_held (J : JsonLibrary lib) (env : Environment) (events : List Event)
    (hidle : (system J env).AllSteps PrunesIdle System.initial events) :
    SessionsHeld lib.jsonNumber ((system J env).run System.initial events).1 := by
  have hinit : SessionsHeld lib.jsonNumber System.initial := fun pid wrapper hfind => by cases hfind
  exact (system J env).run_invariant (fun _ _ h hgood => h.step hgood) hinit hidle

/-- A wrapper that registers, an event for its session, and a prune a day later to the second. -/
def claudeRun : List Event :=
  [.start 7 "claude" "/home/user/project", .wrapper 7 (.bus true), .wrapper 7 (.fork true),
    .handle { lineage := [7, 1], now := 1000, times := { pruneTime := 0, insertTime := 0 } },
    .publish { sessionId := "claude-7", state := "Working" },
    .handle { now := 2000, times := { pruneTime := 0, insertTime := 0 } },
    .prune (2000 + nanosPerDay)]

/-- Its session is held at the end. -/
theorem running_sessions_held_claude :
    ((system .integral {}).run System.initial claudeRun).1.wrappers.find 7
      = some
        { provider := "claude"
          cwd := "/home/user/project"
          phase := .waiting
          registered := true } ∧
    SessionsHeld CppLib.integral.jsonNumber
      ((system .integral {}).run System.initial claudeRun).1 := by
  refine ⟨by rfl, running_sessions_held .integral {} claudeRun
    ⟨trivial, trivial, trivial, trivial, trivial, trivial, ?_, trivial⟩⟩
  have hall : ∀ entry ∈ ((system .integral {}).run System.initial
      (claudeRun.take 6)).1.daemon.registry.entries,
      2000 + nanosPerDay - entry.2.lastUpdateTime ≤ nanosPerDay := by decide
  exact fun pid wrapper session _ hsession =>
    hall _ (UnorderedMap.find_eq_some_iff.mp hsession)

end Holding

end AgentRun

end Agent

end Holonight
