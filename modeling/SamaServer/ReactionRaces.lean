/-
Updates of reactions that overlap.  A row is inserted once when no request
looks it up while another one is about to insert it, and then the two
aggregations agree; two devices of one user that add a reaction at the same
time insert it twice.
-/
import SamaServer.MessageReactions

namespace SamaServer

/-- An update of reactions, after the check of the message. -/
structure ReactionRequest where
  mid : ObjectId
  userId : ObjectId
  add : Option String
  remove : Option String
deriving DecidableEq

/-- A request comes in, or one in flight sends its next command. -/
inductive ReactionEvent
  | received (request : ReactionRequest)
  | resumed (index : Nat)
deriving DecidableEq

namespace MessageReactions

open Async (atomic)

abbrev ReactionSystem :=
  System ReactionRequest ReactionCommand (List MessageReaction)

/-- The request in flight; its result goes back to the client. -/
def task (request : ReactionRequest) :
    Task ReactionRequest ReactionCommand (List MessageReaction) :=
  ⟨request, Async.bind (updateReactions request.mid request.userId
    request.add request.remove) (fun _ => .done ())⟩

def event : ReactionEvent →
    Event ReactionRequest ReactionCommand (List MessageReaction)
  | .received request => .spawn (task request)
  | .resumed index => .tick index

def interleave (events : List ReactionEvent) : ReactionSystem :=
  (System.start []).run (events.map event)

/-- Nobody else is about to insert the row that a command looks up. -/
def LooksAlone (system : ReactionSystem) : Option ReactionCommand → Prop
  | some (.findOne row) =>
      ∀ task ∈ system.tasks, task.body.head? ≠ some (.insertOne row)
  | _ => True

instance (system : ReactionSystem) :
    (command : Option ReactionCommand) →
      Decidable (LooksAlone system command)
  | some (.findOne row) => inferInstanceAs (Decidable
      (∀ task ∈ system.tasks, task.body.head? ≠ some (.insertOne row)))
  | some (.insertOne _) => inferInstanceAs (Decidable True)
  | some (.deleteMany _) => inferInstanceAs (Decidable True)
  | none => inferInstanceAs (Decidable True)

/-- No reaction is looked up while another request is about to insert the
same row, and no added reaction is the name of the prototype. -/
def Separate (system : ReactionSystem) :
    Event ReactionRequest ReactionCommand (List MessageReaction) → Prop
  | .spawn task => task.tag.add ≠ some "__proto__"
  | .tick index => LooksAlone system (system.nextLabel? index)

instance (system : ReactionSystem) :
    (event : Event ReactionRequest ReactionCommand
      (List MessageReaction)) → Decidable (Separate system event)
  | .spawn task =>
      inferInstanceAs (Decidable (task.tag.add ≠ some "__proto__"))
  | .tick index => inferInstanceAs (Decidable
      (LooksAlone system (system.nextLabel? index)))

/-- All events of the run are separate. -/
def AllSeparate (events : List ReactionEvent) : Prop :=
  System.Along Separate (System.start []) (events.map event)

instance (events : List ReactionEvent) : Decidable (AllSeparate events) :=
  inferInstanceAs (Decidable (System.Along _ _ _))

/-! ### Commands -/

/-- What a command does to the rows. -/
def Does (rows after : List MessageReaction) : ReactionCommand → Prop
  | .findOne _ => after = rows
  | .insertOne row =>
      after = rows ++ [row] ∧ row.reaction ≠ "__proto__"
  | .deleteMany row => after = rows.filter (fun stored => stored ≠ row)

/-- A program that inserts a row right after a look-up has missed it. -/
def LooksFirst {A : Type} : ReactionProgram A → Prop
  | .done _ => True
  | .step command effect next =>
      ∀ rows, Does rows (effect rows) command ∧
        (∀ row, (next rows).head? = some (.insertOne row) →
          command = .findOne row ∧ row ∉ rows) ∧
        LooksFirst (next rows)

/-- A program that does not begin with an insertion. -/
def Starts {A : Type} (program : ReactionProgram A) : Prop :=
  LooksFirst program ∧ ∀ row, program.head? ≠ some (.insertOne row)

theorem starts_done {A : Type} (result : A) :
    Starts (.done result : ReactionProgram A) :=
  ⟨trivial, fun _ hhead => nomatch hhead⟩

theorem starts_remove {A : Type} (row : MessageReaction)
    {rest : Bool → ReactionProgram A} (hrest : ∀ removed,
      Starts (rest removed)) : Starts (remove row >>= rest) := by
  refine ⟨fun rows => ⟨rfl, ?_, (hrest _).1⟩, fun other hhead => ?_⟩
  · exact fun other hhead => absurd hhead ((hrest _).2 other)
  · cases hhead

theorem starts_upsert {A : Type} {row : MessageReaction}
    (hrow : row.reaction ≠ "__proto__") {rest : Bool → ReactionProgram A}
    (hrest : ∀ added, Starts (rest added)) :
    Starts (upsert row >>= rest) := by
  have hinsert : LooksFirst ((atomic (ReactionCommand.insertOne row)
      (fun rows => ((), rows ++ [row])) >>= fun _ => pure true) >>=
        rest) := by
    refine fun rows => ⟨⟨rfl, hrow⟩, ?_, (hrest true).1⟩
    exact fun other hhead => absurd hhead ((hrest true).2 other)
  refine ⟨fun rows => ⟨rfl, ?_, ?_⟩, fun other hhead => ?_⟩
  · intro other hhead
    by_cases hexisted : row ∈ rows
    · simp only [hexisted, decide_true] at hhead
      exact absurd hhead ((hrest false).2 other)
    · simp only [hexisted, decide_false] at hhead
      cases hhead
      exact ⟨rfl, hexisted⟩
  · by_cases hexisted : row ∈ rows
    · simp only [hexisted, decide_true]
      exact (hrest false).1
    · simp only [hexisted, decide_false]
      exact hinsert
  · cases hhead

theorem starts_ifPresent {A : Type} (mid userId : ObjectId)
    {reaction : Option String}
    {work : MessageReaction → ReactionProgram Bool}
    {rest : Bool → ReactionProgram A}
    (hwork : ∀ text, reaction = some text →
      Starts (work ⟨mid, userId, text⟩ >>= rest))
    (hrest : Starts (rest false)) :
    Starts (ifPresent mid userId reaction work >>= rest) := by
  rw [ifPresent]
  cases hpresent : reaction.filter (· ≠ "") with
  | none => exact hrest
  | some text => exact hwork text (Option.filter_eq_some_iff.1 hpresent).1

theorem starts_task {request : ReactionRequest}
    (hadd : request.add ≠ some "__proto__") :
    Starts (task request).body := by
  have hlast : ∀ updated : UpdatedReactions, Starts
      ((pure updated : ReactionProgram UpdatedReactions) >>= fun _ =>
        Async.done ()) := fun _ => starts_done ()
  change Starts (updateReactions request.mid request.userId request.add
    request.remove >>= fun _ => Async.done ())
  rw [updateReactions, Async.bind_assoc]
  have hremove : ∀ add, Starts ((ifPresent request.mid request.userId
      request.remove remove >>= fun removed =>
        (pure ⟨add, removed⟩ : ReactionProgram UpdatedReactions)) >>=
          fun _ => Async.done ()) := by
    intro add
    rw [Async.bind_assoc]
    exact starts_ifPresent _ _
      (fun text _ => starts_remove _ (fun _ => hlast _)) (hlast _)
  refine starts_ifPresent _ _ (fun text htext => ?_) (hremove false)
  exact starts_upsert (fun hproto => hadd (htext.trans (by rw [← hproto])))
    hremove

/-! ### Runs -/

/-- No row is stored twice, and a row that is about to be inserted is not
stored and about to be inserted by one request only. -/
structure Consistent (system : ReactionSystem) : Prop where
  nodup : system.state.Nodup
  named : ∀ row ∈ system.state, row.reaction ≠ "__proto__"
  tasks : ∀ task ∈ system.tasks, LooksFirst task.body
  absent : ∀ index row,
    system.nextLabel? index = some (.insertOne row) → row ∉ system.state
  alone : ∀ index other row,
    system.nextLabel? index = some (.insertOne row) →
    system.nextLabel? other = some (.insertOne row) → index = other

theorem consistent_start : Consistent (System.start []) where
  nodup := List.nodup_nil
  named := by simp [System.start]
  tasks := by simp [System.start]
  absent := by simp [System.start]
  alone := by simp [System.start, System.nextLabel?]

theorem Consistent.spawn {system : ReactionSystem}
    (hsystem : Consistent system) {started : Task ReactionRequest
      ReactionCommand (List MessageReaction)}
    (hstarted : Starts started.body) :
    Consistent (system.spawn started) := by
  have hpending : ∀ index row,
      (system.spawn started).nextLabel? index = some (.insertOne row) →
        system.nextLabel? index = some (.insertOne row) := by
    intro index row hlabel
    obtain ⟨task, htask, hhead⟩ := Option.bind_eq_some_iff.1 hlabel
    rcases System.getElem?_spawn_cases htask with hold | ⟨-, hnew⟩
    · exact Option.bind_eq_some_iff.2 ⟨task, hold, hhead⟩
    · rw [hnew] at hhead
      exact absurd hhead (hstarted.2 row)
  refine ⟨hsystem.nodup, hsystem.named, ?_, ?_, ?_⟩
  · intro task htask
    rcases List.mem_append.1 htask with hold | hnew
    · exact hsystem.tasks task hold
    · rw [List.mem_singleton.1 hnew]
      exact hstarted.1
  · intro index row hlabel
    exact hsystem.absent index row (hpending index row hlabel)
  · intro index other row hlabel hother
    exact hsystem.alone index other row (hpending index row hlabel)
      (hpending other row hother)

/-- After a step a row is about to be inserted because it was so before, or
because the step has just looked it up in vain. -/
theorem nextLabel?_tick_insertOne {system : ReactionSystem}
    (hsystem : Consistent system) {index : Nat} {command : ReactionCommand}
    (hcommand : system.nextLabel? index = some command) {other : Nat}
    {row : MessageReaction}
    (hlabel : (system.tick index).nextLabel? other =
      some (.insertOne row)) :
    (other ≠ index ∧ system.nextLabel? other = some (.insertOne row)) ∨
      (other = index ∧ command = .findOne row ∧ row ∉ system.state) := by
  obtain ⟨tag, effect, next, hfound, htick⟩ :=
    System.tick_of_nextLabel? hcommand
  obtain ⟨-, hlooks, -⟩ := hsystem.tasks _ (List.mem_of_getElem? hfound)
    system.state
  rw [htick] at hlabel
  obtain ⟨task, htask, hhead⟩ := Option.bind_eq_some_iff.1 hlabel
  rcases System.getElem?_set_cases htask with ⟨hsame, hmoved⟩ | ⟨hne, hold⟩
  · rw [hmoved] at hhead
    exact Or.inr ⟨hsame, hlooks row hhead⟩
  · exact Or.inl ⟨hne, Option.bind_eq_some_iff.2 ⟨task, hold, hhead⟩⟩

/-- A step does what its command says. -/
theorem Consistent.does_tick {system : ReactionSystem}
    (hsystem : Consistent system) {index : Nat} {command : ReactionCommand}
    (hcommand : system.nextLabel? index = some command) :
    Does system.state (system.tick index).state command ∧
      ∀ task ∈ (system.tick index).tasks, LooksFirst task.body := by
  obtain ⟨tag, effect, next, hfound, htick⟩ :=
    System.tick_of_nextLabel? hcommand
  obtain ⟨hdoes, -, hnext⟩ := hsystem.tasks _ (List.mem_of_getElem? hfound)
    system.state
  rw [htick]
  exact ⟨hdoes, System.forall_mem_set hsystem.tasks hnext⟩

/-- A look-up, while nobody else is about to insert its row. -/
theorem Consistent.findOne {system : ReactionSystem}
    (hsystem : Consistent system) {index : Nat} {looked : MessageReaction}
    (hcommand : system.nextLabel? index = some (.findOne looked))
    (halone : ∀ task ∈ system.tasks,
      task.body.head? ≠ some (.insertOne looked)) :
    Consistent (system.tick index) := by
  obtain ⟨hdoes, htasks⟩ := hsystem.does_tick hcommand
  have hsame : (system.tick index).state = system.state := hdoes
  have hclash : ∀ other,
      system.nextLabel? other ≠ some (.insertOne looked) := by
    intro other hlabel
    obtain ⟨task, htask, hhead⟩ := Option.bind_eq_some_iff.1 hlabel
    exact halone task (List.mem_of_getElem? htask) hhead
  refine ⟨hsame ▸ hsystem.nodup, hsame ▸ hsystem.named, htasks, ?_, ?_⟩
  · intro other row hlabel
    rw [hsame]
    rcases nextLabel?_tick_insertOne hsystem hcommand hlabel with
      ⟨-, hold⟩ | ⟨-, -, habsent⟩
    · exact hsystem.absent other row hold
    · exact habsent
  · intro first second row hfirst hsecond
    rcases nextLabel?_tick_insertOne hsystem hcommand hfirst with
      ⟨-, hold⟩ | ⟨hmoved, hlook, -⟩
    · rcases nextLabel?_tick_insertOne hsystem hcommand hsecond with
        ⟨-, hother⟩ | ⟨-, hlook, -⟩
      · exact hsystem.alone first second row hold hother
      · cases hlook
        exact absurd hold (hclash first)
    · rcases nextLabel?_tick_insertOne hsystem hcommand hsecond with
        ⟨-, hold⟩ | ⟨hother, -, -⟩
      · cases hlook
        exact absurd hold (hclash second)
      · rw [hmoved, hother]

/-- Only a look-up makes a request about to insert a row. -/
theorem Consistent.pending_before {system : ReactionSystem}
    (hsystem : Consistent system) {index : Nat} {command : ReactionCommand}
    (hcommand : system.nextLabel? index = some command)
    (hnot : ∀ row, command ≠ .findOne row) {other : Nat}
    {row : MessageReaction}
    (hlabel : (system.tick index).nextLabel? other =
      some (.insertOne row)) :
    other ≠ index ∧ system.nextLabel? other = some (.insertOne row) := by
  rcases nextLabel?_tick_insertOne hsystem hcommand hlabel with
    hbefore | ⟨-, hlook, -⟩
  · exact hbefore
  · exact absurd hlook (hnot row)

theorem Consistent.insertOne {system : ReactionSystem}
    (hsystem : Consistent system) {index : Nat}
    {inserted : MessageReaction}
    (hcommand : system.nextLabel? index = some (.insertOne inserted)) :
    Consistent (system.tick index) := by
  obtain ⟨⟨hadded, hnamed⟩, htasks⟩ := hsystem.does_tick hcommand
  have hold := fun {other row} => @Consistent.pending_before system hsystem
    index _ hcommand (fun _ hfind => nomatch hfind) other row
  refine ⟨?_, ?_, htasks, ?_, ?_⟩
  · rw [hadded, ← List.concat_eq_append]
    exact hsystem.nodup.concat (hsystem.absent index inserted hcommand)
  · rw [hadded]
    intro row hrow
    rcases List.mem_append.1 hrow with hstored | hnew
    · exact hsystem.named row hstored
    · rw [List.mem_singleton.1 hnew]
      exact hnamed
  · intro other row hlabel hrow
    obtain ⟨hne, hbefore⟩ := hold hlabel
    rw [hadded] at hrow
    rcases List.mem_append.1 hrow with hstored | hnew
    · exact hsystem.absent other row hbefore hstored
    · rw [List.mem_singleton.1 hnew] at hbefore
      exact hne (hsystem.alone other index inserted hbefore hcommand)
  · intro first second row hfirst hsecond
    exact hsystem.alone first second row (hold hfirst).2 (hold hsecond).2

theorem Consistent.deleteMany {system : ReactionSystem}
    (hsystem : Consistent system) {index : Nat} {deleted : MessageReaction}
    (hcommand : system.nextLabel? index = some (.deleteMany deleted)) :
    Consistent (system.tick index) := by
  obtain ⟨hdoes, htasks⟩ := hsystem.does_tick hcommand
  have hless : (system.tick index).state.Sublist system.state := by
    rw [show (system.tick index).state = _ from hdoes]
    exact List.filter_sublist
  have hold := fun {other row} => @Consistent.pending_before system hsystem
    index _ hcommand (fun _ hfind => nomatch hfind) other row
  refine ⟨hsystem.nodup.sublist hless, ?_, htasks, ?_, ?_⟩
  · exact fun row hrow => hsystem.named row (hless.subset hrow)
  · intro other row hlabel hrow
    exact hsystem.absent other row (hold hlabel).2 (hless.subset hrow)
  · intro first second row hfirst hsecond
    exact hsystem.alone first second row (hold hfirst).2 (hold hsecond).2

theorem Consistent.tick {system : ReactionSystem}
    (hsystem : Consistent system) {index : Nat}
    (halone : LooksAlone system (system.nextLabel? index)) :
    Consistent (system.tick index) := by
  cases hcommand : system.nextLabel? index with
  | none =>
      rw [System.tick_of_nextLabel?_none hcommand]
      exact hsystem
  | some command =>
      rw [hcommand] at halone
      cases command with
      | findOne looked => exact hsystem.findOne hcommand halone
      | insertOne inserted => exact hsystem.insertOne hcommand
      | deleteMany deleted => exact hsystem.deleteMany hcommand

/-- Only requests are started. -/
def StartsRequest :
    Event ReactionRequest ReactionCommand (List MessageReaction) → Prop
  | .spawn started => ∃ request, started = task request
  | .tick _ => True

theorem startsRequest_event (event : ReactionEvent) :
    StartsRequest (MessageReactions.event event) := by
  cases event with
  | received request => exact ⟨request, rfl⟩
  | resumed index => trivial

/-- Every state of a separate run is consistent. -/
theorem consistent_interleave {events : List ReactionEvent}
    (hseparate : AllSeparate events) : Consistent (interleave events) := by
  have hstarts : System.Along (fun _ event => StartsRequest event)
      (System.start []) (events.map event) := by
    refine System.along_of_forall (fun started hstarted _ => ?_) _
    obtain ⟨received, -, rfl⟩ := List.mem_map.1 hstarted
    exact startsRequest_event received
  refine System.Along.invariant ?_ consistent_start (hseparate.and hstarts)
  intro system event hsystem hevent
  cases event with
  | spawn started =>
      obtain ⟨hadd, request, rfl⟩ := hevent
      exact hsystem.spawn (starts_task hadd)
  | tick index => exact hsystem.tick hevent.1

/-- The reactions behave as a set: every row is stored once, and the two
aggregations agree. -/
def BehavesAsSet (rows : List MessageReaction) : Prop :=
  (∀ row, rows.count row ≤ 1) ∧ Agree rows

/-- In every state of a run in which no row is looked up while another
request is about to insert it, and no reaction is named like the prototype,
the reactions behave as a set. -/
theorem behavesAsSet_interleave (events : List ReactionEvent)
    (hseparate : AllSeparate events) :
    BehavesAsSet (interleave events).state := by
  have hconsistent := consistent_interleave hseparate
  exact ⟨List.nodup_iff_count_le_one.1 hconsistent.nodup,
    agree_of_nodup hconsistent.nodup hconsistent.named⟩

/-- One device after the other, and a removal by the second. -/
theorem behavesAsSet_one_by_one :
    AllSeparate [.received ⟨5, 1, some "+", none⟩, .resumed 0, .resumed 0,
      .received ⟨5, 1, some "+", some "-"⟩, .resumed 1, .resumed 1] ∧
    BehavesAsSet (interleave [.received ⟨5, 1, some "+", none⟩, .resumed 0,
      .resumed 0, .received ⟨5, 1, some "+", some "-"⟩, .resumed 1,
      .resumed 1]).state :=
  ⟨by decide, behavesAsSet_interleave _ (by decide)⟩

/-- Two devices of a user add a reaction, and both look it up before one of
them inserts it. -/
def twoDevices : List ReactionEvent :=
  [.received ⟨5, 1, some "+", none⟩, .received ⟨5, 1, some "+", none⟩,
    .resumed 0, .resumed 1, .resumed 0, .resumed 1]

/-- The row is stored twice, and counted twice for one user. -/
theorem twoDevices_insert_twice :
    ¬ BehavesAsSet (interleave twoDevices).state ∧
      ¬ Agree (interleave twoDevices).state := by
  constructor
  · intro hset
    exact absurd (hset.1 ⟨5, 1, "+"⟩) (by decide)
  · intro hagree
    exact absurd ((hagree [5] 5 1 (by decide)).1 "+") (by decide)

example : ¬ Agree (interleave [.received ⟨5, 1, some "__proto__", none⟩,
    .resumed 0, .resumed 0]).state := by
  intro hagree
  obtain ⟨userIds, hfound, -⟩ := ((hagree [5] 5 1 (by decide)).2
    "__proto__").1 (by decide)
  cases hfound

end MessageReactions

end SamaServer
