import Ngotag.Await
import Ngotag.AdmissionQueue

/-!
Runs of one `IssuanceAdmissionQueue`: any number of `run` calls, each with its
deadline, whose operations end as they like, while the timers of waiters go off
and the clock moves. Slots and waiters stay within their bounds, slots are
handed out in the order of arrival, every call is settled once, and no slot is
lost (`queue_exact`).
-/
namespace Ngotag.AdmissionRuns
open Runs Await AdmissionQueue

inductive Cmd where
  /-- `acquire` until it returns or awaits its promise. -/
  | enqueue (deadline : Time)
  | admitted
  /-- The check of `run` and the start of the operation, in one turn. -/
  | begin (deadline : Time)
  | operation
  /-- `release` -/
  | leave

def Ret : Cmd → Type
  | .enqueue _ => Bool
  | _ => Unit
inductive Error where
  | timeout
  | full
  | operation
def refusal : Refusal → Error
  | .timeout => .timeout
  | .full => .full
abbrev Async := Prog Cmd Ret Error
def perform (command : Cmd) : Async (Ret command) := call command
/-- `acquire` -/
def acquire (deadline : Time) : Async Unit := do
  let seat : Bool ← perform (.enqueue deadline)
  if seat then pure () else perform .admitted
/-- What `run` tries once it has a slot. -/
def attempt (deadline : Time) : Async Unit := do
  let _ : Unit ← perform (.begin deadline)
  perform .operation
/-- `run` -/
def runCall (deadline : Time) : Async Unit := do
  acquire deadline
  (attempt deadline).ensure fun _ => perform .leave
inductive Event where
  | started (caller : Nat) (time : Time)
  | refused (caller : Nat) (reason : Refusal)
  deriving DecidableEq
def Event.caller : Event → Nat
  | .started caller _ => caller
  | .refused caller _ => caller

/-- The queue and the clock. For the record: the deadlines of the calls, who holds
    a slot, who asked for one and was not turned away and who got one, each in
    order, and how calls were decided. -/
structure World where
  queue : Admission
  clock : Time
  deadline : Nat → Option Time
  holders : Finset Nat
  arrived : List Nat
  seated : List Nat
  log : List Event

def World.empty : World := ⟨.empty,0,fun _ => none,∅,[],[],[]⟩
def World.note (event : Event) (w : World) : World := { w with log := event :: w.log }

section
variable (capacity maxPending : Nat)

abbrev Choice := Bool

def handle (process : Nat) (c : Cmd) (throws : Choice) (w : World) : Option (World × Except Error (Ret c)) :=
  match c with
  | .enqueue deadline =>
    match w.queue.acquire capacity maxPending w.clock deadline process with
    | .error reason => some (w.note (.refused process reason),.error (refusal reason))
    | .ok (queue,seat) => some ({ w with
        queue := queue
        holders := if seat then insert process w.holders else w.holders
        arrived := w.arrived ++ [process]
        seated := if seat then w.seated ++ [process] else w.seated },.ok seat)
  | .admitted =>
    match w.queue.settled process with
    | some true => some (w,.ok ())
    | some false => some (w.note (.refused process .timeout),.error .timeout)
    | none => none
  | .begin deadline =>
    if deadline ≤ w.clock then some (w.note (.refused process .timeout),.error .timeout)
    else some (w.note (.started process w.clock),.ok ())
  | .operation => some (w,if throws then .error .operation else .ok ())
  | .leave =>
    let next := w.queue.release w.clock
    some ({ w with
      queue := next.1
      holders := handed w.holders process next.2
      seated := w.seated ++ next.2.toList },.ok ())

inductive Env where
  | timer (process : Nat)
  | clock (time : Time)
def environment (event : Env) (w : World) : Option World :=
  match event with
  | .timer process => some { w with queue := w.queue.expire process }
  | .clock time => some { w with clock := time }
def arrive (process : Nat) (deadline : Time) (w : World) : Option World :=
  some { w with deadline := Function.update w.deadline process (some deadline) }
def sys : System Cmd Ret Error Unit World Choice Time Env where
  handle := handle capacity maxPending
  arrive := arrive
  program _ := runCall
  environment := environment

end

def decisions (process : Nat) (w : World) : List Event := w.log.filter (·.caller = process)

section
variable (capacity maxPending : Nat)

/-- The bounds, the order and the accounts. -/
structure Orderly (w : World) : Prop where
  accounts : Accounts w.queue w.holders
  slots : w.queue.active ≤ capacity
  short : w.queue.pending.length ≤ maxPending
  busy : w.queue.pending ≠ [] → w.queue.active = capacity
  order : (w.seated ++ w.queue.waiting).Sublist w.arrived
  distinct : w.arrived.Nodup
  once : ∀ process, (decisions process w).length ≤ 1
  undecided : ∀ process ∈ w.queue.waiting, decisions process w = []
  inTime : ∀ process time, .started process time ∈ w.log → ∃ deadline, w.deadline process = some deadline ∧
      time < deadline

def placeOf (w : World) (process : Nat) : Place := place w.queue w.holders process
/-- What the steps of the other calls leave of a call. -/
structure Undisturbed (process : Nat) (a b : World) : Prop where
  decided : decisions process b = decisions process a
  arrived : process ∈ b.arrived → process ∈ a.arrived
  deadline : b.deadline process = a.deadline process
  places : (placeOf a process).Moves (placeOf b process)
def contract : Contract Cmd World Choice Env where
  inv := Orderly capacity maxPending
  rely := Undisturbed
  idle process w := decisions process w = [] ∧ process ∉ w.arrived ∧ placeOf w process = .outside
  allowed _ _ _ _ := True
  happens _ _ := True

end

/-- The call has its one decision and no place any more. -/
def Settled (process : Nat) (w : World) : Prop :=
  (decisions process w).length = 1 ∧ (placeOf w process).waiting = false ∧ (placeOf w process).holding = false

section
variable {capacity maxPending process : Nat} {a b w : World}

theorem undisturbed_refl : Undisturbed process a a := ⟨rfl,fun member => member,rfl,moves_refl _⟩
theorem undisturbed_trans {c : World} (first : Undisturbed process a b) (second : Undisturbed process b c) :
    Undisturbed process a c :=
  ⟨second.decided.trans first.decided,fun member => first.arrived (second.arrived member),
    second.deadline.trans first.deadline,moves_trans first.places second.places⟩
theorem decisions_note (event : Event) :
    decisions process (w.note event) = if event.caller = process then event :: decisions process w
      else decisions process w := by
  simp only [decisions,World.note,List.filter_cons,decide_eq_true_eq]
theorem all_eq_of_length_le_one {events : List Event} (few : events.length ≤ 1) {first second : Event}
    (one : first ∈ events) (other : second ∈ events) : first = second := by
  rcases events with _ | ⟨event,_ | ⟨next,rest⟩⟩
  · cases one
  · rw [List.mem_singleton.mp one,List.mem_singleton.mp other]
  · simp at few
theorem undisturbed_note {event : Event} (other : event.caller ≠ process) : Undisturbed process a (a.note event) :=
  ⟨by rw [decisions_note,if_neg other],fun member => member,rfl,moves_refl _⟩

theorem orderly_note {event : Event} (orderly : Orderly capacity maxPending a)
    (undecided : decisions event.caller a = []) (waiting : (placeOf a event.caller).waiting = false)
    (early : ∀ process time, event = .started process time → ∃ deadline, a.deadline process = some deadline ∧
        time < deadline) :
    Orderly capacity maxPending (a.note event) := by
  refine ⟨orderly.accounts,orderly.slots,orderly.short,orderly.busy,orderly.order,orderly.distinct,?_,?_,?_⟩
  · intro process
    rw [decisions_note]
    split
    · rename_i same
      rw [← same,undecided]
      exact Nat.le_refl 1
    · exact orderly.once process
  · intro process waits
    rw [decisions_note,if_neg]
    · exact orderly.undecided process waits
    · rintro rfl
      have there : event.caller ∈ a.queue.waiting := waits
      simp [placeOf,place,there] at waiting
  · intro process time member
    rcases List.mem_cons.mp member with same | before
    · exact early process time same.symm
    · exact orderly.inTime process time before

theorem orderly_enqueue {now deadline : Time} {queue : Admission} {seat : Bool}
    (orderly : Orderly capacity maxPending a) (outside : placeOf a process = .outside) (unseen : process ∉ a.arrived)
    (undecided : decisions process a = [])
    (acquired : a.queue.acquire capacity maxPending now deadline process = .ok (queue,seat)) :
    Orderly capacity maxPending { a with
      queue := queue
      holders := if seat then insert process a.holders else a.holders
      arrived := a.arrived ++ [process]
      seated := if seat then a.seated ++ [process] else a.seated } := by
  obtain ⟨accounts,-,-⟩ := accounts_acquire orderly.accounts outside acquired
  have distinct : (a.arrived ++ [process]).Nodup := by
    refine List.nodup_append.mpr ⟨orderly.distinct,List.nodup_singleton _,?_⟩
    intro x before y last
    rw [List.mem_singleton.mp last]
    rintro rfl
    exact unseen before
  rcases acquire_cases acquired with ⟨rfl,free,rfl⟩ | ⟨rfl,busy,room,rfl⟩
  · -- A slot is free only when nobody waits.
    have alone : a.queue.pending = [] := by
      by_contra waits
      have full := orderly.busy waits
      omega
    have order := orderly.order
    rw [Admission.waiting,alone,List.map_nil,List.append_nil] at order
    refine ⟨accounts,?_,orderly.short,fun waits => absurd alone waits,?_,distinct,orderly.once,
      orderly.undecided,orderly.inTime⟩
    · change a.queue.active + 1 ≤ capacity
      omega
    · simp only [Admission.waiting,alone,if_true,List.map_nil,List.append_nil]
      exact order.append (List.Sublist.refl _)
  · have full : a.queue.active = capacity := le_antisymm orderly.slots busy
    have joined : Admission.waiting { a.queue with pending := a.queue.pending ++ [⟨process,deadline⟩] } =
        a.queue.waiting ++ [process] := by simp [Admission.waiting]
    refine ⟨accounts,orderly.slots,?_,fun _ => full,?_,distinct,orderly.once,?_,orderly.inTime⟩
    · rw [List.length_append]
      exact room
    · rw [joined,← List.append_assoc]
      exact orderly.order.append (List.Sublist.refl _)
    · rw [joined]
      intro other waits
      rcases List.mem_append.mp waits with before | last
      · exact orderly.undecided other before
      · rw [List.mem_singleton.mp last]; exact undecided

theorem orderly_leave (orderly : Orderly capacity maxPending a) (holds : process ∈ a.holders) :
    Orderly capacity maxPending { a with
      queue := (a.queue.release a.clock).1
      holders := handed a.holders process (a.queue.release a.clock).2
      seated := a.seated ++ (a.queue.release a.clock).2.toList } := by
  obtain ⟨accounts,-,-⟩ := accounts_release a.clock holds orderly.accounts
  have order := release_order (q := a.queue) a.clock
  have fewer := (List.sublist_append_right _ _).trans order
  have slots := orderly.slots
  refine ⟨accounts,?_,(pending_le fewer).trans orderly.short,?_,?_,orderly.distinct,orderly.once,
    fun other waits => orderly.undecided other (fewer.subset waits),orderly.inTime⟩
  · rcases release_active (q := a.queue) a.clock with ⟨-,same⟩ | ⟨-,-,less⟩
    · exact same.trans_le slots
    · exact less.trans_le (by omega)
  · intro waits
    rcases release_active (q := a.queue) a.clock with ⟨-,same⟩ | ⟨-,nobody,-⟩
    · exact same.trans (orderly.busy fun nobody => waits (pending_nil fewer nobody))
    · exact absurd nobody waits
  · rw [List.append_assoc]
    exact ((List.Sublist.refl _).append order).trans orderly.order

theorem orderly_timer (orderly : Orderly capacity maxPending a) (caller : Nat) :
    Orderly capacity maxPending { a with queue := a.queue.expire caller } := by
  have order := expire_order (q := a.queue) caller
  refine ⟨(accounts_expire caller orderly.accounts).1,?_,(pending_le order).trans orderly.short,?_,
    ((List.Sublist.refl _).append order).trans orderly.order,orderly.distinct,orderly.once,
    fun other waits => orderly.undecided other (order.subset waits),orderly.inTime⟩
  · rw [expire_active]
    exact orderly.slots
  · intro waits
    rw [expire_active]
    exact orderly.busy fun nobody => waits (pending_nil order nobody)

theorem wp_perform {c : Cmd} {wanted : Except Error (Ret c) → World → Prop}
    (carried : ∀ before, Undisturbed process w before → Orderly capacity maxPending before → ∀ choice after answer,
      handle capacity maxPending process c choice before = some (after,answer) →
        Orderly capacity maxPending after ∧ (∀ other, other ≠ process → Undisturbed other before after) ∧
          wanted answer after) :
    wp (sys capacity maxPending) (contract capacity maxPending) process (perform c) wanted w :=
  wp_call fun before relied inv choice after answer _ handled => carried before relied inv choice after answer handled
/-- The call waits for its decision until the deadline. -/
structure Open (deadline : Time) (process : Nat) (w : World) : Prop where
  undecided : decisions process w = []
  deadline : w.deadline process = some deadline

variable {deadline : Time}
theorem open_stable (open_ : Open deadline process a) (kept : Undisturbed process a b) :
    Open deadline process b := ⟨kept.decided.trans open_.undecided,kept.deadline.trans open_.deadline⟩
/-- The call was admitted and has not released its slot. -/
def Holds (process : Nat) (w : World) : Prop :=
  (placeOf w process).holding = true ∧ (placeOf w process).waiting = false
theorem holds_stable (holds : Holds process a) (kept : Undisturbed process a b) : Holds process b := by
  have same := moves_holding kept.places holds.1
  rw [Holds,same]
  exact holds
theorem settled_stable (settled : Settled process a) (kept : Undisturbed process a b) : Settled process b := by
  obtain ⟨once,waiting,holding⟩ := settled
  refine ⟨by rw [kept.decided]; exact once,?_⟩
  rcases kept.places with same | ⟨queued,-⟩
  · rw [same]; exact ⟨waiting,holding⟩
  · rw [queued] at waiting
    cases waiting
theorem settled_note {reason : Refusal} (undecided : decisions process a = [])
    (waiting : (placeOf a process).waiting = false) (holding : (placeOf a process).holding = false) :
    Settled process (a.note (.refused process reason)) := by
  refine ⟨?_,waiting,holding⟩
  rw [decisions_note,if_pos (show (Event.refused process reason).caller = process from rfl),undecided]
  rfl

/-- How `acquire` ends. -/
def Acquired (deadline : Time) (process : Nat) : Except Error Unit → World → Prop
  | .ok _,w => Open deadline process w ∧ Holds process w
  | .error _,w => Settled process w

theorem wp_admitted (open_ : Open deadline process w)
    (place : placeOf w process = .queued ∨ placeOf w process = .refused ∨ placeOf w process = .admitted) :
    wp (sys capacity maxPending) (contract capacity maxPending) process (perform .admitted)
      (Acquired deadline process) w := by
  apply wp_perform
  intro a relied inv choice b answer handled
  have still := open_stable open_ relied
  have here : placeOf a process = .queued ∨ placeOf a process = .refused ∨ placeOf a process = .admitted := by
    rcases relied.places with same | ⟨-,moved⟩
    · rw [same]; exact place
    · exact .inr moved
  have told : a.queue.settled process = (placeOf a process).settled := rfl
  simp only [handle,told] at handled
  rcases here with queued | refused | admitted
  · rw [queued] at handled
    cases handled
  · rw [refused] at handled
    cases handled
    have gone : (placeOf a process).waiting = false ∧ (placeOf a process).holding = false := by
      rw [refused]
      exact ⟨rfl,rfl⟩
    exact ⟨orderly_note inv still.undecided gone.1 (by rintro _ _ ⟨⟩),fun other different =>
        undisturbed_note (Ne.symm different),
      settled_note still.undecided gone.1 gone.2⟩
  · rw [admitted] at handled
    cases handled
    refine ⟨inv,fun _ _ => undisturbed_refl,still,?_⟩
    rw [Holds,admitted]
    exact ⟨rfl,rfl⟩

theorem wp_acquire (open_ : Open deadline process w) (unseen : process ∉ w.arrived)
    (outside : placeOf w process = .outside) :
    wp (sys capacity maxPending) (contract capacity maxPending) process (acquire deadline)
      (Acquired deadline process) w := by
  refine (wp_bind _ _ _ _).mpr ?_
  apply wp_perform
  intro a relied inv choice b answer handled
  have still := open_stable open_ relied
  have new : process ∉ a.arrived := fun member => unseen (relied.arrived member)
  have out : placeOf a process = .outside := by
    have moved := relied.places
    rw [outside] at moved
    exact moves_outside moved
  simp only [handle] at handled
  split at handled
  · cases handled
    have gone : (placeOf a process).waiting = false ∧ (placeOf a process).holding = false := by
      rw [out]
      exact ⟨rfl,rfl⟩
    exact ⟨orderly_note inv still.undecided gone.1 (by rintro _ _ ⟨⟩),fun other different =>
        undisturbed_note (Ne.symm different),
      settled_note still.undecided gone.1 gone.2⟩
  · rename_i queue seat acquired
    cases handled
    obtain ⟨-,own,others⟩ := accounts_acquire inv.accounts out acquired
    refine ⟨orderly_enqueue inv out new still.undecided acquired,fun other different =>
        ⟨rfl,?_,rfl,.inl (others other different)⟩,?_⟩
    · intro member
      rcases List.mem_append.mp member with before | last
      · exact before
      · exact absurd (List.mem_singleton.mp last) different
    · cases seat with
      | true => exact ⟨⟨still.undecided,still.deadline⟩,by rw [Holds,placeOf,own]; exact ⟨rfl,rfl⟩⟩
      | false => exact wp_admitted ⟨still.undecided,still.deadline⟩ (.inl own)

theorem wp_attempt (open_ : Open deadline process w) (holds : Holds process w) :
    wp (sys capacity maxPending) (contract capacity maxPending) process (attempt deadline)
      (fun _ w => (decisions process w).length = 1 ∧ Holds process w) w := by
  refine (wp_bind _ _ _ _).mpr ?_
  apply wp_perform
  intro a relied inv choice b answer handled
  have still := open_stable open_ relied
  have holding := holds_stable holds relied
  have decided : ∀ event : Event, event.caller = process → (decisions process (a.note event)).length = 1 := by
    intro event own
    rw [decisions_note,if_pos own,still.undecided]
    rfl
  simp only [handle] at handled
  split at handled
  · cases handled
    exact ⟨orderly_note inv still.undecided holding.2 (by rintro _ _ ⟨⟩),fun other different =>
        undisturbed_note (Ne.symm different),
      decided _ rfl,holding⟩
  · rename_i early
    cases handled
    have running : Holds process (a.note (.started process a.clock)) := holding
    refine ⟨orderly_note inv still.undecided holding.2 ?_,fun other different => undisturbed_note (Ne.symm different),?_⟩
    · rintro _ _ ⟨⟩
      exact ⟨deadline,still.deadline,not_le.mp early⟩
    · apply wp_perform
      intro c later inv choice d answer handled
      cases handled
      refine ⟨inv,fun _ _ => undisturbed_refl,?_,holds_stable running later⟩
      rw [later.decided]
      exact decided _ rfl

theorem wp_leave (once : (decisions process w).length = 1) (holds : Holds process w) :
    wp (sys capacity maxPending) (contract capacity maxPending) process (perform .leave)
      (fun result w => result = .ok () ∧ Settled process w) w := by
  apply wp_perform
  intro a relied inv choice b answer handled
  have holding := holds_stable holds relied
  cases handled
  have held : process ∈ a.holders := by simpa [placeOf,place] using holding.1
  obtain ⟨-,own,others⟩ := accounts_release a.clock held inv.accounts
  refine ⟨orderly_leave inv held,fun other different => ⟨rfl,fun member => member,rfl,others other different⟩,rfl,?_,?_⟩
  · have kept := relied.decided
    change (decisions process a).length = 1
    rw [kept]
    exact once
  · rw [placeOf,own]
    exact ⟨rfl,rfl⟩

theorem wp_runCall (open_ : Open deadline process w) (unseen : process ∉ w.arrived)
    (outside : placeOf w process = .outside) :
    wp (sys capacity maxPending) (contract capacity maxPending) process (runCall deadline)
      (fun _ w => Settled process w) w := by
  refine (wp_bind _ _ _ _).mpr (wp_mono ?_ (wp_acquire open_ unseen outside))
  rintro (_ | _) a acquired
  · exact acquired
  refine (wp_ensure _ _ _ _).mpr (wp_mono ?_ (wp_attempt acquired.1 acquired.2))
  rintro result b ⟨once,holds⟩
  refine wp_mono ?_ (wp_leave once holds)
  rintro _ c ⟨rfl,settled⟩
  exact settled

theorem keeps : Keeps (sys capacity maxPending) (contract capacity maxPending) fun process _ w => Settled process w where
  reflexive _ _ := undisturbed_refl
  transitive _ _ _ _ := undisturbed_trans
  stable _ _ _ _ settled kept _ := settled_stable settled kept
  idles _ a b idle kept _ := by
    refine ⟨kept.decided.trans idle.1,fun member => idle.2.1 (kept.arrived member),?_⟩
    have moved := kept.places
    rw [idle.2.2] at moved
    exact moves_outside moved
  arrives process deadline a b inv idle arrived := by
    cases arrived
    refine ⟨?_,fun other different => ⟨rfl,fun member => member,Function.update_of_ne different _ _,moves_refl _⟩,
      wp_runCall ⟨idle.1,Function.update_self _ _ _⟩ idle.2.1 idle.2.2⟩
    refine ⟨inv.accounts,inv.slots,inv.short,inv.busy,inv.order,inv.distinct,inv.once,inv.undecided,?_⟩
    intro other time member
    have different : other ≠ process := by
      rintro rfl
      have found : Event.started other time ∈ decisions other a := List.mem_filter.mpr ⟨member,by simp [Event.caller]⟩
      rw [idle.1] at found
      cases found
    simpa [different] using inv.inTime other time member
  moves event a b inv _ happened := by
    cases event with
    | timer caller =>
      cases happened
      exact ⟨orderly_timer inv caller,fun other => ⟨rfl,fun member => member,rfl,
        (accounts_expire caller inv.accounts).2 other⟩⟩
    | clock time =>
      cases happened
      exact ⟨⟨inv.accounts,inv.slots,inv.short,inv.busy,inv.order,inv.distinct,inv.once,inv.undecided,inv.inTime⟩,
        fun _ => ⟨rfl,fun member => member,rfl,moves_refl _⟩⟩

theorem orderly_empty : Orderly capacity maxPending World.empty where
  accounts := accounts_empty
  slots := Int.natCast_nonneg capacity
  short := Nat.zero_le _
  busy waits := absurd rfl waits
  order := List.Sublist.refl _
  distinct := List.nodup_nil
  once _ := Nat.zero_le _
  undecided _ _ := rfl
  inTime _ _ member := by cases member

/-- A call that was not given a slot at once, and only such a call, waits for its promise. -/
def Awaits : (c : Cmd) → Except Error (Ret c) → Async Unit → Prop
  | .enqueue _,.ok false,_ => True
  | _,_,rest => (Thread.live rest).awaited ≠ some .admitted
theorem runCall_awaits : Each Awaits (runCall deadline) := by
  have leaves : ∀ result : Except Error Unit, Each Awaits ((perform .leave).bind fun _ => match result with
      | .ok value => .ret value
      | .error error => .fail error) := by
    rintro (error | ⟨⟩) (failed | ⟨⟩) <;> exact ⟨by rintro ⟨⟩,trivial⟩
  refine each_bind ?_ fun _ => each_ensure ?_ (fun value => leaves (.ok value)) fun error => leaves (.error error)
  · rintro (error | seat)
    · exact ⟨by rintro ⟨⟩,trivial⟩
    cases seat with
    | true => exact ⟨by rintro ⟨⟩,trivial⟩
    | false => exact ⟨trivial,by rintro (error | ⟨⟩) <;> exact ⟨by rintro ⟨⟩,trivial⟩⟩
  · rintro (error | ⟨⟩)
    · exact ⟨by rintro ⟨⟩,trivial⟩
    · exact ⟨by rintro ⟨⟩,by rintro (error | ⟨⟩) <;> exact ⟨by rintro ⟨⟩,trivial⟩⟩

/-- Whoever waits for its promise is in the queue, or its promise is settled. -/
structure Attending (m : Machine Cmd Ret Error Unit World) : Prop where
  each : ∀ process p, m.thread process = .live p → Each Awaits p
  placed : ∀ process, (m.thread process).awaited = some .admitted →
    process ∈ m.world.queue.waiting ∨ (m.world.queue.settled process).isSome
theorem placed_stable (placed : process ∈ a.queue.waiting ∨ (a.queue.settled process).isSome)
    (kept : Undisturbed process a b) :
    process ∈ b.queue.waiting ∨ (b.queue.settled process).isSome := by
  have moved := kept.places
  rcases moved with same | ⟨-,same | same⟩
  · simp only [placeOf,place,Place.mk.injEq,decide_eq_decide] at same
    rw [same.1,same.2.2]
    exact placed
  · simp only [placeOf,place,Place.refused,Place.mk.injEq] at same
    exact .inr (by rw [same.2.2]; rfl)
  · simp only [placeOf,place,Place.admitted,Place.mk.injEq] at same
    exact .inr (by rw [same.2.2]; rfl)

variable {m next : Machine Cmd Ret Error Unit World}
abbrev SafeRun (capacity maxPending : Nat) (m : Machine Cmd Ret Error Unit World) : Prop :=
  Safe (sys capacity maxPending) (contract capacity maxPending) (fun process _ w => Settled process w) m
theorem attending_step {action : Action Choice Time Env} (safe : SafeRun capacity maxPending m) (attending : Attending m)
    (taken : step (sys capacity maxPending) m action = some next) : Attending next := by
  -- One process moves, and what it does disturbs no other.
  have others : ∀ process world p, (∀ other, other ≠ process → Undisturbed other m.world world) → Each Awaits p →
      ((Thread.live p).awaited = some .admitted → process ∈ world.queue.waiting ∨ (world.queue.settled process).isSome) →
      Attending ⟨world,Function.update m.thread process (.live p)⟩ := by
    intro process world p kept each own
    refine ⟨fun other q at_ => ?_,fun other awaited => ?_⟩
    · dsimp only at at_
      by_cases same : other = process
      · subst same; rw [Function.update_self] at at_; cases at_; exact each
      · rw [Function.update_of_ne same] at at_; exact attending.each other q at_
    · dsimp only at awaited ⊢
      by_cases same : other = process
      · subst same; rw [Function.update_self] at awaited; exact own awaited
      · rw [Function.update_of_ne same] at awaited
        exact placed_stable (attending.placed other awaited) (kept other same)
  cases action with
  | start process deadline =>
    obtain ⟨unused,world,arrived,rfl⟩ := step_start taken
    obtain ⟨-,kept,-⟩ := keeps.arrives process deadline m.world world safe.inv (safe.idle process unused) arrived
    exact others process world _ kept runCall_awaits (by rintro ⟨⟩)
  | crash process =>
    obtain ⟨-,rfl⟩ := step_crash taken
    refine ⟨fun other q at_ => ?_,fun other awaited => ?_⟩
    · dsimp only at at_
      by_cases same : other = process
      · subst same; rw [Function.update_self] at at_; cases at_
      · rw [Function.update_of_ne same] at at_; exact attending.each other q at_
    · dsimp only at awaited ⊢
      by_cases same : other = process
      · subst same; rw [Function.update_self] at awaited; cases awaited
      · rw [Function.update_of_ne same] at awaited; exact attending.placed other awaited
  | environment event =>
    obtain ⟨world,happened,rfl⟩ := step_environment taken
    obtain ⟨-,kept⟩ := keeps.moves event m.world world safe.inv trivial happened
    exact ⟨attending.each,fun other awaited => placed_stable (attending.placed other awaited) (kept other)⟩
  | advance process choice =>
    obtain ⟨c,resume,world,answer,stood,handled,rfl⟩ := step_advance taken
    obtain ⟨awaits,later⟩ := attending.each process _ stood answer
    obtain ⟨-,kept,-⟩ := safe.live process _ stood m.world undisturbed_refl safe.inv choice world answer trivial handled
    refine others process world _ kept later fun awaited => ?_
    cases c with
    | enqueue deadline =>
      rcases answer with error | seat
      · exact absurd awaited awaits
      cases seat with
      | true => exact absurd awaited awaits
      | false =>
        change handle capacity maxPending process (.enqueue deadline) choice m.world = some (world,.ok false) at handled
        simp only [handle] at handled
        split at handled
        · cases handled
        rename_i queue seat acquired
        cases handled
        rcases acquire_cases acquired with ⟨⟨⟩,-,-⟩ | ⟨-,-,-,rfl⟩
        exact .inl (by simp [Admission.waiting])
    | _ => exact absurd awaited awaits

theorem attending_advances (attending : Attending m) {p : Async Unit} (live : m.thread process = .live p)
    (going : (m.thread process).ended = none) (free : process ∉ m.world.queue.waiting) (choice : Choice) :
    (step (sys capacity maxPending) m (.advance process choice)).isSome := by
  cases p with
  | ret value => rw [live] at going; cases going
  | fail error => rw [live] at going; cases going
  | await c resume =>
    have handled : (handle capacity maxPending process c choice m.world).isSome := by
      cases c with
      | enqueue deadline => simp only [handle]; split <;> rfl
      | admitted =>
        have settled := (attending.placed process (by rw [live]; rfl)).resolve_left free
        obtain ⟨resolved,at_⟩ := Option.isSome_iff_exists.mp settled
        simp only [handle,at_]
        cases resolved <;> rfl
      | begin deadline => simp only [handle]; split <;> rfl
      | operation => rfl
      | leave => rfl
    obtain ⟨⟨world,answer⟩,done⟩ := Option.isSome_iff_exists.mp handled
    rw [step_of_handle live done]
    rfl

end

/-- In every run of a queue: slots and waiters stay within their bounds, and when
    somebody waits no slot is free; whoever got a slot asked for it before all who
    still wait, in the order of asking; a waiter can be settled by its timer, and a
    call that neither waits nor is over can go on; a call is decided at most once and
    exactly once when it is over, and one that was refused never started; operations
    start before their deadlines; and when all calls are over no slot is taken. -/
theorem queue_exact (capacity maxPending : Nat) {actions : List (Action Choice Time Env)}
    {m : Machine Cmd Ret Error Unit World}
    (reached : run (step (sys capacity maxPending)) (Machine.initial World.empty) actions = some m) :
    (0 ≤ m.world.queue.active ∧ m.world.queue.active ≤ capacity) ∧
    m.world.queue.pending.length ≤ maxPending ∧
    (m.world.queue.pending ≠ [] → m.world.queue.active = capacity) ∧
    (m.world.arrived.Nodup ∧ (m.world.seated ++ m.world.queue.waiting).Sublist m.world.arrived) ∧
    (∀ process ∈ m.world.queue.waiting, decisions process m.world = [] ∧
      ∃ next, step (sys capacity maxPending) m (.environment (.timer process)) = some next ∧
        next.world.queue.settled process = some false) ∧
    (∀ process p choice, m.thread process = .live p → (m.thread process).ended = none → process ∉ m.world.queue.waiting →
      (step (sys capacity maxPending) m (.advance process choice)).isSome) ∧
    (∀ process, (decisions process m.world).length ≤ 1 ∧
      ((m.thread process).ended.isSome → (decisions process m.world).length = 1)) ∧
    (∀ process reason, .refused process reason ∈ m.world.log → ∀ time, .started process time ∉ m.world.log) ∧
    (∀ process time, .started process time ∈ m.world.log →
      ∃ deadline, m.world.deadline process = some deadline ∧ time < deadline) ∧
    ((∀ process, m.thread process = .unused ∨ (m.thread process).ended.isSome) → m.world.queue.active = 0) := by
  have kept (m : Machine Cmd Ret Error Unit World) (action : Action Choice Time Env) (next)
      (holds : SafeRun capacity maxPending m ∧ Attending m)
      (taken : step (sys capacity maxPending) m action = some next) :
          SafeRun capacity maxPending next ∧ Attending next :=
    ⟨step_safe keeps holds.1 (considered_free (fun _ _ _ _ => trivial) fun _ _ => trivial) taken,
      attending_step holds.1 holds.2 taken⟩
  obtain ⟨safe,attending⟩ := run_keeps kept
    ⟨safe_initial orderly_empty fun _ => ⟨rfl,List.not_mem_nil,rfl⟩,⟨by rintro _ _ ⟨⟩,by rintro _ ⟨⟩⟩⟩ reached
  have inv : Orderly capacity maxPending m.world := safe.inv
  have finished : ∀ process, (m.thread process).ended.isSome → Settled process m.world := by
    intro process ended
    obtain ⟨result,at_⟩ := Option.isSome_iff_exists.mp ended
    exact safe_ended safe at_
  refine ⟨⟨?_,inv.slots⟩,inv.short,inv.busy,⟨inv.distinct,inv.order⟩,?_,
    fun process p choice live going free => attending_advances attending live going free choice,fun process =>
    ⟨inv.once process,fun ended =>
    (finished process ended).1⟩,?_,inv.inTime,?_⟩
  · rw [inv.accounts.count]
    exact Int.natCast_nonneg _
  · exact fun process waits => ⟨inv.undecided process waits,_,rfl,expire_settled waits⟩
  · intro process reason refused time started
    have first : Event.refused process reason ∈ decisions process m.world :=
      List.mem_filter.mpr ⟨refused,by simp [Event.caller]⟩
    have second : Event.started process time ∈ decisions process m.world :=
      List.mem_filter.mpr ⟨started,by simp [Event.caller]⟩
    cases all_eq_of_length_le_one (inv.once process) first second
  · intro all
    have nobody : m.world.holders = ∅ := by
      refine Finset.eq_empty_of_forall_notMem ?_
      intro process member
      have out : (placeOf m.world process).holding = false := by
        rcases all process with unused | ended
        · rw [(safe.idle process unused).2.2]; rfl
        · exact (finished process ended).2.2
      simp [placeOf,place,member] at out
    rw [inv.accounts.count,nobody]
    rfl

/-- One slot: the calls 1 and 2 wait for the call 0, the first of them in vain. -/
def handover : List (Action Choice Time Env) :=
  [.start 0 100,.start 1 100,.start 2 100,.advance 0 false,.advance 0 false,.advance 1 false,.advance 2 false,
    .environment (.timer 1),.advance 1 false,.advance 0 true,.advance 0 false,.advance 2 false,.advance 2 false]

theorem queue_exact_handover :
    ∃ m, run (step (sys 1 2)) (Machine.initial World.empty) handover = some m ∧ m.world.arrived = [0,1,2] ∧
      m.world.seated = [0,2] ∧ m.world.queue.active ≤ 1 ∧ ∀ time, .started 1 time ∉ m.world.log := by
  have runs : ((run (step (sys 1 2)) (Machine.initial World.empty) handover).map fun m =>
      (m.world.arrived,m.world.seated,m.world.log)) =
        some ([0,1,2],[0,2],[.started 2 0,.refused 1 .timeout,.started 0 0]) := by decide +kernel
  obtain ⟨m,reached,found⟩ := Option.map_eq_some_iff.mp runs
  simp only [Prod.mk.injEq] at found
  obtain ⟨arrived,seated,log⟩ := found
  obtain ⟨bounds,-,-,-,-,-,-,refused,-⟩ := queue_exact 1 2 reached
  exact ⟨m,reached,arrived,seated,bounds.2,refused 1 .timeout (by rw [log]; decide)⟩

end Ngotag.AdmissionRuns
