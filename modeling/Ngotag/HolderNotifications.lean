import Ngotag.Json
import Ngotag.Runs

/-!
A notification on the aggregate stream. Every delivery but the last publishes it to the holder and leaves the
acknowledgement to the `user.ack` of the holder; the last one moves it to the stream of the holder's DID and
acknowledges it. What fails in the last delivery is not tried again: when the notification is lost is
`notification_kept_iff`.
-/
namespace Ngotag.HolderNotifications
open Runs

structure Config where
  maxDeliver : Nat
  positive : 1 ≤ maxDeliver
  AGGREGATE_STREAM : String
  DID_STREAM : String
  PULL_CONSUMER : String
/-- A message of the aggregate stream: the parts of its subject, its data as text and its number there. -/
structure Message where
  stream : String
  domain : String
  event : String
  orgCode : String
  sessionId : String
  data : String
  streamSequence : Nat
def Message.subject (msg : Message) : String :=
  ".".intercalate [msg.stream,msg.domain,msg.event,msg.orgCode,msg.sessionId]
structure HolderNotification where
  sessionId : String
  holderDid : String
  fcmToken : String
/-- What the holder is sent; the payload is the value of this text. -/
structure Notice where
  payload : String
  ackKey : String
  subject : String
  event : String
  deriving DecidableEq
/-- How an operation ends; it can be carried out and yet be reported as failed. -/
inductive Answer where
  | ok
  | lost
  | fails
  deriving DecidableEq
/-- Where the processing of a delivery waits. -/
inductive Stage where
  | getHolderNotificationBySessionId
  | ensureDidStream (detail : HolderNotification)
  | publishToJetStream (detail : HolderNotification)
  | save (detail : HolderNotification)
  | publish (detail : HolderNotification) (ackKey : String)
inductive AckStage where
  | get
  /-- The acknowledgement goes to the reply subject of this delivery. -/
  | ack (reply : Nat)
  | delete
inductive Event where
  | delivered (count : Nat)
  | published (subject : String) (notice : Notice)
  | put (subject body : String)
  | pushed (fcmToken title : String)
  | userAck
  deriving DecidableEq

structure State where
  /-- The row of the session, once it is registered. -/
  holder : Option HolderNotification
  deliveries : Nat
  /-- The server may deliver the message (again). -/
  due : Bool
  acked : Bool
  /-- Each delivery that is processed. -/
  copy : Nat → Option Stage
  /-- The delivery whose reply subject is stored under the key of the message. -/
  pending : Option Nat
  handler : Nat → Option AckStage
  /-- What happened, the latest first. -/
  log : List Event

def State.initial (holder : Option HolderNotification) : State :=
  ⟨holder,0,true,false,fun _ => none,none,fun _ => none,[]⟩
inductive Action where
  | registerHolderNotification (row : HolderNotification)
  | deliver
  /-- The wait for an acknowledgement is over. -/
  | expire
  /-- The awaited operation ends; an acknowledgement sent then, also a negative one, arrives or does not. -/
  | advance (count : Nat) (answer : Answer) (arrives : Bool)
  | userAck (handler : Nat)
  | handle (handler : Nat) (answer : Answer)

def makeKey (stream consumer : String) (streamSequence : Nat) : String :=
  stream ++ "-" ++ consumer ++ "-" ++ toString streamSequence
def EVENT_PRESENTATION_ACK : String := "presentation.ack"
def EVENT_PRESENTATION_PURGED : String := "presentation.purged"
def notificationTitle (event orgCode : String) : String :=
  if event = EVENT_PRESENTATION_ACK then "Your data delivered to " ++ orgCode
  else if event = EVENT_PRESENTATION_PURGED then "Your data purged from " ++ orgCode
  else ""
/-- `JSON.stringify` of the data, which is a text of JSON already. -/
def body (data : String) : String := String.ofList (Json.quote data)

section
variable (cfg : Config) (msg : Message)

def subjectName (detail : HolderNotification) : String := cfg.DID_STREAM ++ "." ++ detail.holderDid

variable (s : State) (count : Nat)
def State.waitAt (stage : Stage) : State := { s with copy := Function.update s.copy count (some stage) }
/-- The processing ends; a negative acknowledgement makes the message due again. -/
def State.nak (arrives : Bool) : State :=
  { s with copy := Function.update s.copy count none,due := s.due || arrives }
def State.ack (arrives : Bool) : State :=
  { s with copy := Function.update s.copy count none,acked := s.acked || arrives }
/-- The processing ends without an acknowledgement. -/
def State.leave : State := { s with copy := Function.update s.copy count none }
def State.did (e : Event) : State := { s with log := e :: s.log }

/-- A session without a row is an exception too. -/
def afterLookup (answer : Answer) (arrives : Bool) : State :=
  match answer,s.holder with
  | .ok,some detail =>
    if cfg.maxDeliver - 1 < count then s.waitAt count (.ensureDidStream detail) else s.waitAt count (.save detail)
  | _,_ => s.nak count arrives
def moved (detail : HolderNotification) : State := s.did (.put (subjectName cfg detail) (body msg.data))
/-- The push notification is not waited for. -/
def afterMove (detail : HolderNotification) (answer : Answer) (arrives : Bool) : State :=
  match answer with
  | .ok => ((moved cfg msg s detail).did
      (.pushed detail.fcmToken (notificationTitle msg.event msg.orgCode))).ack count arrives
  | .lost => (moved cfg msg s detail).nak count arrives
  | .fails => s.nak count arrives
def afterSave (detail : HolderNotification) (answer : Answer) (arrives : Bool) : State :=
  match answer with
  | .ok => { s with pending := some count }.waitAt count
      (.publish detail (makeKey cfg.AGGREGATE_STREAM cfg.PULL_CONSUMER msg.streamSequence))
  | .lost => { s with pending := some count }.nak count arrives
  | .fails => s.nak count arrives
def published (detail : HolderNotification) (ackKey : String) : State :=
  s.did (.published detail.holderDid ⟨msg.data,ackKey,msg.subject,msg.domain ++ "." ++ msg.event⟩)

def consume (stage : Stage) (answer : Answer) (arrives : Bool) : State :=
  match stage with
  | .getHolderNotificationBySessionId => afterLookup cfg s count answer arrives
  | .ensureDidStream detail =>
    if answer = .ok then s.waitAt count (.publishToJetStream detail) else s.nak count arrives
  | .publishToJetStream detail => afterMove cfg msg s count detail answer arrives
  | .save detail => afterSave cfg msg s count detail answer arrives
  | .publish detail ackKey =>
    match answer with
    | .ok => (published msg s detail ackKey).leave count
    | .lost => (published msg s detail ackKey).nak count arrives
    | .fails => s.nak count arrives

variable (handler : Nat)
def State.handleAt (stage : Option AckStage) : State := { s with handler := Function.update s.handler handler stage }
/-- A key that cannot be read is one that is not there. -/
def handleUserAck (stage : AckStage) (answer : Answer) : State :=
  match stage with
  | .get =>
    match answer,s.pending with
    | .ok,some reply => s.handleAt handler (some (.ack reply))
    | _,_ => s.handleAt handler none
  | .ack _ =>
    match answer with
    | .ok => ({ s with acked := true }.did .userAck).handleAt handler (some .delete)
    | .lost => ({ s with acked := true }.did .userAck).handleAt handler none
    | .fails => s.handleAt handler none
  | .delete =>
    match answer with
    | .fails => s.handleAt handler none
    | _ => { s with pending := none }.handleAt handler none

end

/-- The server delivers a message at most `maxDeliver` times and never after an acknowledgement. -/
def step (cfg : Config) (msg : Message) (s : State) : Action → Option State
  | .registerHolderNotification row => if s.holder.isNone then some { s with holder := some row } else none
  | .deliver =>
    if s.due ∧ s.acked = false ∧ s.deliveries < cfg.maxDeliver then
      some (({ s with deliveries := s.deliveries + 1,due := false }.did (.delivered (s.deliveries + 1))).waitAt
        (s.deliveries + 1) .getHolderNotificationBySessionId)
    else none
  | .expire => some { s with due := true }
  | .advance count answer arrives => (s.copy count).map fun stage => consume cfg msg s count stage answer arrives
  | .userAck handler => if s.handler handler = none then some (s.handleAt handler (some .get)) else none
  | .handle handler answer => (s.handler handler).map fun stage => handleUserAck s handler stage answer

/-- No further delivery can happen, and the last one is not being processed. -/
def Over (cfg : Config) (s : State) : Prop :=
  (s.acked = true ∨ s.deliveries = cfg.maxDeliver) ∧ s.copy cfg.maxDeliver = none
def Event.isPut : Event → Bool
  | .put _ _ => true
  | _ => false

section
variable {Payload : Type} (cfg : Config) (decode : String → Option Payload) (payload : Payload)

/-- The stream of the holder's DID has the message, with a body that reads as the payload. -/
def InDidStream (s : State) : Prop :=
  ∃ row text, s.holder = some row ∧ Event.put (subjectName cfg row) text ∈ s.log ∧ decode text = some payload
/-- When it is over the message was acknowledged or is in the DID stream, where it is put once
    at most. -/
structure Kept (s : State) : Prop where
  not_lost : Over cfg s → Event.userAck ∈ s.log ∨ InDidStream cfg decode payload s
  /-- An acknowledgement before the last delivery keeps the message out of the stream. -/
  not_late : ∀ later earlier, s.log = later ++ .delivered cfg.maxDeliver :: earlier → Event.userAck ∈ earlier →
    ∀ e ∈ later, e.isPut = false
  once : (s.log.filter Event.isPut).length ≤ 1
/-- The session has a row that is read, the stream is there, and the body that is put there reads as the payload. -/
def Succeeds (msg : Message) (s : State) (answer : Answer) : Option Stage → Prop
  | some .getHolderNotificationBySessionId => answer = .ok ∧ s.holder.isSome
  | some (.ensureDidStream _) => answer = .ok
  | some (.publishToJetStream _) => answer ≠ .fails ∧ decode (body msg.data) = some payload
  | _ => True

/-- In the last delivery everything succeeds, unless the holder has acknowledged before. -/
def Meets (msg : Message) (s : State) : Action → Prop
  | .advance count answer _ =>
    count = cfg.maxDeliver → Event.userAck ∈ s.log ∨ Succeeds decode payload msg s answer (s.copy count)
  | _ => True
end
section
variable (cfg : Config) (msg : Message) (s : State) (count : Nat) (stage : Stage) (answer : Answer) (arrives : Bool)

theorem consume_frame : (consume cfg msg s count stage answer arrives).holder = s.holder ∧
    (consume cfg msg s count stage answer arrives).deliveries = s.deliveries := by
  unfold consume afterLookup afterMove afterSave
  split <;> (try split) <;> (try split) <;> exact ⟨rfl,rfl⟩
/-- Where the delivery waits next: for the stream only in the last one, for the holder only before. -/
def Follows (cfg : Config) (s : State) (count : Nat) (stage : Stage) : Option Stage → Prop
  | none => True
  | some .getHolderNotificationBySessionId => False
  | some (.ensureDidStream detail) =>
    stage = .getHolderNotificationBySessionId ∧ cfg.maxDeliver - 1 < count ∧ s.holder = some detail
  | some (.publishToJetStream detail) => stage = .ensureDidStream detail
  | some (.save _) => stage = .getHolderNotificationBySessionId ∧ ¬cfg.maxDeliver - 1 < count
  | some (.publish detail _) => stage = .save detail

theorem consume_copy : ∃ next, (consume cfg msg s count stage answer arrives).copy = Function.update s.copy count next ∧
    Follows cfg s count stage next := by
  cases stage with
  | getHolderNotificationBySessionId =>
    simp only [consume,afterLookup]
    split
    · rename_i detail registered
      split
      · rename_i last
        exact ⟨some (.ensureDidStream detail),rfl,rfl,last,registered⟩
      · rename_i earlier
        exact ⟨some (.save detail),rfl,rfl,earlier⟩
    · exact ⟨none,rfl,trivial⟩
  | ensureDidStream detail =>
    simp only [consume]
    split
    · exact ⟨some (.publishToJetStream detail),rfl,rfl⟩
    · exact ⟨none,rfl,trivial⟩
  | publishToJetStream detail => cases answer <;> exact ⟨none,rfl,trivial⟩
  | save detail =>
    cases answer
    · exact ⟨some (.publish detail _),rfl,rfl⟩
    all_goals exact ⟨none,rfl,trivial⟩
  | publish detail ackKey => cases answer <;> exact ⟨none,rfl,trivial⟩

/-- Something is put only by the last operation of the last delivery. -/
theorem consume_log : ∃ new, (consume cfg msg s count stage answer arrives).log = new ++ s.log ∧
    (∀ e ∈ new, e ≠ .userAck ∧ ∀ other, e ≠ .delivered other) ∧
    (new.filter Event.isPut = [] ∨ ∃ detail, stage = .publishToJetStream detail ∧
      new.filter Event.isPut = [.put (subjectName cfg detail) (body msg.data)]) := by
  cases stage with
  | getHolderNotificationBySessionId =>
    refine ⟨[],?_,nofun,.inl rfl⟩
    simp only [consume,afterLookup]
    split <;> (try split) <;> rfl
  | ensureDidStream detail =>
    refine ⟨[],?_,nofun,.inl rfl⟩
    simp only [consume]
    split <;> rfl
  | publishToJetStream detail =>
    cases answer
    · exact ⟨[.pushed _ _,.put _ _],rfl,by simp,.inr ⟨detail,rfl,rfl⟩⟩
    · exact ⟨[.put _ _],rfl,by simp,.inr ⟨detail,rfl,rfl⟩⟩
    · exact ⟨[],rfl,nofun,.inl rfl⟩
  | save detail => cases answer <;> exact ⟨[],rfl,nofun,.inl rfl⟩
  | publish detail ackKey =>
    cases answer
    · exact ⟨[.published _ _],rfl,by simp,.inl rfl⟩
    · exact ⟨[.published _ _],rfl,by simp,.inl rfl⟩
    · exact ⟨[],rfl,nofun,.inl rfl⟩

variable {cfg msg s count stage answer arrives} in
theorem consume_acked (acked : (consume cfg msg s count stage answer arrives).acked = true) :
    s.acked = true ∨ ∃ detail, stage = .publishToJetStream detail := by
  cases stage with
  | publishToJetStream detail => exact .inr ⟨detail,rfl⟩
  | getHolderNotificationBySessionId =>
    refine .inl ?_
    simp only [consume,afterLookup] at acked
    split at acked <;> (try split at acked) <;> exact acked
  | ensureDidStream detail =>
    refine .inl ?_
    simp only [consume] at acked
    split at acked <;> exact acked
  | save detail => exact .inl (by cases answer <;> exact acked)
  | publish detail ackKey => exact .inl (by cases answer <;> exact acked)

variable {cfg msg s count stage answer arrives} in
theorem consume_keeps_ack (acked : s.acked = true) : (consume cfg msg s count stage answer arrives).acked = true := by
  cases stage with
  | getHolderNotificationBySessionId =>
    simp only [consume,afterLookup]
    split <;> (try split) <;> exact acked
  | ensureDidStream detail =>
    simp only [consume]
    split <;> exact acked
  | publishToJetStream detail =>
    cases answer
    · exact (congrArg (· || arrives) acked).trans (Bool.true_or arrives)
    all_goals exact acked
  | save detail => cases answer <;> exact acked
  | publish detail ackKey => cases answer <;> exact acked

theorem handleUserAck_frame (handler : Nat) (at_ : AckStage) :
    let next := handleUserAck s handler at_ answer
    next.holder = s.holder ∧ next.deliveries = s.deliveries ∧ next.copy = s.copy ∧
      (next.log = s.log ∧ next.acked = s.acked ∨ next.log = .userAck :: s.log ∧ next.acked = true) := by
  cases at_ with
  | get =>
    simp only [handleUserAck]
    split <;> exact ⟨rfl,rfl,rfl,.inl ⟨rfl,rfl⟩⟩
  | ack reply =>
    cases answer
    · exact ⟨rfl,rfl,rfl,.inr ⟨rfl,rfl⟩⟩
    · exact ⟨rfl,rfl,rfl,.inr ⟨rfl,rfl⟩⟩
    · exact ⟨rfl,rfl,rfl,.inl ⟨rfl,rfl⟩⟩
  | delete => cases answer <;> exact ⟨rfl,rfl,rfl,.inl ⟨rfl,rfl⟩⟩

end

def Placed (cfg : Config) (s : State) (count : Nat) : Stage → Prop
  | .getHolderNotificationBySessionId => True
  | .ensureDidStream detail => count = cfg.maxDeliver ∧ s.holder = some detail
  | .publishToJetStream detail => count = cfg.maxDeliver ∧ s.holder = some detail
  | .save _ => count ≠ cfg.maxDeliver
  | .publish _ _ => count ≠ cfg.maxDeliver
/-- What holds of the message, its deliveries and the DID stream. -/
structure Sound (cfg : Config) (s : State) : Prop where
  bounded : s.deliveries ≤ cfg.maxDeliver
  placed : ∀ count stage, s.copy count = some stage → count ≤ s.deliveries ∧ Placed cfg s count stage
  applied : .userAck ∈ s.log → s.acked = true
  ended : s.acked = true → .userAck ∈ s.log ∨ s.deliveries = cfg.maxDeliver
  unput : s.deliveries < cfg.maxDeliver ∨ s.copy cfg.maxDeliver ≠ none → s.log.filter Event.isPut = []
  once : (s.log.filter Event.isPut).length ≤ 1
  fresh : ∀ later earlier, s.log = later ++ .delivered cfg.maxDeliver :: earlier → .userAck ∉ earlier

section
variable {cfg : Config} {msg : Message} {s next : State}

theorem sound_initial (cfg : Config) (holder : Option HolderNotification) : Sound cfg (.initial holder) where
  bounded := Nat.zero_le _
  placed := nofun
  applied := nofun
  ended := nofun
  unput := fun _ => rfl
  once := Nat.zero_le 1
  fresh := fun later earlier split_ => absurd split_ (by cases later <;> exact nofun)

theorem fresh_append {old new : List Event}
    (fresh : ∀ later earlier, old = later ++ .delivered cfg.maxDeliver :: earlier → .userAck ∉ earlier)
    (other : ∀ e ∈ new, ∀ count, e ≠ .delivered count) {later earlier : List Event}
    (split_ : new ++ old = later ++ .delivered cfg.maxDeliver :: earlier) : .userAck ∉ earlier := by
  rcases List.append_eq_append_iff.mp split_ with ⟨rest,-,before⟩ | ⟨rest,same,before⟩
  · exact fresh rest earlier before
  · cases rest with
    | nil => exact fresh [] earlier before.symm
    | cons e rest =>
      obtain ⟨rfl,-⟩ := List.cons.inj before
      exact absurd rfl (other _ (by rw [same]; simp) cfg.maxDeliver)

theorem sound_deliver (sound : Sound cfg s) (unacked : s.acked = false) (room : s.deliveries < cfg.maxDeliver)
    (taken : next = ({ s with deliveries := s.deliveries + 1,due := false }.did
      (.delivered (s.deliveries + 1))).waitAt (s.deliveries + 1) .getHolderNotificationBySessionId) :
      Sound cfg next := by
  subst taken
  have silent : .userAck ∉ s.log := fun acked => absurd (sound.applied acked) (by rw [unacked]; exact nofun)
  have unput := sound.unput (.inl room)
  exact {
    bounded := room
    placed := by
      intro count stage at_
      by_cases same : count = s.deliveries + 1
      · subst same
        obtain rfl := Option.some.inj ((Function.update_self _ _ s.copy).symm.trans at_)
        exact ⟨le_refl _,trivial⟩
      · obtain ⟨begun,placed⟩ := sound.placed count stage ((Function.update_of_ne same _ s.copy).symm.trans at_)
        exact ⟨Nat.le_succ_of_le begun,by cases stage <;> exact placed⟩
    applied := by
      rintro (_ | ⟨_,there⟩)
      exact sound.applied there
    ended := fun acked => absurd acked (by rw [show _ = s.acked from rfl,unacked]; exact nofun)
    unput := fun _ => unput
    once := by
      change ((Event.delivered _ :: s.log).filter Event.isPut).length ≤ 1
      rw [List.filter_cons_of_neg (by exact nofun),unput]
      exact Nat.zero_le 1
    fresh := by
      intro later earlier split_
      cases later with
      | nil =>
        obtain ⟨-,rfl⟩ := List.cons.inj split_
        exact silent
      | cons e later =>
        obtain ⟨-,split_⟩ := List.cons.inj split_
        exact sound.fresh later earlier split_ }

theorem sound_consume {count : Nat} {stage : Stage} {answer : Answer} {arrives : Bool} (sound : Sound cfg s)
    (at_ : s.copy count = some stage) : Sound cfg (consume cfg msg s count stage answer arrives) := by
  obtain ⟨begun,placed⟩ := sound.placed count stage at_
  obtain ⟨holder,deliveries⟩ := consume_frame cfg msg s count stage answer arrives
  obtain ⟨wait,copy,follows⟩ := consume_copy cfg msg s count stage answer arrives
  obtain ⟨new,log,plain,puts⟩ := consume_log cfg msg s count stage answer arrives
  have silent : .userAck ∉ new := fun there => (plain _ there).1 rfl
  have last : (∃ detail, stage = .publishToJetStream detail) → count = cfg.maxDeliver := by
    rintro ⟨detail,rfl⟩
    exact placed.1
  -- what is put is put by a delivery that has put nothing before
  have filtered : (consume cfg msg s count stage answer arrives).log.filter Event.isPut = s.log.filter Event.isPut ∨
      count = cfg.maxDeliver ∧ wait = none ∧
        ((consume cfg msg s count stage answer arrives).log.filter Event.isPut).length = 1 := by
    rw [log,List.filter_append]
    rcases puts with nothing | ⟨detail,rfl,one⟩
    · exact .inl (by rw [nothing]; rfl)
    · obtain rfl : count = cfg.maxDeliver := placed.1
      have none_ : wait = none := by
        cases wait with
        | none => rfl
        | some next => cases next <;> simp [Follows] at follows
      have nothing := sound.unput (.inr (by rw [at_]; exact nofun))
      exact .inr ⟨rfl,none_,by rw [one,nothing]; rfl⟩
  exact {
    bounded := by rw [deliveries]; exact sound.bounded
    placed := by
      intro other next at'
      rw [copy] at at'
      rw [deliveries]
      by_cases same : other = count
      · subst same
        rw [Function.update_self] at at'
        refine ⟨begun,?_⟩
        subst at'
        have within := sound.bounded
        have positive := cfg.positive
        cases next with
        | getHolderNotificationBySessionId => exact follows.elim
        | ensureDidStream detail =>
          obtain ⟨-,past,registered⟩ := follows
          exact ⟨by omega,holder.trans registered⟩
        | publishToJetStream detail =>
          obtain rfl : stage = .ensureDidStream detail := follows
          exact ⟨placed.1,holder.trans placed.2⟩
        | save detail => exact fun same => follows.2 (by omega)
        | publish detail ackKey =>
          obtain rfl : stage = .save detail := follows
          exact placed
      · rw [Function.update_of_ne same] at at'
        obtain ⟨begun',placed'⟩ := sound.placed other next at'
        refine ⟨begun',?_⟩
        cases next with
        | ensureDidStream detail => exact ⟨placed'.1,holder.trans placed'.2⟩
        | publishToJetStream detail => exact ⟨placed'.1,holder.trans placed'.2⟩
        | _ => exact placed'
    applied := by
      rw [log]
      intro there
      exact consume_keeps_ack (sound.applied ((List.mem_append.mp there).resolve_left silent))
    ended := by
      intro acked
      rw [deliveries,log]
      rcases consume_acked acked with before | moved
      · exact (sound.ended before).imp_left (List.mem_append_right new)
      · have full := last moved
        exact .inr (le_antisymm sound.bounded (full ▸ begun))
    unput := by
      rw [deliveries,copy]
      intro open_
      rcases filtered with same | ⟨rfl,rfl,-⟩
      · rw [same]
        refine sound.unput (open_.imp_right fun live => ?_)
        by_cases own : cfg.maxDeliver = count
        · rw [own,at_]
          exact nofun
        · rwa [Function.update_of_ne own] at live
      · rw [Function.update_self] at open_
        exact absurd (open_.resolve_right (by simp)) (not_lt.mpr begun)
    once := by
      rcases filtered with same | ⟨-,-,one⟩
      · rw [same]
        exact sound.once
      · exact one.le
    fresh := by
      rw [log]
      exact fun later earlier => fresh_append sound.fresh fun e there => (plain e there).2 }

theorem sound_handle {handler : Nat} {at_ : AckStage} {answer : Answer} (sound : Sound cfg s) :
    Sound cfg (handleUserAck s handler at_ answer) := by
  obtain ⟨holder,deliveries,copy,log⟩ := handleUserAck_frame s answer handler at_
  have filtered : (handleUserAck s handler at_ answer).log.filter Event.isPut = s.log.filter Event.isPut := by
    rcases log with ⟨same,-⟩ | ⟨more,-⟩
    · rw [same]
    · rw [more]
      rfl
  exact {
    bounded := by rw [deliveries]; exact sound.bounded
    placed := by
      intro count stage
      rw [copy,deliveries]
      intro there
      obtain ⟨begun,placed⟩ := sound.placed count stage there
      refine ⟨begun,?_⟩
      cases stage with
      | ensureDidStream detail => exact ⟨placed.1,holder.trans placed.2⟩
      | publishToJetStream detail => exact ⟨placed.1,holder.trans placed.2⟩
      | _ => exact placed
    applied := by
      rcases log with ⟨same,acked⟩ | ⟨-,acked⟩
      · rw [same,acked]
        exact sound.applied
      · exact fun _ => acked
    ended := by
      rw [deliveries]
      rcases log with ⟨same,acked⟩ | ⟨more,-⟩
      · rw [same,acked]
        exact sound.ended
      · exact fun _ => .inl (more ▸ List.mem_cons_self)
    unput := by
      rw [deliveries,copy,filtered]
      exact sound.unput
    once := by
      rw [filtered]
      exact sound.once
    fresh := by
      rcases log with ⟨same,-⟩ | ⟨more,-⟩
      · rw [same]
        exact sound.fresh
      · rw [more]
        have other : ∀ e ∈ [Event.userAck], ∀ count, e ≠ .delivered count := by simp
        exact fun later earlier split_ => fresh_append sound.fresh other split_ }

/-- Each delivery, expiry and acknowledgement keeps the count of what the consumer did. -/
theorem step_sound {a : Action} (sound : Sound cfg s) (taken : step cfg msg s a = some next) : Sound cfg next := by
  cases a with
  | registerHolderNotification row =>
    simp only [step] at taken
    split at taken
    · rename_i fresh
      cases taken
      have unknown := Option.isNone_iff_eq_none.mp fresh
      refine { sound with placed := fun count stage at_ => ?_ }
      obtain ⟨begun,placed⟩ := sound.placed count stage at_
      refine ⟨begun,?_⟩
      cases stage with
      | ensureDidStream detail => exact nomatch unknown.symm.trans placed.2
      | publishToJetStream detail => exact nomatch unknown.symm.trans placed.2
      | _ => exact placed
    · cases taken
  | deliver =>
    simp only [step] at taken
    split at taken
    · rename_i free
      exact sound_deliver sound free.2.1 free.2.2 (Option.some.inj taken).symm
    · cases taken
  | expire =>
    cases taken
    exact { sound with }
  | advance count answer arrives =>
    obtain ⟨stage,at_,rfl⟩ := Option.map_eq_some_iff.mp taken
    exact sound_consume sound at_
  | userAck handler =>
    simp only [step] at taken
    split at taken
    · cases taken
      exact { sound with }
    · cases taken
  | handle handler answer =>
    obtain ⟨at_,-,rfl⟩ := Option.map_eq_some_iff.mp taken
    exact sound_handle sound

variable {Payload : Type} {decode : String → Option Payload} {payload : Payload}
/-- When the last delivery is over, the message is acknowledged or moved. -/
def Settled (cfg : Config) (decode : String → Option Payload) (payload : Payload) (s : State) : Prop :=
  s.deliveries = cfg.maxDeliver → s.copy cfg.maxDeliver = none →
    Event.userAck ∈ s.log ∨ InDidStream cfg decode payload s

theorem kept_iff (sound : Sound cfg s) : Kept cfg decode payload s ↔ Settled cfg decode payload s := by
  constructor
  · exact fun kept full idle => kept.not_lost ⟨.inr full,idle⟩
  · intro settled
    refine ⟨?_,fun later earlier split_ acked => absurd acked (sound.fresh later earlier split_),sound.once⟩
    rintro ⟨acked | full,idle⟩
    · rcases sound.ended acked with by_user | full
      · exact .inl by_user
      · exact settled full idle
    · exact settled full idle
theorem settled_grows {new : List Event} (settled : Settled cfg decode payload s) (holder : next.holder = s.holder)
    (deliveries : next.deliveries = s.deliveries) (copy : next.copy cfg.maxDeliver = s.copy cfg.maxDeliver)
    (log : next.log = new ++ s.log) : Settled cfg decode payload next := by
  intro full idle
  rw [deliveries] at full
  rw [copy] at idle
  rw [log]
  refine (settled full idle).imp (List.mem_append_right new) ?_
  rintro ⟨row,text,registered,there,reads⟩
  exact ⟨row,text,holder.trans registered,log ▸ List.mem_append_right new there,reads⟩
theorem not_moved (nothing : s.log.filter Event.isPut = []) : ¬InDidStream cfg decode payload s := by
  rintro ⟨row,text,-,there,-⟩
  exact List.filter_eq_nil_iff.mp nothing _ there rfl

theorem settled_moved {new : List Event} {detail : HolderNotification} {text : String}
    (holder : next.holder = some detail) (full : next.deliveries = cfg.maxDeliver)
    (idle : next.copy cfg.maxDeliver = none)
    (log : next.log = new ++ .put (subjectName cfg detail) text :: s.log) (silent : Event.userAck ∉ new)
    (new_puts : new.filter Event.isPut = []) (nothing : s.log.filter Event.isPut = []) :
    Settled cfg decode payload next ↔ (.userAck ∈ s.log ∨ decode text = some payload) := by
  have acked : Event.userAck ∈ next.log ↔ .userAck ∈ s.log := by
    rw [log,List.mem_append,List.mem_cons]
    simp [silent]
  have puts : next.log.filter Event.isPut = [.put (subjectName cfg detail) text] := by
    rw [log,List.filter_append,new_puts,List.nil_append,List.filter_cons_of_pos rfl,nothing]
  constructor
  · intro settled
    refine (settled full idle).imp acked.mp ?_
    rintro ⟨row,other,-,there,reads⟩
    have only : Event.put (subjectName cfg row) other ∈ next.log.filter Event.isPut := List.mem_filter.mpr ⟨there,rfl⟩
    rw [puts] at only
    obtain ⟨-,rfl⟩ := Event.put.inj (List.mem_singleton.mp only)
    exact reads
  · intro either _ _
    refine either.imp acked.mpr fun reads => ⟨detail,text,holder,?_,reads⟩
    rw [log]
    exact List.mem_append_right new List.mem_cons_self

theorem settled_consume {stage : Stage} {answer : Answer} {arrives : Bool} (sound : Sound cfg s)
    (at_ : s.copy cfg.maxDeliver = some stage) :
    Settled cfg decode payload (consume cfg msg s cfg.maxDeliver stage answer arrives) ↔
      Meets cfg decode payload msg s (.advance cfg.maxDeliver answer arrives) := by
  obtain ⟨begun,placed⟩ := sound.placed _ stage at_
  have full : s.deliveries = cfg.maxDeliver := le_antisymm sound.bounded begun
  have nothing : s.log.filter Event.isPut = [] := sound.unput (.inr (by rw [at_]; exact nofun))
  -- given up without anything put
  have given_up (arrives : Bool) : Settled cfg decode payload (s.nak cfg.maxDeliver arrives) ↔ .userAck ∈ s.log := by
    constructor
    · intro settled
      exact (settled full (Function.update_self ..)).resolve_right (not_moved nothing)
    · exact fun acked _ _ => .inl acked
  have waiting (stage : Stage) : Settled cfg decode payload (s.waitAt cfg.maxDeliver stage) :=
    fun _ idle => by
      have waits : (s.waitAt cfg.maxDeliver stage).copy cfg.maxDeliver = some stage := Function.update_self ..
      cases waits.symm.trans idle
  cases stage with
  | getHolderNotificationBySessionId =>
    simp only [Meets,at_,Succeeds,consume,afterLookup,true_imp_iff]
    split
    · rename_i detail registered
      have last : cfg.maxDeliver - 1 < cfg.maxDeliver := Nat.sub_lt cfg.positive Nat.zero_lt_one
      rw [if_pos last]
      exact iff_of_true (waiting _) (.inr ⟨rfl,by rw [registered]; rfl⟩)
    · rename_i other
      rw [given_up]
      refine (or_iff_left ?_).symm
      rintro ⟨rfl,registered⟩
      obtain ⟨detail,registered⟩ := Option.isSome_iff_exists.mp registered
      exact other detail rfl registered
  | ensureDidStream detail =>
    simp only [Meets,at_,Succeeds,consume,true_imp_iff]
    split
    · rename_i fine
      exact iff_of_true (waiting _) (.inr fine)
    · rename_i failed
      rw [given_up]
      exact (or_iff_left failed).symm
  | publishToJetStream detail =>
    simp only [Meets,at_,Succeeds,consume,true_imp_iff]
    cases answer with
    | fails =>
      simp only [afterMove]
      rw [given_up]
      exact (or_iff_left fun done => done.1 rfl).symm
    | ok =>
      have log : (afterMove cfg msg s cfg.maxDeliver detail .ok arrives).log =
          [.pushed detail.fcmToken (notificationTitle msg.event msg.orgCode)] ++
            .put (subjectName cfg detail) (body msg.data) :: s.log := rfl
      have settles : Settled cfg decode payload (afterMove cfg msg s cfg.maxDeliver detail .ok arrives) ↔ _ :=
        settled_moved placed.2 full (Function.update_self ..) log (by simp) rfl nothing
      rw [settles]
      simp
    | lost =>
      have log : (afterMove cfg msg s cfg.maxDeliver detail .lost arrives).log =
          [] ++ .put (subjectName cfg detail) (body msg.data) :: s.log := rfl
      have settles : Settled cfg decode payload (afterMove cfg msg s cfg.maxDeliver detail .lost arrives) ↔ _ :=
        settled_moved placed.2 full (Function.update_self ..) log (by simp) rfl nothing
      rw [settles]
      simp
  | save detail => exact absurd rfl placed
  | publish detail ackKey => exact absurd rfl placed

theorem step_settled {a : Action} (sound : Sound cfg s) (settled : Settled cfg decode payload s)
    (taken : step cfg msg s a = some next) :
    Settled cfg decode payload next ↔ Meets cfg decode payload msg s a := by
  cases a with
  | registerHolderNotification row =>
    simp only [step] at taken
    split at taken
    · rename_i fresh
      cases taken
      refine iff_of_true (fun full idle => (settled full idle).imp_right ?_) trivial
      rintro ⟨detail,text,registered,-⟩
      exact nomatch (Option.isNone_iff_eq_none.mp fresh).symm.trans registered
    · cases taken
  | deliver =>
    simp only [step] at taken
    split at taken
    · cases taken
      refine iff_of_true (fun full idle => ?_) trivial
      change s.deliveries + 1 = cfg.maxDeliver at full
      change Function.update s.copy (s.deliveries + 1) _ cfg.maxDeliver = none at idle
      rw [full,Function.update_self] at idle
      cases idle
    · cases taken
  | expire =>
    cases taken
    exact iff_of_true (settled_grows settled rfl rfl rfl (List.nil_append _).symm) trivial
  | advance count answer arrives =>
    obtain ⟨stage,at_,rfl⟩ := Option.map_eq_some_iff.mp taken
    by_cases last : count = cfg.maxDeliver
    · subst last
      exact settled_consume sound at_
    · obtain ⟨holder,deliveries⟩ := consume_frame cfg msg s count stage answer arrives
      obtain ⟨wait,copy,-⟩ := consume_copy cfg msg s count stage answer arrives
      obtain ⟨new,log,-⟩ := consume_log cfg msg s count stage answer arrives
      have same : (consume cfg msg s count stage answer arrives).copy cfg.maxDeliver = s.copy cfg.maxDeliver := by
        rw [copy,Function.update_of_ne (Ne.symm last)]
      exact iff_of_true (settled_grows settled holder deliveries same log) fun full => absurd full last
  | userAck handler =>
    simp only [step] at taken
    split at taken
    · cases taken
      exact iff_of_true (settled_grows settled rfl rfl rfl (List.nil_append _).symm) trivial
    · cases taken
  | handle handler answer =>
    obtain ⟨at_,-,rfl⟩ := Option.map_eq_some_iff.mp taken
    obtain ⟨holder,deliveries,copy,log⟩ := handleUserAck_frame s answer handler at_
    refine iff_of_true ?_ trivial
    rcases log with ⟨same,-⟩ | ⟨more,-⟩
    · exact settled_grows settled holder deliveries (congrFun copy _) (same.trans (List.nil_append _).symm)
    · exact settled_grows settled holder deliveries (congrFun copy _) (more.trans (List.singleton_append).symm)

end

/-- In every run the message is kept exactly when the last delivery does everything or comes after the
    holder's acknowledgement. -/
theorem notification_kept_iff {Payload : Type} (cfg : Config) (msg : Message) (decode : String → Option Payload)
    (payload : Payload) (holder : Option HolderNotification) {actions : List Action} {last : State}
    (reached : run (step cfg msg) (.initial holder) actions = some last) :
    (∀ first rest s, actions = first ++ rest → run (step cfg msg) (.initial holder) first = some s →
      Kept cfg decode payload s) ↔
    Along (step cfg msg) (Meets cfg decode payload msg) (.initial holder) actions := by
  have settled : Settled cfg decode payload (.initial holder) :=
    fun full _ => absurd full (Nat.ne_of_lt cfg.positive)
  have exact_ : ∀ s a next, Sound cfg s ∧ Settled cfg decode payload s → step cfg msg s a = some next →
      ((Sound cfg next ∧ Settled cfg decode payload next) ↔ Meets cfg decode payload msg s a) :=
    fun s a next both taken => (and_iff_right (step_sound both.1 taken)).trans (step_settled both.1 both.2 taken)
  rw [← always_iff_along exact_ ⟨sound_initial cfg holder,settled⟩ reached]
  refine forall_congr' fun first => forall_congr' fun rest => forall_congr' fun s => forall_congr' fun _ =>
    forall_congr' fun there => ?_
  have sound := run_keeps (fun _ _ _ sound taken => step_sound sound taken) (sound_initial cfg holder) there
  rw [and_iff_right sound]
  exact kept_iff sound

/-- In every run the message is moved once at most and only by the last delivery, and it is acknowledged by the holder
    or in the last delivery. -/
theorem moved_last (cfg : Config) (msg : Message) (holder : Option HolderNotification) {actions : List Action}
    {last : State}
    (reached : run (step cfg msg) (.initial holder) actions = some last) :
    last.deliveries ≤ cfg.maxDeliver ∧ (last.log.filter Event.isPut).length ≤ 1 ∧
      (∀ e ∈ last.log, e.isPut = true → last.deliveries = cfg.maxDeliver ∧ last.copy cfg.maxDeliver = none) ∧
      (last.acked = true → .userAck ∈ last.log ∨ last.deliveries = cfg.maxDeliver) := by
  have sound := run_keeps (fun _ _ _ sound taken => step_sound sound taken) (sound_initial cfg holder) reached
  refine ⟨sound.bounded,sound.once,fun e there is => ?_,sound.ended⟩
  by_contra early
  have unput : last.log.filter Event.isPut = [] := by
    refine sound.unput ?_
    by_cases full : last.deliveries = cfg.maxDeliver
    · exact .inr fun idle => early ⟨full,idle⟩
    · exact .inl (Nat.lt_of_le_of_ne sound.bounded full)
  exact List.not_mem_nil (unput ▸ List.mem_filter.mpr ⟨there,is⟩)

section
variable {Payload : Type} [DecidableEq Payload] (cfg : Config) (decode : String → Option Payload) (payload : Payload)
  (msg : Message) (s : State)

instance (answer : Answer) : (stage : Option Stage) → Decidable (Succeeds decode payload msg s answer stage)
  | none => inferInstanceAs (Decidable True)
  | some .getHolderNotificationBySessionId => inferInstanceAs (Decidable (_ ∧ _))
  | some (.ensureDidStream _) => inferInstanceAs (Decidable (_ = _))
  | some (.publishToJetStream _) => inferInstanceAs (Decidable (_ ∧ _))
  | some (.save _) => inferInstanceAs (Decidable True)
  | some (.publish _ _) => inferInstanceAs (Decidable True)
instance (a : Action) : Decidable (Meets cfg decode payload msg s a) :=
  match a with
  | .advance _ _ _ => inferInstanceAs (Decidable (_ → _))
  | .registerHolderNotification _ => inferInstanceAs (Decidable True)
  | .deliver => inferInstanceAs (Decidable True)
  | .expire => inferInstanceAs (Decidable True)
  | .userAck _ => inferInstanceAs (Decidable True)
  | .handle _ _ => inferInstanceAs (Decidable True)

end

def deliveredAtMost (maxDeliver : Nat) (positive : 1 ≤ maxDeliver) : Config :=
  ⟨maxDeliver,positive,"aggregate","did-notify","hub-pull-consumer"⟩
def purged : Message := ⟨"aggregate","presentation","purged","BHUTAN-ORG","session","{}",1⟩
def holder : HolderNotification := ⟨"session","did:web:holder","token"⟩
def readPurged (text : String) : Option String := if text = body purged.data then some purged.data else none
def deliveredTwice : List Action :=
  [.deliver,.advance 1 .ok true,.advance 1 .ok true,.advance 1 .ok true,.expire,.deliver,.advance 2 .ok true,
    .advance 2 .ok true,.advance 2 .ok true]

/-- The holder does not answer, and the second delivery moves the message. -/
theorem purged_moved :
    (run (step (deliveredAtMost 2 (by decide)) purged) (.initial (some holder)) deliveredTwice).isSome = true ∧
      ∀ first rest s, deliveredTwice = first ++ rest →
        run (step (deliveredAtMost 2 (by decide)) purged) (.initial (some holder)) first = some s →
        Kept (deliveredAtMost 2 (by decide)) readPurged purged.data s :=
  ⟨by decide +kernel,(notification_kept_iff _ purged readPurged purged.data (some holder) rfl).mpr (by decide +kernel)⟩
theorem moved_last_deliveredTwice : ∃ last,
    run (step (deliveredAtMost 2 (by decide)) purged) (.initial (some holder)) deliveredTwice = some last ∧
      (∃ e ∈ last.log, e.isPut = true) ∧ last.deliveries ≤ 2 ∧ (last.log.filter Event.isPut).length ≤ 1 := by
  refine ⟨_,rfl,by decide +kernel,?_⟩
  have moved := @moved_last (deliveredAtMost 2 (by decide)) purged (some holder) deliveredTwice _ rfl
  exact ⟨moved.1,moved.2.1⟩
/-- The database is not reached in the only delivery. -/
theorem purged_lost : ∃ s,
    run (step (deliveredAtMost 1 (by decide)) purged) (.initial (some holder))
    [.deliver,.advance 1 .fails true] = some s ∧
      ∀ (decode : String → Option String) (payload : String),
      ¬Kept (deliveredAtMost 1 (by decide)) decode payload s := by
  refine ⟨_,rfl,fun decode payload kept => ?_⟩
  rcases kept.not_lost ⟨.inr rfl,rfl⟩ with acked | ⟨row,text,-,there,-⟩
  · exact absurd acked (by decide)
  · have only : Event.put _ text ∈ [Event.delivered 1] := there
    exact nomatch List.mem_singleton.mp only

end Ngotag.HolderNotifications
