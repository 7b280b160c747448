import Ngotag.ReadCommitted

/-!
The primary issuer of an organisation. Creation reads whether there is one, asks the
agent, and only then stores its row; an update clears the flags of the rows it read
and sets its own, or asks for another primary issuer. So two calls can both make
their issuer the primary one, and an update that leaves the flag out is refused where
its issuer is the only one. Where no issuer becomes primary behind the back of a call that
looked for them, and no update leaves the flag of a sole issuer out, all is well
(`primary_kept`).
-/
namespace Ngotag.PrimaryIssuer
open Runs Await ReadCommitted

structure Issuer where
  orgId : String
  isPrimary : Bool
  deriving DecidableEq
def primaryOf (orgId : String) (row : Issuer) : Bool := row.orgId = orgId && row.isPrimary

/-- What is read or done elsewhere: other tables and the agent. -/
inductive Elsewhere where
  | getAgentEndPoint
  | getOrgAgentType
  | createOIDCIssuer
  | buildOidcIssuerConfig
  | createOIDCTemplate
  | getIssuerFromAgent
  | getTemplatesByIssuerId
  | deleteTemplatesByIssuerId
  | deleteOidcIssuerOnAgent

inductive Cmd where
  | elsewhere (what : Elsewhere)
  | hasPrimaryIssuer (orgId : String)
  | addOidcIssuerDetails (orgId : String) (isPrimary : Bool)
  | getOidcIssuerDetailsById (issuerId : Nat)
  | begin
  | findFirst (issuerId : Nat) (orgId : String)
  /-- The rows that the clearing `updateMany` starts with. -/
  | selectPrimary (orgId : String)
  /-- One of them, looked at again once it is free. -/
  | clear (orgId : String) (issuerId : Nat)
  /-- The count of the other primary issuers, with the exception for none. -/
  | otherPrimaryExists (orgId : String) (issuerId : Nat)
  | update (issuerId : Nat) (isPrimary : Option Bool)
  | commit
  | rollback
  | deleteOidcIssuer (issuerId : Nat)

def Ret : Cmd → Type
  | .hasPrimaryIssuer _ => Bool
  | .findFirst _ _ => Bool
  | .selectPrimary _ => List Nat
  | _ => Unit
inductive Failure where
  /-- `ResponseMessages.oidcIssuer.error.notFound` -/
  | notFound
  /-- `ResponseMessages.oidcIssuer.error.setPrimaryIssuerFailed` -/
  | setPrimaryIssuerFailed
  | other
abbrev Async := Prog Cmd Ret Failure
def perform (command : Cmd) : Async (Ret command) := call command
def ask (what : Elsewhere) : Async Unit := perform (.elsewhere what)
def oidcIssuerCreate (orgId : String) : Async Unit := do
  ask .getAgentEndPoint
  let hasPrimary : Bool ← perform (.hasPrimaryIssuer orgId)
  ask .getOrgAgentType
  ask .createOIDCIssuer
  perform (.addOidcIssuerDetails orgId !hasPrimary)
/-- The statements before the update of the row itself. -/
def makeRoom (issuerId : Nat) (orgId : String) (isPrimary : Option Bool) : Async Unit := do
  let found : Bool ← perform (.findFirst issuerId orgId)
  if !found then throw .notFound
  else if isPrimary = some true then do
    let rows : List Nat ← perform (.selectPrimary orgId)
    forEach (fun row => perform (.clear orgId row)) rows
  else perform (.otherPrimaryExists orgId issuerId)
def updateOidcIssuerDetails (issuerId : Nat) (orgId : String) (isPrimary : Option Bool) : Async Unit :=
  transaction (perform .begin) (perform .rollback) (perform .commit) do
    makeRoom issuerId orgId isPrimary
    perform (.update issuerId isPrimary)
def oidcIssuerUpdate (issuerId : Nat) (orgId : String) (isPrimary : Option Bool) : Async Unit := do
  let _ : Unit ← perform (.getOidcIssuerDetailsById issuerId)
  ask .getAgentEndPoint
  ask .getOrgAgentType
  updateOidcIssuerDetails issuerId orgId isPrimary
  ask .buildOidcIssuerConfig
  ask .createOIDCTemplate
def deleteOidcIssuer (issuerId : Nat) : Async Unit := do
  let _ : Unit ← perform (.getOidcIssuerDetailsById issuerId)
  ask .getAgentEndPoint
  ask .getIssuerFromAgent
  ask .getAgentEndPoint
  ask .getTemplatesByIssuerId
  ask .deleteTemplatesByIssuerId
  let _ : Unit ← perform (.deleteOidcIssuer issuerId)
  ask .deleteOidcIssuerOnAgent
inductive Input where
  | create (orgId : String)
  | update (issuerId : Nat) (orgId : String) (isPrimary : Option Bool)
  | delete (issuerId : Nat)
/-- `refused` records the updates without a flag for which no other primary issuer was
    found, and `looked` which issuers were primary when a call last looked at them. -/
structure World where
  issuers : Table Issuer
  txn : Nat → Bool
  calls : Nat → Option Input
  refused : List Nat
  looked : Nat → List Nat
/-- The issuers of the organisation that are committed as primary ones. -/
def World.primaries (w : World) (orgId : String) : List Nat :=
  w.issuers.keys.filter fun key => (w.issuers.committed key).any (primaryOf orgId)
def World.saw (w : World) (process : Nat) (issuers : List Nat) : World :=
  { w with looked := Function.update w.looked process issuers }
/-- The process looks at all issuers of the organisation. -/
def World.look (w : World) (process : Nat) (orgId : String) : World := w.saw process (w.primaries orgId)
/-- It looks at one of them again. -/
def World.lookAt (w : World) (process : Nat) (orgId : String) (issuerId : Nat) : World :=
  w.saw process ((w.looked process).filter fun key => key ≠ issuerId || (w.issuers.committed key).any (primaryOf orgId))
inductive Fault where
  | none
  /-- It fails and nothing happened. -/
  | lost
  /-- It happened, and the answer is an exception. -/
  | unknown
  deriving DecidableEq
/-- Whether the command fails, and the id of a new row. -/
structure Choice where
  fault : Fault
  drawn : Nat
/-- The issuer that an update asks to make the primary one. -/
def Input.promoted : Input → Option Nat
  | .update issuerId _ (some true) => some issuerId
  | _ => none
/-- The issuer and the organisation of an update that leaves the flag out. -/
def Input.unflagged : Input → Option (Nat × String)
  | .update issuerId orgId none => some (issuerId,orgId)
  | _ => none
def absent (w : World) (process : Nat) : Bool := ((w.calls process).bind Input.unflagged).isSome
/-- The call updates without a word on `isPrimary`. -/
def Absent (w : World) (process : Nat) : Prop := absent w process = true
def answered {β : Type} (choice : Choice) (w : World) (value : β) : Option (World × Except Failure β) :=
  some (w,if choice.fault = .none then .ok value else .error .other)
def inTransaction {β : Type} (process : Nat) (choice : Choice) (w : World)
    (statement : Option (World × Except Failure β)) : Option (World × Except Failure β) :=
  if choice.fault = .none ∧ w.txn process = true then statement else some (w,.error .other)
def reported (choice : Choice) (before after : World) : Option (World × Except Failure Unit) :=
  match choice.fault with
  | .none => some (after,.ok ())
  | .lost => some (before,.error .other)
  | .unknown => some (after,.error .other)

def World.close (w : World) (process : Nat) (issuers : Table Issuer) : World :=
  { w with issuers := issuers, txn := Function.update w.txn process false }
def commitOf (process : Nat) (choice : Choice) (w : World) : Option (World × Except Failure Unit) :=
  if w.txn process then
    reported choice (w.close process (w.issuers.rollback process)) (w.close process (w.issuers.commit process))
  else some (w,.error .other)
def writeRow (process : Nat) (w : World) (issuerId : Nat) (row : Issuer) : World :=
  { w with issuers := w.issuers.write process issuerId row }
def clearRow (process : Nat) (w : World) (orgId : String) (issuerId : Nat) : Option (World × Except Failure Unit) :=
  if w.issuers.locked process issuerId then none
  else
    let found := (w.issuers.seen process issuerId).filter (primaryOf orgId)
    let after := w.lookAt process orgId issuerId
    some ((found.map fun row => writeRow process after issuerId { row with isPrimary := false }).getD after,.ok ())

def updateRow (process : Nat) (w : World) (issuerId : Nat) (isPrimary : Option Bool) :
    Option (World × Except Failure Unit) :=
  if w.issuers.locked process issuerId then none
  else if let some row := w.issuers.seen process issuerId then
    some (writeRow process w issuerId { row with isPrimary := isPrimary.getD row.isPrimary },.ok ())
  else some (w,.error .other)

def otherPrimaries (process : Nat) (w : World) (orgId : String) (issuerId : Nat) : List Nat :=
  (w.issuers.select process (primaryOf orgId)).filter (· ≠ issuerId)
def countOthers (process : Nat) (w : World) (orgId : String) (issuerId : Nat) : World × Except Failure Unit :=
  if otherPrimaries process w orgId issuerId = [] then
    ({ w with refused := if absent w process then process :: w.refused else w.refused },.error .setPrimaryIssuerFailed)
  else (w,.ok ())
def addRow (choice : Choice) (w : World) (row : Issuer) : Option (World × Except Failure Unit) :=
  if choice.drawn ∈ w.issuers.keys then none
  else reported choice w { w with issuers := w.issuers.insert choice.drawn row }
def readRow (choice : Choice) (w : World) (issuerId : Nat) : Option (World × Except Failure Unit) :=
  if (w.issuers.committed issuerId).isSome then answered choice w () else some (w,.error .other)
/-- The deletion waits while a transaction holds the row. -/
def deleteRow (choice : Choice) (w : World) (issuerId : Nat) : Option (World × Except Failure Unit) :=
  if (w.issuers.pending issuerId).isSome then none
  else if (w.issuers.committed issuerId).isSome then reported choice w { w with issuers := w.issuers.erase issuerId }
  else some (w,.error .other)

def handle (process : Nat) (c : Cmd) (choice : Choice) (w : World) : Option (World × Except Failure (Ret c)) :=
  match c with
  | .elsewhere _ => answered (β := Unit) choice w ()
  | .hasPrimaryIssuer orgId =>
    answered (β := Bool) choice (w.look process orgId)
        (w.issuers.keys.any fun key => (w.issuers.committed key).any (primaryOf orgId))
  | .addOidcIssuerDetails orgId isPrimary => addRow choice w ⟨orgId,isPrimary⟩
  | .getOidcIssuerDetailsById issuerId => readRow choice w issuerId
  | .begin => reported choice w { w with txn := Function.update w.txn process true }
  | .findFirst issuerId orgId =>
    inTransaction (β := Bool) process choice w
      (some (w,.ok ((w.issuers.seen process issuerId).any fun row => row.orgId = orgId)))
  | .selectPrimary orgId =>
    inTransaction (β := List Nat) process choice w
      (some (w.look process orgId,.ok (w.issuers.select process (primaryOf orgId))))
  | .clear orgId issuerId => inTransaction (β := Unit) process choice w (clearRow process w orgId issuerId)
  | .otherPrimaryExists orgId issuerId =>
    inTransaction (β := Unit) process choice w (some (countOthers process w orgId issuerId))
  | .update issuerId isPrimary => inTransaction (β := Unit) process choice w (updateRow process w issuerId isPrimary)
  | .commit => commitOf process choice w
  | .rollback => some (w.close process (w.issuers.rollback process),.ok ())
  | .deleteOidcIssuer issuerId => deleteRow choice w issuerId

/-- The connection of a transaction is lost, or its time is up: it is rolled back. -/
inductive Env where
  | abort (process : Nat)
def program (_ : Nat) : Input → Async Unit
  | .create orgId => oidcIssuerCreate orgId
  | .update issuerId orgId isPrimary => oidcIssuerUpdate issuerId orgId isPrimary
  | .delete issuerId => deleteOidcIssuer issuerId
def sys : System Cmd Ret Failure Unit World Choice Input Env where
  handle := handle
  arrive process input w := some { w with calls := Function.update w.calls process (some input) }
  program := program
  environment event w :=
    match event with
    | .abort process => some (w.close process (w.issuers.rollback process))
/-- The committed issuer of the organisation is primary. -/
def Primary (w : World) (orgId : String) (issuerId : Nat) : Prop :=
  ∃ row, w.issuers.committed issuerId = some row ∧ primaryOf orgId row = true
/-- The open transaction of the process makes the row a primary issuer. -/
def Promotes (w : World) (orgId : String) (process issuerId : Nat) : Prop :=
  ∃ row, w.issuers.pending issuerId = some (process,row) ∧ primaryOf orgId row = true
/-- No two issuers of an organisation are primary. -/
def OnePrimary (orgId : String) (w : World) : Prop := ∀ i j, Primary w orgId i → Primary w orgId j → i = j
/-- One primary issuer at most, each transaction makes one at most, and an update that
    leaves the flag out writes what is there, and was not refused. -/
structure Sound (orgId : String) (w : World) : Prop where
  one : OnePrimary orgId w
  single : ∀ process i j, Promotes w orgId process i → Promotes w orgId process j → i = j
  closed : ∀ process, w.txn process = false → ∀ key row, w.issuers.pending key ≠ some (process,row)
  flags : ∀ process, Absent w process → ∀ key row, w.issuers.pending key = some (process,row) →
    w.issuers.committed key = some row
  refused : w.refused = []
/-- What the others leave to a process: its call, what it saw, and its transaction unless
    it was rolled back. -/
def Undisturbed (process : Nat) (a b : World) : Prop :=
  (b.calls process = a.calls process ∧ b.looked process = a.looked process) ∧
    (b.txn process = false ∨ b.txn process = a.txn process ∧ Table.Kept process a.issuers b.issuers)

/-- When a creation stores its row, an issuer is primary only if one was when it looked;
    when an update that makes an issuer of the organisation the primary one commits, the
    others that are primary were so when it last looked at them; and an update that leaves
    the flag out gets to its count while another issuer is primary. -/
def upToDate (orgId : String) (process : Nat) (c : Cmd) (choice : Choice) (w : World) : Prop :=
  match c with
  | .addOidcIssuerDetails org _ => choice.fault ≠ .lost → org = orgId → w.looked process = [] → w.primaries orgId = []
  | .commit => choice.fault ≠ .lost → ∀ issuerId ∈ (w.calls process).bind Input.promoted,
      (w.issuers.seen process issuerId).any (fun row => row.orgId = orgId) = true →
        ∀ other ∈ w.primaries orgId, other = issuerId ∨ other ∈ w.looked process
  | .otherPrimaryExists _ _ => choice.fault = .none → w.txn process = true →
      ∀ call ∈ (w.calls process).bind Input.unflagged, ∃ other ∈ w.primaries call.2, other ≠ call.1
  | _ => True
instance (orgId : String) (process : Nat) (choice : Choice) (w : World) :
    (c : Cmd) → Decidable (upToDate orgId process c choice w)
  | .addOidcIssuerDetails _ _ => inferInstanceAs (Decidable (_ → _ → _ → _))
  | .commit => inferInstanceAs (Decidable (_ → ∀ issuerId ∈ _, _ → ∀ other ∈ _, _))
  | .otherPrimaryExists _ _ => inferInstanceAs (Decidable (_ → _ → ∀ call ∈ _, ∃ other ∈ _, _))
  | .elsewhere _ | .hasPrimaryIssuer _ | .getOidcIssuerDetailsById _ | .begin | .findFirst _ _ | .selectPrimary _
  | .clear _ _ | .update _ _ | .rollback | .deleteOidcIssuer _ => isTrue trivial

def contract (orgId : String) : Contract Cmd World Choice Env where
  inv := Sound orgId
  rely := Undisturbed
  idle process w := w.txn process = false
  allowed := upToDate orgId
  happens _ _ := True
instance (orgId : String) (process : Nat) (c : Cmd) (choice : Choice) (w : World) :
    Decidable ((contract orgId).allowed process c choice w) :=
  inferInstanceAs (Decidable (upToDate orgId process c choice w))
instance (orgId : String) (event : Env) (w : World) : Decidable ((contract orgId).happens event w) := isTrue trivial

section
variable {orgId : String} {process other : Nat} {a b w after : World} {choice : Choice}

theorem mem_primaries {issuerId : Nat} : issuerId ∈ w.primaries orgId ↔ Primary w orgId issuerId := by
  simp only [World.primaries,List.mem_filter,Primary]
  constructor
  · rintro ⟨-,primary⟩
    obtain ⟨row,found,passes⟩ := (Option.any_eq_true _ _).mp primary
    exact ⟨row,found,passes⟩
  · rintro ⟨row,found,passes⟩
    exact ⟨w.issuers.listed _ (.inl (by rw [found]; rfl)),by rw [found]; exact passes⟩
theorem undisturbed_refl : Undisturbed process a a := ⟨⟨rfl,rfl⟩,.inr ⟨rfl,Table.kept_refl⟩⟩
theorem undisturbed_trans {c : World} (first : Undisturbed process a b) (second : Undisturbed process b c) :
    Undisturbed process a c := by
  refine ⟨⟨second.1.1.trans first.1.1,second.1.2.trans first.1.2⟩,?_⟩
  rcases second.2 with gone | ⟨same,kept⟩
  · exact .inl gone
  rcases first.2 with gone | ⟨same',kept'⟩
  · exact .inl (same.trans gone)
  · exact .inr ⟨same.trans same',Table.kept_trans kept' kept⟩

theorem sound_less (sound : Sound orgId w) (committed : after.issuers.committed = w.issuers.committed)
    (less : ∀ key version, after.issuers.pending key = some version → w.issuers.pending key = some version)
    (closed : ∀ process, after.txn process = false → ∀ key row, after.issuers.pending key ≠ some (process,row))
    (calls : after.calls = w.calls) (refused : after.refused = w.refused) : Sound orgId after := by
  have promotes : ∀ process i, Promotes after orgId process i → Promotes w orgId process i := by
    rintro process i ⟨row,held,primary⟩
    exact ⟨row,less i _ held,primary⟩
  refine ⟨?_,?_,closed,?_,refused.trans sound.refused⟩
  · simp only [OnePrimary,Primary,committed]
    exact sound.one
  · intro process i j first second
    exact sound.single process i j (promotes process i first) (promotes process j second)
  · intro process absent_ key row held
    simp only [Absent,absent,calls] at absent_
    rw [committed]
    exact sound.flags process absent_ key row (less key _ held)

theorem closed_close (sound : Sound orgId w) {issuers : Table Issuer}
    (gone : issuers.pending = w.issuers.others process) (mine : Nat) :
    (w.close process issuers).txn mine = false → ∀ key row,
        (w.close process issuers).issuers.pending key ≠ some (mine,row) := by
  intro ended key row held
  simp only [World.close] at ended held
  rw [gone,Table.others_some] at held
  rw [Function.update_of_ne held.2] at ended
  exact sound.closed mine ended key row held.1
theorem sound_rollback (sound : Sound orgId w) : Sound orgId (w.close process (w.issuers.rollback process)) :=
  sound_less sound rfl (fun _ _ held => (Table.others_some.mp held).1) (closed_close sound rfl) rfl rfl

variable {issuerId : Nat}
theorem primary_commit (primary : Primary (w.close process (w.issuers.commit process)) orgId issuerId) :
    Promotes w orgId process issuerId ∨
      Primary w orgId issuerId ∧ ∀ row, w.issuers.pending issuerId ≠ some (process,row) := by
  obtain ⟨row,found,passes⟩ := primary
  change w.issuers.seen process issuerId = some row at found
  by_cases own : ∃ version, w.issuers.pending issuerId = some (process,version)
  · obtain ⟨version,held⟩ := own
    rw [Table.seen_of_pending held,Option.some.injEq] at found
    exact .inl ⟨version,held,found ▸ passes⟩
  · have free : ∀ version, w.issuers.pending issuerId ≠ some (process,version) := fun version held => own ⟨version,held⟩
    rw [Table.seen_of_free free] at found
    exact .inr ⟨⟨row,found,passes⟩,free⟩

section

variable (sound : Sound orgId w)
  (wrote : ∀ issuerId, Promotes w orgId process issuerId → ∀ other, Primary w orgId other → ∃ row,
      w.issuers.pending other = some (process,row))
include sound wrote
theorem one_commit :
    OnePrimary orgId (w.close process (w.issuers.commit process)) := by
  intro i j first second
  rcases primary_commit first with made | ⟨there,free⟩
  · rcases primary_commit second with made' | ⟨there',free'⟩
    · exact sound.single process i j made made'
    · obtain ⟨row,held⟩ := wrote i made j there'
      exact absurd held (free' row)
  · rcases primary_commit second with made' | ⟨there',-⟩
    · obtain ⟨row,held⟩ := wrote j made' i there
      exact absurd held (free row)
    · exact sound.one i j there there'

theorem sound_commit :
    Sound orgId (w.close process (w.issuers.commit process)) := by
  refine ⟨one_commit sound wrote,?_,closed_close sound rfl,?_,sound.refused⟩
  · rintro mine i j ⟨row,held,primary⟩ ⟨row',held',primary'⟩
    exact sound.single mine i j ⟨row,(Table.others_some.mp held).1,primary⟩
        ⟨row',(Table.others_some.mp held').1,primary'⟩
  · intro mine absent_ key row held
    obtain ⟨held,different⟩ := Table.others_some.mp held
    have kept := (Table.kept_commit (t := w.issuers) different).held key row held
    exact kept.trans (sound.flags mine absent_ key row held)

end

variable {key : Nat}
theorem sound_write (sound : Sound orgId w) {row : Issuer} (opened : w.txn process = true)
    (free : w.issuers.locked process key = false)
    (alone : primaryOf orgId row = true → ∀ i, Promotes w orgId process i → i = key)
    (flag : Absent w process → w.issuers.committed key = some row) :
    Sound orgId (writeRow process w key row) := by
  have versions : ∀ mine i version, (writeRow process w key row).issuers.pending i = some (mine,version) →
      (i = key ∧ mine = process ∧ version = row) ∨ i ≠ key ∧ w.issuers.pending i = some (mine,version) := by
    intro mine i version held
    simp only [writeRow,Table.write] at held
    by_cases same : i = key
    · subst same
      simp only [Function.update_self,Option.some.injEq,Prod.mk.injEq] at held
      exact .inl ⟨rfl,held.1.symm,held.2.symm⟩
    · rw [Function.update_of_ne same] at held
      exact .inr ⟨same,held⟩
  refine ⟨sound.one,?_,?_,?_,sound.refused⟩
  · rintro mine i j ⟨ri,held,primary⟩ ⟨rj,held',primary'⟩
    rcases versions mine i ri held with ⟨rfl,rfl,rfl⟩ | ⟨-,before⟩
    · rcases versions _ j rj held' with ⟨rfl,-,-⟩ | ⟨-,before'⟩
      · rfl
      · exact (alone primary j ⟨rj,before',primary'⟩).symm
    · rcases versions mine j rj held' with ⟨rfl,rfl,rfl⟩ | ⟨-,before'⟩
      · exact alone primary' i ⟨ri,before,primary⟩
      · exact sound.single mine i j ⟨ri,before,primary⟩ ⟨rj,before',primary'⟩
  · intro mine ended i version held
    rcases versions mine i version held with ⟨-,rfl,-⟩ | ⟨-,before⟩
    · exact absurd (opened.symm.trans ended) (by decide)
    · exact sound.closed mine ended i version before
  · intro mine absent_ i version held
    rcases versions mine i version held with ⟨rfl,rfl,rfl⟩ | ⟨-,before⟩
    · exact flag absent_
    · exact sound.flags mine absent_ i version before

theorem sound_insert (sound : Sound orgId w) {row : Issuer} (fresh : key ∉ w.issuers.keys)
    (none_ : primaryOf orgId row = true → ∀ i, ¬Primary w orgId i) :
    Sound orgId { w with issuers := w.issuers.insert key row } := by
  have rows : ∀ i, Primary { w with issuers := w.issuers.insert key row } orgId i →
      (i = key ∧ primaryOf orgId row = true) ∨ Primary w orgId i := by
    rintro i ⟨found,at_,primary⟩
    simp only [Table.insert] at at_
    by_cases same : i = key
    · subst same
      rw [Function.update_self,Option.some.injEq] at at_
      exact .inl ⟨rfl,at_ ▸ primary⟩
    · rw [Function.update_of_ne same] at at_
      exact .inr ⟨found,at_,primary⟩
  refine ⟨?_,sound.single,sound.closed,?_,sound.refused⟩
  · intro i j first second
    rcases rows i first with ⟨rfl,primary⟩ | there
    · rcases rows j second with ⟨rfl,-⟩ | there'
      · rfl
      · exact absurd there' (none_ primary j)
    · rcases rows j second with ⟨rfl,primary⟩ | there'
      · exact absurd there (none_ primary i)
      · exact sound.one i j there there'
  · intro mine absent_ i version held
    have kept : Table.Kept mine _ (w.issuers.insert key row) := Table.kept_insert fresh
    exact (kept.held i version held).trans (sound.flags mine absent_ i version held)

theorem sound_erase (sound : Sound orgId w) (free : w.issuers.pending key = none) :
    Sound orgId { w with issuers := w.issuers.erase key } := by
  have rows : ∀ i, Primary { w with issuers := w.issuers.erase key } orgId i → Primary w orgId i := by
    rintro i ⟨found,at_,primary⟩
    simp only [Table.erase] at at_
    by_cases same : i = key
    · subst same
      rw [Function.update_self] at at_
      cases at_
    · rw [Function.update_of_ne same] at at_
      exact ⟨found,at_,primary⟩
  refine ⟨fun i j first second => sound.one i j (rows i first) (rows j second),sound.single,sound.closed,?_,
      sound.refused⟩
  intro mine absent_ i version held
  have kept : Table.Kept mine _ (w.issuers.erase key) := Table.kept_erase free
  exact (kept.held i version held).trans (sound.flags mine absent_ i version held)

/-- The worlds that a command may leave. -/
inductive Outcome (process : Nat) (c : Cmd) (choice : Choice) (w : World) : World → Prop where
  | same : Outcome process c choice w w
  | looked {issuers : List Nat} : Outcome process c choice w (w.saw process issuers)
  | opened (is_ : c = .begin) : Outcome process c choice w { w with txn := Function.update w.txn process true }
  | cleared {org : String} {key : Nat} {row : Issuer} {issuers : List Nat} (is_ : c = .clear org key)
      (opened : w.txn process = true) (free : w.issuers.locked process key = false) :
      Outcome process c choice w (writeRow process (w.saw process issuers) key { row with isPrimary := false })
  | updated {key : Nat} {isPrimary : Option Bool} {row : Issuer} (is_ : c = .update key isPrimary)
      (opened : w.txn process = true) (free : w.issuers.locked process key = false)
      (found : w.issuers.seen process key = some row) :
      Outcome process c choice w (writeRow process w key { row with isPrimary := isPrimary.getD row.isPrimary })
  | rolledBack : Outcome process c choice w (w.close process (w.issuers.rollback process))
  | committed (is_ : c = .commit) (went : choice.fault ≠ .lost) :
      Outcome process c choice w (w.close process (w.issuers.commit process))
  | inserted {org : String} {isPrimary : Bool} (is_ : c = .addOidcIssuerDetails org isPrimary)
      (went : choice.fault ≠ .lost) (fresh : choice.drawn ∉ w.issuers.keys) :
      Outcome process c choice w { w with issuers := w.issuers.insert choice.drawn ⟨org,isPrimary⟩ }
  | erased {key : Nat} (free : w.issuers.pending key = none) :
      Outcome process c choice w { w with issuers := w.issuers.erase key }
  | refused {org : String} {key : Nat} (is_ : c = .otherPrimaryExists org key) (fine : choice.fault = .none)
      (opened : w.txn process = true) (alone : otherPrimaries process w org key = []) :
      Outcome process c choice w { w with refused := if absent w process then process :: w.refused else w.refused }

theorem reported_cases {before : World} {answer : Except Failure Unit}
    (handled : reported choice before w = some (after,answer)) : after = before ∨ choice.fault ≠ .lost ∧ after = w := by
  unfold reported at handled
  cases fault : choice.fault with
  | none => simp only [fault,Option.some.injEq,Prod.mk.injEq] at handled; exact .inr ⟨by simp,handled.1.symm⟩
  | lost => simp only [fault,Option.some.injEq,Prod.mk.injEq] at handled; exact .inl handled.1.symm
  | unknown => simp only [fault,Option.some.injEq,Prod.mk.injEq] at handled; exact .inr ⟨by simp,handled.1.symm⟩
theorem inTransaction_cases {β : Type} {statement : Option (World × Except Failure β)} {answer : Except Failure β}
    (handled : inTransaction process choice w statement = some (after,answer)) :
    after = w ∨ choice.fault = .none ∧ w.txn process = true ∧ statement = some (after,answer) := by
  unfold inTransaction at handled
  by_cases runs : choice.fault = .none ∧ w.txn process = true
  · rw [if_pos runs] at handled
    exact .inr ⟨runs.1,runs.2,handled⟩
  · rw [if_neg runs,Option.some.injEq,Prod.mk.injEq] at handled
    exact .inl handled.1.symm

variable {c : Cmd}
theorem handle_outcome {answer : Except Failure (Ret c)} (handled : handle process c choice w = some (after,answer)) :
    Outcome process c choice w after := by
  cases c with
  | elsewhere what => cases handled; exact .same
  | hasPrimaryIssuer org => cases handled; exact .looked
  | addOidcIssuerDetails org isPrimary =>
    have made : addRow choice w ⟨org,isPrimary⟩ = some (after,answer) := handled
    unfold addRow at made
    by_cases used : choice.drawn ∈ w.issuers.keys
    · rw [if_pos used] at made
      cases made
    · rw [if_neg used] at made
      rcases reported_cases made with rfl | ⟨went,rfl⟩
      · exact .same
      · exact .inserted rfl went used
  | getOidcIssuerDetailsById issuerId =>
    have made : readRow choice w issuerId = some (after,answer) := handled
    unfold readRow at made
    by_cases there : (w.issuers.committed issuerId).isSome = true
    · rw [if_pos there] at made
      cases made
      exact .same
    · rw [if_neg there] at made
      cases made
      exact .same
  | begin =>
    rcases reported_cases handled with rfl | ⟨-,rfl⟩
    · exact .same
    · exact .opened rfl
  | findFirst issuerId org =>
    rcases inTransaction_cases handled with rfl | ⟨-,-,same⟩
    · exact .same
    · cases same; exact .same
  | selectPrimary org =>
    rcases inTransaction_cases handled with rfl | ⟨-,-,same⟩
    · exact .same
    · cases same; exact .looked
  | clear org issuerId =>
    rcases inTransaction_cases handled with rfl | ⟨-,opened,made⟩
    · exact .same
    unfold clearRow at made
    by_cases locked : w.issuers.locked process issuerId = true
    · rw [if_pos locked] at made
      cases made
    · rw [if_neg locked] at made
      cases found : (w.issuers.seen process issuerId).filter (primaryOf org) with
      | none => simp only [found] at made; cases made; exact .looked
      | some row => simp only [found] at made; cases made; exact .cleared rfl opened (by simpa using locked)
  | otherPrimaryExists org issuerId =>
    rcases inTransaction_cases handled with rfl | ⟨fine,opened,made⟩
    · exact .same
    unfold countOthers at made
    by_cases alone : otherPrimaries process w org issuerId = []
    · rw [if_pos alone] at made
      cases made
      exact .refused rfl fine opened alone
    · rw [if_neg alone] at made
      cases made
      exact .same
  | update issuerId isPrimary =>
    rcases inTransaction_cases handled with rfl | ⟨-,opened,made⟩
    · exact .same
    unfold updateRow at made
    by_cases locked : w.issuers.locked process issuerId = true
    · rw [if_pos locked] at made
      cases made
    · rw [if_neg locked] at made
      cases found : w.issuers.seen process issuerId with
      | none => simp only [found] at made; cases made; exact .same
      | some row =>
        simp only [found] at made
        cases made
        exact .updated rfl opened (by simpa using locked) found
  | commit =>
    have made : commitOf process choice w = some (after,answer) := handled
    unfold commitOf at made
    by_cases opened : w.txn process = true
    · rw [if_pos opened] at made
      rcases reported_cases made with rfl | ⟨went,rfl⟩
      · exact .rolledBack
      · exact .committed rfl went
    · rw [if_neg opened] at made
      cases made
      exact .same
  | rollback => cases handled; exact .rolledBack
  | deleteOidcIssuer issuerId =>
    have made : deleteRow choice w issuerId = some (after,answer) := handled
    unfold deleteRow at made
    by_cases locked : (w.issuers.pending issuerId).isSome = true
    · rw [if_pos locked] at made
      cases made
    · rw [if_neg locked] at made
      by_cases there : (w.issuers.committed issuerId).isSome = true
      · rw [if_pos there] at made
        rcases reported_cases made with rfl | ⟨-,rfl⟩
        · exact .same
        · exact .erased (by simpa using locked)
      · rw [if_neg there] at made
        cases made
        exact .same

/-- The transaction makes the issuer of its call the primary one, and wrote every row that
    it saw to be one. -/
def Covered (process issuerId : Nat) (w : World) : Prop :=
  (w.calls process).bind Input.promoted = some issuerId ∧
    ∀ key ∈ w.looked process, ∃ row, w.issuers.pending key = some (process,row)
/-- What a command asks of its own call. -/
def Side (orgId : String) (process : Nat) (c : Cmd) (w : World) : Prop :=
  match c with
  | .addOidcIssuerDetails _ isPrimary => isPrimary = true → w.looked process = []
  | .clear _ _ => ¬Absent w process
  | .otherPrimaryExists org issuerId => Absent w process → (w.calls process).bind Input.unflagged = some (issuerId,org)
  | .update _ isPrimary => (∀ i, ¬Promotes w orgId process i) ∧ (Absent w process → isPrimary = none)
  | .commit => ∀ i, Promotes w orgId process i → Absent w process ∨ Covered process i w
  | _ => True
theorem seen_absent (sound : Sound orgId w) (absent_ : Absent w process) :
    w.issuers.seen process key = w.issuers.committed key := by
  by_cases own : ∃ version, w.issuers.pending key = some (process,version)
  · obtain ⟨version,held⟩ := own
    rw [Table.seen_of_pending held,sound.flags process absent_ key version held]
  · exact Table.seen_of_free fun version held => own ⟨version,held⟩

theorem wrote_of_side (sound : Sound orgId w) (went : choice.fault ≠ .lost)
    (allowed : upToDate orgId process .commit choice w)
    (side : Side orgId process .commit w) {i : Nat} (promotes : Promotes w orgId process i) (other : Nat)
    (there : Primary w orgId other) : ∃ row, w.issuers.pending other = some (process,row) := by
  obtain ⟨row,held,primary⟩ := promotes
  rcases side i ⟨row,held,primary⟩ with absent_ | ⟨call,wrote⟩
  · obtain rfl := sound.one other i there ⟨row,sound.flags process absent_ i row held,primary⟩
    exact ⟨row,held⟩
  · have ours : (w.issuers.seen process i).any (fun row => row.orgId = orgId) = true := by
      simp only [primaryOf,Bool.and_eq_true] at primary
      rw [Table.seen_of_pending held]
      exact primary.1
    rcases allowed went i call ours other (mem_primaries.mpr there) with rfl | looked
    · exact ⟨row,held⟩
    · exact wrote other looked

theorem other_primary (sound : Sound orgId w) (absent_ : Absent w process) {org : String}
    (call : (w.calls process).bind Input.unflagged = some (key,org)) (fine : choice.fault = .none)
    (opened : w.txn process = true)
    (allowed : upToDate orgId process (.otherPrimaryExists org key) choice w) :
        otherPrimaries process w org key ≠ [] := by
  obtain ⟨other,there,apart⟩ := allowed fine opened (key,org) call
  obtain ⟨row,found,primary⟩ := mem_primaries.mp there
  refine List.ne_nil_of_mem (a := other) (List.mem_filter.mpr ⟨List.mem_filter.mpr ⟨?_,?_⟩,by simpa using apart⟩)
  · exact w.issuers.listed other (.inl (by rw [found]; rfl))
  · rw [seen_absent sound absent_,found]
    exact primary

theorem sound_saw (sound : Sound orgId w) {issuers : List Nat} : Sound orgId (w.saw process issuers) :=
  sound_less sound rfl (fun _ _ held => held) sound.closed rfl rfl
theorem outcome_sound (sound : Sound orgId w) (allowed : upToDate orgId process c choice w)
    (side : Side orgId process c w) (outcome : Outcome process c choice w after) : Sound orgId after := by
  cases outcome with
  | same => exact sound
  | looked => exact sound_saw sound
  | opened is_ =>
    refine sound_less sound rfl (fun _ _ held => held) ?_ rfl rfl
    intro mine ended
    by_cases same : mine = process
    · subst same
      simp at ended
    · simp only [Function.update_of_ne same] at ended
      exact sound.closed mine ended
  | cleared is_ opened free =>
    subst is_
    refine sound_write (sound_saw sound) opened free ?_ fun absent_ => absurd absent_ side
    intro primary
    simp [primaryOf] at primary
  | updated is_ opened free found =>
    subst is_
    refine sound_write sound opened free (fun _ i promotes => absurd promotes (side.1 i)) ?_
    intro absent_
    rw [side.2 absent_,← seen_absent sound absent_]
    exact found
  | rolledBack => exact sound_rollback sound
  | committed is_ went =>
    subst is_
    exact sound_commit sound fun i promotes => wrote_of_side sound went allowed side promotes
  | inserted is_ went fresh =>
    subst is_
    refine sound_insert sound fresh fun primary i there => ?_
    simp only [primaryOf,Bool.and_eq_true,decide_eq_true_eq] at primary
    have none_ := allowed went primary.1 (side primary.2)
    rw [← mem_primaries,none_] at there
    cases there
  | erased free => exact sound_erase sound free
  | refused is_ fine opened alone =>
    subst is_
    have present : absent w process = false := by
      by_contra other
      have absent_ : Absent w process := by simpa [Absent] using other
      exact other_primary sound absent_ (side absent_) fine opened allowed alone
    refine sound_less sound rfl (fun _ _ held => held) sound.closed rfl ?_
    simp [present]

theorem outcome_undisturbed (outcome : Outcome process c choice w after) (different : other ≠ process) :
    Undisturbed other w after := by
  cases outcome with
  | same => exact undisturbed_refl
  | looked => exact ⟨⟨rfl,Function.update_of_ne different _ _⟩,.inr ⟨rfl,Table.kept_refl⟩⟩
  | opened => exact ⟨⟨rfl,rfl⟩,.inr ⟨Function.update_of_ne different _ _,Table.kept_refl⟩⟩
  | cleared _ _ free => exact ⟨⟨rfl,Function.update_of_ne different _ _⟩,.inr ⟨rfl,Table.kept_write different free⟩⟩
  | updated _ _ free _ => exact ⟨⟨rfl,rfl⟩,.inr ⟨rfl,Table.kept_write different free⟩⟩
  | rolledBack => exact ⟨⟨rfl,rfl⟩,.inr ⟨Function.update_of_ne different _ _,Table.kept_rollback different⟩⟩
  | committed => exact ⟨⟨rfl,rfl⟩,.inr ⟨Function.update_of_ne different _ _,Table.kept_commit different⟩⟩
  | inserted _ _ fresh => exact ⟨⟨rfl,rfl⟩,.inr ⟨rfl,Table.kept_insert fresh⟩⟩
  | erased free => exact ⟨⟨rfl,rfl⟩,.inr ⟨rfl,Table.kept_erase free⟩⟩
  | refused => exact ⟨⟨rfl,rfl⟩,.inr ⟨rfl,Table.kept_refl⟩⟩

theorem outcome_modest (outcome : Outcome process c choice w after) (plain : ∀ key isPrimary, c ≠ .update key isPrimary)
    (modest : ∀ i, ¬Promotes w orgId process i) (i : Nat) : ¬Promotes after orgId process i := by
  rintro ⟨row,held,primary⟩
  cases outcome with
  | same => exact modest i ⟨row,held,primary⟩
  | looked => exact modest i ⟨row,held,primary⟩
  | opened => exact modest i ⟨row,held,primary⟩
  | @cleared org key old _ _ _ _ =>
    simp only [writeRow,Table.write] at held
    by_cases same : i = key
    · subst same
      simp only [Function.update_self,Option.some.injEq,Prod.mk.injEq,true_and] at held
      subst held
      simp [primaryOf] at primary
    · rw [Function.update_of_ne same] at held
      exact modest i ⟨row,held,primary⟩
  | updated is_ => exact plain _ _ is_
  | rolledBack => exact modest i ⟨row,(Table.others_some.mp held).1,primary⟩
  | committed => exact modest i ⟨row,(Table.others_some.mp held).1,primary⟩
  | inserted => exact modest i ⟨row,held,primary⟩
  | erased => exact modest i ⟨row,held,primary⟩
  | refused => exact modest i ⟨row,held,primary⟩

theorem outcome_calls (outcome : Outcome process c choice w after) : after.calls = w.calls := by
  cases outcome <;> rfl
/-- The call of the process, which has made no issuer a primary one yet. -/
def Modest (orgId : String) (process : Nat) (input : Input) (w : World) : Prop :=
  w.calls process = some input ∧ ∀ i, ¬Promotes w orgId process i
theorem modest_stable {input : Input} (modest : Modest orgId process input a) (relied : Undisturbed process a b)
    (sound : Sound orgId b) : Modest orgId process input b := by
  refine ⟨relied.1.1.trans modest.1,?_⟩
  rintro i ⟨row,held,primary⟩
  rcases relied.2 with gone | ⟨-,kept⟩
  · exact sound.closed process gone i row held
  · exact modest.2 i ⟨row,(kept.own i row).mp held,primary⟩
/-- The commands that ask nothing of their call. -/
def Silent : Cmd → Prop
  | .addOidcIssuerDetails _ _ | .clear _ _ | .otherPrimaryExists _ _ | .update _ _ | .commit => False
  | _ => True
theorem silent_side (silent : Silent c) : Side orgId process c w := by
  cases c <;> first | exact silent.elim | trivial
theorem outcome_safe {answer : Except Failure (Ret c)} (sound : Sound orgId w)
    (allowed : upToDate orgId process c choice w) (side : Side orgId process c w)
    (handled : handle process c choice w = some (after,answer)) :
    Sound orgId after ∧ ∀ other, other ≠ process → Undisturbed other w after :=
  ⟨outcome_sound sound allowed side (handle_outcome handled),fun _ different =>
    outcome_undisturbed (handle_outcome handled) different⟩

variable {β : Type}
theorem harmless_silent {p : Async β} (silent : Only Silent p) : Harmless sys (contract orgId) process p := by
  refine fun w => wp_each (P := fun _ => True) (fun _ _ _ _ _ => trivial) ?_ silent trivial
  intro c quiet before choice after answer sound _ allowed handled
  obtain ⟨kept,others⟩ := outcome_safe sound allowed (silent_side quiet) handled
  exact ⟨kept,others,trivial⟩
theorem wp_harmless {p : Async β} (silent : Only Silent p) :
    wp sys (contract orgId) process p (upon (fun _ _ => True) fun _ => True) w := by
  refine wp_mono ?_ (harmless_silent silent w)
  rintro (error | value) _ _ <;> trivial

variable {input : Input}
/-- A command that has what it asks for, and is not the update of the row itself, leaves
    the call modest. -/
theorem wp_modest {wanted : Except Failure (Ret c) → World → Prop} (plain : ∀ key flag, c ≠ .update key flag)
    (modest : Modest orgId process input w)
    (side : ∀ before, Undisturbed process w before → Modest orgId process input before → Side orgId process c before)
    (ends : ∀ before choice after answer, Undisturbed process w before → Sound orgId before → Modest orgId process input before →
      handle process c choice before = some (after,answer) → Modest orgId process input after → wanted answer after) :
    wp sys (contract orgId) process (perform c) wanted w := by
  apply wp_call
  intro before relied sound choice after answer allowed handled
  have now := modest_stable modest relied sound
  obtain ⟨kept,others⟩ := outcome_safe sound allowed (side before relied now) handled
  have outcome := handle_outcome handled
  exact ⟨kept,others,ends before choice after answer relied sound now handled
    ⟨(congrFun (outcome_calls outcome) process).trans now.1,outcome_modest outcome plain now.2⟩⟩
theorem wp_silent (silent : Silent c) (modest : Modest orgId process input w) :
    wp sys (contract orgId) process (perform c) (upon (fun _ => Modest orgId process input) fun _ => True) w := by
  refine wp_modest ?_ modest (fun _ _ _ => silent_side silent) ?_
  · rintro key flag rfl
    exact silent
  · rintro before choice after (error | value) - - - - now
    · trivial
    · exact now

theorem only_perform {condition : Cmd → Prop} (holds : condition c) : Only condition (perform c) :=
  (only_call c).mpr holds
theorem only_ask {condition : Cmd → Prop} {what : Elsewhere} (holds : condition (.elsewhere what)) :
    Only condition (ask what) :=
  only_perform holds

variable {isPrimary : Option Bool} {org : String}
/-- The rows that the call saw to be primary ones are left to be cleared, or its own
    transaction wrote them. -/
def Clearing (process : Nat) (rest : List Nat) (w : World) : Prop :=
  w.txn process = true → ∀ key ∈ w.looked process, key ∈ rest ∨ ∃ row, w.issuers.pending key = some (process,row)
theorem clearing_stable {rest : List Nat} (clearing : Clearing process rest a) (relied : Undisturbed process a b) :
    Clearing process rest b := by
  intro opened key looked
  rw [relied.1.2] at looked
  rcases relied.2 with gone | ⟨same,kept⟩
  · rw [gone] at opened
    cases opened
  rcases clearing (same ▸ opened) key looked with left | ⟨row,held⟩
  · exact .inl left
  · exact .inr ⟨row,(kept.own key row).mpr held⟩

theorem wp_selectPrimary (modest : Modest orgId process input w) :
    wp sys (contract orgId) process (perform (.selectPrimary org))
      (upon (fun rows w => Modest orgId process input w ∧ Clearing process rows w) fun _ => True) w := by
  refine wp_modest (by rintro _ _ ⟨⟩) modest (fun _ _ _ => trivial) ?_
  rintro before choice after (error | rows) - - - handled now
  · trivial
  refine ⟨now,fun opened key looked => ?_⟩
  have made : inTransaction (β := List Nat) process choice before
      (some (before.look process org,.ok (before.issuers.select process (primaryOf org)))) = some (after,.ok rows) :=
      handled
  unfold inTransaction at made
  split at made
  · cases made
    simp only [World.look,World.saw,Function.update_self] at looked
    obtain ⟨row,found,primary⟩ := mem_primaries.mp looked
    by_cases own : ∃ version, before.issuers.pending key = some (process,version)
    · exact .inr own
    · refine .inl (List.mem_filter.mpr ⟨before.issuers.listed key (.inl (by rw [found]; rfl)),?_⟩)
      rw [Table.seen_of_free fun version held => own ⟨version,held⟩,found]
      exact primary
  · cases made

theorem clearing_clear {rest : List Nat} {row : Nat} (clearing : Clearing process (row :: rest) w)
    (handled : handle process (.clear org row) choice w = some (after,.ok ())) : Clearing process rest after := by
  have made : inTransaction (β := Unit) process choice w (clearRow process w org row) = some (after,.ok ()) := handled
  unfold inTransaction clearRow at made
  split at made
  rotate_left
  · cases made
  rename_i runs
  split at made
  · cases made
  -- What is left of what it saw: the others, and the row if it is still a primary one.
  have saw : ∀ key ∈ (w.lookAt process org row).looked process, key ∈ w.looked process ∧
      (key ≠ row ∨ Primary w org key) := by
    intro key looked
    simp only [World.lookAt,World.saw,Function.update_self,List.mem_filter,Bool.or_eq_true,decide_eq_true_eq] at looked
    exact ⟨looked.1,looked.2.imp id fun primary => (Option.any_eq_true _ _).mp primary⟩
  have left : ∀ key ∈ w.looked process, key ≠ row → key ∈ rest ∨ ∃ version,
      w.issuers.pending key = some (process,version) := by
    intro key looked apart
    rcases clearing runs.2 key looked with left | held
    · exact .inl ((List.mem_cons.mp left).resolve_left apart)
    · exact .inr held
  cases found : (w.issuers.seen process row).filter (primaryOf org) with
  | none =>
    simp only [found] at made
    cases made
    intro opened key looked
    obtain ⟨before,other | ⟨version,there,primary⟩⟩ := saw key looked
    · exact left key before other
    by_cases apart : key = row
    · subst apart
      by_cases own : ∃ version, w.issuers.pending key = some (process,version)
      · exact .inr own
      · rw [Table.seen_of_free fun version held => own ⟨version,held⟩,there,Option.filter_some,if_pos primary] at found
        cases found
    · exact left key before apart
  | some version =>
    simp only [found] at made
    cases made
    intro opened key looked
    by_cases apart : key = row
    · exact .inr ⟨_,by rw [apart]; exact Function.update_self ..⟩
    · rcases left key (saw key looked).1 apart with there | ⟨version,held⟩
      · exact .inl there
      · exact .inr ⟨version,(Function.update_of_ne apart _ _).trans held⟩

theorem wp_clearAll {rows : List Nat} (modest : Modest orgId process (.update issuerId org (some true)) w)
    (clearing : Clearing process rows w) :
    wp sys (contract orgId) process (forEach (fun row => perform (.clear org row)) rows)
      (upon (fun _ w => Modest orgId process (.update issuerId org (some true)) w ∧ Clearing process [] w)
      fun _ => True) w := by
  refine wp_forEach
      (fun left w => Modest orgId process (.update issuerId org (some true)) w ∧ Clearing process left w) ?_
    ⟨modest,clearing⟩
  rintro row rest w ⟨modest,clearing⟩
  refine wp_modest (by rintro _ _ ⟨⟩) modest ?_ ?_
  · rintro before - now absent_
    simp [Absent,absent,now.1,Input.unflagged] at absent_
  · rintro before choice after (error | ⟨⟩) relied - - handled now
    · trivial
    · exact ⟨now,clearing_clear (clearing_stable clearing relied) handled⟩

/-- What is known before the update of the row itself. -/
def Ready (orgId : String) (process issuerId : Nat) (org : String) (isPrimary : Option Bool) (w : World) : Prop :=
  Modest orgId process (.update issuerId org isPrimary) w ∧ (isPrimary = some true → Clearing process [] w)

section

variable (modest : Modest orgId process (.update issuerId org isPrimary) w)
include modest
theorem wp_makeRoom :
    wp sys (contract orgId) process (makeRoom issuerId org isPrimary)
      (upon (fun _ => Ready orgId process issuerId org isPrimary) fun _ => True) w := by
  refine wp_seq _ (wp_silent trivial modest) fun found w modest => ?_
  refine wp_branches _ (fun _ => trivial) fun _ => wp_branches _ (fun wanted => ?_) fun wanted => ?_
  · subst wanted
    refine wp_seq _ (wp_selectPrimary modest) fun rows w cleared => ?_
    refine wp_mono ?_ (wp_clearAll cleared.1 cleared.2)
    rintro (error | ⟨⟩) w ended
    · trivial
    · exact ⟨ended.1,fun _ => ended.2⟩
  · refine wp_modest (by rintro _ _ ⟨⟩) modest ?_ ?_
    · rintro before - now absent_
      rcases isPrimary with - | flag
      · simp [now.1,Input.unflagged]
      · simp [Absent,absent,now.1,Input.unflagged] at absent_
    · rintro before choice after (error | ⟨⟩) - - - - now
      · trivial
      · exact ⟨now,fun made => absurd made wanted⟩

end

theorem wp_updateRow (ready : Ready orgId process issuerId org isPrimary w) :
    wp sys (contract orgId) process (perform (.update issuerId isPrimary))
      (upon (fun _ => Side orgId process .commit) fun _ => True) w := by
  apply wp_call
  intro before relied sound choice after answer allowed handled
  have now := modest_stable ready.1 relied sound
  have side : Side orgId process (.update issuerId isPrimary) before := by
    refine ⟨now.2,fun absent_ => ?_⟩
    rcases isPrimary with - | flag
    · rfl
    · simp [Absent,absent,now.1,Input.unflagged] at absent_
  obtain ⟨kept,others⟩ := outcome_safe (c := .update issuerId isPrimary) sound allowed side handled
  refine ⟨kept,others,?_⟩
  rcases answer with error | ⟨⟩
  · trivial
  rintro i ⟨row,held,primary⟩
  have made : inTransaction (β := Unit) process choice before (updateRow process before issuerId isPrimary) =
      some (after,.ok ()) := handled
  unfold inTransaction updateRow at made
  split at made
  rotate_left
  · cases made
  rename_i runs
  split at made
  · cases made
  cases found : before.issuers.seen process issuerId with
  | none => simp only [found] at made; cases made
  | some old =>
    simp only [found] at made
    cases made
    rcases Table.write_pending held with ⟨rfl,-,rfl⟩ | ⟨-,early⟩
    rotate_left
    · exact absurd ⟨row,early,primary⟩ (now.2 i)
    rcases isPrimary with - | flag
    · exact .inl (by simp [Absent,absent,writeRow,now.1,Input.unflagged])
    cases flag with
    | false => simp [primaryOf] at primary
    | true =>
      refine .inr ⟨by simp [writeRow,now.1,Input.promoted],fun key looked => ?_⟩
      rcases clearing_stable (ready.2 rfl) relied runs.2 key looked with ⟨⟨⟩⟩ | ⟨version,there⟩
      exact Table.write_keeps there

theorem side_commit_stable (side : Side orgId process .commit a) (relied : Undisturbed process a b)
    (sound : Sound orgId b) :
    Side orgId process .commit b := by
  rintro i ⟨row,held,primary⟩
  rcases relied.2 with gone | ⟨-,kept⟩
  · exact absurd held (sound.closed process gone i row)
  rcases side i ⟨row,(kept.own i row).mp held,primary⟩ with absent_ | ⟨call,wrote⟩
  · exact .inl (by simpa [Absent,absent,relied.1.1] using absent_)
  · refine .inr ⟨by rw [relied.1.1]; exact call,fun key looked => ?_⟩
    rw [relied.1.2] at looked
    obtain ⟨version,there⟩ := wrote key looked
    exact ⟨version,(kept.own key version).mpr there⟩
theorem wp_commit (side : Side orgId process .commit w) :
    wp sys (contract orgId) process (perform .commit) (upon (fun _ _ => True) fun _ => True) w := by
  apply wp_call
  intro before relied sound choice after answer allowed handled
  obtain ⟨kept,others⟩ := outcome_safe (c := .commit) sound allowed (side_commit_stable side relied sound) handled
  refine ⟨kept,others,?_⟩
  rcases answer with error | value <;> trivial

section

variable (modest : Modest orgId process (.update issuerId org isPrimary) w)
include modest
theorem wp_updateOidcIssuerDetails :
    wp sys (contract orgId) process (updateOidcIssuerDetails issuerId org isPrimary)
    (upon (fun _ _ => True) fun _ => True) w := by
  refine wp_seq _ (wp_silent trivial modest) fun _ w modest => ?_
  refine wp_seq (fun _ => Side orgId process .commit) ?_ fun _ w side => wp_seq _ (wp_commit side) fun _ _ _ => trivial
  refine (wp_tryCatch _ _ _ _).mpr (wp_mono ?_ (wp_seq _ (wp_makeRoom modest) fun _ w ready => wp_updateRow ready))
  rintro (error | ⟨⟩) w ended
  · exact wp_seq _ (wp_harmless (only_perform (c := .rollback) trivial)) fun _ _ _ => trivial
  · exact ended

theorem wp_oidcIssuerUpdate :
    wp sys (contract orgId) process (oidcIssuerUpdate issuerId org isPrimary)
    (upon (fun _ _ => True) fun _ => True) w := by
  refine wp_seq _ (wp_silent trivial modest) fun _ w modest => ?_
  refine wp_seq _ (wp_silent trivial modest) fun _ w modest => ?_
  refine wp_seq _ (wp_silent trivial modest) fun _ w modest => ?_
  refine wp_seq _ (wp_updateOidcIssuerDetails modest) fun _ w _ => ?_
  exact wp_harmless (only_bind (only_ask trivial) fun _ => only_ask trivial)

end

/-- What the creation stores follows what it saw. -/
def Blank (process : Nat) (hasPrimary : Bool) (w : World) : Prop := hasPrimary = false → w.looked process = []
theorem wp_blank {hasPrimary : Bool} {what : Elsewhere} (blank : Blank process hasPrimary w) :
    wp sys (contract orgId) process (ask what) (upon (fun _ => Blank process hasPrimary) fun _ => True) w := by
  apply wp_call
  intro before relied sound choice after answer allowed handled
  obtain ⟨kept,others⟩ := outcome_safe (c := .elsewhere what) sound allowed trivial handled
  refine ⟨kept,others,?_⟩
  cases handled
  rcases choice.fault <;> first | trivial | exact fun none_ => relied.1.2.trans (blank none_)
theorem wp_hasPrimaryIssuer (org : String) :
    wp sys (contract orgId) process (perform (.hasPrimaryIssuer org))
      (upon (fun hasPrimary : Bool => Blank process hasPrimary) fun _ => True) w := by
  apply wp_call
  intro before relied sound choice after answer allowed handled
  obtain ⟨kept,others⟩ := outcome_safe (c := .hasPrimaryIssuer org) sound allowed trivial handled
  refine ⟨kept,others,?_⟩
  rcases answer with error | hasPrimary
  · trivial
  intro none_
  have made : answered (β := Bool) choice (before.look process org)
      (before.issuers.keys.any fun key => (before.issuers.committed key).any (primaryOf org)) =
      some (after,.ok hasPrimary) := handled
  unfold answered at made
  split at made <;> cases made
  simp only [World.look,World.saw,Function.update_self,World.primaries,List.filter_eq_nil_iff]
  simpa only [List.any_eq_false] using none_
theorem wp_oidcIssuerCreate (org : String) :
    wp sys (contract orgId) process (oidcIssuerCreate org) (upon (fun _ _ => True) fun _ => True) w := by
  refine wp_seq _ (wp_harmless (only_ask trivial)) fun _ w _ => ?_
  refine wp_seq _ (wp_hasPrimaryIssuer org) fun hasPrimary w blank => ?_
  refine wp_seq _ (wp_blank blank) fun _ w blank => wp_seq _ (wp_blank blank) fun _ w blank => ?_
  apply wp_call
  intro before relied sound choice after answer allowed handled
  have side : Side orgId process (.addOidcIssuerDetails org !hasPrimary) before := by
    intro made
    exact relied.1.2.trans (blank (by simpa using made))
  obtain ⟨kept,others⟩ := outcome_safe (c := .addOidcIssuerDetails org !hasPrimary) sound allowed side handled
  refine ⟨kept,others,?_⟩
  rcases answer with error | value <;> trivial

theorem wp_program (modest : Modest orgId process input w) :
    wp sys (contract orgId) process (program process input) (fun _ _ => True) w := by
  have ended : ∀ (result : Except Failure Unit) (w : World), upon (fun _ _ => True) (fun _ => True) result w → True :=
    fun _ _ _ => trivial
  cases input with
  | create org => exact wp_mono ended (wp_oidcIssuerCreate org)
  | update issuerId org isPrimary => exact wp_mono ended (wp_oidcIssuerUpdate modest)
  | delete issuerId =>
    have asked : ∀ what, Only Silent (ask what) := fun _ => only_ask trivial
    refine harmless_silent ?_ w
    refine only_bind (only_perform trivial) fun _ => only_bind (asked _) fun _ => ?_
    refine only_bind (asked _) fun _ => only_bind (asked _) fun _ => only_bind (asked _) fun _ => ?_
    exact only_bind (asked _) fun _ => only_bind (only_perform trivial) fun _ => asked _

theorem keeps : Keeps sys (contract orgId) fun _ _ _ => True where
  reflexive _ _ := undisturbed_refl
  transitive _ _ _ _ := undisturbed_trans
  stable _ _ _ _ _ _ _ := trivial
  idles process a b idle relied _ := by
    rcases relied.2 with gone | ⟨same,-⟩
    · exact gone
    · exact same.trans idle
  arrives process input a b sound idle arrived := by
    obtain rfl := Option.some.inj arrived
    have none_ : ∀ key row, a.issuers.pending key ≠ some (process,row) := sound.closed process idle
    refine ⟨⟨sound.one,sound.single,sound.closed,?_,sound.refused⟩,?_,wp_program ⟨Function.update_self ..,?_⟩⟩
    · intro mine absent_ key row held
      have different : mine ≠ process := by
        rintro rfl
        exact none_ key row held
      simp only [Absent,absent,Function.update_of_ne different] at absent_
      exact sound.flags mine absent_ key row held
    · exact fun other different => ⟨⟨Function.update_of_ne different _ _,rfl⟩,.inr ⟨rfl,Table.kept_refl⟩⟩
    · rintro i ⟨row,held,-⟩
      exact none_ i row held
  moves event a b sound _ happened := by
    cases event with
    | abort process =>
      obtain rfl := Option.some.inj happened
      refine ⟨sound_rollback sound,fun mine => ⟨⟨rfl,rfl⟩,?_⟩⟩
      by_cases same : mine = process
      · subst same
        exact .inl (Function.update_self ..)
      · exact .inr ⟨Function.update_of_ne same _ _,Table.kept_rollback same⟩

end

/-- There is one primary issuer at most, and no update that leaves the flag out was
    refused for want of another. -/
def Good (orgId : String) (w : World) : Prop := OnePrimary orgId w ∧ w.refused = []
/-- An update that leaves the flag out leaves the flag of every row. -/
def FlagsKept (m : Machine Cmd Ret Failure Unit World) : Action Choice Input Env → Prop
  | .advance process choice => Absent m.world process → ∀ next, step sys m (.advance process choice) = some next →
      ∀ key row row', m.world.issuers.committed key = some row → next.world.issuers.committed key = some row' →
        row'.isPrimary = row.isPrimary
  | _ => True
/-- Nothing is going on, and there is one primary issuer at most. -/
structure Fresh (orgId : String) (w : World) : Prop where
  pending : ∀ key, w.issuers.pending key = none
  txn : ∀ process, w.txn process = false
  calls : ∀ process, w.calls process = none
  good : Good orgId w

section
variable {orgId : String} {m next t : Machine Cmd Ret Failure Unit World} {w : World}

theorem Fresh.safe (fresh : Fresh orgId w) : Safe sys (contract orgId) (fun _ _ _ => True) (Machine.initial w) := by
  have none_ : ∀ {process key row}, w.issuers.pending key ≠ some (process,row) := by
    intro process key row held
    cases (fresh.pending key).symm.trans held
  refine safe_initial ⟨fresh.good.1,?_,fun _ _ _ _ => none_,?_,fresh.good.2⟩ fresh.txn
  · rintro process i j ⟨row,held,-⟩
    exact absurd held none_
  · intro process absent_ key row held
    exact absurd held none_

theorem flags_kept {a : Action Choice Input Env} (sound : Sound orgId m.world) : FlagsKept m a := by
  cases a with
  | start process input => trivial
  | crash process => trivial
  | environment event => trivial
  | advance process choice =>
    intro absent_ next taken key row row' before after_
    obtain ⟨c,resume,after,answer,at_,handled,rfl⟩ := step_advance taken
    have same : ∀ {other : World}, other.issuers.committed = m.world.issuers.committed →
        other.issuers.committed key = some row' → row'.isPrimary = row.isPrimary := by
      intro other committed found
      rw [committed,before] at found
      exact congrArg Issuer.isPrimary (Option.some.inj found).symm
    cases handle_outcome handled with
    | same => exact same rfl after_
    | looked => exact same rfl after_
    | opened => exact same rfl after_
    | cleared => exact same rfl after_
    | updated => exact same rfl after_
    | rolledBack => exact same rfl after_
    | refused => exact same rfl after_
    | committed =>
      have found : m.world.issuers.seen process key = some row' := after_
      rw [seen_absent sound absent_] at found
      exact same rfl found
    | inserted _ _ fresh =>
      have apart : key ≠ choice.drawn := by
        rintro rfl
        exact fresh (m.world.issuers.listed _ (.inl (by rw [before]; rfl)))
      simp only [Table.insert,Function.update_of_ne apart] at after_
      cases before.symm.trans after_
      rfl
    | @erased erased free =>
      by_cases gone : key = erased
      · subst gone
        simp [Table.erase] at after_
      · simp only [Table.erase,Function.update_of_ne gone] at after_
        cases before.symm.trans after_
        rfl

end

def noIssuers : World := ⟨⟨fun _ => none,fun _ => none,[],by simp⟩,fun _ => false,fun _ => none,[],fun _ => []⟩
def soleIssuer : World :=
  ⟨⟨fun key => if key = 0 then some ⟨"acme",true⟩ else none,fun _ => none,[0],by simp⟩,fun _ => false,fun _ => none,
      [],fun _ => []⟩
theorem fresh_noIssuers : Fresh "acme" noIssuers := by
  refine ⟨fun _ => rfl,fun _ => rfl,fun _ => rfl,?_,rfl⟩
  rintro i j ⟨row,found,-⟩
  cases found
theorem fresh_soleIssuer : Fresh "acme" soleIssuer := by
  refine ⟨fun _ => rfl,fun _ => rfl,fun _ => rfl,?_,rfl⟩
  have only : ∀ i, Primary soleIssuer "acme" i → i = 0 := by
    rintro i ⟨row,found,-⟩
    by_contra other
    simp [soleIssuer,other] at found
  exact fun i j first second => (only i first).trans (only j second).symm

/-- The process takes a step, and a new row gets its own number. -/
def go (process : Nat) : Action Choice Input Env := .advance process ⟨.none,process⟩
/-- The second creation reads before the first one stores its row. -/
def twoCreations : List (Action Choice Input Env) :=
  [.start 0 (.create "acme"),.start 1 (.create "acme"),go 0,go 0,go 1,go 1,go 0,go 0,go 0,go 1,go 1,go 1]
/-- The sole issuer is updated, with no word on the flag. -/
def displayUpdate : List (Action Choice Input Env) := [.start 0 (.update 0 "acme" none),go 0,go 0,go 0,go 0,go 0,go 0]
/-- Two creations in turn; then the second issuer is made the primary one while another
    update of it leaves the flag out. -/
def overlapping : List (Action Choice Input Env) :=
  .start 0 (.create "acme") :: List.replicate 5 (go 0) ++ .start 1 (.create "acme") :: List.replicate 5 (go 1) ++
    .start 2 (.update 1 "acme" none) :: List.replicate 6 (go 2) ++ .start 3 (.update 1 "acme" (some true)) ::
    List.replicate 7 (go 3) ++ [go 2,go 2,go 3,go 3]
end Ngotag.PrimaryIssuer
