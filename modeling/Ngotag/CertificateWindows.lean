import Ngotag.Runs
import Mathlib

/-!
`X509CertificateService`: certificates of organisations and their statuses. A
certificate becomes active, or pending, only where no other one of its key type
with that status has a window that meets its own. So the windows of those that
are active are disjoint, and of those that are pending, and at every instant one
active certificate at most is current (`windows_disjoint`).
-/
namespace Ngotag.CertificateWindows
open Runs

theorem disjoint_of_apart {T : Type} [LinearOrder T] {a b c d : T} (apart : ¬(a ≤ d ∧ c ≤ b)) :
    Disjoint (Set.Icc a b) (Set.Icc c d) := by
  refine Set.disjoint_left.mpr fun now first second => apart ⟨?_,?_⟩
  · exact first.1.trans second.2
  · exact second.1.trans first.2
abbrev Time := Int
inductive x5cKeyType | ed25519 | p256
  deriving DecidableEq
inductive x5cRecordStatus | active | pendingActivation | inActive
  deriving DecidableEq

/-- A row of `x509_certificates`, with the organisation of its agent. -/
structure X509CertificateRecord where
  id : Nat
  orgId : String
  keyType : x5cKeyType
  status : x5cRecordStatus
  validFrom : Time
  expiry : Time
  keyId : Option String
  deriving DecidableEq

/-- What collisions are looked for. A date that is not given is not compared. -/
structure CertificateDateCheckDto where
  orgId : String
  validFrom : Option Time
  expiry : Option Time
  keyType : x5cKeyType
  status : x5cRecordStatus
  excludeCertificateId : Option Nat := none
def CertificateDateCheckDto.collides (dto : CertificateDateCheckDto) (row : X509CertificateRecord) : Bool :=
  row.status = dto.status && row.keyType = dto.keyType && row.orgId = dto.orgId &&
    dto.expiry.all (row.validFrom ≤ ·) && dto.validFrom.all (· ≤ row.expiry) &&
    dto.excludeCertificateId.all (row.id ≠ ·)
def hasDateCollision (rows : List X509CertificateRecord) (dto : CertificateDateCheckDto) : List X509CertificateRecord :=
  rows.filter dto.collides

inductive Failure
  /-- `ResponseMessages.x509.error.collision` -/
  | collision
  /-- `ResponseMessages.x509.error.collisionForActivatingX5c`, with the rows. -/
  | collisionForActivatingX5c (ids : List Nat)
  /-- `Certificate with ID … not found` -/
  | notFound
  /-- `ResponseMessages.x509.error.errorCreate` -/
  | errorCreate
  /-- `ResponseMessages.x509.error.errorDecode` -/
  | errorDecode
  /-- `ResponseMessages.x509.error.import` -/
  | invalidKeyType
  | invalidDate
  | other

def newStatus (rows : List X509CertificateRecord) (dto : CertificateDateCheckDto) : Except Failure x5cRecordStatus :=
  if hasDateCollision rows { dto with status := .active } = [] then .ok .active
  else if hasDateCollision rows { dto with status := .pendingActivation } = [] then .ok .pendingActivation
  else .error .collision
/-- `X509CertificateRepository.create`, which draws a new id. The dates are required. -/
def create (rows : List X509CertificateRecord) (dto : CertificateDateCheckDto) (status : x5cRecordStatus) (id : Nat)
    (keyId : Option String) : Except Failure (List X509CertificateRecord) :=
  match dto.validFrom, dto.expiry with
  | some validFrom, some expiry =>
    if rows.any fun row => row.id = id then .error .other
    else .ok (rows ++ [⟨id,dto.orgId,dto.keyType,status,validFrom,expiry,keyId⟩])
  | _, _ => .error .other
structure X509CreateCertificateOptions where
  keyType : x5cKeyType
  notBefore : Option Time
  notAfter : Option Time

/-- What the agent and the database answer a call: the agent's certificates, none where
    there is no answer, and the id of the new row. -/
structure Answers where
  /-- The curve of the decoded certificate, if it is a key type, and its dates, if they are valid. -/
  decoded : Option (Option x5cKeyType × Option Time × Option Time)
  /-- The key id of the certificate that was made or imported. -/
  certificate : Option (Option String)
  id : Nat
  /-- An exception of anything else. -/
  fails : Bool

/-- The certificate is stored once the agent made it. -/
def addCertificate (rows : List X509CertificateRecord) (dto : CertificateDateCheckDto) (answers : Answers) :
    Except Failure (List X509CertificateRecord) := do
  let certStatus ← newStatus rows dto
  match answers.certificate with
  | none => throw .errorCreate
  | some keyId => if answers.fails then throw .other else create rows dto certStatus answers.id keyId
def createCertificate (rows : List X509CertificateRecord) (orgId : String) (options : X509CreateCertificateOptions)
    (answers : Answers) : Except Failure (List X509CertificateRecord) :=
  addCertificate rows ⟨orgId,options.notBefore,options.notAfter,options.keyType,.active,none⟩ answers
def importCertificate (rows : List X509CertificateRecord) (orgId : String) (answers : Answers) :
    Except Failure (List X509CertificateRecord) :=
  match answers.decoded with
  | none => .error .errorDecode
  | some (none,_) => .error .invalidKeyType
  | some (some crv,some validFrom,some expiry) =>
    addCertificate rows ⟨orgId,some validFrom,some expiry,crv,.active,none⟩ answers
  | some (some _,_,_) => .error .invalidDate
def findById (rows : List X509CertificateRecord) (orgId : String) (id : Nat) : Option X509CertificateRecord :=
  rows.find? fun row => row.id = id && row.orgId = orgId
/-- `updateStatus`, by the id alone. -/
def updateStatus (rows : List X509CertificateRecord) (id : Nat) (status : x5cRecordStatus) :
    List X509CertificateRecord :=
  rows.map fun row => if row.id = id then { row with status := status } else row
def activateCertificate (rows : List X509CertificateRecord) (orgId : String) (id : Nat) (answers : Answers) :
    Except Failure (List X509CertificateRecord) :=
  match findById rows orgId id with
  | none => .error .notFound
  | some record =>
    let collisions :=
        hasDateCollision rows ⟨orgId,some record.validFrom,some record.expiry,record.keyType,.active,some id⟩
    if collisions ≠ [] then .error (.collisionForActivatingX5c (collisions.map X509CertificateRecord.id))
    else if answers.fails then .error .other
    else .ok (updateStatus rows id .active)

def deActivateCertificate (rows : List X509CertificateRecord) (orgId : String) (id : Nat) (answers : Answers) :
    Except Failure (List X509CertificateRecord) :=
  match findById rows orgId id with
  | none => .error .notFound
  | some _ => if answers.fails then .error .other else .ok (updateStatus rows id .inActive)
inductive Call
  | createCertificate (orgId : String) (options : X509CreateCertificateOptions) (answers : Answers)
  | importCertificate (orgId : String) (answers : Answers)
  | activateCertificate (orgId : String) (id : Nat) (answers : Answers)
  | deActivateCertificate (orgId : String) (id : Nat) (answers : Answers)
def Call.perform (rows : List X509CertificateRecord) : Call → Except Failure (List X509CertificateRecord)
  | .createCertificate orgId options answers => CertificateWindows.createCertificate rows orgId options answers
  | .importCertificate orgId answers => CertificateWindows.importCertificate rows orgId answers
  | .activateCertificate orgId id answers => CertificateWindows.activateCertificate rows orgId id answers
  | .deActivateCertificate orgId id answers => CertificateWindows.deActivateCertificate rows orgId id answers
def step (rows : List X509CertificateRecord) (call : Call) : Option (List X509CertificateRecord) :=
  match call.perform rows with
  | .ok after => some after
  | .error _ => some rows
/-- The window of a certificate does not end before it begins. -/
def Call.Proper : Call → Prop
  | .createCertificate _ options _ => ∀ first ∈ options.notBefore, ∀ last ∈ options.notAfter, first ≤ last
  | .importCertificate _ answers => ∀ crv first last, answers.decoded = some (crv,some first,some last) → first ≤ last
  | _ => True
/-- The statuses of which one window is to hold at a time. -/
def Exclusive (status : x5cRecordStatus) : Prop := status = .active ∨ status = .pendingActivation

/-- Two rows compete: their windows may not meet. -/
structure Compete (a b : X509CertificateRecord) : Prop where
  different : a.id ≠ b.id
  orgId : a.orgId = b.orgId
  keyType : a.keyType = b.keyType
  status : a.status = b.status
  exclusive : Exclusive a.status
/-- Competing certificates have windows apart. -/
structure Sound (rows : List X509CertificateRecord) : Prop where
  ids : (rows.map X509CertificateRecord.id).Nodup
  proper : ∀ a ∈ rows, a.validFrom ≤ a.expiry
  apart : ∀ a ∈ rows, ∀ b ∈ rows, Compete a b → ¬(a.validFrom ≤ b.expiry ∧ b.validFrom ≤ a.expiry)

section
variable {rows after : List X509CertificateRecord} {dto : CertificateDateCheckDto} {answers : Answers}
  {status : x5cRecordStatus} {orgId : String} {id : Nat}

theorem Compete.symm {a b : X509CertificateRecord} (compete : Compete a b) : Compete b a :=
  ⟨compete.different.symm,compete.orgId.symm,compete.keyType.symm,compete.status.symm,compete.status ▸ compete.exclusive⟩

theorem sound_add {row : X509CertificateRecord} (sound : Sound rows) (fresh : ∀ a ∈ rows, a.id ≠ row.id)
    (proper : row.validFrom ≤ row.expiry)
    (apart : ∀ a ∈ rows, Compete a row → ¬(a.validFrom ≤ row.expiry ∧ row.validFrom ≤ a.expiry)) :
    Sound (rows ++ [row]) := by
  refine ⟨?_,fun a there => ?_,fun a there b there' compete => ?_⟩
  · rw [List.map_append]
    refine List.nodup_append.mpr ⟨sound.ids,List.nodup_singleton _,fun first listed last listed' same => ?_⟩
    obtain ⟨a,there,rfl⟩ := List.mem_map.mp listed
    exact fresh a there (same.trans (List.mem_singleton.mp listed'))
  · rcases List.mem_append.mp there with before | now
    · exact sound.proper a before
    · exact List.mem_singleton.mp now ▸ proper
  · rcases List.mem_append.mp there with before | now
    · rcases List.mem_append.mp there' with before' | now'
      · exact sound.apart a before b before' compete
      · obtain rfl := List.mem_singleton.mp now'
        exact apart a before compete
    · obtain rfl := List.mem_singleton.mp now
      rcases List.mem_append.mp there' with before' | now'
      · intro meet
        exact apart b before' compete.symm ⟨meet.2,meet.1⟩
      · exact absurd (congrArg X509CertificateRecord.id (List.mem_singleton.mp now').symm) compete.different

theorem newStatus_ok (chosen : newStatus rows dto = .ok status) :
    Exclusive status ∧ hasDateCollision rows { dto with status := status } = [] := by
  unfold newStatus at chosen
  split at chosen
  · next none_ =>
    obtain rfl := Except.ok.inj chosen
    exact ⟨.inl rfl,none_⟩
  · split at chosen
    · next none_ =>
      obtain rfl := Except.ok.inj chosen
      exact ⟨.inr rfl,none_⟩
    · cases chosen

theorem sound_addCertificate (sound : Sound rows) (proper : ∀ first ∈ dto.validFrom, ∀ last ∈ dto.expiry, first ≤ last)
    (unexcluded : dto.excludeCertificateId = none) (added : addCertificate rows dto answers = .ok after) :
    Sound after := by
  unfold addCertificate at added
  cases chosen : newStatus rows dto with
  | error failure =>
    rw [chosen] at added
    cases added
  | ok status =>
    rw [chosen] at added
    obtain ⟨exclusive,none_⟩ := newStatus_ok chosen
    cases made : answers.certificate with
    | none =>
      simp only [made] at added
      cases added
    | some keyId =>
      simp only [made] at added
      change (if answers.fails = true then throw Failure.other else _) = _ at added
      split at added
      · cases added
      · unfold create at added
        cases from_ : dto.validFrom with
        | none => simp [from_] at added
        | some validFrom =>
          cases until_ : dto.expiry with
          | none => simp [from_,until_] at added
          | some expiry =>
            simp only [from_,until_] at added
            split at added
            · cases added
            · next fresh =>
              obtain rfl := Except.ok.inj added
              refine sound_add sound (fun a there same => ?_) (proper _ from_ _ until_) fun a there compete meet => ?_
              · exact fresh (List.any_eq_true.mpr ⟨a,there,decide_eq_true same⟩)
              · have free : ({ dto with status := status } : CertificateDateCheckDto).collides a = false := by
                  simpa using List.filter_eq_nil_iff.mp none_ a there
                have status_ : a.status = status := compete.status
                have keyType_ : a.keyType = dto.keyType := compete.keyType
                have org : a.orgId = dto.orgId := compete.orgId
                have collides : ({ dto with status := status } : CertificateDateCheckDto).collides a = true := by
                  simp [CertificateDateCheckDto.collides,status_,keyType_,org,from_,until_,unexcluded,meet.1,meet.2]
                exact absurd (collides.symm.trans free) (by decide)

theorem mem_updateStatus {row : X509CertificateRecord} (there : row ∈ updateStatus rows id status) :
    ∃ old ∈ rows, old.id = row.id ∧ old.orgId = row.orgId ∧ old.keyType = row.keyType ∧ old.validFrom = row.validFrom ∧
      old.expiry = row.expiry ∧ (row.id = id ∧ row.status = status ∨ row.id ≠ id ∧ row = old) := by
  obtain ⟨old,before,rfl⟩ := List.mem_map.mp there
  refine ⟨old,before,?_⟩
  by_cases same : old.id = id
  · simp [same]
  · simp [same]
theorem ids_updateStatus :
    (updateStatus rows id status).map X509CertificateRecord.id = rows.map X509CertificateRecord.id := by
  rw [updateStatus,List.map_map]
  refine List.map_congr_left fun row _ => ?_
  simp only [Function.comp_apply]
  split <;> rfl

theorem sound_updateStatus (sound : Sound rows)
    (apart : ∀ a ∈ rows, a.id = id → ∀ b ∈ rows, Compete { a with status := status } b →
      ¬(a.validFrom ≤ b.expiry ∧ b.validFrom ≤ a.expiry)) : Sound (updateStatus rows id status) := by
  refine ⟨ids_updateStatus.symm ▸ sound.ids,fun a there => ?_,fun a there b there' compete => ?_⟩
  · obtain ⟨old,before,-,-,-,first,last,-⟩ := mem_updateStatus there
    exact first ▸ last ▸ sound.proper old before
  · obtain ⟨old,before,id_,org,key,first,last,now⟩ := mem_updateStatus there
    obtain ⟨old',before',id',org',key',first',last',now'⟩ := mem_updateStatus there'
    rw [← first,← last,← first',← last']
    rcases now with ⟨same,status_⟩ | ⟨other,rfl⟩
    · rcases now' with ⟨same',-⟩ | ⟨other',rfl⟩
      · exact absurd (same.trans same'.symm) compete.different
      · refine apart old before (id_.trans same) b before' ⟨?_,?_,?_,?_,?_⟩
        · exact id_.symm ▸ compete.different
        · exact org.trans compete.orgId
        · exact key.trans compete.keyType
        · exact status_ ▸ compete.status
        · exact status_ ▸ compete.exclusive
    · rcases now' with ⟨same',status'⟩ | ⟨other',rfl⟩
      · intro meet
        refine apart old' before' (id'.trans same') a before ⟨?_,?_,?_,?_,?_⟩ ⟨meet.2,meet.1⟩
        · exact id'.symm ▸ compete.different.symm
        · exact org'.trans compete.orgId.symm
        · exact key'.trans compete.keyType.symm
        · exact status' ▸ compete.status.symm
        · exact status' ▸ compete.status ▸ compete.exclusive
      · exact sound.apart a before b before' compete

theorem sound_activate (sound : Sound rows) (ran : activateCertificate rows orgId id answers = .ok after) :
    Sound after := by
  unfold activateCertificate at ran
  cases found : findById rows orgId id with
  | none => simp [found] at ran
  | some record =>
    simp only [found] at ran
    split at ran
    · cases ran
    · next free =>
      split at ran
      · cases ran
      · obtain rfl := Except.ok.inj ran
        have there := List.mem_of_find?_eq_some found
        have named : record.id = id ∧ record.orgId = orgId := by simpa using List.find?_some found
        refine sound_updateStatus sound fun a there' same b there'' compete meet => ?_
        -- The row that is activated is the one that was found.
        obtain rfl : a = record := List.inj_on_of_nodup_map sound.ids there' there (same.trans named.1.symm)
        have status_ : b.status = .active := compete.status.symm
        have keyType_ : b.keyType = a.keyType := compete.keyType.symm
        have org : b.orgId = orgId := compete.orgId.symm.trans named.2
        have other : b.id ≠ id := fun same' => compete.different (same.trans same'.symm)
        have collides : b ∈ hasDateCollision rows ⟨orgId,some a.validFrom,some a.expiry,a.keyType,.active,some id⟩ := by
          refine List.mem_filter.mpr ⟨there'',?_⟩
          simp [CertificateDateCheckDto.collides,status_,keyType_,org,other,meet.1,meet.2]
        rw [not_not.mp free] at collides
        cases collides

theorem sound_deActivate (sound : Sound rows) (ran : deActivateCertificate rows orgId id answers = .ok after) :
    Sound after := by
  unfold deActivateCertificate at ran
  cases found : findById rows orgId id with
  | none => simp [found] at ran
  | some record =>
    simp only [found] at ran
    split at ran
    · cases ran
    · obtain rfl := Except.ok.inj ran
      refine sound_updateStatus sound fun a _ _ b _ compete => ?_
      rcases compete.exclusive with active | pending
      · cases active
      · cases pending

theorem sound_import (sound : Sound rows)
    (proper : ∀ crv first last, answers.decoded = some (crv,some first,some last) → first ≤ last)
    (ran : importCertificate rows orgId answers = .ok after) : Sound after := by
  unfold importCertificate at ran
  split at ran
  · cases ran
  · cases ran
  · next crv first last decoded =>
    refine sound_addCertificate sound ?_ rfl ran
    rintro _ ⟨⟩ _ ⟨⟩
    exact proper _ _ _ decoded
  · cases ran

/-- Every call keeps the windows apart, failures included. -/
theorem step_sound {call : Call} (sound : Sound rows) (proper : call.Proper) (taken : step rows call = some after) :
    Sound after := by
  unfold step at taken
  cases ran : call.perform rows with
  | error failure =>
    rw [ran] at taken
    exact Option.some.inj taken ▸ sound
  | ok next =>
    rw [ran] at taken
    obtain rfl := Option.some.inj taken
    cases call with
    | createCertificate orgId options answers =>
      exact @sound_addCertificate _ _ ⟨orgId,options.notBefore,options.notAfter,options.keyType,.active,none⟩ _ sound
          proper rfl ran
    | importCertificate orgId answers => exact sound_import sound proper ran
    | activateCertificate orgId id answers => exact sound_activate sound ran
    | deActivateCertificate orgId id answers => exact sound_deActivate sound ran

/-- No sequence of proper calls makes two competing windows overlap. -/
theorem run_sound {calls : List Call} (sound : Sound rows) (proper : ∀ call ∈ calls, call.Proper)
    (reached : run step rows calls = some after) : Sound after :=
  run_keeps_along (fun _ _ _ sound proper taken => step_sound sound proper taken) sound
    (along_of_forall fun _ call there => proper call there) reached
def current (orgId : String) (keyType : x5cKeyType) (now : Time) (row : X509CertificateRecord) : Bool :=
  row.orgId = orgId && row.keyType = keyType && row.status = .active && row.validFrom ≤ now && now ≤ row.expiry

/-- Competing certificates have disjoint windows, so one active certificate at most is
    current for each organisation and key type. -/
theorem windows_disjoint {calls : List Call} (proper : ∀ call ∈ calls, call.Proper)
    (reached : run step [] calls = some after) :
    (∀ a ∈ after, ∀ b ∈ after, Compete a b → Disjoint (Set.Icc a.validFrom a.expiry) (Set.Icc b.validFrom b.expiry)) ∧
      ∀ orgId keyType now, ∀ a ∈ after, ∀ b ∈ after,
        current orgId keyType now a = true → current orgId keyType now b = true → a = b := by
  have start : Sound [] := ⟨List.nodup_nil,fun _ there => (by cases there),fun _ there => (by cases there)⟩
  have sound := run_sound start proper reached
  refine ⟨fun a there b there' compete => disjoint_of_apart (sound.apart a there b there' compete),?_⟩
  intro orgId keyType now a there b there' first second
  simp only [current,Bool.and_eq_true,decide_eq_true_eq] at first second
  obtain ⟨⟨⟨⟨org,key⟩,active⟩,begun⟩,lasts⟩ := first
  obtain ⟨⟨⟨⟨org',key'⟩,active'⟩,begun'⟩,lasts'⟩ := second
  by_contra different
  have compete : Compete a b := by
    refine ⟨fun same => different ?_,org.trans org'.symm,key.trans key'.symm,active.trans active'.symm,.inl active⟩
    exact List.inj_on_of_nodup_map sound.ids there there' same
  exact sound.apart a there b there' compete ⟨begun.trans lasts',begun'.trans lasts⟩

end

def answer (id : Nat) : Answers := ⟨none,some none,id,false⟩
/-- A certificate is made, a second one that meets it waits, and takes its place. -/
def replaced : List Call :=
  [.createCertificate "org" ⟨.p256,some 0,some 10⟩ (answer 0),.createCertificate "org" ⟨.p256,some 10,some 20⟩ (answer 1),
    .activateCertificate "org" 1 (answer 1),.deActivateCertificate "org" 0
    (answer 0),.activateCertificate "org" 1 (answer 1)]
theorem proper_replaced : ∀ call ∈ replaced, call.Proper := by
  simp [replaced,Call.Proper]
theorem windows_disjoint_replaced : ∃ after, run step [] replaced = some after ∧
    after.map X509CertificateRecord.status = [.inActive,.active] ∧
    ∀ a ∈ after, ∀ b ∈ after, Compete a b → Disjoint (Set.Icc a.validFrom a.expiry) (Set.Icc b.validFrom b.expiry) :=
  ⟨_,rfl,rfl,(windows_disjoint proper_replaced rfl).1⟩

end Ngotag.CertificateWindows
