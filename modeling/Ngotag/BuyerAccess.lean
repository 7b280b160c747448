import Ngotag.Onboarding

/-!
Who may do what to a purchase. Every account link, organisation link, activation
and setup fee of a run is made by a call that checked its right to it: the log of
a world told what each call read and did, and `Sound` that whatever was done
follows from what the same call had read. The checks are as good as the rows they
read: what changes between the check and the write is not noticed
(`emails_changed_meanwhile`).
-/
namespace Ngotag.BuyerAccess
open Runs Await Marketplace Onboarding
open JsObject (truthy)

/-- The two are the same but for the case of their letters. -/
def SameEmail (cfg : Config) (email stored : Option String) : Prop :=
  ∃ a b, email = some a ∧ stored = some b ∧ cfg.toLowerCase a = cfg.toLowerCase b
/-- The email is the one of the purchaser or of the beneficiary. -/
def Buyer (cfg : Config) (row : Subscription) (email : Option String) : Prop :=
  SameEmail cfg email row.purchaserEmail ∨ SameEmail cfg email row.beneficiaryEmail

section
variable (cfg : Config) (calls : Nat → Option Input) (earlier : List Entry)

/-- The call was made by the linked user, for the linked organisation. -/
def MayActivate (process subscription orgId : Nat) : Prop :=
  ∃ message row, calls process = some (.activateSubscription message) ∧ message.orgId = orgId ∧
    .session process subscription row ∈ earlier ∧ row.localUserId = some message.userId ∧ row.orgId = some orgId

/-- What was done follows from what the call is and what it had read or created. -/
def Justified : Entry → Prop
  | .localUser process subscription userId =>
    ∃ message row, calls process = some (.linkAccount message) ∧ message.userId = userId ∧
      .session process subscription row ∈ earlier ∧ Buyer cfg row message.userEmail
  | .org process subscription orgId =>
    ∃ message row, calls process = some (.linkOrganization message) ∧ .session process subscription row ∈ earlier ∧
      row.localUserId = some message.userId ∧
      ((∃ users, .owners process orgId users ∈ earlier ∧ message.userId ∈ users) ∨
        .created process orgId message.userId ∈ earlier)
  | .activation process subscription status =>
    (∃ orgId, MayActivate calls earlier process subscription orgId) ∨
      -- The reconciliation completes an activation that somebody had begun.
      calls process = some .reconcileSubscriptions ∧ status = .activated ∧
        ∃ other, .activation other subscription .inProgress ∈ earlier
  | .activate process subscription => ∃ orgId, MayActivate calls earlier process subscription orgId
  | .accepted process subscription => ∃ orgId, MayActivate calls earlier process subscription orgId
  | .setupFee process subscription orgId => MayActivate calls earlier process subscription orgId
  | _ => True

/-- Everything in the log is justified by what comes before it. -/
def Sound : List Entry → Prop
  | [] => True
  | entry :: earlier => Justified cfg calls earlier entry ∧ Sound earlier
end

/-- Every link of a subscription to a user or an organisation was authorised when it was made. -/
structure Authorised (cfg : Config) (w : World) : Prop where
  sound : Sound cfg w.calls w.log
  /-- Who is linked was linked by a call of the log. -/
  localUser : ∀ s row userId, w.subscriptions.lookup s = some row → row.localUserId = some userId →
    ∃ process, .localUser process s userId ∈ w.log
  org : ∀ s row orgId, w.subscriptions.lookup s = some row → row.orgId = some orgId →
    ∃ process, .org process s orgId ∈ w.log
  activated : ∀ s row, w.subscriptions.lookup s = some row → row.activationStatus ≠ .notStarted →
    ∃ process, .activation process s row.activationStatus ∈ w.log
  fee : ∀ fee ∈ w.fees, ∃ process, .setupFee process fee.sourceId fee.orgId ∈ w.log
  once : (w.fees.map SetupFee.sourceId).Nodup
  /-- Of the subscriptions that are not cancelled one has the organisation. -/
  single : ∀ s s' row row' orgId, w.subscriptions.lookup s = some row → w.subscriptions.lookup s' = some row' →
    row.saasSubscriptionStatus ≠ .unsubscribed → row'.saasSubscriptionStatus ≠ .unsubscribed →
    row.orgId = some orgId → row'.orgId = some orgId → s = s'

/-- No row is deleted, so the index is about all of them. -/
structure Inv (cfg : Config) (w : World) : Prop extends Authorised cfg w where
  undeleted : ∀ s row, w.subscriptions.lookup s = some row → row.deletedAt = none

section
variable {cfg : Config} {calls calls' : Nat → Option Input} {earlier earlier' : List Entry}

theorem mayActivate_mono {process s orgId : Nat}
    (same : ∀ input, calls process = some input → calls' process = some input)
    (more : earlier ⊆ earlier') (may : MayActivate calls earlier process s orgId) :
    MayActivate calls' earlier' process s orgId := by
  obtain ⟨message,row,called,for_,read,linked,org⟩ := may
  exact ⟨message,row,same _ called,for_,more read,linked,org⟩

theorem justified_mono {e : Entry} (same : ∀ input, calls e.process = some input → calls' e.process = some input)
    (more : earlier ⊆ earlier') (justified : Justified cfg calls earlier e) :
    Justified cfg calls' earlier' e := by
  cases e with
  | localUser process s userId =>
    obtain ⟨message,row,called,user,read,buyer⟩ := justified
    exact ⟨message,row,same _ called,user,more read,buyer⟩
  | org process s orgId =>
    obtain ⟨message,row,called,read,linked,owned⟩ := justified
    refine ⟨message,row,same _ called,more read,linked,?_⟩
    rcases owned with ⟨users,asked,member⟩ | made
    · exact .inl ⟨users,more asked,member⟩
    · exact .inr (more made)
  | activation process s status =>
    rcases justified with ⟨orgId,may⟩ | ⟨hourly,done,other,begun⟩
    · exact .inl ⟨orgId,mayActivate_mono same more may⟩
    · exact .inr ⟨same _ hourly,done,other,more begun⟩
  | activate process s =>
    obtain ⟨orgId,may⟩ := justified
    exact ⟨orgId,mayActivate_mono same more may⟩
  | accepted process s =>
    obtain ⟨orgId,may⟩ := justified
    exact ⟨orgId,mayActivate_mono same more may⟩
  | setupFee process s orgId => exact mayActivate_mono same more justified
  | session process s row => trivial
  | owners process orgId users => trivial
  | created process orgId userId => trivial
  | subscriptionStatus process s status => trivial

theorem sound_mono {log : List Entry} (same : ∀ process input, calls process = some input → calls' process = some input)
    (sound : Sound cfg calls log) : Sound cfg calls' log := by
  induction log with
  | nil => trivial
  | cons entry earlier ih => exact ⟨justified_mono (same _) (List.Subset.refl _) sound.1,ih sound.2⟩

end
section
variable {cfg : Config} {w : World}

variable {l : List Entry}
theorem inv_stored {id : Nat} {row : Subscription} (inv : Inv cfg w)
    (sound : Sound cfg w.calls (l ++ w.log)) (free : collides w.subscriptions id row = false)
    (undeleted : row.deletedAt = none)
    (localUser : ∀ userId, row.localUserId = some userId → ∃ process, .localUser process id userId ∈ l ++ w.log)
    (org : ∀ orgId, row.orgId = some orgId → ∃ process, .org process id orgId ∈ l ++ w.log)
    (activated : row.activationStatus ≠ .notStarted →
      ∃ process, .activation process id row.activationStatus ∈ l ++ w.log) :
    Inv cfg { w with subscriptions := w.subscriptions.insert id row, log := l ++ w.log } := by
  -- A row of the table is the new one or one of before.
  have rows : ∀ s found, (w.subscriptions.insert id row).lookup s = some found →
      (s = id ∧ found = row) ∨ (s ≠ id ∧ w.subscriptions.lookup s = some found) := by
    intro s found at_
    by_cases same : s = id
    · subst same
      rw [AList.lookup_insert,Option.some.injEq] at at_
      exact .inl ⟨rfl,at_.symm⟩
    · rw [AList.lookup_insert_ne same] at at_
      exact .inr ⟨same,at_⟩
  have live : ∀ s found orgId, (w.subscriptions.insert id row).lookup s = some found →
      found.saasSubscriptionStatus ≠ .unsubscribed → found.orgId = some orgId → occupies orgId found = true := by
    intro s found orgId at_ current linked
    have here : found.deletedAt = none := by
      rcases rows s found at_ with ⟨-,rfl⟩ | ⟨-,old⟩
      · exact undeleted
      · exact inv.undeleted s found old
    simp [occupies,linked,here,current]
  refine ⟨⟨sound,?_,?_,?_,?_,inv.once,?_⟩,?_⟩
  · intro s found userId at_ linked
    rcases rows s found at_ with ⟨rfl,rfl⟩ | ⟨-,old⟩
    · exact localUser userId linked
    · obtain ⟨process,did⟩ := inv.localUser s found userId old linked
      exact ⟨process,List.mem_append_right _ did⟩
  · intro s found orgId at_ linked
    rcases rows s found at_ with ⟨rfl,rfl⟩ | ⟨-,old⟩
    · exact org orgId linked
    · obtain ⟨process,did⟩ := inv.org s found orgId old linked
      exact ⟨process,List.mem_append_right _ did⟩
  · intro s found at_ begun
    rcases rows s found at_ with ⟨rfl,rfl⟩ | ⟨-,old⟩
    · exact activated begun
    · obtain ⟨process,did⟩ := inv.activated s found old begun
      exact ⟨process,List.mem_append_right _ did⟩
  · intro fee member
    obtain ⟨process,did⟩ := inv.fee fee member
    exact ⟨process,List.mem_append_right _ did⟩
  · intro s s' found found' orgId at_ at_' current current' linked linked'
    have first := live s found orgId at_ current linked
    have second := live s' found' orgId at_' current' linked'
    rcases rows s found at_ with ⟨rfl,rfl⟩ | ⟨different,old⟩
    · rcases rows s' found' at_' with ⟨rfl,rfl⟩ | ⟨different',old'⟩
      · rfl
      · rw [collides_false free old' different' first] at second
        cases second
    · rcases rows s' found' at_' with ⟨rfl,rfl⟩ | ⟨different',old'⟩
      · rw [collides_false free old different second] at first
        cases first
      · exact inv.single s s' found found' orgId old old' current current' linked linked'
  · intro s found at_
    rcases rows s found at_ with ⟨-,rfl⟩ | ⟨-,old⟩
    · exact undeleted
    · exact inv.undeleted s found old

theorem inv_noted {after : World} (inv : Inv cfg w) (same : after.subscriptions = w.subscriptions)
    (fees : after.fees = w.fees) (calls : after.calls = w.calls) (log : after.log = l ++ w.log)
    (sound : Sound cfg w.calls (l ++ w.log)) : Inv cfg after := by
  have more : ∀ {entry}, entry ∈ w.log → entry ∈ after.log := by
    intro entry did
    rw [log]
    exact List.mem_append_right _ did
  refine ⟨⟨?_,?_,?_,?_,?_,?_,?_⟩,?_⟩
  · rw [calls,log]
    exact sound
  · intro s row userId at_ linked
    obtain ⟨process,did⟩ := inv.localUser s row userId (same ▸ at_) linked
    exact ⟨process,more did⟩
  · intro s row orgId at_ linked
    obtain ⟨process,did⟩ := inv.org s row orgId (same ▸ at_) linked
    exact ⟨process,more did⟩
  · intro s row at_ begun
    obtain ⟨process,did⟩ := inv.activated s row (same ▸ at_) begun
    exact ⟨process,more did⟩
  · intro fee member
    obtain ⟨process,did⟩ := inv.fee fee (fees ▸ member)
    exact ⟨process,more did⟩
  · rw [fees]
    exact inv.once
  · rw [same]
    exact inv.single
  · rw [same]
    exact inv.undeleted

theorem inv_billed {process subscription orgId : Nat} (inv : Inv cfg w)
    (justified : Justified cfg w.calls w.log (.setupFee process subscription orgId)) :
    Inv cfg (billed process subscription orgId w) := by
  have noted : Inv cfg { w with log := .setupFee process subscription orgId :: w.log } :=
    inv_noted (l := [.setupFee process subscription orgId]) inv rfl rfl rfl rfl ⟨justified,inv.sound⟩
  refine ⟨⟨noted.sound,noted.localUser,noted.org,noted.activated,?_,?_,noted.single⟩,noted.undeleted⟩
  · intro fee member
    change fee ∈ recordFee w.fees subscription orgId at member
    rw [recordFee] at member
    split at member
    · exact noted.fee fee member
    · rcases List.mem_cons.mp member with rfl | old
      · exact ⟨process,List.mem_cons_self⟩
      · exact noted.fee fee old
  · change ((recordFee w.fees subscription orgId).map SetupFee.sourceId).Nodup
    rw [recordFee]
    split
    · exact inv.once
    · rename_i absent
      refine List.nodup_cons.mpr ⟨?_,inv.once⟩
      intro member
      obtain ⟨fee,present,same⟩ := List.mem_map.mp member
      exact absent (List.any_eq_true.mpr ⟨fee,present,decide_eq_true same⟩)

def Permitted (cfg : Config) (process : Nat) (w : World) : Cmd → Prop
  | .linkUser subscription userId => Justified cfg w.calls w.log (.localUser process subscription userId)
  | .linkOrganization subscription orgId => Justified cfg w.calls w.log (.org process subscription orgId)
  | .setActivationStatus subscription status => Justified cfg w.calls w.log (.activation process subscription status)
  | .activate subscription _ => Justified cfg w.calls w.log (.activate process subscription)
  | .recordBillingUsageEvent subscription orgId => Justified cfg w.calls w.log (.setupFee process subscription orgId)
  | _ => True

theorem inv_replaced {id : Nat} {row row' : Subscription} (inv : Inv cfg w)
    (sound : Sound cfg w.calls (l ++ w.log)) (found : w.subscriptions.lookup id = some row)
    (free : collides w.subscriptions id row' = false) (deleted : row'.deletedAt = row.deletedAt)
    (localUser : row'.localUserId = row.localUserId ∨ ∀ userId, row'.localUserId = some userId →
      ∃ process, .localUser process id userId ∈ l)
    (org : row'.orgId = row.orgId ∨ ∀ orgId, row'.orgId = some orgId → ∃ process, .org process id orgId ∈ l)
    (activated : row'.activationStatus = row.activationStatus ∨
      ∃ process, .activation process id row'.activationStatus ∈ l) :
    Inv cfg { w with subscriptions := w.subscriptions.insert id row', log := l ++ w.log } := by
  refine inv_stored inv sound free (deleted.trans (inv.undeleted id row found)) ?_ ?_ ?_
  · intro userId linked
    rcases localUser with old | added
    · obtain ⟨process,did⟩ := inv.localUser id row userId found (old ▸ linked)
      exact ⟨process,List.mem_append_right _ did⟩
    · obtain ⟨process,did⟩ := added userId linked
      exact ⟨process,List.mem_append_left _ did⟩
  · intro orgId linked
    rcases org with old | added
    · obtain ⟨process,did⟩ := inv.org id row orgId found (old ▸ linked)
      exact ⟨process,List.mem_append_right _ did⟩
    · obtain ⟨process,did⟩ := added orgId linked
      exact ⟨process,List.mem_append_left _ did⟩
  · intro begun
    rcases activated with old | ⟨process,did⟩
    · rw [old] at begun ⊢
      obtain ⟨process,did⟩ := inv.activated id row found begun
      exact ⟨process,List.mem_append_right _ did⟩
    · exact ⟨process,List.mem_append_left _ did⟩

/-- What a command leaves: the invariant, the calls, and a longer log. -/
structure Kept (cfg : Config) (w after : World) : Prop where
  inv : Inv cfg after
  calls : after.calls = w.calls
  log : w.log <:+ after.log
theorem kept_self (inv : Inv cfg w) : Kept cfg w w := ⟨inv,rfl,List.suffix_refl _⟩

variable {choice : Choice} {after : World} {process : Nat}
theorem kept_reads {β : Type} {value : β} {answer : Except Failure β} (inv : Inv cfg w)
    (read : reads choice w value = some (after,answer)) : Kept cfg w after := by
  obtain ⟨rfl,-⟩ := reads_cases read
  exact kept_self inv
theorem kept_writes {β : Type} {target : World} {value : β} {answer : Except Failure β} (inv : Inv cfg w)
    (wrote : writes choice w target value = some (after,answer)) (kept : Kept cfg w target) : Kept cfg w after := by
  rcases writes_cases wrote with ⟨rfl,-⟩ | ⟨rfl,-⟩ | ⟨rfl,-⟩
  · exact kept
  · exact kept
  · exact kept_self inv

theorem kept_updates {id : Nat} {change : Subscription → Subscription}
    {answer : Except Failure Unit} (inv : Inv cfg w)
    (updated : updates choice w id change l = some (after,answer)) (sound : Sound cfg w.calls (l ++ w.log))
    (deleted : ∀ row, (change row).deletedAt = row.deletedAt)
    (localUser : ∀ row, (change row).localUserId = row.localUserId ∨
      ∀ userId, (change row).localUserId = some userId → ∃ process, .localUser process id userId ∈ l)
    (org : ∀ row, (change row).orgId = row.orgId ∨
      ∀ orgId, (change row).orgId = some orgId → ∃ process, .org process id orgId ∈ l)
    (activated : ∀ row, (change row).activationStatus = row.activationStatus ∨
      ∃ process, .activation process id (change row).activationStatus ∈ l) : Kept cfg w after := by
  rcases updates_cases updated with rfl | ⟨row,found,free,rfl⟩
  · exact kept_self inv
  · exact ⟨inv_replaced inv sound found free (deleted row) (localUser row) (org row) (activated row),rfl,
      List.suffix_append _ _⟩

theorem kept_refreshed {resolved : Resolved} {row : Subscription} {answer : Except Failure Subscription}
    (inv : Inv cfg w) (found : w.subscriptions.lookup resolved.id = some row)
    (stored : stores choice w resolved.id (refreshed resolved row) [] (refreshed resolved row) = some (after,answer)) :
    Kept cfg w after := by
  rcases stores_cases stored with rfl | ⟨free,rfl⟩
  · exact kept_self inv
  · exact ⟨inv_replaced (l := []) inv inv.sound found free rfl (.inl rfl) (.inl rfl) (.inl rfl),rfl,
      List.suffix_refl _⟩

theorem handle_kept {c : Cmd} {answer : Except Failure (Ret c)} (inv : Inv cfg w) (permitted : Permitted cfg process w c)
    (handled : handle process c choice w = some (after,answer)) : Kept cfg w after := by
  cases c with
  | now => cases handled; exact kept_self inv
  | getOnboardingSession sessionId =>
    simp only [handle] at handled
    split at handled
    · cases handled
      rw [noteSession]
      split
      · exact kept_self inv
      · exact ⟨inv_noted (l := [_]) inv rfl rfl rfl rfl ⟨trivial,inv.sound⟩,rfl,List.suffix_cons _ _⟩
    · cases handled; exact kept_self inv
  | updateOnboardingSession sessionId status metadata =>
    simp only [handle] at handled
    split at handled
    · cases handled; exact kept_self inv
    · exact kept_writes (β := Unit) inv handled
        ⟨inv_noted (l := []) inv rfl rfl rfl rfl inv.sound,rfl,List.suffix_refl _⟩
  | findOnboardingSession subscription => exact kept_reads (β := Option Nat) inv handled
  | insertOnboardingSession subscription =>
    simp only [handle] at handled
    split at handled
    · exact kept_writes (β := Nat) inv handled
        ⟨inv_noted (l := []) inv rfl rfl rfl rfl inv.sound,rfl,List.suffix_refl _⟩
    · cases handled
  | linkUser subscription userId =>
    refine kept_updates inv handled ⟨permitted,inv.sound⟩ (fun _ => rfl) (fun _ => .inr ?_) (fun _ => .inl rfl)
      (fun _ => .inl rfl)
    rintro _ ⟨⟩
    exact ⟨process,List.mem_cons_self⟩
  | linkOrganization subscription orgId =>
    refine kept_updates inv handled ⟨permitted,inv.sound⟩ (fun _ => rfl) (fun _ => .inl rfl) (fun _ => .inr ?_)
      (fun _ => .inl rfl)
    rintro _ ⟨⟩
    exact ⟨process,List.mem_cons_self⟩
  | setActivationStatus subscription status =>
    exact kept_updates inv handled ⟨permitted,inv.sound⟩ (fun _ => rfl) (fun _ => .inl rfl) (fun _ => .inl rfl)
      (fun _ => .inr ⟨process,List.mem_cons_self⟩)
  | setSubscriptionStatus subscription status =>
    exact kept_updates inv handled ⟨trivial,inv.sound⟩ (fun _ => rfl) (fun _ => .inl rfl) (fun _ => .inl rfl)
      (fun _ => .inl rfl)
  | setSubscriptionPlanId subscription planId =>
    exact kept_updates inv handled inv.sound (fun _ => rfl) (fun _ => .inl rfl) (fun _ => .inl rfl)
      (fun _ => .inl rfl)
  | recordBillingUsageEvent subscription orgId =>
    exact kept_writes (β := Unit) inv handled ⟨inv_billed inv permitted,rfl,List.suffix_cons _ _⟩
  | getActiveSubscriptionByOrgId orgId exceptSubscriptionId =>
    exact kept_reads (β := Option (Nat × Subscription)) inv handled
  | getSubscriptionByMarketplaceId subscription => exact kept_reads (β := Option Subscription) inv handled
  | upsertResolvedSubscription resolved =>
    simp only [handle] at handled
    cases found : w.subscriptions.lookup resolved.id with
    | some row =>
      rw [found] at handled
      exact kept_refreshed inv found handled
    | none =>
      rw [found] at handled
      rcases stores_cases (β := Subscription) handled with rfl | ⟨free,rfl⟩
      · exact kept_self inv
      · refine ⟨inv_stored (l := []) inv inv.sound free rfl ?_ ?_ ?_,rfl,List.suffix_refl _⟩
        · rintro _ ⟨⟩
        · rintro _ ⟨⟩
        · intro begun
          exact absurd rfl begun
  | updateSubscriptionFromMicrosoft resolved =>
    simp only [handle] at handled
    cases found : w.subscriptions.lookup resolved.id with
    | some row =>
      rw [found] at handled
      exact kept_refreshed inv found handled
    | none =>
      rw [found] at handled
      cases handled
      exact kept_self inv
  | createWebhookEvent payload => exact kept_reads (β := Unit) inv handled
  | updateWebhookEvent processed => exact kept_reads (β := Unit) inv handled
  | upsertOperation payload => exact kept_reads (β := Unit) inv handled
  | updateOperationAckStatus operationId => exact kept_reads (β := Unit) inv handled
  | validateAuthorization =>
    simp only [handle] at handled
    split at handled <;> cases handled <;> exact kept_self inv
  | getOrganizationOwner orgId =>
    simp only [handle] at handled
    split at handled
    · cases handled; exact kept_self inv
    · split at handled
      · cases handled
        exact ⟨inv_noted (l := [_]) inv rfl rfl rfl rfl ⟨trivial,inv.sound⟩,rfl,List.suffix_cons _ _⟩
      · cases handled; exact kept_self inv
  | createOrganization name userId =>
    simp only [handle] at handled
    split at handled
    · exact kept_writes (β := Nat) inv handled
        ⟨inv_noted (l := [.created process choice.drawn userId]) inv rfl rfl rfl rfl ⟨trivial,inv.sound⟩,rfl,
          List.suffix_cons _ _⟩
    · cases handled
  | resolve token =>
    obtain ⟨resolved,-,read⟩ := Option.bind_eq_some_iff.mp handled
    exact kept_reads (β := Resolved) inv read
  | activate subscription planId =>
    simp only [handle] at handled
    split at handled
    · cases handled
      refine ⟨inv_noted (l := [_,_]) inv rfl rfl rfl rfl ⟨?_,permitted,inv.sound⟩,rfl,List.suffix_append [_,_] _⟩
      exact justified_mono (e := .accepted process subscription) (fun _ called => called) (List.subset_cons_self _ _)
        permitted
    · cases handled
      exact ⟨inv_noted (l := [_]) inv rfl rfl rfl rfl ⟨permitted,inv.sound⟩,rfl,List.suffix_cons _ _⟩
  | getSubscription subscription =>
    obtain ⟨resolved,-,read⟩ := Option.bind_eq_some_iff.mp handled
    exact kept_reads (β := Resolved) inv read
  | listSubscriptions => exact kept_reads (β := List Resolved) inv handled
  | getOperation subscription operationId => exact kept_reads (β := Unit) inv handled
  | patchOperation subscription operationId planId quantity => exact kept_reads (β := Unit) inv handled

/-- What the log of the world tells of an answer. -/
def Answered (process : Nat) (w : World) : (c : Cmd) → Ret c → Prop
  | .getOnboardingSession _,answer => ∀ session : Session × Subscription,
      answer.1 = some session → .session process session.1.subscription session.2 ∈ w.log
  | .getOrganizationOwner orgId,users => .owners process orgId users ∈ w.log
  | .createOrganization _ userId,orgId => .created process orgId userId ∈ w.log
  | .getSubscriptionByMarketplaceId subscription,found => ∀ row : Subscription,
      found = some row → row.activationStatus = .inProgress → ∃ other, .activation other subscription .inProgress ∈ w.log
  | _,_ => True

theorem handle_answered {c : Cmd} {value : Ret c} (inv : Inv cfg w)
    (handled : handle process c choice w = some (after,.ok value)) :
    Answered process after c value := by
  cases c with
  | getOnboardingSession sessionId =>
    simp only [handle] at handled
    split at handled
    · cases handled
      intro session found
      change sessionRow w sessionId = some session at found
      rw [noteSession,found]
      exact List.mem_cons_self
    · cases handled
  | getOrganizationOwner orgId =>
    simp only [handle] at handled
    split at handled
    · cases handled
    · split at handled
      · cases handled; exact List.mem_cons_self
      · cases handled
  | createOrganization name userId =>
    simp only [handle] at handled
    split at handled
    · rcases writes_cases (β := Nat) handled with ⟨rfl,-,same⟩ | ⟨-,-,failed⟩ | ⟨-,-,-,failed⟩
      · cases same; exact List.mem_cons_self
      · cases failed
      · cases failed
    · cases handled
  | getSubscriptionByMarketplaceId subscription =>
    obtain ⟨rfl,⟨-,answer⟩ | ⟨-,_,failed⟩⟩ := reads_cases (β := Option Subscription) handled
    · cases answer
      intro row found begun
      rw [← begun]
      exact inv.activated subscription row found (by rw [begun]; decide)
    · cases failed
  | _ => trivial

end

def contract (cfg : Config) : Contract Cmd World Choice Env where
  inv := Inv cfg
  rely process a b := a.log <:+ b.log ∧ b.calls process = a.calls process
  idle process w := w.calls process = none
  allowed _ _ _ _ := True
  happens _ _ := True

section
variable {cfg : Config} {process : Nat} {w : World}

/-- A condition that stays when more is put into the log. -/
def Lasting (process : Nat) (holds : World → Prop) : Prop :=
  ∀ a b, holds a → a.log <:+ b.log → b.calls process = a.calls process → holds b

variable {holds : World → Prop}
theorem wp_permitted {c : Cmd} (lasting : Lasting process holds) (now : holds w)
    (permitted : ∀ w, holds w → Permitted cfg process w c) :
    wp (sys cfg) (contract cfg) process (perform c)
      (upon (fun value w => holds w ∧ Answered process w c value) fun _ => True) w := by
  apply wp_call
  intro before relied inv choice after answer _ handled
  have held := lasting w before now relied.1 relied.2
  have kept := handle_kept inv (permitted before held) handled
  refine ⟨kept.inv,fun other _ => ⟨kept.log,congrFun kept.calls other⟩,?_⟩
  cases answer with
  | error error => trivial
  | ok value => exact ⟨lasting before after held kept.log (congrFun kept.calls process),handle_answered inv handled⟩

/-- What lasts and permits all commands of a program still holds after it. -/
theorem wp_lasting {β : Type} {p : Async β} {P : World → Prop} (lasting : Lasting process P) (now : P w)
    (only : Only (fun c => ∀ w, P w → Permitted cfg process w c) p) :
    wp (sys cfg) (contract cfg) process p (fun _ => P) w := by
  refine wp_each (P := P) ?_ ?_ only now
  · intro a b held relied _
    exact lasting a b held relied.1 relied.2
  · intro c permitted before choice after answer inv held _ handled
    have kept := handle_kept inv (permitted before held) handled
    exact ⟨kept.inv,fun other _ => ⟨kept.log,congrFun kept.calls other⟩,
      lasting before after held kept.log (congrFun kept.calls process)⟩
theorem wp_all {β : Type} {p : Async β} {P : World → Prop} (lasting : Lasting process P) (now : P w)
    (only : Only (fun c => ∀ w, P w → Permitted cfg process w c) p) :
    wp (sys cfg) (contract cfg) process p (upon (fun _ _ => True) fun _ => True) w :=
  wp_mono (by rintro (_ | _) _ _ <;> trivial) (wp_lasting lasting now only)
theorem lasting_call {i : Input} : Lasting process fun w => w.calls process = some i := by
  intro a b called _ same
  rw [same,called]
theorem lasting_and {holds also : World → Prop} (first : Lasting process holds) (second : Lasting process also) :
    Lasting process fun w => holds w ∧ also w :=
  fun a b both more same => ⟨first a b both.1 more same,second a b both.2 more same⟩
theorem lasting_mem {e : Entry} : Lasting process fun w => e ∈ w.log :=
  fun _ _ did more _ => more.subset did
theorem lasting_justified {entry : Entry} (own : entry.process = process) :
    Lasting process fun w => Justified cfg w.calls w.log entry := by
  intro a b justified more same
  refine justified_mono ?_ more.subset justified
  intro input called
  rw [own] at called ⊢
  rw [same,called]

theorem wp_session {sessionId : Nat} (lasting : Lasting process holds) (now : holds w) :
    wp (sys cfg) (contract cfg) process (getValidSession sessionId)
      (upon (fun session w => holds w ∧ .session process session.1.subscription session.2 ∈ w.log) fun _ => True) w := by
  refine wp_seq _ (wp_permitted lasting now fun _ _ => trivial) ?_
  rintro ⟨found,time⟩ w' ⟨held,read⟩
  cases found with
  | none => trivial
  | some session =>
    dsimp only
    split
    · trivial
    · exact ⟨held,read session rfl⟩

theorem buyer_of_expected {row : Subscription} {email : Option String} (some_ : cfg.toLowerCase (email.getD "") ≠ "")
    (expected : cfg.toLowerCase (email.getD "") ∈ expectedEmails cfg row) : Buyer cfg row email := by
  have present : ∀ value : Option String, cfg.toLowerCase (value.getD "") ≠ "" → ∃ text, value = some text := by
    intro value differs
    cases value with
    | none => exact absurd cfg.toLowerCase_empty differs
    | some text => exact ⟨text,rfl⟩
  have same : ∀ stored : Option String, cfg.toLowerCase (email.getD "") = cfg.toLowerCase (stored.getD "") →
      SameEmail cfg email stored := by
    intro stored equal
    obtain ⟨a,rfl⟩ := present email some_
    obtain ⟨b,rfl⟩ := present stored (equal ▸ some_)
    exact ⟨a,b,rfl,rfl,equal⟩
  rcases List.mem_cons.mp (List.mem_filter.mp expected).1 with purchaser | other
  · exact .inl (same _ purchaser)
  · exact .inr (same _ (List.mem_singleton.mp other))

theorem wp_linkAccount {message : LinkAccount} (called : w.calls process = some (.linkAccount message)) :
    wp (sys cfg) (contract cfg) process (linkAccount cfg message) (upon (fun _ _ => True) fun _ => True) w := by
  refine wp_seq _ (wp_session lasting_call called) ?_
  rintro session w' ⟨called,read⟩
  dsimp only
  split
  · trivial
  rename_i checked
  split
  · trivial
  rename_i expected
  have buyer := buyer_of_expected (not_or.mp checked).2 (not_not.mp expected)
  refine wp_all (P := fun w => Justified cfg w.calls w.log (.localUser process session.1.subscription message.userId))
    (lasting_justified rfl) ⟨message,session.2,called,rfl,read,buyer⟩ ?_
  exact only_bind ((only_call _).mpr fun _ justified => justified) fun _ =>
    only_bind ((only_call _).mpr fun _ _ => trivial) fun _ => trivial

theorem wp_assertLinked (session : Session × Subscription) (userId : Nat) (w : World) :
    wp (sys cfg) (contract cfg) process (assertSessionAccountLinkedTo session userId)
      (upon (fun _ same => same = w ∧ session.2.localUserId = some userId) fun _ => True) w := by
  rw [assertSessionAccountLinkedTo]
  split
  · rename_i linked
    exact ⟨rfl,linked⟩
  · trivial

theorem wp_assertOwns {userId orgId : Nat} (lasting : Lasting process holds) (now : holds w) :
    wp (sys cfg) (contract cfg) process (assertUserOwnsOrganization userId orgId)
      (upon (fun _ w => holds w ∧ ∃ users, .owners process orgId users ∈ w.log ∧ userId ∈ users) fun _ => True) w := by
  refine wp_seq (fun (users : List Nat) w => holds w ∧ .owners process orgId users ∈ w.log) ?_ ?_
  · refine (wp_tryCatch _ _ _ _).mpr
      (wp_mono ?_ (wp_permitted (c := .getOrganizationOwner orgId) lasting now fun _ _ => trivial))
    rintro (error | users) w' ended
    · trivial
    · exact ended
  · rintro users w' ⟨held,asked⟩
    split
    · rename_i member
      exact ⟨held,users,asked,member⟩
    · trivial

theorem wp_linkAndReply {sessionId subscription orgId : Nat}
    (may : Justified cfg w.calls w.log (.org process subscription orgId)) :
    wp (sys cfg) (contract cfg) process (linkAndReply sessionId subscription orgId)
      (upon (fun _ _ => True) fun _ => True) w := by
  refine wp_all (lasting_justified rfl) may ?_
  refine only_bind (only_tryCatch ((only_call _).mpr fun _ justified => justified) fun _ => trivial) fun _ => ?_
  exact only_bind ((only_call _).mpr fun _ _ => trivial) fun _ => trivial

theorem wp_linkOrganization {message : LinkOrganization} (called : w.calls process = some (.linkOrganization message)) :
    wp (sys cfg) (contract cfg) process (linkOrganization message) (upon (fun _ _ => True) fun _ => True) w := by
  refine wp_seq _ (wp_session lasting_call called) ?_
  rintro session w' now
  refine wp_seq _ (wp_assertLinked session message.userId w') ?_
  rintro ⟨⟩ w' ⟨rfl,linked⟩
  have lasting : Lasting process fun w => w.calls process = some (.linkOrganization message) ∧
      .session process session.1.subscription session.2 ∈ w.log := lasting_and lasting_call lasting_mem
  cases mode : message.mode with
  | linkExisting =>
    dsimp only
    rw [linkExisting]
    cases given : message.orgId with
    | none => trivial
    | some orgId =>
      refine wp_seq _ (wp_assertOwns lasting now) ?_
      rintro ⟨⟩ w' ⟨⟨called,read⟩,owned⟩
      have may : Justified cfg w'.calls w'.log (.org process session.1.subscription orgId) :=
        ⟨message,session.2,called,read,linked,.inl owned⟩
      refine wp_seq _ (wp_permitted (lasting_justified rfl) may fun _ _ => trivial) ?_
      rintro active w' ⟨may,-⟩
      cases active with
      | some other => trivial
      | none => exact wp_linkAndReply may
  | create =>
    dsimp only
    rw [linkCreated]
    cases given : truthy message.name with
    | none => trivial
    | some name =>
      refine wp_seq _ (wp_permitted lasting now fun _ _ => trivial) ?_
      rintro orgId w' ⟨⟨called,read⟩,made⟩
      exact wp_linkAndReply ⟨message,session.2,called,read,linked,.inr made⟩

theorem wp_activateSubscription {message : Activate} (called : w.calls process = some (.activateSubscription message)) :
    wp (sys cfg) (contract cfg) process (activateSubscription cfg message) (upon (fun _ _ => True) fun _ => True) w := by
  refine wp_seq _ (wp_session lasting_call called) ?_
  rintro session w' ⟨called,read⟩
  refine wp_seq _ (wp_assertLinked session message.userId w') ?_
  rintro ⟨⟩ w' ⟨rfl,linked⟩
  dsimp only
  split
  · trivial
  rename_i org
  have may : Justified cfg w'.calls w'.log (.setupFee process session.1.subscription message.orgId) :=
    ⟨message,session.2,called,rfl,read,linked,not_not.mp org⟩
  have step {c : Cmd}
      (allowed : ∀ w, Justified cfg w.calls w.log (.setupFee process session.1.subscription message.orgId) →
      Permitted cfg process w c) : Only (fun c => ∀ w,
        Justified cfg w.calls w.log (.setupFee process session.1.subscription message.orgId) → Permitted cfg process w c)
      (perform c) := (only_call c).mpr allowed
  have record : Only (fun c => ∀ w,
      Justified cfg w.calls w.log (.setupFee process session.1.subscription message.orgId) → Permitted cfg process w c)
      (recordActivation message.sessionId session.1.subscription message.orgId) :=
    only_bind (step fun _ may => .inl ⟨_,may⟩) fun _ => only_bind (step fun _ _ => trivial) fun _ =>
        step fun _ may => may
  split
  · refine wp_all (lasting_justified rfl) may (only_bind record fun _ => trivial)
  · refine wp_all (lasting_justified rfl) may (only_bind (step fun _ may => .inl ⟨_,may⟩) fun _ => ?_)
    refine only_tryCatch ?_ fun error => ?_
    · rw [tryActivation]
      split
      · exact only_bind (step fun _ _ => trivial) fun _ => only_bind record fun _ => trivial
      · refine only_bind (step fun _ may => ⟨_,may⟩) fun _ => only_bind record fun _ => only_bind ?_ fun _ => trivial
        exact only_tryCatch
            (only_bind (step fun _ _ => trivial) fun _ => only_bind (step fun _ _ => trivial) fun _ => trivial)
          fun _ => trivial
    · exact only_bind (step fun _ may => .inl ⟨_,may⟩) fun _ => only_bind (step fun _ _ => trivial) fun _ => trivial

/-- Commands that every call may perform. -/
def Free : Cmd → Prop
  | .linkUser _ _ => False
  | .linkOrganization _ _ => False
  | .setActivationStatus _ _ => False
  | .activate _ _ => False
  | .recordBillingUsageEvent _ _ => False
  | _ => True

theorem permitted_free {c : Cmd} (free : Free c) : Permitted cfg process w c := by
  cases c with
  | linkUser => exact free.elim
  | linkOrganization => exact free.elim
  | setActivationStatus => exact free.elim
  | activate => exact free.elim
  | recordBillingUsageEvent => exact free.elim
  | _ => trivial
theorem wp_free {β : Type} {p : Async β} (free : Only Free p) :
    wp (sys cfg) (contract cfg) process p (upon (fun _ _ => True) fun _ => True) w :=
  wp_all (P := fun _ => True) (fun _ _ _ _ _ => trivial) trivial
    (only_mono (fun _ free _ _ => permitted_free free) free)
theorem only_perform {condition : Cmd → Prop} {c : Cmd} (holds : condition c) : Only condition (perform c) :=
  (only_call c).mpr holds
theorem resolveSubscription_free (token : String) : Only Free (resolveSubscription cfg token) := by
  refine only_bind ?_ fun marketplaceToken => only_bind ?_ fun resolved => only_bind (only_perform trivial) fun row =>
    only_bind (only_bind (only_perform trivial) fun active => ?_) fun _ => trivial
  · rw [decodeMarketplaceToken]
    split <;> trivial
  · exact only_ite _ (only_bind (only_perform trivial) fun _ => trivial) (only_perform trivial)
  · cases active with
    | some sessionId => trivial
    | none => exact only_perform trivial
theorem refreshFromMicrosoft_free (subscription : Nat) : Only Free (refreshFromMicrosoft subscription) :=
  only_bind (only_perform trivial) fun _ => only_bind (only_perform trivial) fun _ => trivial

theorem acknowledge_free (payload : WebhookPayload) : Only Free (acknowledge payload) := by
  refine only_bind ?_ fun _ => ?_
  · rw [patchOperationIfNeeded]
    split
    · trivial
    · refine only_tryCatch (only_perform trivial) fun error => ?_
      rw [patchFailed]
      split <;> trivial
  · split
    · trivial
    · exact only_perform trivial

theorem applyWebhookAction_free (payload : WebhookPayload) : Only Free (applyWebhookAction payload) := by
  refine only_bind ?_ fun _ => ?_
  · rw [noteOperation]
    split
    · trivial
    · exact only_bind (only_perform trivial) fun _ => only_ite _ (only_perform trivial) trivial
  · rw [applyAction]
    cases payload.action with
    | changePlan =>
      cases truthy payload.planId with
      | none => trivial
      | some planId =>
        exact only_bind (refreshFromMicrosoft_free _) fun _ => only_bind (only_perform trivial) fun _ =>
          acknowledge_free payload
    | changeQuantity => exact only_bind (refreshFromMicrosoft_free _) fun _ => acknowledge_free payload
    | renew => exact refreshFromMicrosoft_free _
    | reinstate => exact only_bind (refreshFromMicrosoft_free _) fun _ => acknowledge_free payload
    | suspend => exact only_perform trivial
    | unsubscribe => exact only_perform trivial

theorem processWebhook_free (payload : WebhookPayload) : Only Free (processWebhook cfg payload) := by
  refine only_bind (only_perform trivial) fun _ => ?_
  split
  · trivial
  · refine only_bind (only_perform trivial) fun found => only_bind (only_perform trivial) fun _ => ?_
    cases found with
    | none => exact only_bind (only_perform trivial) fun _ => trivial
    | some row =>
      refine only_tryCatch ?_ fun error => only_bind (only_perform trivial) fun _ => trivial
      exact only_bind (applyWebhookAction_free payload) fun _ => only_bind (only_perform trivial) fun _ => trivial

/-- A promotion follows an activation that was begun when the row was read. -/
theorem wp_reconcileOne {resolved : Resolved} (called : w.calls process = some .reconcileSubscriptions) :
    wp (sys cfg) (contract cfg) process (reconcile resolved)
      (upon (fun _ w => w.calls process = some .reconcileSubscriptions) fun _ => True) w := by
  refine wp_seq _ (wp_permitted lasting_call called fun _ _ => trivial) ?_
  intro existing w' held
  have lasting : Lasting process fun w => w.calls process = some .reconcileSubscriptions ∧
      ∀ row, existing = some row → row.activationStatus = .inProgress →
        ∃ other, .activation other resolved.id .inProgress ∈ w.log := by
    refine lasting_and lasting_call fun a b begun more _ row found active => ?_
    obtain ⟨other,did⟩ := begun row found active
    exact ⟨other,more.subset did⟩
  refine wp_mono ?_ (wp_lasting lasting held ?_)
  · rintro (error | _) a ended
    · trivial
    · exact ended.1
  cases existing with
  | none => exact only_bind (only_perform fun _ _ => trivial) fun _ => trivial
  | some row =>
    refine only_bind (only_perform fun _ _ => trivial) fun updated => ?_
    exact only_branches _
      (fun promotes => only_perform fun _ held => .inr ⟨held.1,rfl,held.2 row rfl promotes.2⟩) fun _ => trivial

theorem wp_reconcile (called : w.calls process = some .reconcileSubscriptions) :
    wp (sys cfg) (contract cfg) process (reconcileSubscriptions cfg) (upon (fun _ _ => True) fun _ => True) w := by
  rw [reconcileSubscriptions]
  split
  · refine wp_seq _ (wp_permitted lasting_call called fun _ _ => trivial) fun listed a held => ?_
    exact wp_seq _ (wp_forEach (fun _ w => w.calls process = some .reconcileSubscriptions)
      (fun resolved rest w called => wp_reconcileOne called) held.1) fun _ _ _ => trivial
  · trivial

theorem wp_program {input : Input} (called : w.calls process = some input) :
    wp (sys cfg) (contract cfg) process (program cfg input) (fun _ _ => True) w := by
  refine wp_mono (fun _ _ _ => trivial) (Q := upon (fun _ _ => True) fun _ => True) ?_
  cases input with
  | resolveSubscription token => exact wp_free (resolveSubscription_free token)
  | linkAccount message => exact wp_linkAccount called
  | linkOrganization message => exact wp_linkOrganization called
  | activateSubscription message => exact wp_activateSubscription called
  | refreshSubscription subscription =>
    exact wp_free (only_bind (only_perform trivial) fun _ => only_bind (only_perform trivial) fun _ => trivial)
  | processWebhook payload => exact wp_free (processWebhook_free payload)
  | reconcileSubscriptions => exact wp_reconcile called

end

theorem keeps (cfg : Config) : Keeps (sys cfg) (contract cfg) fun _ _ _ => True where
  reflexive _ _ := ⟨List.suffix_refl _,rfl⟩
  transitive _ _ _ _ first second := ⟨first.1.trans second.1,second.2.trans first.2⟩
  stable _ _ _ _ _ _ _ := trivial
  idles _ _ _ idle relied _ := relied.2.trans idle
  arrives process input a b inv idle arrived := by
    cases arrived
    -- The process had not called before, so no justification rests on its call.
    have same : ∀ other known, a.calls other = some known →
        Function.update a.calls process (some input) other = some known := by
      intro other known called
      by_cases own : other = process
      · subst own
        have unknown : a.calls other = none := idle
        rw [unknown] at called
        cases called
      · rw [Function.update_of_ne own,called]
    refine ⟨⟨⟨sound_mono same inv.sound,inv.localUser,inv.org,inv.activated,inv.fee,inv.once,inv.single⟩,inv.undeleted⟩,
      ?_,wp_program (Function.update_self ..)⟩
    intro other different
    exact ⟨List.suffix_refl _,Function.update_of_ne different ..⟩
  moves event a b inv _ moved := by
    cases event with
    | clock time =>
      simp only [sys] at moved
      split at moved
      · cases moved
        exact ⟨inv_noted (l := []) inv rfl rfl rfl rfl inv.sound,fun _ => ⟨List.suffix_refl _,rfl⟩⟩
      · cases moved
    | owners orgId users =>
      cases moved
      exact ⟨inv_noted (l := []) inv rfl rfl rfl rfl inv.sound,fun _ => ⟨List.suffix_refl _,rfl⟩⟩

def start (organisations : AList fun _ : Nat => List Nat) (now : Nat) : World :=
  ⟨∅,∅,[],organisations,now,fun _ => none,[]⟩
theorem inv_start (cfg : Config) (organisations : AList fun _ : Nat => List Nat) (now : Nat) :
    Inv cfg (start organisations now) := by
  refine ⟨⟨trivial,?_,?_,?_,?_,List.nodup_nil,?_⟩,?_⟩
  · rintro s row userId ⟨⟩
  · rintro s row orgId ⟨⟩
  · rintro s row ⟨⟩
  · rintro fee ⟨⟩
  · rintro s s' row row' orgId ⟨⟩
  · rintro s row ⟨⟩
/-- The first part of `linkAccount`: the check and the link. -/
def bindAccount (cfg : Config) (sessionId userId : Nat) (userEmail : Option String) : Async Unit := do
  let session ← getValidSession sessionId
  if expectedEmails cfg session.2 = [] ∨ cfg.toLowerCase (userEmail.getD "") = "" then throw .identityUnverified
  else if cfg.toLowerCase (userEmail.getD "") ∉ expectedEmails cfg session.2 then throw .emailMismatch
  else perform (.linkUser session.1.subscription userId)
/-- The second part: what the payload told is kept with the session. -/
def noteAccount (message : LinkAccount) : Async Reply := do
  perform (.updateOnboardingSession message.sessionId .accountLinked (some (accountMetadata message)))
  pure (.accountLinked message.userId .createOrganization)

theorem linkAccount_eq (cfg : Config) (message : LinkAccount) :
    linkAccount cfg message =
      bindAccount cfg message.sessionId message.userId message.userEmail >>= fun _ => noteAccount message := by
  rw [bindAccount,seq_assoc,linkAccount]
  congr 1
  funext session
  have second := seq_ite (cfg.toLowerCase (message.userEmail.getD "") ∉ expectedEmails cfg session.2)
    (throw .emailMismatch) (perform (.linkUser session.1.subscription message.userId) : Async Unit)
    fun _ => noteAccount message
  refine Eq.trans ?_ (seq_ite _ _ _ _).symm
  exact if_congr Iff.rfl rfl second.symm

/-- The payload of `linkAccount` has no part in the check and the link. -/
structure PayloadUnread (cfg : Config) (message : LinkAccount) : Prop where
  after : linkAccount cfg message =
    bindAccount cfg message.sessionId message.userId message.userEmail >>= fun _ => noteAccount message
  linked : Only (fun c => ∀ subscription userId, c ≠ .linkUser subscription userId) (noteAccount message)
theorem payload_unread (cfg : Config) (message : LinkAccount) : PayloadUnread cfg message := by
  refine ⟨linkAccount_eq cfg message,only_bind (only_perform ?_) fun _ => trivial⟩
  rintro _ _ ⟨⟩
theorem considered (cfg : Config) {m : Machine Cmd Ret Failure Reply World} (actions : List (Action Choice Input Env)) :
    Along (step (sys cfg)) (Considered (contract cfg)) m actions := by
  refine along_of_forall ?_
  rintro s (_ | _ | _ | _) _
  · trivial
  · exact fun _ _ _ => trivial
  · trivial
  · trivial
/-- Whatever the calls, in whatever order their steps are taken and wherever they
    fail: what is linked, activated and billed was so by a call that had checked its
    right to it, a subscription is billed its setup fee once, and subscriptions that
    are not cancelled have different organisations. -/
theorem onboarding_authorised (cfg : Config) (organisations : AList fun _ : Nat => List Nat) (now : Nat)
    {actions : List (Action Choice Input Env)} {m : Machine Cmd Ret Failure Reply World}
    (reached : run (step (sys cfg)) (Machine.initial (start organisations now)) actions = some m) :
    Authorised cfg m.world ∧ ∀ message, PayloadUnread cfg message := by
  have safe := run_safe (keeps cfg) (safe_initial (inv_start cfg organisations now) fun _ => rfl)
    (considered cfg actions) reached
  exact ⟨safe.inv.toAuthorised,payload_unread cfg⟩

def lowerCase (text : String) : String := String.ofList (text.toList.map Char.toLower)
def service : Config := ⟨false,some "phenix-id-platform",none,true,lowerCase,by decide +kernel,some,String.length⟩
def answered : Choice := ⟨.none,0,5,[]⟩
def told (resolved : Resolved) : Choice := ⟨.none,0,5,[resolved]⟩
def purchase (status : SubscriptionStatus) (email : String) : Resolved :=
  ⟨1,"phenix-id-platform","business",status,none,none,none,some email,none⟩
/-- The call is made and its commands are carried out one after another. -/
def made (process : Nat) (input : Input) (choices : List Choice) : List (Action Choice Input Env) :=
  .start process input :: choices.map (.advance process)
def bought : List (Action Choice Input Env) :=
  made 0 (.resolveSubscription "token")
    [told (purchase .pendingFulfillmentStart "ann@example.com"),answered,answered,answered]
def annLinks : Input := .linkAccount ⟨5,.existingUser,some "eve@example.com",none,none,3,some "Ann@Example.com"⟩
def onboarded : List (Action Choice Input Env) :=
  bought ++ made 1 annLinks [answered,answered,answered] ++
    made 2 (.linkOrganization ⟨5,.create,none,some "Acme",3⟩) [answered,answered,answered,answered] ++
    made 3 (.activateSubscription ⟨5,5,3⟩) [answered,answered,answered,answered,answered,answered,
      told (purchase .subscribed "ann@example.com"),answered]

/-- A purchase that is resolved, linked and activated. -/
theorem onboarding_authorised_acme :
    ∃ m row, run (step (sys service)) (Machine.initial (start ∅ 1000)) onboarded = some m ∧
      m.world.subscriptions.lookup 1 = some row ∧
      (row.localUserId,row.orgId,row.activationStatus) = (some 3,some 5,.activated) ∧ Authorised service m.world := by
  have runs : ((run (step (sys service)) (Machine.initial (start ∅ 1000)) onboarded).map fun m =>
      m.world.subscriptions.lookup 1) = some (some ⟨"phenix-id-platform","business",.subscribed,none,none,none,
        some "ann@example.com",none,some 3,some 5,.activated,1000,none⟩) := by decide +kernel
  obtain ⟨m,reached,found⟩ := Option.map_eq_some_iff.mp runs
  exact ⟨m,_,reached,found,rfl,(onboarding_authorised service ∅ 1000 reached).1⟩

/-- Who is linked by a step of the process is the buyer by the emails that are
    stored then. -/
def LinkedAsStored (cfg : Config) (process : Nat) (before after : World) : Prop :=
  ∀ s row row' userId, before.subscriptions.lookup s = some row → after.subscriptions.lookup s = some row' →
    row'.localUserId = some userId → row.localUserId ≠ some userId →
    ∃ message, after.calls process = some (.linkAccount message) ∧ message.userId = userId ∧
      Buyer cfg row message.userEmail
/-- The call has read the session when the purchase is resolved again. -/
def resolvedAgain : List (Action Choice Input Env) :=
  bought ++ made 1 annLinks [answered] ++
    made 2 (.resolveSubscription "token") [told (purchase .pendingFulfillmentStart "bob@example.com"),answered]

/-- The emails can change between the check and the link. -/
theorem emails_changed_meanwhile : ¬∀ (cfg : Config) (organisations : AList fun _ : Nat => List Nat) (now : Nat)
    (actions : List (Action Choice Input Env)) (m next : Machine Cmd Ret Failure Reply World) (process : Nat)
    (choice : Choice), run (step (sys cfg)) (Machine.initial (start organisations now)) actions = some m →
    step (sys cfg) m (.advance process choice) = some next → LinkedAsStored cfg process m.world next.world := by
  intro always
  have runs : ((run (step (sys service)) (Machine.initial (start ∅ 1000)) resolvedAgain).bind fun m =>
      (step (sys service) m (.advance 1 answered)).map fun next =>
        (m.world.subscriptions.lookup 1,(next.world.subscriptions.lookup 1).map Subscription.localUserId,
          next.world.calls 1)) =
      some (some (created (purchase .pendingFulfillmentStart "bob@example.com") 1000),some (some 3),some annLinks) := by
    decide +kernel
  obtain ⟨m,reached,stepped⟩ := Option.bind_eq_some_iff.mp runs
  obtain ⟨next,taken,facts⟩ := Option.map_eq_some_iff.mp stepped
  rw [Prod.mk.injEq,Prod.mk.injEq] at facts
  obtain ⟨before,linked,call⟩ := facts
  obtain ⟨row,after,user⟩ := Option.map_eq_some_iff.mp linked
  obtain ⟨message,called,-,buyer⟩ := always service ∅ 1000 resolvedAgain m next 1 answered reached taken 1 _ row 3 before
    after user (by rintro ⟨⟩)
  rw [call,annLinks] at called
  cases called
  rcases buyer with ⟨_,_,⟨⟩,⟨⟩,equal⟩ | ⟨_,_,_,⟨⟩,_⟩
  exact absurd equal (by decide +kernel)

end Ngotag.BuyerAccess
