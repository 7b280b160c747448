import Ngotag.Sessions

/-!
A deleted session stays deleted. Its row is stored once only, by the sign-in to which
Keycloak gave its id; a refresh writes to a row that is there before it returns tokens;
and a request looks the session up before anything else. So once the row is gone it is
never stored again, no refresh returns tokens that had not written them to the row, and no
request that comes later is let in with it (`logout_final`). A refresh that had written
them may still return them (`refreshed_after_signout`).
-/
namespace Ngotag.LogoutFinal
open Runs Await Sessions

/-- The rows have different ids, which are recorded, and no row has the id of a deleted
    one. An id of Keycloak is of one call. -/
structure Sound (w : World) : Prop where
  named : ∀ id ∈ w.stored, id ≠ ""
  known : ∀ row ∈ w.sessions, row.id ∈ w.stored
  keyed : (w.sessions.map Session.id).Nodup
  dead : ∀ id ∈ w.deleted, id ∈ w.stored
  gone : ∀ id ∈ w.deleted, ∀ row ∈ w.sessions, row.id ≠ id
  once : ∀ p q sid, (p,sid) ∈ w.drawn → (q,sid) ∈ w.drawn → p = q
/-- The id that Keycloak gave the call was never stored. -/
def Unstored (process : Nat) (sid : String) (w : World) : Prop := (process,sid) ∈ w.drawn ∧ sid ∉ w.stored
/-- A session that is not stored for a call does not come back. -/
def Undisturbed (process : Nat) (a b : World) : Prop := ∀ sid, Unstored process sid a → Unstored process sid b

section
variable {svc : Services} {process other : Nat} {c : Cmd svc} {choice : Choice svc} {w after : World}

theorem sound_same (sound : Sound w) (sessions : after.sessions = w.sessions) (drawn : after.drawn = w.drawn)
    (stored : after.stored = w.stored) (deleted : after.deleted = w.deleted) : Sound after where
  named := by rw [stored]; exact sound.named
  known := by rw [sessions,stored]; exact sound.known
  keyed := by rw [sessions]; exact sound.keyed
  dead := by rw [deleted,stored]; exact sound.dead
  gone := by rw [sessions,deleted]; exact sound.gone
  once := by rw [drawn]; exact sound.once
theorem sound_observed {limit : Nat} (sound : Sound w) : Sound (w.observed limit) := sound_same sound rfl rfl rfl rfl

theorem sound_drop (sound : Sound w) (gone : Session → Bool) : Sound (w.drop gone) where
  named := sound.named
  known row there := sound.known row (List.mem_of_mem_filter there)
  keyed := List.Nodup.sublist (List.filter_sublist.map _) sound.keyed
  dead := by
    intro id there
    rcases List.mem_append.mp there with new | old
    · obtain ⟨row,dropped,rfl⟩ := List.mem_map.mp new
      exact sound.known row (List.mem_of_mem_filter dropped)
    · exact sound.dead id old
  gone := by
    intro id there row kept same
    obtain ⟨stays,left⟩ := List.mem_filter.mp kept
    rcases List.mem_append.mp there with new | old
    · obtain ⟨row',dropped,rfl⟩ := List.mem_map.mp new
      obtain ⟨stood,goes⟩ := List.mem_filter.mp dropped
      obtain rfl := List.inj_on_of_nodup_map sound.keyed stays stood same
      simp [goes] at left
    · exact sound.gone id old row stays same
  once := sound.once

theorem replaced_id (id : String) (tokens : TokenResponse) (expiresAt : Nat) (row : Session) :
    (replaced id tokens expiresAt row).id = row.id := by
  unfold replaced
  split <;> rfl
theorem ids_updated (refreshToken id : String) (tokens : TokenResponse) (expiresAt : Nat) :
    (w.updated refreshToken id tokens expiresAt).sessions.map Session.id = w.sessions.map Session.id := by
  simp only [World.updated,List.map_map]
  exact List.map_congr_left fun row _ => replaced_id id tokens expiresAt row

theorem sound_updated (sound : Sound w) (refreshToken id : String) (tokens : TokenResponse) (expiresAt : Nat) :
    Sound (w.updated refreshToken id tokens expiresAt) where
  named := sound.named
  known := by
    intro row there
    obtain ⟨before,stood,rfl⟩ := List.mem_map.mp there
    rw [replaced_id]
    exact sound.known before stood
  keyed := by
    rw [ids_updated]
    exact sound.keyed
  dead := sound.dead
  gone := by
    intro id' there row here
    obtain ⟨before,stood,rfl⟩ := List.mem_map.mp here
    rw [replaced_id]
    exact sound.gone id' there before stood
  once := sound.once

theorem sound_drawn {sid : String} (sound : Sound w) (undrawn : sid ∉ w.drawn.map Prod.snd) :
    Sound { w with drawn := (process,sid) :: w.drawn } where
  named := sound.named
  known := sound.known
  keyed := sound.keyed
  dead := sound.dead
  gone := sound.gone
  once := by
    intro p q sid' first second
    have new : ∀ {r}, (r,sid) ∈ w.drawn → False := fun there => undrawn (List.mem_map.mpr ⟨_,there,rfl⟩)
    rcases List.mem_cons.mp first with same | first
    · cases same
      rcases List.mem_cons.mp second with same | second
      · cases same
        rfl
      · exact (new second).elim
    · rcases List.mem_cons.mp second with same | second
      · cases same
        exact (new first).elim
      · exact sound.once p q sid' first second

theorem sound_inserted {row : Session} (sound : Sound w) (unstored : row.id ∉ w.stored) (named : row.id ≠ "") :
    Sound (w.inserted row) where
  named := by
    intro id there
    rcases List.mem_cons.mp there with rfl | old
    · exact named
    · exact sound.named id old
  known := by
    intro row' there
    rcases List.mem_cons.mp there with rfl | old
    · exact List.mem_cons_self
    · exact List.mem_cons_of_mem _ (sound.known row' old)
  keyed := by
    refine List.nodup_cons.mpr ⟨?_,sound.keyed⟩
    intro there
    obtain ⟨row',stood,same⟩ := List.mem_map.mp there
    exact unstored (same ▸ sound.known row' stood)
  dead id there := List.mem_cons_of_mem _ (sound.dead id there)
  gone := by
    intro id there row' here
    rcases List.mem_cons.mp here with rfl | old
    · rintro rfl
      exact unstored (sound.dead _ there)
    · exact sound.gone id there row' old
  once := sound.once

theorem effect_calm (other : Nat) (sound : Sound w) (effect : Effect process w c after)
    (noRow : ∀ row, c ≠ .createSession row) :
    Sound after ∧ Undisturbed other w after := by
  cases effect with
  | nothing => exact ⟨sound,fun _ mine => mine⟩
  | begun userId => exact ⟨sound_same sound rfl rfl rfl rfl,fun _ mine => mine⟩
  | counted userId => exact ⟨sound_same sound rfl rfl rfl rfl,fun _ mine => mine⟩
  | dropped caller gone =>
    exact ⟨sound_same (sound_drop sound gone) rfl rfl rfl rfl,fun _ mine => mine⟩
  | replaced state there => exact ⟨sound_updated sound _ _ _ _,fun _ mine => mine⟩
  | drawn unstored undrawn =>
    exact ⟨sound_drawn sound undrawn,fun _ mine => ⟨List.mem_cons_of_mem _ mine.1,mine.2⟩⟩
  | inserted absent => exact absurd rfl (noRow _)

theorem inserted_calm {row : Session} (sound : Sound w) (mine : Unstored process row.id w) (apart : other ≠ process) :
    Undisturbed other w (w.inserted row) := by
  rintro sid ⟨drawn,unstored⟩
  refine ⟨drawn,fun there => ?_⟩
  rcases List.mem_cons.mp there with rfl | old
  · exact apart (sound.once _ _ _ drawn mine.1)
  · exact unstored old

variable (svc) in
def contract : Contract (Cmd svc) World (Choice svc) Env where
  inv := Sound
  rely := Undisturbed
  idle _ _ := True
  allowed _ _ _ _ := True
  happens _ _ := True

variable {served : Input → Bool}
theorem transitive : ∀ a b d, (contract svc).rely process a b → (contract svc).rely process b d →
    (contract svc).rely process a d := fun _ _ _ first second sid mine => second sid (first sid mine)
theorem steady (noRow : ∀ row, c ≠ .createSession row) : Steady (sys svc served) (contract svc) c := by
  intro process before choice after answer sound _ handled
  rcases handle_effect handled with ⟨-,rfl,-⟩ | ⟨-,middle,effect,rfl,-⟩
  · exact ⟨sound,fun _ _ mine => mine⟩
  · exact ⟨sound_observed (effect_calm process sound effect noRow).1,
      fun other => (effect_calm other sound effect noRow).2⟩
theorem stable {sid : String} : ∀ a b, Unstored process sid a → (contract svc).rely process a b →
    (contract svc).inv b → Unstored process sid b := fun _ _ mine relied _ => relied sid mine
theorem steady_of_issues {input : Input} (other : input.signsIn = false) (issues : Issues svc input c) :
    Steady (sys svc served) (contract svc) c := by
  refine steady ?_
  rintro row rfl
  exact absurd (issues.1.symm.trans other) (by decide)
theorem harmless_perform (noRow : ∀ row, c ≠ .createSession row) :
    Harmless (sys svc served) (contract svc) process (perform c) :=
  harmless_only ((only_call c).mpr (steady noRow))
theorem only_countSessions (userId : String) :
    Only (Steady (sys svc served) (contract svc)) (countSessions svc userId) :=
  only_bind ((only_call _).mpr (steady (by rintro row ⟨⟩))) fun _ =>
    only_bind ((only_call _).mpr (steady (by rintro row ⟨⟩))) fun _ => only_ite _ trivial trivial
theorem only_ensureAccount (userId : String) :
    Only (Steady (sys svc served) (contract svc)) (ensureAccount svc userId) :=
  only_bind ((only_call _).mpr (steady (by rintro row ⟨⟩))) fun _ =>
    only_ite _ trivial ((only_call _).mpr (steady (by rintro row ⟨⟩)))
theorem only_passwordOf (userData : User) (loginUserDto : LoginUserDto) :
    Only (Steady (sys svc served) (contract svc)) (passwordOf svc userData loginUserDto) := by
  unfold passwordOf storedPassword
  refine only_ite _ ?_ trivial
  cases userData.email with
  | none => trivial
  | some email =>
    refine only_bind ((only_call _).mpr (steady (by rintro row ⟨⟩))) fun row => ?_
    cases row <;> trivial

/-- The id of the tokens is the call's, and was never stored. -/
def Given (svc : Services) (process : Nat) (tokens : TokenResponse) (w : World) : Prop :=
  ∀ sid, sidOf svc tokens = some sid → Unstored process sid w

theorem generate_given {offered tokens : TokenResponse}
    (generated : generate svc process offered w = some (after,.ok tokens)) : Given svc process tokens after := by
  unfold generate at generated
  intro sid found
  split at generated
  · rename_i none_
    cases generated
    cases none_.symm.trans found
  · rename_i sid' some_
    by_cases used : sid' ∈ w.stored ∨ sid' ∈ w.drawn.map Prod.snd
    · rw [if_pos used] at generated
      cases generated
    · rw [if_neg used] at generated
      cases generated
      cases some_.symm.trans found
      exact ⟨List.mem_cons_self,fun stored => used (.inl stored)⟩

theorem wp_tokensOf (name : String) (userData : User) (password : Option String) :
    wp (sys svc served) (contract svc) process (tokensOf svc name userData password)
      (upon (Given svc process) fun _ => True) w := by
  refine wp_seq (fun _ _ => True) (wp_mono ?_ (harmless_perform (by rintro row ⟨⟩) w)) fun decrypted w _ => ?_
  · rintro (_ | _) _ _ <;> trivial
  · refine wp_call fun before _ sound choice after answer _ handled => ?_
    have calm : Steady (sys svc served) (contract svc) (.generateToken name decrypted userData) :=
      steady (by rintro row ⟨⟩)
    obtain ⟨keeps,everyone⟩ := calm process before choice after answer sound trivial handled
    refine ⟨keeps,fun other _ => everyone other,?_⟩
    rcases handle_effect handled with ⟨-,-,rfl⟩ | ⟨-,middle,-,rfl,carried⟩
    · trivial
    · cases answer with
      | error error => trivial
      | ok tokens =>
        have given : Given svc process tokens middle := generate_given carried
        exact given

theorem wp_storeSession {userData : User} {tokenDetails : TokenResponse} (given : Given svc process tokenDetails w) :
    wp (sys svc served) (contract svc) process (storeSession svc userData tokenDetails) (fun _ _ => True) w := by
  unfold storeSession
  split
  · rename_i exp sid _ found
    obtain ⟨found,named⟩ := Option.filter_eq_some_iff.mp found
    refine (wp_bind _ _ _ _).mpr (wp_mono ?_ (wp_only stable (only_ensureAccount _) (given sid found)))
    rintro (error | ⟨⟩) w' mine
    · trivial
    · refine (wp_bind _ _ _ _).mpr (wp_call fun before relied sound choice after answer _ handled => ?_)
      have mine := relied sid mine
      rcases handle_effect handled with ⟨-,rfl,rfl⟩ | ⟨-,middle,effect,rfl,-⟩
      · exact ⟨sound,fun _ _ _ mine => mine,trivial⟩
      · have inserted : Sound middle ∧ ∀ other, other ≠ process → Undisturbed other before middle := by
          cases effect with
          | nothing => exact ⟨sound,fun _ _ _ mine => mine⟩
          | dropped caller gone =>
            exact ⟨sound_same (sound_drop sound gone) rfl rfl rfl rfl,fun _ _ _ mine => mine⟩
          | inserted absent =>
            exact ⟨sound_inserted sound mine.2 (by simpa using named),fun other apart => inserted_calm sound mine apart⟩
        refine ⟨sound_observed inserted.1,fun other apart => inserted.2 other apart,?_⟩
        cases answer <;> trivial
  · trivial

theorem harmless_signIn (name : String) (userData : User) (password : Option String) :
    Harmless (sys svc served) (contract svc) process
      (tokensOf svc name userData password >>= fun tokens => storeSession svc userData tokens) := by
  intro w
  refine (wp_bind _ _ _ _).mpr (wp_mono ?_ (wp_tokensOf name userData password))
  rintro (error | tokens) w' given
  · trivial
  · exact wp_storeSession given

theorem harmless_program (input : Input) : Harmless (sys svc served) (contract svc) process (program svc input) := by
  cases input with
  | login loginUserDto =>
    intro w
    refine wp_branches _ (fun _ => trivial) fun _ => harmless_bind (harmless_perform (by rintro row ⟨⟩))
        (fun user => ?_) w
    cases user with
    | none => exact harmless_fail _
    | some userData =>
      intro w
      refine wp_branches _ (fun _ => trivial) fun _ => wp_branches _ (fun _ => trivial) fun _ => ?_
      refine harmless_bind (harmless_only (only_countSessions _)) (fun _ => ?_) w
      exact harmless_bind (harmless_only (only_passwordOf _ _)) fun password => harmless_signIn _ _ _
  | usernameLogin loginUserDto =>
    refine harmless_bind (harmless_perform (by rintro row ⟨⟩)) fun user => ?_
    cases user with
    | none => exact harmless_fail _
    | some userData =>
      intro w
      refine wp_branches _ (fun _ => trivial) fun _ => ?_
      exact harmless_bind (harmless_only (only_countSessions _)) (fun _ => harmless_signIn _ _ _) w
  | refreshToken refreshToken =>
    exact harmless_only (only_mono (fun _ => steady_of_issues rfl) (issues_program (.refreshToken refreshToken)))
  | request payload request =>
    exact harmless_only (only_mono (fun _ => steady_of_issues rfl) (issues_program (.request payload request)))

theorem keeps : Keeps (sys svc served) (contract svc) fun _ _ _ => True where
  reflexive _ _ _ mine := mine
  transitive _ := transitive
  stable _ _ _ _ _ _ _ := trivial
  idles _ _ _ _ _ _ := trivial
  arrives process input a b sound _ arrived := by
    obtain ⟨-,same⟩ := Option.ite_none_right_eq_some.mp arrived
    obtain rfl := Option.some.inj same
    exact ⟨sound_same sound rfl rfl rfl rfl,fun _ _ _ mine => mine,harmless_program input _⟩
  moves event a b sound _ happened := by
    obtain ⟨after,moved,rfl⟩ := Option.map_eq_some_iff.mp happened
    have safe : Sound after ∧ ∀ process, Undisturbed process a after := by
      rcases environment_cases moved with ⟨milliseconds,rfl⟩ | ⟨started,purge,-,rfl | rfl⟩
      · exact ⟨sound_same sound rfl rfl rfl rfl,fun _ _ mine => mine⟩
      · exact ⟨sound_same sound rfl rfl rfl rfl,fun _ _ mine => mine⟩
      · exact ⟨sound_same (sound_drop sound (purged purge)) rfl rfl rfl rfl,fun _ _ mine => mine⟩
    exact ⟨sound_observed safe.1,safe.2⟩

variable (svc) in
/-- The answer is that the tokens of a row were replaced for the token. -/
def Confirmed (refreshToken : String) : (c : Cmd svc) → Except Failure (Ret svc c) → Prop
  | .updateSessionToken presented _ _,.ok _ => presented = refreshToken
  | _,_ => False

/-- What a function returns has been written, or it returns now. -/
def Written (p : Async svc Response) : Prop :=
  (∃ response, p = .ret response) ∨ (Thread.live p).awaited = some .delivered
variable (svc) in
/-- Where the function goes on with what has been written, an update was confirmed just now or before. -/
def Confirms (refreshToken : String) (c : Cmd svc) (answer : Except Failure (Ret svc c)) (rest : Async svc Response) :
    Prop :=
  Written rest → Confirmed svc refreshToken c answer ∨ c = .delivered
/-- Nothing is written yet, and when it is, an update was confirmed. -/
def Late (refreshToken : String) (p : Async svc Response) : Prop :=
  ¬Written p ∧ Each (Confirms svc refreshToken) p

variable {refreshToken : String}
theorem unwritten_fail (error : Failure) : ¬Written (.fail error : Async svc Response) := by
  rintro (⟨response,⟨⟩⟩ | ⟨⟨⟩⟩)
theorem unwritten_perform {f : Ret svc c → Async svc Response} (other : c ≠ .delivered) :
    ¬Written (perform c >>= f) := by
  rintro (⟨response,⟨⟩⟩ | same)
  exact other (Option.some.inj same)
theorem late_fail (error : Failure) :
    Late refreshToken (.fail error : Async svc Response) := ⟨unwritten_fail error,trivial⟩
theorem late_perform {f : Ret svc c → Async svc Response} (other : c ≠ .delivered)
    (late : ∀ value, Late refreshToken (f value)) : Late refreshToken (perform c >>= f) :=
  ⟨unwritten_perform other,each_step.mpr ⟨fun value => ⟨fun written => absurd written (late value).1,(late value).2⟩,
    fun error written => absurd written (unwritten_fail error)⟩⟩

theorem late_replaceTokens (refreshToken : String) (data : Decoded) (userId : String)
    (tokenResponse : Refreshed svc refreshToken) :
    Late refreshToken (replaceTokens svc refreshToken data userId tokenResponse) := by
  refine late_perform (by rintro ⟨⟩) fun account => ?_
  split
  · exact late_fail _
  refine late_perform (by rintro ⟨⟩) fun session => ?_
  split
  · exact late_fail _
  split
  · exact late_fail _
  · have last : Each (Confirms svc refreshToken)
      (perform .delivered >>= fun _ : Unit => pure (.refreshed tokenResponse.val)) :=
      each_step.mpr ⟨fun _ => ⟨fun _ => .inr rfl,trivial⟩,fun error written => absurd written (unwritten_fail error)⟩
    exact ⟨unwritten_perform (by rintro ⟨⟩),each_step.mpr ⟨fun _ => ⟨fun _ => .inl rfl,last⟩,
      fun error written => absurd written (unwritten_fail error)⟩⟩

theorem late_refreshTokenDetails (refreshToken : String) : Late refreshToken (refreshTokenDetails svc refreshToken) := by
  unfold refreshTokenDetails
  cases svc.decode refreshToken with
  | none => exact late_fail _
  | some data =>
    refine late_perform (by rintro ⟨⟩) fun now => ?_
    split
    · exact late_perform (by rintro ⟨⟩) fun _ => late_fail _
    refine late_perform (by rintro ⟨⟩) fun user => ?_
    cases user with
    | none => exact late_fail _
    | some user => exact late_perform (by rintro ⟨⟩) fun tokens => late_replaceTokens _ _ _ _

variable (svc) in
def Shape : Input → Async svc Response → Prop
  | .refreshToken refreshToken,p => Each (Confirms svc refreshToken) p
  | _,_ => True

theorem shape_program (input : Input) : Shape svc input (program svc input) := by
  cases input with
  | refreshToken refreshToken => exact (late_refreshTokenDetails refreshToken).2
  | _ => trivial
theorem shape_goes (input : Input) (c : Cmd svc) (resume : Except Failure (Ret svc c) → Async svc Response)
    (answer : Except Failure (Ret svc c)) (shape : Shape svc input (.await c resume)) :
    Shape svc input (resume answer) := by
  cases input with
  | refreshToken refreshToken => exact (shape answer).2
  | _ => trivial

variable (svc) in
/-- The session is deleted, and every call has the shape of its input. -/
structure Closed (sid : String) (m : Machine (Cmd svc) (Ret svc) Failure Response World) : Prop where
  sound : Sound m.world
  dead : sid ∈ m.world.deleted
  following : Following World.calls (Shape svc) m

theorem effect_deleted (effect : Effect process w c after) : w.deleted ⊆ after.deleted := by
  cases effect with
  | dropped caller gone => exact List.subset_append_right _ _
  | _ => exact List.Subset.refl _
theorem environment_deleted {event : Env} (happened : environment event w = some after) : w.deleted ⊆ after.deleted := by
  rcases environment_cases happened with ⟨milliseconds,rfl⟩ | ⟨started,purge,-,rfl | rfl⟩
  · exact List.Subset.refl _
  · exact List.Subset.refl _
  · exact List.subset_append_right _ _

variable {m next : Machine (Cmd svc) (Ret svc) Failure Response World} {sid : String} {a : Action (Choice svc) Input Env}
/-- A session that is deleted stays so. -/
theorem step_deleted (taken : step (sys svc served) m a = some next) : m.world.deleted ⊆ next.world.deleted := by
  cases a with
  | start process input =>
    obtain ⟨-,world,arrived,rfl⟩ := step_start taken
    obtain ⟨-,same⟩ := Option.ite_none_right_eq_some.mp arrived
    obtain rfl := Option.some.inj same
    exact List.Subset.refl _
  | advance process choice =>
    obtain ⟨command,resume,world,answer,-,handled,rfl⟩ := step_advance taken
    rcases handle_effect handled with ⟨-,rfl,-⟩ | ⟨-,middle,effect,rfl,-⟩
    · exact List.Subset.refl _
    · exact (effect_deleted effect : m.world.deleted ⊆ middle.deleted)
  | crash process =>
    obtain ⟨-,rfl⟩ := step_crash taken
    exact List.Subset.refl _
  | environment event =>
    obtain ⟨world,happened,rfl⟩ := step_environment taken
    obtain ⟨after,moved,rfl⟩ := Option.map_eq_some_iff.mp happened
    exact (environment_deleted moved : m.world.deleted ⊆ after.deleted)

theorem considered (m : Machine (Cmd svc) (Ret svc) Failure Response World) (a : Action (Choice svc) Input Env) :
    Considered (contract svc) m a := by
  cases a with
  | advance process choice => exact fun _ _ _ => trivial
  | _ => trivial

theorem unconfirmed {data : Decoded} {answer : Except Failure (Ret svc c)} (sound : Sound w)
    (dead : sid ∈ w.deleted) (decoded : svc.decode refreshToken = some data) (named : data.sid = some sid)
    (handled : handle svc process c choice w = some (after,answer)) : ¬Confirmed svc refreshToken c answer := by
  intro confirmed
  cases c with
  | updateSessionToken presented response expiresAt =>
    cases answer with
    | error error => exact confirmed
    | ok done =>
      obtain rfl : presented = refreshToken := confirmed
      rcases handle_effect handled with ⟨-,-,⟨⟩⟩ | ⟨-,middle,effect,-,carried⟩
      simp only [carry,update] at carried
      cases state : response.val.sessionState.filter (· ≠ "") with
      | none => rw [state] at carried; cases carried
      | some id =>
        rw [state] at carried
        by_cases any : (w.sessions.any fun row => row.id = id) = true
        · obtain ⟨data',decoded',named'⟩ :=
            svc.refreshes_session response.property (Option.filter_eq_some_iff.mp state).1
          cases decoded.symm.trans decoded'
          cases named.symm.trans named'
          obtain ⟨row,there,same⟩ := List.any_eq_true.mp any
          exact sound.gone sid dead row there (by simpa using same)
        · simp only [any] at carried
          cases carried
  | _ => exact confirmed

/-- No step opens the session again. -/
theorem step_closed (closed : Closed svc sid m) (safe : Safe (sys svc served) (contract svc) (fun _ _ _ => True) next)
    (taken : step (sys svc served) m a = some next) : Closed svc sid next :=
  ⟨safe.inv,step_deleted taken closed.dead,step_following traced (fun _ input _ _ _ => shape_program input)
    (fun input c _ _ resume _ _ answer _ => shape_goes input c resume answer) closed.following taken⟩

variable (svc sid) in
/-- A refresh of the session that has returned had returned before, or had written its tokens to the row. -/
def Returned (start : Machine (Cmd svc) (Ret svc) Failure Response World)
    (m : Machine (Cmd svc) (Ret svc) Failure Response World) : Prop :=
  ∀ process refreshToken data response, m.world.calls process = some (.refreshToken refreshToken) →
    svc.decode refreshToken = some data → data.sid = some sid → (m.thread process).ended = some (.ok response) →
    (start.thread process).ended = some (.ok response) ∨ (start.thread process).awaited = some .delivered
variable (svc sid) in
/-- So had one that has written its tokens. -/
def Wrote (start : Machine (Cmd svc) (Ret svc) Failure Response World)
    (m : Machine (Cmd svc) (Ret svc) Failure Response World) : Prop :=
  ∀ process refreshToken data, m.world.calls process = some (.refreshToken refreshToken) →
    svc.decode refreshToken = some data → data.sid = some sid → (m.thread process).awaited = some .delivered →
    (start.thread process).awaited = some .delivered

variable {start : Machine (Cmd svc) (Ret svc) Failure Response World}
theorem step_returned (closed : Closed svc sid m) (returned : Returned svc sid start m) (wrote : Wrote svc sid start m)
    (taken : step (sys svc served) m a = some next) : Returned svc sid start next ∧ Wrote svc sid start next := by
  -- A refresh that goes on with what has been written had written it before this step.
  have goes : ∀ mine choice command resume world answer, m.thread mine = .live (.await command resume) →
      handle svc mine command choice m.world = some (world,answer) → ∀ refreshToken data,
      m.world.calls mine = some (.refreshToken refreshToken) → svc.decode refreshToken = some data →
          data.sid = some sid →
      Written (resume answer) → (start.thread mine).awaited = some .delivered := by
    intro mine choice command resume world answer stood handled refreshToken data called decoded named written
    obtain ⟨input,called',shape⟩ := closed.following mine _ stood
    cases called.symm.trans called'
    rcases (shape answer).1 written with confirmed | rfl
    · exact absurd confirmed (unconfirmed closed.sound closed.dead decoded named handled)
    · exact wrote mine refreshToken data called decoded named (congrArg Thread.awaited stood)
  have others : ∀ mine thread world, world.calls = m.world.calls →
      (∀ refreshToken data, m.world.calls mine = some (.refreshToken refreshToken) →
      svc.decode refreshToken = some data → data.sid = some sid →
      ((∃ response, thread.ended = some (.ok response)) ∨ thread.awaited = some .delivered) →
        (start.thread mine).awaited = some .delivered) →
      Returned svc sid start ⟨world,Function.update m.thread mine thread⟩ ∧
        Wrote svc sid start ⟨world,Function.update m.thread mine thread⟩ := by
    intro mine thread world same own
    constructor
    · intro process refreshToken data response called decoded named ended
      dsimp only at called ended
      rw [same] at called
      by_cases mine_ : process = mine
      · subst mine_
        rw [Function.update_self] at ended
        exact .inr (own refreshToken data called decoded named (.inl ⟨response,ended⟩))
      · rw [Function.update_of_ne mine_] at ended
        exact returned process refreshToken data response called decoded named ended
    · intro process refreshToken data called decoded named awaited
      dsimp only at called awaited
      rw [same] at called
      by_cases mine_ : process = mine
      · subst mine_
        rw [Function.update_self] at awaited
        exact own refreshToken data called decoded named (.inr awaited)
      · rw [Function.update_of_ne mine_] at awaited
        exact wrote process refreshToken data called decoded named awaited
  cases a with
  | start mine input =>
    obtain ⟨-,world,arrived,rfl⟩ := step_start taken
    have calls := traced.arrives mine input _ _ arrived
    have begun {refreshToken : String} (called : world.calls mine = some (.refreshToken refreshToken)) :
        ¬Written (program svc input) := by
      rw [calls,Function.update_self] at called
      cases called
      exact (late_refreshTokenDetails refreshToken).1
    constructor
    · intro process refreshToken data response called decoded named ended
      dsimp only at called ended
      by_cases same : process = mine
      · subst same
        rw [Function.update_self] at ended
        exact absurd (.inl ⟨response,ended_ret ended⟩) (begun called)
      · rw [calls,Function.update_of_ne same] at called
        rw [Function.update_of_ne same] at ended
        exact returned process refreshToken data response called decoded named ended
    · intro process refreshToken data called decoded named awaited
      dsimp only at called awaited
      by_cases same : process = mine
      · subst same
        rw [Function.update_self] at awaited
        exact absurd (.inr awaited) (begun called)
      · rw [calls,Function.update_of_ne same] at called
        rw [Function.update_of_ne same] at awaited
        exact wrote process refreshToken data called decoded named awaited
  | advance mine choice =>
    obtain ⟨command,resume,world,answer,stood,handled,rfl⟩ := step_advance taken
    refine others mine _ world (traced.handles mine command choice _ _ _ handled)
        fun refreshToken data called decoded named written => ?_
    refine goes mine choice command resume world answer stood handled refreshToken data called decoded named ?_
    exact written.imp_left fun ⟨response,ended⟩ => ⟨response,ended_ret ended⟩
  | crash mine =>
    obtain ⟨-,rfl⟩ := step_crash taken
    exact others mine _ m.world rfl (by rintro _ _ _ _ _ (⟨_,⟨⟩⟩ | ⟨⟨⟩⟩))
  | environment event =>
    obtain ⟨world,happened,rfl⟩ := step_environment taken
    have calls := traced.moves event _ _ happened
    exact ⟨fun process refreshToken data response called => returned process refreshToken data response (calls ▸ called),
      fun process refreshToken data called => wrote process refreshToken data (calls ▸ called)⟩

variable (svc) in
theorem authenticated_missing {payload : JwtStrategy.JwtPayload} (request : Request) (named : payload.sid = some sid)
    (given : sid ≠ "") :
    ∃ resume, authenticated svc payload request = .await (.getSession (some sid)) resume ∧
      (∀ error, resume (.error error) = .fail .invalidAccessToken) ∧ resume (.ok none) = .fail .invalidAccessToken := by
  have filtered : payload.sid.filter (· ≠ "") = some sid := by simp [named,given]
  unfold authenticated validate
  rw [filtered]
  exact ⟨_,rfl,fun error => rfl,rfl⟩

variable (svc) in
def Barred (payload : JwtStrategy.JwtPayload) (request : Request)
    (thread : Thread (Cmd svc) (Ret svc) Failure Response) :
    Prop :=
  thread = .live (authenticated svc payload request) ∨ thread.ended = some (.error .invalidAccessToken) ∨
      thread = .crashed

theorem absent_session {answer : Except Failure (Option Session)} (sound : Sound w) (dead : sid ∈ w.deleted)
    (handled : handle svc process (.getSession (some sid)) choice w = some (after,answer)) :
    (∃ error, answer = .error error) ∨ answer = .ok none := by
  rcases handle_effect handled with ⟨-,-,failed⟩ | ⟨-,middle,-,-,carried⟩
  · exact .inl ⟨_,failed⟩
  · cases carried
    refine .inr (congrArg Except.ok (List.find?_eq_none.mpr fun row there => ?_))
    simpa using sound.gone sid dead row there

variable (svc sid) in
/-- The requests with the session that were not yet there at the start are not let in. -/
def Refused (start : Machine (Cmd svc) (Ret svc) Failure Response World)
    (m : Machine (Cmd svc) (Ret svc) Failure Response World) : Prop :=
  ∀ process payload request, start.thread process = .unused → m.thread process ≠ .unused →
    m.world.calls process = some (.request payload request) → payload.sid = some sid →
    Barred svc payload request (m.thread process)

theorem step_refused (closed : Closed svc sid m)
    (refused : Refused svc sid start m) (taken : step (sys svc served) m a = some next) :
    Refused svc sid start next := by
  intro process payload request unused used called named
  cases a with
  | start mine input =>
    obtain ⟨-,world,arrived,rfl⟩ := step_start taken
    dsimp only at called used ⊢
    rw [traced.arrives mine input _ _ arrived] at called
    by_cases same : process = mine
    · subst same
      rw [Function.update_self] at called ⊢
      cases called
      exact .inl rfl
    · rw [Function.update_of_ne same] at called used ⊢
      exact refused process payload request unused used called named
  | advance mine choice =>
    obtain ⟨command,resume,world,answer,stood,handled,rfl⟩ := step_advance taken
    dsimp only at called used ⊢
    rw [traced.handles mine command choice _ _ _ handled] at called
    by_cases same : process = mine
    · subst same
      rw [Function.update_self]
      rcases refused process payload request unused (by rw [stood]; rintro ⟨⟩) called named with at_ | ended | crashed
      · -- The request stands where it looks its session up.
        obtain ⟨resume',asks,failed,missing⟩ := authenticated_missing svc request named
          (closed.sound.named sid (closed.sound.dead sid closed.dead))
        rw [asks,stood] at at_
        cases at_
        have refusal : resume' answer = .fail .invalidAccessToken := by
          rcases absent_session closed.sound closed.dead handled with ⟨error,same⟩ | same
          · exact (congrArg resume' same).trans (failed error)
          · exact (congrArg resume' same).trans missing
        rw [refusal]
        exact .inr (.inl rfl)
      · rw [stood] at ended
        cases ended
      · rw [stood] at crashed
        cases crashed
    · rw [Function.update_of_ne same] at used ⊢
      exact refused process payload request unused used called named
  | crash mine =>
    obtain ⟨-,rfl⟩ := step_crash taken
    dsimp only at called used ⊢
    by_cases same : process = mine
    · subst same
      rw [Function.update_self]
      exact .inr (.inr rfl)
    · rw [Function.update_of_ne same] at used ⊢
      exact refused process payload request unused used called named
  | environment event =>
    obtain ⟨world,happened,rfl⟩ := step_environment taken
    dsimp only at called used ⊢
    rw [traced.moves event _ _ happened] at called
    exact refused process payload request unused used called named

theorem sound_initial {now : Nat} {sessions : List Session} (keyed : (sessions.map Session.id).Nodup)
    (named : ∀ row ∈ sessions, row.id ≠ "") : Sound (.initial now sessions) where
  named := by
    intro id there
    obtain ⟨row,stored,rfl⟩ := List.mem_map.mp there
    exact named row stored
  known row there := List.mem_map.mpr ⟨row,there,rfl⟩
  keyed := keyed
  dead id there := by cases there
  gone id there := by cases there
  once p q sid there := by cases there

variable (svc sid) in
/-- What holds of a session from its deletion on: there is no row of it, the refreshes of
    it that returned had returned before or written their tokens to the row, and the
    requests that came since are not let in. -/
structure Final (start m : Machine (Cmd svc) (Ret svc) Failure Response World) : Prop where
  gone : ∀ row ∈ m.world.sessions, row.id ≠ sid
  returned : Returned svc sid start m
  refused : Refused svc sid start m

/-- Once a session is deleted, nothing that runs later brings it back into use. -/
theorem logout_final (svc : Services) (served : Input → Bool) (now : Nat) (sessions : List Session)
    (keyed : (sessions.map Session.id).Nodup) (named : ∀ row ∈ sessions, row.id ≠ "")
    {first rest : List (Action (Choice svc) Input Env)} {m n : Machine (Cmd svc) (Ret svc) Failure Response World}
    (begun : run (step (sys svc served)) (Machine.initial (.initial now sessions)) first = some m)
    (reached : run (step (sys svc served)) m rest = some n) {sid : String} (deleted : sid ∈ m.world.deleted) :
    Final svc sid m n := by
  have safe : Safe (sys svc served) (contract svc) (fun _ _ _ => True) m :=
    run_safe keeps (safe_initial (sound_initial keyed named) fun _ => trivial)
      (along_of_forall fun u a _ => considered u a) begun
  have closed : Closed svc sid m :=
    ⟨safe.inv,deleted,run_following traced (fun _ input _ _ _ => shape_program input)
      (fun input c _ _ resume _ _ answer _ => shape_goes input c resume answer) (following_initial _) begun⟩
  have kept : Safe (sys svc served) (contract svc) (fun _ _ _ => True) n ∧ Closed svc sid n ∧
      (Returned svc sid m n ∧ Wrote svc sid m n) ∧ Refused svc sid m n := by
    refine @run_keeps _ _ _ _ _ _
        (fun u => Safe (sys svc served) (contract svc) (fun _ _ _ => True) u ∧ Closed svc sid u ∧
      (Returned svc sid m u ∧ Wrote svc sid m u) ∧ Refused svc sid m u) ?_ ⟨safe,closed,⟨?_,?_⟩,?_⟩ reached
    · rintro u a v ⟨safe,closed,written,refused⟩ taken
      have safe' := step_safe keeps safe (considered u a) taken
      exact ⟨safe',step_closed closed safe' taken,step_returned closed written.1 written.2 taken,
          step_refused closed refused taken⟩
    · intro process refreshToken data response _ _ _ ended
      exact .inl ended
    · intro process refreshToken data _ _ _ awaited
      exact awaited
    · intro process payload request unused used
      exact absurd unused used
  obtain ⟨-,closed',written,refused⟩ := kept
  exact ⟨closed'.sound.gone sid closed'.dead,written.1,refused⟩

end

def alicesPayload : JwtStrategy.JwtPayload := ⟨none,some "alice",some "s1",none,none,none,none,none⟩
def ownSignout : List (Action (Choice realm) Input Env) :=
  [.start 0 (.request alicesPayload (.signout (some ["s1"]))),.advance 0 (answers alice noTokens),
    .advance 0 (answers alice noTokens),.advance 0 (answers alice noTokens)]
/-- Another request, and a refresh that asks Keycloak. -/
def afterSignout : List (Action (Choice realm) Input Env) :=
  [.start 1 (.request alicesPayload .another),.advance 1 (answers alice noTokens),.start 2 (.refreshToken "r1"),
    .advance 2 (answers alice noTokens),.advance 2 (answers alice noTokens),.advance 2 (answers alice noTokens),
    .advance 2 (answers alice noTokens),.advance 2 (answers alice noTokens)]

theorem logout_final_ownSignout :
    ∃ m n, run (step (sys realm fun _ => true)) (Machine.initial (.initial 0 [aliceSession])) ownSignout = some m ∧
      run (step (sys realm fun _ => true)) m afterSignout = some n ∧ Final realm "s1" m n := by
  have whole : (run (step (sys realm fun _ => true)) (Machine.initial (.initial 0 [aliceSession]))
      (ownSignout ++ afterSignout)).isSome = true := by rfl
  obtain ⟨n,reached⟩ := Option.isSome_iff_exists.mp whole
  obtain ⟨m,begun,later⟩ := run_append.mp reached
  have deleted : (run (step (sys realm fun _ => true)) (Machine.initial (.initial 0 [aliceSession])) ownSignout).map
      (fun m => m.world.deleted) = some ["s1"] := by rfl
  rw [begun] at deleted
  have gone : m.world.deleted = ["s1"] := Option.some.inj deleted
  have dead : "s1" ∈ m.world.deleted := gone ▸ List.mem_singleton_self _
  exact ⟨m,n,begun,later,
    logout_final realm (fun _ => true) 0 [aliceSession] (by decide) (by decide) begun later dead⟩

/-- The refresh has written its tokens when the signout deletes the row, and returns them then. -/
def overtaken : List (Action (Choice realm) Input Env) :=
  .start 0 (.refreshToken "r1") :: List.replicate 6 (.advance 0 (answers alice noTokens)) ++
    [.start 1 (.request alicesPayload (.signout (some ["s1"]))),.advance 1 (answers alice noTokens),
      .advance 1 (answers alice noTokens),.advance 1 (answers alice noTokens)]
/-- A refresh returns tokens of a session whose row was deleted meanwhile. -/
theorem refreshed_after_signout : ¬∀ (svc : Services) (now : Nat) (sessions : List Session)
    (first rest : List (Action (Choice svc) Input Env)) (m n : Machine (Cmd svc) (Ret svc) Failure Response World)
    (sid : String),
    (sessions.map Session.id).Nodup → (∀ row ∈ sessions, row.id ≠ "") →
    run (step (sys svc fun _ => true)) (Machine.initial (.initial now sessions)) first = some m →
    run (step (sys svc fun _ => true)) m rest = some n → sid ∈ m.world.deleted →
    ∀ process refreshToken data response, n.world.calls process = some (.refreshToken refreshToken) →
      svc.decode refreshToken = some data → data.sid = some sid → (n.thread process).ended = some (.ok response) →
      (m.thread process).ended = some (.ok response) := by
  intro every
  obtain ⟨m,n,begun,deleted,reached,called,ended,waiting⟩ : ∃ m n,
      run (step (sys realm fun _ => true)) (Machine.initial (.initial 0 [aliceSession])) overtaken = some m ∧
      m.world.deleted = ["s1"] ∧ run (step (sys realm fun _ => true)) m [.advance 0 (answers alice noTokens)] = some n ∧
      n.world.calls 0 = some (.refreshToken "r1") ∧
      (n.thread 0).ended = some (.ok (.refreshed ⟨some "a1",some "r1",some "s1"⟩)) ∧ (m.thread 0).ended = none :=
    ⟨_,_,rfl,rfl,rfl,rfl,rfl,rfl⟩
  have before := every realm 0 [aliceSession] overtaken [.advance 0 (answers alice noTokens)] m n "s1"
      (by decide) (by decide)
    begun reached (deleted ▸ List.mem_singleton_self _) 0 "r1" _ _ called rfl rfl ended
  cases waiting.symm.trans before

end Ngotag.LogoutFinal
