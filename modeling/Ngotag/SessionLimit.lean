import Ngotag.Recall
import Ngotag.Sessions

/-!
How many sessions a user has. A sign-in counts the rows of the user, and stores its own
only after Keycloak gave tokens. So two sign-ins that count before either stores can take
a user beyond the limit; and the expired rows, whose deletion is not awaited, are counted
as well. Apart from these the limit is kept, and a refusal is one of a user at the limit
(`limit_iff`).
-/
namespace Ngotag.SessionLimit
open Runs Await Recall Sessions

section
variable (svc : Services)

/-- Sign-ins, and requests that may delete sessions. -/
def served : Input → Bool
  | .refreshToken _ => false
  | _ => true
/-- The unexpired sessions of a user that sign-ins stored. -/
def stored (w : World) (userId : String) : List Session :=
  (w.unexpired userId).filter fun row => row.id ∈ w.created
/-- The sign-ins keep the limit for every user, and a sign-in that is refused counted the
    sessions of a user that had as many unexpired ones at some moment since it began. -/
structure Limited (m : Machine (Cmd svc) (Ret svc) Failure Response World) : Prop where
  capped : ∀ userId, (stored m.world userId).length ≤ svc.SESSIONS_LIMIT
  refused : ∀ process, (m.thread process).ended = some (.error .sessionLimitReached) →
    ∃ userId, m.world.counted process = some userId ∧ m.world.crowded process userId = true

/-- A row that is stored does not expire later than now, or there is room for it; and a count
    that reaches the limit is one of a user that has, or had since the call began, as many
    unexpired sessions. -/
def Room (process : Nat) (w : World) : Cmd svc → Prop
  | .createSession row => (∀ other ∈ w.sessions, other.id ≠ row.id) → row.expired w.now = false →
      (stored w row.userId).length < svc.SESSIONS_LIMIT
  | .fetchUserSessions userId =>
      svc.SESSIONS_LIMIT ≤ (w.sessions.filter (·.userId = userId)).length →
        w.crowded process userId = true ∨ svc.SESSIONS_LIMIT ≤ (w.unexpired userId).length
  | _ => True

/-- There is room for what a step carries out, unless it fails. -/
def Roomy (m : Machine (Cmd svc) (Ret svc) Failure Response World) : Action (Choice svc) Input Env → Prop
  | .advance process choice => ∀ command resume, m.thread process = .live (.await command resume) →
      choice.fails = false → Room svc process m.world command
  | _ => True

variable {svc} in
/-- The user whose sessions a call has counted, and how many there were. -/
def hears : (c : Cmd svc) → Except Failure (Ret svc c) → Option (String × Nat) → Option (String × Nat)
  | .fetchUserSessions userId, .ok rows, _ => some (userId,List.length (α := Session) rows)
  | _, _, told => told
def uncounted (_ : Nat) (_ : Input) : Option (String × Nat) := none
/-- Where another sign-in has stored a session of the user since the call counted, there still is
    room for the row that it stores, unless this expires no later than now; and where an expired row
    of the user is counted, the limit is not reached, or the user has, or had since the call began, as
    many unexpired sessions. -/
def Fits (process : Nat) (told : Option (String × Nat)) (w : World) : Cmd svc → Prop
  | .createSession row => ∀ count ∈ told, w.raced process = true → (∀ other ∈ w.sessions, other.id ≠ row.id) →
      row.expired w.now = false → (stored w count.1).length < svc.SESSIONS_LIMIT
  | .fetchUserSessions userId => (∃ row ∈ w.sessions, row.userId = userId ∧ row.expired w.now = true) →
      svc.SESSIONS_LIMIT ≤ (w.sessions.filter (·.userId = userId)).length →
        w.crowded process userId = true ∨ svc.SESSIONS_LIMIT ≤ (w.unexpired userId).length
  | _ => True
/-- What a step carries out fits, unless it fails. -/
def Fitting (s : Machine (Cmd svc) (Ret svc) Failure Response World × (Nat → Option (String × Nat))) :
    Action (Choice svc) Input Env → Prop
  | .advance process choice => ∀ command resume, s.1.thread process = .live (.await command resume) →
      choice.fails = false → Fits svc process (s.2 process) s.1.world command
  | _ => True
/-- The answer is a count that reaches the limit. -/
def Refusing : (c : Cmd svc) → Except Failure (Ret svc c) → Prop
  | .fetchUserSessions _,.ok rows => svc.SESSIONS_LIMIT ≤ List.length (α := Session) rows
  | _,_ => False
/-- The function is refused right after a count that reaches the limit, and never else. -/
def Guarded : Async svc Response → Prop
  | .ret _ => True
  | .fail error => error ≠ .sessionLimitReached
  | .await command resume => ∀ answer, answer ≠ .error .sessionLimitReached →
      (Refusing svc command answer → resume answer = .fail .sessionLimitReached) ∧
      (¬Refusing svc command answer → Guarded (resume answer))
/-- The function counts nothing and is not refused. -/
def Mild {β : Type} : Prog (Cmd svc) (Ret svc) Failure β → Prop
  | .ret _ => True
  | .fail error => error ≠ .sessionLimitReached
  | .await command resume => (∀ userId, command ≠ .fetchUserSessions userId) ∧
      ∀ answer, answer ≠ .error .sessionLimitReached → Mild (resume answer)

variable {svc} {β γ : Type} {c : Cmd svc}
theorem not_refusing (other : ∀ userId, c ≠ .fetchUserSessions userId) (answer : Except Failure (Ret svc c)) :
    ¬Refusing svc c answer := by
  cases c with
  | fetchUserSessions userId => exact absurd rfl (other userId)
  | _ => exact id
theorem mild_perform (other : ∀ userId, c ≠ .fetchUserSessions userId) : Mild svc (perform c) := by
  refine ⟨other,fun answer answers => ?_⟩
  cases answer with
  | ok value => trivial
  | error error => exact fun same => answers (congrArg Except.error same)

variable {p : Prog (Cmd svc) (Ret svc) Failure β}
theorem mild_bind {f : β → Prog (Cmd svc) (Ret svc) Failure γ}
    (first : Mild svc p) (second : ∀ value, Mild svc (f value)) : Mild svc (p >>= f) := by
  change Mild svc (p.bind f)
  induction p with
  | ret value => exact second value
  | fail error => exact first
  | await command resume ih => exact ⟨first.1,fun answer answers => ih answer (first.2 answer answers)⟩
theorem mild_tryCatch {handler : Failure → Prog (Cmd svc) (Ret svc) Failure β}
    (body : Mild svc p) (caught : ∀ error, Mild svc (handler error)) : Mild svc (p.tryCatch handler) := by
  induction p with
  | ret value => trivial
  | fail error => exact caught error
  | await command resume ih => exact ⟨body.1,fun answer answers => ih answer (body.2 answer answers)⟩
theorem guarded_bind {f : β → Async svc Response} (first : Mild svc p)
    (second : ∀ value, Guarded svc (f value)) : Guarded svc (p >>= f) := by
  change Guarded svc (p.bind f)
  induction p with
  | ret value => exact second value
  | fail error => exact first
  | await command resume ih =>
    intro answer answers
    exact ⟨fun refusing => absurd refusing (not_refusing first.1 answer),fun _ => ih answer (first.2 answer answers)⟩
theorem guarded_mild {p : Async svc Response} (mild : Mild svc p) : Guarded svc p := by
  induction p with
  | ret value => trivial
  | fail error => exact mild
  | await command resume ih =>
    intro answer answers
    exact ⟨fun refusing => absurd refusing (not_refusing mild.1 answer),fun _ => ih answer (mild.2 answer answers)⟩
theorem mild_ite {p q : Prog (Cmd svc) (Ret svc) Failure β} (test : Prop) [Decidable test] (first : Mild svc p)
    (second : Mild svc q) : Mild svc (if test then p else q) := by
  split
  · exact first
  · exact second
theorem guarded_ite {p q : Async svc Response} (test : Prop) [Decidable test] (first : Guarded svc p)
    (second : Guarded svc q) : Guarded svc (if test then p else q) := by
  split
  · exact first
  · exact second

theorem counted (rows : List Session) {f : Unit → Async svc Response} (rest : Guarded svc (f ())) :
    (svc.SESSIONS_LIMIT ≤ rows.length →
      ((if svc.SESSIONS_LIMIT ≤ rows.length then throw .sessionLimitReached else pure ()) >>= f : Async svc Response) =
        .fail .sessionLimitReached) ∧
    (¬svc.SESSIONS_LIMIT ≤ rows.length →
      Guarded svc ((if svc.SESSIONS_LIMIT ≤ rows.length then throw .sessionLimitReached else pure ()) >>= f)) := by
  constructor
  · intro full
    rw [if_pos full]
    rfl
  · intro room
    rw [if_neg room]
    exact rest

theorem guarded_countSessions (userId : String) {f : Unit → Async svc Response} (rest : Guarded svc (f ())) :
    Guarded svc (countSessions svc userId >>= f) := by
  intro answer answers
  refine ⟨fun refusing => refusing.elim,fun _ => ?_⟩
  cases answer with
  | error error => exact fun same => answers (congrArg Except.error same)
  | ok begun =>
    intro answer answers
    cases answer with
    | error error => exact ⟨fun refusing => refusing.elim,fun _ same => answers (congrArg Except.error same)⟩
    | ok rows => exact counted rows rest

theorem mild_passwordOf (userData : User) (loginUserDto : LoginUserDto) :
    Mild svc (passwordOf svc userData loginUserDto) := by
  unfold passwordOf storedPassword
  split
  · cases userData.email with
    | none => exact fun same => by cases same
    | some email =>
      refine mild_bind (mild_perform (by rintro userId ⟨⟩)) fun row => ?_
      cases row with
      | none => exact fun same => by cases same
      | some row => trivial
  · trivial

theorem mild_tokensOf (name : String) (userData : User) (password : Option String) :
    Mild svc (tokensOf svc name userData password) :=
  mild_bind (mild_perform (by rintro userId ⟨⟩)) fun _ => mild_perform (by rintro userId ⟨⟩)
theorem mild_storeSession (userData : User) (tokenDetails : TokenResponse) :
    Mild svc (storeSession svc userData tokenDetails) := by
  unfold storeSession ensureAccount
  split
  · refine mild_bind (mild_bind (mild_perform (by rintro userId ⟨⟩)) fun account => ?_) fun _ => ?_
    · exact mild_ite _ trivial (mild_perform (by rintro userId ⟨⟩))
    · exact mild_bind (mild_perform (by rintro userId ⟨⟩)) fun _ => trivial
  · exact fun same => by cases same
theorem guarded_login (loginUserDto : LoginUserDto) : Guarded svc (login svc loginUserDto) := by
  refine guarded_ite _ (fun same => by cases same) (guarded_bind (mild_perform (by rintro userId ⟨⟩)) fun userData => ?_)
  cases userData with
  | none => exact fun same => by cases same
  | some userData =>
    refine guarded_ite _ (fun same => by cases same) (guarded_ite _ (fun same => by cases same) ?_)
    refine guarded_countSessions _ (guarded_mild ?_)
    exact mild_bind (mild_passwordOf _ _) fun _ => mild_bind (mild_tokensOf _ _ _) fun _ => mild_storeSession _ _
theorem guarded_usernameLogin (loginUserDto : LoginUserDto) : Guarded svc (usernameLogin svc loginUserDto) := by
  refine guarded_bind (mild_perform (by rintro userId ⟨⟩)) fun userData => ?_
  cases userData with
  | none => exact fun same => by cases same
  | some userData =>
    refine guarded_ite _ (fun same => by cases same) ?_
    exact guarded_countSessions _ (guarded_mild (mild_bind (mild_tokensOf _ _ _) fun _ => mild_storeSession _ _))

theorem mild_lookup (payload : JwtStrategy.JwtPayload) : Mild svc (lookup svc payload) := by
  unfold lookup
  cases payload.clientId with
  | none =>
    refine mild_bind (mild_perform (by rintro userId ⟨⟩)) fun details => ?_
    cases details with
    | none => exact fun same => by cases same
    | some userId => trivial
  | some clientId =>
    refine mild_ite _ (mild_bind (mild_perform (by rintro userId ⟨⟩)) fun details => ?_) trivial
    rcases details with _ | _ | ⟨owner,rest⟩
    · exact fun same => by cases same
    · exact fun same => by cases same
    · trivial

theorem mild_validate (payload : JwtStrategy.JwtPayload) : Mild svc (validate svc payload) := by
  unfold validate
  cases payload.sid.filter (· ≠ "") with
  | none => exact mild_lookup payload
  | some sessionId =>
    refine mild_bind (mild_tryCatch (mild_perform (by rintro userId ⟨⟩)) fun _ => trivial) fun session => ?_
    exact mild_ite _ (fun same => by cases same) (mild_lookup payload)
theorem mild_serve (user : Option String) (request : Request) : Mild svc (serve svc user request) := by
  cases request with
  | signout sessions =>
    cases sessions with
    | none => trivial
    | some sessions => exact mild_bind (mild_perform (by rintro userId ⟨⟩)) fun _ => trivial
  | deleteSession sessionId => exact mild_bind (mild_perform (by rintro userId ⟨⟩)) fun _ => trivial
  | another => trivial
theorem guarded_program {input : Input} (serves : served input = true) : Guarded svc (program svc input) := by
  cases input with
  | login loginUserDto => exact guarded_login loginUserDto
  | usernameLogin loginUserDto => exact guarded_usernameLogin loginUserDto
  | refreshToken refreshToken => cases serves
  | request payload request => exact guarded_mild (mild_bind (mild_validate payload) fun user => mild_serve user request)

variable {process : Nat} {choice : Choice svc} {w after : World}
theorem handle_answers {answer : Except Failure (Ret svc c)}
    (handled : handle svc process c choice w = some (after,answer)) : answer ≠ .error .sessionLimitReached := by
  rintro rfl
  rcases handle_effect handled with ⟨-,-,⟨⟩⟩ | ⟨-,middle,-,-,carried⟩
  cases c with
  | generateToken name password userData =>
    simp only [carry,generate] at carried
    split at carried
    · cases carried
    · split at carried <;> cases carried
  | createSession row =>
    simp only [carry,create] at carried
    split at carried <;> cases carried
  | getAccessToken refreshToken =>
    simp only [carry,Option.bind_eq_some_iff] at carried
    obtain ⟨response,-,same⟩ := carried
    cases same
  | getSession sessionId => cases sessionId <;> cases carried
  | updateSessionToken refreshToken response expiresAt =>
    simp only [carry,update] at carried
    split at carried
    · cases carried
    · split at carried <;> cases carried
  | deleteSession refreshToken sessionId =>
    cases sessionId with
    | none => cases carried
    | some id =>
      simp only [carry,deleteFound] at carried
      split at carried <;> cases carried
  | deleteSessionBySessionId sessionId userId =>
    simp only [carry,deleteFound] at carried
    split at carried <;> cases carried
  | _ => cases carried

theorem stored_drop (gone : Session → Bool) (userId : String) :
    (stored (w.drop gone) userId).length ≤ (stored w userId).length := by
  simp only [stored,World.unexpired,World.drop]
  exact ((List.filter_sublist.filter _).filter _).length_le
theorem stored_later (milliseconds : Nat) (userId : String) :
    (stored { w with now := w.now + milliseconds } userId).length ≤ (stored w userId).length := by
  simp only [stored,World.unexpired]
  refine (List.Sublist.filter _ (List.monotone_filter_right _ fun row kept => ?_)).length_le
  simp only [Session.expired,Bool.and_eq_true,Bool.not_eq_true',Option.any_eq_false,decide_eq_false_iff_not] at kept ⊢
  refine ⟨kept.1,fun expiresAt at_ => ?_⟩
  have := kept.2 expiresAt at_
  omega

theorem stored_inserted {row : Session} (absent : ∀ other ∈ w.sessions, other.id ≠ row.id) (userId : String) :
    (stored (w.inserted row) userId).length =
      (stored w userId).length + if row.userId = userId ∧ row.expired w.now = false then 1 else 0 := by
  have others : ((w.unexpired userId).filter fun other => other.id ∈ row.id :: w.created) =
      (w.unexpired userId).filter fun other => other.id ∈ w.created := by
    refine List.filter_congr fun other there => ?_
    have apart := absent other (List.mem_of_mem_filter there)
    simp [apart]
  by_cases counts : row.userId = userId ∧ row.expired w.now = false
  · have kept : (w.inserted row).unexpired userId = row :: w.unexpired userId :=
      List.filter_cons_of_pos (by simp [counts.1,counts.2,World.inserted])
    simp only [stored,kept]
    rw [List.filter_cons_of_pos (by simp [World.inserted]),if_pos counts,List.length_cons]
    exact congrArg (fun rows => List.length rows + 1) others
  · have left : (w.inserted row).unexpired userId = w.unexpired userId :=
      List.filter_cons_of_neg (by simpa [World.inserted] using counts)
    simp only [stored,left,if_neg counts,Nat.add_zero]
    exact congrArg List.length others

theorem effect_stored (effect : Effect process w c after) (noRow : ∀ row, c ≠ .createSession row)
    (noTokens : ∀ refreshToken response expiresAt, c ≠ .updateSessionToken refreshToken response expiresAt)
    (userId : String) : (stored after userId).length ≤ (stored w userId).length := by
  cases effect with
  | dropped caller gone => exact stored_drop (w := w) gone userId
  | replaced state there => exact absurd rfl (noTokens _ _ _)
  | inserted absent => exact absurd rfl (noRow _)
  | _ => exact Nat.le_refl _

variable (svc) in
/-- What is left of a call: it is guarded, or was refused, and its tokens are not refreshed. -/
def Shape (input : Input) (p : Async svc Response) : Prop :=
  served input = true ∧ Only (Issues svc input) p ∧ (Guarded svc p ∨ p = .fail .sessionLimitReached)

theorem shape_program (process : Nat) (input : Input) (a b : World)
    (arrived : (sys svc served).arrive process input a = some b) : Shape svc input (program svc input) :=
  have serves := (Option.ite_none_right_eq_some.mp arrived).1
  ⟨serves,issues_program input,.inl (guarded_program serves)⟩
theorem shape_goes (input : Input) (c : Cmd svc) (process : Nat) (choice : Choice svc)
    (resume : Except Failure (Ret svc c) → Async svc Response) (a b : World) (answer : Except Failure (Ret svc c))
    (handled : (sys svc served).handle process c choice a = some (b,answer))
    (shape : Shape svc input (.await c resume)) :
    Shape svc input (resume answer) := by
  obtain ⟨serves,issues,guarded | refused⟩ := shape
  · refine ⟨serves,issues.2 answer,?_⟩
    by_cases refusing : Refusing svc c answer
    · exact .inr ((guarded answer (handle_answers handled)).1 refusing)
    · exact .inl ((guarded answer (handle_answers handled)).2 refusing)
  · cases refused
theorem ended_fail {p : Async svc Response} {error : Failure} (ended : (Thread.live p).ended = some (.error error)) :
    p = .fail error := by
  cases p with
  | ret value => cases ended
  | fail error' => cases ended; rfl
  | await command resume => cases ended

variable {m next : Machine (Cmd svc) (Ret svc) Failure Response World} {a : Action (Choice svc) Input Env}
theorem refused_others (world : World) {thread : Thread (Cmd svc) (Ret svc) Failure Response}
    (limited : Limited svc m)
    (counted : ∀ other, other ≠ process → world.counted other = m.world.counted other)
    (crowded : ∀ other userId, other ≠ process → m.world.crowded other userId = true → world.crowded other userId = true)
    (own : thread.ended = some (.error .sessionLimitReached) →
      ∃ userId, world.counted process = some userId ∧ world.crowded process userId = true) :
    ∀ other, (Function.update m.thread process thread other).ended = some (.error .sessionLimitReached) →
      ∃ userId, world.counted other = some userId ∧ world.crowded other userId = true := by
  intro other ended
  by_cases same : other = process
  · subst same
    rw [Function.update_self] at ended
    exact own ended
  · rw [Function.update_of_ne same] at ended
    obtain ⟨userId,counts,crowds⟩ := limited.refused other ended
    exact ⟨userId,(counted other same).trans counts,crowded other userId same crowds⟩

theorem crowded_observed {limit : Nat} (other : Nat) (userId : String) :
    (w.observed limit).crowded other userId = (w.crowded other userId || decide (limit ≤ (w.unexpired userId).length)) :=
  rfl
theorem effect_crowded (effect : Effect process w c after) : after.crowded = w.crowded := by
  cases effect <;> rfl
theorem effect_counted (effect : Effect process w c after) (other : Nat) (apart : other ≠ process) :
    after.counted other = w.counted other := by
  cases effect with
  | counted userId => exact Function.update_of_ne apart _ _
  | _ => rfl

/-- A step of a call keeps the limit exactly when there is room for what it carries out. -/
theorem advance_limited {command : Cmd svc} {resume : Except Failure (Ret svc command) → Async svc Response}
    {answer : Except Failure (Ret svc command)} {world : World} (limited : Limited svc m)
    (following : Following World.calls (Shape svc) m) (stood : m.thread process = .live (.await command resume))
    (handled : handle svc process command choice m.world = some (world,answer)) :
    Limited svc ⟨world,Function.update m.thread process (.live (resume answer))⟩ ↔
      (choice.fails = false → Room svc process m.world command) := by
  obtain ⟨input,-,serves,issues,guarded | refused⟩ := following process _ stood
  swap
  · cases refused
  have plain : ¬Refusing svc command answer →
      (Thread.live (resume answer)).ended ≠ some (.error .sessionLimitReached) := by
    intro other ended
    have goes := (guarded answer (handle_answers handled)).2 other
    rw [ended_fail ended] at goes
    exact goes rfl
  rcases handle_effect handled with ⟨fails,rfl,failed⟩ | ⟨fails,middle,effect,rfl,carried⟩
  · refine iff_of_true ⟨limited.capped,?_⟩ fun succeeds => absurd (fails.symm.trans succeeds) (by decide)
    refine refused_others _ limited (fun _ _ => rfl) (fun _ _ _ crowds => crowds) fun ended => absurd ended (plain ?_)
    rw [failed]
    exact fun refusing => by cases command <;> exact refusing
  · have others : ∀ own : (Thread.live (resume answer)).ended = some (.error .sessionLimitReached) →
        ∃ userId, middle.counted process = some userId ∧
          (middle.observed svc.SESSIONS_LIMIT).crowded process userId = true,
        ∀ other, (Function.update m.thread process (.live (resume answer)) other).ended =
            some (.error .sessionLimitReached) →
          ∃ userId, middle.counted other = some userId ∧
            (middle.observed svc.SESSIONS_LIMIT).crowded other userId = true := by
      intro own
      refine refused_others (middle.observed svc.SESSIONS_LIMIT) limited
        (fun other apart => (effect_counted effect other apart : middle.counted other = _)) ?_ own
      intro other userId apart crowds
      rw [crowded_observed,effect_crowded effect,crowds]
      rfl
    by_cases creates : ∃ row, command = .createSession row
    · -- There is room for the row, or it is expired, or it is not stored.
      obtain ⟨row,rfl⟩ := creates
      have refused := others fun ended => absurd ended (plain id)
      have capped : (∀ userId, (stored middle userId).length ≤ svc.SESSIONS_LIMIT) ↔
          Room svc process m.world (.createSession row) := by
        simp only [carry,create] at carried
        by_cases any : (m.world.sessions.any fun other => other.id = row.id) = true
        · rw [if_pos any] at carried
          cases carried
          obtain ⟨other,there,same⟩ := List.any_eq_true.mp any
          exact iff_of_true limited.capped fun absent => absurd (by simpa using same) (absent other there)
        · rw [if_neg any] at carried
          cases carried
          have absent : ∀ other ∈ m.world.sessions, other.id ≠ row.id := by simpa using any
          constructor
          · intro capped _ unexpired
            have full := capped row.userId
            rw [stored_inserted absent,if_pos ⟨rfl,unexpired⟩] at full
            omega
          · intro fits userId
            rw [stored_inserted absent]
            by_cases counts : row.userId = userId ∧ row.expired m.world.now = false
            · rw [if_pos counts]
              obtain ⟨rfl,unexpired⟩ := counts
              have room := fits absent unexpired
              omega
            · rw [if_neg counts]
              exact limited.capped userId
      exact ⟨fun limited _ => capped.mp limited.capped,fun fits => ⟨capped.mpr (fits fails),refused⟩⟩
    by_cases counts : ∃ userId, command = .fetchUserSessions userId
    · -- A refusal is of the user whose sessions are counted now.
      obtain ⟨userId,rfl⟩ := counts
      cases carried
      have crowded : ∀ user, World.crowded (World.observed svc.SESSIONS_LIMIT
          { m.world with counted := Function.update m.world.counted process (some userId) }) process user = true ↔
          m.world.crowded process user = true ∨ svc.SESSIONS_LIMIT ≤ (m.world.unexpired user).length := by
        intro user
        rw [crowded_observed]
        simp only [Bool.or_eq_true,decide_eq_true_eq]
        exact Iff.rfl
      constructor
      · intro limited _ full
        have refusal := (guarded _ (handle_answers handled)).1 full
        obtain ⟨user,counted,crowds⟩ := limited.refused process (by
          simp only [Function.update_self,refusal]
          rfl)
        have same : Function.update m.world.counted process (some userId) process = some user := counted
        rw [Function.update_self] at same
        cases same
        exact (crowded userId).mp crowds
      · intro fits
        refine ⟨limited.capped,others fun ended => ?_⟩
        have full : Refusing svc (.fetchUserSessions userId)
            (.ok (m.world.sessions.filter (·.userId = userId))) := by
          by_contra room
          exact plain room ended
        exact ⟨userId,Function.update_self _ _ _,(crowded userId).mpr (fits fails full)⟩
    · -- Anything else counts nothing and stores nothing.
      have noRow : ∀ row, command ≠ .createSession row := fun row same => creates ⟨row,same⟩
      have noTokens : ∀ refreshToken response expiresAt,
          command ≠ .updateSessionToken refreshToken response expiresAt := by
        rintro refreshToken response expiresAt rfl
        obtain rfl : input = .refreshToken refreshToken := issues.1
        cases serves
      have fits : Room svc process m.world command := by
        cases command with
        | createSession row => exact absurd ⟨row,rfl⟩ creates
        | fetchUserSessions userId => exact absurd ⟨userId,rfl⟩ counts
        | _ => trivial
      refine iff_of_true ⟨fun userId => ?_,others fun ended => absurd ended (plain ?_)⟩ fun _ => fits
      · exact (effect_stored effect noRow noTokens userId).trans (limited.capped userId)
      · exact not_refusing (fun userId same => counts ⟨userId,same⟩) answer

/-- A step keeps the limits exactly when there is room for what it does. -/
theorem step_limited (following : Following World.calls (Shape svc) m) (limited : Limited svc m)
    (taken : step (sys svc served) m a = some next) : Limited svc next ↔ Roomy svc m a := by
  cases a with
  | start process input =>
    obtain ⟨-,world,arrived,rfl⟩ := step_start taken
    obtain ⟨serves,same⟩ := Option.ite_none_right_eq_some.mp arrived
    obtain rfl := Option.some.inj same
    refine iff_of_true ⟨limited.capped,?_⟩ trivial
    refine refused_others _ limited (fun _ _ => rfl) ?_ fun ended => ?_
    · intro other userId apart crowds
      exact (congrFun (Function.update_of_ne apart _ _) userId).trans crowds
    · have refused : Guarded svc (.fail .sessionLimitReached) :=
        (ended_fail ended : program svc input = _) ▸ guarded_program serves
      exact absurd rfl refused
  | advance process choice =>
    obtain ⟨command,resume,world,answer,stood,handled,rfl⟩ := step_advance taken
    rw [advance_limited limited following stood handled]
    constructor
    · intro fits command' resume' at_
      cases stood.symm.trans at_
      exact fits
    · intro fitting
      exact fitting command resume stood
  | crash process =>
    obtain ⟨-,rfl⟩ := step_crash taken
    refine iff_of_true ⟨limited.capped,?_⟩ trivial
    exact refused_others _ limited (fun _ _ => rfl) (fun _ _ _ crowds => crowds) fun ended => by cases ended
  | environment event =>
    obtain ⟨world,happened,rfl⟩ := step_environment taken
    obtain ⟨after,moved,rfl⟩ := Option.map_eq_some_iff.mp happened
    have kept : (∀ userId, (stored after userId).length ≤ (stored m.world userId).length) ∧
        after.counted = m.world.counted ∧ after.crowded = m.world.crowded := by
      rcases environment_cases moved with ⟨milliseconds,rfl⟩ | ⟨started,purge,-,rfl | rfl⟩
      · exact ⟨stored_later milliseconds,rfl,rfl⟩
      · exact ⟨fun _ => Nat.le_refl _,rfl,rfl⟩
      · exact ⟨stored_drop (w := { m.world with purges := m.world.purges.eraseIdx started }) (purged purge),rfl,rfl⟩
    refine iff_of_true ⟨fun userId => (kept.1 userId).trans (limited.capped userId),?_⟩ trivial
    intro process ended
    obtain ⟨userId,counts,crowds⟩ := limited.refused process ended
    refine ⟨userId,(congrFun kept.2.1 process).trans counts,?_⟩
    rw [crowded_observed,kept.2.2,crowds]
    rfl

/-- A session is stored for the user that was counted, where the count was below the limit. -/
def Counts (told : Option (String × Nat)) : Cmd svc → Prop
  | .createSession row => ∃ rows < svc.SESSIONS_LIMIT, told = some (row.userId,rows)
  | _ => True
def quiet : Cmd svc → Bool
  | .fetchUserSessions _ | .createSession _ => false
  | _ => true
theorem quiet_of_issues {input : Input} (other : input.signsIn = false) (c : Cmd svc) (issues : Issues svc input c) :
    quiet c = true := by
  cases c with
  | fetchUserSessions userId => exact absurd (other.symm.trans issues) (by decide)
  | createSession row => exact absurd (other.symm.trans issues.1) (by decide)
  | _ => rfl
theorem recalls_quiet {p : Prog (Cmd svc) (Ret svc) Failure β} {told : Option (String × Nat)}
    {ends : Except Failure β → Option (String × Nat) → Prop} (only : Only (quiet · = true) p)
    (ended : ∀ result, ends result told) : Recalls hears Counts ends p told := by
  refine recalls_only (fun c quiet_ answer told => ?_) (fun c quiet_ told => ?_) only ended
  · cases c with
    | fetchUserSessions | createSession => cases quiet_
    | _ => rfl
  · cases c with
    | fetchUserSessions | createSession => cases quiet_
    | _ => trivial
theorem recalls_then {p : Prog (Cmd svc) (Ret svc) Failure β} {f : β → Async svc Response} {told : Option (String × Nat)}
    (only : Only (quiet · = true) p) (next : ∀ value, Recalls hears Counts (fun _ _ => True) (f value) told) :
    Recalls hears Counts (fun _ _ => True) (p >>= f) told := by
  refine (recalls_bind _ _ _).mpr (recalls_quiet only ?_)
  rintro (error | value)
  · trivial
  · exact next value
theorem recalls_countSessions {userId : String} {told : Option (String × Nat)} {f : Unit → Async svc Response}
    (rest : ∀ rows < svc.SESSIONS_LIMIT, Recalls hears Counts (fun _ _ => True) (f ()) (some (userId,rows))) :
    Recalls hears Counts (fun _ _ => True) (countSessions svc userId >>= f) told := by
  refine (recalls_bind _ _ _).mpr ((recalls_bind _ _ _).mpr ((recalls_call _ _).mpr ⟨trivial,?_⟩))
  rintro (error | ⟨⟩)
  · trivial
  refine (recalls_bind _ _ _).mpr ((recalls_call _ _).mpr ⟨trivial,?_⟩)
  rintro (error | (rows : List Session))
  · trivial
  by_cases full : svc.SESSIONS_LIMIT ≤ rows.length
  · simp only [if_pos full]
    trivial
  · simp only [if_neg full]
    exact rest rows.length (Nat.lt_of_not_le full)

theorem recalls_signIn {rows : Nat} (room : rows < svc.SESSIONS_LIMIT) (name : String) (userData : User)
    (password : Option String) : Recalls hears Counts (fun _ _ => True)
      (tokensOf svc name userData password >>= fun tokens => storeSession svc userData tokens)
      (some (userData.id,rows)) := by
  refine recalls_then (only_bind ((only_call _).mpr rfl) fun _ => (only_call _).mpr rfl) fun tokens => ?_
  unfold storeSession
  split
  · refine recalls_then (only_mono (@quiet_of_issues _ (.refreshToken "") rfl) (issues_ensureAccount _)) fun _ => ?_
    refine (recalls_bind _ _ _).mpr ((recalls_call _ _).mpr ⟨⟨rows,room,rfl⟩,?_⟩)
    rintro (error | ⟨⟩) <;> trivial
  · trivial

/-- A session is stored only by a call that has counted the user's below the limit. -/
theorem recalls_program {input : Input} (serves : served input = true) :
    Recalls hears Counts (fun _ _ => True) (program svc input) none := by
  cases input with
  | refreshToken refreshToken => cases serves
  | request payload request =>
    exact recalls_quiet (only_mono (quiet_of_issues rfl) (issues_program (.request payload request))) fun _ => trivial
  | login loginUserDto =>
    change Recalls hears Counts (fun _ _ => True) (login svc loginUserDto) none
    unfold login
    dsimp only
    split
    · trivial
    refine recalls_then ((only_call _).mpr rfl) fun userData => ?_
    cases userData with
    | none => trivial
    | some userData =>
      dsimp only
      split
      · trivial
      split
      · trivial
      refine recalls_countSessions fun rows room => recalls_then ?_ fun password => recalls_signIn room _ _ _
      exact only_ite _ (only_mono (@quiet_of_issues _ (.refreshToken "") rfl) (issues_storedPassword _)) trivial
  | usernameLogin loginUserDto =>
    change Recalls hears Counts (fun _ _ => True) (usernameLogin svc loginUserDto) none
    refine recalls_then ((only_call _).mpr rfl) fun userData => ?_
    cases userData with
    | none => trivial
    | some userData =>
      dsimp only
      split
      · trivial
      exact recalls_countSessions fun rows room => recalls_signIn room _ _ _

/-- What the calls know of their counts: as long as no other sign-in stored a session of the user, there
    are no more of them than were counted. -/
structure Counted (s : Machine (Cmd svc) (Ret svc) Failure Response World × (Nat → Option (String × Nat))) : Prop where
  following : Following World.calls (Shape svc) s.1
  recalling : Recalling hears Counts s
  counted : ∀ process userId rows, s.2 process = some (userId,rows) → s.1.world.counted process = some userId
  kept : ∀ process userId rows, s.2 process = some (userId,rows) → s.1.world.raced process = false →
    (stored s.1.world userId).length ≤ rows

variable {s t : Machine (Cmd svc) (Ret svc) Failure Response World × (Nat → Option (String × Nat))}
theorem unexpired_of_none {userId : String}
    (none_ : ¬∃ row ∈ w.sessions, row.userId = userId ∧ row.expired w.now = true) :
    w.unexpired userId = w.sessions.filter (·.userId = userId) := by
  refine List.filter_congr fun row there => ?_
  by_cases mine : row.userId = userId
  · have fresh : row.expired w.now = false := by
      by_contra expired
      exact none_ ⟨row,there,mine,Bool.not_eq_false _ ▸ expired⟩
    simp [mine,fresh]
  · simp [mine]

theorem room_iff (counted : Counted s) {process : Nat} {command : Cmd svc}
    {resume : Except Failure (Ret svc command) → Async svc Response}
    (stood : s.1.thread process = .live (.await command resume)) :
    Fits svc process (s.2 process) s.1.world command ↔ Room svc process s.1.world command := by
  cases command with
  | createSession row =>
    obtain ⟨rows,below,told⟩ := (counted.recalling process _ stood).1
    constructor
    · intro fits absent unexpired
      by_cases raced : s.1.world.raced process = true
      · exact fits (row.userId,rows) told raced absent unexpired
      · exact (counted.kept process row.userId rows told (Bool.eq_false_iff.mpr raced)).trans_lt below
    · intro room count mine _ absent unexpired
      obtain rfl := Option.some.inj (told.symm.trans mine)
      exact room absent unexpired
  | fetchUserSessions userId =>
    constructor
    · intro fits full
      by_cases expired : ∃ row ∈ s.1.world.sessions, row.userId = userId ∧ row.expired s.1.world.now = true
      · exact fits expired full
      · exact .inr (unexpired_of_none expired ▸ full)
    · exact fun room _ => room
  | _ => exact Iff.rfl
theorem fitting_iff (counted : Counted s) (a : Action (Choice svc) Input Env) : Fitting svc s a ↔ Roomy svc s.1 a := by
  cases a with
  | advance process choice =>
    constructor
    · exact fun fitting command resume stood fine => (room_iff counted stood).mp (fitting command resume stood fine)
    · exact fun roomy command resume stood fine => (room_iff counted stood).mpr (roomy command resume stood fine)
  | _ => exact Iff.rfl

/-- Sessions that only become fewer, and counts and races as they were. -/
theorem counted_fewer {told : Nat → Option (String × Nat)} {world : World}
    (following : Following World.calls (Shape svc) next) (recalling : Recalling hears Counts (next,told))
    (counted : Counted s) (world_ : next.world = world)
    (same : ∀ process count, told process = some count → s.2 process = some count)
    (counts : world.counted = s.1.world.counted) (races : world.raced = s.1.world.raced)
    (fewer : ∀ userId, (stored world userId).length ≤ (stored s.1.world userId).length) : Counted (next,told) := by
  subst world_
  refine ⟨following,recalling,fun process userId rows mine => ?_,fun process userId rows mine free => ?_⟩
  · exact (congrFun counts process).trans (counted.counted process userId rows (same process _ mine))
  · exact (fewer userId).trans
      (counted.kept process userId rows (same process _ mine) ((congrFun races process).symm.trans free))

/-- What is noted of a login is what it has counted itself. -/
theorem step_counted (counted : Counted s) (taken : hearing (sys svc served) uncounted hears s a = some t) :
    Counted t := by
  obtain ⟨stepped,noted⟩ := noting_cases taken
  have following := step_following traced shape_program shape_goes counted.following stepped
  have recalling : Recalling hears Counts t := step_recalling
    (fun process input a b arrived => recalls_program (Option.ite_none_right_eq_some.mp arrived).1)
    counted.recalling taken
  obtain ⟨n,memory⟩ := t
  dsimp only at stepped noted following
  cases a with
  | start process input =>
    obtain ⟨-,world,arrived,rfl⟩ := step_start stepped
    obtain ⟨serves,same⟩ := Option.ite_none_right_eq_some.mp arrived
    obtain rfl := Option.some.inj same
    refine counted_fewer following recalling counted rfl (fun other count mine => ?_) rfl rfl fun _ => Nat.le_refl _
    rw [noted,told] at mine
    by_cases same : other = process
    · subst same
      rw [Function.update_self] at mine
      cases mine
    · rwa [Function.update_of_ne same] at mine
  | crash process =>
    obtain ⟨-,rfl⟩ := step_crash stepped
    have silent : memory = s.2 := noted
    exact counted_fewer following recalling counted rfl (fun other count mine => silent ▸ mine) rfl rfl
        fun _ => Nat.le_refl _
  | environment event =>
    obtain ⟨world,happened,rfl⟩ := step_environment stepped
    obtain ⟨after,moved,rfl⟩ := Option.map_eq_some_iff.mp happened
    have silent : memory = s.2 := noted
    rcases environment_cases moved with ⟨milliseconds,rfl⟩ | ⟨started,purge,-,rfl | rfl⟩
    · exact counted_fewer following recalling counted rfl (fun other count mine => silent ▸ mine) rfl rfl
        (stored_later (w := s.1.world) milliseconds)
    · exact counted_fewer following recalling counted rfl (fun other count mine => silent ▸ mine) rfl rfl
        fun _ => Nat.le_refl _
    · exact counted_fewer following recalling counted rfl (fun other count mine => silent ▸ mine) rfl rfl
        (stored_drop (w := { s.1.world with purges := s.1.world.purges.eraseIdx started }) (purged purge))
  | advance process choice =>
    obtain ⟨command,resume,world,answer,stood,handled,rfl⟩ := step_advance stepped
    have heard : memory = Function.update s.2 process (hears command answer (s.2 process)) :=
      noted.trans (told_advance stood handled)
    have unheard (quiet_ : hears command answer (s.2 process) = s.2 process) : memory = s.2 := by
      rw [heard,quiet_,Function.update_eq_self]
    rcases handle_effect handled with ⟨-,rfl,rfl⟩ | ⟨fails,middle,effect,rfl,carried⟩
    · have silent : memory = s.2 := unheard (by cases command <;> rfl)
      exact counted_fewer following recalling counted rfl (fun other count mine => silent ▸ mine) rfl rfl
          fun _ => Nat.le_refl _
    by_cases counts : ∃ userId, command = .fetchUserSessions userId
    · obtain ⟨userId,rfl⟩ := counts
      cases carried
      refine ⟨following,recalling,fun other user rows mine => ?_,fun other user rows mine free => ?_⟩
      · change memory other = some (user,rows) at mine
        rw [heard] at mine
        change Function.update s.1.world.counted process (some userId) other = some user
        by_cases same : other = process
        · subst same
          rw [Function.update_self] at mine ⊢
          cases mine
          rfl
        · rw [Function.update_of_ne same] at mine ⊢
          exact counted.counted other user rows mine
      · change memory other = some (user,rows) at mine
        rw [heard] at mine
        change Function.update s.1.world.raced process false other = false at free
        change (stored s.1.world user).length ≤ rows
        by_cases same : other = process
        · subst same
          rw [Function.update_self] at mine
          cases mine
          exact ((List.filter_sublist.length_le).trans
            (List.monotone_filter_right _ fun row mine => (Bool.and_eq_true_iff.mp mine).1).length_le)
        · rw [Function.update_of_ne same] at mine free
          exact counted.kept other user rows mine free
    have silent : memory = s.2 := by
      refine unheard ?_
      cases command with
      | fetchUserSessions userId => exact absurd ⟨userId,rfl⟩ counts
      | _ => rfl
    by_cases creates : ∃ row, command = .createSession row
    · obtain ⟨row,rfl⟩ := creates
      cases effect with
      | nothing =>
        exact counted_fewer following recalling counted rfl (fun other count mine => silent ▸ mine) rfl rfl
          fun _ => Nat.le_refl _
      | dropped caller gone =>
        exact counted_fewer following recalling counted rfl (fun other count mine => silent ▸ mine) rfl rfl
          (stored_drop (w := s.1.world) gone)
      | inserted absent =>
        refine ⟨following,recalling,fun other user rows mine => counted.counted other user rows (silent ▸ mine),
          fun other user rows mine free => ?_⟩
        have told_ : s.2 other = some (user,rows) := silent ▸ mine
        obtain ⟨unraced,apart⟩ := Bool.or_eq_false_iff.mp free
        have different : row.userId ≠ user := fun same =>
          of_decide_eq_false apart ((counted.counted other user rows told_).trans (congrArg some same.symm))
        change (stored (s.1.world.inserted row) user).length ≤ rows
        rw [stored_inserted absent,if_neg fun both => different both.1]
        exact counted.kept other user rows told_ unraced
    · have noTokens : ∀ refreshToken response expiresAt,
          command ≠ .updateSessionToken refreshToken response expiresAt := by
        rintro refreshToken response expiresAt rfl
        obtain ⟨input,-,serves,issues,-⟩ := counted.following process _ stood
        obtain rfl : input = .refreshToken refreshToken := issues.1
        cases serves
      have noRow : ∀ row, command ≠ .createSession row := fun row same => creates ⟨row,same⟩
      have unchanged : middle.counted = s.1.world.counted ∧ middle.raced = s.1.world.raced := by
        cases effect with
        | counted userId => exact absurd ⟨userId,rfl⟩ counts
        | inserted absent => exact absurd rfl (noRow _)
        | _ => exact ⟨rfl,rfl⟩
      have fewer := effect_stored effect noRow noTokens
      exact counted_fewer following recalling counted rfl
          (fun other count mine => silent ▸ mine) unchanged.1 unchanged.2 fewer

/-- In the runs of sign-ins, deletions and passing time the limit is kept, and a refusal is
    one of a user at the limit, exactly where all steps fit. -/
theorem limit_iff (svc : Services) (now : Nat) (sessions : List Session)
    {actions : List (Action (Choice svc) Input Env)} {m : Machine (Cmd svc) (Ret svc) Failure Response World}
    (reached : run (step (sys svc served)) (Machine.initial (.initial now sessions)) actions = some m) :
    (∀ first rest u, actions = first ++ rest →
        run (step (sys svc served)) (Machine.initial (.initial now sessions)) first = some u → Limited svc u) ↔
      Along (hearing (sys svc served) uncounted hears) (Fitting svc)
        (Machine.initial (.initial now sessions),fun _ => none) actions := by
  have start : Limited svc (Machine.initial (.initial now sessions)) := by
    refine ⟨fun userId => ?_,fun process ended => by cases ended⟩
    simp [stored,World.initial,Machine.initial]
  have recalled : Along (hearing (sys svc served) uncounted hears) (Fitting svc)
        (Machine.initial (.initial now sessions),fun _ => none) actions ↔
      Along (step (sys svc served)) (Roomy svc) (Machine.initial (.initial now sessions)) actions :=
    along_noting (I := Counted) (fun _ a counted _ => fitting_iff counted a)
        (fun _ _ _ counted _ taken => step_counted counted taken)
      ⟨following_initial _,recalling_initial _ _,by rintro _ _ _ ⟨⟩,by rintro _ _ _ ⟨⟩⟩ reached
  rw [recalled]
  refine wanted_iff_along (I := fun u => Following World.calls (Shape svc) u ∧ Limited svc u)
      (fun _ both => both.2) ?_ ?_
    ⟨following_initial _,start⟩ reached
  · exact fun u a v both taken roomy => ⟨step_following traced shape_program shape_goes both.1 taken,
      (step_limited both.1 both.2 taken).mpr roomy⟩
  · exact fun u a v both taken lost limited => lost ((step_limited both.1 both.2 taken).mp limited)

end
def firstTokens : TokenResponse := ⟨some "a1",some "r1",some "s1"⟩

def secondTokens : TokenResponse := ⟨some "a2",some "r2",some "s2"⟩
def aliceLogin : Input := .login ⟨"alice@acme.org",some "secret",none⟩
def goesOn (process : Nat) (tokens : TokenResponse) : Action (Choice realm) Input Env :=
  .advance process (answers alice tokens)
def twoLogins : List (Action (Choice realm) Input Env) :=
  [.start 0 aliceLogin,.start 1 aliceLogin] ++ List.replicate 3 (goesOn 0 firstTokens) ++
    List.replicate 3 (goesOn 1 secondTokens) ++ List.replicate 4 (goesOn 0 firstTokens) ++
    List.replicate 4 (goesOn 1 secondTokens)

theorem limit_iff_twoLogins :
    (∀ first rest u, twoLogins = first ++ rest →
        run (step (sys realm served)) (Machine.initial (.initial 0 [])) first = some u → Limited realm u) ↔
      Along (hearing (sys realm served) uncounted hears) (Fitting realm)
        (Machine.initial (.initial 0 []),fun _ => none) twoLogins := by
  have taken : (run (step (sys realm served)) (Machine.initial (.initial 0 [])) twoLogins).isSome = true := by rfl
  obtain ⟨m,reached⟩ := Option.isSome_iff_exists.mp taken
  exact limit_iff realm 0 [] reached
/-- The user has two sessions where one is the limit. -/
theorem limit_exceeded :
    ∃ m, run (step (sys realm served)) (Machine.initial (.initial 0 [])) twoLogins = some m ∧ ¬Limited realm m := by
  have taken : (run (step (sys realm served)) (Machine.initial (.initial 0 [])) twoLogins).map
      (fun m => (stored m.world "alice").length) = some 2 := by rfl
  obtain ⟨m,reached,two⟩ := Option.map_eq_some_iff.mp taken
  refine ⟨m,reached,fun limited => ?_⟩
  have capped : (stored m.world "alice").length ≤ 1 := limited.capped "alice"
  omega

end Ngotag.SessionLimit
